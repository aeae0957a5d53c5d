import FrametimeCfg.Verified.InterruptReobservation
import FrametimeCfg.Windows.LiveVerification

/-!
# The planner and the live dispatch

The planner answers from a table; the live backend asks one layer after the other, and the
last of them refuses the actions that have a transaction of their own.  `Ready` says which
answers of the host each action needs.  On a host that is ready, every action that a layer
answers gets an answer that the engine goes on with; the actions that only the last layer
sees are refused on every host.

* `answered_of_ready` — each action, by its layer.
* `dispatches_iff` — where the live dispatch follows the plan.
* `reachable_iff` — which mutations the engine reaches on some host.
-/

namespace FrametimeCfg.Verified.LiveDispatch

open FrametimeCfg.Domain FrametimeCfg.Windows.LiveBackend
open FrametimeCfg.Windows hiding discoverCs2InstallFromHkcu discoverCs2RegistryBinding
open FrametimeCfg.Lib.Checks
open FrametimeCfg.Lib.Distinct
open FrametimeCfg.Lib.Effect
open FrametimeCfg.Lib.FileCalls
open FrametimeCfg.Lib.OrderedMap
open FrametimeCfg.Lib.Text
open FrametimeCfg.Verified.InterruptReobservation

/-! ## Hosts that answer -/

/-- The question has an answer in the state. -/
def Replies {σ ε α : Type} (f : σ → Except ε α) (s : σ) : Prop := ∃ a, f s = .ok a

/-- An answer of the inspection that the engine goes on with. -/
def goesOn : Inspection → Bool
  | .satisfied | .needsApply | .inapplicable => true
  | .advisory _ | .unsupported => false

section

variable {σ Session Profile : Type} (n : Native σ Session Profile)

/-- The calls of NVAPI that look for the profile return. -/
structure NvapiAnswers : Prop where
  load : Answers n.loadNvapi
  initializeApi : Answers n.drs.initializeApi
  createSession : Answers n.drs.createSession
  destroySession : ∀ session, Answers (n.drs.destroySession session)
  loadSettings : ∀ session, Answers (n.drs.loadSettings session)
  findProfileByName : ∀ session name, Answers (n.drs.findProfileByName session name)
  profileName : ∀ session profile, Answers (n.drs.profileName session profile)
  findApplicationProfile :
    ∀ session application, Answers (n.drs.findApplicationProfile session application)

/-- The values of HKCU, Steam and the directories of CS2 can be read. -/
structure Cs2Replies (s : σ) : Prop where
  registry : ∀ change, Replies (n.registryRead change) s
  install : ∀ steamPath, Replies (n.discoverCs2Install steamPath) s
  canonical : ∀ path, Replies (n.canonicalize path) s
  controller : ∀ steamPath install, n.discoverCs2Install steamPath s = .ok (some install) →
    ∃ controller, Cs2ConfigController.new install = .ok controller
  files : ∀ install, Replies (n.newCs2ConfigFs install) s
  time : validTimestamp (String.ofList ((n.timestamp s).toList.take 16)) = true

/-- The native ports behind an action answer normally, and its inputs and evidence are
there. -/
def Ready (s : Live σ) : Action → Prop
  | .observeConfigState => s.config.validate = .ok () ∧ s.state.validate = .ok () ∧
      eqIgnoreAsciiCase s.state.workDir WINDOWS_WORK_DIR = true
  | .observeGpuInventory => s.hardware.displayAdapters ≠ []
  | .observeChipsetDriver => Replies (captureChipsetInventory n) s.host
  | .observeMemoryTopology => Replies (captureMemoryTopology n) s.host
  | .baselineBenchmark => baselineBenchmarkIsPersisted n s.host = true
  | .fpsCapInfo =>
      (s.state.fpsCap = 0 ∧ F64.feq s.state.avgFps F64.zero = true) ∨
      (s.state.avgFps.isFinite = true ∧ F64.fle s.state.avgFps F64.zero = false ∧
        s.config.validate = .ok () ∧
        measuredFpsCap s.config.fpsCap.capStrategy (fpsCapCapture s.state) =
          some s.state.fpsCap)
  | .gpuDriverCleanPreparation => Replies n.inspectDriverCleanupPreparation s.host
  | .nvidiaDriverDownloadPreparation =>
      ∃ transaction, loadDriverTransactionAt n s.host = .ok (some transaction)
  | .nvidiaProfilePreparation => NvapiAnswers n
  | .msiPreparation => Replies (discoverNativeMsiBatches n.interrupts) s.host
  | .nicAffinityPreparation => Replies (discoverNativeNicAffinity n.interrupts) s.host
  | .msiInterrupts => ∃ receipt devices batches,
      storedReceipt n "P1:21" s.host = .ok receipt ∧ receipt.subject = .msiDeviceSet devices ∧
      discoverNativeMsiBatches n.interrupts s.host = .ok batches ∧
      sameStableDeviceSet devices (sortedMsiDevices batches) = true ∧
      ∀ key name, ∃ value, n.interrupts.readInterruptValue s.host key name = .ok value
  | .nicInterruptAffinity =>
      ∃ receipt adapter processorGroup logicalProcessorCount targetProcessor assignmentMask
        binding,
      storedReceipt n "P1:22" s.host = .ok receipt ∧
      receipt.subject = .nicAffinityProposal adapter processorGroup logicalProcessorCount
        targetProcessor assignmentMask ∧
      discoverNativeNicAffinity n.interrupts s.host = .ok binding ∧
      sameNicProposal adapter processorGroup logicalProcessorCount targetProcessor
        assignmentMask binding = true ∧
      ∀ key name, ∃ value, n.interrupts.readInterruptValue s.host key name = .ok value
  | .registryBatch _ => ∀ change, Replies (n.registryRead change) s.host
  | .pagefile => ∃ inventory t, nativePagefileInventory n s.host = (.ok inventory, t) ∧
      inventory.physicalRamMb ≠ 0 ∧
      (s.state.pagefileMb ≠ 0 → ∃ binding,
        capturePagefileBinding "P1:8" s.state inventory = .ok binding)
  | .cs2Registry _ => Replies (enumeratePresentStatusOkPci n.interrupts) s.host ∧
      Cs2Replies n s.host
  | .cs2Config => Cs2Replies n s.host
  | .finalChecklistGuide => ∃ receipts, n.hagsReceipts s.host = .ok receipts ∧
      ∀ receipt ∈ receipts,
        (hagsPendingVerification (n.compatibleAdapterStates s.host) receipt).status = .ok
  | _ => True

/-- The host and the backend are ready for the action on the selected branch. -/
structure Normal (branch : GpuBranch) (action : Action) (s : Live σ) : Prop where
  elevated : n.requireElevation s.host = .ok ()
  branch : s.configuredGpuBranch = some branch
  ready : Ready n s action

/-- The engine goes on with the answer of the inspection. -/
def Dispatches (operation : Operation) (s : Live σ) : Prop :=
  ∃ inspection t, inspect n operation s = (.ok inspection, t) ∧ goesOn inspection = true

end

section

variable {σ Session Profile : Type} {n : Native σ Session Profile} {s : Live σ}
  {branch : GpuBranch} {operation : Operation} {action : Action}

/-! ## The planner -/

/-- What the planner works on is applicable to the branch, and its action supported. -/
theorem planner_inspects
    (h : PlannerBackend.inspect branch.number operation = .ok .needsApply ∨
      PlannerBackend.inspect branch.number operation = .ok .satisfied) :
    (planForStep operation.step branch).applicable = true ∧
      ∃ descriptor, descriptorFor operation.step = .ok descriptor ∧
        descriptor.capability = .supported := by
  simp only [PlannerBackend.inspect, GpuBranch.tryFrom_number, bind_ok] at h
  cases happlicable : (planForStep operation.step branch).applicable with
  | false =>
      simp only [happlicable, Bool.not_false, if_true] at h
      rcases h with h | h <;> cases h
  | true =>
      refine ⟨rfl, ?_⟩
      simp only [happlicable, Bool.not_true, Bool.false_eq_true, if_false] at h
      cases hdescriptor : descriptorFor operation.step with
      | error e =>
          rw [hdescriptor] at h
          rcases h with h | h <;> cases h
      | ok descriptor =>
          refine ⟨descriptor, rfl, ?_⟩
          cases hcapability : descriptor.capability with
          | supported => rfl
          | advisory reason =>
              simp only [hdescriptor, bind_ok, hcapability] at h
              rcases h with h | h <;> cases h

/-! ## The layers before the action -/

theorem inspect_apply (helevated : n.requireElevation s.host = .ok ())
    (hbranch : s.configuredGpuBranch = some branch) {descriptor : ActionDescriptor}
    (hdescriptor : descriptorFor operation.step = .ok descriptor)
    (hcapability : descriptor.capability = .supported) :
    inspect n operation s = inspectSupported n descriptor.action operation s := by
  have hinputs : requireDescriptorInputs descriptor s = .ok () := by
    simp [requireDescriptorInputs, hbranch]
  simp only [inspect, ask, bind_apply, consult_apply, helevated, ofExcept_apply, hdescriptor,
    hcapability, hinputs]

theorem nvidiaPreparation_applicable (hbranch : s.configuredGpuBranch = some branch)
    (happlicable : (planForStep operation.step branch).applicable = true) :
    nvidiaPreparationIsInapplicable action operation s = .ok false := by
  simp only [nvidiaPreparationIsInapplicable, hbranch, okOr_some, bind_ok, happlicable]
  split <;> rfl

/-- P1:19 asks for the durable transaction. -/
theorem inspectSupported_download (hbranch : s.configuredGpuBranch = some branch)
    (happlicable : (planForStep operation.step branch).applicable = true)
    {transaction : DriverTransaction}
    (hloaded : LiveBackend.loadDriverTransactionAt n s.host = .ok (some transaction)) :
    inspectSupported n .nvidiaDriverDownloadPreparation operation s = (.ok .satisfied, s) := by
  simp [inspectSupported, bind_apply, nvidiaPreparation_applicable hbranch happlicable, ask,
    hloaded]

theorem inspectSupported_apply (hbranch : s.configuredGpuBranch = some branch)
    (happlicable : (planForStep operation.step branch).applicable = true)
    (hdownload : action ≠ .nvidiaDriverDownloadPreparation) :
    inspectSupported n action operation s = (do
      match ← inspectInterruptAction n action operation with
      | some inspection => return inspection
      | none =>
        match ← inspectDedicated n action with
        | some inspection => return inspection
        | none => inspectRemaining n action operation : LiveM σ Inspection) s := by
  simp only [inspectSupported, if_neg hdownload]
  rw [bind_apply, consult_apply, nvidiaPreparation_applicable hbranch happlicable]
  rfl

theorem inspectRemaining_apply (hbranch : s.configuredGpuBranch = some branch)
    (happlicable : (planForStep operation.step branch).applicable = true) :
    inspectRemaining n action operation s = (inspectAction n action s.host, s) := by
  simp only [inspectRemaining, bind_apply, consult_apply, hbranch, okOr_some, happlicable,
    Bool.not_true, Bool.false_eq_true, if_false, ask]

/-- One of the layers answers. -/
inductive Layered (n : Native σ Session Profile) (action : Action) (operation : Operation)
    (s : Live σ) (inspection : Inspection) : Prop
  | interrupt {t : Live σ}
      (h : inspectInterruptAction n action operation s = (.ok (some inspection), t))
  | dedicated {t : Live σ}
      (hinterrupt : inspectInterruptAction n action operation = pure none)
      (h : inspectDedicated n action s = (.ok (some inspection), t))
  | fallback (hinterrupt : inspectInterruptAction n action operation = pure none)
      (hdedicated : inspectDedicated n action = pure none)
      (h : inspectAction n action s.host = .ok inspection)

/-- Its answer is that of the inspection. -/
theorem Layered.inspectSupported {inspection : Inspection}
    (h : Layered n action operation s inspection)
    (hbranch : s.configuredGpuBranch = some branch)
    (happlicable : (planForStep operation.step branch).applicable = true)
    (hdownload : action ≠ .nvidiaDriverDownloadPreparation) :
    ∃ t, LiveBackend.inspectSupported n action operation s = (.ok inspection, t) := by
  rw [inspectSupported_apply hbranch happlicable hdownload]
  cases h with
  | interrupt h => exact ⟨_, bind_apply_ok h⟩
  | dedicated hinterrupt h =>
      rw [hinterrupt]
      exact ⟨_, bind_apply_ok h⟩
  | fallback hinterrupt hdedicated h =>
      refine ⟨s, ?_⟩
      rw [hinterrupt, hdedicated]
      show inspectRemaining n action operation s = _
      rw [inspectRemaining_apply hbranch happlicable, h]

/-- One of the layers answers, and the engine goes on with its answer. -/
def Answered (n : Native σ Session Profile) (action : Action) (operation : Operation)
    (s : Live σ) : Prop :=
  ∃ inspection, Layered n action operation s inspection ∧ goesOn inspection = true

/-! ## NVAPI -/

section

variable (hnvapi : NvapiAnswers n)

include hnvapi

theorem findFirstByName_answers (session : Session) (names : List String) :
    Answers (findFirstByName n.drs session names) := by
  induction names with
  | nil => exact Answers.pure none
  | cons name names ih =>
      refine (hnvapi.findProfileByName session name).bind fun found => ?_
      cases found with
      | none => exact ih
      | some profile => exact Answers.pure (some profile)

theorem findExistingProfile_answers (session : Session) :
    Answers (findExistingProfile n.drs session) := by
  refine (hnvapi.findApplicationProfile session _).bind fun owner => ?_
  refine Answers.bind ?_ fun found => ?_
  · cases owner with
    | none => exact Answers.pure none
    | some profile => exact (hnvapi.profileName session profile).bind fun _ => Answers.pure _
  · cases found with
    | none => exact findFirstByName_answers hnvapi session _
    | some profile => exact Answers.pure (some profile)

/-- A session whose operation returns is opened, used and destroyed. -/
theorem withSession_answers {α : Type} {operation : Session → Prog σ DrsError α}
    (hoperation : ∀ session, Answers (operation session)) :
    Answers (withSession n.drs operation) := by
  refine hnvapi.initializeApi.bind fun _ => hnvapi.createSession.bind fun session => ?_
  intro s
  obtain ⟨u, s₁, hload⟩ := hnvapi.loadSettings session s
  obtain ⟨a, s₂, hrun⟩ := hoperation session s₁
  obtain ⟨u', s₃, hdestroy⟩ := hnvapi.destroySession session s₂
  refine ⟨a, s₃, ?_⟩
  rw [bind_apply_ok (attempt_eq_ok.mpr ((bind_apply_ok hload).trans hrun)),
    bind_apply_ok (attempt_eq_ok.mpr hdestroy)]
  rfl

theorem prepareCs2Profile_answers : Answers (withNvapi n (prepareCs2Profile n)) := by
  refine Answers.relabel (hnvapi.load.bind fun _ => withSession_answers hnvapi fun session => ?_)
  refine (findExistingProfile_answers hnvapi session).bind fun found => ?_
  cases found with
  | none => exact Answers.pure _
  | some profile => exact (hnvapi.profileName session profile).bind fun _ => Answers.pure _

end

/-! ## The interrupt policies -/

/-- A change that stands at its policy of the device is accepted. -/
theorem policyForChange_of {device : PciDeviceBinding} {change : InterruptRegistryChange}
    {policy : InterruptPolicyKind} (hname : policyOfName change.name = some policy)
    (hkey : change.key = interruptPolicyKey device policy.registrySuffix)
    (haccepts : policy.accepts change.value = true) :
    policyForChange device change = .ok policy := by
  simp [policyForChange, hname, hkey, haccepts, pure, Except.pure]

/-- Every change of the batch is one of a policy of its device. -/
def Allowlisted (batch : MsiDeviceBatch) : Prop :=
  ∀ change ∈ batch.changes, ∃ policy, policyForChange batch.device change = .ok policy

theorem MsiDeviceBatch.build_allowlisted {deviceClass : PciDeviceClass}
    {device : PciDeviceBinding} {batch : MsiDeviceBatch}
    (h : MsiDeviceBatch.build deviceClass device = .ok batch) : Allowlisted batch := by
  obtain ⟨-, h⟩ := check_bind_eq_ok.mp h
  obtain ⟨-, h⟩ := check_bind_eq_ok.mp h
  cases h
  have hsupported : policyForChange device
      { key := interruptParametersKey device, name := MSI_SUPPORTED, value := .dword 1 } =
        .ok .msiSupported :=
    policyForChange_of (show policyOfName MSI_SUPPORTED = _ from by decide) rfl rfl
  have hlimit : policyForChange device
      { key := interruptParametersKey device, name := MESSAGE_NUMBER_LIMIT, value := .dword 16 } =
        .ok .messageNumberLimit :=
    policyForChange_of (show policyOfName MESSAGE_NUMBER_LIMIT = _ from by decide) rfl rfl
  intro change hchange
  rcases List.mem_cons.mp hchange with rfl | hrest
  · exact ⟨_, hsupported⟩
  · by_cases hdisplay : deviceClass = .display
    · rw [if_pos hdisplay, List.mem_singleton] at hrest
      rw [hrest]
      exact ⟨_, hlimit⟩
    · rw [if_neg hdisplay] at hrest
      cases hrest

theorem discoverNativeMsiBatches_allowlisted {host : InterruptHost σ} {u : σ}
    {batches : List MsiDeviceBatch} (h : discoverNativeMsiBatches host u = .ok batches) :
    ∀ batch ∈ batches, Allowlisted batch := by
  obtain ⟨devices, -, h⟩ := bind_eq_ok.mp h
  obtain ⟨-, hbuild⟩ := check_bind_eq_ok.mp h
  exact buildMsiDeviceBatches_of (mapError_eq_ok.mp hbuild)
    fun _ _ _ hbatch => MsiDeviceBatch.build_allowlisted hbatch

theorem discoverNativeNicAffinity_allowlisted {host : InterruptHost σ} {u : σ}
    {binding : NicAffinityBinding} (h : discoverNativeNicAffinity host u = .ok binding) :
    Allowlisted binding.batch := by
  obtain ⟨devices, -, h⟩ := bind_eq_ok.mp (mapError_eq_ok.mp h)
  obtain ⟨observations, -, h⟩ := bind_eq_ok.mp h
  obtain ⟨adapter, -, h⟩ := bind_eq_ok.mp h
  obtain ⟨topology, -, h⟩ := bind_eq_ok.mp h
  obtain ⟨-, h⟩ := check_bind_eq_ok.mp h
  obtain ⟨known, -, h⟩ := bind_eq_ok.mp h
  obtain ⟨processor, -, h⟩ := bind_eq_ok.mp h
  obtain ⟨override, -, h⟩ := bind_eq_ok.mp h
  cases h
  have hpolicy : policyForChange known.2
      { key := affinityPolicyKey known.2, name := DEVICE_POLICY, value := .dword 4 } =
        .ok .devicePolicy :=
    policyForChange_of (show policyOfName DEVICE_POLICY = _ from by decide) rfl rfl
  have hassignment : policyForChange known.2
      { key := affinityPolicyKey known.2, name := ASSIGNMENT_SET_OVERRIDE,
        value := .binary override } = .ok .assignmentSetOverride :=
    policyForChange_of (show policyOfName ASSIGNMENT_SET_OVERRIDE = _ from by decide) rfl rfl
  intro change hchange
  rcases List.mem_cons.mp hchange with rfl | hrest
  · exact ⟨_, hpolicy⟩
  · rw [List.mem_singleton.mp hrest]
    exact ⟨_, hassignment⟩

/-- Where the values can be read, the comparison has an answer. -/
theorem changesSatisfied_replies {host : InterruptHost σ} {u : σ} {device : PciDeviceBinding}
    {changes : List InterruptRegistryChange}
    (hreads : ∀ key name, ∃ value, host.readInterruptValue u key name = .ok value)
    (hallowed : ∀ change ∈ changes, ∃ policy, policyForChange device change = .ok policy)
    (satisfied : Bool) : ∃ answer, changesSatisfied host u device satisfied changes = .ok answer := by
  induction changes generalizing satisfied with
  | nil => exact ⟨satisfied, rfl⟩
  | cons change rest ih =>
      obtain ⟨policy, hpolicy⟩ := hallowed change (by simp)
      obtain ⟨value, hvalue⟩ := hreads change.key change.name
      simp only [changesSatisfied, hpolicy, bind_ok, hvalue]
      exact ih (fun change' hchange' => hallowed change' (by simp [hchange'])) _

theorem batchesSatisfied_replies {host : InterruptHost σ} {u : σ} {batches : List MsiDeviceBatch}
    (hreads : ∀ key name, ∃ value, host.readInterruptValue u key name = .ok value)
    (hallowed : ∀ batch ∈ batches, Allowlisted batch) (satisfied : Bool) :
    ∃ answer, batchesSatisfied host u satisfied batches = .ok answer := by
  induction batches generalizing satisfied with
  | nil => exact ⟨satisfied, rfl⟩
  | cons batch rest ih =>
      obtain ⟨answer, hanswer⟩ := changesSatisfied_replies hreads (hallowed batch (by simp)) true
      have htext : bindingText (interruptChangesSatisfied host u batch.device batch.changes) =
          .ok answer := mapError_eq_ok.mpr hanswer
      simp only [batchesSatisfied, htext, bind_ok]
      exact ih (fun batch' hbatch' => hallowed batch' (by simp [hbatch'])) _

theorem goesOn_satisfiedOr (satisfied : Bool) : goesOn (satisfiedOr satisfied) = true := by
  cases satisfied <;> rfl

theorem msi_answered (hready : Ready n s .msiInterrupts) :
    Answered n .msiInterrupts operation s := by
  obtain ⟨receipt, devices, batches, hreceipt, hsubject, hbatches, hsame, hreads⟩ := hready
  obtain ⟨satisfied, hsatisfied⟩ :=
    batchesSatisfied_replies hreads (discoverNativeMsiBatches_allowlisted hbatches) true
  have hstored : requireStoredPreparation n "P1:21" s.host = (.ok (), s.host) := by
    simp [requireStoredPreparation, bind_apply, hreceipt, hsubject, hbatches, hsame]
  have hanswer : nativeInterruptBatchesSatisfied n.interrupts s.host batches = .ok satisfied :=
    hsatisfied
  have hlayer : inspectInterruptAction n .msiInterrupts operation s =
      (.ok (some (satisfiedOr satisfied)),
        { s with capturedMsiBatches := s.capturedMsiBatches.insert (key operation) batches }) := by
    simp [inspectInterruptAction, bind_apply, onHost, hstored, ask, hbatches, hanswer]
  exact ⟨_, .interrupt hlayer, goesOn_satisfiedOr satisfied⟩

theorem nic_answered (hready : Ready n s .nicInterruptAffinity) :
    Answered n .nicInterruptAffinity operation s := by
  obtain ⟨receipt, adapter, processorGroup, logicalProcessorCount, targetProcessor,
    assignmentMask, binding, hreceipt, hsubject, hbinding, hsame, hreads⟩ := hready
  have hallowed : ∀ batch ∈ [binding.batch], Allowlisted batch := by
    simpa using discoverNativeNicAffinity_allowlisted hbinding
  obtain ⟨satisfied, hsatisfied⟩ := batchesSatisfied_replies hreads hallowed true
  have hstored : requireStoredPreparation n "P1:22" s.host = (.ok (), s.host) := by
    simp [requireStoredPreparation, bind_apply, hreceipt, hsubject, hbinding, hsame]
  have hanswer : nativeInterruptBatchesSatisfied n.interrupts s.host [binding.batch] =
      .ok satisfied := hsatisfied
  have hlayer : inspectInterruptAction n .nicInterruptAffinity operation s =
      (.ok (some (satisfiedOr satisfied)),
        { s with
          capturedNicAffinityBindings :=
            s.capturedNicAffinityBindings.insert (key operation) binding }) := by
    simp [inspectInterruptAction, bind_apply, onHost, hstored, ask, hbinding, hanswer]
  exact ⟨_, .interrupt hlayer, goesOn_satisfiedOr satisfied⟩

/-! ## CS2 -/

theorem discoverCs2InstallFromHkcu_replies {u : σ} (hcs2 : Cs2Replies n u) :
    ∃ found, discoverCs2InstallFromHkcu n u = .ok found ∧
      ∀ install, found = some install →
        ∃ controller, Cs2ConfigController.new install = .ok controller := by
  obtain ⟨value, hvalue⟩ := hcs2.registry steamPathChange
  cases hpath : steamPathOf value with
  | none =>
      refine ⟨none, ?_, nofun⟩
      simp only [discoverCs2InstallFromHkcu, hvalue, bind_ok, hpath]
      rfl
  | some steamPath =>
      obtain ⟨found, hfound⟩ := hcs2.install steamPath
      refine ⟨found, ?_, ?_⟩
      · simp only [discoverCs2InstallFromHkcu, hvalue, bind_ok, hpath, hfound]
        rfl
      · intro install hinstall
        rw [hinstall] at hfound
        exact hcs2.controller steamPath install hfound

theorem inspectCs2Registry_replies {u : σ} {action : Cs2RegistryAction}
    (hdevices : Replies (enumeratePresentStatusOkPci n.interrupts) u) (hcs2 : Cs2Replies n u) :
    ∃ inspection, inspectCs2Registry n action u = .ok inspection ∧ goesOn inspection = true := by
  obtain ⟨devices, hdevices⟩ := hdevices
  obtain ⟨found, hfound, -⟩ := discoverCs2InstallFromHkcu_replies hcs2
  have hhybrid : ∃ hybrid, hasSupportedHybridGpuTopology n u = .ok hybrid := by
    simp only [hasSupportedHybridGpuTopology, hdevices, Except.mapError, bind_ok]
    exact ⟨_, rfl⟩
  obtain ⟨hybrid, hhybrid⟩ := hhybrid
  cases hybrid with
  | false => exact ⟨.inapplicable, by simp only [inspectCs2Registry, hhybrid]; rfl, rfl⟩
  | true =>
      cases found with
      | none =>
          have hbinding : discoverCs2RegistryBinding n u = .error NO_CS2_INSTALL := by
            simp only [discoverCs2RegistryBinding, hfound, bind_ok, okOr_none, bind_error]
          refine ⟨.inapplicable, ?_, rfl⟩
          simp only [inspectCs2Registry, hhybrid, bind_ok, Bool.not_true, Bool.false_eq_true,
            if_false, hbinding, decide_true, Bool.true_or, if_true]
          rfl
      | some install =>
          obtain ⟨canonical, hcanonical⟩ := hcs2.canonical (executablePath install)
          have hbinding : discoverCs2RegistryBinding n u =
              .ok { steamRoot := install.steamRoot, cs2Executable := canonical } := by
            simp only [discoverCs2RegistryBinding, hfound, bind_ok, okOr_some, hcanonical]
            rfl
          obtain ⟨value, hvalue⟩ := hcs2.registry (cs2RegistryChanges
            { steamRoot := install.steamRoot, cs2Executable := canonical } action)
          simp only [inspectCs2Registry, hhybrid, bind_ok, Bool.not_true, Bool.false_eq_true,
            if_false, hbinding, hvalue]
          split
          · exact ⟨_, rfl, rfl⟩
          · exact ⟨_, rfl, rfl⟩

theorem inspectCs2Config_replies {u : σ} (hcs2 : Cs2Replies n u) :
    ∃ inspection, inspectCs2Config n u = .ok inspection ∧ goesOn inspection = true := by
  obtain ⟨found, hfound, hcontroller⟩ := discoverCs2InstallFromHkcu_replies hcs2
  cases found with
  | none =>
      have hbinding : discoverCs2ConfigBinding n u = .ok none := by
        simp only [discoverCs2ConfigBinding, discoverTrustedCs2ConfigInstall, hfound, bind_ok]
        rfl
      exact ⟨.inapplicable, by simp only [inspectCs2Config, hbinding]; rfl, rfl⟩
  | some install =>
      obtain ⟨controller, hcontroller⟩ := hcontroller install rfl
      have hrequest : ∃ request, fixedCs2ConfigRequest (n.timestamp u) = .ok request := by
        rw [fixedCs2ConfigRequest, dif_pos hcs2.time]
        exact ⟨_, rfl⟩
      obtain ⟨request, hrequest⟩ := hrequest
      have hbinding : discoverCs2ConfigBinding n u =
          .ok (some { install := install, request := request }) := by
        simp only [discoverCs2ConfigBinding, discoverTrustedCs2ConfigInstall, hfound, bind_ok,
          hcontroller, hrequest]
        rfl
      obtain ⟨files, hfiles⟩ := hcs2.files install
      have hbind : bindCs2ConfigFs n install u = .ok files := mapError_eq_ok.mpr hfiles
      have hnew : newCs2ConfigController n "validate" install = .ok controller :=
        mapError_eq_ok.mpr hcontroller
      simp only [inspectCs2Config, hbinding, bind_ok, hbind, hnew]
      split
      · exact ⟨_, rfl, rfl⟩
      · exact ⟨_, rfl, rfl⟩

/-! ## The page file -/

/-- A page file is configured by an override, or Windows manages it. -/
def PagefileDecided (n : Native σ Session Profile) (s : Live σ) : Prop :=
  s.state.pagefileMb ≠ 0 ∨
    ∃ inventory t, nativePagefileInventory n s.host = (.ok inventory, t) ∧
      inventory.automaticManaged = true

/-- P1:8 goes on exactly where the page file is decided; otherwise it is an advisory. -/
theorem inspectPagefile_goesOn_iff (hready : Ready n s .pagefile) :
    (∃ inspection t, inspectPagefile n s.state s = (.ok inspection, t) ∧
      goesOn inspection = true) ↔ PagefileDecided n s := by
  obtain ⟨inventory, t, hinventory, hram, hcapture⟩ := hready
  have hrun : inspectPagefile n s.state s =
      (pagefileInspection s.state inventory, { s with host := t }) := by
    simp [inspectPagefile, bind_apply, attempt, onHost, hinventory]
  rw [hrun]
  by_cases hzero : s.state.pagefileMb = 0
  · have hinspection : pagefileInspection s.state inventory =
        .ok (if inventory.automaticManaged then .satisfied else .advisory PAGEFILE_ADVISORY) := by
      simp [pagefileInspection, hzero]
    rw [hinspection]
    cases hmanaged : inventory.automaticManaged with
    | true =>
        simp only [if_true]
        exact ⟨fun _ => .inr ⟨inventory, t, hinventory, hmanaged⟩,
          fun _ => ⟨_, _, rfl, rfl⟩⟩
    | false =>
        constructor
        · intro h
          obtain ⟨inspection, t', h, hgoes⟩ := h
          cases h
          cases hgoes
        · intro h
          rcases h with h | ⟨inventory', t', h, hmanaged'⟩
          · exact absurd hzero h
          · rw [hinventory] at h
            cases h
            rw [hmanaged] at hmanaged'
            cases hmanaged'
  · obtain ⟨binding, hbinding⟩ := hcapture hzero
    have hinspection : pagefileInspection s.state inventory = .ok .needsApply := by
      simp only [pagefileInspection, if_neg hzero, if_neg hram, hbinding]
      rfl
    rw [hinspection]
    exact ⟨fun _ => .inl hzero, fun _ => ⟨_, _, rfl, rfl⟩⟩

/-- The answer of P1:8 is that of the page file. -/
theorem inspectPagefile_of_supported (hbranch : s.configuredGpuBranch = some branch)
    (happlicable : (planForStep operation.step branch).applicable = true)
    {inspection : Inspection} {t : Live σ}
    (h : inspectSupported n .pagefile operation s = (.ok inspection, t)) :
    inspectPagefile n s.state s = (.ok inspection, t) := by
  rw [inspectSupported_apply hbranch happlicable (by simp)] at h
  obtain ⟨interrupt, s₁, hinterrupt, h⟩ := bind_eq_ok h
  cases hinterrupt
  obtain ⟨answer, s₂, hanswer, h⟩ := bind_eq_ok h
  obtain ⟨state, s₃, hstate, hanswer⟩ := bind_eq_ok hanswer
  cases hstate
  obtain ⟨inspection', s₄, hinspection, hanswer⟩ := bind_eq_ok hanswer
  cases hanswer
  cases h
  exact hinspection

/-! ## The remaining actions -/

/-- The actions whose inspection ends in the fallback, which refuses them. -/
def shadowed : Action → Bool
  | .networkStack | .nvidiaDriverRemoval | .nvidiaDriverInstall | .nvidiaProfileApply => true
  | _ => false

theorem goesOn_presentOr {α : Type} (found : Option α) : goesOn (presentOr found) = true := by
  cases found <;> rfl

/-- An answer of the host that an action with its own inspection passes on. -/
theorem answered_of_ask {f : σ → Except String Inspection}
    (hinterrupt : inspectInterruptAction n action operation = pure none)
    (hdedicated : inspectDedicated n action = (do
      let inspection ← ask f
      return some inspection : LiveM σ (Option Inspection)))
    (h : ∃ inspection, f s.host = .ok inspection ∧ goesOn inspection = true) :
    Answered n action operation s := by
  obtain ⟨inspection, hanswer, hgoes⟩ := h
  have hlayer : inspectDedicated n action s = (.ok (some inspection), s) := by
    simp [hdedicated, bind_apply, ask, hanswer]
  exact ⟨_, .dedicated hinterrupt hlayer, hgoes⟩

/-- A computed answer that an action with its own inspection passes on. -/
theorem answered_of_satisfied {f : Live σ → Except String Inspection}
    (hinterrupt : inspectInterruptAction n action operation = pure none)
    (hdedicated : inspectDedicated n action = (do
      let inspection ← consult f
      return some inspection : LiveM σ (Option Inspection)))
    (h : f s = .ok .satisfied) : Answered n action operation s := by
  have hlayer : inspectDedicated n action s = (.ok (some .satisfied), s) := by
    simp [hdedicated, bind_apply, h]
  exact ⟨_, .dedicated hinterrupt hlayer, rfl⟩

theorem inspectFpsCapInfo_of_ready (hready : Ready n s .fpsCapInfo) :
    inspectFpsCapInfo (some s.config) s.state = .ok .satisfied := by
  rcases hready with ⟨hcap, havg⟩ | ⟨hfinite, hpositive, hconfig, hmeasured⟩
  · simp [inspectFpsCapInfo, hcap, havg]
  · by_cases hzero : (s.state.fpsCap = 0 && F64.feq s.state.avgFps F64.zero) = true
    · simp only [inspectFpsCapInfo, hzero, if_true]
    · simp [inspectFpsCapInfo, hzero, hfinite, hpositive, hconfig, hmeasured]

theorem requireHags_of_ready (hready : Ready n s .finalChecklistGuide) :
    requireHagsEffectiveBeforeFinalChecklist n s.host = .ok () := by
  obtain ⟨receipts, hreceipts, heffective⟩ := hready
  simp only [requireHagsEffectiveBeforeFinalChecklist, hreceipts, bind_ok, requireHagsEffective,
    reject_eq_ok, Bool.not_eq_false', List.all_map, List.all_eq_true, Function.comp_apply,
    decide_eq_true_eq]
  exact heffective

/-- Each other action is answered by one of the layers. -/
theorem answered_of_ready (hready : Ready n s action)
    (hsupported : ∀ reason, action ≠ .advisory reason) (hfinal : action ≠ .finalBenchmark)
    (hdownload : action ≠ .nvidiaDriverDownloadPreparation)
    (hshadowed : shadowed action = false) (hpagefile : action = .pagefile → PagefileDecided n s) :
    Answered n action operation s := by
  cases action with
  | observeConfigState =>
      obtain ⟨hconfig, hstate, hworkDir⟩ := hready
      have hinspection : inspectConfigState (some s.config) s.state = .ok .satisfied := by
        simp [inspectConfigState, hconfig, hstate, hworkDir, Except.mapError, pure, Except.pure]
      exact answered_of_satisfied rfl rfl hinspection
  | observeGpuInventory =>
      have hsome : s.hardware.displayAdapters ≠ [] := hready
      have hinspection : inspectGpuInventory s.hardware = .ok .satisfied :=
        check_bind_eq_ok.mpr ⟨reject_eq_ok.mpr (by simpa using hsome), rfl⟩
      exact answered_of_satisfied rfl rfl hinspection
  | observeChipsetDriver =>
      obtain ⟨captured, hcaptured⟩ := hready
      have hlayer : inspectDedicated n .observeChipsetDriver s =
          (.ok (some (presentOr captured)), { s with chipsetInventory := some captured }) := by
        simp [inspectDedicated, bind_apply, ask, hcaptured]
      exact ⟨_, .dedicated rfl hlayer, goesOn_presentOr captured⟩
  | observeMemoryTopology =>
      obtain ⟨captured, hcaptured⟩ := hready
      have hlayer : inspectDedicated n .observeMemoryTopology s =
          (.ok (some (presentOr captured)), { s with memoryTopology := some captured }) := by
        simp [inspectDedicated, bind_apply, ask, hcaptured]
      exact ⟨_, .dedicated rfl hlayer, goesOn_presentOr captured⟩
  | baselineBenchmark =>
      have hpersisted : baselineBenchmarkIsPersisted n s.host = true := hready
      have hlayer : inspectDedicated n .baselineBenchmark s = (.ok (some .satisfied), s) := by
        simp [inspectDedicated, bind_apply, hpersisted]
      exact ⟨_, .dedicated rfl hlayer, rfl⟩
  | fpsCapInfo => exact answered_of_satisfied rfl rfl (inspectFpsCapInfo_of_ready hready)
  | gpuDriverCleanPreparation =>
      obtain ⟨⟨targetGpu, packages⟩, hinspected⟩ := hready
      refine answered_of_ask (f := inspectDriverCleanupPreparationAction n) rfl rfl ?_
      simp only [inspectDriverCleanupPreparationAction, hinspected, bind_ok]
      split
      · exact ⟨_, rfl, rfl⟩
      · exact ⟨_, rfl, rfl⟩
  | nvidiaProfilePreparation =>
      obtain ⟨preparation, t, hprepared⟩ := prepareCs2Profile_answers hready s.host
      have hlayer : inspectDedicated n .nvidiaProfilePreparation s =
          (.ok (some .satisfied), { s with host := t }) := by
        simp [inspectDedicated, inspectNvidiaDrsPreparation, bind_apply, onHost, hprepared]
      exact ⟨_, .dedicated rfl hlayer, rfl⟩
  | msiPreparation =>
      obtain ⟨batches, hbatches⟩ := hready
      have hlayer : inspectInterruptAction n .msiPreparation operation s =
          (.ok (some .satisfied), { s with observedMsiPreparation := some batches }) := by
        simp [inspectInterruptAction, bind_apply, ask, hbatches]
      exact ⟨_, .interrupt hlayer, rfl⟩
  | nicAffinityPreparation =>
      obtain ⟨binding, hbinding⟩ := hready
      have hlayer : inspectInterruptAction n .nicAffinityPreparation operation s =
          (.ok (some .satisfied), { s with observedNicAffinityPreparation := some binding }) := by
        simp [inspectInterruptAction, bind_apply, ask, hbinding]
      exact ⟨_, .interrupt hlayer, rfl⟩
  | msiInterrupts => exact msi_answered hready
  | nicInterruptAffinity => exact nic_answered hready
  | registryBatch changes =>
      have hreads : (changes.forM fun change => (n.registryRead change s.host).map fun _ => ()) =
          .ok () := by
        refine forM_eq_ok.mpr fun change _ => ?_
        obtain ⟨value, hvalue⟩ := hready change
        rw [hvalue]
        rfl
      have haction : inspectAction n (.registryBatch changes) s.host = .ok .needsApply :=
        check_bind_eq_ok.mpr ⟨hreads, rfl⟩
      exact ⟨_, .fallback rfl rfl haction, rfl⟩
  | pagefile =>
      obtain ⟨inspection, t, hinspection, hgoes⟩ :=
        (inspectPagefile_goesOn_iff hready).mpr (hpagefile rfl)
      have hlayer : inspectDedicated n .pagefile s = (.ok (some inspection), t) := by
        simp [inspectDedicated, bind_apply, hinspection]
      exact ⟨_, .dedicated rfl hlayer, hgoes⟩
  | cs2Registry action =>
      exact answered_of_ask rfl rfl (inspectCs2Registry_replies hready.1 hready.2)
  | cs2Config => exact answered_of_ask rfl rfl (inspectCs2Config_replies hready)
  | finalChecklistGuide =>
      have hlayer : inspectDedicated n .finalChecklistGuide s = (.ok (some .satisfied), s) := by
        simp [inspectDedicated, bind_apply, ask, requireHags_of_ready hready, inspectAction,
          guidanceMessage]
      exact ⟨_, .dedicated rfl hlayer, rfl⟩
  | advisory reason => exact absurd rfl (hsupported reason)
  | finalBenchmark => exact absurd rfl hfinal
  | nvidiaDriverDownloadPreparation => exact absurd rfl hdownload
  | networkStack | nvidiaDriverRemoval | nvidiaDriverInstall | nvidiaProfileApply =>
      cases hshadowed
  | safeModeHandoff | phaseThreeHandoff | cs2LaunchVideoGuide | amdRadeonGuide | vramUsageGuide
  | tool _ => exact ⟨_, .fallback rfl rfl rfl, rfl⟩

/-! ## The steps of the catalog -/

/-- P1:16, P2:2, P3:1 and P3:4: the network stack, the removal and the installation of the
driver, and the policy of DRS. -/
def shadowedSteps : List StepId := [⟨.one, 16⟩, ⟨.two, 2⟩, ⟨.three, 1⟩, ⟨.three, 4⟩]

theorem shadowed_iff_mem {step : Step} (hstep : step ∈ stepCatalog)
    {descriptor : ActionDescriptor} (hdescriptor : descriptorFor step = .ok descriptor) :
    shadowed descriptor.action = true ↔ step.id ∈ shadowedSteps := by
  have hall : stepCatalog.all (fun step => (descriptorFor step).toOption.all fun descriptor =>
      shadowed descriptor.action = decide (step.id ∈ shadowedSteps)) = true := by decide
  have hone := List.all_eq_true.mp hall step hstep
  simp only [hdescriptor, Except.toOption, Option.all_some, decide_eq_true_eq] at hone
  rw [hone, decide_eq_true_eq]

theorem pagefile_iff_id {step : Step} (hstep : step ∈ stepCatalog)
    {descriptor : ActionDescriptor} (hdescriptor : descriptorFor step = .ok descriptor) :
    descriptor.action = .pagefile ↔ step.id = ⟨.one, 8⟩ := by
  have hall : stepCatalog.all (fun step => (descriptorFor step).toOption.all fun descriptor =>
      decide (descriptor.action = .pagefile) = decide (step.id = ⟨.one, 8⟩)) = true := by decide
  have hone := List.all_eq_true.mp hall step hstep
  simp only [hdescriptor, Except.toOption, Option.all_some, decide_eq_true_eq] at hone
  exact decide_eq_decide.mp hone

/-- The final benchmark is not a step of the engine. -/
theorem not_finalBenchmark {step : Step} (hstep : step ∈ stepCatalog)
    (hrole : step.orchestrationRole = .engine) {descriptor : ActionDescriptor}
    (hdescriptor : descriptorFor step = .ok descriptor) :
    descriptor.action ≠ .finalBenchmark := by
  have hall : stepCatalog.all (fun step => (descriptorFor step).toOption.all fun descriptor =>
      decide (step.orchestrationRole = .engine → descriptor.action ≠ .finalBenchmark)) = true := by
    decide
  have hone := List.all_eq_true.mp hall step hstep
  simp only [hdescriptor, Except.toOption, Option.all_some, decide_eq_true_eq] at hone
  exact hone hrole

theorem not_advisory {step : Step} {descriptor : ActionDescriptor}
    (hdescriptor : descriptorFor step = .ok descriptor)
    (hcapability : descriptor.capability = .supported) (reason : String) :
    descriptor.action ≠ .advisory reason := by
  intro haction
  obtain ⟨action, -, rfl⟩ := map_eq_ok.mp hdescriptor
  cases (haction : action = .advisory reason)
  cases hcapability

/-- The fallback refuses a shadowed action on every host. -/
theorem inspectSupported_shadowed (hshadowed : shadowed action = true)
    {inspection : Inspection} {t : Live σ}
    (h : inspectSupported n action operation s = (.ok inspection, t)) :
    inspection = .inapplicable := by
  obtain ⟨inapplicable, -, h⟩ := consult_bind_eq_ok h
  cases inapplicable with
  | true =>
      cases h
      rfl
  | false =>
      have hremaining : inspectRemaining n action operation s = (.ok inspection, t) := by
        cases action with
        | networkStack | nvidiaDriverRemoval | nvidiaDriverInstall | nvidiaProfileApply => exact h
        | _ => cases hshadowed
      obtain ⟨branch, -, h⟩ := consult_bind_eq_ok hremaining
      by_cases happlicable : (planForStep operation.step branch).applicable = true
      · simp only [happlicable, Bool.not_true, Bool.false_eq_true, if_false, ask,
          consult_apply, Prod.mk.injEq] at h
        cases action with
        | networkStack | nvidiaDriverRemoval | nvidiaDriverInstall | nvidiaProfileApply =>
            cases h.1
        | _ => cases hshadowed
      · simp only [happlicable, Bool.not_false, if_true] at h
        cases h
        rfl

/-- The fallback refuses a shadowed action that is applicable. -/
theorem inspectSupported_shadowed_error (hshadowed : shadowed action = true)
    (hbranch : s.configuredGpuBranch = some branch)
    (happlicable : (planForStep operation.step branch).applicable = true)
    {inspection : Inspection} {t : Live σ} :
    inspectSupported n action operation s ≠ (.ok inspection, t) := by
  have hdownload : action ≠ .nvidiaDriverDownloadPreparation := by
    rintro rfl
    cases hshadowed
  rw [inspectSupported_apply hbranch happlicable hdownload]
  intro h
  have hremaining : inspectRemaining n action operation s = (.ok inspection, t) := by
    cases action with
    | networkStack | nvidiaDriverRemoval | nvidiaDriverInstall | nvidiaProfileApply => exact h
    | _ => cases hshadowed
  rw [inspectRemaining_apply hbranch happlicable] at hremaining
  cases action with
  | networkStack | nvidiaDriverRemoval | nvidiaDriverInstall | nvidiaProfileApply =>
      cases hremaining
  | _ => cases hshadowed

/-- The live backend has a path that captures and applies the action. -/
def mutates : Action → Bool
  | .registryBatch _ | .pagefile | .cs2Registry _ | .cs2Config | .networkStack
  | .nvidiaDriverRemoval | .nvidiaDriverInstall | .nvidiaProfileApply | .msiInterrupts
  | .nicInterruptAffinity | .tool _ => true
  | _ => false

/-- The engine comes to the capture of the step on some host. -/
def Reachable (operation : Operation) : Prop :=
  operation.step.checkOnly = false ∧
    ∃ (n : Native Unit Unit Unit) (s t : Live Unit),
      inspect n operation s = (.ok .needsApply, t)

/-- A shadowed step is never captured. -/
theorem not_reachable_of_shadowed {descriptor : ActionDescriptor}
    (hdescriptor : descriptorFor operation.step = .ok descriptor)
    (hshadowed : shadowed descriptor.action = true) : ¬ Reachable operation := by
  intro h
  obtain ⟨-, n, s, t, hinspect⟩ := h
  obtain ⟨-, -, h⟩ := consult_bind_eq_ok hinspect
  obtain ⟨descriptor', s', hd, h⟩ := bind_eq_ok h
  obtain ⟨hdescriptor', rfl⟩ := Prod.mk.inj hd
  cases hdescriptor.symm.trans hdescriptor'
  cases hcapability : descriptor.capability with
  | advisory reason =>
      rw [hcapability] at h
      cases h
  | supported =>
      rw [hcapability] at h
      obtain ⟨-, -, h⟩ := consult_bind_eq_ok h
      cases inspectSupported_shadowed hshadowed h

end

/-! ## Hosts on which a capture follows -/

/-- A new device joins the known ones. -/
theorem resolveObservation_fresh {devices : BTreeMap KnownDevice} {device : PciDeviceBinding}
    {deviceClass : PciDeviceClass} (hvalid : device.validate = .ok ())
    (hclass : PciDeviceClass.fromClassGuid device.classGuid = some deviceClass)
    (hfresh : devices[deviceIdentity device]? = none) :
    resolveObservation devices { binding := device, present := true, statusOk := true } =
      .ok (devices.insert (deviceIdentity device) (deviceClass, device)) := by
  simp only [resolveObservation, Bool.not_true, Bool.or_self, Bool.false_eq_true, if_false, hvalid,
    Except.mapError, bind_ok, hclass, insertDistinct, hfresh]

theorem asciiUpper_ne {s t : String} (h : s.toList.map Char.toUpper ≠ t.toList.map Char.toUpper) :
    asciiUpper s ≠ asciiUpper t := by
  intro heq
  have hlists := congrArg String.toList heq
  simp only [asciiUpper, String.toList_map] at hlists
  exact h hlists

/-- Two devices with different identities are both resolved. -/
theorem resolvePresentStatusOkPci_pair {a b : PciDeviceBinding} {classA classB : PciDeviceClass}
    (ha : a.validate = .ok ()) (hb : b.validate = .ok ())
    (hclassA : PciDeviceClass.fromClassGuid a.classGuid = some classA)
    (hclassB : PciDeviceClass.fromClassGuid b.classGuid = some classB)
    (hne : deviceIdentity b ≠ deviceIdentity a) :
    ∃ devices, resolvePresentStatusOkPci
        [{ binding := a, present := true, statusOk := true },
          { binding := b, present := true, statusOk := true }] = .ok devices ∧
      (classA, a) ∈ devices ∧ (classB, b) ∈ devices := by
  have hfirst : resolveObservation ∅ { binding := a, present := true, statusOk := true } =
      .ok ((∅ : BTreeMap KnownDevice).insert (deviceIdentity a) (classA, a)) :=
    resolveObservation_fresh ha hclassA Std.ExtTreeMap.getElem?_empty
  have hsecond : resolveObservation
      ((∅ : BTreeMap KnownDevice).insert (deviceIdentity a) (classA, a))
      { binding := b, present := true, statusOk := true } =
      .ok (((∅ : BTreeMap KnownDevice).insert (deviceIdentity a) (classA, a)).insert
        (deviceIdentity b) (classB, b)) :=
    resolveObservation_fresh hb hclassB
      (by rw [BTreeMap.get_insert, if_neg hne, Std.ExtTreeMap.getElem?_empty])
  refine ⟨values (((∅ : BTreeMap KnownDevice).insert (deviceIdentity a) (classA, a)).insert
    (deviceIdentity b) (classB, b)), ?_, mem_values.mpr ⟨deviceIdentity a, ?_⟩,
    mem_values.mpr ⟨deviceIdentity b, ?_⟩⟩
  · simp only [resolvePresentStatusOkPci, List.foldlM_cons, List.foldlM_nil, hfirst, bind_ok,
      hsecond]
    rfl
  · rw [BTreeMap.get_insert, if_neg hne.symm, BTreeMap.get_insert, if_pos rfl]
  · rw [BTreeMap.get_insert, if_pos rfl]

/-- A topology with an Intel and an NVIDIA display adapter is hybrid. -/
theorem hasSupportedHybridGpuTopology_of {Session Profile : Type} {n : Native Unit Session Profile}
    {devices : List KnownDevice} {a b : PciDeviceBinding}
    (hdevices : enumeratePresentStatusOkPci n.interrupts () = .ok devices)
    (ha : (.display, a) ∈ devices) (hb : (.display, b) ∈ devices)
    (hintel : a.vendorId = 0x8086) (hnvidia : b.vendorId = 0x10de) :
    hasSupportedHybridGpuTopology n () = .ok true := by
  have hvendor : ∀ known ∈ devices, known.1 = .display → known.2.vendorId ∈
      (devices.filter fun known => known.1 = .display).map fun known => known.2.vendorId := by
    intro known hknown hclass
    exact List.mem_map_of_mem (List.mem_filter.mpr ⟨hknown, by simpa using hclass⟩)
  have hconfirmed : isConfirmedHybridVendorSet
      ((devices.filter fun known => known.1 = .display).map fun known => known.2.vendorId) =
        true := by
    rw [isConfirmedHybridVendorSet, Bool.and_eq_true, List.contains_iff_mem, List.any_eq_true]
    exact ⟨hintel ▸ hvendor _ ha rfl, _, hvendor _ hb rfl, by simp [hnvidia]⟩
  simp only [hasSupportedHybridGpuTopology, hdevices, Except.mapError, bind_ok, hconfirmed]
  rfl

/-- The plain host with its two display adapters only. -/
def hybridNative : Native Unit Unit Unit :=
  { plainNative with
    interrupts :=
      { plainNative.interrupts with
        enumeratePciDevices := fun _ => .ok
          [{ binding := plainIntelGpu, present := true, statusOk := true },
            { binding := plainNvidiaGpu, present := true, statusOk := true }] } }

private theorem plainGpu_identities :
    deviceIdentity plainNvidiaGpu ≠ deviceIdentity plainIntelGpu :=
  asciiUpper_ne (by decide +kernel)

private theorem display_class :
    PciDeviceClass.fromClassGuid PciDeviceClass.display.classGuid = some .display := by
  simp [PciDeviceClass.fromClassGuid, eqIgnoreAsciiCase_refl]

/-- Its topology is hybrid. -/
theorem hybridNative_hybrid : hasSupportedHybridGpuTopology hybridNative () = .ok true := by
  obtain ⟨devices, hdevices, hintel, hnvidia⟩ := resolvePresentStatusOkPci_pair
    plainIntelGpu_valid plainNvidiaGpu_valid display_class display_class plainGpu_identities
  have hlisted : hybridNative.interrupts.enumeratePciDevices () =
      .ok [{ binding := plainIntelGpu, present := true, statusOk := true },
        { binding := plainNvidiaGpu, present := true, statusOk := true }] := rfl
  have hresolved : enumeratePresentStatusOkPci hybridNative.interrupts () = .ok devices := by
    rw [enumeratePresentStatusOkPci, hlisted, bind_ok, hdevices]
  exact hasSupportedHybridGpuTopology_of hresolved hintel hnvidia rfl rfl

/-- The backend on the plain host, with an override of the page file. -/
def overridden : Live Unit := plainLive { pagefileMb := 4096 }

/-- The preference of the CS2 executable is not set on it. -/
theorem hybridNative_needsApply (action : Cs2RegistryAction) :
    inspectCs2Registry hybridNative action () = .ok .needsApply := by
  have hbinding : discoverCs2RegistryBinding hybridNative () =
      .ok { steamRoot := plainInstall.steamRoot, cs2Executable := "C:\\Steam\\cs2.exe" } := by
    rfl
  have hvalue : hybridNative.registryRead (cs2RegistryChanges
      { steamRoot := plainInstall.steamRoot, cs2Executable := "C:\\Steam\\cs2.exe" } action) () =
        .ok none := by
    cases action
    rfl
  simp only [inspectCs2Registry, hybridNative_hybrid, bind_ok, Bool.not_true, Bool.false_eq_true,
    if_false, hbinding, hvalue, reduceCtorEq]
  rfl

/-- Some host answers that the action is needed. -/
theorem layered_needsApply {operation : Operation} {action : Action}
    (hmutates : mutates action = true) (hshadowed : shadowed action = false) (hmsi : action ≠ .msiInterrupts)
    (hnic : action ≠ .nicInterruptAffinity) :
    Layered hybridNative action operation overridden .needsApply := by
  cases action with
  | registryBatch changes =>
      have hreads : (changes.forM fun change =>
          (hybridNative.registryRead change overridden.host).map fun _ => ()) = .ok () :=
        forM_eq_ok.mpr fun _ _ => rfl
      exact .fallback rfl rfl (check_bind_eq_ok.mpr ⟨hreads, rfl⟩)
  | pagefile =>
      have hanswer : pagefileInspection overridden.state plainInventory = .ok .needsApply := by
        decide +kernel
      have hinventory : LiveBackend.nativePagefileInventory hybridNative overridden.host =
          (.ok plainInventory, overridden.host) := rfl
      have hlayer : inspectDedicated hybridNative .pagefile overridden =
          (.ok (some .needsApply), overridden) := by
        simp [inspectDedicated, bind_apply, inspectPagefile, attempt, onHost, hinventory, hanswer]
      exact .dedicated rfl hlayer
  | cs2Registry action =>
      have hlayer : inspectDedicated hybridNative (.cs2Registry action) overridden =
          (.ok (some .needsApply), overridden) := by
        have hanswer : inspectCs2Registry hybridNative action overridden.host = .ok .needsApply :=
          hybridNative_needsApply action
        simp [inspectDedicated, bind_apply, ask, hanswer]
      exact .dedicated rfl hlayer
  | cs2Config =>
      have hanswer : inspectCs2Config hybridNative overridden.host = .ok .needsApply := by
        decide +kernel
      have hlayer : inspectDedicated hybridNative .cs2Config overridden =
          (.ok (some .needsApply), overridden) := by
        simp [inspectDedicated, bind_apply, ask, hanswer]
      exact .dedicated rfl hlayer
  | tool command => exact .fallback rfl rfl rfl
  | msiInterrupts => exact absurd rfl hmsi
  | nicInterruptAffinity => exact absurd rfl hnic
  | networkStack | nvidiaDriverRemoval | nvidiaDriverInstall | nvidiaProfileApply =>
      cases hshadowed
  | _ => cases hmutates

/-! ## The steps of the engine -/

section

variable {σ Session Profile : Type} {n : Native σ Session Profile} {s : Live σ}
  {branch : GpuBranch} {operation : Operation} {descriptor : ActionDescriptor}

/-- **Where the live dispatch follows the plan.**  On a host that is ready for a step of the
engine which the planner would work on, the engine goes on with the answer of the live
inspection, unless the step is shadowed or is P1:8 with a page file that nobody decided. -/
theorem dispatches_iff (hstep : operation.step ∈ stepCatalog)
    (hrole : operation.step.orchestrationRole = .engine)
    (hplanner : PlannerBackend.inspect branch.number operation = .ok .needsApply ∨
      PlannerBackend.inspect branch.number operation = .ok .satisfied)
    (hdescriptor : descriptorFor operation.step = .ok descriptor)
    (hnormal : Normal n branch descriptor.action s) :
    Dispatches n operation s ↔ operation.step.id ∉ shadowedSteps ∧
      (operation.step.id = ⟨.one, 8⟩ → PagefileDecided n s) := by
  obtain ⟨happlicable, descriptor', hdescriptor', hcapability⟩ := planner_inspects hplanner
  cases hdescriptor.symm.trans hdescriptor'
  have hinspect : inspect n operation s = inspectSupported n descriptor.action operation s :=
    inspect_apply hnormal.elevated hnormal.branch hdescriptor hcapability
  unfold Dispatches
  rw [hinspect, ← shadowed_iff_mem hstep hdescriptor, ← pagefile_iff_id hstep hdescriptor,
    Bool.not_eq_true]
  constructor
  · intro h
    obtain ⟨inspection, t, hanswer, hgoes⟩ := h
    constructor
    · by_contra hshadowed
      exact inspectSupported_shadowed_error (by simpa using hshadowed) hnormal.branch happlicable
        hanswer
    · intro hpagefile
      have hready := hnormal.ready
      rw [hpagefile] at hready hanswer
      exact (inspectPagefile_goesOn_iff hready).mp
        ⟨inspection, t, inspectPagefile_of_supported hnormal.branch happlicable hanswer, hgoes⟩
  · rintro ⟨hshadowed, hpagefile⟩
    by_cases hdownload : descriptor.action = .nvidiaDriverDownloadPreparation
    · have hready := hnormal.ready
      rw [hdownload] at hready
      obtain ⟨transaction, hloaded⟩ := hready
      rw [hdownload]
      exact ⟨_, _, inspectSupported_download hnormal.branch happlicable hloaded, rfl⟩
    · have hanswered : Answered n descriptor.action operation s :=
        answered_of_ready hnormal.ready (not_advisory hdescriptor hcapability)
          (not_finalBenchmark hstep hrole hdescriptor) hdownload hshadowed hpagefile
      obtain ⟨inspection, hlayered, hgoes⟩ := hanswered
      obtain ⟨t, hanswer⟩ := hlayered.inspectSupported hnormal.branch happlicable hdownload
      exact ⟨inspection, t, hanswer, hgoes⟩

/-- P1:12, whose values are written on every host. -/
private def gameMode : Operation := ⟨stepCatalog.get ⟨11, by decide⟩⟩

/-- The plan and the dispatch agree on the registry batch of P1:12. -/
theorem dispatches_gameMode :
    Dispatches plainNative gameMode overridden ↔ gameMode.step.id ∉ shadowedSteps ∧
      (gameMode.step.id = ⟨.one, 8⟩ → PagefileDecided plainNative overridden) := by
  cases hdescriptor : descriptorFor gameMode.step with
  | error e => cases hdescriptor
  | ok descriptor =>
      have hplanner : PlannerBackend.inspect GpuBranch.nvidia.number gameMode =
          .ok .needsApply := by decide
      refine dispatches_iff (by decide) (by decide) (.inl hplanner) hdescriptor
        ⟨rfl, by decide +kernel, ?_⟩
      cases hdescriptor
      exact fun change => ⟨_, rfl⟩

/-- The engine has a path for the step that can still be taken. -/
theorem mutating_steps (hstep : operation.step ∈ stepCatalog)
    (hrole : operation.step.orchestrationRole = .engine)
    (hdescriptor : descriptorFor operation.step = .ok descriptor)
    (hmutates : mutates descriptor.action = true) (hcheck : operation.step.checkOnly = false) :
    descriptor.capability = .supported ∧ descriptor.action ≠ .msiInterrupts ∧
      descriptor.action ≠ .nicInterruptAffinity ∧
      (shadowed descriptor.action = false →
        (planForStep operation.step .nvidia).applicable = true) := by
  have hall : stepCatalog.all (fun step => (descriptorFor step).toOption.all fun descriptor =>
      decide (step.orchestrationRole = .engine → mutates descriptor.action = true →
        step.checkOnly = false → descriptor.capability = .supported ∧
          descriptor.action ≠ .msiInterrupts ∧ descriptor.action ≠ .nicInterruptAffinity ∧
          (shadowed descriptor.action = false →
            (planForStep step .nvidia).applicable = true))) = true := by decide
  have hone := List.all_eq_true.mp hall operation.step hstep
  simp only [hdescriptor, Except.toOption, Option.all_some, decide_eq_true_eq] at hone
  exact hone hrole hmutates hcheck

/-- **Which mutations the engine reaches.**  Of the steps of the engine with a path that
captures and applies, those that are neither shadowed nor check-only. -/
theorem reachable_iff (hstep : operation.step ∈ stepCatalog)
    (hrole : operation.step.orchestrationRole = .engine)
    (hdescriptor : descriptorFor operation.step = .ok descriptor)
    (hmutates : mutates descriptor.action = true) :
    Reachable operation ↔
      operation.step.checkOnly = false ∧ operation.step.id ∉ shadowedSteps := by
  rw [← shadowed_iff_mem hstep hdescriptor]
  constructor
  · intro h
    exact ⟨h.1, fun hshadowed => not_reachable_of_shadowed hdescriptor hshadowed h⟩
  · rintro ⟨hcheck, hshadowed⟩
    have hshadowed : shadowed descriptor.action = false := Bool.eq_false_iff.mpr hshadowed
    obtain ⟨hcapability, hmsi, hnic, happlicable⟩ :=
      mutating_steps hstep hrole hdescriptor hmutates hcheck
    have hdownload : descriptor.action ≠ .nvidiaDriverDownloadPreparation := by
      intro haction
      rw [haction] at hmutates
      cases hmutates
    have hbranch : overridden.configuredGpuBranch = some .nvidia := by decide +kernel
    have hlayered : Layered hybridNative descriptor.action operation overridden .needsApply :=
      layered_needsApply hmutates hshadowed hmsi hnic
    obtain ⟨t, hanswer⟩ := hlayered.inspectSupported hbranch (happlicable hshadowed) hdownload
    refine ⟨hcheck, hybridNative, overridden, t, ?_⟩
    rw [inspect_apply rfl hbranch hdescriptor hcapability, hanswer]

end

/-- P1:16 is never captured, and P1:12 is. -/
theorem reachable_samples :
    ¬ Reachable ⟨stepCatalog.get ⟨15, by decide⟩⟩ ∧ Reachable gameMode := by
  constructor
  · cases hdescriptor : descriptorFor (stepCatalog.get ⟨15, by decide⟩) with
    | error e => cases hdescriptor
    | ok descriptor =>
        refine fun h => ((reachable_iff (by decide) (by decide) hdescriptor ?_).mp h).2 (by decide)
        cases hdescriptor
        rfl
  · cases hdescriptor : descriptorFor gameMode.step with
    | error e => cases hdescriptor
    | ok descriptor =>
        refine (reachable_iff (by decide) (by decide) hdescriptor ?_).mpr (by decide)
        cases hdescriptor
        rfl

end FrametimeCfg.Verified.LiveDispatch
