import FrametimeCfg.Verified.DriverRemoval

/-!
# A removal that was interrupted

Between the first call to the package adapter and the record of the removal nothing is
written.  An attempt that stops in between leaves a machine without some of the packages,
and the next attempt captures that machine and compares it with the plan: it refuses, and
removes nothing more.  That is so however many packages are gone.

With all of them in place an attempt fails as well, when it comes to record its evidence.
So no attempt returns, whatever the attempts before it did.
-/

namespace FrametimeCfg.Verified.InterruptedRemoval

open FrametimeCfg.Domain
open FrametimeCfg.Lib
open FrametimeCfg.Lib.Effect
open FrametimeCfg.Verified.DriverDurability
open FrametimeCfg.Verified.DriverRemoval
open FrametimeCfg.Verified.PackageSets
open FrametimeCfg.Windows

/-- The adapters report the packages of the machine, and observing changes none of
them. -/
structure Reports {M : Type} (adapters : DriverAdapters M)
    (inventory : M → List PublishedDriverPackage) : Prop where
  inspect : ∀ gpu m, ∃ m', adapters.inspectPublishedPackages gpu m = (.ok (inventory m), m') ∧
    inventory m' = inventory m
  safeMode : ∀ gpu m, inventory (adapters.observeSafeMode gpu m).2 = inventory m
  clock : ∀ m, inventory (adapters.currentUtc m).2 = inventory m

/-- A package of the plan is gone. -/
def Missing (plan : DryRunDriverPlan) (packages : List PublishedDriverPackage) : Prop :=
  ∀ names, plannedNames plan = .ok names → ∃ name ∈ names, name ∉ namesOf packages

/-- The host after some attempts, each with its own adapters. -/
def afterAttempts {M : Type} (digests : DriverDigests) :
    List (DriverAdapters M) → DriverHost M → DriverHost M
  | [], s => s
  | adapters :: rest, s =>
      afterAttempts digests rest (removePreparedNvidiaDriver digests adapters s).2

section

variable {M : Type} {digests : DriverDigests} {adapters : DriverAdapters M}
  {inventory : M → List PublishedDriverPackage} {plan : DryRunDriverPlan}
  {freshness : CaptureFreshnessPolicy}

/-! ## The capture of an incomplete machine -/

/-- A capture of packages without one of the plan is not valid for the plan. -/
theorem capture_invalid {capture : DriverExecutionCapture} {now : String}
    {packages : List PublishedDriverPackage}
    (hset : capture.installedPackages.packages = sortPackages packages)
    (hmissing : Missing plan packages) :
    capture.validateForPlanAt digests plan freshness now ≠ .ok () := by
  intro h
  obtain ⟨-, hplanned⟩ := capture_facts h
  obtain ⟨name, hname, hnone⟩ := hmissing _ hplanned
  rw [names_eq, List.mem_toFinset, hset] at hname
  exact hnone ((names_sortPackages_perm packages).mem_iff.mp hname)

/-- A validation leaves the machine alone, and its value is the one that was computed. -/
theorem triple_validated {α : Type} {operation : String} {r : Except ValidationError α}
    {P : M → Prop} :
    Triple P (validated operation r) (fun a m => r = .ok a ∧ P m) (fun _ => P) := by
  apply Triple.relabel
  intro m hm
  cases r with
  | ok a => exact ⟨rfl, hm⟩
  | error error => exact hm

theorem Reports.within_safeMode (h : Reports adapters inventory) (gpu : ExactGpuIdentity) :
    Within (fun m m' => inventory m' = inventory m) (adapters.observeSafeMode gpu) :=
  h.safeMode gpu

/-- A program that keeps the inventory, on machines with one inventory. -/
theorem triple_keeps {α : Type} {m : Prog M AdapterFailure α}
    {packages : List PublishedDriverPackage}
    (h : Within (fun m m' => inventory m' = inventory m) m) :
    Triple (fun m => inventory m = packages) m (fun _ m => inventory m = packages)
      (fun _ m => inventory m = packages) :=
  h.triple fun _ _ hpackages hsame => hsame.trans hpackages

theorem Reports.triple_inspect (h : Reports adapters inventory) (gpu : ExactGpuIdentity)
    (packages : List PublishedDriverPackage) :
    Triple (fun m => inventory m = packages) (adapters.inspectPublishedPackages gpu)
      (fun read m => read = packages ∧ inventory m = packages)
      (fun _ m => inventory m = packages) := by
  intro m hm
  obtain ⟨m', hinspect, hsame⟩ := h.inspect gpu m
  rw [hinspect]
  exact ⟨hm, hsame.trans hm⟩

/-- **The capture refuses an incomplete machine**, and leaves its packages alone. -/
theorem captureDriverExecution_missing (digests : DriverDigests)
    (freshness : CaptureFreshnessPolicy) (hreports : Reports adapters inventory)
    {packages : List PublishedDriverPackage} (hmissing : Missing plan packages) :
    Triple (fun m => inventory m = packages)
      (captureDriverExecution digests adapters plan freshness) (fun _ _ => False)
      (fun _ m => inventory m = packages) := by
  refine Triple.bind triple_validated fun _ => Triple.assume fun _ => ?_
  refine Triple.bind (triple_keeps (hreports.safeMode plan.targetGpu)) fun mode => ?_
  refine Triple.bind (hreports.triple_inspect plan.targetGpu packages) fun read => ?_
  refine Triple.assume fun hread => ?_
  refine Triple.bind triple_validated fun installed => Triple.assume fun hset => ?_
  have hinstalled : installed.packages = sortPackages packages := by
    obtain ⟨_, -, hset⟩ := Checks.bind_eq_ok.mp hset
    rw [← Except.ok.inj hset, hread]
  refine Triple.bind (triple_keeps hreports.clock) fun capturedAt => ?_
  refine Triple.bind triple_validated fun fingerprint => Triple.assume fun _ => ?_
  refine Triple.bind triple_validated fun _ => Triple.assume fun hvalid => ?_
  exact absurd hvalid (capture_invalid hinstalled hmissing)

/-! ## Attempts -/

variable {transaction : DriverTransaction} {s : DriverHost M}

/-- A machine without a package of the plan fails the attempt, and keeps its packages. -/
theorem removeAndRecord_missing (digests : DriverDigests) (hreports : Reports adapters inventory)
    (hmissing : Missing transaction.plan (inventory s.machine)) :
    ∃ e t, removeAndRecord digests adapters transaction s = (.error e, t) ∧
      inventory t.machine = inventory s.machine := by
  have hcapture := captureDriverExecution_missing digests REMOVAL_FRESHNESS hreports hmissing
    s.machine rfl
  rcases hrun : captureDriverExecution digests adapters transaction.plan REMOVAL_FRESHNESS
    s.machine with ⟨r, m'⟩
  rw [hrun] at hcapture
  cases r with
  | ok capture => exact hcapture.elim
  | error failure =>
      refine ⟨adapterError failure, { s with machine := m' }, ?_, hcapture⟩
      apply bind_apply_error
      unfold onMachine
      rw [hrun]

/-- The calls to the work directory leave the machine alone. -/
def SameMachine (s t : DriverHost M) : Prop := t.machine = s.machine

theorem sameMachine_trans (s t u : DriverHost M) (h : SameMachine s t) (h' : SameMachine t u) :
    SameMachine s u := h'.trans h

theorem within_storeCall (operation : String) :
    Within (SameMachine (M := M)) (storeCall operation) := by
  intro s
  unfold storeCall
  split <;> rfl

theorem within_validateNow (transaction : DriverTransaction) :
    Within (SameMachine (M := M)) (validateNow digests transaction) := fun _ => rfl

theorem within_load (digests : DriverDigests) :
    Within (SameMachine (M := M)) (loadDriverTransactionAt digests) := by
  have hpure : Within (SameMachine (M := M))
      (pure none : Prog _ String (Option DriverTransaction)) := fun _ => rfl
  refine Within.bind sameMachine_trans (within_storeCall _) fun _ => ?_
  refine Within.bind sameMachine_trans (fun _ => rfl) fun file => ?_
  split
  · exact hpure
  · refine Within.bind sameMachine_trans (within_storeCall _) fun _ => ?_
    refine Within.bind sameMachine_trans (fun _ => rfl) fun transaction => ?_
    refine Within.bind sameMachine_trans (within_validateNow transaction) fun _ => ?_
    exact fun _ => rfl

/-- **An attempt on an incomplete machine** fails and changes neither the packages nor the
file. -/
theorem removePrepared_missing (digests : DriverDigests) (hreports : Reports adapters inventory)
    (hfile : s.file = some transaction)
    (hmissing : Missing transaction.plan (inventory s.machine)) :
    ∃ e t, removePreparedNvidiaDriver digests adapters s = (.error e, t) ∧
      t.file = s.file ∧ inventory t.machine = inventory s.machine := by
  rcases hrun : removePreparedNvidiaDriver digests adapters s with ⟨r, t⟩
  obtain ⟨⟨e, rfl⟩, hkept⟩ := removePrepared_fails hrun
  refine ⟨e, t, rfl, hkept, ?_⟩
  rcases bind_eq_error hrun with hacquire | ⟨_, s₁, hacquire, hrun₁⟩
  · have hsame := within_storeCall (M := M) "acquire the work directory" s
    rw [hacquire] at hsame
    exact congrArg inventory hsame
  have hmachine₁ : s₁.machine = s.machine := by
    have hsame := within_storeCall (M := M) "acquire the work directory" s
    rw [hacquire] at hsame
    exact hsame
  have hload := within_load digests s₁
  rcases bind_eq_error hrun₁ with hfailed | ⟨loaded, s₂, hloaded, hrun₂⟩
  · rw [hfailed] at hload
    rw [show t.machine = s₁.machine from hload, hmachine₁]
  rw [hloaded] at hload
  have hmachine₂ : s₂.machine = s.machine :=
    (show s₂.machine = s₁.machine from hload).trans hmachine₁
  cases loaded with
  | none =>
      obtain ⟨-, rfl⟩ := Prod.mk.inj hrun₂
      exact congrArg inventory hmachine₂
  | some found =>
      obtain ⟨hfound, hnone⟩ := (load_cases hloaded).2 found rfl
      rw [storeCall_file hacquire, hfile] at hfound
      obtain rfl := Option.some.inj hfound
      have hremoval : transaction.removal.isSome = false := by
        rw [Bool.eq_false_iff]
        exact fun hsome => hnone (.inr hsome)
      have hrun₃ : (if transaction.removal.isSome then pure transaction
        else removeAndRecord digests adapters transaction) s₂ = (.error e, t) := hrun₂
      rw [hremoval] at hrun₃
      rw [← hmachine₂] at hmissing ⊢
      obtain ⟨e', t', hattempt, hinventory⟩ := removeAndRecord_missing digests
        hreports hmissing
      have hsame : ((.error e', t') : Except String DriverTransaction × DriverHost M) =
          (.error e, t) := hattempt.symm.trans hrun₃
      rw [← (Prod.mk.inj hsame).2]
      exact hinventory

/-- No attempt changes the file. -/
theorem afterAttempts_file (attempts : List (DriverAdapters M)) (s : DriverHost M) :
    (afterAttempts digests attempts s).file = s.file := by
  induction attempts generalizing s with
  | nil => rfl
  | cons adapters attempts ih =>
      rw [afterAttempts, ih]
      rcases hrun : removePreparedNvidiaDriver digests adapters s with ⟨r, t⟩
      exact (removePrepared_fails hrun).2

/-- Once a package is gone, attempts leave the packages as they are. -/
theorem afterAttempts_inventory {attempts : List (DriverAdapters M)}
    (hreports : ∀ adapters ∈ attempts, Reports adapters inventory)
    (hfile : s.file = some transaction)
    (hmissing : Missing transaction.plan (inventory s.machine)) :
    inventory (afterAttempts digests attempts s).machine = inventory s.machine := by
  induction attempts generalizing s with
  | nil => rfl
  | cons adapters attempts ih =>
      obtain ⟨hhead, htail⟩ := List.forall_mem_cons.mp hreports
      obtain ⟨e, t, hrun, hkept, hsame⟩ :=
        removePrepared_missing digests hhead hfile hmissing
      rw [afterAttempts, hrun, ih htail (hkept.trans hfile) (hsame ▸ hmissing), hsame]

end

/-- **An interrupted removal is never completed.**  After any attempts an attempt fails, and
the file still holds no evidence of it; and once a package of the plan is gone, the packages
that are left stay, for every attempt refuses the machine. -/
theorem interruptedRemoval {M : Type} (digests : DriverDigests)
    (attempts : List (DriverAdapters M)) (adapters : DriverAdapters M) (s : DriverHost M) :
    (∃ e t, removePreparedNvidiaDriver digests adapters (afterAttempts digests attempts s) =
      (.error e, t) ∧ t.file = s.file) ∧
    ∀ (inventory : M → List PublishedDriverPackage) (transaction : DriverTransaction),
      (∀ a ∈ attempts ++ [adapters], Reports a inventory) → s.file = some transaction →
      Missing transaction.plan (inventory s.machine) →
      inventory (afterAttempts digests (attempts ++ [adapters]) s).machine =
        inventory s.machine := by
  constructor
  · rcases hrun : removePreparedNvidiaDriver digests adapters
      (afterAttempts digests attempts s) with ⟨r, t⟩
    obtain ⟨⟨e, rfl⟩, hfile⟩ := removePrepared_fails hrun
    exact ⟨e, t, rfl, hfile.trans (afterAttempts_file attempts s)⟩
  · intro inventory transaction hreports hfile hmissing
    exact afterAttempts_inventory hreports hfile hmissing

/-! ## An attempt that was cut short -/

/-- A second package of the test GPU. -/
def secondPackage : PublishedDriverPackage :=
  { testPackage with publishedName := { value := "oem13.inf", valid := by decide } }

/-- The plan for both packages. -/
def pairPlan : DryRunDriverPlan where
  schemaVersion := 1
  readOnly := true
  targetGpu := testGpu
  inputSha256 := sameDigest
  entries := [
    { step := .p1_18, action := .inspectExactGpu testGpu },
    { step := .p1_19, action := .recordExactPackages [testPackage, secondPackage] },
    { step := .p2_2
      action := .proposePackageCleanup
        [testPackage.publishedName, secondPackage.publishedName] },
    { step := .p3_1, action := .proposeSignedArtifactInstall testArtifact }]

/-- The machine of the test adapters, but the second package cannot be removed. -/
def stuckAdapters : DriverAdapters (List PublishedDriverPackage) :=
  { testAdapters with
    removePublishedPackage := fun gpu name =>
      if name = secondPackage.publishedName then
        raise { operation := "remove published package", reason := "device busy" }
      else testAdapters.removePublishedPackage gpu name }

/-- The host with some packages and the prepared transaction for both. -/
def pairHost (packages : List PublishedDriverPackage) :
    DriverHost (List PublishedDriverPackage) where
  machine := packages
  file := some ⟨1, pairPlan, testArtifact, testAuthorization, none, none, none⟩
  clock _ := testNoon

/-- The machine and the answer of an attempt. -/
def attemptOn (adapters : DriverAdapters (List PublishedDriverPackage))
    (packages : List PublishedDriverPackage) :
    Except String DriverTransaction × List PublishedDriverPackage :=
  let (r, t) := removePreparedNvidiaDriver sameDigests adapters (pairHost packages)
  (r, t.machine)

/-- The adapter fails at the second package; from then on even the adapter that removes
every package cannot complete the removal.  With both packages in place that adapter removes
them, and the attempt fails when it records that. -/
theorem interruptedRemoval_stuck :
    attemptOn stuckAdapters [testPackage, secondPackage] =
      (.error "adapter remove published package failed: device busy", [secondPackage]) ∧
    attemptOn testAdapters [secondPackage] =
      (.error (adapterError
        ⟨"capture driver execution", ValidationError.capturePlanMismatch.message⟩),
        [secondPackage]) ∧
    attemptOn testAdapters [testPackage, secondPackage] =
      (.error "nowUtc has an invalid value", []) := by
  refine ⟨?_, ?_, ?_⟩
  · decide +kernel
  · decide +kernel
  · decide +kernel

end FrametimeCfg.Verified.InterruptedRemoval
