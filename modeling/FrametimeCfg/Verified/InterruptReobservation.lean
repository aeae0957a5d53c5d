import FrametimeCfg.Windows.Interrupts
import Mathlib

/-!
# What is observed again of satisfied interrupt policies

Devices are collected under their PnP instance, so a device that was resolved is the only
one that agrees with itself.  On a host that did not change, the captured devices are
therefore found again, and where every policy already had its value, the read-back of the
verification finds it too.

* `verifyNativeMsiBatches_of_satisfied` — P3:2.
* `verifyNativeNicAffinity_of_satisfied` — P3:3.
-/

namespace FrametimeCfg.Verified.InterruptReobservation

open FrametimeCfg.Domain FrametimeCfg.Windows
open FrametimeCfg.Lib.Checks
open FrametimeCfg.Lib.Distinct
open FrametimeCfg.Lib.OrderedMap
open FrametimeCfg.Lib.Text

/-! ## The identity of a device -/

theorem eqIgnoreAsciiCase_refl (s : String) : eqIgnoreAsciiCase s s = true := by
  simp [eqIgnoreAsciiCase]

/-- Texts that agree up to case have one upper-case form. -/
theorem asciiUpper_of_eqIgnoreAsciiCase {s t : String} (h : eqIgnoreAsciiCase s t = true) :
    asciiUpper s = asciiUpper t := by
  have hupper : ∀ u : String, asciiUpper u = asciiUpper (asciiLower u) := by
    intro u
    simp only [asciiUpper, asciiLower, String.map_map, Function.comp_def,
      Char.toUpper_toLower_eq_toUpper]
  have hlower : asciiLower s = asciiLower t := by simpa [eqIgnoreAsciiCase] using h
  rw [hupper s, hlower, ← hupper t]

theorem samePnpDevice_refl (device : PciDeviceBinding) : samePnpDevice device device = true := by
  simp [samePnpDevice, eqIgnoreAsciiCase_refl]

theorem deviceIdentity_of_same {device other : PciDeviceBinding}
    (h : samePnpDevice device other = true) : deviceIdentity device = deviceIdentity other := by
  simp only [samePnpDevice, Bool.and_eq_true] at h
  exact asciiUpper_of_eqIgnoreAsciiCase h.1.1.1.1.1.1.1

/-! ## Resolved devices -/

/-- The class of a known device is that of its GUID. -/
def Classified (known : KnownDevice) : Prop :=
  eqIgnoreAsciiCase known.2.classGuid known.1.classGuid = true

/-- Known devices, each under its PnP instance. -/
abbrev Resolved : BTreeMap KnownDevice → Prop :=
  Keyed (fun known => deviceIdentity known.2) Classified

theorem resolveObservation_keeps {devices devices' : BTreeMap KnownDevice}
    {observation : PciDeviceObservation} (h : Resolved devices)
    (hstep : resolveObservation devices observation = .ok devices') : Resolved devices' := by
  unfold resolveObservation at hstep
  by_cases hskip : (!observation.present || !observation.statusOk) = true
  · rw [if_pos hskip] at hstep
    cases hstep
    exact h
  · rw [if_neg hskip] at hstep
    obtain ⟨-, hstep⟩ := check_bind_eq_ok.mp hstep
    cases hclass : PciDeviceClass.fromClassGuid observation.binding.classGuid with
    | none =>
        rw [hclass] at hstep
        cases hstep
        exact h
    | some deviceClass =>
        rw [hclass] at hstep
        have hclassified : Classified (deviceClass, observation.binding) :=
          PciDeviceClass.fromClassGuid_eq_some hclass
        exact h.insertDistinct hclassified hstep

/-- The devices that were resolved come from a map of known devices. -/
theorem resolvePresentStatusOkPci_resolved {observations : List PciDeviceObservation}
    {devices : List KnownDevice} (h : resolvePresentStatusOkPci observations = .ok devices) :
    ∃ m, Resolved m ∧ devices = values m := by
  obtain ⟨m, hfold, hvalues⟩ := bind_eq_ok.mp h
  refine ⟨m, ?_, (Except.ok.inj hvalues).symm⟩
  exact foldlM_keeps (fun _ _ _ _ => resolveObservation_keeps) (Keyed.empty _ _) hfold

/-- A resolved device is observed again as itself. -/
theorem reobserveDevice_of_mem {m : BTreeMap KnownDevice} {known : KnownDevice}
    (hm : Resolved m) (hknown : known ∈ values m) :
    reobserveDevice known.2 (values m) = .ok known.2 := by
  have honly : (values m).filter (fun other => samePnpDevice known.2 other.2) = [known] :=
    filter_eq_singleton hm.pairwise hknown (samePnpDevice_refl known.2)
      fun other hother => (deviceIdentity_of_same hother).symm
  rw [reobserveDevice, honly]

/-! ## Batches of resolved devices -/

/-- The batch is about a device of the list, under its class. -/
def BatchOf (devices : List KnownDevice) (batch : MsiDeviceBatch) : Prop :=
  (batch.deviceClass, batch.device) ∈ devices

theorem MsiDeviceBatch.build_of {deviceClass : PciDeviceClass} {device : PciDeviceBinding}
    {batch : MsiDeviceBatch} (h : MsiDeviceBatch.build deviceClass device = .ok batch) :
    batch.deviceClass = deviceClass ∧ batch.device = device := by
  obtain ⟨-, h⟩ := check_bind_eq_ok.mp h
  obtain ⟨-, h⟩ := check_bind_eq_ok.mp h
  cases h
  exact ⟨rfl, rfl⟩

/-- What holds of every batch that is built holds of those that are collected. -/
theorem buildMsiDeviceBatches_of {P : MsiDeviceBatch → Prop} {devices : List KnownDevice}
    {batches : List MsiDeviceBatch} (h : buildMsiDeviceBatches devices = .ok batches)
    (hbuilt : ∀ known ∈ devices, ∀ batch,
      MsiDeviceBatch.build known.1 known.2 = .ok batch → P batch) :
    ∀ batch ∈ batches, P batch := by
  obtain ⟨m, hfold, hvalues⟩ := bind_eq_ok.mp h
  cases hvalues
  have hkeyed : Keyed (fun batch => deviceIdentity batch.device) P m := by
    refine foldlM_keeps ?_ (Keyed.empty _ _) hfold
    intro known hknown m m' hm hstep
    obtain ⟨batch, hbuild, hstep⟩ := bind_eq_ok.mp hstep
    rw [← (MsiDeviceBatch.build_of hbuild).2] at hstep
    exact hm.insertDistinct (hbuilt known hknown batch hbuild) hstep
  exact fun batch hbatch => hkeyed.of_mem hbatch

/-- Every batch is about one of the devices it was built from. -/
theorem buildMsiDeviceBatches_mem {devices : List KnownDevice} {batches : List MsiDeviceBatch}
    (h : buildMsiDeviceBatches devices = .ok batches) :
    ∀ batch ∈ batches, BatchOf devices batch := by
  refine buildMsiDeviceBatches_of h fun known hknown batch hbuild => ?_
  obtain ⟨hclass, hdevice⟩ := MsiDeviceBatch.build_of hbuild
  unfold BatchOf
  rw [hclass, hdevice]
  exact hknown

/-- A batch of a resolved device passes the second observation. -/
theorem reobserveBatch_of {m : BTreeMap KnownDevice} {batch : MsiDeviceBatch}
    (hm : Resolved m) (hbatch : BatchOf (values m) batch) :
    reobserveBatch (values m) batch = .ok () := by
  have hagain := reobserveDevice_of_mem hm hbatch
  have hclass : Classified (batch.deviceClass, batch.device) := hm.of_mem hbatch
  simp only [reobserveBatch, hagain, bind_ok, reject_eq_ok, decide_eq_false_iff_not, not_not]
  exact hclass

/-! ## Satisfied policies -/

section

variable {σ : Type} {host : InterruptHost σ} {s : σ}

/-- A loop that ends satisfied was satisfied before, and read every value it wants. -/
theorem changesSatisfied_eq_true {device : PciDeviceBinding}
    {changes : List InterruptRegistryChange} {satisfied : Bool}
    (h : changesSatisfied host s device satisfied changes = .ok true) :
    satisfied = true ∧ validateInterruptReadback host s changes = .ok () := by
  induction changes generalizing satisfied with
  | nil => exact ⟨Except.ok.inj h, rfl⟩
  | cons change rest ih =>
      obtain ⟨policy, -, h⟩ := bind_eq_ok.mp h
      obtain ⟨observed, hread, h⟩ := bind_eq_ok.mp h
      obtain ⟨hboth, hrest⟩ := ih h
      simp only [Bool.and_eq_true, decide_eq_true_eq] at hboth
      obtain ⟨hbefore, hvalue⟩ := hboth
      refine ⟨hbefore, ?_⟩
      have hchange : validateChangeReadback host s change = .ok () := by
        simp only [validateChangeReadback, hread, bind_ok, hvalue, ne_eq, not_true_eq_false,
          decide_false, reject_false]
      show (validateChangeReadback host s change >>= fun _ =>
        validateInterruptReadback host s rest) = _
      rw [hchange]
      exact hrest

theorem batchesSatisfied_eq_true {batches : List MsiDeviceBatch} {satisfied : Bool}
    (h : batchesSatisfied host s satisfied batches = .ok true) :
    satisfied = true ∧
      ∀ batch ∈ batches, validateInterruptReadback host s batch.changes = .ok () := by
  induction batches generalizing satisfied with
  | nil => exact ⟨Except.ok.inj h, by simp⟩
  | cons batch rest ih =>
      obtain ⟨answer, hanswer, h⟩ := bind_eq_ok.mp h
      obtain ⟨hboth, hrest⟩ := ih h
      rw [Bool.and_eq_true] at hboth
      obtain ⟨hbefore, htrue⟩ := hboth
      rw [htrue] at hanswer
      have hread := (changesSatisfied_eq_true (mapError_eq_ok.mp hanswer)).2
      exact ⟨hbefore, List.forall_mem_cons.mpr ⟨hread, hrest⟩⟩

/-- The devices that the host enumerates come from a map of known devices. -/
theorem enumeratePresentStatusOkPci_resolved {devices : List KnownDevice}
    (h : enumeratePresentStatusOkPci host s = .ok devices) :
    ∃ m, Resolved m ∧ devices = values m := by
  obtain ⟨observations, -, h⟩ := bind_eq_ok.mp h
  exact resolvePresentStatusOkPci_resolved h

/-- **P3:2.**  Batches that are satisfied on a host verify on it. -/
theorem verifyNativeMsiBatches_of_satisfied {batches : List MsiDeviceBatch}
    (hdiscover : discoverNativeMsiBatches host s = .ok batches)
    (hsatisfied : nativeInterruptBatchesSatisfied host s batches = .ok true) :
    verifyNativeMsiBatches host s batches = .ok () := by
  obtain ⟨devices, hdevices, hdiscover⟩ := bind_eq_ok.mp hdiscover
  obtain ⟨-, hbuild⟩ := check_bind_eq_ok.mp hdiscover
  have henumerate := mapError_eq_ok.mp hdevices
  have hof := buildMsiDeviceBatches_mem (mapError_eq_ok.mp hbuild)
  obtain ⟨m, hm, rfl⟩ := enumeratePresentStatusOkPci_resolved henumerate
  have hagain : reobserveMsiBatches (values m) batches = .ok () :=
    forM_eq_ok.mpr fun batch hbatch => reobserveBatch_of hm (hof batch hbatch)
  have hread : (batches.forM fun batch => validateInterruptReadback host s batch.changes) =
      .ok () := forM_eq_ok.mpr (batchesSatisfied_eq_true hsatisfied).2
  refine mapError_eq_ok.mpr ?_
  simp only [henumerate, bind_ok, verifyMsiBatches, hagain, hread]

theorem sameNicAffinitySubject_refl (binding : NicAffinityBinding) :
    sameNicAffinitySubject binding binding = true := by
  simp [sameNicAffinitySubject, samePnpDevice_refl, eqIgnoreAsciiCase_refl]

/-- **P3:3.**  A binding that is satisfied on a host verifies on it. -/
theorem verifyNativeNicAffinity_of_satisfied {binding : NicAffinityBinding}
    (hdiscover : discoverNativeNicAffinity host s = .ok binding)
    (hsatisfied : nativeInterruptBatchesSatisfied host s [binding.batch] = .ok true) :
    verifyNativeNicAffinity host s binding = .ok () := by
  have hread := (batchesSatisfied_eq_true hsatisfied).2 binding.batch (by simp)
  have hsame : (decide ¬ sameNicAffinitySubject binding binding = true) = false := by
    simp [sameNicAffinitySubject_refl]
  simp only [verifyNativeNicAffinity, hdiscover, bind_ok, hsame, reject_false]
  exact mapError_eq_ok.mpr hread

end

end FrametimeCfg.Verified.InterruptReobservation
