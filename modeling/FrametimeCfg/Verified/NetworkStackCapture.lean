import FrametimeCfg.Windows.NetworkStack

/-!
# The capture of the network stack

A capture records receive side scaling alone and no policy, and then validates its
record.  The validation asks for five settings and two policies, so no capture
returns, on any host, and step P1:16 can be neither applied nor restored.
-/

namespace FrametimeCfg.Verified.NetworkStackCapture

open FrametimeCfg.Domain
open FrametimeCfg.Lib.Checks (reject reject_eq_ok mapError_eq_ok check_bind_eq_ok)
open FrametimeCfg.Lib.Effect
open FrametimeCfg.Windows

variable {σ : Type}

/-! ## The property -/

/-- What a host answers about the settings of every adapter, the QoS value and the
policies. -/
structure NetworkContent where
  setting : NetworkAdapterBinding → NetworkStackSetting →
    Except String (Option NetworkStackValue)
  nla : Except String NetworkStackNlaBackup
  policy : NetworkStackPolicy → Except String (Option NetworkStackPolicySnapshot)

def content (host : NetworkStackHost σ) (s : σ) : NetworkContent where
  setting adapter setting := (host.readSetting adapter setting s).1
  nla := (host.readNla s).1
  policy policy := (host.readPolicy policy s).1

/-- One active wired adapter with a valid binding, whose receive side scaling is
absent or a DWORD. -/
def Eligible (host : NetworkStackHost σ) (s : σ) : Prop :=
  ∃ adapter t value u, host.discoverActiveWired s = (.ok [adapter], t) ∧
    adapter.validate = .ok () ∧ host.readSetting adapter .rssEnabled t = (.ok value, u) ∧
      ∀ v ∈ value, ∃ n, v = .dword n

/-- A capture returns a valid record; the apply and the restore after it return and
bring the content back. -/
structure UsableAndReversible (host : NetworkStackHost σ) (now : String) (s : σ) :
    Prop where
  captures : ∃ adapter transaction t,
    captureNetworkStack host now NETWORK_STACK_TRANSACTION_STEP s =
        (.ok (adapter, transaction), t) ∧
      transaction.validate = .ok ()
  reverses : ∀ adapter transaction t,
    captureNetworkStack host now NETWORK_STACK_TRANSACTION_STEP s =
        (.ok (adapter, transaction), t) →
      ∃ applied restored, applyNetworkStack host adapter t = (.ok (), applied) ∧
        restoreNetworkStack host transaction applied = (.ok (), restored) ∧
        content host restored = content host s

/-! ## No record is complete -/

/-- A valid record has the inventory, in some order. -/
theorem validate_inventory {transaction : NetworkStackTransaction}
    (h : transaction.validate = .ok ()) :
    (transaction.settings.map (·.setting)).Perm NetworkStackSetting.P1_16_INVENTORY ∧
      (transaction.policies.map (·.policy)).Perm NetworkStackPolicy.P1_16_INVENTORY := by
  unfold NetworkStackTransaction.validate at h
  obtain ⟨-, h⟩ := check_bind_eq_ok.mp h
  obtain ⟨-, h⟩ := check_bind_eq_ok.mp h
  obtain ⟨-, h⟩ := check_bind_eq_ok.mp h
  obtain ⟨-, h⟩ := check_bind_eq_ok.mp h
  obtain ⟨-, h⟩ := check_bind_eq_ok.mp h
  obtain ⟨-, h⟩ := check_bind_eq_ok.mp h
  have hinventory := reject_eq_ok.mp (check_bind_eq_ok.mp h).1
  simp only [Bool.or_eq_false_iff, decide_eq_false_iff_not, not_not] at hinventory
  constructor
  · rw [← hinventory.1]
    exact (List.perm_insertionSort _ _).symm
  · rw [← hinventory.2]
    exact (List.perm_insertionSort _ _).symm

/-- The loop records each setting that it was given. -/
theorem captureSettings_ok {host : NetworkStackHost σ} {adapter : NetworkAdapterBinding}
    {settings : List NetworkStackSetting} {items : List NetworkStackSettingBackup} {s t : σ}
    (h : mapEach (captureSetting host adapter) settings s = (.ok items, t)) :
    items.map (·.setting) = settings := by
  induction settings generalizing s t items with
  | nil =>
      obtain rfl := Except.ok.inj (Prod.mk.inj h).1
      rfl
  | cons setting settings ih =>
      obtain ⟨item, s₁, hitem, hrest⟩ := bind_eq_ok h
      obtain ⟨items', s₂, htail, hpure⟩ := bind_eq_ok hrest
      obtain rfl := Except.ok.inj (Prod.mk.inj hpure).1
      obtain ⟨value, s₃, -, hcheck⟩ := bind_eq_ok hitem
      obtain ⟨_, s₄, -, hresult⟩ := bind_eq_ok hcheck
      obtain rfl := Except.ok.inj (Prod.mk.inj hresult).1
      rw [List.map_cons, ih htail]

/-- The record of a capture has fewer settings than the inventory. -/
theorem capture_not_ok (host : NetworkStackHost σ) (now step : String) (s t : σ)
    (adapter : NetworkAdapterBinding) (transaction : NetworkStackTransaction) :
    captureNetworkStack host now step s ≠ (.ok (adapter, transaction), t) := by
  intro h
  obtain ⟨_, s₁, -, h⟩ := bind_eq_ok h
  obtain ⟨observed, s₂, -, h⟩ := bind_eq_ok h
  obtain ⟨adapter', s₃, -, h⟩ := bind_eq_ok h
  obtain ⟨items, s₄, hitems, h⟩ := bind_eq_ok h
  obtain ⟨_, s₅, hvalid, -⟩ := bind_eq_ok h
  have hinventory := (validate_inventory (mapError_eq_ok.mp (Prod.mk.inj hvalid).1)).1
  have hlength := hinventory.length_eq
  rw [captureSettings_ok hitems] at hlength
  exact absurd hlength (by decide)

/-- **No host can use the transaction.** -/
theorem networkStackCapture (host : NetworkStackHost σ) (now : String) (s : σ) :
    ¬ UsableAndReversible host now s := by
  intro h
  obtain ⟨adapter, transaction, t, hcapture, -⟩ := h.captures
  exact capture_not_ok host now _ s t adapter transaction hcapture

/-! ## An eligible host -/

private def sampleAdapter : NetworkAdapterBinding where
  schemaVersion := 1
  adapterName := "{01234567-89ab-cdef-0123-456789abcdef}"
  interfaceGuid := "{01234567-89ab-cdef-0123-456789abcdef}"
  interfaceLuid := 7
  interfaceIndex := 3
  friendlyName := "Ethernet"
  interfaceDescription := "Ethernet Controller"
  physicalAddress := [2, 0, 0, 0, 0, 1]
  device :=
    { schemaVersion := 1
      instanceId := "PCI\\VEN_8086&DEV_15F3&SUBSYS_00008086&REV_03\\4&abc&0&0008"
      containerId := "{01234567-89ab-cdef-0123-456789abcdef}"
      classGuid := "{4d36e972-e325-11ce-bfc1-08002be10318}"
      vendorId := 0x8086
      deviceId := 0x15f3
      subsystemVendorId := 0x8086
      subsystemDeviceId := 0
      revisionId := 3
      driverProvider := "Intel"
      driverVersion := "1.0.0.0"
      publishedInf := "oem1.inf"
      observedAtUtc := "2026-08-13T12:00:00Z" }
  observedAtUtc := "2026-08-13T12:00:00Z"

/-- A host whose state is the value of receive side scaling; nothing else is set. -/
private def sampleHost : NetworkStackHost (Option NetworkStackValue) where
  discoverActiveWired := pure [sampleAdapter]
  readSetting _ setting := fun s => (.ok (if setting = .rssEnabled then s else none), s)
  writeSetting _ setting value := fun s =>
    (.ok (), if setting = .rssEnabled then some value else s)
  readNla := pure { keyExisted := false, valueExisted := false, originalValue := none }
  restoreNla _ := pure ()
  readPolicy _ := pure none
  deletePolicy _ := pure ()
  restorePolicy _ _ := pure ()

private theorem sampleAdapter_valid : sampleAdapter.validate = .ok () := by
  have hguid : Lib.Text.eqIgnoreAsciiCase sampleAdapter.adapterName
      sampleAdapter.interfaceGuid = true := decide_eq_true rfl
  unfold NetworkAdapterBinding.validate
  rw [hguid]
  decide +kernel

/-- Receive side scaling is off on a host that is eligible. -/
theorem networkStackCapture_sample :
    Eligible sampleHost (some (.dword 0)) ∧
      ¬ UsableAndReversible sampleHost "2026-08-23 12:34:56" (some (.dword 0)) := by
  constructor
  · refine ⟨sampleAdapter, _, some (.dword 0), _, rfl, sampleAdapter_valid, rfl, ?_⟩
    intro v hv
    exact ⟨0, (Option.mem_some.mp hv).symm⟩
  · intro h
    obtain ⟨adapter, transaction, t, hcapture, -⟩ := h.captures
    exact capture_not_ok _ _ _ _ t adapter transaction hcapture

end FrametimeCfg.Verified.NetworkStackCapture
