import FrametimeCfg.Domain.ReceiptDocument

/-!
# The fields of an accepted receipt

A receipt with a field that its schema does not name is refused, and so is one whose
subject has a device with such a field.  The checks are made on what was read.  The
subject of a receipt keeps no field of its own besides the named ones, so that a further
one is gone before it could be refused; and the adapter of a network proposal keeps them,
and nobody looks.

The receipt id is compared with the digest of what was read, which has all of the
contents.
-/

namespace FrametimeCfg.Verified.ReceiptFields

open FrametimeCfg.Domain
open FrametimeCfg.Domain.Serde
open FrametimeCfg.Lib.Checks (bind_eq_ok check_bind_eq_ok)
open FrametimeCfg.Lib.OrderedMap

/-! ## The unchecked objects -/

/-- The subject has no key besides its tag and its fields, and an adapter in it has only
known fields, as has its device. -/
def subjectUnchecked (v : Value) : Bool :=
  (subjectEntries v).all fun (shape, m) =>
    subjectClosed shape v &&
      shape.nested.all fun (key, known) => key ≠ "adapter" || m[key]?.all known

/-- The objects of the document that no check looks at have only known fields. -/
def uncheckedOnlyKnown : Value → Bool
  | .object raw => (asMap raw)["subject"]?.all subjectUnchecked
  | _ => true

/-- What the receipt id is the digest of. -/
def identity (r : ObservationReceipt) : ReceiptIdentity where
  schemaVersion := r.schemaVersion
  step := r.step
  capturedAtUtc := r.capturedAtUtc
  transactionId := r.transactionId
  runtimeGeneration := r.runtimeGeneration
  subject := r.subject

/-! ## Checks -/

theorem check_eq_ok {ε : Type} {b : Bool} {e : ε} {u : Unit} :
    check b e = .ok u ↔ b = true := by
  cases b <;> simp [check]

/-- A device that passes has only known fields. -/
theorem validateDevice_unknown {device : PciDeviceBinding}
    (h : validateDevice device = .ok ()) : device.unknown.isEmpty = true := by
  unfold validateDevice at h
  split at h
  · cases h
  · have hboth := check_eq_ok.mp h
    simp only [Bool.and_eq_true] at hboth
    exact hboth.2

theorem validateDevicesAfter_unknown {previous : Option String}
    {devices : List PciDeviceBinding} (h : validateDevicesAfter previous devices = .ok ()) :
    ∀ device ∈ devices, device.unknown.isEmpty = true := by
  induction devices generalizing previous with
  | nil => simp
  | cons device rest ih =>
      obtain ⟨hdevice, h⟩ := check_bind_eq_ok.mp h
      obtain ⟨-, hrest⟩ := check_bind_eq_ok.mp h
      intro d hd
      cases List.mem_cons.mp hd with
      | inl heq => rw [heq]; exact validateDevice_unknown hdevice
      | inr hmem => exact ih hrest d hmem

theorem validateDeviceSet_unknown {devices : List PciDeviceBinding}
    (h : validateDeviceSet devices = .ok ()) :
    ∀ device ∈ devices, device.unknown.isEmpty = true :=
  validateDevicesAfter_unknown (check_bind_eq_ok.mp h).2

/-! ## What a reader keeps -/

theorem mem_asMap {raw : List (String × Value)} {k : String} :
    (asMap raw)[k]? ≠ none ↔ ∃ v, (k, v) ∈ raw := by
  rw [Option.ne_none_iff_isSome, ← Std.ExtTreeMap.mem_iff_isSome_getElem?, asMap,
    Std.ExtTreeMap.mem_ofList]
  simp

/-- The rest of an object is empty when it has only the named keys. -/
theorem without_isEmpty {keys : List String} {raw : List (String × Value)} :
    (BTreeMap.without (asMap raw) keys).isEmpty = true ↔ onlyKeys keys raw = true := by
  rw [Std.ExtTreeMap.isEmpty_iff, onlyKeys, List.all_eq_true]
  constructor
  · intro h entry hentry
    by_cases hk : entry.1 ∈ keys
    · exact List.contains_iff_mem.mpr hk
    · have hat : (BTreeMap.without (asMap raw) keys)[entry.1]? = none := by rw [h]; rfl
      rw [BTreeMap.get_without, if_neg hk] at hat
      exact absurd hat (mem_asMap.mpr ⟨entry.2, hentry⟩)
  · intro h
    refine BTreeMap.ext fun k => ?_
    show (BTreeMap.without (asMap raw) keys)[k]? = none
    rw [BTreeMap.get_without]
    by_cases hk : k ∈ keys
    · rw [if_pos hk]
    · rw [if_neg hk]
      by_contra hne
      obtain ⟨v, hv⟩ := mem_asMap.mp hne
      exact hk (List.contains_iff_mem.mp (h _ hv))

/-- A device that was read without a rest has only known fields. -/
theorem device_onlyKnown {v : Value} {device : PciDeviceBinding}
    (h : PciDeviceBinding.record.codec.read v = some device)
    (hunknown : device.unknown.isEmpty = true) : deviceOnlyKnown v = true := by
  unfold Record.codec at h
  simp only at h
  split at h
  · rename_i raw
    split at h
    · have hrest : device.unknown = _ := PciDeviceBinding.record.rest_eq h
      rw [hrest] at hunknown
      exact without_isEmpty.mp hunknown
    · cases h
  · cases h

theorem devices_onlyKnown {v : Value} {devices : List PciDeviceBinding}
    (h : PciDeviceBinding.record.codec.vec.read v = some devices)
    (hunknown : ∀ device ∈ devices, device.unknown.isEmpty = true) :
    devicesOnlyKnown v = true := by
  unfold Codec.vec at h
  simp only at h
  split at h
  case h_2 => cases h
  case h_1 items =>
    show items.all deviceOnlyKnown = true
    induction items generalizing devices with
    | nil => rfl
    | cons item items ih =>
        rw [Codec.readItems] at h
        split at h
        · rename_i device rest hdevice hrest
          obtain rfl := Option.some.inj h
          rw [List.all_cons, Bool.and_eq_true]
          exact ⟨device_onlyKnown hdevice (hunknown device (by simp)),
            ih (fun d hd => hunknown d (by simp [hd])) hrest⟩
        · cases h

/-! ## Subjects in a sequence -/

/-- Fields without attributes are read by position as they are read by name. -/
def Positional {β : Type} (fields : Fields β) : Prop :=
  ∀ {items b rest} {m : BTreeMap Value}, fields.readSeq items = some (b, rest) →
    (∀ p ∈ fields.keys.zip items, m[p.1]? = some p.2) → fields.read m = some b

theorem positional_done : Positional Fields.done := by
  intro items b rest m _ _
  rfl

theorem positional_required {α β : Type} {fields : Fields β} (name : String) (c : Codec α)
    (h : Positional fields) : Positional (.field (.required name c) fields) := by
  intro items ab rest m hread hentries
  cases items with
  | nil =>
      simp [Fields.field, Field.required] at hread
  | cons v vs =>
      simp only [Fields.field] at hread
      split at hread
      · rename_i a b rest' ha hrest
        obtain ⟨rfl, -⟩ := Prod.mk.inj (Option.some.inj hread)
        have hname : m[name]? = some v := hentries (name, v) List.mem_cons_self
        have hfirst : (Field.required name c).read m[name]? = some a := by rw [hname]; exact ha
        have hothers : fields.read m = some b :=
          h hrest fun p hp => hentries p (List.mem_cons_of_mem _ hp)
        rw [Fields.required_read, hfirst, hothers]
      · cases hread

/-- The keys of the entries that a sequence stands for are the fields it has items for. -/
theorem keys_zip (keys : List String) (items : List Value) :
    ((keys.zip items).map Prod.fst).Sublist keys := by
  induction keys generalizing items with
  | nil => simp
  | cons k keys ih =>
      cases items with
      | nil => simp
      | cons v items =>
          rw [List.zip_cons_cons, List.map_cons]
          exact (ih items).cons_cons k

theorem get_zip {keys : List String} (hnodup : keys.Nodup) {items : List Value} :
    ∀ p ∈ keys.zip items, (asMap (keys.zip items))[p.1]? = some p.2 := by
  intro p hp
  have hkeys : ((keys.zip items).map Prod.fst).Nodup := (keys_zip keys items).nodup hnodup
  refine Std.ExtTreeMap.getElem?_ofList_of_mem (k := p.1) (by simp) ?_ hp
  refine (List.pairwise_map.mp hkeys).imp fun hne => ?_
  simpa using hne

/-- A variant whose sequence form is read as an object would be. -/
def ReadsAlike (shape : SubjectShape) : Prop :=
  ∀ {items s}, shape.readSeq items = some s →
    shape.read (asMap (shape.keys.zip items)) = some s

theorem readsAlike_of {β : Type} {tag : String} {fields : Fields β}
    {make : β → ObservationSubject} {nested : List (String × (Value → Bool))}
    (hpositional : Positional fields) (hnodup : fields.keys.Nodup) :
    ReadsAlike (.of tag fields make nested) := by
  intro items s h
  simp only [SubjectShape.of] at h
  split at h
  · rename_i b hseq
    obtain rfl := Option.some.inj h
    show (fields.read (asMap (fields.keys.zip items))).map make = some (make b)
    rw [hpositional hseq (get_zip hnodup), Option.map_some]
  · cases h

theorem subjectShapes_readsAlike : ∀ shape ∈ subjectShapes, ReadsAlike shape := by
  intro shape hshape
  simp only [subjectShapes, List.mem_cons, List.not_mem_nil, or_false] at hshape
  rcases hshape with rfl | rfl | rfl | rfl
  case inl =>
    refine readsAlike_of ?_ (by decide)
    exact positional_required _ _ (positional_required _ _ positional_done)
  case inr.inl =>
    refine readsAlike_of ?_ (by decide)
    exact positional_required _ _ (positional_required _ _ (positional_required _ _
      (positional_required _ _ (positional_required _ _ (positional_required _ _
        positional_done)))))
  case inr.inr.inl =>
    refine readsAlike_of ?_ (by decide)
    exact positional_required _ _ positional_done
  case inr.inr.inr =>
    refine readsAlike_of ?_ (by decide)
    exact positional_required _ _ (positional_required _ _ (positional_required _ _
      (positional_required _ _ (positional_required _ _ positional_done))))

/-! ## Checked subjects -/

theorem required_read {α β : Type} {name : String} {c : Codec α} {fields : Fields β}
    {m : BTreeMap Value} {a : α} {b : β}
    (h : (Fields.field (.required name c) fields).read m = some (a, b)) :
    (∃ v, m[name]? = some v ∧ c.read v = some a) ∧ fields.read m = some b := by
  simp only [Fields.field] at h
  split at h
  · rename_i a' b' ha hb
    obtain ⟨rfl, rfl⟩ := Prod.mk.inj (Option.some.inj h)
    exact ⟨Option.bind_eq_some_iff.mp ha, hb⟩
  · cases h

/-- An entry that was read as a device without a rest. -/
theorem device_entry {m : BTreeMap Value} {name : String} {device : PciDeviceBinding}
    (h : ∃ v, m[name]? = some v ∧ PciDeviceBinding.record.codec.read v = some device)
    (hunknown : device.unknown.isEmpty = true) : m[name]?.all deviceOnlyKnown = true := by
  obtain ⟨v, hv, hread⟩ := h
  rw [hv, Option.all_some]
  exact device_onlyKnown hread hunknown

theorem devices_entry {m : BTreeMap Value} {name : String}
    {devices : List PciDeviceBinding}
    (h : ∃ v, m[name]? = some v ∧ PciDeviceBinding.record.codec.vec.read v = some devices)
    (hunknown : ∀ device ∈ devices, device.unknown.isEmpty = true) :
    m[name]?.all devicesOnlyKnown = true := by
  obtain ⟨v, hv, hread⟩ := h
  rw [hv, Option.all_some]
  exact devices_onlyKnown hread hunknown

/-- The devices of a subject that passes have only known fields, but for the device of an
adapter. -/
def ChecksDevices (shape : SubjectShape) : Prop :=
  ∀ {m s}, shape.read m = some s → s.validate = .ok () →
    ∀ p ∈ shape.nested, p.1 ≠ "adapter" → m[p.1]?.all p.2 = true

theorem subjectShapes_checksDevices : ∀ shape ∈ subjectShapes, ChecksDevices shape := by
  intro shape hshape m s hread hvalid p hp hadapter
  simp only [subjectShapes, List.mem_cons, List.not_mem_nil, or_false] at hshape
  rcases hshape with rfl | rfl | rfl | rfl
  case inl =>
    obtain ⟨⟨targetGpu, installedPackages, _⟩, hb, rfl⟩ := Option.map_eq_some_iff.mp hread
    obtain ⟨htarget, hb⟩ := required_read hb
    obtain ⟨hpackages, -⟩ := required_read hb
    obtain ⟨hdevice, hvalid⟩ := check_bind_eq_ok.mp hvalid
    obtain ⟨hset, -⟩ := check_bind_eq_ok.mp hvalid
    simp only [SubjectShape.of, List.mem_cons, List.not_mem_nil, or_false] at hp
    rcases hp with rfl | rfl
    · exact device_entry htarget (validateDevice_unknown hdevice)
    · exact devices_entry hpackages (validateDeviceSet_unknown hset)
  case inr.inl =>
    obtain ⟨⟨targetGpu, _⟩, hb, rfl⟩ := Option.map_eq_some_iff.mp hread
    obtain ⟨htarget, -⟩ := required_read hb
    obtain ⟨hdevice, -⟩ := check_bind_eq_ok.mp hvalid
    simp only [SubjectShape.of, List.mem_cons, List.not_mem_nil, or_false] at hp
    obtain rfl := hp
    exact device_entry htarget (validateDevice_unknown hdevice)
  case inr.inr.inl =>
    obtain ⟨⟨devices, _⟩, hb, rfl⟩ := Option.map_eq_some_iff.mp hread
    obtain ⟨hdevices, -⟩ := required_read hb
    simp only [SubjectShape.of, List.mem_cons, List.not_mem_nil, or_false] at hp
    obtain rfl := hp
    exact devices_entry hdevices (validateDeviceSet_unknown hvalid)
  case inr.inr.inr =>
    simp only [SubjectShape.of, List.mem_cons, List.not_mem_nil, or_false] at hp
    obtain rfl := hp
    exact absurd rfl hadapter

theorem pickShape_mem {tag : Value} {shape : SubjectShape} (h : pickShape tag = some shape) :
    shape ∈ subjectShapes := by
  unfold pickShape at h
  split at h
  · exact List.mem_of_find?_eq_some h
  · exact List.mem_of_getElem? h
  · cases h

/-- A subject is read from its entries. -/
theorem read_entries {v : Value} {s : ObservationSubject}
    (h : ObservationSubject.read v = some s) :
    ∃ shape ∈ subjectShapes, ∃ m, subjectEntries v = some (shape, m) ∧
      shape.read m = some s := by
  cases v with
  | object raw =>
      simp only [ObservationSubject.read] at h
      split at h
      · obtain ⟨shape, hshape, h⟩ := Option.bind_eq_some_iff.mp h
        split at h
        · obtain ⟨tag, -, htag⟩ := Option.bind_eq_some_iff.mp hshape
          refine ⟨shape, pickShape_mem htag, (asMap raw).erase "kind", ?_, h⟩
          rw [subjectEntries, hshape, Option.map_some]
        · cases h
      · cases h
  | array items =>
      cases items with
      | nil => cases h
      | cons tag items =>
          obtain ⟨shape, hshape, h⟩ := Option.bind_eq_some_iff.mp h
          have hmem := pickShape_mem hshape
          refine ⟨shape, hmem, asMap (shape.keys.zip items), ?_,
            subjectShapes_readsAlike shape hmem h⟩
          rw [subjectEntries, hshape, Option.map_some]
  | null | bool | number | string => cases h

/-- What is left of the property of a subject that passes. -/
theorem subject_onlyKnown {v : Value} {s : ObservationSubject}
    (hread : ObservationSubject.read v = some s) (hvalid : s.validate = .ok ()) :
    subjectOnlyKnown v = subjectUnchecked v := by
  obtain ⟨shape, hshape, m, hentries, hm⟩ := read_entries hread
  have hchecked := subjectShapes_checksDevices shape hshape hm hvalid
  have hnested : (shape.nested.all fun (key, known) => m[key]?.all known) =
      shape.nested.all fun (key, known) => key ≠ "adapter" || m[key]?.all known := by
    rw [Bool.eq_iff_iff, List.all_eq_true, List.all_eq_true]
    constructor
    · intro h p hp
      exact Bool.or_eq_true_iff.mpr (Or.inr (h p hp))
    · intro h p hp
      by_cases hadapter : p.1 = "adapter"
      · simpa [hadapter] using h p hp
      · exact hchecked p hp hadapter
  rw [subjectOnlyKnown, subjectUnchecked, hentries, Option.all_some, Option.all_some]
  show (subjectClosed shape v && _) = (subjectClosed shape v && _)
  rw [hnested]

/-! ## Receipts -/

/-- What a receipt was read from. -/
theorem receipt_entries {j : Value} {r : ObservationReceipt}
    (h : ObservationReceipt.read j = some r) :
    ∃ raw v, j = .object raw ∧ (asMap raw)["subject"]? = some v ∧
      ObservationSubject.read v = some r.subject ∧
      r.unknown = BTreeMap.without (asMap raw) RECEIPT_KEYS := by
  cases j with
  | object raw =>
      obtain ⟨-, -, h⟩ := Option.bind_eq_some_iff.mp h
      obtain ⟨schemaVersion, -, h⟩ := Option.bind_eq_some_iff.mp h
      obtain ⟨receiptId, -, h⟩ := Option.bind_eq_some_iff.mp h
      obtain ⟨step, -, h⟩ := Option.bind_eq_some_iff.mp h
      obtain ⟨capturedAtUtc, -, h⟩ := Option.bind_eq_some_iff.mp h
      obtain ⟨text, -, h⟩ := Option.bind_eq_some_iff.mp h
      obtain ⟨transactionId, -, h⟩ := Option.bind_eq_some_iff.mp h
      obtain ⟨runtimeGeneration, -, h⟩ := Option.bind_eq_some_iff.mp h
      obtain ⟨subject, hsubject, h⟩ := Option.bind_eq_some_iff.mp h
      obtain ⟨v, hv, hread⟩ := Option.bind_eq_some_iff.mp hsubject
      obtain rfl := Option.some.inj h
      exact ⟨raw, v, rfl, hv, hread, rfl⟩
  | null | bool | number | string | array => cases h

/-- What the checks of a receipt say. -/
theorem validateFor_ok {digest : Digest} {r : ObservationReceipt} {step : String}
    (h : r.validateFor digest step = .ok ()) :
    r.unknown.isEmpty = true ∧ r.subject.validate = .ok () ∧
      digest (identity r) = .ok r.receiptId := by
  obtain ⟨-, h⟩ := check_bind_eq_ok.mp h
  obtain ⟨hunknown, h⟩ := check_bind_eq_ok.mp h
  obtain ⟨-, h⟩ := check_bind_eq_ok.mp h
  obtain ⟨-, h⟩ := check_bind_eq_ok.mp h
  obtain ⟨-, h⟩ := check_bind_eq_ok.mp h
  obtain ⟨hsubject, h⟩ := check_bind_eq_ok.mp h
  obtain ⟨id, hid, hsame⟩ := bind_eq_ok.mp h
  refine ⟨check_eq_ok.mp hunknown, hsubject, ?_⟩
  have hsame := of_decide_eq_true (check_eq_ok.mp hsame)
  rw [ObservationReceipt.canonicalReceiptId] at hid
  split at hid
  · rename_i id' hdigest
    obtain rfl := Except.ok.inj hid
    rw [← hsame]
    exact hdigest
  · cases hid

/-- **What an accepted receipt has in its document**: an unknown field stands in one of
the objects that no check looks at, if anywhere; and receipts with one id, whose digests
do not collide, have the same contents. -/
theorem receiptFields (digest : Digest) :
    (∀ j r step, ObservationReceipt.read j = some r → r.validateFor digest step = .ok () →
      (receiptOnlyKnown j = true ↔ uncheckedOnlyKnown j = true)) ∧
    ∀ r r' step step', r.validateFor digest step = .ok () →
      r'.validateFor digest step' = .ok () →
      (digest (identity r) = digest (identity r') → identity r = identity r') →
      r.receiptId = r'.receiptId →
        r.step = r'.step ∧ r.capturedAtUtc = r'.capturedAtUtc ∧
          r.transactionId = r'.transactionId ∧
          r.runtimeGeneration = r'.runtimeGeneration ∧ r.subject = r'.subject := by
  constructor
  · intro j r step hread hvalid
    obtain ⟨raw, v, rfl, hv, hsubject, hrest⟩ := receipt_entries hread
    obtain ⟨hunknown, hchecked, -⟩ := validateFor_ok hvalid
    have hkeys : onlyKeys RECEIPT_KEYS raw = true := by
      rw [hrest] at hunknown
      exact without_isEmpty.mp hunknown
    have hsame := subject_onlyKnown hsubject hchecked
    simp only [receiptOnlyKnown, uncheckedOnlyKnown, hkeys, hv, Option.all_some, hsame,
      Bool.true_and]
  · intro r r' step step' h h' hfree hid
    have hdigest := (validateFor_ok h).2.2
    have hdigest' := (validateFor_ok h').2.2
    have hsame : identity r = identity r' := hfree (by rw [hdigest, hdigest', hid])
    exact ⟨congrArg ReceiptIdentity.step hsame,
      congrArg ReceiptIdentity.capturedAtUtc hsame,
      congrArg ReceiptIdentity.transactionId hsame,
      congrArg ReceiptIdentity.runtimeGeneration hsame,
      congrArg ReceiptIdentity.subject hsame⟩

/-! ## A receipt for a set of devices -/

/-- Identities with one digest are equal. -/
def CollisionFree (digest : Digest) : Prop :=
  ∀ a b id, digest a = .ok id → digest b = .ok id → a = b

private def receivedDevice : PciDeviceBinding where
  schemaVersion := 1
  instanceId := "PCI\\VEN_8086&DEV_15F3&SUBSYS_00008086&REV_03\\4&abc&0&0008"
  containerId := "{01234567-89ab-cdef-0123-456789abcdef}"
  classGuid := "{4d36e972-e325-11ce-bfc1-08002be10318}"
  vendorId := 0x8086
  deviceId := 0x15f3
  subsystemVendorId := 0x8086
  subsystemDeviceId := 0
  revisionId := 3
  driverProvider := "Intel"
  driverVersion := "1.0.0.0"
  publishedInf := "oem1.inf"
  observedAtUtc := "2026-08-13T12:00:00Z"

private def receivedId : BindingReceiptId where
  text := "0123456789abcdef0123456789abcdef0123456789abcdef0123456789abcdef"
  wellFormed := by decide

/-- The document of a receipt, with further entries in its subject. -/
private def receiptDocument (further : List (String × Value)) : Value :=
  .object [("schemaVersion", .number (.unsigned 1)), ("receiptId", .string receivedId.text),
    ("step", .string "P1:21"), ("capturedAtUtc", .string "2026-08-13T12:00:00Z"),
    ("subject", .object ([("kind", .string "msiDeviceSet"),
      ("devices", .array [PciDeviceBinding.record.codec.write receivedDevice])] ++ further))]

private def received : ObservationReceipt where
  schemaVersion := 1
  receiptId := receivedId
  step := "P1:21"
  capturedAtUtc := "2026-08-13T12:00:00Z"
  transactionId := none
  runtimeGeneration := none
  subject := .msiDeviceSet [receivedDevice]

deriving instance DecidableEq for ReceiptIdentity

/-- A digest of one identity. -/
private def receivedDigest : Digest := fun identified =>
  if identified = identity received then .ok receivedId else .error .invalidReceiptId

private theorem receivedDigest_free : CollisionFree receivedDigest := by
  intro a b id ha hb
  unfold receivedDigest at ha hb
  split at ha
  · split at hb
    · rename_i heq heq'
      rw [heq, heq']
    · cases hb
  · cases ha

private theorem received_valid : received.validateFor receivedDigest "P1:21" = .ok () := by
  decide +kernel

/-- A receipt without further entries. -/
theorem receiptFields_plain :
    receiptOnlyKnown (receiptDocument []) = true ∧ received.subject = received.subject := by
  have hread : ObservationReceipt.read (receiptDocument []) = some received := by
    decide +kernel
  constructor
  · refine ((receiptFields receivedDigest).1 _ received "P1:21" hread received_valid).mpr ?_
    decide +kernel
  · exact ((receiptFields receivedDigest).2 received received "P1:21" "P1:21" received_valid
      received_valid (fun h => receivedDigest_free _ _ _ (validateFor_ok received_valid).2.2
        (h.symm.trans (validateFor_ok received_valid).2.2)) rfl).2.2.2.2

/-- A receipt whose subject has a further entry is accepted. -/
theorem operatorEntry_accepted :
    ¬ ∀ (digest : Digest) (j : Value) (r : ObservationReceipt) (step : String),
      CollisionFree digest → ObservationReceipt.read j = some r →
        r.validateFor digest step = .ok () → receiptOnlyKnown j = true := by
  intro h
  have hknown := h receivedDigest (receiptDocument [("operator", .string "none")]) received
    "P1:21" receivedDigest_free (by decide +kernel) received_valid
  exact absurd hknown (by decide +kernel)

end FrametimeCfg.Verified.ReceiptFields
