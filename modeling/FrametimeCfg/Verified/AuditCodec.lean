import FrametimeCfg.Domain.AuditFile

/-!
# The audit codec

An audit record that is read keeps the entry `state` twice: as its outcome,
and among the rest of its entries, from which the outcome was read without
being removed.  This file follows the second copy through a write and a read.

* A typed record never comes back as it was written unless its rest already
  held the copy.
* A pending record that was read from the file keeps its `state` in the rest.
  Closing it changes the outcome only, the rest is written after the outcome,
  and of two entries with one key the last one counts: the closed record is
  read back as pending.
-/

namespace FrametimeCfg.Verified.AuditCodec

open FrametimeCfg.Domain
open FrametimeCfg.Lib.Checks
open FrametimeCfg.Lib.OrderedMap

/-! ## The flattened outcome -/

/-- The names of the states, the pending one first. -/
def rebuildableStates : List String := ["pending", "verified"]
def manualStates : List String := ["pending", "verified", "failed"]

/-- The entry `state` names the pending variant. -/
def NamesPending (names : List String) (fields : BTreeMap Value) : Prop :=
  ∃ tag, fields["state"]? = some tag ∧ taggedVariant names tag = some 0

/-- A state that was read is in the entries it was read from. -/
theorem decodeState_eq_ok {names : List String} {fields : BTreeMap Value} {n : Nat} :
    decodeState names fields = .ok n ↔
      ∃ tag, fields["state"]? = some tag ∧ taggedVariant names tag = some n := by
  rw [decodeState, bind_eq_ok]
  simp only [okOr_eq_ok]

theorem decodeState_zero {names : List String} {fields : BTreeMap Value} :
    decodeState names fields = .ok 0 ↔ NamesPending names fields := decodeState_eq_ok

theorem rebuildableOutcome_pending {fields : BTreeMap Value} :
    RebuildableAuditOutcome.decode fields = .ok .pending ↔
      NamesPending rebuildableStates fields := by
  rw [← decodeState_zero, RebuildableAuditOutcome.decode, bind_eq_ok]
  constructor
  · rintro ⟨n, hn, h⟩
    match n with
    | 0 => exact hn
    | n + 1 =>
        obtain ⟨text, -, h⟩ := bind_eq_ok.mp h
        cases h
  · intro h
    exact ⟨0, h, rfl⟩

theorem manualOutcome_pending {fields : BTreeMap Value} :
    ManualRecoveryAuditOutcome.decode fields = .ok .pending ↔
      NamesPending manualStates fields := by
  rw [← decodeState_zero, ManualRecoveryAuditOutcome.decode, bind_eq_ok]
  constructor
  · rintro ⟨n, hn, h⟩
    match n with
    | 0 => exact hn
    | 1 | n + 2 =>
        obtain ⟨text, -, h⟩ := bind_eq_ok.mp h
        cases h
  · intro h
    exact ⟨0, h, rfl⟩

/-- An outcome that was read leaves its `state` where it was. -/
theorem rebuildableOutcome_state {fields : BTreeMap Value} {o : RebuildableAuditOutcome}
    (h : RebuildableAuditOutcome.decode fields = .ok o) : fields["state"]? ≠ none := by
  obtain ⟨n, hn, -⟩ := bind_eq_ok.mp h
  obtain ⟨tag, htag, -⟩ := decodeState_eq_ok.mp hn
  simp [htag]

theorem manualOutcome_state {fields : BTreeMap Value} {o : ManualRecoveryAuditOutcome}
    (h : ManualRecoveryAuditOutcome.decode fields = .ok o) : fields["state"]? ≠ none := by
  obtain ⟨n, hn, -⟩ := bind_eq_ok.mp h
  obtain ⟨tag, htag, -⟩ := decodeState_eq_ok.mp hn
  simp [htag]

private theorem keys_rebuildableOutcome (o : RebuildableAuditOutcome) :
    o.entries.map Prod.fst = ["state", "finalizedAt"] := by
  cases o <;> rfl

private theorem keys_manualOutcome (o : ManualRecoveryAuditOutcome) :
    o.entries.map Prod.fst = ["state", "finalizedAt", "failedAt"] := by
  cases o <;> rfl

/-- **The rest wins.**  Where the rest holds a pending `state`, what is written
for the outcome does not matter. -/
theorem NamesPending.flattened {names : List String} {rest : BTreeMap Value}
    {part : List (String × Option Value)} (hnodup : (part.map Prod.fst).Nodup)
    (h : NamesPending names rest) : NamesPending names (Value.flattened part rest) := by
  obtain ⟨tag, htag, hzero⟩ := h
  refine ⟨tag, ?_, hzero⟩
  rw [Value.get_flattened hnodup, htag, Option.some_or]

/-! ## Reading a written record back -/

/-- The rest of a record does not name the fields that are read by name. -/
def Disjoint (keys : List String) (rest : BTreeMap Value) : Prop :=
  ∀ k ∈ keys, rest[k]? = none

theorem disjoint_without (keys : List String) (fields : BTreeMap Value) :
    Disjoint keys (BTreeMap.without fields keys) := by
  intro k hk
  rw [BTreeMap.get_without, if_pos hk]

private theorem requiredString_of_get {field text : String} {fields : BTreeMap Value}
    (h : fields[field]? = some (.string text)) :
    requiredString field fields = .ok text := by
  rw [requiredString, h]

private theorem requiredField_of_get {α : Type} {field : String}
    {decode : Value → Except String α} {fields : BTreeMap Value} {value : Value}
    (h : fields[field]? = some value) :
    requiredField field decode fields = decode value := by
  rw [requiredField, h]

private theorem decodeItems_map {α : Type} {encode : α → Value}
    {decode : Value → Except String α} (h : ∀ a, decode (encode a) = .ok a)
    (items : List α) : decodeItems decode (.array (items.map encode)) = .ok items :=
  mapM_map_eq_ok.mpr fun a _ => h a

private theorem appx_decode_object (known : List (String × Option Value)) {kind : String}
    (hnodup : (known.map Prod.fst).Nodup)
    (hkind : Value.entry known "kind" = some (.string kind)) :
    ∃ fields : BTreeMap Value, (∀ k, fields[k]? = Value.entry known k) ∧
      AppxRemovalSubject.decode (.ofRecord known ∅) =
        AppxRemovalSubject.ofKind kind fun field => requiredString field fields := by
  obtain ⟨fields, hread, hget⟩ := Value.asObject_ofRecord hnodup ∅
  have hget' : ∀ k, fields[k]? = Value.entry known k := by
    intro k
    rw [hget, Std.ExtTreeMap.getElem?_empty, Option.none_or]
  refine ⟨fields, hget', ?_⟩
  have hunfold : AppxRemovalSubject.decode (.ofRecord known ∅) = (do
      let fields ← okOr (Value.ofRecord known ∅).asObject
        "invalid type: expected an object"
      let kind ← requiredString "kind" fields
      AppxRemovalSubject.ofKind kind fun field => requiredString field fields) := rfl
  rw [hunfold, hread, okOr_some, bind_ok, requiredString_of_get ((hget' _).trans hkind),
    bind_ok]

private theorem appx_decode_encode (subject : AppxRemovalSubject) :
    AppxRemovalSubject.decode subject.encode = .ok subject := by
  cases subject with
  | installed name =>
      obtain ⟨fields, hget, hdecode⟩ := appx_decode_object
        [("kind", some (.string "installed")), ("full_name", some (.string name))]
        (by simp) rfl
      have hname := requiredString_of_get ((hget "full_name").trans rfl)
      rw [AppxRemovalSubject.encode, hdecode, AppxRemovalSubject.ofKind, if_pos rfl, hname]
      rfl
  | provisioned name =>
      obtain ⟨fields, hget, hdecode⟩ := appx_decode_object
        [("kind", some (.string "provisioned")), ("package_name", some (.string name))]
        (by simp) rfl
      have hname := requiredString_of_get ((hget "package_name").trans rfl)
      rw [AppxRemovalSubject.encode, hdecode, AppxRemovalSubject.ofKind,
        if_neg (by decide), if_pos rfl, hname]
      rfl

/-- What a rebuildable record is read back as: the same fields, and the outcome
that its flattened entries name. -/
theorem rebuildable_decode_encode {a : RebuildableAudit}
    (h : Disjoint RebuildableAudit.knownKeys a.unknown) :
    RebuildableAudit.decode a.encode = (do
      let outcome ← RebuildableAuditOutcome.decode
        (Value.flattened a.outcome.entries a.unknown)
      return { a with
        outcome := outcome
        unknown := Value.flattened a.outcome.entries a.unknown }) := by
  obtain ⟨fields, hread, hget, hrest⟩ :=
    Value.asObject_ofRecord_append a.keys_namedEntries
      (keys_rebuildableOutcome a.outcome) (by decide) h
  have htype : fields["type"]? = some (.string RebuildableAudit.RECORD_TYPE) :=
    hget "type" (by decide)
  have hstep : fields["step"]? = some (.string a.step) := hget "step" (by decide)
  have hcaptured : fields["capturedAt"]? = some (.string a.capturedAt) :=
    hget "capturedAt" (by decide)
  have htargets : fields["targets"]? =
      some (.array (a.targets.map RebuildableTarget.encode)) :=
    hget "targets" (by decide)
  rw [RebuildableAudit.decode, RebuildableAudit.encode, RebuildableAudit.entries, hread,
    okOr_some, bind_ok, requiredField_of_get htype, requiredString_of_get hstep,
    requiredString_of_get hcaptured, requiredField_of_get htargets, hrest,
    decodeItems_map RebuildableTarget.decode_encode]
  rfl

/-- What a manual record is read back as. -/
theorem manual_decode_encode {a : ManualRecoveryAudit}
    (h : Disjoint ManualRecoveryAudit.knownKeys a.unknown) :
    ManualRecoveryAudit.decode a.encode = (do
      let outcome ← ManualRecoveryAuditOutcome.decode
        (Value.flattened a.outcome.entries a.unknown)
      return { a with
        outcome := outcome
        unknown := Value.flattened a.outcome.entries a.unknown }) := by
  obtain ⟨fields, hread, hget, hrest⟩ :=
    Value.asObject_ofRecord_append a.keys_namedEntries
      (keys_manualOutcome a.outcome) (by decide) h
  have htype : fields["type"]? = some (.string ManualRecoveryAudit.RECORD_TYPE) :=
    hget "type" (by decide)
  have hstep : fields["step"]? = some (.string a.step) := hget "step" (by decide)
  have hcaptured : fields["capturedAt"]? = some (.string a.capturedAt) :=
    hget "capturedAt" (by decide)
  have htarget : fields["target"]? = some a.target.encode :=
    hget "target" (by decide)
  rw [ManualRecoveryAudit.decode, ManualRecoveryAudit.encode, ManualRecoveryAudit.entries,
    hread, okOr_some, bind_ok, requiredField_of_get htype, requiredString_of_get hstep,
    requiredString_of_get hcaptured, requiredField_of_get htarget, hrest,
    ManualRecoveryTarget.decode_encode]
  rfl

/-- The subjects of a mixed record come back. -/
private theorem decodeSubjects_eq (subjects : List AppxRemovalSubject)
    {fields : BTreeMap Value}
    (h : fields["manualRecoverySubjects"]? = if subjects.isEmpty then none
      else some (.array (subjects.map AppxRemovalSubject.encode))) :
    MixedRecoveryAudit.decodeSubjects fields = .ok subjects := by
  rw [MixedRecoveryAudit.decodeSubjects, h]
  cases subjects with
  | nil => rfl
  | cons subject subjects => exact decodeItems_map appx_decode_encode _

/-- What a mixed record is read back as. -/
theorem mixed_decode_encode {a : MixedRecoveryAudit}
    (h : Disjoint MixedRecoveryAudit.knownKeys a.unknown) :
    MixedRecoveryAudit.decode a.encode = (do
      let outcome ← ManualRecoveryAuditOutcome.decode
        (Value.flattened a.outcome.entries a.unknown)
      return { a with
        outcome := outcome
        unknown := Value.flattened a.outcome.entries a.unknown }) := by
  obtain ⟨fields, hread, hget, hrest⟩ :=
    Value.asObject_ofRecord_append a.keys_namedEntries
      (keys_manualOutcome a.outcome) (by decide) h
  have htype : fields["type"]? = some (.string MixedRecoveryAudit.RECORD_TYPE) :=
    hget "type" (by decide)
  have hstep : fields["step"]? = some (.string a.step) := hget "step" (by decide)
  have hcaptured : fields["capturedAt"]? = some (.string a.capturedAt) :=
    hget "capturedAt" (by decide)
  have htarget : fields["target"]? = some a.target.encode :=
    hget "target" (by decide)
  have hsubjects := decodeSubjects_eq a.manualRecoverySubjects
    (hget "manualRecoverySubjects" (by decide))
  rw [MixedRecoveryAudit.decode, MixedRecoveryAudit.encode, MixedRecoveryAudit.entries,
    hread, okOr_some, bind_ok, requiredField_of_get htype, requiredString_of_get hstep,
    requiredString_of_get hcaptured, requiredField_of_get htarget, hsubjects, hrest,
    ManualRecoveryTarget.decode_encode]
  rfl

/-! ## What was read -/

/-- A rebuildable record that was read: its outcome was read from its rest. -/
theorem rebuildable_of_decode {value : Value} {a : RebuildableAudit}
    (h : RebuildableAudit.decode value = .ok a) :
    Disjoint RebuildableAudit.knownKeys a.unknown ∧
      RebuildableAuditOutcome.decode a.unknown = .ok a.outcome := by
  obtain ⟨fields, -, h⟩ := bind_eq_ok.mp h
  obtain ⟨-, -, h⟩ := bind_eq_ok.mp h
  obtain ⟨step, -, h⟩ := bind_eq_ok.mp h
  obtain ⟨capturedAt, -, h⟩ := bind_eq_ok.mp h
  obtain ⟨targets, -, h⟩ := bind_eq_ok.mp h
  obtain ⟨outcome, houtcome, h⟩ := bind_eq_ok.mp h
  obtain rfl := Except.ok.inj h
  exact ⟨disjoint_without _ _, houtcome⟩

theorem manual_of_decode {value : Value} {a : ManualRecoveryAudit}
    (h : ManualRecoveryAudit.decode value = .ok a) :
    Disjoint ManualRecoveryAudit.knownKeys a.unknown ∧
      ManualRecoveryAuditOutcome.decode a.unknown = .ok a.outcome := by
  obtain ⟨fields, -, h⟩ := bind_eq_ok.mp h
  obtain ⟨-, -, h⟩ := bind_eq_ok.mp h
  obtain ⟨step, -, h⟩ := bind_eq_ok.mp h
  obtain ⟨capturedAt, -, h⟩ := bind_eq_ok.mp h
  obtain ⟨target, -, h⟩ := bind_eq_ok.mp h
  obtain ⟨outcome, houtcome, h⟩ := bind_eq_ok.mp h
  obtain rfl := Except.ok.inj h
  exact ⟨disjoint_without _ _, houtcome⟩

theorem mixed_of_decode {value : Value} {a : MixedRecoveryAudit}
    (h : MixedRecoveryAudit.decode value = .ok a) :
    Disjoint MixedRecoveryAudit.knownKeys a.unknown ∧
      ManualRecoveryAuditOutcome.decode a.unknown = .ok a.outcome := by
  obtain ⟨fields, -, h⟩ := bind_eq_ok.mp h
  obtain ⟨-, -, h⟩ := bind_eq_ok.mp h
  obtain ⟨step, -, h⟩ := bind_eq_ok.mp h
  obtain ⟨capturedAt, -, h⟩ := bind_eq_ok.mp h
  obtain ⟨target, -, h⟩ := bind_eq_ok.mp h
  obtain ⟨subjects, -, h⟩ := bind_eq_ok.mp h
  obtain ⟨outcome, houtcome, h⟩ := bind_eq_ok.mp h
  obtain rfl := Except.ok.inj h
  exact ⟨disjoint_without _ _, houtcome⟩

/-! ## Entries -/

private theorem recordTypeOf_ofRecord {known : List (String × Option Value)}
    {rest : BTreeMap Value} {name : String} (hnodup : (known.map Prod.fst).Nodup)
    (htype : Value.entry known "type" = some (.string name))
    (hrest : rest["type"]? = none) : recordTypeOf (.ofRecord known rest) = some name := by
  obtain ⟨fields, hread, hget⟩ := Value.asObject_ofRecord hnodup rest
  have hfield : fields["type"]? = some (.string name) := by
    rw [hget, hrest, Option.none_or, htype]
  rw [recordTypeOf, hread, Option.bind_some, hfield]
  rfl

private theorem nodup_entries {named part : List (String × Option Value)}
    {keys partKeys : List String} (hkeys : named.map Prod.fst = keys)
    (hpart : part.map Prod.fst = partKeys) (hnodup : (keys ++ partKeys).Nodup) :
    ((named ++ part).map Prod.fst).Nodup := by
  rwa [List.map_append, hkeys, hpart]

/-- A rebuildable record is read back as one. -/
theorem entry_rebuildable {a : RebuildableAudit}
    (h : Disjoint RebuildableAudit.knownKeys a.unknown) :
    AuditEntry.decode (AuditEntry.rebuildable a).encode =
      AuditEntry.rebuildable <$> RebuildableAudit.decode a.encode := by
  have htype : recordTypeOf a.encode = some RebuildableAudit.RECORD_TYPE :=
    recordTypeOf_ofRecord
      (nodup_entries a.keys_namedEntries (keys_rebuildableOutcome a.outcome)
        (by decide)) rfl (h "type" (by decide))
  rw [AuditEntry.encode, AuditEntry.decode, if_pos htype]

/-- A manual record is read back as one. -/
theorem entry_manual {a : ManualRecoveryAudit}
    (h : Disjoint ManualRecoveryAudit.knownKeys a.unknown) :
    AuditEntry.decode (AuditEntry.manual a).encode =
      AuditEntry.manual <$> ManualRecoveryAudit.decode a.encode := by
  have htype : recordTypeOf a.encode = some ManualRecoveryAudit.RECORD_TYPE :=
    recordTypeOf_ofRecord
      (nodup_entries a.keys_namedEntries (keys_manualOutcome a.outcome)
        (by decide)) rfl (h "type" (by decide))
  rw [AuditEntry.encode, AuditEntry.decode, htype, if_neg (by decide), if_pos rfl]

/-- A mixed record is read back as one. -/
theorem entry_mixed {a : MixedRecoveryAudit}
    (h : Disjoint MixedRecoveryAudit.knownKeys a.unknown) :
    AuditEntry.decode (AuditEntry.mixed a).encode =
      AuditEntry.mixed <$> MixedRecoveryAudit.decode a.encode := by
  have htype : recordTypeOf a.encode = some MixedRecoveryAudit.RECORD_TYPE :=
    recordTypeOf_ofRecord
      (nodup_entries a.keys_namedEntries (keys_manualOutcome a.outcome)
        (by decide)) rfl (h "type" (by decide))
  rw [AuditEntry.encode, AuditEntry.decode, htype, if_neg (by decide),
    if_neg (by decide), if_pos rfl]

/-- The rest of a typed entry does not use the names of its typed part. -/
def Clean : AuditEntry → Prop
  | .rebuildable a => Disjoint (a.entries.map Prod.fst) a.unknown
  | .manual a => Disjoint (a.entries.map Prod.fst) a.unknown
  | .mixed a => Disjoint (a.entries.map Prod.fst) a.unknown
  | .unknown _ => True

/-- A record of none of the three known kinds. -/
def Foreign : AuditEntry → Prop
  | .unknown value => recordTypeOf value ∉
      [some RebuildableAudit.RECORD_TYPE, some ManualRecoveryAudit.RECORD_TYPE,
        some MixedRecoveryAudit.RECORD_TYPE]
  | _ => False

/-- The rest of a typed entry that was read holds the `state`. -/
def HoldsState : AuditEntry → Prop
  | .rebuildable a => a.unknown["state"]? ≠ none
  | .manual a => a.unknown["state"]? ≠ none
  | .mixed a => a.unknown["state"]? ≠ none
  | .unknown value => Foreign (.unknown value)

theorem holdsState_of_decode {value : Value} {e : AuditEntry}
    (h : AuditEntry.decode value = .ok e) : HoldsState e := by
  unfold AuditEntry.decode at h
  by_cases hr : recordTypeOf value = some RebuildableAudit.RECORD_TYPE
  · rw [if_pos hr] at h
    obtain ⟨a, ha, rfl⟩ := map_eq_ok.mp h
    exact rebuildableOutcome_state (rebuildable_of_decode ha).2
  rw [if_neg hr] at h
  by_cases hm : recordTypeOf value = some ManualRecoveryAudit.RECORD_TYPE
  · rw [if_pos hm] at h
    obtain ⟨a, ha, rfl⟩ := map_eq_ok.mp h
    exact manualOutcome_state (manual_of_decode ha).2
  rw [if_neg hm] at h
  by_cases hx : recordTypeOf value = some MixedRecoveryAudit.RECORD_TYPE
  · rw [if_pos hx] at h
    obtain ⟨a, ha, rfl⟩ := map_eq_ok.mp h
    exact manualOutcome_state (mixed_of_decode ha).2
  · rw [if_neg hx] at h
    obtain rfl := Except.ok.inj h
    simp [HoldsState, Foreign, hr, hm, hx]

/-- **The round trip of an entry.**  Only a record of another kind comes back
as it was written. -/
theorem entry_roundTrip_iff {e : AuditEntry} (h : Clean e) :
    AuditEntry.decode e.encode = .ok e ↔ Foreign e := by
  constructor
  · intro hread
    have hstate := holdsState_of_decode hread
    cases e with
    | rebuildable a =>
        exact absurd (h "state" (by simp [RebuildableAudit.entries,
          keys_rebuildableOutcome])) hstate
    | manual a =>
        exact absurd (h "state" (by simp [ManualRecoveryAudit.entries,
          keys_manualOutcome])) hstate
    | mixed a =>
        exact absurd (h "state" (by simp [MixedRecoveryAudit.entries,
          keys_manualOutcome])) hstate
    | unknown value => exact hstate
  · intro hforeign
    cases e with
    | unknown value =>
        simp only [Foreign, List.mem_cons, List.not_mem_nil, or_false, not_or] at hforeign
        rw [AuditEntry.encode, AuditEntry.decode, if_neg hforeign.1, if_neg hforeign.2.1,
          if_neg hforeign.2.2]
    | rebuildable a | manual a | mixed a => cases hforeign

/-! ## Documents -/

/-- The named fields of the document. -/
def fileKeys : List String := ["entries", "created"]

private theorem filter_toList_eq_nil {m : BTreeMap Value} {k : String} :
    (m.toList.filter fun entry => entry.1 = k) = [] ↔ m[k]? = none := by
  rw [List.filter_eq_nil_iff]
  constructor
  · intro h
    cases hget : m[k]? with
    | none => rfl
    | some v =>
        have hmem := Std.ExtTreeMap.mem_toList_iff_getElem?_eq_some.mpr hget
        exact absurd (by simp) (h (k, v) hmem)
  · intro h x hx hk
    have hget := Std.ExtTreeMap.mem_toList_iff_getElem?_eq_some.mp hx
    rw [of_decide_eq_true hk, h] at hget
    cases hget

/-- A named field of a written document is read when the rest does not repeat
it, and refused otherwise. -/
private theorem uniqueField_append {fields : List (String × Value)} {field : String}
    {value : Value} {rest : BTreeMap Value}
    (hfields : (fields.filter fun entry => entry.1 = field) = [(field, value)])
    {found : Option Value} :
    uniqueField field (fields ++ rest.toList) = .ok found ↔
      rest[field]? = none ∧ found = some value := by
  rw [uniqueField, List.filter_append, hfields, ← filter_toList_eq_nil]
  cases hrest : rest.toList.filter fun entry => entry.1 = field with
  | nil => simp [eq_comm]
  | cons x xs => simp

/-- The named entries of a written document. -/
private def fileEntries (file : AuditFile) : List (String × Option Value) :=
  [("entries", some (.array (file.entries.map AuditEntry.encode))),
    ("created", some (.string file.created))]

private theorem without_fileKeys {file : AuditFile} (h : Disjoint fileKeys file.unknown) :
    BTreeMap.without (Std.ExtTreeMap.ofList
      (Value.present (fileEntries file) ++ file.unknown.toList)) fileKeys =
      file.unknown := by
  have hkeys : (fileEntries file).map Prod.fst = fileKeys := rfl
  have hempty : ([] : List (String × Option Value)).map Prod.fst = [] := rfl
  obtain ⟨fields, hread, -, hrest⟩ :=
    Value.asObject_ofRecord_append hkeys hempty (by decide) h
  rw [List.append_nil] at hread
  have hfields : Std.ExtTreeMap.ofList
      (Value.present (fileEntries file) ++ file.unknown.toList) = fields :=
    Option.some.inj hread
  rw [hfields, hrest]
  exact BTreeMap.ofList_toList _

/-- **Reading a document back.**  It is read when its rest repeats no named
field, and then the entries are read one by one. -/
theorem file_decode_encode {file read : AuditFile} :
    AuditFile.decode file.encode = .ok read ↔
      Disjoint fileKeys file.unknown ∧
        (file.entries.map AuditEntry.encode).mapM AuditEntry.decode = .ok read.entries ∧
        read = { file with entries := read.entries } := by
  have hdecode : AuditFile.decode file.encode = (do
      let entries ← uniqueField "entries"
        (Value.present (fileEntries file) ++ file.unknown.toList)
      let created ← uniqueField "created"
        (Value.present (fileEntries file) ++ file.unknown.toList)
      let entries ← AuditFile.decodeEntries entries
      let created ← okOr created "missing field created"
      let created ← okOr created.asStr "invalid type: expected a string"
      return {
        entries := entries
        created := created
        unknown := BTreeMap.without (Std.ExtTreeMap.ofList
          (Value.present (fileEntries file) ++ file.unknown.toList)) fileKeys }) := rfl
  have hentries : ((Value.present (fileEntries file)).filter fun entry =>
      entry.1 = "entries") =
      [("entries", .array (file.entries.map AuditEntry.encode))] := rfl
  have hcreated : ((Value.present (fileEntries file)).filter fun entry =>
      entry.1 = "created") = [("created", .string file.created)] := rfl
  rw [hdecode]
  constructor
  · intro h
    obtain ⟨entries, hfield, h⟩ := bind_eq_ok.mp h
    obtain ⟨hnoEntries, rfl⟩ := (uniqueField_append hentries).mp hfield
    obtain ⟨created, hfield, h⟩ := bind_eq_ok.mp h
    obtain ⟨hnoCreated, rfl⟩ := (uniqueField_append hcreated).mp hfield
    obtain ⟨entries, hitems, h⟩ := bind_eq_ok.mp h
    have hdisjoint : Disjoint fileKeys file.unknown := by
      intro k hk
      rcases List.mem_cons.mp hk with rfl | hk
      · exact hnoEntries
      · rw [List.mem_singleton.mp hk, hnoCreated]
    rw [without_fileKeys hdisjoint] at h
    obtain rfl := Except.ok.inj h
    exact ⟨hdisjoint, hitems, rfl⟩
  · rintro ⟨hdisjoint, hitems, hread⟩
    have hnoEntries := hdisjoint "entries" (by decide)
    have hnoCreated := hdisjoint "created" (by decide)
    rw [(uniqueField_append hentries).mpr ⟨hnoEntries, rfl⟩, bind_ok,
      (uniqueField_append hcreated).mpr ⟨hnoCreated, rfl⟩, bind_ok,
      without_fileKeys hdisjoint, hread]
    show (do
      let entries ← (file.entries.map AuditEntry.encode).mapM AuditEntry.decode
      return { file with entries := entries }) = _
    rw [hitems]
    rfl

/-- **The round trip of a document**, entry by entry. -/
theorem file_roundTrip_iff {file : AuditFile} (h : ∀ e ∈ file.entries, Clean e) :
    AuditFile.decode file.encode = .ok file ↔
      Disjoint fileKeys file.unknown ∧ ∀ e ∈ file.entries, Foreign e := by
  rw [file_decode_encode, mapM_map_eq_ok]
  constructor
  · rintro ⟨hroot, hitems, -⟩
    exact ⟨hroot, fun e he => (entry_roundTrip_iff (h e he)).mp (hitems e he)⟩
  · rintro ⟨hroot, hforeign⟩
    exact ⟨hroot, fun e he => (entry_roundTrip_iff (h e he)).mpr (hforeign e he), rfl⟩

/-! ## Closing a pending record -/

/-- The outcome of an entry is pending. -/
def IsPending : AuditEntry → Prop
  | .rebuildable a => a.outcome = .pending
  | .manual a => a.outcome = .pending
  | .mixed a => a.outcome = .pending
  | .unknown _ => False

/-- The second entry is the first one finalised or failed. -/
inductive Closes : AuditEntry → AuditEntry → Prop
  | rebuildable (a : RebuildableAudit) (finalizedAt : String) :
      Closes (.rebuildable a) (.rebuildable (a.finalized finalizedAt))
  | finalized (a : IrreversibleAudit) (finalizedAt : String) :
      Closes (.ofIrreversible a) (.ofIrreversible (a.finalized finalizedAt))
  | failed (a : IrreversibleAudit) (failedAt : String) :
      Closes (.ofIrreversible a) (.ofIrreversible (a.failed failedAt))

/-- An entry with a pending `state` in its rest is read back as pending,
whatever its outcome is. -/
def StaysPending : AuditEntry → Prop
  | .rebuildable a => Disjoint RebuildableAudit.knownKeys a.unknown ∧
      NamesPending rebuildableStates a.unknown
  | .manual a => Disjoint ManualRecoveryAudit.knownKeys a.unknown ∧
      NamesPending manualStates a.unknown
  | .mixed a => Disjoint MixedRecoveryAudit.knownKeys a.unknown ∧
      NamesPending manualStates a.unknown
  | .unknown _ => False

/-- A pending record that was read holds a pending `state`. -/
theorem staysPending_of_decode {value : Value} {e : AuditEntry}
    (h : AuditEntry.decode value = .ok e) (hpending : IsPending e) : StaysPending e := by
  unfold AuditEntry.decode at h
  by_cases hr : recordTypeOf value = some RebuildableAudit.RECORD_TYPE
  · rw [if_pos hr] at h
    obtain ⟨a, ha, rfl⟩ := map_eq_ok.mp h
    obtain ⟨hdisjoint, houtcome⟩ := rebuildable_of_decode ha
    have hp : a.outcome = .pending := hpending
    rw [hp, rebuildableOutcome_pending] at houtcome
    exact ⟨hdisjoint, houtcome⟩
  rw [if_neg hr] at h
  by_cases hm : recordTypeOf value = some ManualRecoveryAudit.RECORD_TYPE
  · rw [if_pos hm] at h
    obtain ⟨a, ha, rfl⟩ := map_eq_ok.mp h
    obtain ⟨hdisjoint, houtcome⟩ := manual_of_decode ha
    have hp : a.outcome = .pending := hpending
    rw [hp, manualOutcome_pending] at houtcome
    exact ⟨hdisjoint, houtcome⟩
  rw [if_neg hm] at h
  by_cases hx : recordTypeOf value = some MixedRecoveryAudit.RECORD_TYPE
  · rw [if_pos hx] at h
    obtain ⟨a, ha, rfl⟩ := map_eq_ok.mp h
    obtain ⟨hdisjoint, houtcome⟩ := mixed_of_decode ha
    have hp : a.outcome = .pending := hpending
    rw [hp, manualOutcome_pending] at houtcome
    exact ⟨hdisjoint, houtcome⟩
  · rw [if_neg hx] at h
    obtain rfl := Except.ok.inj h
    cases hpending

/-- Closing an entry leaves its rest alone. -/
theorem StaysPending.closes {e e' : AuditEntry} (h : StaysPending e) (hc : Closes e e') :
    StaysPending e' := by
  cases hc with
  | rebuildable a finalizedAt => exact h
  | finalized a finalizedAt | failed a failedAt =>
      cases a with
      | manual a => exact h
      | mixed a => exact h

/-- **The rest wins.**  An entry with a pending `state` in its rest is read back
as pending. -/
theorem StaysPending.read {e : AuditEntry} (h : StaysPending e) :
    ∃ read, AuditEntry.decode e.encode = .ok read ∧ IsPending read := by
  cases e with
  | rebuildable a =>
      obtain ⟨hdisjoint, hstate⟩ := h
      have hnodup : (a.outcome.entries.map Prod.fst).Nodup := by
        rw [keys_rebuildableOutcome]
        decide
      have houtcome := rebuildableOutcome_pending.mpr (hstate.flattened hnodup)
      rw [entry_rebuildable hdisjoint, rebuildable_decode_encode hdisjoint, houtcome]
      exact ⟨_, rfl, rfl⟩
  | manual a =>
      obtain ⟨hdisjoint, hstate⟩ := h
      have hnodup : (a.outcome.entries.map Prod.fst).Nodup := by
        rw [keys_manualOutcome]
        decide
      have houtcome := manualOutcome_pending.mpr (hstate.flattened hnodup)
      rw [entry_manual hdisjoint, manual_decode_encode hdisjoint, houtcome]
      exact ⟨_, rfl, rfl⟩
  | mixed a =>
      obtain ⟨hdisjoint, hstate⟩ := h
      have hnodup : (a.outcome.entries.map Prod.fst).Nodup := by
        rw [keys_manualOutcome]
        decide
      have houtcome := manualOutcome_pending.mpr (hstate.flattened hnodup)
      rw [entry_mixed hdisjoint, mixed_decode_encode hdisjoint, houtcome]
      exact ⟨_, rfl, rfl⟩
  | unknown value => cases h

/-! ## What the codec keeps -/

/-- **When the codec is lossless, and that closing never sticks.**  A document
whose typed entries are clean comes back as it was written exactly when it has
no typed entry and its rest repeats no named field.  A pending record that was
read, finalised or failed, is read back as pending. -/
theorem auditCodec (file : AuditFile) (value : Value) (e closed : AuditEntry) :
    ((∀ e ∈ file.entries, Clean e) →
      (AuditFile.decode file.encode = .ok file ↔
        Disjoint fileKeys file.unknown ∧ ∀ e ∈ file.entries, Foreign e)) ∧
    (AuditEntry.decode value = .ok e → IsPending e → Closes e closed →
      ∃ read, AuditEntry.decode closed.encode = .ok read ∧ IsPending read) :=
  ⟨fun h => file_roundTrip_iff h,
    fun hread hpending hc => ((staysPending_of_decode hread hpending).closes hc).read⟩

/-- A pending audit of the driver removal. -/
def sampleAudit : ManualRecoveryAudit :=
  .mkPending "P2:2" "2026-05-01 10:00:00" .exactDriverPackageRemoval

def sampleFile : AuditFile where
  entries := [.manual sampleAudit]
  created := "2026-05-01 10:00:00"

/-- The audit as it is read from the document. -/
def sampleRead : ManualRecoveryAudit :=
  { sampleAudit with unknown := Std.ExtTreeMap.ofList [("state", Value.string "pending")] }

private theorem decode_sample :
    AuditEntry.decode (AuditEntry.manual sampleAudit).encode = .ok (.manual sampleRead) := by
  decide

/-- The document of one new pending audit does not come back, and the audit that
was read from it is read back as pending after it was recorded as failed. -/
theorem auditCodec_loses :
    (∀ e ∈ sampleFile.entries, Clean e) ∧
      AuditFile.decode sampleFile.encode ≠ .ok sampleFile ∧
      AuditEntry.decode (AuditEntry.manual sampleAudit).encode = .ok (.manual sampleRead) ∧
      ∃ read, AuditEntry.decode (AuditEntry.ofIrreversible
        ((IrreversibleAudit.manual sampleRead).failed "2026-05-01 10:05:00")).encode =
          .ok (.manual read) ∧ read.outcome = .pending := by
  refine ⟨?_, by decide, decode_sample, ?_⟩
  · intro e he
    obtain rfl := List.mem_singleton.mp he
    show Disjoint _ _
    intro k hk
    exact Std.ExtTreeMap.getElem?_empty
  · refine ⟨{ sampleRead with
      unknown := Std.ExtTreeMap.ofList [("state", Value.string "pending"),
        ("failedAt", Value.string "2026-05-01 10:05:00")] }, by decide, rfl⟩

/-- A document with one record of a later version comes back. -/
theorem auditCodec_foreign :
    AuditFile.decode (AuditFile.encode
        { entries := [.unknown (.object [("type", .string "future")])], created := "now" }) =
      .ok { entries := [.unknown (.object [("type", .string "future")])], created := "now" } ∧
    ∃ read, AuditEntry.decode (AuditEntry.ofIrreversible
        ((IrreversibleAudit.manual sampleRead).failed "later")).encode = .ok read ∧
      IsPending read := by
  constructor
  · refine ((auditCodec _ .null (.unknown .null) (.unknown .null)).1 fun e he => ?_).mpr ⟨fun k _ => ?_, fun e he => ?_⟩
    · obtain rfl := List.mem_singleton.mp he
      trivial
    · exact Std.ExtTreeMap.getElem?_empty
    · obtain rfl := List.mem_singleton.mp he
      show recordTypeOf _ ∉ _
      decide
  · exact (auditCodec sampleFile _ _ _).2 decode_sample rfl (.failed (.manual sampleRead) "later")

end FrametimeCfg.Verified.AuditCodec
