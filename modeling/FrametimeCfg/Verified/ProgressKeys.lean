import FrametimeCfg.Lib.Decimal
import FrametimeCfg.Verified.StateCodec

/-!
# The keys of the progress

The progress keeps the steps by their keys in three collections, and the engine and
the guards look a step up by the key it writes itself.  The operations on a step keep
its key out of the other two collections.  The decoder reads the three collections one
by one and keeps every key that parses as a step: `P1:01` and `P1:+1` are read, stay
as they are and are found by nobody.

`progressKeys` says for which documents this happens.
-/

namespace FrametimeCfg.Verified.ProgressKeys

open FrametimeCfg.Domain
open FrametimeCfg.Domain.Progress
open FrametimeCfg.Lib.OrderedMap
open FrametimeCfg.Lib.Text
open FrametimeCfg.Verified.Reload
open FrametimeCfg.Verified.StateCodec

/-! ## The collections -/

/-- The key is in the collection. -/
def Holds (p : Progress) : Record → String → Prop
  | .completed, k => k ∈ p.completedSteps
  | .skipped, k => k ∈ p.skippedSteps
  | .advised, k => k ∈ p.advisories

theorem holds_keyFor (p : Progress) (r : Record) (id : StepId) :
    Holds p r (keyFor id) ↔ p.isIn r id = true := by
  cases r <;> simp [Holds, isIn, isCompleted, isSkipped, hasAdvisory]

/-- The progress after any number of operations on steps of the catalog, with the
document written and read again in between. -/
inductive Reached (document : Value) : Progress → Prop where
  | read {p : Progress} (h : Progress.decode document = .ok p) : Reached document p
  | complete {p : Progress} (h : Reached document p) (step : Step)
      (hstep : step ∈ stepCatalog) (timestamp : String) :
      Reached document (p.completeStep step.id timestamp)
  | skip {p : Progress} (h : Reached document p) (step : Step)
      (hstep : step ∈ stepCatalog) : Reached document (p.skipStep step.id)
  | acknowledge {p : Progress} (h : Reached document p) (step : Step)
      (hstep : step ∈ stepCatalog) (reason : String) :
      Reached document (p.acknowledgeStepAdvisory step.id reason)
  | reload {p q : Progress} (h : Reached document p)
      (hread : Progress.decode p.encode = .ok q) : Reached document q

/-- Every key is the one of a step of the catalog, in one collection, and the step is
found by it. -/
structure Canonical (p : Progress) : Prop where
  spelled : ∀ r k, Holds p r k → ∃ step ∈ stepCatalog, k = keyFor step.id
  disjoint : ∀ r r' k, Holds p r k → Holds p r' k → r = r'
  found : ∀ r k id, Holds p r k → StepId.fromProgressKey k = some id →
    p.isIn r id = true

/-! ## The document -/

/-- The document records the key: a text of one of the two arrays, or an advisory that
decodes with a reason. -/
def Names (document : Value) : Record → String → Prop
  | .completed, k => validProgressKey k = true ∧
      ∃ items, (field document "completedSteps").bind Value.asArray = some items ∧
        .string k ∈ items
  | .skipped, k => validProgressKey k = true ∧
      ∃ items, (field document "skippedSteps").bind Value.asArray = some items ∧
        .string k ∈ items
  | .advised, k => validProgressKey k = true ∧
      ∃ entries v a, (field document "advisories").bind Value.asObject = some entries ∧
        entries[k]? = some v ∧ AdvisoryResolution.decode v = .ok a ∧
        a.reason.isEmpty = false

/-- The number of the key has neither a plus sign nor a leading zero. -/
def plainKey (k : String) : Bool :=
  match splitOnce ':' k.toList with
  | some (_, number) => number.head? ≠ some '+' && number.head? ≠ some '0'
  | none => false

/-- The document writes every key as the program does, and each in one collection. -/
structure Plain (document : Value) : Prop where
  spelled : ∀ r k, Names document r k → plainKey k = true
  once : ∀ r r' k, Names document r k → Names document r' k → r = r'

/-- The keys stay canonical, and what the document records is seen. -/
structure KeysTracked (document : Value) : Prop where
  canonical : ∀ p, Reached document p → Canonical p
  seen : ∀ p, Progress.decode document = .ok p →
    ∀ r k id, Names document r k → StepId.fromProgressKey k = some id →
      p.isIn r id = true

/-! ## The spelling of a key -/

theorem splitOnce_eq_some {c : Char} {text before after : List Char}
    (h : splitOnce c text = some (before, after)) : text = before ++ c :: after := by
  induction text generalizing before with
  | nil => cases h
  | cons d text ih =>
      unfold splitOnce at h
      by_cases hd : d = c
      · rw [if_pos hd] at h
        have hparts := Prod.mk.inj (Option.some.inj h)
        rw [← hparts.1, ← hparts.2, hd]
        rfl
      · rw [if_neg hd] at h
        obtain ⟨parts, hparts, heq⟩ := Option.map_eq_some_iff.mp h
        have hnames := Prod.mk.inj heq
        have hparts' : splitOnce c text = some (parts.1, after) := by
          rw [hparts, ← hnames.2]
        rw [ih hparts', ← hnames.1]
        rfl

/-- A number that is read as a positive byte. -/
theorem parseU8_pos {number : List Char} {n : UInt8}
    (h : (parseU8 number).filter (0 < ·) = some n) :
    parseDecimalNat number = some n.toNat ∧ 0 < n.toNat := by
  obtain ⟨hparse, hpos⟩ := Option.filter_eq_some_iff.mp h
  refine ⟨?_, UInt8.lt_iff_toNat_lt.mp (of_decide_eq_true hpos)⟩
  unfold parseU8 at hparse
  split at hparse
  · rename_i m hm
    split at hparse
    · rename_i hlt
      rw [hm, ← Option.some.inj hparse, UInt8.toNat_ofNat_of_lt' hlt]
    · cases hparse
  · cases hparse

/-- The parts of a key that names a step. -/
theorem fromProgressKey_parts {k : String} {id : StepId}
    (h : StepId.fromProgressKey k = some id) :
    ∃ number, splitOnce ':' k.toList =
        some ('P' :: (toString id.phase.number.toNat).toList, number) ∧
      parseDecimalNat number = some id.number.toNat ∧ 0 < id.number.toNat := by
  unfold StepId.fromProgressKey at h
  split at h
  · rename_i rest hrest
    split at h
    · cases h
    · rename_i phase number hsplit
      have hkey : splitOnce ':' k.toList = some ('P' :: phase, number) := by
        rw [hrest]
        unfold splitOnce
        rw [if_neg (by decide), hsplit]
        rfl
      dsimp only at h
      split at h
      · rename_i p n hphase hnumber
        have hname : String.ofList phase = toString p.number.toNat := by
          split at hphase
          · rename_i hone
            rw [hone, ← Option.some.inj hphase]
            rfl
          · rename_i htwo
            rw [htwo, ← Option.some.inj hphase]
            rfl
          · rename_i hthree
            rw [hthree, ← Option.some.inj hphase]
            rfl
          · cases hphase
        rw [← Option.some.inj h, hkey]
        show ∃ number, some ('P' :: phase, _) =
          some ('P' :: (toString p.number.toNat).toList, number) ∧ _
        rw [← hname, String.toList_ofList]
        exact ⟨number, rfl, parseU8_pos hnumber⟩
      · cases h
  · cases h

/-- **A plain key is the key of its step.** -/
theorem plainKey_iff {k : String} {id : StepId} (h : StepId.fromProgressKey k = some id) :
    plainKey k = true ↔ k = keyFor id := by
  obtain ⟨number, hsplit, hvalue, hpos⟩ := fromProgressKey_parts h
  have hdecimal := decimal_iff hvalue hpos
  have htext : k.toList =
      'P' :: (toString id.phase.number.toNat).toList ++ ':' :: number :=
    splitOnce_eq_some hsplit
  have hplain : plainKey k = true ↔ number = id.number.toNat.repr.toList := by
    rw [hdecimal]
    unfold plainKey
    rw [hsplit]
    simp
  have hkey : (keyFor id).toList = 'P' :: (toString id.phase.number.toNat).toList ++
      ':' :: id.number.toNat.repr.toList := by
    show ("P" ++ toString id.phase.number.toNat ++ ":" ++
      toString id.number.toNat).toList = _
    rw [String.toList_append, String.toList_append, String.toList_append,
      List.append_assoc, List.append_assoc]
    rfl
  rw [hplain, ← String.toList_inj, htext, hkey]
  simp

/-! ## What is read -/

section

variable {document : Value} {p q : Progress} {r : Record} {k : String}

theorem mem_tolerantKeys_iff {value : Option Value} :
    k ∈ tolerantKeys value ↔ validProgressKey k = true ∧
      ∃ items, value.bind Value.asArray = some items ∧ .string k ∈ items := by
  have hstring : ∀ v : Value, v.asStr = some k ↔ v = .string k := by
    intro v
    cases v <;> simp [Value.asStr]
  unfold tolerantKeys
  rw [List.mem_toFinset, List.mem_filter, and_comm]
  cases value.bind Value.asArray with
  | none => simp
  | some items => simp [List.mem_filterMap, hstring]

theorem tolerantAdvisory_isSome {v : Value} :
    (tolerantAdvisory k v).isSome = true ↔ validProgressKey k = true ∧
      ∃ a, AdvisoryResolution.decode v = .ok a ∧ a.reason.isEmpty = false := by
  unfold tolerantAdvisory
  by_cases hvalid : validProgressKey k = true
  · rw [if_pos hvalid]
    cases AdvisoryResolution.decode v with
    | error e => simp [Except.toOption]
    | ok a => simp [Except.toOption, hvalid, Option.filter_some]
  · rw [if_neg hvalid]
    simp [hvalid]

/-- A document that is not read names no key. -/
theorem not_names_of_error {e : String} (h : Progress.decode document = .error e) :
    ¬ Names document r k := by
  have hobject : document.asObject = none := by
    unfold Progress.decode at h
    split at h
    · assumption
    · cases h
  have hfield : ∀ name, field document name = none := by
    intro name
    unfold field
    rw [hobject]
    rfl
  cases r <;> simp [Names, hfield]

/-- A key that is named is valid. -/
theorem Names.valid (h : Names document r k) : validProgressKey k = true := by
  cases r <;> exact h.1

/-- A valid key is the one of a step. -/
theorem validProgressKey_step (h : validProgressKey k = true) :
    ∃ id, StepId.fromProgressKey k = some id ∧ ∃ step ∈ stepCatalog, step.id = id := by
  unfold validProgressKey at h
  obtain ⟨id, hid, hstep⟩ := (Option.any_eq_true _ _).mp h
  obtain ⟨step, hfound⟩ := Option.isSome_iff_exists.mp hstep
  unfold stepById at hfound
  have hid' := List.find?_some hfound
  exact ⟨id, hid, step, List.mem_of_find?_eq_some hfound, of_decide_eq_true hid'⟩

/-- The decoder keeps the keys that the document names. -/
theorem holds_iff_names (h : Progress.decode document = .ok p) :
    Holds p r k ↔ Names document r k := by
  unfold Progress.decode at h
  split at h
  · cases h
  · rename_i fields hfields
    have hfield : ∀ name, field document name = fields[name]? := by
      intro name
      unfold field
      rw [hfields]
      rfl
    obtain rfl := Except.ok.inj h
    cases r with
    | completed =>
        simp only [Names, hfield]
        exact mem_tolerantKeys_iff
    | skipped =>
        simp only [Names, hfield]
        exact mem_tolerantKeys_iff
    | advised =>
        simp only [Names, hfield]
        show k ∈ ((((fields["advisories"]?).bind Value.asObject).getD ∅).filterMap
          tolerantAdvisory) ↔ _
        rw [Std.ExtTreeMap.mem_iff_isSome_getElem?, Std.ExtTreeMap.getElem?_filterMap']
        cases (fields["advisories"]?).bind Value.asObject with
        | none => simp
        | some entries =>
            show ((entries[k]?).bind (tolerantAdvisory k)).isSome = true ↔ _
            cases hentry : entries[k]? with
            | none => simp [hentry]
            | some v =>
                show (tolerantAdvisory k v).isSome = true ↔ _
                rw [tolerantAdvisory_isSome]
                constructor
                · intro hread
                  obtain ⟨a, ha⟩ := hread.2
                  exact ⟨hread.1, entries, v, a, rfl, hentry, ha⟩
                · intro hnames
                  obtain ⟨hvalid, entries', v', a, hsame, hv, ha⟩ := hnames
                  rw [← Option.some.inj hsame, hentry] at hv
                  exact ⟨hvalid, a, Option.some.inj hv ▸ ha⟩

/-- Writing and reading adds no key. -/
theorem holds_of_reload (hstable : StableProgress p)
    (hread : Progress.decode p.encode = .ok q) (h : Holds q r k) : Holds p r k := by
  have hnodup : (p.entries.map Prod.fst).Nodup := by simp [Progress.entries]
  obtain ⟨fields, hfields, hget⟩ := Value.asObject_ofRecord hnodup p.unknown
  have hobject : p.encode.asObject = some fields := hfields
  have hentry : ∀ name ∈ Progress.knownKeys, field p.encode name =
      Value.entry p.entries name := by
    intro name hname
    unfold field
    rw [hobject]
    show fields[name]? = _
    rw [hget, hstable name hname]
    rfl
  have hkeys : ∀ keys : Finset String, k ∈ tolerantKeys (some (encodeKeys keys)) →
      k ∈ keys := by
    intro keys hmem
    rw [tolerantKeys_encodeKeys] at hmem
    exact Finset.mem_of_mem_filter k hmem
  have hnames := (holds_iff_names hread).mp h
  cases r with
  | completed =>
      refine hkeys _ (mem_tolerantKeys_iff.mpr ?_)
      dsimp only [Names] at hnames
      rw [hentry _ (by decide)] at hnames
      exact hnames
  | skipped =>
      refine hkeys _ (mem_tolerantKeys_iff.mpr ?_)
      dsimp only [Names] at hnames
      rw [hentry _ (by decide)] at hnames
      exact hnames
  | advised =>
      obtain ⟨-, entries, v, a, hentries, hv, -⟩ := hnames
      rw [hentry _ (by decide)] at hentries
      have hwritten : Value.entry p.entries "advisories" =
          if p.advisories.isEmpty then none
          else some (.ofObject (p.advisories.map fun _ a => a.encode)) := rfl
      rw [hwritten] at hentries
      split at hentries
      · cases hentries
      · have hmap : p.advisories.map (fun _ a => a.encode) = entries := by
          rw [Option.bind_some, Value.asObject_ofObject] at hentries
          exact Option.some.inj hentries
        rw [← hmap, Std.ExtTreeMap.getElem?_map] at hv
        obtain ⟨b, hb, -⟩ := Option.map_eq_some_iff.mp hv
        show k ∈ p.advisories
        rw [Std.ExtTreeMap.mem_iff_isSome_getElem?, hb]
        rfl

end

/-! ## The runs -/

/-- A key is recorded under its own collection, and nothing else changes. -/
structure Records (p q : Progress) (r : Record) (step : Step) : Prop where
  keys : ∀ r' k, Holds q r' k → (k = keyFor step.id ∧ r' = r) ∨
    (k ≠ keyFor step.id ∧ Holds p r' k)
  rest : q.unknown = p.unknown

section

variable (p : Progress) (step : Step)

theorem records_complete (timestamp : String) :
    Records p (p.completeStep step.id timestamp) .completed step := by
  refine ⟨?_, rfl⟩
  intro r k h
  by_cases hk : k = keyFor step.id
  · subst hk
    rw [holds_keyFor, isIn_completeStep, if_pos rfl] at h
    exact .inl ⟨rfl, of_decide_eq_true h⟩
  · refine .inr ⟨hk, ?_⟩
    have hk' : k ≠ key step.id.phase.number step.id.number := hk
    cases r with
    | completed => exact Finset.mem_of_mem_insert_of_ne h hk
    | skipped => exact Finset.mem_of_mem_erase h
    | advised => exact (Std.ExtTreeMap.mem_erase.mp h).2

theorem records_skip : Records p (p.skipStep step.id) .skipped step := by
  refine ⟨?_, rfl⟩
  intro r k h
  by_cases hk : k = keyFor step.id
  · subst hk
    rw [holds_keyFor, isIn_skipStep, if_pos rfl] at h
    exact .inl ⟨rfl, of_decide_eq_true h⟩
  · refine .inr ⟨hk, ?_⟩
    cases r with
    | completed => exact Finset.mem_of_mem_erase h
    | skipped => exact Finset.mem_of_mem_insert_of_ne h hk
    | advised => exact (Std.ExtTreeMap.mem_erase.mp h).2

theorem records_acknowledge (reason : String) :
    Records p (p.acknowledgeStepAdvisory step.id reason) .advised step := by
  refine ⟨?_, rfl⟩
  intro r k h
  by_cases hk : k = keyFor step.id
  · subst hk
    rw [holds_keyFor, isIn_acknowledgeStepAdvisory, if_pos rfl] at h
    exact .inl ⟨rfl, of_decide_eq_true h⟩
  · refine .inr ⟨hk, ?_⟩
    cases r with
    | completed => exact Finset.mem_of_mem_erase h
    | skipped => exact Finset.mem_of_mem_erase h
    | advised =>
        rcases Std.ExtTreeMap.mem_insert.mp h with heq | hold
        · exact absurd (compare_eq_iff_eq.mp heq).symm hk
        · exact hold

end

theorem fromProgressKey_catalog :
    ∀ step ∈ stepCatalog, StepId.fromProgressKey (keyFor step.id) = some step.id := by
  decide +kernel

/-- A key that is spelled as a step of the catalog is found. -/
theorem canonical_of {p : Progress}
    (hspelled : ∀ r k, Holds p r k → ∃ step ∈ stepCatalog, k = keyFor step.id)
    (hdisjoint : ∀ r r' k, Holds p r k → Holds p r' k → r = r') : Canonical p := by
  refine ⟨hspelled, hdisjoint, ?_⟩
  intro r k id h hid
  obtain ⟨step, hstep, rfl⟩ := hspelled r k h
  rw [fromProgressKey_catalog step hstep] at hid
  rw [← Option.some.inj hid]
  exact (holds_keyFor p r step.id).mp h

theorem canonical_of_records {p q : Progress} {r : Record} {step : Step}
    (hstep : step ∈ stepCatalog) (hp : Canonical p) (h : Records p q r step) :
    Canonical q := by
  apply canonical_of
  · intro r' k hk
    rcases h.keys r' k hk with hnew | hold
    · exact ⟨step, hstep, hnew.1⟩
    · exact hp.spelled r' k hold.2
  · intro r₁ r₂ k h₁ h₂
    rcases h.keys r₁ k h₁ with hnew₁ | hold₁
    · rcases h.keys r₂ k h₂ with hnew₂ | hold₂
      · rw [hnew₁.2, hnew₂.2]
      · exact absurd hnew₁.1 hold₂.1
    · rcases h.keys r₂ k h₂ with hnew₂ | hold₂
      · exact absurd hnew₂.1 hold₁.1
      · exact hp.disjoint r₁ r₂ k hold₁.2 hold₂.2

/-- **Runs keep the keys canonical.** -/
theorem canonical_reached {document : Value} (hread : ∀ p,
    Progress.decode document = .ok p → Canonical p) {p : Progress}
    (h : Reached document p) : Canonical p ∧ StableProgress p := by
  have hrest : ∀ {p q : Progress} {r : Record} {step : Step}, Records p q r step →
      StableProgress p → StableProgress q := by
    intro p q r step hrecords hstable k hk
    rw [hrecords.rest]
    exact hstable k hk
  induction h with
  | read h => exact ⟨hread _ h, stableProgress_of_decode h⟩
  | @complete p _ step hstep timestamp ih =>
      have hrecords := records_complete p step timestamp
      exact ⟨canonical_of_records hstep ih.1 hrecords, hrest hrecords ih.2⟩
  | @skip p _ step hstep ih =>
      have hrecords := records_skip p step
      exact ⟨canonical_of_records hstep ih.1 hrecords, hrest hrecords ih.2⟩
  | @acknowledge p _ step hstep reason ih =>
      have hrecords := records_acknowledge p step reason
      exact ⟨canonical_of_records hstep ih.1 hrecords, hrest hrecords ih.2⟩
  | reload h hread ih =>
      refine ⟨canonical_of ?_ ?_, stableProgress_of_decode hread⟩
      · intro r k hk
        exact ih.1.spelled r k (holds_of_reload ih.2 hread hk)
      · intro r r' k hk hk'
        exact ih.1.disjoint r r' k (holds_of_reload ih.2 hread hk)
          (holds_of_reload ih.2 hread hk')

/-- **The keys of a progress document.**  They stay canonical in every run, and what
the document records is seen, exactly when the document is plain. -/
theorem progressKeys (document : Value) : KeysTracked document ↔ Plain document := by
  constructor
  · intro h
    have hread : ∀ r k, Names document r k → ∃ p, Canonical p ∧
        ∀ r' k', Names document r' k' → Holds p r' k' := by
      intro r k hk
      obtain ⟨p, hp⟩ : ∃ p, Progress.decode document = .ok p := by
        cases hp : Progress.decode document with
        | ok p => exact ⟨p, rfl⟩
        | error e => exact absurd hk (not_names_of_error hp)
      exact ⟨p, h.canonical p (.read hp), fun r' k' => (holds_iff_names hp).mpr⟩
    constructor
    · intro r k hk
      obtain ⟨p, hcanonical, hholds⟩ := hread r k hk
      obtain ⟨step, hstep, rfl⟩ := hcanonical.spelled r k (hholds r k hk)
      exact (plainKey_iff (fromProgressKey_catalog step hstep)).mpr rfl
    · intro r r' k hk hk'
      obtain ⟨p, hcanonical, hholds⟩ := hread r k hk
      exact hcanonical.disjoint r r' k (hholds r k hk) (hholds r' k hk')
  · intro h
    have hread : ∀ p, Progress.decode document = .ok p → Canonical p := by
      intro p hp
      apply canonical_of
      · intro r k hk
        have hnames := (holds_iff_names hp).mp hk
        obtain ⟨id, hid, step, hstep, hsame⟩ := validProgressKey_step hnames.valid
        refine ⟨step, hstep, ?_⟩
        rw [hsame]
        exact (plainKey_iff hid).mp (h.spelled r k hnames)
      · intro r r' k hk hk'
        exact h.once r r' k ((holds_iff_names hp).mp hk) ((holds_iff_names hp).mp hk')
    constructor
    · intro p hp
      exact (canonical_reached hread hp).1
    · intro p hp r k id hk hid
      exact (hread p hp).found r k id ((holds_iff_names hp).mpr hk) hid

/-- A step under another spelling is recorded and seen by nobody. -/
theorem progressKeys_respelled :
    ¬ KeysTracked (.object [("completedSteps", .array [.string "P1:01"])]) := by
  rw [progressKeys]
  intro h
  have hplain : plainKey "P1:01" = true := by
    apply h.spelled .completed
    exact ⟨by decide +kernel, [.string "P1:01"], by decide +kernel, by simp⟩
  exact absurd hplain (by decide +kernel)

end FrametimeCfg.Verified.ProgressKeys
