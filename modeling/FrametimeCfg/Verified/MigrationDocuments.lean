import FrametimeCfg.Domain.Migration
import FrametimeCfg.Verified.ProgressKeys

/-!
# Migration on raw documents

A migration is decided on what the decoders return of the two documents an older
installation left.  It refuses on a transaction however malformed, since the decoder
keeps that one in the rest.  Three other traces of later work it does not see: a final
receipt, an advisory of a later step, and a completed or skipped later step under
another spelling of its key.

`migrationDocuments` is the exact condition.
-/

namespace FrametimeCfg.Verified.MigrationDocuments

open FrametimeCfg.Domain
open FrametimeCfg.Domain.Progress
open FrametimeCfg.Lib.OrderedMap
open FrametimeCfg.Lib.Checks
open FrametimeCfg.Verified.ProgressKeys
open FrametimeCfg.Verified.StateCodec

/-! ## The documents -/

/-- A document that may be missing. -/
def readDocument {α : Type} (decode : Value → Except String α) :
    Option Value → Except String (Option α)
  | none => .ok none
  | some document => (decode document).map some

/-- The decision on the stored documents. -/
def assessDocuments (state progress : Option Value) (inventory : MigrationInventory) :
    Except String MigrationDecision := do
  let s ← readDocument State.decode state
  let p ← readDocument Progress.decode progress
  return assessInventory s p inventory

/-- A top-level field of a document that may be missing. -/
def stored (document : Option Value) (k : String) : Option Value :=
  document.bind fun document => field document k

/-- The document has the key in the field of the record, whatever is under it. -/
def Written (progress : Option Value) : Record → String → Prop
  | .completed, k => ∃ items,
      (stored progress "completedSteps").bind Value.asArray = some items ∧
        .string k ∈ items
  | .skipped, k => ∃ items,
      (stored progress "skippedSteps").bind Value.asArray = some items ∧
        .string k ∈ items
  | .advised, k => ∃ entries,
      (stored progress "advisories").bind Value.asObject = some entries ∧ k ∈ entries

/-- The key names a step of Phase Two or Phase Three, in some spelling. -/
def LaterKey (k : String) : Prop :=
  ∃ step ∈ stepCatalog, step.id.phase ≠ .one ∧
    StepId.fromProgressKey k = some step.id

/-- There is nothing of a reboot or a later phase. -/
structure Clean (state progress : Option Value) (inventory : MigrationInventory) :
    Prop where
  inventory : inventory = {}
  transaction : stored state "activeRebootTransaction" = none
  receipt : stored state "finalBenchmark" = none
  safeMode : stored state "phase1SafeModeReady" ≠ some (.bool true)
  phaseOne : ∀ r k, Written progress r k → ¬ LaterKey k

/-- As many steps of Phase One are in the record of the document. -/
def Counted (progress : Option Value) (r : Record) (count : Nat) : Prop :=
  ∃ steps : List Step, steps.Nodup ∧ steps.length = count ∧
    ∀ step ∈ steps, step ∈ stepCatalog ∧ step.id.phase = .one ∧
      Written progress r (keyFor step.id)

/-- Migration is refused unless the documents and the host are clean, and it counts
what is recorded. -/
structure FailsClosed (state progress : Option Value) (inventory : MigrationInventory) :
    Prop where
  total : ∃ decision, assessDocuments state progress inventory = .ok decision
  closed : ∀ decision, assessDocuments state progress inventory = .ok decision →
    (∀ reason, decision ≠ .refuse reason) → Clean state progress inventory
  counted : ∀ completed skipped, assessDocuments state progress inventory =
      .ok (.confirmPartialPhaseOne completed skipped) →
    Counted progress .completed completed ∧ Counted progress .skipped skipped

/-! ## When it refuses -/

/-- What a refusal is about: the inventory, the transaction, or a later step that is
recorded under its own key. -/
def Refused (state progress : Option Value) (inventory : MigrationInventory) : Prop :=
  inventory ≠ {} ∨ stored state "phase1SafeModeReady" = some (.bool true) ∨
    stored state "activeRebootTransaction" ≠ none ∨
    ∃ step ∈ stepCatalog, step.id.phase ≠ .one ∧
      (Written progress .completed (keyFor step.id) ∨
        Written progress .skipped (keyFor step.id))

/-- The traces of later work are all ones that a refusal looks at. -/
structure Covered (state progress : Option Value) : Prop where
  receipt : stored state "finalBenchmark" = none
  advised : ∀ k, Written progress .advised k → ¬ LaterKey k
  completed : ∀ k, Written progress .completed k → LaterKey k → plainKey k = true
  skipped : ∀ k, Written progress .skipped k → LaterKey k → plainKey k = true

section

variable {document : Value} {p : Progress} {s : State}

theorem isCompleted_iff {step : Step} (hstep : step ∈ stepCatalog)
    (h : Progress.decode document = .ok p) :
    p.isCompleted step.id = true ↔ Written (some document) .completed (keyFor step.id) := by
  have hvalid := Reload.validProgressKey_catalog step hstep
  show p.isIn .completed step.id = true ↔ _
  rw [← holds_keyFor, holds_iff_names h]
  exact and_iff_right hvalid

theorem isSkipped_iff {step : Step} (hstep : step ∈ stepCatalog)
    (h : Progress.decode document = .ok p) :
    p.isSkipped step.id = true ↔ Written (some document) .skipped (keyFor step.id) := by
  have hvalid := Reload.validProgressKey_catalog step hstep
  show p.isIn .skipped step.id = true ↔ _
  rw [← holds_keyFor, holds_iff_names h]
  exact and_iff_right hvalid

theorem hasResolvedInPhase_iff {phase : Phase} :
    p.hasResolvedInPhase phase = true ↔ ∃ step ∈ stepCatalog, step.id.phase = phase ∧
      (p.isCompleted step.id = true ∨ p.isSkipped step.id = true) := by
  unfold hasResolvedInPhase resolvedCountInPhase
  rw [decide_eq_true_iff, List.length_pos_iff_exists_mem]
  simp only [List.mem_filter, Bool.or_eq_true, decide_eq_true_iff, and_assoc]

/-- Work of a later phase is resolved exactly when the document records it. -/
theorem resolvedLater_iff (h : Progress.decode document = .ok p) :
    (p.hasResolvedInPhase .two || p.hasResolvedInPhase .three) = true ↔
      ∃ step ∈ stepCatalog, step.id.phase ≠ .one ∧
        (Written (some document) .completed (keyFor step.id) ∨
          Written (some document) .skipped (keyFor step.id)) := by
  rw [Bool.or_eq_true, hasResolvedInPhase_iff, hasResolvedInPhase_iff]
  constructor
  · intro hresolved
    rcases hresolved with ⟨step, hstep, hphase, hrecord⟩ | ⟨step, hstep, hphase, hrecord⟩
    · rw [isCompleted_iff hstep h, isSkipped_iff hstep h] at hrecord
      exact ⟨step, hstep, by rw [hphase]; decide, hrecord⟩
    · rw [isCompleted_iff hstep h, isSkipped_iff hstep h] at hrecord
      exact ⟨step, hstep, by rw [hphase]; decide, hrecord⟩
  · intro hrecorded
    obtain ⟨step, hstep, hphase, hrecord⟩ := hrecorded
    rw [← isCompleted_iff hstep h, ← isSkipped_iff hstep h] at hrecord
    cases hone : step.id.phase with
    | one => exact absurd hone hphase
    | two => exact .inl ⟨step, hstep, hone, hrecord⟩
    | three => exact .inr ⟨step, hstep, hone, hrecord⟩

/-- The state is armed exactly when the document has the flag or a transaction. -/
theorem phaseOneArmed_iff (h : State.decode document = .ok s) :
    phaseOneArmed s = true ↔
      stored (some document) "phase1SafeModeReady" = some (.bool true) ∨
        stored (some document) "activeRebootTransaction" ≠ none := by
  obtain ⟨fields, hfields, hready⟩ : ∃ fields, document.asObject = some fields ∧
      s.phase1SafeModeReady = decide (fields["phase1SafeModeReady"]? = some (.bool true)) := by
    unfold State.decode at h
    obtain ⟨fields, hfields, h⟩ := bind_eq_ok.mp h
    obtain rfl := Except.ok.inj h
    exact ⟨fields, okOr_eq_ok.mp hfields, rfl⟩
  have hstored : ∀ k, stored (some document) k = fields[k]? := by
    intro k
    show field document k = _
    unfold field
    rw [hfields]
    rfl
  obtain ⟨htransaction, -, hrest⟩ := decode_state_fields hfields h
  have hunknown := get_rest_transaction hrest
  unfold phaseOneArmed
  rw [Std.ExtTreeMap.contains_eq_isSome_getElem?, hunknown, hready, hstored, hstored]
  have hdecoded : s.activeRebootTransaction.isSome = true →
      fields["activeRebootTransaction"]? ≠ none := by
    rw [htransaction]
    intro hsome hnone
    rw [hnone] at hsome
    cases hsome
  by_cases hsome : s.activeRebootTransaction.isSome = true
  · simp [hsome, hdecoded hsome]
  · simp [hsome]

end

section

variable {state progress : Option Value} {inventory : MigrationInventory}
  {s : Option State} {p : Option Progress}

theorem readDocument_cases {α : Type} {decode : Value → Except String α}
    {document : Option Value} {a : Option α} (h : readDocument decode document = .ok a) :
    (document = none ∧ a = none) ∨
      ∃ value b, document = some value ∧ a = some b ∧ decode value = .ok b := by
  cases document with
  | none => exact .inl ⟨rfl, (Except.ok.inj h).symm⟩
  | some value =>
      cases hdecode : decode value with
      | error e =>
          have hmap : (decode value).map some = .ok a := h
          rw [hdecode] at hmap
          cases hmap
      | ok b =>
          have hmap : (decode value).map some = .ok a := h
          rw [hdecode] at hmap
          exact .inr ⟨value, b, rfl, (Except.ok.inj hmap).symm, hdecode⟩

theorem not_written_none (r : Record) (k : String) : ¬ Written none r k := by
  cases r <;> simp [Written, stored]

theorem anyResolved_iff (h : readDocument Progress.decode progress = .ok p) :
    p.any (fun p => p.hasResolvedInPhase .two || p.hasResolvedInPhase .three) = true ↔
      ∃ step ∈ stepCatalog, step.id.phase ≠ .one ∧
        (Written progress .completed (keyFor step.id) ∨
          Written progress .skipped (keyFor step.id)) := by
  rcases readDocument_cases h with ⟨rfl, rfl⟩ | ⟨document, p, rfl, rfl, hdecode⟩
  · simp [not_written_none]
  · exact resolvedLater_iff hdecode

theorem anyArmed_iff (h : readDocument State.decode state = .ok s) :
    s.any phaseOneArmed = true ↔
      stored state "phase1SafeModeReady" = some (.bool true) ∨
        stored state "activeRebootTransaction" ≠ none := by
  rcases readDocument_cases h with ⟨rfl, rfl⟩ | ⟨document, s, rfl, rfl, hdecode⟩
  · simp [stored]
  · exact phaseOneArmed_iff hdecode

/-- An inventory with a flag refuses by itself. -/
theorem assess_flagged (h : inventory ≠ {}) :
    ∃ reason, assessInventory s p inventory = .refuse reason := by
  unfold assessInventory
  obtain ⟨two, three, boot, incomplete⟩ := inventory
  cases two with
  | true => exact ⟨_, rfl⟩
  | false =>
      cases three with
      | true => exact ⟨_, rfl⟩
      | false =>
          cases boot with
          | true => exact ⟨_, rfl⟩
          | false =>
              cases incomplete with
              | true => exact ⟨_, rfl⟩
              | false => exact absurd rfl h

/-- Without flags the two documents decide. -/
theorem assess_unflagged :
    (∃ reason, assessInventory s p {} = .refuse reason) ↔
      (p.any (fun p => p.hasResolvedInPhase .two || p.hasResolvedInPhase .three) ||
        s.any phaseOneArmed) = true := by
  unfold assessInventory
  simp only [Bool.false_eq_true, if_false]
  split
  · rename_i hnone
    obtain ⟨hs, hp⟩ := Bool.and_eq_true_iff.mp hnone
    rw [Option.isNone_iff_eq_none.mp hs, Option.isNone_iff_eq_none.mp hp]
    simp
  · split
    · rename_i hrefused
      simp [hrefused]
    · rename_i hopen
      constructor
      · intro h
        obtain ⟨reason, h⟩ := h
        split at h
        · cases h
        · split at h
          · cases h
          · cases h
      · intro h
        exact absurd h hopen

/-- **The refusals.** -/
theorem refuse_iff (hs : readDocument State.decode state = .ok s)
    (hp : readDocument Progress.decode progress = .ok p) :
    (∃ reason, assessInventory s p inventory = .refuse reason) ↔
      Refused state progress inventory := by
  unfold Refused
  by_cases hinventory : inventory = {}
  · rw [hinventory, assess_unflagged, Bool.or_eq_true, anyResolved_iff hp, anyArmed_iff hs]
    simp only [ne_eq, not_true_eq_false, false_or]
    exact or_comm.trans or_assoc
  · exact iff_of_true (assess_flagged hinventory) (.inl hinventory)

/-- What a confirmation counts. -/
theorem assess_confirm {completed skipped : Nat}
    (h : assessInventory s p inventory = .confirmPartialPhaseOne completed skipped) :
    ∃ q, p = some q ∧
      completed = (stepCatalog.filter fun step =>
        step.id.phase = .one && q.isCompleted step.id).length ∧
      skipped = (stepCatalog.filter fun step =>
        step.id.phase = .one && q.isSkipped step.id).length := by
  unfold assessInventory at h
  -- Every branch before the counts returns another decision.
  iterate 6 (split at h; · cases h)
  cases p with
  | none => cases h
  | some q =>
      dsimp only at h
      split at h
      · cases h
      · obtain ⟨hcompleted, hskipped⟩ := MigrationDecision.confirmPartialPhaseOne.inj h
        exact ⟨q, rfl, hcompleted.symm, hskipped.symm⟩

/-- **The counts.**  The steps that are counted are recorded in the document. -/
theorem counted_of_assess (hp : readDocument Progress.decode progress = .ok p)
    {completed skipped : Nat}
    (h : assessInventory s p inventory = .confirmPartialPhaseOne completed skipped) :
    Counted progress .completed completed ∧ Counted progress .skipped skipped := by
  have hnodup : stepCatalog.Nodup := List.Nodup.of_map _ stepCatalog_nodup
  obtain ⟨q, hq, hcompleted, hskipped⟩ := assess_confirm h
  rcases readDocument_cases hp with ⟨-, hnone⟩ | ⟨document, q', rfl, hsome, hdecode⟩
  · rw [hnone] at hq
    cases hq
  rw [hsome] at hq
  obtain rfl := Option.some.inj hq
  refine ⟨⟨_, hnodup.filter _, hcompleted.symm, ?_⟩, ⟨_, hnodup.filter _, hskipped.symm, ?_⟩⟩
  · intro step hmem
    obtain ⟨hstep, hrecord⟩ := List.mem_filter.mp hmem
    obtain ⟨hphase, hcompleted⟩ := Bool.and_eq_true_iff.mp hrecord
    exact ⟨hstep, of_decide_eq_true hphase, (isCompleted_iff hstep hdecode).mp hcompleted⟩
  · intro step hmem
    obtain ⟨hstep, hrecord⟩ := List.mem_filter.mp hmem
    obtain ⟨hphase, hskipped⟩ := Bool.and_eq_true_iff.mp hrecord
    exact ⟨hstep, of_decide_eq_true hphase, (isSkipped_iff hstep hdecode).mp hskipped⟩

/-- What is covered and not refused is clean. -/
theorem clean_of_covered (hcovered : Covered state progress)
    (hopen : ¬ Refused state progress inventory) : Clean state progress inventory := by
  unfold Refused at hopen
  simp only [not_or, not_exists, not_and, ne_eq, Decidable.not_not] at hopen
  obtain ⟨hinventory, hready, htransaction, hlater⟩ := hopen
  refine ⟨hinventory, htransaction, hcovered.receipt, hready, ?_⟩
  intro r k hwritten hkey
  cases r with
  | completed =>
      have hplain := hcovered.completed k hwritten hkey
      obtain ⟨step, hstep, hphase, hid⟩ := hkey
      rw [(plainKey_iff hid).mp hplain] at hwritten
      exact (hlater step hstep hphase).1 hwritten
  | skipped =>
      have hplain := hcovered.skipped k hwritten hkey
      obtain ⟨step, hstep, hphase, hid⟩ := hkey
      rw [(plainKey_iff hid).mp hplain] at hwritten
      exact (hlater step hstep hphase).2 hwritten
  | advised => exact hcovered.advised k hwritten hkey

theorem Clean.covered (h : Clean state progress inventory) : Covered state progress where
  receipt := h.receipt
  advised := fun k hk hkey => h.phaseOne .advised k hk hkey
  completed := fun k hk hkey => absurd hkey (h.phaseOne .completed k hk)
  skipped := fun k hk hkey => absurd hkey (h.phaseOne .skipped k hk)

end

theorem readDocument_object {α : Type} {decode : Value → Except String α}
    (h : ∀ object, ∃ a, decode (.object object) = .ok a)
    (document : Option (List (String × Value))) :
    ∃ a, readDocument decode (document.map .object) = .ok a := by
  cases document with
  | none => exact ⟨none, rfl⟩
  | some object =>
      obtain ⟨a, ha⟩ := h object
      refine ⟨some a, ?_⟩
      show (decode (.object object)).map some = _
      rw [ha]
      rfl

/-- **Migration of raw documents.**  It fails closed exactly when it refuses or all
traces of later work are ones that a refusal looks at. -/
theorem migrationDocuments (state progress : Option (List (String × Value)))
    (inventory : MigrationInventory) :
    FailsClosed (state.map .object) (progress.map .object) inventory ↔
      Refused (state.map .object) (progress.map .object) inventory ∨
        Covered (state.map .object) (progress.map .object) := by
  obtain ⟨s, hs⟩ := readDocument_object (fun object =>
    (⟨_, rfl⟩ : ∃ s, State.decode (.object object) = .ok s)) state
  obtain ⟨p, hp⟩ := readDocument_object (fun object =>
    (⟨_, rfl⟩ : ∃ p, Progress.decode (.object object) = .ok p)) progress
  have hassess : assessDocuments (state.map .object) (progress.map .object) inventory =
      .ok (assessInventory s p inventory) := by
    unfold assessDocuments
    rw [hs, hp]
    rfl
  have hrefuse : (∃ reason, assessInventory s p inventory = .refuse reason) ↔
      Refused (state.map .object) (progress.map .object) inventory := refuse_iff hs hp
  constructor
  · intro h
    by_cases hrefused : Refused (state.map .object) (progress.map .object) inventory
    · exact .inl hrefused
    · have hopen : ∀ reason, assessInventory s p inventory ≠ .refuse reason :=
        fun reason hreason => hrefused (hrefuse.mp ⟨reason, hreason⟩)
      exact .inr (h.closed _ hassess hopen).covered
  · intro h
    refine ⟨⟨_, hassess⟩, ?_, ?_⟩
    · intro decision hdecision hopen
      rw [hassess] at hdecision
      obtain rfl := Except.ok.inj hdecision
      have hrefused : ¬ Refused (state.map .object) (progress.map .object) inventory := by
        intro hrefused
        obtain ⟨reason, hreason⟩ := hrefuse.mpr hrefused
        exact hopen reason hreason
      exact clean_of_covered (h.resolve_left hrefused) hrefused
    · intro completed skipped hdecision
      rw [hassess] at hdecision
      exact counted_of_assess hp (Except.ok.inj hdecision)

/-- An acknowledged step of Phase Three leaves the installation idle. -/
theorem migrationDocuments_advised :
    ¬ FailsClosed (some (.object [])) (some (.object [("advisories",
      .object [("P3:7", .object [("reason", .string "unavailable")])])])) {} := by
  intro h
  have hassess : assessDocuments (some (.object [])) (some (.object [("advisories",
      .object [("P3:7", .object [("reason", .string "unavailable")])])])) {} =
      .ok .confirmIdle := by decide +kernel
  have hclean := h.closed _ hassess (fun reason hreason => by cases hreason)
  have hkey : LaterKey "P3:7" := by
    refine ⟨_, List.mem_of_find?_eq_some (rfl : stepById ⟨.three, 7⟩ = some _), ?_, ?_⟩
    · decide
    · decide +kernel
  exact hclean.phaseOne .advised "P3:7" ⟨_, rfl, by decide +kernel⟩ hkey

end FrametimeCfg.Verified.MigrationDocuments
