import FrametimeCfg.DriverFoundry.ActionJournal

/-!
# The outcomes in a journal

An outcome is matched to an entry by its texts.  The journal keeps count of the outcomes as
long as no outcome is entered into an entry that has failed, and nothing is planned with a
detail that reads like a failure: exactly then, since any of these moves the count.

* `countExecuted_run` — the executed ones are counted in every run.
* `countFailed_step` — what one call does to the other count.
* `actionJournal` — whole runs.
-/

namespace FrametimeCfg.Verified.JournalOutcomes

open FrametimeCfg.DriverFoundry
open FrametimeCfg.Lib.Newest

/-! ## Calls -/

/-- The calls that change a journal. -/
inductive Call where
  | plan (surface action target : String)
  | planDetail (surface action target detail : String)
  | markExecuted (surface action target : String)
  | markFailed (surface action target detail : String)
  deriving DecidableEq

namespace Call

def run (journal : ActionJournal) : Call → ActionJournal
  | plan surface action target => journal.plan surface action target
  | planDetail surface action target detail => journal.planDetail surface action target detail
  | markExecuted surface action target => journal.markExecuted surface action target
  | markFailed surface action target detail => journal.markFailed surface action target detail

def isExecuted : Call → Bool
  | markExecuted .. => true
  | _ => false

def isFailed : Call → Bool
  | markFailed .. => true
  | _ => false

/-- The newest entry that awaits an outcome, if there is one, has not failed. -/
def Fresh (journal : ActionJournal) (surface action target : String) : Prop :=
  ∀ e, journal.entries.reverse.find? (JournalEntry.awaits surface action target) = some e →
    e.failed = false

/-- **The call may be made** without an outcome getting lost. -/
def Clear (journal : ActionJournal) : Call → Prop
  | plan .. => True
  | planDetail _ _ _ detail => "failed:".toList.isPrefixOf detail.toList = false
  | markExecuted surface action target => Fresh journal surface action target
  | markFailed surface action target _ => Fresh journal surface action target

end Call

/-- The journal after some calls. -/
def runFrom (journal : ActionJournal) (calls : List Call) : ActionJournal :=
  calls.foldl Call.run journal

/-- Every call may be made where it is made. -/
def AllClear : ActionJournal → List Call → Prop
  | _, [] => True
  | journal, c :: calls => c.Clear journal ∧ AllClear (c.run journal) calls

/-! ## One call -/

/-- What an entry is about. -/
def about (e : JournalEntry) : String × String × String := (e.surface, e.action, e.target)

theorem failed_of_detail (surface action target detail : String) :
    JournalEntry.failed
      { surface, action, target, executed := false, detail := "failed: " ++ detail } = true := by
  rw [JournalEntry.failed, String.toList_append]
  rfl

/-- The call adds an entry. -/
def Appends (journal : ActionJournal) (c : Call) (e : JournalEntry) : Prop :=
  (c.run journal).entries = journal.entries ++ [e] ∧ e.executed = c.isExecuted ∧
    (c.Clear journal ↔ e.failed = c.isFailed)

/-- The call enters an outcome into the entry between `before` and `after`. -/
def Enters (journal : ActionJournal) (c : Call) (before : List JournalEntry)
    (e e' : JournalEntry) (after : List JournalEntry) : Prop :=
  journal.entries = before ++ e :: after ∧ (c.run journal).entries = before ++ e' :: after ∧
    about e' = about e ∧ e.executed = false ∧ e'.executed = c.isExecuted ∧
      e'.failed = c.isFailed ∧ (c.Clear journal ↔ e.failed = false)

section Step

variable (journal : ActionJournal)

theorem awaits_iff {surface action target : String} {e : JournalEntry} :
    e.awaits surface action target = true ↔
      e.executed = false ∧ about e = (surface, action, target) := by
  simp [JournalEntry.awaits, about, and_assoc]

theorem fresh_iff {surface action target : String} {e : JournalEntry}
    (h : journal.entries.reverse.find? (JournalEntry.awaits surface action target) = some e) :
    Call.Fresh journal surface action target ↔ e.failed = false :=
  ⟨fun hfresh => hfresh e h, fun hfailed e' he' => by rwa [Option.some.inj (he'.symm.trans h)]⟩

theorem fresh_of_none {surface action target : String}
    (h : ∀ e ∈ journal.entries, e.awaits surface action target = false) :
    Call.Fresh journal surface action target := by
  intro e he
  have hawaits := List.find?_some he
  rw [h e (List.mem_reverse.mp (List.mem_of_find?_eq_some he))] at hawaits
  cases hawaits

/-- **What a call does.** -/
theorem run_cases (c : Call) :
    (∃ e, Appends journal c e) ∨ ∃ before e e' after, Enters journal c before e e' after := by
  cases c with
  | plan surface action target => exact .inl ⟨_, rfl, rfl, iff_of_true trivial rfl⟩
  | planDetail surface action target detail => exact .inl ⟨_, rfl, rfl, Iff.rfl⟩
  | markExecuted surface action target =>
    have hmark : (Call.markExecuted surface action target).run journal =
        journal.markExecuted surface action target := rfl
    cases hupdate : updateLast (JournalEntry.awaits surface action target)
        (fun e => { e with executed := true }) journal.entries with
    | none =>
      rw [ActionJournal.markExecuted, hupdate] at hmark
      exact .inl ⟨_, congrArg ActionJournal.entries hmark, rfl,
        iff_of_true (fresh_of_none journal (updateLast_eq_none.mp hupdate)) rfl⟩
    | some entries =>
      rw [ActionJournal.markExecuted, hupdate] at hmark
      obtain ⟨before, e, after, hentries, rfl, hfind⟩ := updateLast_eq_some hupdate
      have hpending := (awaits_iff.mp (List.find?_some hfind)).1
      exact .inr ⟨before, e, _, after, hentries, congrArg ActionJournal.entries hmark, rfl,
        hpending, rfl, rfl, fresh_iff journal hfind⟩
  | markFailed surface action target detail =>
    have hmark : (Call.markFailed surface action target detail).run journal =
        journal.markFailed surface action target detail := rfl
    cases hupdate : updateLast (JournalEntry.awaits surface action target)
        (fun e => { e with detail := "failed: " ++ detail }) journal.entries with
    | none =>
      simp only [ActionJournal.markFailed, hupdate] at hmark
      exact .inl ⟨_, congrArg ActionJournal.entries hmark, rfl,
        iff_of_true (fresh_of_none journal (updateLast_eq_none.mp hupdate))
          (failed_of_detail surface action target detail)⟩
    | some entries =>
      simp only [ActionJournal.markFailed, hupdate] at hmark
      obtain ⟨before, e, after, hentries, rfl, hfind⟩ := updateLast_eq_some hupdate
      have hpending := (awaits_iff.mp (List.find?_some hfind)).1
      have hfailed : JournalEntry.failed { e with detail := "failed: " ++ detail } = true := by
        rw [JournalEntry.failed, hpending, String.toList_append]
        rfl
      exact .inr ⟨before, e, _, after, hentries, congrArg ActionJournal.entries hmark, rfl,
        hpending, hpending, hfailed, fresh_iff journal hfind⟩

theorem countExecuted_step (c : Call) :
    (c.run journal).countExecuted = journal.countExecuted + c.isExecuted.toNat := by
  unfold ActionJournal.countExecuted
  rcases run_cases journal c with ⟨e, hrun, hexecuted, _⟩ |
    ⟨before, e, e', after, hentries, hrun, _, hpending, hexecuted, _, _⟩
  · rw [hrun, List.countP_append, List.countP_singleton, hexecuted]
    cases c.isExecuted <;> rfl
  · rw [hrun, hentries]
    simp only [List.countP_append, List.countP_cons, hpending, hexecuted]
    cases c.isExecuted <;> simp
    omega

theorem countFailed_step (c : Call) :
    (c.run journal).countFailed = journal.countFailed + c.isFailed.toNat ↔ c.Clear journal := by
  unfold ActionJournal.countFailed
  rcases run_cases journal c with ⟨e, hrun, _, hclear⟩ |
    ⟨before, e, e', after, hentries, hrun, _, _, _, hfailed, hclear⟩
  · rw [hrun, List.countP_append, List.countP_singleton, hclear]
    cases e.failed <;> cases c.isFailed <;> simp
  · rw [hrun, hentries, hclear]
    simp only [List.countP_append, List.countP_cons, hfailed]
    cases e.failed <;> cases c.isFailed <;> simp
    omega

/-- An entry that has failed stays as it is. -/
theorem failed_step {c : Call} (hclear : c.Clear journal) {i : Nat} {e : JournalEntry}
    (he : journal.entries[i]? = some e) (hfailed : e.failed = true) :
    (c.run journal).entries[i]? = some e := by
  rcases run_cases journal c with ⟨added, hrun, _, _⟩ |
    ⟨before, changed, changed', after, hentries, hrun, _, _, _, _, hiff⟩
  · have hlt := (List.getElem?_eq_some_iff.mp he).1
    rw [hrun, List.getElem?_append_left hlt, he]
  · rw [hentries] at he
    rw [hrun]
    by_cases hi : i = before.length
    · subst hi
      rw [List.getElem?_append_right (Nat.le_refl _), Nat.sub_self] at he
      cases he
      rw [hiff.mp hclear] at hfailed
      cases hfailed
    · rcases Nat.lt_or_gt_of_ne hi with hlt | hgt
      · rw [List.getElem?_append_left hlt] at he ⊢
        exact he
      · obtain ⟨k, hk⟩ : ∃ k, i - before.length = k + 1 := ⟨i - before.length - 1, by omega⟩
        rw [List.getElem?_append_right (by omega), hk, List.getElem?_cons_succ] at he ⊢
        exact he

theorem about_step (c : Call) :
    journal.entries.map about <+: (c.run journal).entries.map about := by
  rcases run_cases journal c with ⟨e, hrun, _, _⟩ |
    ⟨before, e, e', after, hentries, hrun, habout, _⟩
  · rw [hrun, List.map_append]
    exact List.prefix_append _ _
  · have hsame : (c.run journal).entries.map about = journal.entries.map about := by
      rw [hrun, hentries, List.map_append, List.map_append, List.map_cons, List.map_cons, habout]
    exact ⟨[], by rw [List.append_nil, hsame]⟩

end Step

/-! ## Runs -/

section Run

variable {journal : ActionJournal} {calls : List Call}

theorem runFrom_append (journal : ActionJournal) (past later : List Call) :
    runFrom journal (past ++ later) = runFrom (runFrom journal past) later :=
  List.foldl_append

theorem countExecuted_run (journal : ActionJournal) (calls : List Call) :
    (runFrom journal calls).countExecuted =
      journal.countExecuted + calls.countP Call.isExecuted := by
  induction calls generalizing journal with
  | nil => rfl
  | cons c calls ih =>
      show (runFrom (c.run journal) calls).countExecuted = _
      rw [ih, countExecuted_step, List.countP_cons]
      cases c.isExecuted <;> simp
      omega

theorem AllClear.countFailed_run (h : AllClear journal calls) :
    (runFrom journal calls).countFailed = journal.countFailed + calls.countP Call.isFailed := by
  induction calls generalizing journal with
  | nil => rfl
  | cons c calls ih =>
      show (runFrom (c.run journal) calls).countFailed = _
      rw [ih h.2, (countFailed_step journal c).mpr h.1, List.countP_cons]
      cases c.isFailed <;> simp
      omega

theorem AllClear.of_append {past later : List Call} (h : AllClear journal (past ++ later)) :
    AllClear journal past ∧ AllClear (runFrom journal past) later := by
  induction past generalizing journal with
  | nil => exact ⟨trivial, h⟩
  | cons c past ih => exact ⟨⟨h.1, (ih h.2).1⟩, (ih h.2).2⟩

theorem AllClear.failed_run (h : AllClear journal calls) {i : Nat} {e : JournalEntry}
    (he : journal.entries[i]? = some e) (hfailed : e.failed = true) :
    (runFrom journal calls).entries[i]? = some e := by
  induction calls generalizing journal with
  | nil => exact he
  | cons c calls ih => exact ih h.2 (failed_step journal h.1 he hfailed)

theorem about_run (journal : ActionJournal) (calls : List Call) :
    journal.entries.map about <+: (runFrom journal calls).entries.map about := by
  induction calls generalizing journal with
  | nil => exact List.prefix_refl _
  | cons c calls ih => exact (about_step journal c).trans (ih _)

/-- The count shows it when a call is not clear. -/
theorem allClear_of_counts
    (h : ∀ past, past <+: calls → (runFrom journal past).countFailed =
      journal.countFailed + past.countP Call.isFailed) : AllClear journal calls := by
  induction calls generalizing journal with
  | nil => trivial
  | cons c calls ih =>
      have hfirst := h [c] (List.prefix_append [c] calls)
      have hstep : (c.run journal).countFailed = journal.countFailed + c.isFailed.toNat := by
        rw [List.countP_singleton] at hfirst
        cases hc : c.isFailed <;> rw [hc] at hfirst <;> exact hfirst
      refine ⟨(countFailed_step journal c).mp hstep, ih fun past hpast => ?_⟩
      have hall : (runFrom (c.run journal) past).countFailed =
          journal.countFailed + (c :: past).countP Call.isFailed :=
        h (c :: past) (List.cons_prefix_cons.mpr ⟨rfl, hpast⟩)
      rw [hall, hstep, List.countP_cons]
      cases c.isFailed <;> simp
      omega

end Run

/-! ## What a journal is for -/

/-- **No outcome is lost** in any state of a run from the empty journal. -/
structure Lossless (calls : List Call) : Prop where
  executed : ∀ past, past <+: calls →
    (runFrom {} past).countExecuted = past.countP Call.isExecuted
  failed : ∀ past, past <+: calls → (runFrom {} past).countFailed = past.countP Call.isFailed
  /-- An entry that has failed is never executed later. -/
  kept : ∀ past later, past ++ later <+: calls → ∀ (i : Nat) (e : JournalEntry),
    (runFrom {} past).entries[i]? = some e → e.failed = true →
      ∃ e', (runFrom {} (past ++ later)).entries[i]? = some e' ∧ e'.executed = false
  order : ∀ past later, past ++ later <+: calls →
    (runFrom {} past).entries.map about <+: (runFrom {} (past ++ later)).entries.map about
  /-- The exit code is zero only if nothing has failed. -/
  exitCode : ∀ past, past <+: calls → (runFrom {} past).exitCode true = 0 →
    ∀ c ∈ past, c.isFailed = false

/-- **The condition is exact.**  No outcome is lost in a run if and only if every call of it
is clear where it is made. -/
theorem actionJournal (calls : List Call) : Lossless calls ↔ AllClear {} calls := by
  constructor
  · intro h
    refine allClear_of_counts fun past hpast => ?_
    rw [h.failed past hpast]
    exact (Nat.zero_add _).symm
  · intro h
    have hfailed : ∀ past, past <+: calls →
        (runFrom {} past).countFailed = past.countP Call.isFailed := by
      rintro past ⟨later, rfl⟩
      rw [h.of_append.1.countFailed_run]
      exact Nat.zero_add _
    refine ⟨fun past _ => ?_, hfailed, ?_, fun past later _ => ?_, fun past hpast hexit => ?_⟩
    · rw [countExecuted_run]
      exact Nat.zero_add _
    · rintro past later ⟨rest, rfl⟩ i e he hentry
      have hlater := h.of_append.1.of_append.2
      refine ⟨e, ?_, ?_⟩
      · rw [runFrom_append]
        exact hlater.failed_run he hentry
      · rw [JournalEntry.failed, Bool.and_eq_true, Bool.not_eq_true'] at hentry
        exact hentry.1
    · rw [runFrom_append]
      exact about_run _ later
    · have hnone : past.countP Call.isFailed = 0 := by
        rw [← hfailed past hpast]
        by_contra hne
        rw [ActionJournal.exitCode, ActionJournal.failedActions, if_pos rfl,
          if_pos (Nat.pos_of_ne_zero hne)] at hexit
        cases hexit
      simpa using List.countP_eq_zero.mp hnone

/-- A service is planned, its removal fails, and the same service is removed later: one
failure is reported and none is counted. -/
theorem journal_failedThenExecuted :
    ¬Lossless [.plan "Service" "stop_delete" "nvsvc",
      .markFailed "Service" "stop_delete" "nvsvc" "sc exited with 5",
      .markExecuted "Service" "stop_delete" "nvsvc"] := by
  intro h
  have hcount := h.failed _ (List.prefix_refl _)
  revert hcount
  decide +kernel

end FrametimeCfg.Verified.JournalOutcomes
