import FrametimeCfg.Domain.EvidenceFile
import FrametimeCfg.Windows.IrreversibleAudit

/-!
# One live record for each step

The two documents of recovery records over whole runs.  In the audit document a pending
record is only added where its step has none, and only a pending record is ever replaced, by
the terminal one that closes it.  In the evidence document a receipt takes the place of those
of its step.

* `stepAudit_entries` — all that a call can do to the entries.
* `EntryStep.single`, `EntryStep.evolves` — what that keeps.
* `capture_pending`, `persist_pending` — a retry takes the pending record up again.
* `observationFor_replaced` — what a lookup finds.
-/

namespace FrametimeCfg.Verified.LiveRecords

open FrametimeCfg.Domain
open FrametimeCfg.Lib.Checks (reject reject_eq_ok)
open FrametimeCfg.Lib.Effect
open FrametimeCfg.Windows.AuditDocument

/-! ## Entries -/

/-- The entry is a pending irreversible record of `step`. -/
def isPendingFor (step : String) (entry : AuditEntry) : Bool :=
  (pendingEntryIdentity entry).any fun identity => identity.1 = step

/-- **At most one pending record** for each step. -/
def Single (entries : List AuditEntry) : Prop :=
  ∀ step, entries.countP (isPendingFor step) ≤ 1

/-- The record that closes a pending one. -/
def Closes (entry entry' : AuditEntry) : Prop :=
  ∃ audit : IrreversibleAudit, audit.outcome ≠ .pending ∧
    pendingEntryIdentity entry = some (audit.step, audit.capturedAt) ∧
    entry' = .ofIrreversible audit

/-- **Every entry stays in its place**, as it is or, where it was pending, closed. -/
def Evolves (entries entries' : List AuditEntry) : Prop :=
  ∀ (i : Nat) (entry : AuditEntry), entries[i]? = some entry →
    ∃ entry', entries'[i]? = some entry' ∧ (entry' = entry ∨ Closes entry entry')

/-- What a call does to the entries. -/
inductive EntryStep (entries : List AuditEntry) : List AuditEntry → Prop where
  | same : EntryStep entries entries
  | added (audit : IrreversibleAudit) (pending : audit.outcome = .pending)
      (fresh : entries.countP (isPendingFor audit.step) = 0) :
      EntryStep entries (entries ++ [.ofIrreversible audit])
  | closed (audit : IrreversibleAudit) (terminal : audit.outcome ≠ .pending) :
      EntryStep entries (entries.map fun entry =>
        if closedBy audit entry then .ofIrreversible audit else entry)

theorem pendingEntryIdentity_ofIrreversible (audit : IrreversibleAudit) :
    pendingEntryIdentity (.ofIrreversible audit) =
      if audit.outcome = .pending then some (audit.step, audit.capturedAt) else none := by
  cases audit <;> rfl

theorem closedBy_iff {audit : IrreversibleAudit} {entry : AuditEntry} :
    closedBy audit entry = true ↔
      pendingEntryIdentity entry = some (audit.step, audit.capturedAt) := by
  simp [closedBy]

/-- A closed record is not pending. -/
theorem isPendingFor_terminal {audit : IrreversibleAudit} (h : audit.outcome ≠ .pending)
    (step : String) : isPendingFor step (.ofIrreversible audit) = false := by
  simp [isPendingFor, pendingEntryIdentity_ofIrreversible, h]

theorem isPendingFor_pending {audit : IrreversibleAudit} (h : audit.outcome = .pending)
    (step : String) : isPendingFor step (.ofIrreversible audit) = decide (audit.step = step) := by
  simp [isPendingFor, pendingEntryIdentity_ofIrreversible, h]

namespace EntryStep

variable {entries entries' : List AuditEntry}

/-- A call keeps at most one pending record for each step. -/
theorem single (h : EntryStep entries entries') (hsingle : Single entries) :
    Single entries' := by
  intro step
  have hbefore := hsingle step
  cases h with
  | same => exact hbefore
  | added audit pending fresh =>
    rw [List.countP_append, List.countP_singleton, isPendingFor_pending pending]
    by_cases hstep : audit.step = step
    · rw [← hstep, fresh]
      simp
    · simpa [hstep] using hbefore
  | closed audit terminal =>
    rw [List.countP_map]
    refine Nat.le_trans (List.countP_mono_left fun entry _ hpending => ?_) hbefore
    by_cases hclosed : closedBy audit entry = true
    · simp [hclosed, isPendingFor_terminal terminal] at hpending
    · simpa [hclosed] using hpending

/-- A call leaves every entry in its place. -/
theorem evolves (h : EntryStep entries entries') : Evolves entries entries' := by
  intro i entry hentry
  cases h with
  | same => exact ⟨entry, hentry, .inl rfl⟩
  | added audit pending fresh =>
    have hi := (List.getElem?_eq_some_iff.mp hentry).1
    exact ⟨entry, by rw [List.getElem?_append_left hi, hentry], .inl rfl⟩
  | closed audit terminal =>
    rw [List.getElem?_map, hentry]
    refine ⟨_, rfl, ?_⟩
    by_cases hclosed : closedBy audit entry = true
    · exact .inr ⟨audit, terminal, closedBy_iff.mp hclosed, by simp [hclosed]⟩
    · exact .inl (by simp [hclosed])

end EntryStep

theorem Evolves.refl (entries : List AuditEntry) : Evolves entries entries :=
  fun _ entry h => ⟨entry, h, .inl rfl⟩

/-- A closed record is not closed again. -/
theorem Evolves.trans {entries entries' entries'' : List AuditEntry}
    (h : Evolves entries entries') (h' : Evolves entries' entries'') :
    Evolves entries entries'' := by
  intro i entry hentry
  obtain ⟨entry', hentry', hcase⟩ := h i entry hentry
  obtain ⟨entry'', hentry'', hcase'⟩ := h' i entry' hentry'
  refine ⟨entry'', hentry'', ?_⟩
  rcases hcase with rfl | ⟨audit, terminal, hpending, rfl⟩
  · exact hcase'
  · rcases hcase' with rfl | ⟨_, _, hagain, _⟩
    · exact .inr ⟨audit, terminal, hpending, rfl⟩
    · rw [pendingEntryIdentity_ofIrreversible, if_neg terminal] at hagain
      cases hagain

/-! ## What a call does -/

/-- The entries of the document; a missing one has none. -/
def entriesOf (s : AuditStore) : List AuditEntry := (s.file.map (·.entries)).getD []

/-- What happens in a run: the calls, with the faults they meet, and what other parts of the
backend do to the lock. -/
inductive AuditEvent where
  | capture (fault : Option StoreFault) (now step : String) (requirement : RecoveryRequirement)
  | persist (fault : Option StoreFault) (now : String) (audit : IrreversibleAudit)
  | finalize (fault : Option StoreFault) (now : String) (audit : IrreversibleAudit)
  | fail (fault : Option StoreFault) (now : String) (audit : IrreversibleAudit)
  | lock (held : Bool)

/-- The store after an event, whatever the call returned. -/
def stepAudit (s : AuditStore) : AuditEvent → AuditStore
  | .capture fault now step requirement =>
      (captureIrreversibleAudit fault now step requirement s).2
  | .persist fault now audit => (persistIrreversibleAudit fault now audit s).2
  | .finalize fault now audit => (replaceIrreversibleAudit fault now audit false s).2
  | .fail fault now audit => (failIrreversibleAudit fault now audit s).2
  | .lock held => { s with locked := held }

def runAudits (s : AuditStore) (events : List AuditEvent) : AuditStore :=
  events.foldl stepAudit s

section

variable {s t : AuditStore} {fault : Option StoreFault} {now step : String}

theorem loadAuditFile_cases {r : Except String AuditFile}
    (h : loadAuditFile fault now s = (r, t)) :
    t = s ∧ ∀ file, r = .ok file → file = s.file.getD { created := now } := by
  unfold loadAuditFile at h
  split at h
  · obtain ⟨rfl, rfl⟩ := Prod.mk.inj h
    exact ⟨rfl, fun file hfile => by cases hfile⟩
  · obtain ⟨rfl, rfl⟩ := Prod.mk.inj h
    exact ⟨rfl, fun file hfile => (Except.ok.inj hfile).symm⟩

theorem entries_loaded (s : AuditStore) (now : String) :
    (s.file.getD { created := now }).entries = entriesOf s := by
  unfold entriesOf
  cases s.file <;> rfl

/-- The entries after a write: those of the file, unless it was not written. -/
theorem persistAuditFile_entries {file : AuditFile} {r : Except String Unit}
    (h : persistAuditFile fault file s = (r, t)) :
    entriesOf t = entriesOf s ∨ entriesOf t = file.entries := by
  unfold persistAuditFile at h
  split at h
  · obtain ⟨rfl, rfl⟩ := Prod.mk.inj h
    exact .inl rfl
  · obtain ⟨rfl, rfl⟩ := Prod.mk.inj h
    exact .inr rfl
  · obtain ⟨rfl, rfl⟩ := Prod.mk.inj h
    exact .inr rfl

/-- The records that are found pending are the entries that count as pending. -/
theorem length_pendingAudits (entries : List AuditEntry) (step : String) :
    (pendingAudits entries step).length = entries.countP (isPendingFor step) := by
  induction entries with
  | nil => rfl
  | cons entry entries ih =>
    rw [List.countP_cons, ← ih]
    unfold pendingAudits
    rw [List.filterMap_cons]
    cases entry with
    | rebuildable record => simp [AuditEntry.irreversible, isPendingFor, pendingEntryIdentity]
    | unknown value => simp [AuditEntry.irreversible, isPendingFor, pendingEntryIdentity]
    | manual record =>
      by_cases hpending : record.outcome = .pending
      · by_cases hstep : record.step = step <;>
          simp [AuditEntry.irreversible, isPendingFor, pendingEntryIdentity,
            IrreversibleAudit.step, IrreversibleAudit.outcome, hpending, hstep]
      · simp [AuditEntry.irreversible, isPendingFor, pendingEntryIdentity,
          IrreversibleAudit.step, IrreversibleAudit.outcome, hpending]
    | mixed record =>
      by_cases hpending : record.outcome = .pending
      · by_cases hstep : record.step = step <;>
          simp [AuditEntry.irreversible, isPendingFor, pendingEntryIdentity,
            IrreversibleAudit.step, IrreversibleAudit.outcome, hpending, hstep]
      · simp [AuditEntry.irreversible, isPendingFor, pendingEntryIdentity,
          IrreversibleAudit.step, IrreversibleAudit.outcome, hpending]

/-- What the search for a pending record returned. -/
theorem pendingIrreversibleAudit_ok {file : AuditFile} {found : Option IrreversibleAudit}
    (h : pendingIrreversibleAudit file step = .ok found) :
    pendingAudits file.entries step = found.toList := by
  unfold pendingIrreversibleAudit at h
  obtain ⟨_, _, h⟩ := Lib.Checks.bind_eq_ok.mp h
  split at h
  · rename_i hnone
    rw [hnone, ← Except.ok.inj h]
    rfl
  · rename_i audit hone
    rw [hone, ← Except.ok.inj h]
    rfl
  · cases h

/-- A capture leaves the document as it is. -/
theorem capture_file (requirement : RecoveryRequirement) {r : Except String IrreversibleAudit}
    (h : captureIrreversibleAudit fault now step requirement s = (r, t)) :
    t.file = s.file := by
  have hrefl : ∀ s : AuditStore, s.file = s.file := fun _ => rfl
  have htrans : ∀ s t u : AuditStore, t.file = s.file → u.file = t.file → u.file = s.file :=
    fun _ _ _ h h' => h'.trans h
  have htake : Within (fun s t : AuditStore => t.file = s.file)
      (takeLock fault step requirement) := by
    intro s
    unfold takeLock
    repeat' split
    all_goals rfl
  have hload : Within (fun s t : AuditStore => t.file = s.file)
      (loadPending fault now step) := by
    refine Within.bind htrans ?_ fun file => Within.ofExcept hrefl _
    intro s
    rw [(loadAuditFile_cases Prod.mk.eta.symm).1]
  have hrelease : Within (fun s t : AuditStore => t.file = s.file)
      (releaseOnError requirement (loadPending fault now step)) := by
    intro s
    have hs := hload s
    unfold releaseOnError
    split
    · rename_i e u hrun
      rw [hrun] at hs
      split
      · exact hs
      · exact hs
    · rename_i a u hrun
      rwa [hrun] at hs
  have hall : Within (fun s t : AuditStore => t.file = s.file)
      (captureIrreversibleAudit fault now step requirement) := by
    unfold captureIrreversibleAudit
    refine Within.bind htrans (Within.ofExcept hrefl _) fun target => ?_
    refine Within.bind htrans htake fun _ => ?_
    refine Within.bind htrans hrelease fun existing => ?_
    split
    · exact Within.pure hrefl _
    · exact Within.pure hrefl _
    · exact Within.pure hrefl _
    · exact Within.raise hrefl _
  have hend := hall s
  rwa [h] at hend

/-- Persisting adds a pending record, where there is none for its step. -/
theorem persist_entries {audit : IrreversibleAudit} {r : Except String Unit}
    (h : persistIrreversibleAudit fault now audit s = (r, t)) :
    EntryStep (entriesOf s) (entriesOf t) := by
  rcases bind_cases h with ⟨_, hfirst, _⟩ | ⟨_, s₁, hfirst, h⟩
  · cases (Prod.mk.inj hfirst).1
  obtain ⟨_, rfl⟩ := Prod.mk.inj hfirst
  rcases check_cases h with ⟨_, _, _, rfl⟩ | ⟨_, _, h⟩
  · exact .same
  rcases check_cases h with ⟨_, _, _, rfl⟩ | ⟨_, hvalid, h⟩
  · exact .same
  rcases bind_cases h with ⟨_, hload, _⟩ | ⟨file, s₂, hload, h⟩
  · rw [(loadAuditFile_cases hload).1]
    exact .same
  obtain ⟨rfl, hfile⟩ := loadAuditFile_cases hload
  obtain rfl := hfile file rfl
  rcases check_cases h with ⟨_, _, _, rfl⟩ | ⟨found, hfound, h⟩
  · exact .same
  cases found with
  | some existing =>
    rcases check_cases h with ⟨_, _, _, rfl⟩ | ⟨_, _, h⟩
    · exact .same
    · rcases persistAuditFile_entries h with hsame | hsame
      · exact hsame ▸ .same
      · rw [hsame, entries_loaded]
        exact .same
  | none =>
    have hpending : audit.outcome = .pending := by
      have hexact := reject_eq_ok.mp hvalid
      simp only [Bool.not_eq_false', IrreversibleAudit.isValidPendingFor, Bool.and_eq_true,
        decide_eq_true_eq] at hexact
      exact hexact.1.1.2
    have hfresh : (entriesOf s₂).countP (isPendingFor audit.step) = 0 := by
      rw [← length_pendingAudits, ← entries_loaded s₂ now, pendingIrreversibleAudit_ok hfound]
      rfl
    rcases persistAuditFile_entries h with hsame | hadded
    · exact hsame ▸ .same
    · rw [hadded]
      show EntryStep _ ((s₂.file.getD { created := now }).entries ++ _)
      rw [entries_loaded]
      exact .added audit hpending hfresh

/-- Closing replaces pending records by the terminal one. -/
theorem replace_entries {audit : IrreversibleAudit} {failed : Bool} {r : Except String Unit}
    (h : replaceIrreversibleAudit fault now audit failed s = (r, t)) :
    EntryStep (entriesOf s) (entriesOf t) := by
  rcases bind_cases h with ⟨_, hfirst, _⟩ | ⟨_, s₁, hfirst, h⟩
  · cases (Prod.mk.inj hfirst).1
  obtain ⟨_, rfl⟩ := Prod.mk.inj hfirst
  rcases check_cases h with ⟨_, _, _, rfl⟩ | ⟨_, _, h⟩
  · exact .same
  rcases check_cases h with ⟨_, _, _, rfl⟩ | ⟨_, houtcome, h⟩
  · exact .same
  rcases bind_cases h with ⟨_, hload, _⟩ | ⟨file, s₂, hload, h⟩
  · rw [(loadAuditFile_cases hload).1]
    exact .same
  obtain ⟨rfl, hfile⟩ := loadAuditFile_cases hload
  obtain rfl := hfile file rfl
  rcases check_cases h with ⟨_, _, _, rfl⟩ | ⟨_, _, h⟩
  · exact .same
  have hterminal : audit.outcome ≠ .pending := by
    intro hpending
    have hexact := reject_eq_ok.mp houtcome
    rw [hpending] at hexact
    simp [outcomeOk] at hexact
  rcases persistAuditFile_entries h with hsame | hclosed
  · exact hsame ▸ .same
  · rw [hclosed]
    show EntryStep _ ((s₂.file.getD { created := now }).entries.map _)
    rw [entries_loaded]
    exact .closed audit hterminal

/-- **All that an event can do to the entries.** -/
theorem stepAudit_entries (s : AuditStore) (event : AuditEvent) :
    EntryStep (entriesOf s) (entriesOf (stepAudit s event)) := by
  cases event with
  | capture fault now step requirement =>
    have hfile : (captureIrreversibleAudit fault now step requirement s).2.file = s.file :=
      capture_file requirement Prod.mk.eta.symm
    unfold stepAudit entriesOf
    rw [hfile]
    exact .same
  | persist fault now audit => exact persist_entries Prod.mk.eta.symm
  | finalize fault now audit => exact replace_entries Prod.mk.eta.symm
  | fail fault now audit =>
    have hstep : EntryStep (entriesOf s)
        (entriesOf (replaceIrreversibleAudit fault now audit true s).2) :=
      replace_entries Prod.mk.eta.symm
    exact hstep
  | lock held => exact .same

/-- **A run** keeps one live record for each step, and every entry in its place. -/
theorem runAudits_entries (hsingle : Single (entriesOf s)) (events : List AuditEvent) :
    Single (entriesOf (runAudits s events)) ∧
      Evolves (entriesOf s) (entriesOf (runAudits s events)) := by
  induction events generalizing s with
  | nil => exact ⟨hsingle, .refl _⟩
  | cons event events ih =>
    have hstep := stepAudit_entries s event
    obtain ⟨hend, hevolves⟩ := ih (hstep.single hsingle)
    exact ⟨hend, hstep.evolves.trans hevolves⟩

/-! ## Retries -/

/-- A record that is pending is the only one that is found. -/
theorem pendingAudits_single {entries : List AuditEntry} (hsingle : Single entries)
    {audit : IrreversibleAudit} (hmem : .ofIrreversible audit ∈ entries)
    (hpending : audit.outcome = .pending) : pendingAudits entries audit.step = [audit] := by
  have hfound : audit ∈ pendingAudits entries audit.step := by
    have hread : (AuditEntry.ofIrreversible audit).irreversible = some audit := by
      cases audit <;> rfl
    simp only [pendingAudits, List.mem_filter, List.mem_filterMap, Bool.and_eq_true,
      decide_eq_true_eq]
    exact ⟨⟨_, hmem, hread⟩, trivial, hpending⟩
  have hlength := hsingle audit.step
  rw [← length_pendingAudits] at hlength
  obtain ⟨found, hone⟩ := List.length_eq_one_iff.mp
    (Nat.le_antisymm hlength (List.length_pos_of_mem hfound))
  rw [hone, List.mem_singleton] at hfound
  rw [hone, hfound]

/-- **A capture takes the pending record up again.** -/
theorem capture_pending (hsingle : Single (entriesOf s)) {audit result : IrreversibleAudit}
    (hmem : .ofIrreversible audit ∈ entriesOf s) (hpending : audit.outcome = .pending)
    {requirement : RecoveryRequirement}
    (h : captureIrreversibleAudit fault now audit.step requirement s = (.ok result, t)) :
    result = audit ∧ t.file = s.file := by
  refine ⟨?_, capture_file requirement h⟩
  obtain ⟨target, s₁, htarget, h⟩ := bind_eq_ok h
  obtain ⟨_, rfl⟩ := Prod.mk.inj htarget
  obtain ⟨_, s₂, htake, h⟩ := bind_eq_ok h
  obtain ⟨existing, s₃, hload, h⟩ := bind_eq_ok h
  have hfile : s₂.file = s.file := by
    unfold takeLock at htake
    repeat' split at htake
    all_goals
      cases (Prod.mk.inj htake).1
      try rw [← (Prod.mk.inj htake).2]
  have hread : loadPending fault now audit.step s₂ = (.ok existing, s₃) := by
    unfold releaseOnError at hload
    split at hload
    · cases (Prod.mk.inj hload).1
    · rename_i a u hrun
      rw [hrun, hload]
  obtain ⟨file, s₄, hfound, hsearch⟩ := bind_eq_ok hread
  obtain ⟨rfl, hloaded⟩ := loadAuditFile_cases hfound
  obtain rfl := hloaded file rfl
  have hlist := pendingIrreversibleAudit_ok (Prod.mk.inj hsearch).1
  have hentries : entriesOf s₄ = entriesOf s := by rw [entriesOf, entriesOf, hfile]
  rw [entries_loaded, hentries, pendingAudits_single hsingle hmem hpending] at hlist
  cases existing with
  | none => cases hlist
  | some found =>
    obtain rfl : audit = found := List.singleton_inj.mp hlist
    exact (Except.ok.inj (Prod.mk.inj h).1).symm

/-- **Only the pending record is persisted again**, and that changes nothing. -/
theorem persist_pending (hsingle : Single (entriesOf s)) {audit other : IrreversibleAudit}
    (hmem : .ofIrreversible audit ∈ entriesOf s) (hpending : audit.outcome = .pending)
    (hother : other.step = audit.step) {r : Except String Unit}
    (h : persistIrreversibleAudit fault now other s = (r, t)) :
    entriesOf t = entriesOf s ∧ (r = .ok () → other = audit) := by
  rcases bind_cases h with ⟨_, hfirst, _⟩ | ⟨_, s₁, hfirst, h⟩
  · cases (Prod.mk.inj hfirst).1
  obtain ⟨_, rfl⟩ := Prod.mk.inj hfirst
  rcases check_cases h with ⟨_, _, rfl, rfl⟩ | ⟨_, _, h⟩
  · exact ⟨rfl, nofun⟩
  rcases check_cases h with ⟨_, _, rfl, rfl⟩ | ⟨_, _, h⟩
  · exact ⟨rfl, nofun⟩
  rcases bind_cases h with ⟨_, hload, rfl⟩ | ⟨file, s₂, hload, h⟩
  · rw [(loadAuditFile_cases hload).1]
    exact ⟨rfl, nofun⟩
  obtain ⟨rfl, hfile⟩ := loadAuditFile_cases hload
  obtain rfl := hfile file rfl
  rcases check_cases h with ⟨_, _, rfl, rfl⟩ | ⟨found, hfound, h⟩
  · exact ⟨rfl, nofun⟩
  have hlist := pendingIrreversibleAudit_ok hfound
  rw [entries_loaded, hother, pendingAudits_single hsingle hmem hpending] at hlist
  cases found with
  | none => cases hlist
  | some existing =>
    obtain rfl : audit = existing := List.singleton_inj.mp hlist
    rcases check_cases h with ⟨_, _, rfl, rfl⟩ | ⟨_, hsame, h⟩
    · exact ⟨rfl, nofun⟩
    · have hequal : audit = other := by simpa using reject_eq_ok.mp hsame
      refine ⟨?_, fun _ => hequal.symm⟩
      rcases persistAuditFile_entries h with hkept | hkept
      · exact hkept
      · rw [hkept, entries_loaded]

end

/-! ## Receipts -/

/-- The document after a sequence of receipts. -/
def replaceAll (file : EvidenceFile) (receipts : List ObservationReceipt) : EvidenceFile :=
  receipts.foldl .replaceObservation file

/-- The last receipt of a step. -/
def lastFor (step : String) (receipts : List ObservationReceipt) : Option ObservationReceipt :=
  (receipts.filter fun receipt => receipt.step = step).getLast?

/-- The entry belongs to none of the steps that were written. -/
def Untouched (receipts : List ObservationReceipt) (entry : EvidenceEntry) : Bool :=
  receipts.all fun receipt => !entry.observes receipt.step

section

variable {file : EvidenceFile} {step : String}

theorem receiptFor_eq_none {entry : EvidenceEntry} (h : entry.observes step = false) :
    entry.receiptFor step = none := by
  cases entry with
  | observation receipt => simpa [EvidenceEntry.observes, EvidenceEntry.receiptFor] using h
  | unknown value => rfl

/-- One receipt: it is the only one of its step, and the other steps keep theirs. -/
theorem receipts_replaceObservation (receipt : ObservationReceipt) :
    (file.replaceObservation receipt).entries.filterMap (EvidenceEntry.receiptFor step) =
      if receipt.step = step then [receipt]
      else file.entries.filterMap (EvidenceEntry.receiptFor step) := by
  simp only [EvidenceFile.replaceObservation, List.filterMap_append, List.filterMap_filter]
  by_cases hstep : receipt.step = step
  · have hnone : ∀ entry ∈ file.entries,
        (if !entry.observes receipt.step then entry.receiptFor step else none) = none := by
      intro entry _
      split
      · rename_i hother
        rw [← hstep]
        exact receiptFor_eq_none (by simpa using hother)
      · rfl
    rw [List.filterMap_eq_nil_iff.mpr hnone]
    simp [EvidenceEntry.receiptFor, hstep]
  · have hkept : ∀ entry ∈ file.entries,
        (if !entry.observes receipt.step then entry.receiptFor step else none) =
          entry.receiptFor step := by
      intro entry _
      cases entry with
      | unknown value => rfl
      | observation known =>
        by_cases hknown : known.step = receipt.step
        · have hother : known.step ≠ step := hknown ▸ hstep
          simp [EvidenceEntry.observes, EvidenceEntry.receiptFor, hother]
        · simp [EvidenceEntry.observes, hknown]
    rw [List.filterMap_congr hkept]
    simp [EvidenceEntry.receiptFor, hstep]

/-- A sequence of receipts: the last one of a step is the only one. -/
theorem receipts_replaceAll (receipts : List ObservationReceipt) :
    (replaceAll file receipts).entries.filterMap (EvidenceEntry.receiptFor step) =
      match lastFor step receipts with
      | some receipt => [receipt]
      | none => file.entries.filterMap (EvidenceEntry.receiptFor step) := by
  induction receipts generalizing file with
  | nil => rfl
  | cons receipt receipts ih =>
    show (replaceAll (file.replaceObservation receipt) receipts).entries.filterMap _ = _
    rw [ih, receipts_replaceObservation]
    unfold lastFor
    by_cases hstep : receipt.step = step
    · rw [List.filter_cons_of_pos (by simpa using hstep), List.getLast?_cons]
      cases (receipts.filter fun receipt => receipt.step = step).getLast? with
      | none => simp [hstep]
      | some last => rfl
    · rw [List.filter_cons_of_neg (by simpa using hstep), if_neg hstep]

/-- **A lookup finds the last receipt of its step**, where it validates. -/
theorem observationFor_replaced (digest : Digest) {receipts : List ObservationReceipt}
    {receipt : ObservationReceipt} (h : lastFor step receipts = some receipt) :
    (replaceAll file receipts).observationFor digest step =
      (receipt.validateFor digest step).map fun _ => some receipt := by
  unfold EvidenceFile.observationFor
  rw [receipts_replaceAll, h]
  show (receipt.validateFor digest step >>= fun _ => Except.ok (some receipt)) = _
  cases receipt.validateFor digest step <;> rfl

/-- **Other entries keep their value and order.** -/
theorem untouched_replaceAll (receipts : List ObservationReceipt) :
    (replaceAll file receipts).entries.filter (Untouched receipts) =
      file.entries.filter (Untouched receipts) := by
  have hany : ∀ (keep : EvidenceEntry → Bool) (receipts : List ObservationReceipt)
      (file : EvidenceFile),
      (∀ receipt ∈ receipts, ∀ entry : EvidenceEntry, entry.observes receipt.step = true →
        keep entry = false) →
      (replaceAll file receipts).entries.filter keep = file.entries.filter keep := by
    intro keep receipts
    induction receipts with
    | nil => exact fun _ _ => rfl
    | cons receipt receipts ih =>
      intro file hkeep
      have hown : keep (.observation receipt) = false :=
        hkeep receipt (by simp) _ (by simp [EvidenceEntry.observes])
      have hdropped : (file.replaceObservation receipt).entries.filter keep =
          file.entries.filter keep := by
        simp only [EvidenceFile.replaceObservation, List.filter_append, List.filter_filter,
          List.filter_cons, hown, List.filter_nil, List.append_nil, Bool.false_eq_true,
          if_false]
        refine List.filter_congr fun entry _ => ?_
        cases hobserves : entry.observes receipt.step with
        | true => simp [hkeep receipt (by simp) entry hobserves]
        | false => simp
      show (replaceAll (file.replaceObservation receipt) receipts).entries.filter keep = _
      rw [ih _ fun r hr => hkeep r (by simp [hr]), hdropped]
  refine hany (Untouched receipts) receipts file fun receipt hmem entry hobserves => ?_
  by_contra huntouched
  have hall := List.all_eq_true.mp (Bool.not_eq_false _ ▸ huntouched) receipt hmem
  simp [hobserves] at hall

end

/-! ## Both documents -/

/-- **One live record for each step.**  From a document with at most one pending record for
each step, every run of captures, writes and closings keeps that, leaves every entry in its
place and unchanged unless it was pending and is closed, and a retry takes up the record that
is pending.  In the evidence document the last receipt of a step is the one a lookup finds,
where it validates, and the other entries stay. -/
theorem liveRecords (digest : Digest) :
    (∀ (s : AuditStore) (events : List AuditEvent), Single (entriesOf s) →
      Single (entriesOf (runAudits s events)) ∧
      Evolves (entriesOf s) (entriesOf (runAudits s events)) ∧
      ∀ audit : IrreversibleAudit, .ofIrreversible audit ∈ entriesOf (runAudits s events) →
        audit.outcome = .pending →
        (∀ fault now requirement result t,
          captureIrreversibleAudit fault now audit.step requirement (runAudits s events) =
              (.ok result, t) →
            result = audit ∧ t.file = (runAudits s events).file) ∧
        (∀ fault now (other : IrreversibleAudit) r t, other.step = audit.step →
          persistIrreversibleAudit fault now other (runAudits s events) = (r, t) →
            entriesOf t = entriesOf (runAudits s events) ∧ (r = .ok () → other = audit))) ∧
    (∀ (file : EvidenceFile) (receipts : List ObservationReceipt),
      (∀ step receipt, lastFor step receipts = some receipt →
        (replaceAll file receipts).observationFor digest step =
          (receipt.validateFor digest step).map fun _ => some receipt) ∧
      (replaceAll file receipts).entries.filter (Untouched receipts) =
        file.entries.filter (Untouched receipts)) := by
  constructor
  · intro s events hsingle
    obtain ⟨hend, hevolves⟩ := runAudits_entries hsingle events
    refine ⟨hend, hevolves, fun audit hmem hpending => ⟨?_, ?_⟩⟩
    · intro fault now requirement result t h
      exact capture_pending hend hmem hpending h
    · intro fault now other r t hother h
      exact persist_pending hend hmem hpending hother h
  · exact fun file receipts => ⟨fun step receipt h => observationFor_replaced digest h,
      untouched_replaceAll receipts⟩

/-- A removal that is pending. -/
private def removal : IrreversibleAudit :=
  .manual (.mkPending "P2:2" "2026-08-23T12:34:56Z" .exactDriverPackageRemoval)

private def appxRemoval : IrreversibleAudit :=
  .mixed (.mkPending "P1:13" "2026-08-23T12:34:56Z" .appxRemovals)

private def auditStore : AuditStore where
  file := some { entries := [.ofIrreversible removal], created := "2026-08-23T12:00:00Z" }
  locked := true

/-- Another step is announced before the removal is tried again. -/
private def auditEvents : List AuditEvent :=
  [.persist none "2026-08-23T12:34:57Z" appxRemoval, .lock false]

private def zeroReceiptId : BindingReceiptId :=
  ⟨"0000000000000000000000000000000000000000000000000000000000000000", by decide +kernel⟩

private def zeroDigest : Digest := fun _ => .ok zeroReceiptId

/-- A receipt of a schema that is not supported. -/
private def oldReceipt : ObservationReceipt where
  schemaVersion := 0
  receiptId := zeroReceiptId
  step := "P1:21"
  capturedAtUtc := "2026-08-23T12:34:56Z"
  transactionId := none
  runtimeGeneration := none
  subject := .msiDeviceSet []

private theorem retry_ok :
    (captureIrreversibleAudit none "2026-08-23T12:34:58Z" "P2:2" .manualRecoveryAudit
      (runAudits auditStore auditEvents)).1 = .ok removal := by
  decide +kernel

/-- The retry takes the same removal up again, and nothing was written for it. -/
theorem liveRecords_retry :
    Single (entriesOf (runAudits auditStore auditEvents)) ∧
      (captureIrreversibleAudit none "2026-08-23T12:34:58Z" "P2:2" .manualRecoveryAudit
        (runAudits auditStore auditEvents)).2.file = (runAudits auditStore auditEvents).file ∧
      (replaceAll { created := "2026-08-23T12:00:00Z" } [oldReceipt]).observationFor zeroDigest
        "P1:21" = (oldReceipt.validateFor zeroDigest "P1:21").map fun _ => some oldReceipt := by
  have hall := liveRecords zeroDigest
  have hsingle : Single (entriesOf auditStore) := fun step => List.countP_le_length
  have hmem : .ofIrreversible removal ∈ entriesOf (runAudits auditStore auditEvents) := by
    decide +kernel
  obtain ⟨hend, _, hretry⟩ := hall.1 auditStore auditEvents hsingle
  have hcapture := (hretry removal hmem rfl).1 none "2026-08-23T12:34:58Z"
    .manualRecoveryAudit removal _ (Prod.ext retry_ok rfl)
  exact ⟨hend, hcapture.2, (hall.2 _ [oldReceipt]).1 "P1:21" oldReceipt (by decide +kernel)⟩

/-- A receipt that does not validate is stored, and is not found. -/
theorem observationFor_oldReceipt :
    ¬ ∀ (digest : Digest) (file : EvidenceFile) (receipts : List ObservationReceipt)
      (step : String) (receipt : ObservationReceipt), lastFor step receipts = some receipt →
        (replaceAll file receipts).observationFor digest step = .ok (some receipt) := by
  intro h
  have hlast : lastFor "P1:21" [oldReceipt] = some oldReceipt := by decide +kernel
  have hfound := h zeroDigest { created := "" } [oldReceipt] "P1:21" oldReceipt hlast
  rw [observationFor_replaced zeroDigest hlast] at hfound
  cases hfound

end FrametimeCfg.Verified.LiveRecords
