import FrametimeCfg.Verified.PagefileInverse

/-!
# Compensating the page file transaction

A native access of an attempt at P1:8 may fail.  The accesses are counted from
the start of the attempt: two capture the inventory, three persist the entry,
the mutation begins with the sixth, and the creation of a setting reads back
with the tenth.

A failure is followed by a compensation.  It takes back what the caller knows
of: the setting that a creation added before its read-back failed stays.  And
what a compensation does not take back is the token in the journal: the next
attempt finds the record no longer waiting for one, and refuses.
-/

namespace FrametimeCfg.Verified.PagefileCompensation

open FrametimeCfg.Domain
open FrametimeCfg.Lib
open FrametimeCfg.Lib.Effect
open FrametimeCfg.Verified.PagefileInverse
open FrametimeCfg.Windows

/-! ## Counting accesses -/

/-- The access of the given number fails. -/
def Fails (s : PagefileHost) (n : Nat) : Prop := s.faults[n]? = some true

/-- The access of the given number is the first to fail. -/
def FailsFirst (s : PagefileHost) (n : Nat) : Prop := Fails s n ∧ ∀ i < n, ¬ Fails s i

/-- `u` is reached from `s` by `n` accesses, and all of them passed. -/
structure After (s : PagefileHost) (n : Nat) (u : PagefileHost) : Prop where
  faults : u.faults = s.faults.drop n
  passed : ∀ i < n, ¬ Fails s i

section

variable {s u : PagefileHost} {n m : Nat}

theorem After.start (s : PagefileHost) : After s 0 s :=
  ⟨by simp, fun i hi => absurd hi (Nat.not_lt_zero i)⟩

theorem After.failing_iff (h : After s n u) : u.failing = true ↔ Fails s n := by
  rw [PagefileHost.failing, h.faults, List.head?_drop, decide_eq_true_iff, Fails]

/-- One more access that passed. -/
theorem After.pass (h : After s n u) (hpass : u.failing = false) : After s (n + 1) u.pop := by
  constructor
  · rw [PagefileHost.faults_pop, h.faults, List.tail_drop]
  · intro i hi
    rcases Nat.lt_succ_iff_lt_or_eq.mp hi with hlt | rfl
    · exact h.passed i hlt
    · intro hfails
      rw [h.failing_iff.mpr hfails] at hpass
      cases hpass

/-- A change of the configuration is no access. -/
theorem After.become (h : After s n u) (live : PagefileInventory) :
    After s n (u.become live) := ⟨h.faults, h.passed⟩

/-- The access that failed is the first. -/
theorem After.first (h : After s n u) (hfail : u.failing = true) : FailsFirst s n :=
  ⟨h.failing_iff.mp hfail, h.passed⟩

theorem FailsFirst.unique (hn : FailsFirst s n) (hm : FailsFirst s m) : n = m := by
  rcases Nat.lt_trichotomy n m with hlt | heq | hgt
  · exact absurd hn.1 (hm.2 n hlt)
  · exact heq
  · exact absurd hm.1 (hn.2 m hgt)

end

/-! ## Compensating -/

/-- What a compensation makes of the settings, where it returned. -/
def Undone (b : PagefileBinding) (created : Option CreatedPagefileToken)
    (live live' : PagefileInventory) : Prop :=
  match created, b.target with
  | some token, _ => live.resolves token.setting = true ∧ live' = live.deleted token
  | none, some t =>
      live.resolves t = true ∧ live' = live.resized t t.initialSize t.maximumSize
  | none, none => live' = live

section

variable {naming : Naming} {b : PagefileBinding} {created : Option CreatedPagefileToken}
  {s s' : PagefileHost} {x : Unit}

theorem undoTarget_returned (h : undoTarget (wmiStore naming) b created s = (.ok x, s')) :
    s'.backup = s.backup ∧ Undone b created s.live s'.live := by
  unfold undoTarget at h
  unfold Undone
  cases created with
  | some token =>
      obtain ⟨hresolves, rfl⟩ := delete_returned (relabel_eq_ok.mp h)
      exact ⟨rfl, hresolves, rfl⟩
  | none =>
      cases ht : b.target with
      | some t =>
          rw [ht] at h
          obtain ⟨hresolves, rfl⟩ := update_returned (relabel_eq_ok.mp h)
          exact ⟨rfl, hresolves, rfl⟩
      | none =>
          rw [ht] at h
          obtain ⟨-, rfl⟩ := Prod.mk.inj h
          exact ⟨rfl, rfl⟩

/-- **A compensation that returned** took the target back and then switched the
management to the captured value. -/
theorem compensate_returned
    (h : compensatePagefileMutation (wmiStore naming) b created s = (.ok x, s')) :
    s'.backup = s.backup ∧ ∃ live, Undone b created s.live live ∧
      s'.live = live.managed b.before.automaticManaged := by
  rw [compensatePagefileMutation] at h
  obtain ⟨target, s₁, htarget, h⟩ := bind_eq_ok h
  obtain ⟨automatic, s₂, hautomatic, h⟩ := bind_eq_ok h
  cases target with
  | error message =>
      cases automatic with
      | error message' => cases (Prod.mk.inj h).1
      | ok _ => cases (Prod.mk.inj h).1
  | ok _ =>
      cases automatic with
      | error message => cases (Prod.mk.inj h).1
      | ok _ =>
          obtain ⟨-, rfl⟩ := Prod.mk.inj h
          obtain ⟨hbackup, hundone⟩ := undoTarget_returned (attempt_eq_ok.mp htarget)
          have hset := setAutomatic_returned (relabel_eq_ok.mp (attempt_eq_ok.mp hautomatic))
          refine ⟨?_, s₁.live, hundone, ?_⟩
          · rw [hset]
            exact hbackup
          · rw [hset]
            rfl

end

/-! ## Beginning, with faults -/

section

variable {naming : Naming} {inventory : PagefileInventory} {b : PagefileBinding}
  {s u u' : PagefileHost} {n : Nat}

/-- The configuration after the creation. -/
def afterCreation (naming : Naming) (inventory : PagefileInventory) (b : PagefileBinding) :
    PagefileInventory :=
  (inventory.managed false).extended (createdSetting naming inventory b)

/-- **Beginning with a creation.**  It stops before the creation, or at its
read-back, or it returns the token. -/
theorem begin_create_cases (h : Captured inventory b) (ht : b.target = none)
    (hu : After s n u) (hlive : u.live = inventory)
    {r : Except String (Option CreatedPagefileToken)}
    (hrun : beginPagefileMutation (wmiStore naming) b u = (r, u')) :
    u'.backup = u.backup ∧
      (((∃ message, r = .error message) ∧ (∃ k, k < n + 3 ∧ FailsFirst s k) ∧
          ∃ value, u'.live = inventory.managed value) ∨
        ((∃ message, r = .error message) ∧ FailsFirst s (n + 3) ∧
          u'.live = afterCreation naming inventory b) ∨
        (r = .ok (some (createdSetting naming inventory b).token) ∧ After s (n + 4) u' ∧
          u'.live = afterCreation naming inventory b)) := by
  have hid : u.live.isComputer b.before.computerObjectPath b.before.computerRelativePath
      (some b.before.automaticManaged) = true := by
    simp [PagefileInventory.isComputer, hlive, h.before]
  cases hset : u.failing with
  | true =>
      rw [beginPagefileMutation, bind_apply_error (setAutomatic_failing hset)] at hrun
      obtain ⟨rfl, rfl⟩ := Prod.mk.inj hrun
      exact ⟨rfl, .inl ⟨⟨_, rfl⟩, ⟨n, by omega, hu.first hset⟩,
        ⟨inventory.automaticManaged, hlive⟩⟩⟩
  | false =>
  have hu₁ := hu.pass hset
  cases hread : u.pop.failing with
  | true =>
      have hread' : (u.pop.become (u.live.managed false)).failing = true := hread
      rw [beginPagefileMutation, bind_apply_ok (setAutomatic_passing hset hid),
        bind_apply_error (inventory_failing hread')] at hrun
      obtain ⟨rfl, rfl⟩ := Prod.mk.inj hrun
      exact ⟨rfl, .inl ⟨⟨_, rfl⟩, ⟨n + 1, by omega, hu₁.first hread⟩, ⟨false, by
        rw [PagefileHost.live_pop, PagefileHost.live_become, hlive]⟩⟩⟩
  | false =>
  have hu₂ : After s (n + 2) (switchedOff u) := ((hu₁.become _).pass hread)
  have hfree : (switchedOff u).live.settings.any (·.isAt b.targetPath) = false := by
    rw [live_switchedOff, hlive]
    exact h.free ht
  rw [begin_switch h hlive hset hread, writeTarget_none ht] at hrun
  cases hcreate : (switchedOff u).failing with
  | true =>
      rw [bind_apply_error (create_failing hcreate)] at hrun
      obtain ⟨rfl, rfl⟩ := Prod.mk.inj hrun
      exact ⟨rfl, .inl ⟨⟨_, rfl⟩, ⟨n + 2, by omega, hu₂.first hcreate⟩, ⟨false, by
        rw [PagefileHost.live_pop, live_switchedOff, hlive]⟩⟩⟩
  | false =>
  have hu₃ := hu₂.pass hcreate
  have hsetting : newSetting naming (switchedOff u).live b.targetPath b.initialSize
      b.maximumSize = createdSetting naming inventory b := by
    rw [live_switchedOff, hlive]
    rfl
  cases hback : (switchedOff u).pop.failing with
  | true =>
      rw [bind_apply_error (create_unread hcreate hback hfree), hsetting] at hrun
      obtain ⟨rfl, rfl⟩ := Prod.mk.inj hrun
      exact ⟨rfl, .inr (.inl ⟨⟨_, rfl⟩, hu₃.first hback, by
        rw [PagefileHost.live_pop, PagefileHost.live_become, live_switchedOff, hlive]
        rfl⟩)⟩
  | false =>
      rw [bind_apply_ok (create_passing hcreate hback hfree), hsetting] at hrun
      obtain ⟨rfl, rfl⟩ := Prod.mk.inj hrun
      exact ⟨rfl, .inr (.inr ⟨rfl, (hu₃.become _).pass hback, by
        rw [PagefileHost.live_pop, PagefileHost.live_become, live_switchedOff, hlive]
        rfl⟩)⟩

end

/-! ## Reporting a compensation -/

section

variable {naming : Naming} {inventory : PagefileInventory} {b : PagefileBinding}
  {s u u' : PagefileHost} {n : Nat} {c message c' message' : String} {α : Type}

theorem not_compensated_of_plain {m : Prog PagefileHost String α} :
    relabel PagefileError.plain m u ≠ (.error (.compensated c message), u') := by
  rw [relabel]
  rcases m u with ⟨r, u₁⟩
  cases r with
  | ok a => intro h; cases (Prod.mk.inj h).1
  | error e => intro h; cases (Prod.mk.inj h).1

/-- A completed compensation is reported where the rollback returned. -/
theorem rollback_of_compensated {rollback : Prog PagefileHost String Unit}
    (h : (compensateAfter c rollback message : PagefileM α) u =
      (.error (.compensated c' message'), u')) : rollback u = (.ok (), u') := by
  rw [compensateAfter] at h
  rcases hr : rollback u with ⟨r, u₁⟩
  have hattempt : (attempt rollback : PagefileM (Except String Unit)) u = (.ok r, u₁) :=
    attempt_eq_ok.mpr hr
  rw [bind_apply_ok hattempt] at h
  cases r with
  | ok _ =>
      obtain ⟨-, rfl⟩ := Prod.mk.inj h
      rfl
  | error e => cases (Prod.mk.inj h).1

theorem not_returned_of_compensation {rollback : Prog PagefileHost String Unit} {a : α} :
    (compensateAfter c rollback message : PagefileM α) u ≠ (.ok a, u') := by
  rw [compensateAfter]
  rcases hr : rollback u with ⟨r, u₁⟩
  have hattempt : (attempt rollback : PagefileM (Except String Unit)) u = (.ok r, u₁) :=
    attempt_eq_ok.mpr hr
  rw [bind_apply_ok hattempt]
  cases r with
  | ok _ => intro h; cases (Prod.mk.inj h).1
  | error e => intro h; cases (Prod.mk.inj h).1

/-- A compensation over a connection of its own. -/
theorem nativeCompensate_returned {created : Option CreatedPagefileToken} {x : Unit}
    (h : nativePagefileCompensate naming b created u = (.ok x, u')) :
    u'.backup = u.backup ∧ ∃ live, Undone b created u.live live ∧
      u'.live = live.managed b.before.automaticManaged := by
  obtain ⟨_, u₁, haccess, h⟩ := bind_eq_ok h
  obtain ⟨-, rfl⟩ := access_returned haccess
  exact compensate_returned (s := u.pop) h

/-- What `native_pagefile_begin` does, as far as its errors go. -/
theorem nativeBegin_compensated
    (h : nativePagefileBegin naming b u = (.error (.compensated c message), u')) :
    u.failing = false ∧ ∃ r u₁, beginPagefileMutation (wmiStore naming) b u.pop =
      (.error r, u₁) ∧ compensatePagefileMutation (wmiStore naming) b none u₁ =
        (.ok (), u') := by
  rw [nativePagefileBegin] at h
  rcases bind_eq_error h with h | ⟨_, u₁, haccess, h⟩
  · exact absurd h not_compensated_of_plain
  obtain ⟨hpassed, rfl⟩ := access_returned (relabel_eq_ok.mp haccess)
  rcases bind_eq_error h with h | ⟨r, u₁, hbegin, h⟩
  · rw [attempt] at h
    cases (Prod.mk.inj h).1
  cases r with
  | ok created => cases (Prod.mk.inj h).1
  | error e => exact ⟨hpassed, e, u₁, attempt_eq_ok.mp hbegin, rollback_of_compensated h⟩

theorem nativeBegin_returned {created : Option CreatedPagefileToken}
    (h : nativePagefileBegin naming b u = (.ok created, u')) :
    u.failing = false ∧ beginPagefileMutation (wmiStore naming) b u.pop =
      (.ok created, u') := by
  rw [nativePagefileBegin] at h
  obtain ⟨_, u₁, haccess, h⟩ := bind_eq_ok h
  obtain ⟨hpassed, rfl⟩ := access_returned (relabel_eq_ok.mp haccess)
  obtain ⟨r, u₁, hbegin, h⟩ := bind_eq_ok h
  cases r with
  | ok created' =>
      obtain ⟨hvalue, rfl⟩ := Prod.mk.inj h
      obtain rfl := Except.ok.inj hvalue
      exact ⟨hpassed, attempt_eq_ok.mp hbegin⟩
  | error e => exact absurd h not_returned_of_compensation

/-! ## Creating, with faults -/

/-- The captured configuration is any of its switched ones, switched back. -/
theorem managed_managed (h : Captured inventory b) (value : Bool) :
    (inventory.managed value).managed b.before.automaticManaged = inventory := by
  rw [h.before]
  rfl

/-- Deleting the created setting leaves the captured ones. -/
theorem deleted_created
    (hresolves : (afterCreation naming inventory b).resolves
      (createdSetting naming inventory b).token.setting = true)
    (h : Captured inventory b) (ht : b.target = none) :
    (afterCreation naming inventory b).deleted (createdSetting naming inventory b).token =
      inventory.managed false := by
  have hkept : ∀ x ∈ inventory.settings,
      x.objectPath ≠ (createdSetting naming inventory b).objectPath := by
    intro x hx heq
    have hfind : (inventory.settings ++ [createdSetting naming inventory b]).find?
        (·.objectPath = (createdSetting naming inventory b).objectPath) =
        some (createdSetting naming inventory b) := of_decide_eq_true hresolves
    have hfirst : inventory.settings.find?
        (·.objectPath = (createdSetting naming inventory b).objectPath) = some x := by
      rw [← heq]
      exact h.separate.find_objectPath hx
    rw [List.find?_append, hfirst] at hfind
    have hsame : x = createdSetting naming inventory b := by simpa using hfind
    have hat : inventory.settings.any (·.isAt b.targetPath) = true := by
      rw [List.any_eq_true]
      refine ⟨x, hx, ?_⟩
      rw [hsame]
      simp [PagefileSetting.isAt, createdSetting, newSetting, Text.eqIgnoreAsciiCase]
    rw [h.free ht] at hat
    cases hat
  have hfilter : inventory.settings.filter (fun x =>
      decide (x.objectPath ≠ (createdSetting naming inventory b).token.objectPath)) =
      inventory.settings := by
    rw [List.filter_eq_self]
    intro x hx
    exact decide_eq_true (hkept x hx)
  rw [PagefileInventory.deleted, afterCreation, PagefileInventory.extended]
  simp only [List.filter_append, PagefileInventory.managed, hfilter]
  simp [PagefileSetting.token]

/-- A compensated begin of a creation. -/
theorem begin_create_compensated (h : Captured inventory b) (ht : b.target = none)
    (hu : After s n u) (hlive : u.live = inventory)
    (hrun : nativePagefileBegin naming b u = (.error (.compensated c message), u')) :
    u'.backup = u.backup ∧
      (((∃ k, k < n + 4 ∧ FailsFirst s k) ∧ u'.live = inventory) ∨
        (FailsFirst s (n + 4) ∧ u'.live =
          (afterCreation naming inventory b).managed inventory.automaticManaged)) := by
  obtain ⟨hpassed, r, u₁, hbegin, hrollback⟩ := nativeBegin_compensated hrun
  obtain ⟨hbackup, live, hundone, hlive'⟩ := compensate_returned hrollback
  have hundone' : live = u₁.live := by simpa [Undone, ht] using hundone
  subst hundone'
  obtain ⟨hbackup', hcases⟩ := begin_create_cases h ht (hu.pass hpassed) hlive hbegin
  have hjournal : u'.backup = u.backup := by rw [hbackup, hbackup']; rfl
  rcases hcases with ⟨-, ⟨k, hk, hfirst⟩, value, hvalue⟩ | ⟨-, hfirst, hvalue⟩ | ⟨hok, -, -⟩
  · refine ⟨hjournal, .inl ⟨⟨k, by omega, hfirst⟩, ?_⟩⟩
    rw [hlive', hvalue, managed_managed h]
  · refine ⟨hjournal, .inr ⟨by simpa [Nat.add_assoc] using hfirst, ?_⟩⟩
    rw [hlive', hvalue, h.before]
  · cases hok

/-- A begin of a creation that returned. -/
theorem begin_create_returned (h : Captured inventory b) (ht : b.target = none)
    (hu : After s n u) (hlive : u.live = inventory)
    {created : Option CreatedPagefileToken}
    (hrun : nativePagefileBegin naming b u = (.ok created, u')) :
    created = some (createdSetting naming inventory b).token ∧ After s (n + 5) u' ∧
      u'.live = afterCreation naming inventory b ∧ u'.backup = u.backup := by
  obtain ⟨hpassed, hbegin⟩ := nativeBegin_returned hrun
  obtain ⟨hbackup, hcases⟩ := begin_create_cases h ht (hu.pass hpassed) hlive hbegin
  rcases hcases with ⟨⟨_, herror⟩, -⟩ | ⟨⟨_, herror⟩, -⟩ | ⟨hok, hafter, hvalue⟩
  · cases herror
  · cases herror
  · exact ⟨Except.ok.inj hok, by simpa [Nat.add_assoc] using hafter, hvalue, hbackup⟩

end

/-! ## The journal -/

/-- The journal holds one P1:8 transaction, and it waits for a token. -/
def Awaits (journal : BackupFile) : Prop :=
  ∃ t, Checks.sole (journal.entries.filterMap pagefileRecord) = some t ∧
    awaitsToken t = true

section

variable {journal journal' : BackupFile} {token : CreatedPagefileToken}

/-- A token is recorded where the journal waits for one. -/
theorem journalWithToken_iff :
    (∃ j, journalWithToken journal token = .ok j) ↔ Awaits journal := by
  constructor
  · rintro ⟨j, h⟩
    obtain ⟨t, hsole, h⟩ := Checks.bind_eq_ok.mp h
    obtain ⟨hawaits, -⟩ := Checks.check_bind_eq_ok.mp h
    exact ⟨t, Checks.okOr_eq_ok.mp hsole, by simpa using Checks.reject_eq_ok.mp hawaits⟩
  · rintro ⟨t, hsole, hawaits⟩
    refine ⟨{ journal with entries := journal.entries.map (recordToken token) }, ?_⟩
    rw [journalWithToken, hsole, Checks.okOr_some, Checks.bind_ok, hawaits]
    rfl

theorem entries_of_recorded (h : journalWithToken journal token = .ok journal') :
    journal'.entries = journal.entries.map (recordToken token) := by
  obtain ⟨t, -, h⟩ := Checks.bind_eq_ok.mp h
  obtain ⟨-, h⟩ := Checks.check_bind_eq_ok.mp h
  obtain rfl := Except.ok.inj h
  rfl

theorem pagefileRecord_recordToken (e : BackupEntry) :
    pagefileRecord (recordToken token e) =
      (pagefileRecord e).map fun t => withToken t token := by
  cases e <;> try rfl
  rename_i step now t
  by_cases hstep : step = "P1:8"
  · simp [recordToken, pagefileRecord, hstep]
  · simp [recordToken, pagefileRecord, hstep]

/-- A journal with a recorded token waits for none. -/
theorem not_awaits_of_recorded (h : journalWithToken journal token = .ok journal') :
    ¬ Awaits journal' := by
  rintro ⟨t, hsole, hawaits⟩
  have hrecords : journal'.entries.filterMap pagefileRecord =
      (journal.entries.filterMap pagefileRecord).map fun t => withToken t token := by
    rw [entries_of_recorded h, List.filterMap_map, List.map_filterMap]
    exact List.filterMap_congr fun e _ => pagefileRecord_recordToken e
  have hmem : t ∈ journal'.entries.filterMap pagefileRecord := by
    rw [Checks.sole_eq_some.mp hsole]
    exact List.mem_cons_self
  rw [hrecords] at hmem
  obtain ⟨t', -, rfl⟩ := List.mem_map.mp hmem
  simp [awaitsToken, withToken] at hawaits

theorem dedupeIdentity_recordToken (e : BackupEntry) :
    dedupeIdentity (recordToken token e) = dedupeIdentity e := by
  cases e <;> try rfl
  rename_i step now t
  by_cases hstep : step = "P1:8"
  · simp only [recordToken, hstep, if_true]
    rfl
  · simp only [recordToken, hstep, if_false]

/-- The journal has an entry of the identity. -/
def Holds (journal : BackupFile) (e : BackupEntry) : Prop :=
  dedupeIdentity e ≠ none ∧
    journal.entries.any (fun existing => dedupeIdentity existing = dedupeIdentity e) = true

theorem push_of_holds {e : BackupEntry} (h : Holds journal e) :
    journal.pushFirstValue e = journal := by
  rw [BackupFile.pushFirstValue]
  simp [h.1, h.2]

theorem holds_push {e e' : BackupEntry} (hsome : dedupeIdentity e ≠ none)
    (hsame : dedupeIdentity e' = dedupeIdentity e) :
    Holds (journal.pushFirstValue e) e' := by
  refine ⟨by rwa [hsame], ?_⟩
  rw [hsame, BackupFile.pushFirstValue]
  by_cases hany : journal.entries.any
      (fun existing => dedupeIdentity existing = dedupeIdentity e) = true
  · rw [if_neg (by simp [hsome, hany])]
    exact hany
  · rw [if_pos (by simp [hany])]
    simp

theorem holds_recorded {e : BackupEntry} (h : Holds journal e)
    (hrecorded : journalWithToken journal token = .ok journal') : Holds journal' e := by
  refine ⟨h.1, ?_⟩
  rw [entries_of_recorded hrecorded, List.any_map]
  have hsame : (fun existing => decide (dedupeIdentity existing = dedupeIdentity e)) ∘
      recordToken token = fun existing => decide (dedupeIdentity existing =
        dedupeIdentity e) := by
    funext existing
    simp [dedupeIdentity_recordToken]
  rw [hsame]
  exact h.2

/-- Two entries of P1:8 have one identity. -/
theorem dedupeIdentity_pagefile {now now' : String} {b b' : PagefileBinding}
    (hstep : b.step = b'.step) :
    dedupeIdentity (pagefileBackupEntry now b) =
      dedupeIdentity (pagefileBackupEntry now' b') := by
  rw [pagefileBackupEntry, pagefileBackupEntry, hstep]
  rfl

end

/-! ## Persisting the token and verifying, with faults -/

section

variable {naming : Naming} {inventory : PagefileInventory} {b : PagefileBinding}
  {s u u' : PagefileHost} {n : Nat}

/-- Writing the journal: it stops before the write, or at the check after it, or
returns. -/
theorem writeJournal_cases {journal : BackupFile} (hu : After s n u)
    {r : Except String Unit} (hrun : writeJournal journal u = (r, u')) :
    u'.live = u.live ∧
      (((∃ message, r = .error message) ∧ FailsFirst s n ∧ u'.backup = u.backup) ∨
        ((∃ message, r = .error message) ∧ FailsFirst s (n + 1) ∧ u'.backup = journal) ∨
        (r = .ok () ∧ After s (n + 2) u' ∧ u'.backup = journal)) := by
  cases hwrite : u.failing with
  | true =>
      rw [writeJournal, bind_apply_error (access_failing hwrite)] at hrun
      obtain ⟨rfl, rfl⟩ := Prod.mk.inj hrun
      exact ⟨rfl, .inl ⟨⟨_, rfl⟩, hu.first hwrite, rfl⟩⟩
  | false =>
  have hu₁ : After s (n + 1) { u.pop with backup := journal } :=
    ⟨(hu.pass hwrite).faults, (hu.pass hwrite).passed⟩
  rw [writeJournal, bind_apply_ok (access_passing hwrite)] at hrun
  have hrun' : access { u.pop with backup := journal } = (r, u') := hrun
  cases hcheck : PagefileHost.failing { u.pop with backup := journal } with
  | true =>
      rw [access_failing hcheck] at hrun'
      obtain ⟨rfl, rfl⟩ := Prod.mk.inj hrun'
      exact ⟨rfl, .inr (.inl ⟨⟨_, rfl⟩, hu₁.first hcheck, rfl⟩)⟩
  | false =>
      rw [access_passing hcheck] at hrun'
      obtain ⟨rfl, rfl⟩ := Prod.mk.inj hrun'
      exact ⟨rfl, .inr (.inr ⟨rfl, hu₁.pass hcheck, rfl⟩)⟩

/-- **Persisting the token.** -/
theorem persistToken_cases {token : CreatedPagefileToken} (hu : After s n u)
    (hcomplete : (token.objectPath.isEmpty || token.relativePath.isEmpty) = false)
    {r : Except String Unit} (hrun : persistCreatedPagefileToken token u = (r, u')) :
    u'.live = u.live ∧
      (((∃ message, r = .error message) ∧ u'.backup = u.backup ∧
          ((∃ k, k < n + 2 ∧ n ≤ k ∧ FailsFirst s k) ∨ ¬ Awaits u.backup)) ∨
        ((∃ message, r = .error message) ∧ FailsFirst s (n + 2) ∧
          journalWithToken u.backup token = .ok u'.backup) ∨
        (r = .ok () ∧ After s (n + 3) u' ∧
          journalWithToken u.backup token = .ok u'.backup)) := by
  rw [persistCreatedPagefileToken, hcomplete] at hrun
  have hrun' : (readJournal >>= fun backup =>
      Effect.ofExcept (journalWithToken backup token) >>= fun backup =>
        writeJournal backup) u = (r, u') := hrun
  cases hread : u.failing with
  | true =>
      have hfailed : readJournal u = (.error "native access failed", u.pop) :=
        bind_apply_error (access_failing hread)
      rw [bind_apply_error hfailed] at hrun'
      obtain ⟨rfl, rfl⟩ := Prod.mk.inj hrun'
      exact ⟨rfl, .inl ⟨⟨_, rfl⟩, rfl, .inl ⟨n, by omega, by omega, hu.first hread⟩⟩⟩
  | false =>
  have hpassed : readJournal u = (.ok u.backup, u.pop) := by
    rw [readJournal, bind_apply_ok (access_passing hread)]
    rfl
  rw [bind_apply_ok hpassed] at hrun'
  cases hjournal : journalWithToken u.backup token with
  | error message =>
      rw [hjournal] at hrun'
      obtain ⟨rfl, rfl⟩ := Prod.mk.inj hrun'
      refine ⟨rfl, .inl ⟨⟨_, rfl⟩, rfl, .inr fun hawaits => ?_⟩⟩
      obtain ⟨j, hj⟩ := journalWithToken_iff.mpr hawaits
      cases hjournal.symm.trans hj
  | ok journal =>
      rw [hjournal] at hrun'
      obtain ⟨hlive, hcases⟩ := writeJournal_cases (hu.pass hread) hrun'
      refine ⟨hlive, ?_⟩
      rcases hcases with ⟨herror, hfirst, hbackup⟩ | ⟨herror, hfirst, hbackup⟩ |
        ⟨hok, hafter, hbackup⟩
      · exact .inl ⟨herror, hbackup, .inl ⟨n + 1, by omega, by omega, hfirst⟩⟩
      · exact .inr (.inl ⟨herror, hfirst, by rw [hbackup]⟩)
      · exact .inr (.inr ⟨hok, hafter, by rw [hbackup]⟩)

/-- The checks of a verification. -/
def mutationVerdict (b : PagefileBinding) (created : Option CreatedPagefileToken)
    (after : PagefileInventory) : Except String Unit := do
  Checks.reject after.automaticManaged
    "AutomaticManagedPagefile changed during pagefile transaction"
  checkForeignPreservation b after
  let target ← Checks.okOr (after.settings.find? (·.isAt b.targetPath))
    "target pagefile setting is absent after mutation"
  Checks.reject (target.initialSize ≠ b.initialSize || target.maximumSize ≠ b.maximumSize)
    "target pagefile sizes did not read back exactly"
  Checks.reject (createdElsewhere target created)
    "created pagefile identity did not read back exactly"

/-- A verification that got its inventory. -/
theorem verify_passing (created : Option CreatedPagefileToken) (h : u.failing = false) :
    verifyPagefileMutation (wmiStore naming) b created u =
      (mutationVerdict b created u.live, u.pop) := by
  have hverdict : Effect.ofExcept (mutationVerdict b created u.live) u.pop =
      (mutationVerdict b created u.live, u.pop) := rfl
  rw [verifyPagefileMutation, bind_apply_ok (inventory_passing h), ← hverdict,
    mutationVerdict]
  simp only [ofExcept_bind]

/-- **Verifying.**  The verification changes nothing; it fails by an access or
by its checks. -/
theorem nativeVerify_cases {created : Option CreatedPagefileToken} (hu : After s n u)
    {r : Except String Unit} (hrun : nativePagefileVerify naming b created u = (r, u')) :
    u'.live = u.live ∧ u'.backup = u.backup ∧
      ((∃ k, n ≤ k ∧ FailsFirst s k) ∨ r = mutationVerdict b created u.live) := by
  cases hconnect : u.failing with
  | true =>
      rw [nativePagefileVerify, bind_apply_error (access_failing hconnect)] at hrun
      obtain ⟨rfl, rfl⟩ := Prod.mk.inj hrun
      exact ⟨rfl, rfl, .inl ⟨n, by omega, hu.first hconnect⟩⟩
  | false =>
  rw [nativePagefileVerify, bind_apply_ok (access_passing hconnect)] at hrun
  have hu₁ := hu.pass hconnect
  cases hread : u.pop.failing with
  | true =>
      rw [verifyPagefileMutation, bind_apply_error (inventory_failing hread)] at hrun
      obtain ⟨rfl, rfl⟩ := Prod.mk.inj hrun
      exact ⟨rfl, rfl, .inl ⟨n + 1, by omega, hu₁.first hread⟩⟩
  | false =>
      rw [verify_passing created hread] at hrun
      obtain ⟨rfl, rfl⟩ := Prod.mk.inj hrun
      exact ⟨rfl, rfl, .inr rfl⟩

end

/-! ## A compensated creation -/

section

variable {naming : Naming} {inventory : PagefileInventory} {b : PagefileBinding}
  {s u u' : PagefileHost} {n : Nat} {c message : String}

/-- The identity that the store gives to the new setting is well formed, and its
own. -/
def FreshName (naming : Naming) (inventory : PagefileInventory) (b : PagefileBinding) :
    Prop :=
  Separate (inventory.settings ++ [createdSetting naming inventory b])

theorem FreshName.valid (hfresh : FreshName naming inventory b) (h : Captured inventory b) :
    validateInventory (afterCreation naming inventory b) = .ok () := by
  obtain ⟨hidentity, -⟩ := validateInventory_eq_ok.mp h.valid
  exact validateInventory_eq_ok.mpr ⟨hidentity, hfresh⟩

theorem createdSetting_isAt :
    (createdSetting naming inventory b).isAt b.targetPath = true := by
  simp [PagefileSetting.isAt, createdSetting, newSetting, Text.eqIgnoreAsciiCase]

/-- The token of a fresh setting is complete. -/
theorem FreshName.complete (hfresh : FreshName naming inventory b) :
    ((createdSetting naming inventory b).token.objectPath.isEmpty ||
      (createdSetting naming inventory b).token.relativePath.isEmpty) = false := by
  have hvalid := Separate.valid hfresh _ (List.mem_append_right _ List.mem_cons_self)
  obtain ⟨hidentity, -⟩ := Checks.check_bind_eq_ok.mp hvalid
  rw [Checks.reject_eq_ok] at hidentity
  simp only [Bool.or_eq_false_iff] at hidentity
  rw [Bool.or_eq_false_iff]
  exact ⟨hidentity.1.1.2, hidentity.1.2⟩

/-- A creation passes its verification. -/
theorem FreshName.verdict (hfresh : FreshName naming inventory b) (h : Captured inventory b)
    (ht : b.target = none) :
    mutationVerdict b (some (createdSetting naming inventory b).token)
      (afterCreation naming inventory b) = .ok () := by
  have hforeign : checkForeignPreservation b (afterCreation naming inventory b) = .ok () := by
    rw [checkForeignPreservation, hfresh.valid h, Checks.bind_ok, Checks.reject_eq_ok,
      h.before]
    simp only [List.any_eq_false, Bool.and_eq_true, decide_eq_true_eq, not_and, not_not]
    intro x hx _
    exact Separate.find_objectPath hfresh (List.mem_append_left _ hx)
  have hnone : inventory.settings.find? (·.isAt b.targetPath) = none := h.target ▸ ht
  have hfind : (afterCreation naming inventory b).settings.find? (·.isAt b.targetPath) =
      some (createdSetting naming inventory b) := by
    show (inventory.settings ++ [_]).find? _ = _
    rw [List.find?_append, hnone]
    simp [createdSetting_isAt]
  rw [mutationVerdict, hforeign, hfind]
  simp [afterCreation, PagefileInventory.extended, PagefileInventory.managed, createdSetting,
    newSetting, createdElsewhere, PagefileSetting.token]

/-- **How a compensated attempt at a creation ends.** -/
inductive Ending (naming : Naming) (inventory : PagefileInventory) (b : PagefileBinding)
    (s : PagefileHost) (journal : BackupFile) (s' : PagefileHost) : Prop where
  /-- It failed before the token was written, and was taken back. -/
  | undone {k : Nat} (first : FailsFirst s k) (early : k < 12) (other : k ≠ 9)
      (live : s'.live = inventory) (backup : s'.backup = journal)
  /-- The journal took no token. -/
  | refused (waits : ¬ Awaits journal) (live : s'.live = inventory)
      (backup : s'.backup = journal)
  /-- The creation was not read back, and the setting stayed. -/
  | unread (first : FailsFirst s 9)
      (live : s'.live =
        (afterCreation naming inventory b).managed inventory.automaticManaged)
  /-- The token was written, and it stayed in the journal. -/
  | recorded {k : Nat} (first : FailsFirst s k) (late : 12 ≤ k) (live : s'.live = inventory)
      (token : journalWithToken journal (createdSetting naming inventory b).token =
        .ok s'.backup)

/-- The created setting, taken back. -/
theorem undone_created (h : Captured inventory b) (ht : b.target = none)
    {live' : PagefileInventory} (hlive : u.live = afterCreation naming inventory b)
    (hundone : Undone b (some (createdSetting naming inventory b).token) u.live live') :
    live'.managed b.before.automaticManaged = inventory := by
  obtain ⟨hresolves, rfl⟩ := hundone
  rw [hlive] at hresolves ⊢
  rw [deleted_created hresolves h ht, managed_managed h]

/-- The rest of an attempt, after the entry was persisted. -/
def finishPagefile (naming : Naming) (b : PagefileBinding) : PagefileM Unit := do
  let created ← applyPagefileAction naming b
  verifyPagefileAction naming b created

/-- **A compensated creation**, from the host after the capture and the journal
entry. -/
theorem create_ending (h : Captured inventory b) (ht : b.target = none)
    (hfresh : FreshName naming inventory b) (hu : After s 5 u) (hlive : u.live = inventory)
    (hrun : finishPagefile naming b u = (.error (.compensated c message), u')) :
    Ending naming inventory b s u.backup u' := by
  rcases bind_eq_error hrun with happly | ⟨created, u₁, happly, hverify⟩
  · -- the mutation, or the token
    rcases bind_eq_error happly with hbegin | ⟨created, u₁, hbegin, hpersist⟩
    · obtain ⟨hbackup, ⟨⟨k, hk, hfirst⟩, hback⟩ | ⟨hfirst, hback⟩⟩ :=
        begin_create_compensated h ht hu hlive hbegin
      · exact .undone hfirst (by omega) (by omega) hback hbackup
      · exact .unread hfirst hback
    obtain ⟨rfl, hafter, hcreated, hbackup⟩ := begin_create_returned h ht hu hlive hbegin
    rcases bind_eq_error hpersist with hattempt | ⟨r, u₂, hattempt, hrest⟩
    · rw [attempt] at hattempt
      cases (Prod.mk.inj hattempt).1
    obtain ⟨hlive₂, hcases⟩ :=
      persistToken_cases hafter hfresh.complete (attempt_eq_ok.mp hattempt)
    cases r with
    | ok _ => cases (Prod.mk.inj hrest).1
    | error e =>
        obtain ⟨hbackup', live', hundone, hlive'⟩ :=
          nativeCompensate_returned (rollback_of_compensated hrest)
        have hback : u'.live = inventory := by
          rw [hlive']
          exact undone_created h ht (hlive₂.trans hcreated) hundone
        rcases hcases with ⟨-, hsame, ⟨k, hk, hk', hfirst⟩ | hwaits⟩ | ⟨-, hfirst, htoken⟩ |
          ⟨hok, -⟩
        · exact .undone hfirst (by omega) (by omega) hback
            (hbackup'.trans (hsame.trans hbackup))
        · rw [hbackup] at hwaits
          exact .refused hwaits hback (hbackup'.trans (hsame.trans hbackup))
        · rw [hbackup] at htoken
          exact .recorded hfirst (by omega) hback (by rw [hbackup']; exact htoken)
        · cases hok
  · -- the verification
    obtain ⟨created', u₂, hbegin, hpersist⟩ := bind_eq_ok happly
    obtain ⟨rfl, hafter, hcreated, hbackup⟩ := begin_create_returned h ht hu hlive hbegin
    obtain ⟨r, u₃, hattempt, hrest⟩ := bind_eq_ok hpersist
    cases r with
    | error e => exact absurd hrest not_returned_of_compensation
    | ok _ =>
    obtain ⟨hvalue, rfl⟩ := Prod.mk.inj hrest
    obtain rfl := Except.ok.inj hvalue
    obtain ⟨hlive₃, ⟨⟨_, herror⟩, -⟩ | ⟨⟨_, herror⟩, -⟩ | ⟨-, hafter₃, htoken⟩⟩ :=
      persistToken_cases hafter hfresh.complete (attempt_eq_ok.mp hattempt)
    · cases herror
    · cases herror
    rcases bind_eq_error hverify with hattempt' | ⟨r, u₄, hattempt', hrest'⟩
    · rw [attempt] at hattempt'
      cases (Prod.mk.inj hattempt').1
    obtain ⟨hlive₄, hbackup₄, hcases⟩ :=
      nativeVerify_cases hafter₃ (attempt_eq_ok.mp hattempt')
    cases r with
    | ok _ => cases (Prod.mk.inj hrest').1
    | error e =>
        obtain ⟨hbackup', live', hundone, hlive'⟩ :=
          nativeCompensate_returned (rollback_of_compensated hrest')
        have hcreated₃ := hlive₃.trans hcreated
        rcases hcases with ⟨k, hk, hfirst⟩ | hverdict
        · refine .recorded hfirst (by omega) ?_ ?_
          · rw [hlive']
            exact undone_created h ht (hlive₄.trans hcreated₃) hundone
          · rw [hbackup', hbackup₄, ← hbackup]
            exact htoken
        · rw [hcreated₃, hfresh.verdict h ht] at hverdict
          cases hverdict

end

/-! ## A compensated update -/

section

variable {naming : Naming} {inventory : PagefileInventory} {b : PagefileBinding}
  {s u u' : PagefileHost} {n : Nat} {c message : String} {t : PagefileSetting}

/-- A configuration on the way of an update. -/
def Updating (inventory : PagefileInventory) (b : PagefileBinding) (t : PagefileSetting)
    (live : PagefileInventory) : Prop :=
  (∃ value, live = inventory.managed value) ∨
    live = (inventory.managed false).resized t b.initialSize b.maximumSize

/-- Beginning with an update: an update has no read-back. -/
theorem begin_update_cases (h : Captured inventory b) (ht : b.target = some t)
    (hlive : u.live = inventory) {r : Except String (Option CreatedPagefileToken)}
    (hrun : beginPagefileMutation (wmiStore naming) b u = (r, u')) :
    Updating inventory b t u'.live ∧ u'.backup = u.backup ∧
      ∀ created, r = .ok created → created = none := by
  have hid : u.live.isComputer b.before.computerObjectPath b.before.computerRelativePath
      (some b.before.automaticManaged) = true := by
    simp [PagefileInventory.isComputer, hlive, h.before]
  cases hset : u.failing with
  | true =>
      rw [beginPagefileMutation, bind_apply_error (setAutomatic_failing hset)] at hrun
      obtain ⟨rfl, rfl⟩ := Prod.mk.inj hrun
      exact ⟨.inl ⟨inventory.automaticManaged, hlive⟩, rfl, fun _ hr => by cases hr⟩
  | false =>
  cases hread : u.pop.failing with
  | true =>
      have hread' : (u.pop.become (u.live.managed false)).failing = true := hread
      rw [beginPagefileMutation, bind_apply_ok (setAutomatic_passing hset hid),
        bind_apply_error (inventory_failing hread')] at hrun
      obtain ⟨rfl, rfl⟩ := Prod.mk.inj hrun
      exact ⟨.inl ⟨false, by rw [PagefileHost.live_pop, PagefileHost.live_become, hlive]⟩,
        rfl, fun _ hr => by cases hr⟩
  | false =>
  have hswitched : (switchedOff u).live = inventory.managed false := by
    rw [live_switchedOff, hlive]
  rw [begin_switch h hlive hset hread, writeTarget_some ht] at hrun
  cases hwrite : (switchedOff u).failing with
  | true =>
      have hfailed : (wmiStore naming).update t b.initialSize b.maximumSize (switchedOff u) =
          (.error "native access failed", (switchedOff u).pop) :=
        bind_apply_error (access_failing hwrite)
      rw [bind_apply_error hfailed] at hrun
      obtain ⟨rfl, rfl⟩ := Prod.mk.inj hrun
      exact ⟨.inl ⟨false, hswitched⟩, rfl, fun _ hr => by cases hr⟩
  | false =>
      have hresolves : (switchedOff u).live.resolves t = true := by
        rw [hswitched]
        exact h.resolves false ht
      rw [bind_apply_ok (update_passing hwrite hresolves), hswitched] at hrun
      obtain ⟨rfl, rfl⟩ := Prod.mk.inj hrun
      exact ⟨.inr rfl, rfl, fun _ hr => (Except.ok.inj hr).symm⟩

/-- Whatever the update had done: a compensation that returned took it back. -/
theorem undone_update (h : Captured inventory b) (ht : b.target = some t)
    {live live' : PagefileInventory} (hlive : Updating inventory b t live)
    (hundone : Undone b none live live') :
    live'.managed b.before.automaticManaged = inventory := by
  have hmem := (h.mem_target ht).1
  obtain ⟨hresolves, rfl⟩ : live.resolves t = true ∧
      live' = live.resized t t.initialSize t.maximumSize := by
    simpa [Undone, ht] using hundone
  have hseparate : ∀ value, Separate (inventory.managed value).settings := fun _ => h.separate
  rcases hlive with ⟨value, rfl⟩ | rfl
  · rw [resized_same (hseparate value) hmem, managed_managed h]
  · have hsizes := (resolves_resized_iff (hseparate false) hmem).mp hresolves
    rw [← hsizes.1, ← hsizes.2, resized_same (hseparate false) hmem,
      resized_same (hseparate false) hmem, managed_managed h]

/-- **A compensated update** leaves the captured configuration. -/
theorem update_ending (h : Captured inventory b) (ht : b.target = some t)
    (hlive : u.live = inventory)
    (hrun : finishPagefile naming b u = (.error (.compensated c message), u')) :
    u'.live = inventory := by
  rcases bind_eq_error hrun with happly | ⟨created, u₁, happly, hverify⟩
  · rcases bind_eq_error happly with hbegin | ⟨created, u₁, hbegin, hpersist⟩
    · obtain ⟨-, r, u₁, hbegin, hrollback⟩ := nativeBegin_compensated hbegin
      obtain ⟨hupdating, -⟩ := begin_update_cases (u := u.pop) h ht hlive hbegin
      obtain ⟨-, live', hundone, hlive'⟩ := compensate_returned hrollback
      rw [hlive', undone_update h ht hupdating hundone]
    · obtain ⟨-, hbegin⟩ := nativeBegin_returned hbegin
      obtain ⟨-, -, hnone⟩ := begin_update_cases (u := u.pop) h ht hlive hbegin
      obtain rfl := hnone _ rfl
      cases (Prod.mk.inj hpersist).1
  · obtain ⟨created', u₂, hbegin, hpersist⟩ := bind_eq_ok happly
    obtain ⟨-, hbegin⟩ := nativeBegin_returned hbegin
    obtain ⟨hupdating, -, hnone⟩ := begin_update_cases (u := u.pop) h ht hlive hbegin
    obtain rfl := hnone _ rfl
    obtain ⟨hvalue, rfl⟩ := Prod.mk.inj hpersist
    obtain rfl := Except.ok.inj hvalue
    rcases bind_eq_error hverify with hattempt | ⟨r, u₃, hattempt, hrest⟩
    · rw [attempt] at hattempt
      cases (Prod.mk.inj hattempt).1
    obtain ⟨hlive₃, -⟩ := nativeVerify_cases (After.start u₂) (attempt_eq_ok.mp hattempt)
    cases r with
    | ok _ => cases (Prod.mk.inj hrest).1
    | error e =>
        obtain ⟨-, live', hundone, hlive'⟩ :=
          nativeCompensate_returned (rollback_of_compensated hrest)
        rw [hlive₃] at hundone
        rw [hlive', undone_update h ht hupdating hundone]

end

/-! ## The capture and the journal entry -/

section

variable {naming : Naming} {state : State} {now : String} {s u u' : PagefileHost} {n : Nat}
  {c message : String}

/-- The state asks for a page file on this host. -/
def Applicable (state : State) (inventory : PagefileInventory) : Prop :=
  (state.pagefileMb = 0 && 32 * 1024 ≤ inventory.physicalRamMb) = false

theorem capture_returned {b : PagefileBinding} (hu : After s n u)
    (hrun : capturePagefileBackup state u = (.ok b, u')) :
    After s (n + 2) u' ∧ u'.live = u.live ∧ u'.backup = u.backup ∧
      Applicable state u.live ∧ capturePagefileBinding "P1:8" state u.live = .ok b := by
  obtain ⟨inventory, u₁, hread, hrun⟩ := bind_eq_ok hrun
  obtain ⟨_, u₂, haccess, hread⟩ := bind_eq_ok (relabel_eq_ok.mp hread)
  obtain ⟨hpassed, rfl⟩ := access_returned haccess
  obtain ⟨_, u₃, haccess, hread⟩ := bind_eq_ok hread
  obtain ⟨hpassed', rfl⟩ := access_returned haccess
  obtain ⟨hvalue, rfl⟩ := Prod.mk.inj hread
  obtain rfl := Except.ok.inj hvalue
  obtain ⟨_, u₃, hcheck, hrun⟩ := bind_eq_ok hrun
  obtain ⟨happlicable, rfl⟩ := Prod.mk.inj (relabel_eq_ok.mp hcheck)
  obtain ⟨hbinding, rfl⟩ := Prod.mk.inj (relabel_eq_ok.mp hrun)
  exact ⟨(hu.pass hpassed).pass hpassed', rfl, rfl, Checks.reject_eq_ok.mp happlicable,
    hbinding⟩

theorem persist_returned {b : PagefileBinding} {x : Unit} (hu : After s n u)
    (hrun : persistPagefileBackup now b u = (.ok x, u')) :
    After s (n + 3) u' ∧ u'.live = u.live ∧
      u'.backup = u.backup.pushFirstValue (pagefileBackupEntry now b) := by
  obtain ⟨backup, u₁, hread, hrun⟩ := bind_eq_ok hrun
  obtain ⟨_, u₂, haccess, hread⟩ := bind_eq_ok (relabel_eq_ok.mp hread)
  obtain ⟨hpassed, rfl⟩ := access_returned haccess
  obtain ⟨hvalue, rfl⟩ := Prod.mk.inj hread
  obtain rfl := Except.ok.inj hvalue
  obtain ⟨hlive, ⟨⟨_, herror⟩, -⟩ | ⟨⟨_, herror⟩, -⟩ | ⟨-, hafter, hbackup⟩⟩ :=
    writeJournal_cases (hu.pass hpassed) (relabel_eq_ok.mp hrun)
  · cases herror
  · cases herror
  · exact ⟨hafter, hlive, hbackup⟩

/-- The journal that an attempt leaves before it begins. -/
def journaled (now : String) (b : PagefileBinding) (s : PagefileHost) : BackupFile :=
  s.backup.pushFirstValue (pagefileBackupEntry now b)

/-- A compensated attempt got past the capture and the journal. -/
theorem attempt_compensated
    (hrun : attemptPagefile naming state now s = (.error (.compensated c message), u')) :
    ∃ b u, Applicable state s.live ∧ capturePagefileBinding "P1:8" state s.live = .ok b ∧
      After s 5 u ∧ u.live = s.live ∧ u.backup = journaled now b s ∧
      finishPagefile naming b u = (.error (.compensated c message), u') := by
  rcases bind_eq_error hrun with hcapture | ⟨b, u₁, hcapture, hrun⟩
  · rcases bind_eq_error hcapture with h | ⟨inventory, u₁, -, hcapture⟩
    · exact absurd h not_compensated_of_plain
    rcases bind_eq_error hcapture with h | ⟨_, u₂, -, h⟩
    · exact absurd h not_compensated_of_plain
    · exact absurd h not_compensated_of_plain
  obtain ⟨hafter, hlive, hbackup, happlicable, hbinding⟩ :=
    capture_returned (After.start s) hcapture
  rcases bind_eq_error hrun with hpersist | ⟨_, u₂, hpersist, hrun⟩
  · rcases bind_eq_error hpersist with h | ⟨backup, u₂, -, h⟩
    · exact absurd h not_compensated_of_plain
    · exact absurd h not_compensated_of_plain
  obtain ⟨hafter', hlive', hbackup'⟩ := persist_returned hafter hpersist
  refine ⟨b, u₂, happlicable, hbinding, hafter', hlive'.trans hlive, ?_, hrun⟩
  rw [hbackup', hbackup, journaled]

/-- The capture and the journal entry of a host without faults. -/
theorem attempt_quiet {b : PagefileBinding} (hfaults : s.faults = [])
    (happlicable : Applicable state s.live)
    (hbinding : capturePagefileBinding "P1:8" state s.live = .ok b) :
    attemptPagefile naming state now s =
      finishPagefile naming b { s with backup := journaled now b s } := by
  have hpassing := PagefileHost.failing_of_noFaults hfaults
  have haccess : access s = (.ok (), s) := by
    rw [access_passing hpassing, PagefileHost.pop_of_noFaults hfaults]
  have hinventory : nativePagefileInventory s = (.ok s.live, s) := by
    rw [nativePagefileInventory, bind_apply_ok haccess, wmiInventory, bind_apply_ok haccess]
    rfl
  have hcapture : capturePagefileBackup state s = (.ok b, s) := by
    have happlicable' : (decide (state.pagefileMb = 0) &&
        decide (32 * 1024 ≤ s.live.physicalRamMb)) = false := happlicable
    rw [capturePagefileBackup, bind_apply_ok (relabel_eq_ok.mpr hinventory), happlicable',
      hbinding]
    rfl
  have hread : readJournal s = (.ok s.backup, s) := by
    rw [readJournal, bind_apply_ok haccess]
    rfl
  have hwritten : access { s with backup := journaled now b s } =
      (.ok (), { s with backup := journaled now b s }) := by
    have hfaults' : PagefileHost.faults { s with backup := journaled now b s } = [] := hfaults
    rw [access_passing (PagefileHost.failing_of_noFaults hfaults'),
      PagefileHost.pop_of_noFaults hfaults']
  have hwrite : writeJournal (journaled now b s) s =
      (.ok (), { s with backup := journaled now b s }) := by
    rw [writeJournal, bind_apply_ok haccess]
    exact hwritten
  have hpersist : persistPagefileBackup now b s =
      (.ok (), { s with backup := journaled now b s }) := by
    rw [persistPagefileBackup, bind_apply_ok (relabel_eq_ok.mpr hread)]
    exact relabel_eq_ok.mpr hwrite
  rw [attemptPagefile, bind_apply_ok hcapture, bind_apply_ok hpersist]
  rfl

end

/-! ## The next attempt -/

section

variable {naming : Naming} {inventory : PagefileInventory} {b : PagefileBinding}
  {state : State} {now : String} {s u : PagefileHost} {n k : Nat} {t : PagefileSetting}

theorem not_fails_of_noFaults (hfaults : s.faults = []) : ¬ Fails s k := by
  simp [Fails, hfaults]

theorem finish_returned {u' : PagefileHost} {x : Unit}
    (hrun : finishPagefile naming b u = (.ok x, u')) :
    ∃ created u₁ u₂, nativePagefileBegin naming b u = (.ok created, u₁) ∧
      (∀ token, created = some token →
        persistCreatedPagefileToken token u₁ = (.ok (), u₂)) ∧
      (created = none → u₂ = u₁) ∧
      nativePagefileVerify naming b created u₂ = (.ok (), u') := by
  obtain ⟨created, u₂, happly, hverify⟩ := bind_eq_ok hrun
  obtain ⟨r, u₃, hattempt, hrest⟩ := bind_eq_ok hverify
  cases r with
  | error e => exact absurd hrest not_returned_of_compensation
  | ok _ =>
  obtain ⟨-, rfl⟩ := Prod.mk.inj hrest
  have hverified := attempt_eq_ok.mp hattempt
  obtain ⟨created', u₁, hbegin, hpersist⟩ := bind_eq_ok happly
  cases created' with
  | none =>
      obtain ⟨hvalue, rfl⟩ := Prod.mk.inj hpersist
      obtain rfl := Except.ok.inj hvalue
      exact ⟨none, u₁, u₁, hbegin, (fun _ h => by cases h), fun _ => rfl, hverified⟩
  | some token =>
      obtain ⟨r, u₄, hattempt', hrest'⟩ := bind_eq_ok hpersist
      cases r with
      | error e => exact absurd hrest' not_returned_of_compensation
      | ok _ =>
      obtain ⟨hvalue, rfl⟩ := Prod.mk.inj hrest'
      obtain rfl := Except.ok.inj hvalue
      refine ⟨some token, u₁, u₄, hbegin, fun token' htoken => ?_, (fun h => by cases h),
        hverified⟩
      obtain rfl := Option.some.inj htoken
      exact attempt_eq_ok.mp hattempt'

/-- A begin without faults. -/
theorem nativeBegin_quiet {u' : PagefileHost} {created : Option CreatedPagefileToken}
    (hfaults : u.faults = [])
    (hbegin : beginPagefileMutation (wmiStore naming) b u = (.ok created, u')) :
    nativePagefileBegin naming b u = (.ok created, u') := by
  have haccess : access u = (.ok (), u) := by
    rw [access_passing (PagefileHost.failing_of_noFaults hfaults),
      PagefileHost.pop_of_noFaults hfaults]
  rw [nativePagefileBegin, bind_apply_ok (relabel_eq_ok.mpr haccess),
    bind_apply_ok (attempt_eq_ok.mpr hbegin)]
  rfl

/-- A verification without faults, where its checks pass. -/
theorem nativeVerify_quiet {created : Option CreatedPagefileToken}
    (hquiet : ∀ k, ¬ Fails s k) (hu : After s n u)
    (hverdict : mutationVerdict b created u.live = .ok ()) :
    ∃ u', verifyPagefileAction naming b created u = (.ok (), u') := by
  rcases hrun : nativePagefileVerify naming b created u with ⟨r, u'⟩
  obtain ⟨-, -, ⟨k, -, hfirst⟩ | rfl⟩ := nativeVerify_cases hu hrun
  · exact absurd hfirst.1 (hquiet k)
  · rw [hverdict] at hrun
    refine ⟨u', ?_⟩
    rw [verifyPagefileAction, bind_apply_ok (attempt_eq_ok.mpr hrun)]
    rfl

/-- **A creation without faults** goes through if and only if the journal waits
for the token. -/
theorem finish_create_iff (h : Captured inventory b) (ht : b.target = none)
    (hfresh : FreshName naming inventory b) (hfaults : u.faults = [])
    (hlive : u.live = inventory) :
    (∃ u', finishPagefile naming b u = (.ok (), u')) ↔ Awaits u.backup := by
  constructor
  · rintro ⟨u', hrun⟩
    obtain ⟨created, u₁, u₂, hbegin, hpersist, -, -⟩ := finish_returned hrun
    obtain ⟨rfl, hafter, -, hbackup⟩ :=
      begin_create_returned h ht (After.start u) hlive hbegin
    obtain ⟨-, ⟨⟨_, herror⟩, -⟩ | ⟨⟨_, herror⟩, -⟩ | ⟨-, -, htoken⟩⟩ :=
      persistToken_cases hafter hfresh.complete (hpersist _ rfl)
    · cases herror
    · cases herror
    · rw [hbackup] at htoken
      exact journalWithToken_iff.mp ⟨_, htoken⟩
  · intro hawaits
    have hbegin : nativePagefileBegin naming b u =
        (.ok (some (createdSetting naming inventory b).token),
          (u.become (inventory.managed false)).become (afterCreation naming inventory b)) :=
      nativeBegin_quiet hfaults (begin_create h hlive hfaults ht)
    rcases hrun : persistCreatedPagefileToken (createdSetting naming inventory b).token
      ((u.become (inventory.managed false)).become (afterCreation naming inventory b))
      with ⟨r, u₂⟩
    have hquiet : ∀ k, ¬ Fails ((u.become (inventory.managed false)).become
        (afterCreation naming inventory b)) k := fun k => not_fails_of_noFaults hfaults
    obtain ⟨hlive₂, ⟨-, -, ⟨k, -, -, hfirst⟩ | hwaits⟩ | ⟨-, hfirst, -⟩ |
      ⟨rfl, hafter, -⟩⟩ := persistToken_cases (After.start _) hfresh.complete hrun
    · exact absurd hfirst.1 (hquiet k)
    · exact absurd hawaits hwaits
    · exact absurd hfirst.1 (hquiet _)
    have happly : applyPagefileAction naming b u =
        (.ok (some (createdSetting naming inventory b).token), u₂) := by
      rw [applyPagefileAction, bind_apply_ok hbegin]
      show (attempt (persistCreatedPagefileToken _) >>= _) _ = _
      rw [bind_apply_ok (attempt_eq_ok.mpr hrun)]
      rfl
    have hverdict : mutationVerdict b (some (createdSetting naming inventory b).token)
        u₂.live = .ok () := by
      rw [hlive₂]
      exact hfresh.verdict h ht
    obtain ⟨u', hverify⟩ : ∃ u', verifyPagefileAction naming b
        (some (createdSetting naming inventory b).token) u₂ = (.ok (), u') :=
      nativeVerify_quiet hquiet hafter hverdict
    exact ⟨u', by rw [finishPagefile, bind_apply_ok happly, hverify]⟩

/-- The setting after the sizes of the target were written. -/
private def withSizes (b : PagefileBinding) (t x : PagefileSetting) : PagefileSetting :=
  if x.objectPath = t.objectPath then
    { x with initialSize := b.initialSize, maximumSize := b.maximumSize }
  else x

private theorem withSizes_identity (t x : PagefileSetting) :
    (withSizes b t x).path = x.path ∧ (withSizes b t x).objectPath = x.objectPath ∧
      (withSizes b t x).relativePath = x.relativePath := by
  by_cases hx : x.objectPath = t.objectPath <;> simp [withSizes, hx]

/-- A search by an identity finds the setting with its sizes written. -/
private theorem find_withSizes {p : PagefileSetting → Bool}
    (hp : ∀ x, p (withSizes b t x) = p x) (settings : List PagefileSetting) :
    (settings.map (withSizes b t)).find? p = (settings.find? p).map (withSizes b t) := by
  have hcomp : p ∘ withSizes b t = p := funext hp
  rw [List.find?_map, hcomp]

private theorem separate_resized (h : Captured inventory b) (t : PagefileSetting) :
    Separate (inventory.settings.map (withSizes b t)) := by
  constructor
  · intro y hy
    obtain ⟨x, hx, rfl⟩ := List.mem_map.mp hy
    have hvalid := h.separate.valid x hx
    obtain ⟨hpath, hobject, hrelative⟩ := withSizes_identity (b := b) t x
    obtain ⟨hidentity, hsizes⟩ := Checks.check_bind_eq_ok.mp hvalid
    rw [validatePagefileIdentity, hpath, hobject, hrelative, hidentity, Checks.bind_ok,
      Checks.reject_eq_ok]
    by_cases hx' : x.objectPath = t.objectPath
    · simp [withSizes, hx', h.maximumSize]
    · simpa [withSizes, hx'] using Checks.reject_eq_ok.mp hsizes
  · rw [List.pairwise_map]
    refine h.separate.apart.imp fun {x y} hxy => ?_
    obtain ⟨hpath, hobject, hrelative⟩ := withSizes_identity (b := b) t x
    obtain ⟨hpath', hobject', hrelative'⟩ := withSizes_identity (b := b) t y
    rw [clash, PagefileSetting.isAt, hpath, hobject, hrelative, hpath', hobject', hrelative']
    exact hxy

/-- An update passes its verification. -/
theorem update_verdict (h : Captured inventory b) (ht : b.target = some t) :
    mutationVerdict b none
      ((inventory.managed false).resized t b.initialSize b.maximumSize) = .ok () := by
  have hsettings : ((inventory.managed false).resized t b.initialSize b.maximumSize).settings =
      inventory.settings.map (withSizes b t) := rfl
  obtain ⟨hmem, hat⟩ := h.mem_target ht
  obtain ⟨hidentity, -⟩ := validateInventory_eq_ok.mp h.valid
  have hvalid : validateInventory
      ((inventory.managed false).resized t b.initialSize b.maximumSize) = .ok () := by
    have hseparate : Separate (inventory.settings.map (withSizes b t)) := separate_resized h t
    exact validateInventory_eq_ok.mpr ⟨hidentity, hseparate⟩
  have hforeign : checkForeignPreservation b
      ((inventory.managed false).resized t b.initialSize b.maximumSize) = .ok () := by
    rw [checkForeignPreservation, hvalid, Checks.bind_ok, Checks.reject_eq_ok, h.before, ht,
      hsettings]
    simp only [List.any_eq_false, Bool.and_eq_true, decide_eq_true_eq, not_and, not_not]
    intro x hx hforeign
    have hne : x.objectPath ≠ t.objectPath := by
      intro heq
      simp [heq] at hforeign
    rw [find_withSizes (fun y => by rw [(withSizes_identity t y).2.1]),
      h.separate.find_objectPath hx, Option.map_some, withSizes, if_neg hne]
  have hfind : ((inventory.managed false).resized t b.initialSize
      b.maximumSize).settings.find? (·.isAt b.targetPath) = some (withSizes b t t) := by
    rw [hsettings, find_withSizes (fun y => by
      rw [PagefileSetting.isAt, (withSizes_identity t y).1]; rfl), ← h.target, ht]
    rfl
  rw [mutationVerdict, hforeign, hfind]
  simp [PagefileInventory.resized, PagefileInventory.managed, withSizes, createdElsewhere]

/-- **An update without faults** goes through. -/
theorem finish_update (h : Captured inventory b) (ht : b.target = some t)
    (hfaults : u.faults = []) (hlive : u.live = inventory) :
    ∃ u', finishPagefile naming b u = (.ok (), u') := by
  have hbegin : nativePagefileBegin naming b u = _ :=
    nativeBegin_quiet hfaults (begin_update h hlive hfaults ht)
  have happly : applyPagefileAction naming b u =
      (.ok none, (u.become (inventory.managed false)).become
        ((inventory.managed false).resized t b.initialSize b.maximumSize)) := by
    rw [applyPagefileAction, bind_apply_ok hbegin]
    rfl
  have hquiet : ∀ k, ¬ Fails ((u.become (inventory.managed false)).become
      ((inventory.managed false).resized t b.initialSize b.maximumSize)) k :=
    fun k => not_fails_of_noFaults hfaults
  obtain ⟨u', hverify⟩ : ∃ u', verifyPagefileAction naming b none _ = (.ok (), u') :=
    nativeVerify_quiet hquiet (After.start _) (update_verdict h ht)
  exact ⟨u', by rw [finishPagefile, bind_apply_ok happly, hverify]⟩

end

/-! ## Compensation and retry -/

section

variable {naming : Naming} {state : State} {now now' : String} {s s' : PagefileHost}
  {b : PagefileBinding} {c message : String}

/-- The host, as it is when the accesses work again. -/
def recovered (s : PagefileHost) : PagefileHost :=
  { s with faults := [] }

/-- **What a completed compensation owes.**  The configuration is the captured
one, and another attempt goes through. -/
def Retryable (naming : Naming) (state : State) (now : String) (s s' : PagefileHost) : Prop :=
  (s'.live.settings = s.live.settings ∧
      s'.live.automaticManaged = s.live.automaticManaged) ∧
    ∃ s'', attemptPagefile naming state now (recovered s') = (.ok (), s'')

/-- **The condition.**  The target exists; or the journal waits for the token,
and the first access to fail comes before the token is in the journal and is
not the read-back of the creation. -/
def KeepsRetry (state : State) (now : String) (s : PagefileHost) : Prop :=
  ∀ b, capturePagefileBinding "P1:8" state s.live = .ok b →
    b.target.isSome = true ∨
      (Awaits (journaled now b s) ∧ ∃ k, FailsFirst s k ∧ k < 12 ∧ k ≠ 9)

private theorem holds_journaled :
    Holds (journaled now b s) (pagefileBackupEntry now' b) :=
  holds_push (by simp [pagefileBackupEntry, dedupeIdentity, BackupEntry.step,
    BackupEntry.identityText]) (dedupeIdentity_pagefile rfl)

/-- The retry of a creation on the captured configuration. -/
private theorem retry_create_iff
    (hcapture : capturePagefileBinding "P1:8" state s.live = .ok b)
    (happlicable : Applicable state s.live) (ht : b.target = none)
    (hfresh : FreshName naming s.live b) (hlive : s'.live = s.live)
    (hholds : Holds s'.backup (pagefileBackupEntry now' b)) :
    Retryable naming state now' s s' ↔ Awaits s'.backup := by
  obtain ⟨-, h⟩ := captured_of_capture hcapture
  have hpush : journaled now' b (recovered s') = s'.backup := push_of_holds hholds
  have hretry : attemptPagefile naming state now' (recovered s') = _ :=
    attempt_quiet rfl (b := b) (by rwa [← hlive] at happlicable) (by rwa [← hlive] at hcapture)
  rw [hpush] at hretry
  have hiff := finish_create_iff (u := { recovered s' with backup := s'.backup }) h ht hfresh
    rfl hlive
  rw [Retryable, hretry, hiff, hlive]
  exact ⟨fun hawaits => hawaits.2, fun hawaits => ⟨⟨rfl, rfl⟩, hawaits⟩⟩

/-- **Exactly when a completed compensation can be retried.** -/
theorem pagefileCompensation
    (hfresh : ∀ b, capturePagefileBinding "P1:8" state s.live = .ok b →
      FreshName naming s.live b)
    (hrun : attemptPagefile naming state now s = (.error (.compensated c message), s')) :
    Retryable naming state now' s s' ↔ KeepsRetry state now s := by
  obtain ⟨b, u, happlicable, hcapture, hu, hlive, hbackup, hfinish⟩ := attempt_compensated hrun
  obtain ⟨-, h⟩ := captured_of_capture hcapture
  have hcondition : KeepsRetry state now s ↔ (b.target.isSome = true ∨
      (Awaits (journaled now b s) ∧ ∃ k, FailsFirst s k ∧ k < 12 ∧ k ≠ 9)) := by
    constructor
    · intro hkeeps
      exact hkeeps b hcapture
    · intro hkeeps b' hcapture'
      obtain rfl := Except.ok.inj (hcapture.symm.trans hcapture')
      exact hkeeps
  rw [hcondition]
  cases ht : b.target with
  | some t =>
      have hback := update_ending h ht hlive hfinish
      have hretry : attemptPagefile naming state now' (recovered s') = _ :=
        attempt_quiet rfl (b := b) (by rwa [← hback] at happlicable)
          (by rwa [← hback] at hcapture)
      obtain ⟨s'', hfinished⟩ : ∃ s'', finishPagefile naming b
          { recovered s' with backup := journaled now' b (recovered s') } = (.ok (), s'') :=
        finish_update h ht rfl hback
      simp only [Option.isSome_some, true_or, iff_true]
      exact ⟨by rw [hback]; exact ⟨rfl, rfl⟩, s'', hretry.trans hfinished⟩
  | none =>
      have hname := hfresh b hcapture
      have hholds : Holds (journaled now b s) (pagefileBackupEntry now' b) :=
        holds_journaled
      have hending := create_ending h ht hname hu hlive hfinish
      rw [hbackup] at hending
      simp only [Option.isSome_none, Bool.false_eq_true, false_or]
      cases hending with
      | undone hfirst hearly hother hback hjournal =>
          rw [← hjournal] at hholds
          rw [retry_create_iff hcapture happlicable ht hname hback hholds, hjournal]
          exact ⟨fun hawaits => ⟨hawaits, _, hfirst, hearly, hother⟩, fun hkeeps => hkeeps.1⟩
      | refused hwaits hback hjournal =>
          rw [← hjournal] at hholds
          rw [retry_create_iff hcapture happlicable ht hname hback hholds, hjournal]
          exact ⟨fun hawaits => absurd hawaits hwaits, fun hkeeps => absurd hkeeps.1 hwaits⟩
      | unread hfirst hleft =>
          constructor
          · rintro ⟨⟨hsettings, -⟩, -⟩
            rw [hleft] at hsettings
            have hlength := congrArg List.length hsettings
            simp [afterCreation, PagefileInventory.extended, PagefileInventory.managed]
              at hlength
          · rintro ⟨-, k, hfirst', -, hother⟩
            exact absurd (hfirst'.unique hfirst) hother
      | recorded hfirst hlate hback htoken =>
          rw [retry_create_iff hcapture happlicable ht hname hback
            (holds_recorded hholds htoken)]
          constructor
          · intro hawaits
            exact absurd hawaits (not_awaits_of_recorded htoken)
          · rintro ⟨-, k, hfirst', hearly, -⟩
            have := hfirst'.unique hfirst
            omega

end

/-! ## Two failures -/

/-- A host without settings on which one access fails. -/
def failingHost (n : Nat) : PagefileHost :=
  { hostWith [] with faults := List.replicate n false ++ [true] }

/-- The journal of the attempt. -/
def attemptJournal : BackupFile :=
  journaled "now" (bindingOf none []) (failingHost 0)

/-- The host after the creation failed and was compensated. -/
def uncreatedHost : PagefileHost where
  live := hostInventory []
  past := [hostInventory [], hostInventory []]
  backup := attemptJournal

/-- The host after the read-back of the creation failed and was compensated. -/
def unreadHost : PagefileHost where
  live := hostInventory [newPagefile]
  past := [hostInventory [], hostInventory [newPagefile], hostInventory [newPagefile]]
  backup := attemptJournal

private theorem captured_empty {b : PagefileBinding}
    (h : capturePagefileBinding "P1:8" wantsPagefile (hostInventory []) = .ok b) :
    b = bindingOf none [] := by
  have hcapture : capturePagefileBinding "P1:8" wantsPagefile (hostInventory []) =
      .ok (bindingOf none []) := by decide +kernel
  exact Except.ok.inj (h.symm.trans hcapture)

private theorem fresh_empty {b : PagefileBinding}
    (h : capturePagefileBinding "P1:8" wantsPagefile (hostInventory []) = .ok b) :
    FreshName pathNaming (hostInventory []) b := by
  obtain rfl := captured_empty h
  have hvalid : validateInventory (afterCreation pathNaming (hostInventory [])
      (bindingOf none [])) = .ok () := by decide +kernel
  exact (validateInventory_eq_ok.mp hvalid).2

/-- A creation that failed is compensated, and the next attempt goes through. -/
theorem pagefileCompensation_uncreated :
    Retryable pathNaming wantsPagefile "later" (failingHost 8) uncreatedHost := by
  have hrun : attemptPagefile pathNaming wantsPagefile "now" (failingHost 8) =
      (.error (.compensated "P1:8 mutation" "native access failed"), uncreatedHost) := by
    decide +kernel
  refine (pagefileCompensation (fun b hb => fresh_empty hb) hrun).mpr fun b hb => .inr ?_
  obtain rfl := captured_empty hb
  refine ⟨⟨(bindingOf none []).transaction, by decide +kernel, by decide +kernel⟩, 8, ?_⟩
  exact ⟨⟨by unfold Fails; decide, by unfold Fails; decide⟩, by decide, by decide⟩

/-- **A setting stays behind.**  The creation takes effect and its read-back
fails; the error reports a completed compensation, and the created page file is
still there. -/
theorem pagefileCompensation_unread :
    ¬ ∀ (naming : Naming) (state : State) (now now' : String) (s s' : PagefileHost)
        (c message : String),
      (∀ b, capturePagefileBinding "P1:8" state s.live = .ok b →
        FreshName naming s.live b) →
      attemptPagefile naming state now s = (.error (.compensated c message), s') →
      Retryable naming state now' s s' := by
  intro h
  have hrun : attemptPagefile pathNaming wantsPagefile "now" (failingHost 9) =
      (.error (.compensated "P1:8 mutation" "native access failed"), unreadHost) := by
    decide +kernel
  obtain ⟨⟨hsettings, -⟩, -⟩ := h pathNaming wantsPagefile "now" "later" (failingHost 9)
    unreadHost _ _ (fun b hb => fresh_empty hb) hrun
  cases hsettings

end FrametimeCfg.Verified.PagefileCompensation
