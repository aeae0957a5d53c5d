import FrametimeCfg.Windows.DrsStore

/-!
# The profile transaction reverses itself

Only a save replaces the saved profiles, so an error before it leaves them
alone, and the session is destroyed after whatever the operation did.  The
policy goes to the profile that was captured: the apply first compares the
profile, the settings and the registrations with the record, and what it changed
after that is exactly what the record holds the originals of.
-/

namespace FrametimeCfg.Verified.DrsTransaction

open FrametimeCfg.Lib.Effect
open FrametimeCfg.Windows

/-! ## Sessions and saves -/

/-- What happened since `s₀`, inside a session. -/
structure Within (s₀ t : DrsHost) : Prop where
  created : t.created = s₀.created
  destroyed : t.destroyed = s₀.destroyed
  saves : s₀.saves ≤ t.saves
  saved : t.saves = s₀.saves → t.saved = s₀.saved

/-- The program keeps the assertion, whether it returns or fails. -/
def Keeps {α : Type} (I : DrsHost → Prop) (m : Prog DrsHost DrsError α) : Prop :=
  Triple I m (fun _ => I) (fun _ => I)

/-- The assertion is not about the working copy, nor about the faults to come. -/
structure Frame (I : DrsHost → Prop) : Prop where
  same : ∀ {s t : DrsHost}, I s → s.Same t → I t
  working : ∀ {s : DrsHost} (store : DrsStore), I s → I (s.onWorking store)

section

variable {α β : Type} {s t : DrsHost}

theorem Within.refl (s : DrsHost) : Within s s :=
  ⟨rfl, rfl, Nat.le_refl _, fun _ => rfl⟩

theorem Within.same {s₀ : DrsHost} (h : Within s₀ s) (hsame : s.Same t) : Within s₀ t := by
  constructor
  · rw [hsame.created, h.created]
  · rw [hsame.destroyed, h.destroyed]
  · rw [hsame.saves]
    exact h.saves
  · intro hsaves
    rw [hsame.saves] at hsaves
    rw [hsame.saved, h.saved hsaves]

theorem within_frame (s₀ : DrsHost) : Frame (Within s₀) :=
  ⟨fun h hsame => h.same hsame, fun _ h => ⟨h.created, h.destroyed, h.saves, h.saved⟩⟩

theorem saves_frame (n : Nat) : Frame fun s => s.saves = n :=
  ⟨fun h hsame => hsame.saves.trans h, fun _ h => h⟩

variable {I : DrsHost → Prop}

theorem keeps_pure (a : α) : Keeps I (pure a : Prog DrsHost DrsError α) :=
  Triple.ret fun _ h => h

theorem Keeps.bind {m : Prog DrsHost DrsError α} {k : α → Prog DrsHost DrsError β}
    (hm : Keeps I m) (hk : ∀ a, Keeps I (k a)) : Keeps I (m >>= k) :=
  Triple.bind hm hk

theorem keeps_raise (e : DrsError) : Keeps I (raise e : Prog DrsHost DrsError α) :=
  Triple.raise fun _ h => h

theorem keeps_refuse (condition : Bool) (operation reason : String) :
    Keeps I (refuse condition operation reason : Prog DrsHost DrsError Unit) := by
  unfold refuse
  split
  · exact keeps_raise _
  · exact keeps_pure _

theorem keeps_require (operation reason : String) (o : Option α) :
    Keeps I (require operation reason o : Prog DrsHost DrsError α) := by
  cases o with
  | none => exact keeps_raise _
  | some a => exact keeps_pure a

theorem keeps_forEach {body : α → Prog DrsHost DrsError Unit} {xs : List α}
    (h : ∀ x, Keeps I (body x)) : Keeps I (forEach body xs) :=
  Triple.forEach fun x _ => h x

theorem keeps_mapEach {f : α → Prog DrsHost DrsError β} {xs : List α}
    (h : ∀ x, Keeps I (f x)) : Keeps I (mapEach f xs) :=
  Triple.mapEach fun x _ => h x

theorem Keeps.run {m : Prog DrsHost DrsError α} (h : Keeps I m) {r : Except DrsError α}
    (hs : I s) (hrun : m s = (r, t)) : I t := by
  cases r with
  | ok a => exact Triple.ok h hs hrun
  | error e => exact Triple.error h hs hrun

theorem keeps_query (hI : Frame I) (operation : String) (look : DrsStore → Option α) :
    Keeps I (drsQuery operation look) := by
  intro s hs
  rcases hrun : drsQuery operation look s with ⟨r, t⟩
  have ht := hI.same hs (drsQuery_same hrun)
  cases r with
  | ok _ => exact ht
  | error e => exact ht

theorem keeps_call (hI : Frame I) (operation : String) : Keeps I (drsCall operation) := by
  intro s hs
  rcases hrun : drsCall operation s with ⟨r, t⟩
  have ht := hI.same hs (drsCall_same hrun)
  cases r with
  | ok _ => exact ht
  | error e => exact ht

theorem keeps_change (hI : Frame I) (operation : String)
    (change : DrsStore → Option DrsStore) : Keeps I (drsChange operation change) :=
  (keeps_query hI operation change).bind fun next =>
    Triple.update fun _ hs => hI.working next hs

theorem keeps_load (hI : Frame I) (session : Nat) :
    Keeps I (sessionDrs.loadSettings session) :=
  (keeps_call hI _).bind fun _ => Triple.update fun s hs => hI.working s.saved hs

theorem keeps_save {s₀ : DrsHost} (session : Nat) :
    Keeps (Within s₀) (sessionDrs.saveSettings session) := by
  refine (keeps_call (within_frame s₀) _).bind fun _ => Triple.update fun s hs => ?_
  have hsaves := hs.saves
  refine ⟨hs.created, hs.destroyed, ?_, ?_⟩
  · show s₀.saves ≤ s.saves + 1
    omega
  · intro hsame
    have hsame' : s.saves + 1 = s₀.saves := hsame
    omega

private theorem restoreDword_eq (session : Nat) (profile : String)
    (original : DrsOriginalSetting) : sessionDrs.restoreDword session profile original =
      match original.value with
      | some value => drsChange "DRS_SetSetting" (·.set profile original.id value)
      | none => drsChange "DRS_DeleteProfileSetting" (·.deleteSetting profile original.id) :=
  rfl

theorem keeps_restoreDword (hI : Frame I) (session : Nat) (profile : String)
    (original : DrsOriginalSetting) :
    Keeps I (sessionDrs.restoreDword session profile original) := by
  rw [restoreDword_eq]
  cases original.value with
  | none => exact keeps_change hI _ _
  | some value => exact keeps_change hI _ _

/-! ## The operations -/

theorem keeps_nameOf (hI : Frame I) (session : Nat) (profile : Option String) :
    Keeps I (nameOf sessionDrs session profile) := by
  cases profile with
  | none => exact keeps_pure none
  | some profile => exact (keeps_query hI _ _).bind fun _ => keeps_pure _

theorem keeps_findFirstByName (hI : Frame I) (session : Nat) (names : List String) :
    Keeps I (findFirstByName sessionDrs session names) := by
  induction names with
  | nil => exact keeps_pure none
  | cons name names ih =>
      refine (keeps_query hI _ _).bind fun found => ?_
      cases found with
      | none => exact ih
      | some profile => exact keeps_pure _

theorem keeps_findExistingProfile (hI : Frame I) (session : Nat) :
    Keeps I (findExistingProfile sessionDrs session) := by
  refine (keeps_query hI _ _).bind fun owner => ?_
  have hdedicated : Keeps I (dedicatedOwner sessionDrs session owner) := by
    cases owner with
    | none => exact keeps_pure none
    | some profile => exact (keeps_query hI _ _).bind fun _ => keeps_pure _
  refine hdedicated.bind fun found => ?_
  cases found with
  | none => exact keeps_findFirstByName hI session _
  | some profile => exact keeps_pure _

theorem keeps_captureApplicationOriginals (hI : Frame I) (session : Nat) (target : Option String) :
    Keeps I (captureApplicationOriginals sessionDrs session target) := by
  refine (keeps_forEach fun application => ?_).bind fun _ =>
    keeps_mapEach fun application => ?_
  · exact (keeps_query hI _ _).bind fun owner => keeps_refuse _ _ _
  · refine (keeps_query hI _ _).bind fun owner => ?_
    exact (keeps_nameOf hI session owner).bind fun _ => keeps_pure _

theorem keeps_captureTarget (hI : Frame I) (session : Nat) (target : Option String) :
    Keeps I (captureTarget sessionDrs session target) := by
  cases target with
  | none =>
      exact (keeps_captureApplicationOriginals hI session none).bind fun _ =>
        keeps_pure _
  | some profile =>
      refine (keeps_query hI _ _).bind fun name => ?_
      refine (keeps_captureApplicationOriginals hI session (some profile)).bind fun _ => ?_
      refine Keeps.bind ?_ fun _ => keeps_pure _
      exact keeps_mapEach fun setting =>
        (keeps_query hI _ _).bind fun _ => keeps_pure _

theorem keeps_validateCurrentOriginals (hI : Frame I) (session : Nat) (backup : DrsBackup) :
    Keeps I (validateCurrentOriginals sessionDrs session backup) := by
  refine (keeps_query hI _ _).bind fun profile => ?_
  refine (keeps_refuse _ _ _).bind fun _ => ?_
  refine (keeps_forEach fun original => ?_).bind fun _ => ?_
  · refine (keeps_query hI _ _).bind fun owner => ?_
    exact (keeps_nameOf hI session owner).bind fun _ => keeps_refuse _ _ _
  · cases profile with
    | none => exact keeps_pure ()
    | some profile =>
        exact keeps_forEach fun original =>
          (keeps_query hI _ _).bind fun _ => keeps_refuse _ _ _

theorem keeps_applyTarget (hI : Frame I) (session : Nat) (backup : DrsBackup) :
    Keeps I (applyTarget sessionDrs session backup) := by
  unfold applyTarget
  split
  · exact (keeps_change hI _ _).bind fun _ => keeps_pure _
  · exact (keeps_query hI _ _).bind fun _ => keeps_require _ _ _

theorem keeps_ensureMissingApplications (hI : Frame I) (session : Nat) (profile : String)
    (originals : List DrsApplicationOriginal) :
    Keeps I (ensureMissingApplications sessionDrs session profile originals) := by
  refine keeps_forEach fun original => ?_
  have hbind : Keeps I (bindMissing sessionDrs session profile original) := by
    unfold bindMissing
    split
    · exact keeps_change hI _ _
    · exact keeps_pure ()
  exact hbind.bind fun _ => (keeps_query hI _ _).bind fun _ => keeps_refuse _ _ _

theorem keeps_applyPolicy (hI : Frame I) (session : Nat) (backup : DrsBackup) :
    Keeps I (applyPolicy sessionDrs session backup) := by
  refine (keeps_validateCurrentOriginals hI session backup).bind fun _ => ?_
  refine (keeps_applyTarget hI session backup).bind fun profile => ?_
  refine (keeps_ensureMissingApplications hI session profile _).bind fun _ => ?_
  exact (keeps_forEach fun setting => keeps_change hI _ _).bind fun _ =>
    keeps_pure _

theorem keeps_verifySettings (hI : Frame I) (session : Nat) (profile : String)
    (settings : List DrsTargetSetting) :
    Keeps I (verifySettings sessionDrs session profile settings) :=
  keeps_forEach fun _ => (keeps_query hI _ _).bind fun _ => keeps_refuse _ _ _

theorem keeps_restoreCreated {s₀ : DrsHost} (session : Nat) (backup : DrsBackup) (profile : String) :
    Keeps (Within s₀) (restoreCreated sessionDrs session backup profile) := by
  refine (keeps_change (within_frame s₀) _ _).bind fun _ => (keeps_save session).bind fun _ => ?_
  exact (keeps_query (within_frame s₀) _ _).bind fun _ => keeps_refuse _ _ _

theorem keeps_restoreExisting {s₀ : DrsHost} (session : Nat) (backup : DrsBackup) (profile : String) :
    Keeps (Within s₀) (restoreExisting sessionDrs session backup profile) := by
  have horiginals : Keeps (Within s₀) (restoreOriginals sessionDrs session backup profile) := by
    refine (keeps_forEach fun original =>
      keeps_restoreDword (within_frame s₀) session profile original).bind fun _ =>
        keeps_forEach fun original => ?_
    split
    · exact keeps_change (within_frame s₀) _ _
    · exact keeps_pure ()
  have hverify : Keeps (Within s₀) (verifyRestored sessionDrs session backup profile) := by
    refine (keeps_forEach fun _ => ?_).bind fun _ => keeps_forEach fun _ => ?_
    · exact (keeps_query (within_frame s₀) _ _).bind fun _ => keeps_refuse _ _ _
    · exact (keeps_query (within_frame s₀) _ _).bind fun _ => keeps_refuse _ _ _
  refine horiginals.bind fun _ => (keeps_save session).bind fun _ => ?_
  exact (keeps_load (within_frame s₀) session).bind fun _ => hverify

end

/-! ## A session from its start to its end -/

section

variable {α : Type} {s t : DrsHost}

/-- The session that was created, if one was, was destroyed once. -/
def Ended (s t : DrsHost) : Prop :=
  (t.created = s.created ∧ t.destroyed = s.destroyed) ∨
    (t.created = s.created + 1 ∧ t.destroyed = s.destroyed ++ [s.created])

/-- The operation of a session ran, from the saved profiles to the end. -/
structure Ran (operation : Nat → Prog DrsHost DrsError α) (s : DrsHost)
    (r : Except DrsError α) (t s₁ : DrsHost) (r₁ : Except DrsError α) (s₂ : DrsHost) :
    Prop where
  saved : s₁.saved = s.saved
  working : s₁.working = s.saved
  saves : s₁.saves = s.saves
  created : s₁.created = s.created + 1
  destroyed : s₁.destroyed = s.destroyed
  ran : operation s.created s₁ = (r₁, s₂)
  saved_end : t.saved = s₂.saved
  saves_end : t.saves = s₂.saves
  created_end : t.created = s₂.created
  destroyed_end : t.destroyed = s₂.destroyed ++ [s.created]
  returned : ∀ a, r = .ok a → r₁ = .ok a

/-- Nothing was saved, and nothing is left behind. -/
structure Untouched (s t : DrsHost) : Prop where
  saved : t.saved = s.saved
  saves : t.saves = s.saves
  ended : Ended s t

/-- Destroying a session keeps what was saved. -/
private theorem destroy_facts {session : Nat} {r : Except DrsError Unit}
    (h : sessionDrs.destroySession session s = (r, t)) :
    t.saved = s.saved ∧ t.saves = s.saves ∧ t.created = s.created ∧
      t.destroyed = s.destroyed ++ [session] := by
  have hsame := drsCall_same (s := { s with
    destroyed := s.destroyed ++ [session], working := DrsStore.empty }) h
  exact ⟨hsame.saved, hsame.saves, hsame.created, hsame.destroyed⟩

/-- Creating a session: it failed, or there is a new handle. -/
private theorem create_cases {r : Except DrsError Nat}
    (h : sessionDrs.createSession s = (r, t)) :
    t.saved = s.saved ∧ t.saves = s.saves ∧ t.destroyed = s.destroyed ∧
      (((∃ e, r = .error e) ∧ t.created = s.created) ∨
        (r = .ok s.created ∧ t.created = s.created + 1)) := by
  rcases bind_cases h with ⟨e, hcall, rfl⟩ | ⟨_, s₁, hcall, hrest⟩
  · have hsame := drsCall_same hcall
    exact ⟨hsame.saved, hsame.saves, hsame.destroyed, .inl ⟨⟨e, rfl⟩, hsame.created⟩⟩
  · have hsame := drsCall_same hcall
    obtain ⟨rfl, rfl⟩ := Prod.mk.inj hrest
    refine ⟨hsame.saved, hsame.saves, hsame.destroyed, .inr ⟨?_, ?_⟩⟩
    · exact congrArg Except.ok hsame.created
    · exact congrArg (· + 1) hsame.created

/-- Loading: it failed, or the working copy is the saved one. -/
private theorem load_cases {session : Nat} {r : Except DrsError Unit}
    (h : sessionDrs.loadSettings session s = (r, t)) :
    t.saved = s.saved ∧ t.saves = s.saves ∧ t.created = s.created ∧
      t.destroyed = s.destroyed ∧ ((∃ e, r = .error e) ∨ t.working = s.saved) := by
  rcases bind_cases h with ⟨e, hcall, rfl⟩ | ⟨_, s₁, hcall, hrest⟩
  · have hsame := drsCall_same hcall
    exact ⟨hsame.saved, hsame.saves, hsame.created, hsame.destroyed, .inl ⟨e, rfl⟩⟩
  · have hsame := drsCall_same hcall
    obtain ⟨-, rfl⟩ := Prod.mk.inj hrest
    exact ⟨hsame.saved, hsame.saves, hsame.created, hsame.destroyed, .inr hsame.saved⟩

/-- The end of a session reports the first error. -/
private theorem end_cases {r₁ : Except DrsError α} {r₂ : Except DrsError Unit}
    {r : Except DrsError α}
    (h : (match r₁, r₂ with
      | .ok value, .ok () => pure value
      | .error error, _ => raise error
      | .ok _, .error error => raise error : Prog DrsHost DrsError α) s = (r, t)) :
    t = s ∧ (∀ a, r = .ok a → r₁ = .ok a) ∧ ((∃ e, r₁ = .error e) → ∃ e, r = .error e) := by
  cases r₁ with
  | error e =>
      obtain ⟨rfl, rfl⟩ := Prod.mk.inj h
      exact ⟨rfl, (fun a ha => by cases ha), fun _ => ⟨e, rfl⟩⟩
  | ok a =>
      cases r₂ with
      | ok _ =>
          obtain ⟨rfl, rfl⟩ := Prod.mk.inj h
          exact ⟨rfl, fun _ ha => ha, fun ⟨_, he⟩ => by cases he⟩
      | error e =>
          obtain ⟨rfl, rfl⟩ := Prod.mk.inj h
          exact ⟨rfl, (fun a ha => by cases ha), fun ⟨_, he⟩ => by cases he⟩

/-- **A session.**  Its operation did not run, or it ran on the saved profiles. -/
theorem withSession_cases {operation : Nat → Prog DrsHost DrsError α}
    {r : Except DrsError α} (h : withSession sessionDrs operation s = (r, t)) :
    ((∃ e, r = .error e) ∧ Untouched s t) ∨
      ∃ s₁ r₁ s₂, Ran operation s r t s₁ r₁ s₂ := by
  rcases bind_cases h with ⟨e, hinit, rfl⟩ | ⟨_, s₀, hinit, h⟩
  · have hsame := drsCall_same hinit
    exact .inl ⟨⟨e, rfl⟩, hsame.saved, hsame.saves, .inl ⟨hsame.created, hsame.destroyed⟩⟩
  have hsame := drsCall_same hinit
  rcases bind_cases h with ⟨e, hcreate, rfl⟩ | ⟨session, s₁, hcreate, h⟩
  · obtain ⟨hsaved, hsaves, hdestroyed, ⟨-, hcreated⟩ | ⟨hok, -⟩⟩ := create_cases hcreate
    · exact .inl ⟨⟨e, rfl⟩, hsaved.trans hsame.saved, hsaves.trans hsame.saves,
        .inl ⟨hcreated.trans hsame.created, hdestroyed.trans hsame.destroyed⟩⟩
    · cases hok
  obtain ⟨hsaved, hsaves, hdestroyed, ⟨⟨_, herror⟩, -⟩ | ⟨hsession, hcreated⟩⟩ :=
    create_cases hcreate
  · cases herror
  obtain rfl := Except.ok.inj hsession
  obtain ⟨r₁, s₂, hrun, h⟩ := (bind_cases h).resolve_left (by
    intro hfailed
    obtain ⟨_, hattempt, _⟩ := hfailed
    rw [attempt] at hattempt
    cases (Prod.mk.inj hattempt).1)
  obtain ⟨r₂, s₃, hdestroy, h⟩ := (bind_cases h).resolve_left (by
    intro hfailed
    obtain ⟨_, hattempt, _⟩ := hfailed
    rw [attempt] at hattempt
    cases (Prod.mk.inj hattempt).1)
  obtain ⟨rfl, hreturned, herror⟩ := end_cases h
  obtain ⟨hdsaved, hdsaves, hdcreated, hddestroyed⟩ := destroy_facts (attempt_eq_ok.mp hdestroy)
  rw [hsame.created] at hddestroyed hcreated
  rcases bind_cases (attempt_eq_ok.mp hrun) with ⟨e, hload, rfl⟩ | ⟨_, s₄, hload, hoperation⟩
  · obtain ⟨hlsaved, hlsaves, hlcreated, hldestroyed, -⟩ := load_cases hload
    refine .inl ⟨herror ⟨e, rfl⟩, ?_, ?_, .inr ⟨?_, ?_⟩⟩
    · rw [hdsaved, hlsaved, hsaved, hsame.saved]
    · rw [hdsaves, hlsaves, hsaves, hsame.saves]
    · rw [hdcreated, hlcreated, hcreated]
    · rw [hddestroyed, hldestroyed, hdestroyed, hsame.destroyed]
  · obtain ⟨hlsaved, hlsaves, hlcreated, hldestroyed, ⟨_, hfailed⟩ | hworking⟩ :=
      load_cases hload
    · cases hfailed
    rw [hsame.created] at hoperation
    exact .inr ⟨s₄, r₁, s₂, {
      saved := by rw [hlsaved, hsaved, hsame.saved]
      working := by rw [hworking, hsaved, hsame.saved]
      saves := by rw [hlsaves, hsaves, hsame.saves]
      created := by rw [hlcreated, hcreated]
      destroyed := by rw [hldestroyed, hdestroyed, hsame.destroyed]
      ran := hoperation
      saved_end := hdsaved
      saves_end := hdsaves
      created_end := hdcreated
      destroyed_end := hddestroyed
      returned := hreturned }⟩

/-- What a session did whose operation replaces the saved profiles by saving only. -/
theorem withSession_keeps {operation : Nat → Prog DrsHost DrsError α}
    (hoperation : ∀ session s₀, Keeps (Within s₀) (operation session)) {r : Except DrsError α}
    (h : withSession sessionDrs operation s = (r, t)) :
    Ended s t ∧ (t.saves = s.saves → t.saved = s.saved) := by
  rcases withSession_cases h with ⟨-, huntouched⟩ | ⟨s₁, r₁, s₂, hran⟩
  · exact ⟨huntouched.ended, fun _ => huntouched.saved⟩
  have hwithin : Within s₁ s₂ := (hoperation s.created s₁).run (Within.refl s₁) hran.ran
  refine ⟨.inr ⟨?_, ?_⟩, fun hsaves => ?_⟩
  · rw [hran.created_end, hwithin.created, hran.created]
  · rw [hran.destroyed_end, hwithin.destroyed, hran.destroyed]
  · rw [hran.saved_end, hwithin.saved ?_, hran.saved]
    rw [← hran.saves_end, hsaves, hran.saves]

end

/-! ## Programs that returned -/

/-- The program changed the working copy as `P` says, and saved nothing. -/
def Works {α : Type} (m : Prog DrsHost DrsError α) (P : DrsStore → α → DrsStore → Prop) :
    Prop :=
  ∀ s t a, m s = (.ok a, t) → P s.working a t.working ∧ t.saved = s.saved

/-- The program read what `P` says, and changed nothing. -/
def Reads {α : Type} (m : Prog DrsHost DrsError α) (P : DrsStore → α → Prop) : Prop :=
  Works m fun w a w' => P w a ∧ w' = w

section

variable {α β : Type}

theorem Works.bind {m : Prog DrsHost DrsError α} {k : α → Prog DrsHost DrsError β}
    {P : DrsStore → α → DrsStore → Prop} {Q : α → DrsStore → β → DrsStore → Prop}
    (hm : Works m P) (hk : ∀ a, Works (k a) (Q a)) :
    Works (m >>= k) fun w b w'' => ∃ a w', P w a w' ∧ Q a w' b w'' := by
  intro s t b h
  obtain ⟨a, s₁, hrun, h⟩ := bind_eq_ok h
  obtain ⟨hP, hsaved⟩ := hm s s₁ a hrun
  obtain ⟨hQ, hsaved'⟩ := hk a s₁ t b h
  exact ⟨⟨a, s₁.working, hP, hQ⟩, hsaved'.trans hsaved⟩

theorem Works.post {m : Prog DrsHost DrsError α} {P Q : DrsStore → α → DrsStore → Prop}
    (hm : Works m P) (h : ∀ w a w', P w a w' → Q w a w') : Works m Q := by
  intro s t a hrun
  obtain ⟨hP, hsaved⟩ := hm s t a hrun
  exact ⟨h _ _ _ hP, hsaved⟩

theorem Reads.bind {m : Prog DrsHost DrsError α} {k : α → Prog DrsHost DrsError β}
    {P : DrsStore → α → Prop} {Q : α → DrsStore → β → Prop} (hm : Reads m P)
    (hk : ∀ a, Reads (k a) (Q a)) : Reads (m >>= k) fun w b => ∃ a, P w a ∧ Q a w b := by
  refine (Works.bind hm hk).post ?_
  rintro w b w'' ⟨a, w', ⟨hP, rfl⟩, hQ, rfl⟩
  exact ⟨⟨a, hP, hQ⟩, rfl⟩

theorem Reads.post {m : Prog DrsHost DrsError α} {P Q : DrsStore → α → Prop}
    (hm : Reads m P) (h : ∀ w a, P w a → Q w a) : Reads m Q :=
  Works.post hm fun w a _ hP => ⟨h w a hP.1, hP.2⟩

theorem reads_pure (a : α) :
    Reads (pure a : Prog DrsHost DrsError α) fun _ b => b = a := by
  intro s t b h
  obtain ⟨hvalue, rfl⟩ := Prod.mk.inj h
  exact ⟨⟨(Except.ok.inj hvalue).symm, rfl⟩, rfl⟩

theorem reads_query (operation : String) (look : DrsStore → Option α) :
    Reads (drsQuery operation look) fun w a => look w = some a := by
  intro s t a h
  obtain ⟨hlook, hsame⟩ := drsQuery_returned h
  exact ⟨⟨hlook, hsame.working⟩, hsame.saved⟩

theorem reads_refuse (condition : Bool) (operation reason : String) :
    Reads (refuse condition operation reason : Prog DrsHost DrsError Unit)
      fun _ _ => condition = false := by
  intro s t a h
  unfold refuse at h
  cases condition with
  | true => cases (Prod.mk.inj h).1
  | false =>
      obtain ⟨-, rfl⟩ := Prod.mk.inj h
      exact ⟨⟨rfl, rfl⟩, rfl⟩

theorem reads_require (operation reason : String) (o : Option α) :
    Reads (require operation reason o : Prog DrsHost DrsError α) fun _ a => o = some a := by
  intro s t a h
  cases o with
  | none => cases (Prod.mk.inj h).1
  | some b =>
      obtain ⟨hvalue, rfl⟩ := Prod.mk.inj h
      exact ⟨⟨congrArg some (Except.ok.inj hvalue), rfl⟩, rfl⟩

theorem works_change (operation : String) (change : DrsStore → Option DrsStore) :
    Works (drsChange operation change) fun w _ w' => change w = some w' := by
  intro s t u h
  obtain ⟨store, hstore, hsame⟩ := drsChange_returned h
  refine ⟨?_, hsame.saved⟩
  rw [hsame.working]
  exact hstore

/-- A loop whose body makes one change for each element. -/
theorem works_forEach {body : α → Prog DrsHost DrsError Unit}
    {change : DrsStore → α → Option DrsStore}
    (h : ∀ x, Works (body x) fun w _ w' => change w x = some w') (xs : List α) :
    Works (forEach body xs) fun w _ w' => xs.foldlM change w = some w' := by
  induction xs with
  | nil =>
      intro s t u hrun
      obtain ⟨-, rfl⟩ := Prod.mk.inj hrun
      exact ⟨rfl, rfl⟩
  | cons x xs ih =>
      refine (Works.bind (h x) fun _ => ih).post ?_
      rintro w u w'' ⟨_, w', hx, hxs⟩
      rw [List.foldlM_cons, hx]
      exact hxs

/-- A loop that only reads. -/
theorem reads_forEach {body : α → Prog DrsHost DrsError Unit} {P : α → DrsStore → Prop}
    (h : ∀ x, Reads (body x) fun w _ => P x w) (xs : List α) :
    Reads (forEach body xs) fun w _ => ∀ x ∈ xs, P x w := by
  induction xs with
  | nil => exact (reads_pure ()).post fun _ _ _ => by simp
  | cons x xs ih =>
      refine (Reads.bind (h x) fun _ => ih).post ?_
      rintro w u ⟨_, hx, hxs⟩
      exact List.forall_mem_cons.mpr ⟨hx, hxs⟩

/-- A loop that collects what it reads. -/
theorem reads_mapEach {f : α → Prog DrsHost DrsError β} {g : DrsStore → α → β}
    (h : ∀ x, Reads (f x) fun w y => y = g w x) (xs : List α) :
    Reads (mapEach f xs) fun w ys => ys = xs.map (g w) := by
  induction xs with
  | nil => exact (reads_pure []).post fun _ _ h => h
  | cons x xs ih =>
      refine (Reads.bind (h x) fun y => Reads.bind ih fun ys => reads_pure (y :: ys)).post ?_
      rintro w b ⟨y, rfl, ys, rfl, rfl⟩
      rfl

end

/-! ## The captured record -/

section

/-- A setting of a profile. -/
def settingOf (w : DrsStore) (name : String) (id : UInt32) : Option UInt32 :=
  (w.profiles name).bind fun settings => settings id

/-- The record of a target, taken from the saved profiles. -/
def captureOf (w : DrsStore) (target : Option String) : DrsBackup where
  profile := target.getD CS2_PROFILE_NAME
  profileCreated := target.isNone
  settings := CS2_SETTINGS.map fun setting =>
    { id := setting.id, value := target.bind fun name => settingOf w name setting.id }
  applications := CS2_APPLICATIONS.map fun application =>
    { application := application, profile := w.owner application }

/-- The target of a capture: it exists, or its name is free, and it alone has the
applications. -/
structure Targeted (w : DrsStore) (target : Option String) : Prop where
  has : w.has (target.getD CS2_PROFILE_NAME) = target.isSome
  owners : ∀ application ∈ CS2_APPLICATIONS,
    w.owner application = none ∨ w.owner application = target

theorem reads_readDword (session : Nat) (name : String) (id : UInt32) :
    Reads (sessionDrs.readDword session name id) fun w value =>
      value = settingOf w name id := by
  refine (reads_query _ _).post fun w value h => ?_
  unfold settingOf
  cases hprofile : w.profiles name with
  | none =>
      rw [hprofile] at h
      cases h
  | some settings =>
      rw [hprofile] at h
      exact (Option.some.inj h).symm

theorem reads_findByName (session : Nat) (name : String) :
    Reads (sessionDrs.findProfileByName session name) fun w found =>
      found = if w.has name then some name else none :=
  (reads_query _ _).post fun _ _ h => (Option.some.inj h).symm

theorem reads_owner (session : Nat) (application : String) :
    Reads (sessionDrs.findApplicationProfile session application) fun w owner =>
      owner = w.owner application :=
  (reads_query _ _).post fun _ _ h => (Option.some.inj h).symm

theorem reads_profileName (session : Nat) (profile : String) :
    Reads (sessionDrs.profileName session profile) fun _ name => name = profile := by
  refine (reads_query _ _).post fun w name h => ?_
  by_cases hhas : w.has profile = true
  · rw [if_pos hhas] at h
    exact (Option.some.inj h).symm
  · rw [if_neg hhas] at h
    cases h

theorem reads_nameOf (session : Nat) (profile : Option String) :
    Reads (nameOf sessionDrs session profile) fun _ name => name = profile := by
  cases profile with
  | none => exact reads_pure none
  | some profile =>
      refine (Reads.bind (reads_profileName session profile) fun name =>
        reads_pure (some name)).post ?_
      rintro w name ⟨_, rfl, rfl⟩
      rfl

theorem reads_dedicatedOwner (session : Nat) (owner : Option String) :
    Reads (dedicatedOwner sessionDrs session owner) fun _ found =>
      ∀ profile, found = some profile → owner = some profile := by
  cases owner with
  | none =>
      refine (reads_pure none).post fun _ found h profile hfound => ?_
      rw [h] at hfound
      cases hfound
  | some owner =>
      refine (Reads.bind (reads_profileName session owner) fun name =>
        reads_pure (if name = GLOBAL_PROFILE_NAME then none else some owner)).post ?_
      rintro w found ⟨name, rfl, rfl⟩ profile hfound
      split at hfound
      · cases hfound
      · exact hfound

theorem reads_orElse {next : Prog DrsHost DrsError (Option String)}
    {P : DrsStore → Option String → Prop} (hnext : Reads next P) (found : Option String) :
    Reads (orElse next found) fun w result =>
      (found = none ∧ P w result) ∨ (found.isSome = true ∧ result = found) := by
  cases found with
  | none => exact hnext.post fun _ _ h => .inl ⟨rfl, h⟩
  | some profile => exact (reads_pure (some profile)).post fun _ _ h => .inr ⟨rfl, h⟩

theorem reads_findFirstByName (session : Nat) (names : List String) :
    Reads (findFirstByName sessionDrs session names) fun w found =>
      (∀ profile, found = some profile → w.has profile = true) ∧
        (found = none → ∀ name ∈ names, w.has name = false) := by
  induction names with
  | nil =>
      refine (reads_pure none).post fun w found h => ⟨fun profile hfound => ?_, fun _ => by simp⟩
      rw [h] at hfound
      cases hfound
  | cons name names ih =>
      refine (Reads.bind (reads_findByName session name) fun r => reads_orElse ih r).post ?_
      rintro w found ⟨r, rfl, ⟨hnone, hsome, hrest⟩ | ⟨hisSome, rfl⟩⟩
      · refine ⟨hsome, fun h => List.forall_mem_cons.mpr ⟨?_, hrest h⟩⟩
        by_contra hhas
        rw [Bool.not_eq_false] at hhas
        rw [if_pos hhas] at hnone
        cases hnone
      · by_cases hhas : w.has name = true
        · rw [if_pos hhas]
          refine ⟨fun profile hp => ?_, fun hnone => by cases hnone⟩
          obtain rfl := Option.some.inj hp
          exact hhas
        · rw [if_neg hhas] at hisSome
          cases hisSome

/-- The existing profile exists; where there is none, the name is free. -/
theorem reads_findExistingProfile (session : Nat) :
    Reads (findExistingProfile sessionDrs session) fun w found =>
      w.has (found.getD CS2_PROFILE_NAME) = found.isSome := by
  refine (Reads.bind (reads_owner session CS2_APPLICATIONS[0]) fun owner =>
    Reads.bind (reads_dedicatedOwner session owner) fun r =>
      reads_orElse (reads_findFirstByName session CS2_PROFILE_ALIASES) r).post ?_
  rintro w found ⟨owner, rfl, r, hr, ⟨-, hsome, hnone⟩ | ⟨hisSome, rfl⟩⟩
  · cases found with
    | some profile => exact hsome profile rfl
    | none => exact hnone rfl CS2_PROFILE_NAME (by simp [CS2_PROFILE_ALIASES])
  · cases found with
    | some profile => exact w.owned _ profile (hr profile rfl)
    | none => cases hisSome

theorem reads_captureApplicationOriginals (session : Nat) (target : Option String) :
    Reads (captureApplicationOriginals sessionDrs session target) fun w originals =>
      (∀ application ∈ CS2_APPLICATIONS,
        w.owner application = none ∨ w.owner application = target) ∧
      originals = CS2_APPLICATIONS.map fun application =>
        { application := application, profile := w.owner application } := by
  have hcheck : ∀ application, Reads (do
      let owner ← sessionDrs.findApplicationProfile session application
      refuse (ownedElsewhere target owner) "validate CS2 application binding"
        (application ++ " belongs to a different DRS profile")) fun w _ =>
      w.owner application = none ∨ w.owner application = target := by
    intro application
    refine (Reads.bind (reads_owner session application) fun owner =>
      reads_refuse (ownedElsewhere target owner) _ _).post ?_
    rintro w _ ⟨owner, rfl, helsewhere⟩
    cases howner : w.owner application with
    | none => exact .inl rfl
    | some owner =>
        right
        rw [howner] at helsewhere
        have htarget : target = some owner := by simpa [ownedElsewhere] using helsewhere
        exact htarget.symm
  have hcollect : ∀ application, Reads (do
      let owner ← sessionDrs.findApplicationProfile session application
      let profile ← nameOf sessionDrs session owner
      return ({ application := application, profile := profile } : DrsApplicationOriginal))
      fun w original => original = { application := application, profile := w.owner application } := by
    intro application
    refine (Reads.bind (reads_owner session application) fun owner =>
      Reads.bind (reads_nameOf session owner) fun profile => reads_pure _).post ?_
    rintro w original ⟨owner, rfl, profile, rfl, rfl⟩
    rfl
  refine (Reads.bind (reads_forEach hcheck CS2_APPLICATIONS) fun _ =>
    reads_mapEach hcollect CS2_APPLICATIONS).post ?_
  rintro w originals ⟨_, howners, rfl⟩
  exact ⟨howners, rfl⟩

theorem reads_captureOriginals (session : Nat) (profile : String) :
    Reads (captureOriginals sessionDrs session profile) fun w settings =>
      settings = CS2_SETTINGS.map fun setting =>
        { id := setting.id, value := settingOf w profile setting.id } := by
  refine reads_mapEach (fun setting => ?_) CS2_SETTINGS
  refine (Reads.bind (reads_readDword session profile setting.id) fun value =>
    reads_pure _).post ?_
  rintro w original ⟨value, rfl, rfl⟩
  rfl

theorem reads_captureTarget (session : Nat) (target : Option String) :
    Reads (captureTarget sessionDrs session target) fun w result =>
      (∀ application ∈ CS2_APPLICATIONS,
        w.owner application = none ∨ w.owner application = target) ∧
      result = ((captureOf w target).profile, (captureOf w target).applications,
        (captureOf w target).settings) := by
  cases target with
  | none =>
      refine (Reads.bind (reads_captureApplicationOriginals session none) fun applications =>
        reads_pure (CS2_PROFILE_NAME, applications, absentSettings)).post ?_
      rintro w result ⟨applications, ⟨howners, rfl⟩, rfl⟩
      exact ⟨howners, rfl⟩
  | some profile =>
      refine (Reads.bind (reads_profileName session profile) fun name =>
        Reads.bind (reads_captureApplicationOriginals session (some profile))
          fun applications => Reads.bind (reads_captureOriginals session profile)
            fun settings => reads_pure (name, applications, settings)).post ?_
      rintro w result ⟨name, rfl, applications, ⟨howners, rfl⟩, settings, rfl, rfl⟩
      exact ⟨howners, rfl⟩

/-- The reads of a capture in a session. -/
private theorem reads_capture (session : Nat) : Reads (do
      let profile ← findExistingProfile sessionDrs session
      let (name, applications, settings) ← captureTarget sessionDrs session profile
      return ({
        profile := name
        profileCreated := profile.isNone
        settings := settings
        applications := applications } : DrsBackup)) fun w backup =>
      ∃ target, backup = captureOf w target ∧ Targeted w target := by
  refine (Reads.bind (reads_findExistingProfile session) fun target =>
    Reads.bind (reads_captureTarget session target) fun result => reads_pure _).post ?_
  rintro w backup ⟨target, hhas, result, ⟨howners, rfl⟩, rfl⟩
  exact ⟨target, rfl, hhas, howners⟩

/-- **The captured record** is the one of a target. -/
theorem capture_returned {s t : DrsHost} {backup : DrsBackup}
    (h : captureCs2Backup sessionDrs s = (.ok backup, t)) :
    (∃ target, backup = captureOf s.saved target ∧ Targeted s.saved target) ∧
      t.saved = s.saved := by
  have hreads := reads_capture s.created
  rcases withSession_cases h with ⟨⟨e, herror⟩, -⟩ | ⟨s₁, r₁, s₂, hran⟩
  · cases herror
  obtain rfl := hran.returned backup rfl
  obtain ⟨⟨hcaptured, -⟩, hsaved⟩ := hreads s₁ s₂ backup hran.ran
  rw [hran.working] at hcaptured
  exact ⟨hcaptured, by rw [hran.saved_end, hsaved, hran.saved]⟩

/-! ## The live originals -/

/-- The profile, its settings and the registrations are those of the record. -/
structure Unchanged (backup : DrsBackup) (w : DrsStore) : Prop where
  existed : w.has backup.profile = !backup.profileCreated
  owners : ∀ original ∈ backup.applications, w.owner original.application = original.profile
  settings : w.has backup.profile = true → ∀ original ∈ backup.settings,
    settingOf w backup.profile original.id = original.value

theorem reads_validateSettingsUnchanged (session : Nat) (settings : List DrsOriginalSetting)
    (profile : Option String) :
    Reads (validateSettingsUnchanged sessionDrs session settings profile) fun w _ =>
      ∀ name, profile = some name → ∀ original ∈ settings,
        settingOf w name original.id = original.value := by
  cases profile with
  | none => exact (reads_pure ()).post fun w _ _ name hname => by cases hname
  | some profile =>
      refine (reads_forEach (P := fun original w =>
        settingOf w profile original.id = original.value) (fun original => ?_) settings).post ?_
      · refine (Reads.bind (reads_readDword session profile original.id) fun value =>
          reads_refuse _ _ _).post ?_
        rintro w _ ⟨value, rfl, hsame⟩
        simpa using hsame
      · intro w _ hall name hname
        obtain rfl := Option.some.inj hname
        exact hall

theorem reads_validateCurrentOriginals (session : Nat) (backup : DrsBackup) :
    Reads (validateCurrentOriginals sessionDrs session backup) fun w _ =>
      Unchanged backup w := by
  have howner : ∀ original : DrsApplicationOriginal, Reads (do
      let owner ← sessionDrs.findApplicationProfile session original.application
      let actual ← nameOf sessionDrs session owner
      refuse (actual ≠ original.profile) "apply DRS"
        (original.application ++ " binding changed after backup"))
      fun w _ => w.owner original.application = original.profile := by
    intro original
    refine (Reads.bind (reads_owner session original.application) fun owner =>
      Reads.bind (reads_nameOf session owner) fun actual => reads_refuse _ _ _).post ?_
    rintro w _ ⟨owner, rfl, actual, rfl, hsame⟩
    simpa using hsame
  refine (Reads.bind (reads_findByName session backup.profile) fun profile =>
    Reads.bind (reads_refuse _ _ _) fun _ =>
      Reads.bind (reads_forEach howner backup.applications) fun _ =>
        reads_validateSettingsUnchanged session backup.settings profile).post ?_
  rintro w _ ⟨profile, rfl, _, hexisted, _, howners, hsettings⟩
  refine ⟨?_, howners, fun hhas => hsettings backup.profile (if_pos hhas)⟩
  by_cases hhas : w.has backup.profile = true
  · rw [hhas]
    simpa [hhas] using hexisted
  · rw [Bool.not_eq_true] at hhas
    rw [hhas]
    simpa [hhas] using hexisted

end

/-! ## Loops of changes -/

section

variable {w w' : DrsStore} {name : String} {settings : UInt32 → Option UInt32}

/-- The other profiles and the registrations are the same, and the profile has
the given settings. -/
structure Resettled (w w' : DrsStore) (name : String) (settings : UInt32 → Option UInt32) :
    Prop where
  profiles : w'.profiles = Function.update w.profiles name (some settings)
  owner : w'.owner = w.owner

theorem resettled_refl (h : w.profiles name = some settings) :
    Resettled w w name settings := by
  refine ⟨?_, rfl⟩
  rw [← h, Function.update_eq_self]

theorem Resettled.has (h : Resettled w w' name settings) : w'.profiles name = some settings := by
  rw [h.profiles, Function.update_self]

/-- One setting of the profile was replaced. -/
theorem resettled_withSetting {w₁ : DrsStore} (id : UInt32) (value : Option UInt32)
    (h : Resettled w w₁ name settings) :
    Resettled w (w₁.withSetting name settings id value) name
      (Function.update settings id value) := by
  refine ⟨?_, h.owner⟩
  show Function.update w₁.profiles name _ = _
  rw [h.profiles, Function.update_idem]

theorem set_eq_some {id value : UInt32} (hw : w.profiles name = some settings)
    (h : w.set name id value = some w') : w' = w.withSetting name settings id (some value) := by
  unfold DrsStore.set at h
  rw [hw] at h
  exact (Option.some.inj h).symm

theorem deleteSetting_eq_some {id : UInt32} (hw : w.profiles name = some settings)
    (h : w.deleteSetting name id = some w') : w' = w.withSetting name settings id none := by
  unfold DrsStore.deleteSetting at h
  rw [hw] at h
  by_cases hsome : (settings id).isSome = true
  · have h' : (if (settings id).isSome = true then
        some (w.withSetting name settings id none) else none) = some w' := h
    rw [if_pos hsome] at h'
    exact (Option.some.inj h').symm
  · have h' : (if (settings id).isSome = true then
        some (w.withSetting name settings id none) else none) = some w' := h
    rw [if_neg hsome] at h'
    cases h'

/-- A loop that replaces settings of one profile. -/
theorem resettled_foldlM {α : Type} {change : DrsStore → α → Option DrsStore}
    (id : α → UInt32) (value : α → Option UInt32)
    (hchange : ∀ w w' settings x, w.profiles name = some settings →
      change w x = some w' → w' = w.withSetting name settings (id x) (value x))
    {xs : List α} (hw : w.profiles name = some settings)
    (h : xs.foldlM change w = some w') :
    ∃ settings', Resettled w w' name settings' ∧
      (∀ i, (∀ x ∈ xs, id x ≠ i) → settings' i = settings i) ∧
      ∀ f : UInt32 → Option UInt32, (∀ x ∈ xs, value x = f (id x)) →
        ∀ x ∈ xs, settings' (id x) = f (id x) := by
  induction xs generalizing w settings with
  | nil =>
      obtain rfl := Option.some.inj h
      exact ⟨settings, resettled_refl hw, fun _ _ => rfl, fun _ _ x hx => by cases hx⟩
  | cons x xs ih =>
      rw [List.foldlM_cons] at h
      obtain ⟨w₁, hx, hxs⟩ := Option.bind_eq_some_iff.mp h
      obtain rfl := hchange w w₁ settings x hw hx
      have hw₁ : (w.withSetting name settings (id x) (value x)).profiles name =
          some (Function.update settings (id x) (value x)) :=
        Function.update_self name _ w.profiles
      obtain ⟨settings', hresettled, hkept, hwritten⟩ := ih hw₁ hxs
      refine ⟨settings', ⟨?_, hresettled.owner⟩, ?_, ?_⟩
      · rw [hresettled.profiles]
        show Function.update (Function.update w.profiles name _) name _ = _
        rw [Function.update_idem]
      · intro i hi
        obtain ⟨hhead, htail⟩ := List.forall_mem_cons.mp hi
        rw [hkept i htail, Function.update_of_ne (Ne.symm hhead)]
      · intro f hf y hy
        obtain ⟨hfx, hfxs⟩ := List.forall_mem_cons.mp hf
        by_cases hlater : ∃ z ∈ xs, id z = id y
        · obtain ⟨z, hz, hid⟩ := hlater
          rw [← hid]
          exact hwritten f hfxs z hz
        · have hnone : ∀ z ∈ xs, id z ≠ id y := fun z hz hid => hlater ⟨z, hz, hid⟩
          rcases List.mem_cons.mp hy with rfl | hy
          · rw [hkept _ hnone, Function.update_self, hfx]
          · exact absurd rfl (hnone y hy)

/-- The applications without an owner in the record. -/
def missing (originals : List DrsApplicationOriginal) (application : String) : Prop :=
  ∃ original ∈ originals, original.profile = none ∧ original.application = application

/-- Registering the missing applications, each checked. -/
def bindStep (name : String) (w : DrsStore) (original : DrsApplicationOriginal) :
    Option DrsStore :=
  (if original.profile.isNone then w.bind name original.application else some w).bind
    fun w' => if w'.owner original.application = some name then some w' else none

theorem bind_eq_some {application : String} (h : w.bind name application = some w') :
    w'.profiles = w.profiles ∧
      w'.owner = Function.update w.owner application (some name) := by
  unfold DrsStore.bind at h
  split at h
  · obtain rfl := Option.some.inj h
    exact ⟨rfl, rfl⟩
  · cases h

theorem unbind_eq_some {application : String} (h : w.unbind name application = some w') :
    w'.profiles = w.profiles ∧ w'.owner = Function.update w.owner application none := by
  unfold DrsStore.unbind at h
  split at h
  · obtain rfl := Option.some.inj h
    exact ⟨rfl, rfl⟩
  · cases h

/-- A loop that sets the owner of the missing applications. -/
theorem owners_foldlM {change : DrsStore → DrsApplicationOriginal → Option DrsStore}
    {target : Option String}
    (hchange : ∀ w w' original, change w original = some w' → w'.profiles = w.profiles ∧
      w'.owner = if original.profile = none then
        Function.update w.owner original.application target else w.owner)
    {originals : List DrsApplicationOriginal} (h : originals.foldlM change w = some w') :
    w'.profiles = w.profiles ∧
      (∀ application, missing originals application → w'.owner application = target) ∧
      ∀ application, ¬ missing originals application →
        w'.owner application = w.owner application := by
  induction originals generalizing w with
  | nil =>
      obtain rfl := Option.some.inj h
      exact ⟨rfl, (fun _ ⟨_, hmem, _⟩ => by cases hmem), fun _ _ => rfl⟩
  | cons original originals ih =>
      rw [List.foldlM_cons] at h
      obtain ⟨w₁, hx, hxs⟩ := Option.bind_eq_some_iff.mp h
      obtain ⟨hprofiles, howner⟩ := hchange w w₁ original hx
      obtain ⟨hprofiles', hmissing, hother⟩ := ih hxs
      refine ⟨hprofiles'.trans hprofiles, ?_, ?_⟩
      · rintro application ⟨o, ho, hnone, happ⟩
        by_cases hlater : missing originals application
        · exact hmissing application hlater
        · rw [hother application hlater, howner]
          rcases List.mem_cons.mp ho with rfl | ho
          · rw [if_pos hnone, ← happ, Function.update_self]
          · exact absurd ⟨o, ho, hnone, happ⟩ hlater
      · intro application hnot
        have hlater : ¬ missing originals application := by
          rintro ⟨o, ho, hnone, happ⟩
          exact hnot ⟨o, List.mem_cons_of_mem _ ho, hnone, happ⟩
        rw [hother application hlater, howner]
        by_cases hnone : original.profile = none
        · have hne : application ≠ original.application := fun heq =>
            hnot ⟨original, List.mem_cons_self, hnone, heq.symm⟩
          rw [if_pos hnone, Function.update_of_ne hne]
        · rw [if_neg hnone]

end

/-! ## Applying -/

section

variable {backup : DrsBackup} {s t : DrsHost}

/-- What the policy is written over. -/
def baseOf (w : DrsStore) (name : String) : UInt32 → Option UInt32 :=
  (w.profiles name).getD DrsStore.emptyProfile

/-- **What an apply did.**  The profile has other values for the settings of the
policy, and the applications that had no owner. -/
structure Applied (backup : DrsBackup) (w w' : DrsStore) : Prop where
  profile : ∃ settings, w'.profiles =
      Function.update w.profiles backup.profile (some settings) ∧
    ∀ i, (∀ x ∈ CS2_SETTINGS, x.id ≠ i) → settings i = baseOf w backup.profile i
  bound : ∀ application, missing backup.applications application →
    w'.owner application = some backup.profile
  other : ∀ application, ¬ missing backup.applications application →
    w'.owner application = w.owner application

theorem works_applyTarget (session : Nat) (backup : DrsBackup) :
    Works (applyTarget sessionDrs session backup) fun w profile w' =>
      profile = backup.profile ∧
        Resettled w w' backup.profile (baseOf w backup.profile) := by
  unfold applyTarget
  split
  · refine (Works.bind (works_change _ _) fun _ => reads_pure backup.profile).post ?_
    rintro w profile w' ⟨_, w₁, hcreate, rfl, rfl⟩
    have hcreate' : w.create backup.profile = some w' := hcreate
    unfold DrsStore.create at hcreate'
    by_cases hhas : w.has backup.profile = true
    · rw [if_pos hhas] at hcreate'
      cases hcreate'
    · rw [if_neg hhas] at hcreate'
      obtain rfl := Option.some.inj hcreate'
      have hnone : w.profiles backup.profile = none := by
        rw [Bool.not_eq_true] at hhas
        simpa [DrsStore.has] using hhas
      refine ⟨rfl, ?_, rfl⟩
      rw [baseOf, hnone]
      rfl
  · refine Works.post (Reads.bind (reads_findByName session backup.profile) fun found =>
      reads_require _ _ found) ?_
    rintro w profile w' ⟨⟨found, rfl, hfound⟩, rfl⟩
    by_cases hhas : w'.has backup.profile = true
    · rw [if_pos hhas] at hfound
      refine ⟨(Option.some.inj hfound).symm, resettled_refl ?_⟩
      obtain ⟨settings, hsettings⟩ := Option.isSome_iff_exists.mp hhas
      rw [baseOf, hsettings, Option.getD_some]
    · rw [if_neg hhas] at hfound
      cases hfound

theorem works_ensureMissingApplications (session : Nat) (name : String)
    (originals : List DrsApplicationOriginal) :
    Works (ensureMissingApplications sessionDrs session name originals) fun w _ w' =>
      w'.profiles = w.profiles ∧
      (∀ application, missing originals application → w'.owner application = some name) ∧
      ∀ application, ¬ missing originals application →
        w'.owner application = w.owner application := by
  have hbind : ∀ original, Works (bindMissing sessionDrs session name original)
      fun w _ w' => (if original.profile.isNone then w.bind name original.application
        else some w) = some w' := by
    intro original
    unfold bindMissing
    split
    · exact works_change _ _
    · refine Works.post (reads_pure ()) ?_
      rintro w _ w' ⟨-, rfl⟩
      rfl
  have hbody : ∀ original, Works (do
      bindMissing sessionDrs session name original
      let owner ← sessionDrs.findApplicationProfile session original.application
      refuse (owner ≠ some name) "verify CS2 application binding"
        (original.application ++ " is not bound to the target DRS profile"))
      fun w _ w' => bindStep name w original = some w' := by
    intro original
    refine (Works.bind (hbind original) fun _ =>
      Reads.bind (reads_owner session original.application) fun owner =>
        reads_refuse _ _ _).post ?_
    rintro w _ w' ⟨_, w₁, hstep, ⟨owner, rfl, howner⟩, rfl⟩
    have howner' : w'.owner original.application = some name := by simpa using howner
    rw [bindStep, hstep]
    exact if_pos howner'
  refine (works_forEach hbody originals).post fun w _ w' h => ?_
  refine owners_foldlM (fun w w' original hstep => ?_) h
  obtain ⟨w₁, hw₁, hchecked⟩ := Option.bind_eq_some_iff.mp hstep
  split at hchecked
  · obtain rfl := Option.some.inj hchecked
    by_cases hnone : original.profile = none
    · rw [hnone, Option.isNone_none, if_pos rfl] at hw₁
      rw [if_pos hnone]
      exact bind_eq_some hw₁
    · have hsome : original.profile.isNone = false := by
        cases hp : original.profile with
        | none => exact absurd hp hnone
        | some _ => rfl
      rw [hsome] at hw₁
      obtain rfl := Option.some.inj hw₁
      rw [if_neg hnone]
      exact ⟨rfl, rfl⟩
  · cases hchecked

/-- The writes of an apply. -/
theorem works_applyPolicy (session : Nat) (backup : DrsBackup) :
    Works (applyPolicy sessionDrs session backup) fun w _ w' =>
      Unchanged backup w ∧ Applied backup w w' := by
  have hset : ∀ setting : DrsTargetSetting, ∀ name, Works
      (sessionDrs.setDword session name setting.id setting.value)
      fun w _ w' => w.set name setting.id setting.value = some w' :=
    fun setting name => works_change _ _
  refine (Works.bind (reads_validateCurrentOriginals session backup) fun _ =>
    Works.bind (works_applyTarget session backup) fun profile =>
      Works.bind (works_ensureMissingApplications session profile backup.applications)
        fun _ => Works.bind (works_forEach (fun setting => hset setting profile) CS2_SETTINGS)
          fun _ => reads_pure profile).post ?_
  rintro w profile w' ⟨_, w₀, ⟨hunchanged, rfl⟩, name, w₁, ⟨rfl, hbase⟩, _, w₂,
    ⟨hprofiles, hbound, hother⟩, _, w₃, hloop, rfl, rfl⟩
  have hw₂ : w₂.profiles backup.profile = some (baseOf w₀ backup.profile) := by
    rw [hprofiles]
    exact hbase.has
  obtain ⟨settings, hresettled, hkept, -⟩ :=
    resettled_foldlM DrsTargetSetting.id (fun setting => some setting.value)
      (fun _ _ _ _ h hstep => set_eq_some h hstep) hw₂ hloop
  refine ⟨hunchanged, ⟨settings, ?_, hkept⟩, ?_, ?_⟩
  · rw [hresettled.profiles, hprofiles, hbase.profiles, Function.update_idem]
  · intro application hmissing
    rw [hresettled.owner]
    exact hbound application hmissing
  · intro application hmissing
    rw [hresettled.owner, hother application hmissing, hbase.owner]

theorem refuse_state {condition : Bool} {operation reason : String}
    {r : Except DrsError Unit} (h : refuse condition operation reason s = (r, t)) : t = s := by
  unfold refuse at h
  cases condition with
  | true => exact (Prod.mk.inj h).2.symm
  | false => exact (Prod.mk.inj h).2.symm

/-- The checks of a record touch nothing. -/
theorem validateBackup_state {r : Except DrsError Unit}
    (h : validateBackup backup s = (r, t)) : t = s := by
  rcases bind_cases h with ⟨e, hfirst, -⟩ | ⟨_, s₁, hfirst, hrest⟩
  · exact refuse_state hfirst
  rcases bind_cases hrest with ⟨e, hsecond, -⟩ | ⟨_, s₂, hsecond, hthird⟩
  · exact (refuse_state hsecond).trans (refuse_state hfirst)
  · exact (refuse_state hthird).trans ((refuse_state hsecond).trans (refuse_state hfirst))

theorem save_returned {session : Nat} {u : Unit}
    (h : sessionDrs.saveSettings session s = (.ok u, t)) :
    t.saved = s.working ∧ t.working = s.working := by
  obtain ⟨_, s₁, hcall, h⟩ := bind_eq_ok h
  have hsame := drsCall_same hcall
  obtain ⟨-, rfl⟩ := Prod.mk.inj h
  exact ⟨hsame.working, hsame.working⟩

theorem load_returned {session : Nat} {u : Unit}
    (h : sessionDrs.loadSettings session s = (.ok u, t)) : t.saved = s.saved := by
  obtain ⟨_, s₁, hcall, h⟩ := bind_eq_ok h
  have hsame := drsCall_same hcall
  obtain ⟨-, rfl⟩ := Prod.mk.inj h
  exact hsame.saved

theorem reads_verifySettings (session : Nat) (profile : String)
    (settings : List DrsTargetSetting) :
    Reads (verifySettings sessionDrs session profile settings) fun _ _ => True := by
  refine (reads_forEach (P := fun _ _ => True) (fun setting => ?_) settings).post
    fun _ _ _ => trivial
  exact (Reads.bind (reads_readDword session profile setting.id) fun value =>
    reads_refuse _ _ _).post fun _ _ _ => trivial

/-- **An apply that returned** found the captured originals, and saved the policy. -/
theorem apply_returned {report : DrsApplyReport}
    (h : applyCs2Profile sessionDrs backup s = (.ok report, t)) :
    Applied backup s.saved t.saved := by
  obtain ⟨_, s₀, hvalid, hsession⟩ := bind_eq_ok h
  obtain rfl := validateBackup_state hvalid
  rcases withSession_cases hsession with ⟨⟨e, herror⟩, -⟩ | ⟨s₁, r₁, s₂, hran⟩
  · cases herror
  obtain rfl := hran.returned report rfl
  obtain ⟨profile, s₃, hpolicy, hrun⟩ := bind_eq_ok hran.ran
  obtain ⟨⟨-, happlied⟩, -⟩ := works_applyPolicy s₀.created backup _ _ _ hpolicy
  obtain ⟨_, s₄, hsave, hrun⟩ := bind_eq_ok hrun
  obtain ⟨_, s₅, hload, hrun⟩ := bind_eq_ok hrun
  obtain ⟨_, s₆, hverify, hrun⟩ := bind_eq_ok hrun
  obtain ⟨-, rfl⟩ := Prod.mk.inj hrun
  have hsaved : t.saved = s₃.working := by
    rw [hran.saved_end, (reads_verifySettings _ _ _ _ _ _ hverify).2, load_returned hload,
      (save_returned hsave).1]
  rw [hsaved, ← hran.working]
  exact happlied

/-- An apply that returned, or that saved, found the captured originals. -/
theorem unchanged_of_apply {r : Except DrsError DrsApplyReport}
    (h : applyCs2Profile sessionDrs backup s = (r, t))
    (hend : t.saves ≠ s.saves ∨ ∃ report, r = .ok report) : Unchanged backup s.saved := by
  rcases bind_cases h with ⟨e, hvalid, rfl⟩ | ⟨_, s₀, hvalid, hsession⟩
  · obtain rfl := validateBackup_state hvalid
    rcases hend with hsaves | ⟨_, hr⟩
    · exact absurd rfl hsaves
    · cases hr
  obtain rfl := validateBackup_state hvalid
  rcases withSession_cases hsession with ⟨⟨e, rfl⟩, huntouched⟩ | ⟨s₁, r₁, s₂, hran⟩
  · rcases hend with hsaves | ⟨_, hr⟩
    · exact absurd huntouched.saves hsaves
    · cases hr
  rcases bind_cases hran.ran with ⟨e, hpolicy, rfl⟩ | ⟨profile, s₃, hpolicy, -⟩
  · have hsaves : s₂.saves = s₁.saves :=
      (keeps_applyPolicy (saves_frame s₁.saves) s₀.created backup).run rfl hpolicy
    rcases hend with hsaved | ⟨report, rfl⟩
    · exact absurd ((hran.saves_end.trans hsaves).trans hran.saves) hsaved
    · cases hran.returned report rfl
  · obtain ⟨⟨hunchanged, -⟩, -⟩ := works_applyPolicy s₀.created backup _ _ _ hpolicy
    rw [hran.working] at hunchanged
    exact hunchanged

end

end FrametimeCfg.Verified.DrsTransaction
