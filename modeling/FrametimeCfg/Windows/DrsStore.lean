import FrametimeCfg.Windows.Drs

/-!
# The saved profiles and a session on them

The driver keeps profiles of distinct names, each with its DWORD settings, and
registers an application with at most one of them.  A session works on a copy:
loading reads the saved profiles, saving replaces them, and what was not saved
is gone with the session.

`faults` says which of the calls to come fail; a call that fails has no effect.
A profile is named by its name, as no two have the same.
-/

namespace FrametimeCfg.Windows

open FrametimeCfg.Lib.Effect

/-! ## The profiles -/

/-- The profiles, and the profile of each registered application. -/
structure DrsStore where
  profiles : String → Option (UInt32 → Option UInt32)
  owner : String → Option String
  /-- An application is registered with a profile that exists. -/
  owned : ∀ application name, owner application = some name → (profiles name).isSome = true

namespace DrsStore

theorem ext_iff {s t : DrsStore} :
    s = t ↔ s.profiles = t.profiles ∧ s.owner = t.owner := by
  constructor
  · rintro rfl
    exact ⟨rfl, rfl⟩
  · obtain ⟨profiles, owner, howned⟩ := s
    obtain ⟨profiles', owner', howned'⟩ := t
    rintro ⟨rfl, rfl⟩
    rfl

/-- The profile exists. -/
def has (s : DrsStore) (name : String) : Bool := (s.profiles name).isSome

/-- A profile without settings. -/
def emptyProfile : UInt32 → Option UInt32 := fun _ => none

/-- The profiles with one replaced. -/
def withProfile (s : DrsStore) (name : String) (settings : UInt32 → Option UInt32) :
    DrsStore where
  profiles := Function.update s.profiles name (some settings)
  owner := s.owner
  owned application owner h := by
    by_cases hname : owner = name
    · rw [hname, Function.update_self]
      rfl
    · rw [Function.update_of_ne hname]
      exact s.owned application owner h

/-- `DRS_CreateProfile`. -/
def create (s : DrsStore) (name : String) : Option DrsStore :=
  if s.has name then none else some (s.withProfile name emptyProfile)

/-- The profiles with one setting replaced. -/
def withSetting (s : DrsStore) (name : String) (settings : UInt32 → Option UInt32)
    (id : UInt32) (value : Option UInt32) : DrsStore :=
  s.withProfile name (Function.update settings id value)

/-- `DRS_SetSetting`. -/
def set (s : DrsStore) (name : String) (id value : UInt32) : Option DrsStore :=
  (s.profiles name).map fun settings => s.withSetting name settings id (some value)

/-- `DRS_DeleteProfileSetting`. -/
def deleteSetting (s : DrsStore) (name : String) (id : UInt32) : Option DrsStore :=
  match s.profiles name with
  | some settings =>
      if (settings id).isSome then some (s.withSetting name settings id none) else none
  | none => none

/-- The profiles with the owner of one application replaced. -/
def withOwner (s : DrsStore) (application name : String) (h : s.has name = true) :
    DrsStore where
  profiles := s.profiles
  owner := Function.update s.owner application (some name)
  owned other owner hother := by
    by_cases hsame : other = application
    · rw [hsame, Function.update_self] at hother
      rw [← Option.some.inj hother]
      exact h
    · rw [Function.update_of_ne hsame] at hother
      exact s.owned other owner hother

/-- `DRS_CreateApplication`. -/
def bind (s : DrsStore) (name application : String) : Option DrsStore :=
  if h : s.has name = true ∧ s.owner application = none then
    some (s.withOwner application name h.1)
  else none

/-- The profiles with one application unregistered. -/
def withoutOwner (s : DrsStore) (application : String) : DrsStore where
  profiles := s.profiles
  owner := Function.update s.owner application none
  owned other owner hother := by
    by_cases hsame : other = application
    · rw [hsame, Function.update_self] at hother
      cases hother
    · rw [Function.update_of_ne hsame] at hother
      exact s.owned other owner hother

/-- `DRS_DeleteApplication`. -/
def unbind (s : DrsStore) (name application : String) : Option DrsStore :=
  if s.owner application = some name then some (s.withoutOwner application) else none

/-- The profiles without one, and without its applications. -/
def without (s : DrsStore) (name : String) : DrsStore where
  profiles := Function.update s.profiles name none
  owner application := if s.owner application = some name then none else s.owner application
  owned application owner h := by
    split at h
    · cases h
    next hother =>
      have hname : owner ≠ name := by
        rintro rfl
        exact hother h
      rw [Function.update_of_ne hname]
      exact s.owned application owner h

/-- `DRS_DeleteProfile`. -/
def delete (s : DrsStore) (name : String) : Option DrsStore :=
  if s.has name then some (s.without name) else none

/-- The store of a session that has not loaded anything. -/
def empty : DrsStore where
  profiles _ := none
  owner _ := none
  owned _ _ h := by cases h

end DrsStore

/-! ## Sessions -/

/-- The saved profiles, the working copy of the session, and the calls that
fail.  The other fields record what happened: the number of sessions that were
created, the sessions in the order destroying was called for them, and the number
of saves that took effect. -/
structure DrsHost where
  saved : DrsStore
  working : DrsStore := DrsStore.empty
  created : Nat := 0
  destroyed : List Nat := []
  saves : Nat := 0
  faults : List Bool := []

/-- One native call. -/
def drsCall (operation : String) : Prog DrsHost DrsError Unit := fun s =>
  match s.faults with
  | true :: faults => (.error ⟨operation, "status"⟩, { s with faults := faults })
  | false :: faults => (.ok (), { s with faults := faults })
  | [] => (.ok (), s)

/-- A call that reads the working copy. -/
def drsQuery {α : Type} (operation : String) (look : DrsStore → Option α) :
    Prog DrsHost DrsError α := do
  drsCall operation
  let store ← gets DrsHost.working
  require operation "status" (look store)

/-- A call that changes the working copy. -/
def drsChange (operation : String) (change : DrsStore → Option DrsStore) :
    Prog DrsHost DrsError Unit := do
  let next ← drsQuery operation change
  update fun s => { s with working := next }

/-- The adapter. -/
def sessionDrs : NvapiDrs DrsHost Nat String where
  initializeApi := drsCall "NvAPI_Initialize"
  createSession := do
    drsCall "DRS_CreateSession"
    let session ← gets DrsHost.created
    update fun s => { s with created := s.created + 1, working := DrsStore.empty }
    return session
  destroySession session := do
    update fun s =>
      { s with destroyed := s.destroyed ++ [session], working := DrsStore.empty }
    drsCall "DRS_DestroySession"
  loadSettings _ := do
    drsCall "DRS_LoadSettings"
    update fun s => { s with working := s.saved }
  saveSettings _ := do
    drsCall "DRS_SaveSettings"
    update fun s => { s with saved := s.working, saves := s.saves + 1 }
  findProfileByName _ name :=
    drsQuery "DRS_FindProfileByName" fun store =>
      some (if store.has name then some name else none)
  profileName _ profile :=
    drsQuery "DRS_GetProfileInfo" fun store => if store.has profile then some profile else none
  findApplicationProfile _ application :=
    drsQuery "DRS_FindApplicationByName" fun store => some (store.owner application)
  createProfile _ name := do
    drsChange "DRS_CreateProfile" (·.create name)
    return name
  bindApplication _ profile application :=
    drsChange "DRS_CreateApplication" (·.bind profile application)
  deleteApplication _ profile application :=
    drsChange "DRS_DeleteApplication" (·.unbind profile application)
  deleteProfile _ profile := drsChange "DRS_DeleteProfile" (·.delete profile)
  readDword _ profile id :=
    drsQuery "DRS_GetSetting" fun store => (store.profiles profile).map fun settings => settings id
  setDword _ profile id value := drsChange "DRS_SetSetting" (·.set profile id value)
  restoreDword _ profile original :=
    match original.value with
    | some value => drsChange "DRS_SetSetting" (·.set profile original.id value)
    | none => drsChange "DRS_DeleteProfileSetting" (·.deleteSetting profile original.id)

/-! ## What the calls do -/

section

variable {α : Type} {s t : DrsHost} {operation : String}

/-- Two hosts that differ in the faults to come only. -/
structure DrsHost.Same (s t : DrsHost) : Prop where
  saved : t.saved = s.saved
  working : t.working = s.working
  created : t.created = s.created
  destroyed : t.destroyed = s.destroyed
  saves : t.saves = s.saves

theorem drsCall_same {r : Except DrsError Unit} (h : drsCall operation s = (r, t)) :
    s.Same t := by
  obtain ⟨saved, working, created, destroyed, saves, faults⟩ := s
  match faults with
  | [] =>
      obtain ⟨-, rfl⟩ := Prod.mk.inj h
      exact ⟨rfl, rfl, rfl, rfl, rfl⟩
  | false :: faults =>
      obtain ⟨-, rfl⟩ := Prod.mk.inj h
      exact ⟨rfl, rfl, rfl, rfl, rfl⟩
  | true :: faults =>
      obtain ⟨-, rfl⟩ := Prod.mk.inj h
      exact ⟨rfl, rfl, rfl, rfl, rfl⟩

theorem drsQuery_same {look : DrsStore → Option α} {r : Except DrsError α}
    (h : drsQuery operation look s = (r, t)) : s.Same t := by
  rw [drsQuery, bind_apply] at h
  rcases hcall : drsCall operation s with ⟨r', s₁⟩
  have hsame := drsCall_same hcall
  rw [hcall] at h
  cases r' with
  | error e =>
      obtain ⟨-, rfl⟩ := Prod.mk.inj h
      exact hsame
  | ok _ =>
      cases hlook : look s₁.working with
      | none =>
          have h' : (require operation "status" (look s₁.working) : Prog DrsHost DrsError α)
              s₁ = (r, t) := h
          rw [hlook] at h'
          obtain ⟨-, rfl⟩ := Prod.mk.inj h'
          exact hsame
      | some a =>
          have h' : (require operation "status" (look s₁.working) : Prog DrsHost DrsError α)
              s₁ = (r, t) := h
          rw [hlook] at h'
          obtain ⟨-, rfl⟩ := Prod.mk.inj h'
          exact hsame

/-- A query that returned. -/
theorem drsQuery_returned {look : DrsStore → Option α} {a : α}
    (h : drsQuery operation look s = (.ok a, t)) : look s.working = some a ∧ s.Same t := by
  refine ⟨?_, drsQuery_same h⟩
  obtain ⟨_, s₁, hcall, h⟩ := bind_eq_ok h
  have hsame := drsCall_same hcall
  have h' : (require operation "status" (look s₁.working) : Prog DrsHost DrsError α) s₁ =
      (.ok a, t) := h
  rw [hsame.working] at h'
  cases hlook : look s.working with
  | none =>
      rw [hlook] at h'
      cases (Prod.mk.inj h').1
  | some a' =>
      rw [hlook] at h'
      exact congrArg some (Except.ok.inj (Prod.mk.inj h').1)

/-- The host with another working copy. -/
def DrsHost.onWorking (s : DrsHost) (store : DrsStore) : DrsHost :=
  { s with working := store }

/-- A change that returned. -/
theorem drsChange_returned {change : DrsStore → Option DrsStore} {u : Unit}
    (h : drsChange operation change s = (.ok u, t)) :
    ∃ store, change s.working = some store ∧ (s.onWorking store).Same t := by
  obtain ⟨store, s₁, hquery, h⟩ := bind_eq_ok h
  obtain ⟨hstore, hsame⟩ := drsQuery_returned hquery
  obtain ⟨-, rfl⟩ := Prod.mk.inj h
  exact ⟨store, hstore, ⟨hsame.saved, rfl, hsame.created, hsame.destroyed, hsame.saves⟩⟩

end

end FrametimeCfg.Windows
