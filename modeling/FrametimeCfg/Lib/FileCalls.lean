import FrametimeCfg.Lib.Effect
import Mathlib.Data.List.Nodup
import Mathlib.Logic.Function.Basic

/-!
# Files and the calls that may fail

A store of files under paths of any type.  Each call of a program is answered
in turn: it does what it was asked for, or the fault that is due interferes.  A
call that fails may leave anything behind under its own path, and a write may
report success and still have stored something else.  What no fault does is
answer a read with other bytes than those stored, or say that a file is missing
that is there.

A program `Reaches` a content of a path when each normal return leaves that
content there and no run of it changes another path.  A write that is read back
reaches what it wrote, whatever happens to the calls, and a loop of such
programs over different paths reaches all of their contents.
-/

namespace FrametimeCfg.Lib.FileCalls

open FrametimeCfg.Lib.Effect

abbrev Bytes := List UInt8

/-- `io::ErrorKind`, as far as callers tell errors apart. -/
inductive ErrorKind where
  | notFound
  | alreadyExists
  | permissionDenied
  | other
  deriving DecidableEq, Repr

/-- What goes wrong in one call. -/
inductive Fault where
  | fails (kind : ErrorKind) (present : kind ≠ .notFound) (left : Option Bytes)
  | distorts (left : Option Bytes)

/-- The files, and the faults of the calls to come. -/
structure Files (P : Type) where
  content : P → Option Bytes
  faults : List (Option Fault) := []

variable {P ε ε' α β ι : Type}

namespace Files

/-- The files after one answer. -/
def next (s : Files P) : Files P := { s with faults := s.faults.tail }

/-- The fault of the next call. -/
def fault (s : Files P) : Option Fault := s.faults.head?.join

/-- The same files under other faults. -/
def armed (s : Files P) (faults : List (Option Fault)) : Files P :=
  { s with faults := faults }

@[simp] theorem next_content (s : Files P) : s.next.content = s.content := rfl

@[simp] theorem armed_content (s : Files P) (faults : List (Option Fault)) :
    (s.armed faults).content = s.content := rfl

@[simp] theorem armed_faults (s : Files P) (faults : List (Option Fault)) :
    (s.armed faults).faults = faults := rfl

theorem fault_quiet {s : Files P} (h : s.faults = []) : s.fault = none := by
  simp [fault, h]

theorem next_quiet {s : Files P} (h : s.faults = []) : s.next.faults = [] := by
  simp [next, h]

section

variable [DecidableEq P]

/-- One path with another content. -/
def put (s : Files P) (path : P) (content : Option Bytes) : Files P :=
  { s with content := Function.update s.content path content }

@[simp] theorem put_self (s : Files P) (path : P) (content : Option Bytes) :
    (s.put path content).content path = content := by
  simp [put]

theorem put_ne (s : Files P) {path q : P} (content : Option Bytes) (h : q ≠ path) :
    (s.put path content).content q = s.content q := by
  simp [put, h]

@[simp] theorem put_faults (s : Files P) (path : P) (content : Option Bytes) :
    (s.put path content).faults = s.faults := rfl

end

end Files

/-! ## Calls -/

/-- A call that changes no file. -/
def touch : Prog (Files P) ErrorKind Unit := fun s =>
  match s.fault with
  | some (.fails kind _ _) => (.error kind, s.next)
  | _ => (.ok (), s.next)

/-- Read a whole file. -/
def readFile (path : P) : Prog (Files P) ErrorKind Bytes := fun s =>
  match s.fault, s.content path with
  | some (.fails kind _ _), _ => (.error kind, s.next)
  | _, some bytes => (.ok bytes, s.next)
  | _, none => (.error .notFound, s.next)

section

variable [DecidableEq P]

/-- A call that is meant to give `path` the content of `outcome`. -/
def store (path : P) (outcome : Option Bytes → Except ErrorKind (Option Bytes)) :
    Prog (Files P) ErrorKind Unit := fun s =>
  match s.fault with
  | some (.fails kind _ left) => (.error kind, s.next.put path left)
  | some (.distorts left) => (.ok (), s.next.put path left)
  | none =>
      match outcome (s.content path) with
      | .ok content => (.ok (), s.next.put path content)
      | .error kind => (.error kind, s.next)

/-- Create a file that does not exist yet. -/
def createFileNew (path : P) (bytes : Bytes) : Prog (Files P) ErrorKind Unit :=
  store path fun
    | some _ => .error .alreadyExists
    | none => .ok (some bytes)

/-- Put new bytes in place of what is there. -/
def atomicReplace (path : P) (bytes : Bytes) : Prog (Files P) ErrorKind Unit :=
  store path fun _ => .ok (some bytes)

/-- Delete a file. -/
def removeFile (path : P) : Prog (Files P) ErrorKind Unit :=
  store path fun
    | some _ => .ok none
    | none => .error .notFound

end

/-! ## What a program changes -/

/-- No run of `m` changes a path outside `paths`. -/
def Changes (paths : P → Prop) (m : Prog (Files P) ε α) : Prop :=
  ∀ s r t, m s = (r, t) → ∀ p, ¬ paths p → t.content p = s.content p

section

variable {paths paths' : P → Prop}

theorem Changes.mono {m : Prog (Files P) ε α} (h : Changes paths m)
    (hsub : ∀ p, paths p → paths' p) : Changes paths' m := by
  intro s r t hrun p hp
  exact h s r t hrun p fun hmem => hp (hsub p hmem)

theorem changes_ofExcept (r : Except ε α) :
    Changes paths (ofExcept r : Prog (Files P) ε α) := by
  intro s r' t h p _
  obtain ⟨-, rfl⟩ := Prod.mk.inj h
  rfl

theorem changes_pure (a : α) : Changes paths (pure a : Prog (Files P) ε α) :=
  changes_ofExcept (.ok a)

theorem changes_raise (e : ε) : Changes paths (raise e : Prog (Files P) ε α) :=
  changes_ofExcept (.error e)

theorem Changes.bind {m : Prog (Files P) ε α} {k : α → Prog (Files P) ε β}
    (hm : Changes paths m) (hk : ∀ a, Changes paths (k a)) : Changes paths (m >>= k) := by
  intro s r t h p hp
  rcases bind_cases h with ⟨e, hfirst, -⟩ | ⟨a, s₁, hfirst, hrest⟩
  · exact hm s _ t hfirst p hp
  · rw [hk a s₁ r t hrest p hp, hm s _ s₁ hfirst p hp]

/-- A program that changes no path. -/
theorem Changes.same {m : Prog (Files P) ε α} (h : Changes (fun _ => False) m)
    {s t : Files P} {r : Except ε α} (hrun : m s = (r, t)) : t.content = s.content :=
  funext fun p => h s r t hrun p id

/-- A program after a computed outcome. -/
theorem Changes.ofExcept_bind {r : Except ε α} {k : α → Prog (Files P) ε β}
    (h : ∀ a, r = .ok a → Changes paths (k a)) : Changes paths (ofExcept r >>= k) := by
  cases r with
  | ok a => exact h a rfl
  | error e => exact changes_raise e

theorem Changes.attempt {m : Prog (Files P) ε α} (hm : Changes paths m) :
    Changes paths (attempt m : Prog (Files P) ε' (Except ε α)) := by
  intro s r t h
  exact hm s _ t (congrArg (Prod.mk (m s).1) (Prod.mk.inj h).2)

theorem Changes.relabel {m : Prog (Files P) ε α} (hm : Changes paths m) (f : ε → ε') :
    Changes paths (relabel f m) := by
  intro s r t h
  rw [Lib.Effect.relabel] at h
  rcases hrun : m s with ⟨r', t'⟩
  rw [hrun] at h
  have ht : t' = t := by
    cases r' with
    | ok a => exact (Prod.mk.inj h).2
    | error e => exact (Prod.mk.inj h).2
  exact hm s r' t (ht ▸ hrun)

theorem Changes.forEach {body : ι → Prog (Files P) ε Unit} {l : List ι}
    (h : ∀ i ∈ l, Changes paths (body i)) : Changes paths (forEach body l) := by
  induction l with
  | nil => exact changes_pure ()
  | cons i l ih =>
      have hhead : Changes paths (body i) := h i (by simp)
      exact hhead.bind fun _ => ih fun j hj => h j (by simp [hj])

theorem changes_touch : Changes paths (touch : Prog (Files P) ErrorKind Unit) := by
  intro s r t h p _
  unfold touch at h
  split at h <;> obtain ⟨-, rfl⟩ := Prod.mk.inj h <;> rfl

theorem changes_readFile (path : P) : Changes paths (readFile path) := by
  intro s r t h p _
  unfold readFile at h
  split at h <;> obtain ⟨-, rfl⟩ := Prod.mk.inj h <;> rfl

variable [DecidableEq P]

theorem changes_store (path : P)
    (outcome : Option Bytes → Except ErrorKind (Option Bytes)) :
    Changes (· = path) (store path outcome) := by
  intro s r t h p hp
  have hput : ∀ content, (s.next.put path content).content p = s.content p :=
    fun content => s.next.put_ne content hp
  unfold store at h
  split at h
  · obtain ⟨-, rfl⟩ := Prod.mk.inj h
    exact hput _
  · obtain ⟨-, rfl⟩ := Prod.mk.inj h
    exact hput _
  · split at h
    · obtain ⟨-, rfl⟩ := Prod.mk.inj h
      exact hput _
    · obtain ⟨-, rfl⟩ := Prod.mk.inj h
      rfl

end

/-! ## What a read tells -/

/-- A read that returned shows what is stored. -/
theorem readFile_ok {path : P} {s t : Files P} {bytes : Bytes}
    (h : readFile path s = (.ok bytes, t)) : s.content path = some bytes := by
  unfold readFile at h
  split at h
  · cases (Prod.mk.inj h).1
  · rename_i hcontent _
    obtain ⟨hbytes, -⟩ := Prod.mk.inj h
    rw [hcontent, Except.ok.inj hbytes]
  · cases (Prod.mk.inj h).1

/-- A file that a read did not find does not exist. -/
theorem readFile_notFound {path : P} {s t : Files P}
    (h : readFile path s = (.error .notFound, t)) : s.content path = none := by
  unfold readFile at h
  split at h
  · rename_i present _ _
    exact absurd (Except.error.inj (Prod.mk.inj h).1) present
  · cases (Prod.mk.inj h).1
  · assumption

/-! ## Calls without faults -/

theorem readFile_quiet (path : P) {s : Files P} (h : s.faults = []) :
    readFile path s = (match s.content path with
      | some bytes => .ok bytes
      | none => .error .notFound, s.next) := by
  unfold readFile
  rw [Files.fault_quiet h]
  cases s.content path <;> rfl

section

variable [DecidableEq P]

theorem atomicReplace_quiet (path : P) (bytes : Bytes) {s : Files P} (h : s.faults = []) :
    atomicReplace path bytes s = (.ok (), s.next.put path (some bytes)) := by
  unfold atomicReplace store
  rw [Files.fault_quiet h]

/-- Afterwards there is no file, whether there was one or not. -/
theorem removeFile_quiet (path : P) {s : Files P} (h : s.faults = []) :
    ∃ r t, removeFile path s = (r, t) ∧ (r = .ok () ∨ r = .error .notFound) ∧
      t.content path = none ∧ t.faults = [] := by
  unfold removeFile store
  rw [Files.fault_quiet h]
  cases hcontent : s.content path with
  | some bytes => exact ⟨_, _, rfl, .inl rfl, by simp, Files.next_quiet h⟩
  | none => exact ⟨_, _, rfl, .inr rfl, hcontent, Files.next_quiet h⟩

end

/-! ## Contents that are reached -/

/-- A normal return leaves `content` under `path`, and no run changes another path. -/
structure Reaches (m : Prog (Files P) ε α) (path : P) (content : Option Bytes) : Prop where
  others : Changes (· = path) m
  reached : ∀ s a t, m s = (.ok a, t) → t.content path = content

/-- Without faults the program returns. -/
def Returns (m : Prog (Files P) ε α) : Prop :=
  ∀ s, s.faults = [] → ∃ a t, m s = (.ok a, t) ∧ t.faults = []

section

variable {body : ι → Prog (Files P) ε Unit} {path : ι → P} {want : ι → Option Bytes}

/-- A loop changes the paths of its bodies. -/
theorem changes_forEach (hbody : ∀ i, Reaches (body i) (path i) (want i)) (l : List ι) :
    Changes (· ∈ l.map path) (forEach body l) := by
  refine Changes.forEach fun i hi => (hbody i).others.mono ?_
  rintro p rfl
  exact List.mem_map_of_mem hi

/-- **A loop reaches the contents of its bodies.**  Their paths are different, so
that no body undoes what an earlier one reached. -/
theorem forEach_reaches (hbody : ∀ i, Reaches (body i) (path i) (want i)) {l : List ι}
    (hpaths : (l.map path).Nodup) {s t : Files P} (h : forEach body l s = (.ok (), t)) :
    ∀ i ∈ l, t.content (path i) = want i := by
  induction l generalizing s with
  | nil => intro i hi; cases hi
  | cons i l ih =>
      rw [List.map_cons, List.nodup_cons] at hpaths
      obtain ⟨hfresh, hrest⟩ := hpaths
      obtain ⟨_, s₁, hhead, htail⟩ := bind_eq_ok h
      intro j hj
      rcases List.mem_cons.mp hj with rfl | hj
      · rw [changes_forEach hbody l s₁ _ t htail (path j) hfresh]
        exact (hbody j).reached s _ s₁ hhead
      · exact ih hrest htail j hj

/-- Each body of a loop that ended began with its own path as it was at first. -/
theorem forEach_began (hbody : ∀ i, Reaches (body i) (path i) (want i)) {l : List ι}
    (hpaths : (l.map path).Nodup) {s t : Files P} (h : forEach body l s = (.ok (), t)) :
    ∀ i ∈ l, ∃ s' t', body i s' = (.ok (), t') ∧ s'.content (path i) = s.content (path i) := by
  induction l generalizing s with
  | nil => intro i hi; cases hi
  | cons i l ih =>
      rw [List.map_cons, List.nodup_cons] at hpaths
      obtain ⟨hfresh, hrest⟩ := hpaths
      obtain ⟨_, s₁, hhead, htail⟩ := bind_eq_ok h
      intro j hj
      rcases List.mem_cons.mp hj with rfl | hj
      · exact ⟨s, s₁, hhead, rfl⟩
      · obtain ⟨s', t', hrun, hsame⟩ := ih hrest htail j hj
        have hne : path j ≠ path i := by
          intro heq
          exact hfresh (heq ▸ List.mem_map_of_mem hj)
        exact ⟨s', t', hrun, hsame.trans ((hbody i).others s _ s₁ hhead (path j) hne)⟩

theorem forEach_returns {l : List ι} (hbody : ∀ i ∈ l, Returns (body i)) :
    Returns (forEach body l) := by
  induction l with
  | nil => exact fun s hs => ⟨(), s, rfl, hs⟩
  | cons i l ih =>
      intro s hs
      obtain ⟨_, s₁, hhead, hs₁⟩ := hbody i (by simp) s hs
      obtain ⟨_, t, htail, ht⟩ := ih (fun j hj => hbody j (by simp [hj])) s₁ hs₁
      exact ⟨_, t, (bind_apply_ok hhead).trans htail, ht⟩

end

end FrametimeCfg.Lib.FileCalls
