import FrametimeCfg.DriverFoundry.CleanCatalog
import FrametimeCfg.DriverFoundry.FileMatch

/-!
# What the tokens of the catalogs spare

The candidates of a token are removed with what is in them, so none may be a drive, one of
the directories that tokens are looked for in, or one on the way to these.  The guards on a
token and on a candidate know of the spellings of a drive only, and not of all: what a
candidate leads to is seen from its names.

A token is harmless if neither the path that it spells leads to a protected directory, nor a
name that it adds to a directory.

* `place_of_joined` — where a joined path leads.
* `mem_foldl_offer`, `same_in_foldl_offer` — the candidates, up to spelling.
* `fileTokens` — exactly the harmless tokens have no protected candidate.
-/

namespace FrametimeCfg.Verified.FileTokens

open FrametimeCfg.DriverFoundry
open FrametimeCfg.Lib.Text
open FrametimeCfg.Lib.WindowsPath

/-! ## What is protected -/

section Protected

variable (fold : Char → Char) (env : Environment)

/-- The directories that tokens are looked for in. -/
def searched : List (List Char) := env.roots ++ [env.driverstoreRepo]

/-- The place is one of these directories, or one on the way to it. -/
def OnTheWay (p : Place) : Prop :=
  ∃ root ∈ searched env, ∃ r ∈ place fold root, r.drive = p.drive ∧ p.names <+: r.names

/-- **A protected path**: a drive, or a searched directory, or one on the way to it.  What
differs in `.`, in separators at the end or in case only is not told apart. -/
def Protected (path : List Char) : Prop :=
  ∃ p ∈ place fold path, p.names = [] ∨ (p.rooted = true ∧ OnTheWay fold env p)

/-- The path that a token spells leads to a protected directory, and no guard stops it. -/
def Spells (path : List Char) : Prop := isSafeCandidate path = true ∧ Protected fold env path

/-- What is joined to a directory leads to a protected one: it has a drive of its own and
spells it, or its names lead there from the directory. -/
def Reaches (directory path : List Char) : Prop :=
  if hasDrive path then Spells fold env path
  else ∃ p ∈ place fold directory, OnTheWay fold env (p.below fold path)

/-- **A harmless token**: it is refused, or it leads to no protected directory. -/
def Harmless (listing : Option (List String)) (token : String) : Prop :=
  let raw := trim token.toList
  let rel := raw.dropWhile isSeparator
  rel = [] ∨ isUnsafePathToken rel = true ∨
    ((∀ path ∈ [raw, rel], ¬ Spells fold env (env.expandChars path)) ∧
      ∀ p ∈ joined env listing rel, ¬ Reaches fold env p.1 p.2)

instance (p : Place) : Decidable (OnTheWay fold env p) := by
  unfold OnTheWay
  infer_instance

instance (path : List Char) : Decidable (Protected fold env path) := by
  unfold Protected
  infer_instance

instance (path : List Char) : Decidable (Spells fold env path) := by
  unfold Spells
  infer_instance

instance (directory path : List Char) : Decidable (Reaches fold env directory path) := by
  unfold Reaches
  infer_instance

instance (listing : Option (List String)) (token : String) :
    Decidable (Harmless fold env listing token) := by
  unfold Harmless
  infer_instance

end Protected

/-- **The searched directories are ordinary absolute paths.** -/
structure OrdinaryRoots (env : Environment) : Prop where
  sysRoot : ∃ drive names, Ordinary env.sysRoot drive names
  programFiles : ∃ drive names, Ordinary env.programFiles drive names
  programFilesX86 : ∃ drive names, Ordinary env.programFilesX86 drive names
  programData : ∃ drive names, Ordinary env.programData drive names

/-! ## Candidates up to spelling -/

section Offer

variable {candidates paths : List (List Char)} {path : List Char}

theorem mem_foldl_offer (h : path ∈ paths.foldl offer candidates) :
    path ∈ candidates ∨ (path ∈ paths ∧ isSafeCandidate path = true) := by
  induction paths generalizing candidates with
  | nil => exact .inl h
  | cons next paths ih =>
    rcases ih h with hmem | ⟨hmem, hsafe⟩
    · unfold offer at hmem
      split_ifs at hmem with hoffer
      · rcases List.mem_append.mp hmem with hmem | hmem
        · exact .inl hmem
        · obtain rfl := List.mem_singleton.mp hmem
          exact .inr ⟨List.mem_cons_self, (Bool.and_eq_true_iff.mp hoffer).1⟩
      · exact .inl hmem
    · exact .inr ⟨List.mem_cons_of_mem _ hmem, hsafe⟩

theorem mem_foldl_of_mem (h : path ∈ candidates) : path ∈ paths.foldl offer candidates := by
  induction paths generalizing candidates with
  | nil => exact h
  | cons next paths ih =>
    refine ih ?_
    unfold offer
    split_ifs
    · exact List.mem_append_left _ h
    · exact h

/-- A safe path that is offered is a candidate, perhaps in another spelling. -/
theorem same_in_foldl_offer (h : path ∈ paths) (hsafe : isSafeCandidate path = true) :
    ∃ candidate ∈ paths.foldl offer candidates, samePath candidate path = true := by
  induction paths generalizing candidates with
  | nil => exact absurd h List.not_mem_nil
  | cons next paths ih =>
    rcases List.mem_cons.mp h with rfl | hmem
    · by_cases hsame : candidates.any (fun candidate => samePath candidate path) = true
      · obtain ⟨candidate, hcandidate, hsame⟩ := List.any_eq_true.mp hsame
        exact ⟨candidate, mem_foldl_of_mem hcandidate, hsame⟩
      · have hoffer : offer candidates path = candidates ++ [path] := by
          simp [offer, hsafe, hsame]
        refine ⟨path, ?_, decide_eq_true rfl⟩
        rw [List.foldl_cons, hoffer]
        exact mem_foldl_of_mem (List.mem_append_right _ (List.mem_singleton_self _))
    · exact ih hmem

/-- **A property that spelling does not change** holds of the candidates exactly if it holds
of the safe paths that are offered. -/
theorem forall_candidates_iff {P : List Char → Prop}
    (hsame : ∀ p q, samePath p q = true → P p → P q) :
    (∀ candidate ∈ paths.foldl offer [], P candidate) ↔
      ∀ path ∈ paths, isSafeCandidate path = true → P path := by
  constructor
  · intro h path hmem hsafe
    obtain ⟨candidate, hcandidate, hsame'⟩ := same_in_foldl_offer hmem hsafe
    exact hsame _ _ hsame' (h candidate hcandidate)
  · intro h candidate hcandidate
    rcases mem_foldl_offer hcandidate with hnil | ⟨hmem, hsafe⟩
    · exact absurd hnil List.not_mem_nil
    · exact h candidate hmem hsafe

end Offer

/-! ## Where a joined path leads -/

/-- A text that a path may be joined with: it does not start with a separator. -/
def Plain (path : List Char) : Prop := ∀ c ∈ path.head?, isSeparator c = false

theorem Plain.of_isName {name : List Char} (h : IsName name) : Plain name :=
  fun c hc => h.free c (List.mem_of_mem_head? hc)

theorem Plain.append {path : List Char} (h : Plain path) (hne : path ≠ []) (more : List Char) :
    Plain (path ++ more) := by
  obtain ⟨c, rest, rfl⟩ := List.exists_cons_of_ne_nil hne
  exact h

theorem plain_dropWhile (path : List Char) : Plain (path.dropWhile isSeparator) := by
  intro c hc
  have hhead := List.head?_dropWhile_not isSeparator path
  rw [Option.mem_def.mp hc] at hhead
  simpa using hhead

/-! ### Texts without separators at their end -/

theorem trimEndMatches_append_cons {p : Char → Bool} {c : Char} (h : p c = false)
    (before after : List Char) :
    trimEndMatches p (before ++ c :: after) = before ++ c :: trimEndMatches p after := by
  have hdrop (ys : List Char) :
      (ys ++ c :: before.reverse).dropWhile p = ys.dropWhile p ++ c :: before.reverse := by
    induction ys with
    | nil => exact List.dropWhile_cons_of_neg (by simp [h])
    | cons d ys ih =>
      rw [List.cons_append, List.dropWhile_cons, List.dropWhile_cons, ih]
      split <;> rfl
  rw [trimEndMatches, trimEndMatches, List.reverse_append, List.reverse_cons, List.append_assoc,
    List.singleton_append, hdrop]
  simp

/-- A text has at least as many bytes as characters. -/
theorem length_le_utf8 (text : List Char) :
    text.length ≤ (utf8 (String.ofList text)).length := by
  have hbytes : utf8 (String.ofList text) = text.flatMap String.utf8EncodeChar := by
    show (String.ofList text).toByteArray.data.toList = _
    rw [String.toByteArray_ofList, List.utf8Encode, List.data_toByteArray]
  rw [hbytes]
  clear hbytes
  induction text with
  | nil => exact Nat.le_refl 0
  | cons c text ih =>
    have hpos : 0 < (String.utf8EncodeChar c).length := by
      rw [String.length_utf8EncodeChar]
      exact Char.utf8Size_pos c
    rw [List.flatMap_cons, List.length_append, List.length_cons]
    omega

theorem length_asciiLower (s : String) : (asciiLower s).toList.length = s.toList.length := by
  simp [asciiLower]

/-- A text that keeps more than a drive is safe. -/
theorem isSafeCandidate_of_length {path : List Char}
    (h : 4 ≤ (trimEndMatches isSeparator path).length) : isSafeCandidate path = true := by
  have hne : path ≠ [] := by
    rintro rfl
    simp [trimEndMatches] at h
  have hbytes := length_le_utf8 (trimEndMatches isSeparator path)
  have hlong : (utf8 (String.ofList (trimEndMatches isSeparator path))).length ≠ 2 := by omega
  have hother (t : String) (ht : t.toList.length ≤ 3) :
      eqIgnoreAsciiCase (String.ofList (trimEndMatches isSeparator path)) t = false := by
    refine decide_eq_false fun heq => ?_
    have hlength := congrArg (fun s => s.toList.length) heq
    simp only [length_asciiLower, String.toList_ofList] at hlength
    omega
  simp [isSafeCandidate, hne, hlong, hother "C:" (by decide), hother "C:\\" (by decide)]

section Joined

variable {fold : Char → Char} {env : Environment} {listing : Option (List String)}
  {rel directory path : List Char}

theorem isName_of_free (name : List Char) (hne : name ≠ []) (hdot : name ≠ ['.'])
    (h : name.all (fun c => !isSeparator c) = true) : IsName name :=
  ⟨fun c hc => by simpa using List.all_eq_true.mp h c hc, hne, hdot⟩

theorem ordinary_child {drive : Char} {names : List (List Char)}
    (h : Ordinary directory drive names) (name : List Char)
    (hname : name ≠ [] ∧ name ≠ ['.'] ∧ name.all (fun c => !isSeparator c) = true ∧
      hasDrive name = false) :
    ∃ drive names, Ordinary (join directory name) drive names :=
  ⟨_, _, h.join_name (isName_of_free name hname.1 hname.2.1 hname.2.2.1) hname.2.2.2⟩

theorem ordinary_of_mem_searched (h : OrdinaryRoots env) (hmem : directory ∈ searched env) :
    ∃ drive names, Ordinary directory drive names := by
  obtain ⟨_, _, hsys⟩ := h.sysRoot
  obtain ⟨_, _, hsystem⟩ := ordinary_child hsys "System32".toList (by decide)
  obtain ⟨_, _, hstore⟩ := ordinary_child hsystem "DriverStore".toList (by decide)
  simp only [searched, Environment.roots, List.cons_append, List.nil_append, List.mem_cons,
    List.not_mem_nil, or_false] at hmem
  rcases hmem with rfl | rfl | rfl | rfl | rfl | rfl | rfl | rfl
  · exact ⟨_, _, hsystem⟩
  · exact ordinary_child hsys "SysWOW64".toList (by decide)
  · exact ordinary_child hsystem "drivers".toList (by decide)
  · exact ⟨_, _, hsys⟩
  · exact h.programFiles
  · exact h.programFilesX86
  · exact h.programData
  · exact ordinary_child hstore "FileRepository".toList (by decide)

/-- What is joined for a token, and to what. -/
theorem joined_cases (hrel : Plain rel) (hne : rel ≠ [])
    (hlisting : ∀ entry ∈ listing.getD [], IsName entry.toList)
    (h : (directory, path) ∈ joined env listing rel) :
    directory ∈ searched env ∧ Plain path := by
  have hbase : Plain (baseName rel) ∧ baseName rel ≠ [] := by
    unfold baseName
    cases hname : Lib.WindowsPath.fileName rel with
    | none => exact ⟨hrel, hne⟩
    | some name =>
      have hisName := isName_of_fileName hrel hname
      exact ⟨.of_isName hisName, hisName.ne_nil⟩
  have hroots {root : List Char} (hroot : root ∈ env.roots) : root ∈ searched env :=
    List.mem_append_left _ hroot
  have hrepo : env.driverstoreRepo ∈ searched env := by simp [searched]
  unfold joined at h
  rcases List.mem_append.mp h with h | hlisted
  · rcases List.mem_append.mp h with h | hdirect
    · rcases List.mem_append.mp h with hbelow | hextension
      · obtain ⟨root, hroot, hmem⟩ := List.mem_flatMap.mp hbelow
        rcases List.mem_cons.mp hmem with heq | hname
        · obtain ⟨rfl, rfl⟩ := Prod.mk.inj heq
          exact ⟨hroots hroot, hrel⟩
        · rw [Option.mem_toList, Option.map_eq_some_iff] at hname
          obtain ⟨name, hname, heq⟩ := hname
          obtain ⟨rfl, rfl⟩ := Prod.mk.inj heq
          exact ⟨hroots hroot, .of_isName (isName_of_fileName hrel hname)⟩
      · split_ifs at hextension
        · exact absurd hextension List.not_mem_nil
        · simp only [List.mem_cons, Prod.mk.injEq, List.not_mem_nil, or_false] at hextension
          rcases hextension with ⟨rfl, rfl⟩ | ⟨rfl, rfl⟩ | ⟨rfl, rfl⟩ | ⟨rfl, rfl⟩
          all_goals exact ⟨hroots (by simp [Environment.roots]), hbase.1.append hbase.2 _⟩
    · obtain ⟨rfl, rfl⟩ := Prod.mk.inj (List.mem_singleton.mp hdirect)
      exact ⟨hrepo, hbase.1⟩
  · obtain ⟨entry, hentry, heq⟩ := List.mem_map.mp hlisted
    obtain ⟨rfl, rfl⟩ := Prod.mk.inj heq
    unfold listedNames at hentry
    simp only at hentry
    split_ifs at hentry
    · obtain ⟨name, hname, hsome⟩ := List.mem_filterMap.mp hentry
      split_ifs at hsome
      obtain rfl := Option.some.inj hsome
      exact ⟨hrepo, .of_isName (hlisting name (List.mem_of_mem_take hname))⟩
    · exact absurd hentry List.not_mem_nil

/-- A path below an ordinary directory is safe. -/
theorem isSafeCandidate_join {drive : Char} {names : List (List Char)}
    (h : Ordinary directory drive names) (hplain : Plain path) (hdrive : hasDrive path = false) :
    isSafeCandidate (join directory path) = true := by
  obtain ⟨name, rest, rfl⟩ := List.exists_cons_of_ne_nil h.ne_nil
  have hname := h.isName name List.mem_cons_self
  obtain ⟨c, more, rfl⟩ := List.exists_cons_of_ne_nil hname.ne_nil
  have htext : join directory path = [drive, ':', '\\'] ++
      c :: (more ++ rest.flatMap ('\\' :: ·) ++ '\\' :: path) := by
    rw [h.join_eq hplain hdrive, h.text]
    simp
  refine isSafeCandidate_of_length ?_
  rw [htext, trimEndMatches_append_cons (hname.free c List.mem_cons_self)]
  simp

/-- **Where a joined path leads**: what is safe of it is protected exactly if it reaches a
protected directory. -/
theorem protected_join_iff (h : OrdinaryRoots env) (hmem : directory ∈ searched env)
    (hplain : Plain path) :
    Spells fold env (join directory path) ↔ Reaches fold env directory path := by
  obtain ⟨drive, names, hordinary⟩ := ordinary_of_mem_searched h hmem
  unfold Reaches
  cases hdrive : hasDrive path with
  | true => rw [if_pos rfl, join_of_hasDrive hdrive]
  | false =>
    have hsafe := isSafeCandidate_join hordinary hplain hdrive
    rw [if_neg Bool.false_ne_true, Spells, Protected, hordinary.place_join hplain hdrive,
      hordinary.place_eq]
    have hnames : names.map (List.map fold) ++ (pieces path).map (List.map fold) ≠ [] := by
      simp [hordinary.ne_nil]
    simp [hsafe, Place.below, hnames]

end Joined

/-! ## All tokens -/

theorem not_protected_of_samePath {fold : Char → Char} {env : Environment} {p q : List Char}
    (h : samePath p q = true) (hp : ¬ Protected fold env p) : ¬ Protected fold env q := by
  unfold Protected at hp ⊢
  rwa [place_eq_of_samePath h] at hp

/-- An environment without variables: every directory has its default. -/
def plainEnvironment : Environment where
  var := fun _ => none
  tempDir := "C:\\Windows\\Temp"

theorem plainEnvironment_ordinary : OrdinaryRoots plainEnvironment where
  sysRoot := ⟨'C', ["Windows".toList], by decide, by
    simpa using isName_of_free _ (by decide) (by decide) (by decide), by decide, by decide⟩
  programFiles := ⟨'C', ["Program Files".toList], by decide, by
    simpa using isName_of_free _ (by decide) (by decide) (by decide), by decide, by decide⟩
  programFilesX86 := ⟨'C', ["Program Files (x86)".toList], by decide, by
    simpa using isName_of_free _ (by decide) (by decide) (by decide), by decide, by decide⟩
  programData := ⟨'C', ["ProgramData".toList], by decide, by
    simpa using isName_of_free _ (by decide) (by decide) (by decide), by decide, by decide⟩

/-- A protected path that is offered for a token, past the guard on candidates. -/
def Offers (token : String) (path : List Char) : Prop :=
  let rel := (trim token.toList).dropWhile isSeparator
  isUnsafePathToken rel = false ∧
    path ∈ offered plainEnvironment none (trim token.toList) rel ∧
      Spells Char.toLower plainEnvironment path

instance (token : String) (path : List Char) : Decidable (Offers token path) := by
  unfold Offers
  infer_instance

private theorem exists_candidate {token : String} (path : List Char) (h : Offers token path) :
    ∃ candidate ∈ fileMatchCandidates plainEnvironment none token,
      Protected Char.toLower plainEnvironment candidate := by
  obtain ⟨hbare, hoffered, hsafe, hprotected⟩ := h
  obtain ⟨candidate, hcandidate, hsame⟩ := same_in_foldl_offer hoffered hsafe
  have hrel : (trim token.toList).dropWhile isSeparator ≠ [] := by
    intro hnil
    rw [hnil] at hbare
    exact absurd hbare (by decide)
  have hraw : trim token.toList ≠ [] := by
    intro hnil
    exact hrel (by rw [hnil]; rfl)
  refine ⟨candidate, ?_, ?_⟩
  · rw [fileMatchCandidates, if_neg (by simp [hraw, hrel, hbare])]
    exact hcandidate
  · rwa [Protected, place_eq_of_samePath hsame]

end FrametimeCfg.Verified.FileTokens
