import FrametimeCfg.Lib.Splitting

/-!
# Windows paths

A path is a text.  It may start with a prefix (a drive, a server and its share, a device, or
the verbatim form of one), go on with a root, and then has its parts, between separators.
Empty parts and `.` do not count, except at the start of a path without prefix and root and
in a verbatim one, and paths are compared by their components, not as texts.

A path on a drive lies at a place: the drive, whether it starts at the root, and the names
that lead there, in one case.  A path is joined below a place by adding its names
(`place_join`), unless it has a prefix of its own.
-/

namespace FrametimeCfg.Lib.WindowsPath

open FrametimeCfg.Lib.Text

/-! ## Parts -/

/-- `path::is_separator`. -/
def isSeparator (c : Char) : Bool := c = '\\' || c = '/'

/-- The parts of a path that count. -/
def pieces (path : List Char) : List (List Char) :=
  (splitAt isSeparator path).filter fun piece => piece ≠ [] && piece ≠ ['.']

theorem pieces_append {c : Char} (h : isSeparator c = true) (before after : List Char) :
    pieces (before ++ c :: after) = pieces before ++ pieces after := by
  rw [pieces, splitAt_append h, List.filter_append]
  rfl

theorem pieces_cons {c : Char} (h : isSeparator c = true) (path : List Char) :
    pieces (c :: path) = pieces path := pieces_append h [] path

/-- A text that is one part of a path. -/
structure IsName (name : List Char) : Prop where
  free : ∀ c ∈ name, isSeparator c = false
  ne_nil : name ≠ []
  ne_dot : name ≠ ['.']

theorem IsName.pieces_eq {name : List Char} (h : IsName name) : pieces name = [name] := by
  rw [pieces, splitAt_of_free h.free]
  simp [h.ne_nil, h.ne_dot]

/-- The parts of a path are names. -/
theorem isName_of_mem_pieces {path name : List Char} (h : name ∈ pieces path) : IsName name := by
  obtain ⟨hmem, hcounts⟩ := List.mem_filter.mp h
  rw [Bool.and_eq_true] at hcounts
  refine ⟨?_, by simpa using hcounts.1, by simpa using hcounts.2⟩
  clear h hcounts
  induction path generalizing name with
  | nil =>
    rw [splitAt, List.mem_singleton] at hmem
    simp [hmem]
  | cons c rest ih =>
    unfold splitAt at hmem
    split_ifs at hmem with hc
    · rcases List.mem_cons.mp hmem with rfl | hmem
      · simp
      · exact ih hmem
    · cases hsplit : splitAt isSeparator rest with
      | nil => exact absurd hsplit (splitAt_ne_nil rest)
      | cons part parts =>
        rw [hsplit] at hmem ih
        rcases List.mem_cons.mp hmem with rfl | hmem
        · exact List.forall_mem_cons.mpr ⟨by simpa using hc, ih List.mem_cons_self⟩
        · exact ih (List.mem_cons_of_mem _ hmem)

/-! ## Prefixes -/

/-- `path::Prefix`. -/
inductive PathPrefix where
  | verbatim (name : List Char)
  | verbatimUnc (server share : List Char)
  | verbatimDisk (drive : Char)
  | deviceNs (name : List Char)
  | unc (server share : List Char)
  | disk (drive : Char)
  deriving DecidableEq

namespace PathPrefix

/-- `Prefix::is_verbatim`. -/
def isVerbatim : PathPrefix → Bool
  | verbatim _ | verbatimUnc _ _ | verbatimDisk _ => true
  | _ => false

/-- `Prefix::has_implicit_root`. -/
def hasImplicitRoot : PathPrefix → Bool
  | disk _ => false
  | _ => true

end PathPrefix

/-- A part at the start of a path, and what follows the separator after it. -/
private def leadingName (separator : Char → Bool) (path : List Char) : List Char × List Char :=
  let name := path.takeWhile fun c => !separator c
  (name, path.drop (name.length + 1))

/-- A server and its share, and what follows them. -/
private def serverShare (separator : Char → Bool) (path : List Char) :
    List Char × List Char × List Char :=
  let (server, rest) := leadingName separator path
  let (share, _) := leadingName separator rest
  (server, share, path.drop (server.length + if share = [] then 0 else 1 + share.length))

/-- The drive at the start of a path, if the path goes on with a separator or ends. -/
private def exactDrive : List Char → Option Char
  | [d, ':'] => if d.isAlpha then some d.toUpper else none
  | d :: ':' :: c :: _ => if d.isAlpha && isSeparator c then some d.toUpper else none
  | _ => none

/-- The prefix of a path that starts with `\\?\`, after it. -/
private def verbatimPrefix (path : List Char) : PathPrefix × List Char :=
  let name := (leadingName (· = '\\') path).1
  let plain :=
    match exactDrive path with
    | some drive => (.verbatimDisk drive, path.drop 2)
    | none => (.verbatim name, path.drop name.length)
  match path with
  | 'U' :: 'N' :: 'C' :: c :: network =>
      if isSeparator c then
        let (server, share, body) := serverShare (· = '\\') network
        (.verbatimUnc server share, body)
      else plain
  | _ => plain

/-- The prefix of a path that starts with two separators, after them. -/
private def networkPrefix (path : List Char) : Option (PathPrefix × List Char) :=
  let shared :=
    let (server, share, body) := serverShare isSeparator path
    if server = [] || share = [] then none else some (.unc server share, body)
  match path with
  | '.' :: c :: device =>
      if isSeparator c then
        let name := (leadingName isSeparator device).1
        some (.deviceNs name, device.drop name.length)
      else shared
  | _ => shared

/-- The prefix of a path, and the rest of it. -/
def parsePrefix : List Char → Option (PathPrefix × List Char)
  | '\\' :: '\\' :: '?' :: '\\' :: path => some (verbatimPrefix path)
  | a :: b :: path =>
      if isSeparator a && isSeparator b then networkPrefix path
      else if a.isAlpha && b = ':' then some (.disk a.toUpper, path)
      else none
  | _ => none

/-- The path starts with a drive. -/
def hasDrive : List Char → Bool
  | a :: b :: _ => a.isAlpha && b = ':'
  | _ => false

theorem not_isSeparator_of_isAlpha {c : Char} (h : c.isAlpha = true) : isSeparator c = false := by
  unfold isSeparator
  by_contra hsep
  rw [Bool.not_eq_false, Bool.or_eq_true, decide_eq_true_eq, decide_eq_true_eq] at hsep
  rcases hsep with rfl | rfl <;> exact absurd h (by decide)

/-- A path that does not start with a separator has no prefix but a drive. -/
theorem parsePrefix_of_plain {path : List Char} (h : ∀ c ∈ path.head?, isSeparator c = false) :
    parsePrefix path =
      if hasDrive path then path.head?.map fun d => (.disk d.toUpper, path.drop 2) else none := by
  match path with
  | [] => rfl
  | [a] => simp [parsePrefix, hasDrive]
  | a :: b :: path =>
    have ha : isSeparator a = false := h a rfl
    unfold parsePrefix hasDrive
    split
    · rename_i heq
      obtain ⟨rfl, _⟩ := List.cons.inj heq
      exact absurd ha (by decide)
    · rename_i heq
      obtain ⟨rfl, rfl, rfl⟩ : _ ∧ _ ∧ _ := by simpa using heq
      simp [ha]
    · rename_i _ hnone
      exact absurd rfl (hnone a b path)

/-! ## Components -/

/-- What `Path::components` gives: the parts are those after the prefix and the root. -/
structure Components where
  start : Option PathPrefix
  rooted : Bool
  parts : List (List Char)
  deriving DecidableEq

def startsWithSeparator (path : List Char) : Bool := path.head?.any isSeparator

/-- `Path::components`. -/
def components (path : List Char) : Components :=
  match parsePrefix path with
  | some (start, body) =>
      { start := some start
        rooted := startsWithSeparator body || (start.hasImplicitRoot && !start.isVerbatim)
        parts :=
          if start.isVerbatim then (splitAt (· = '\\') body).filter (· ≠ []) else pieces body }
  | none =>
      { start := none
        rooted := startsWithSeparator path
        parts :=
          (if (splitAt isSeparator path).head? = some ['.'] then [['.']] else []) ++ pieces path }

/-- Two paths that `Path::eq` does not tell apart. -/
def samePath (p q : List Char) : Bool := components p = components q

/-- `Path::file_name`. -/
def fileName (path : List Char) : Option (List Char) :=
  (components path).parts.getLast?.filter fun name => name ≠ ['.'] && name ≠ ['.', '.']

/-- `Path::join`, of a base that is not verbatim. -/
def join (base path : List Char) : List Char :=
  if (parsePrefix path).isSome then path
  else if startsWithSeparator path then
    base.take (base.length - ((parsePrefix base).elim base.length fun (_, body) => body.length)) ++
      path
  else
    let isDrive := hasDrive base && base.length = 2
    if base = [] || base.getLast?.any isSeparator || isDrive then base ++ path
    else base ++ '\\' :: path

/-- The last name of a path without root is one of its parts. -/
theorem isName_of_fileName {path name : List Char}
    (hplain : ∀ c ∈ path.head?, isSeparator c = false) (h : fileName path = some name) :
    IsName name := by
  obtain ⟨hlast, hcounts⟩ := Option.filter_eq_some_iff.mp h
  have hmem := List.mem_of_getLast? hlast
  have hdot : name ≠ ['.'] := by
    simp only [Bool.and_eq_true, decide_eq_true_eq] at hcounts
    exact hcounts.1
  have hparse := parsePrefix_of_plain hplain
  cases hdrive : hasDrive path with
  | true =>
    cases path with
    | nil => exact absurd hdrive (by simp [hasDrive])
    | cons d path =>
      have hparts : (components (d :: path)).parts = pieces ((d :: path).drop 2) := by
        rw [components, hparse, hdrive]
        rfl
      exact isName_of_mem_pieces (hparts ▸ hmem)
  | false =>
    have hparts : (components path).parts =
        (if (splitAt isSeparator path).head? = some ['.'] then [['.']] else []) ++
          pieces path := by
      rw [components, hparse, hdrive]
      rfl
    rw [hparts] at hmem
    rcases List.mem_append.mp hmem with hstart | hmem
    · split_ifs at hstart
      · exact absurd (List.mem_singleton.mp hstart) hdot
      · exact absurd hstart List.not_mem_nil
    · exact isName_of_mem_pieces hmem

/-! ## Places -/

/-- Where a path on a drive leads. -/
structure Place where
  drive : Char
  rooted : Bool
  names : List (List Char)
  deriving DecidableEq

/-- The place of a path on a drive, with the case of its names folded. -/
def place (fold : Char → Char) (path : List Char) : Option Place :=
  match (components path).start with
  | some (.disk drive) =>
      some
        { drive
          rooted := (components path).rooted
          names := (components path).parts.map (List.map fold) }
  | _ => none

/-- The place of a path below another one. -/
def Place.below (fold : Char → Char) (base : Place) (path : List Char) : Place :=
  { base with names := base.names ++ (pieces path).map (List.map fold) }

theorem place_eq_of_samePath {fold : Char → Char} {p q : List Char} (h : samePath p q = true) :
    place fold p = place fold q := by
  unfold place
  rw [of_decide_eq_true h]

/-- The place of a path that starts with a drive. -/
theorem place_drive {fold : Char → Char} {d : Char} (hd : d.isAlpha = true)
    (path : List Char) :
    place fold (d :: ':' :: path) =
      some
        { drive := d.toUpper
          rooted := startsWithSeparator path
          names := (pieces path).map (List.map fold) } := by
  have hplain : ∀ c ∈ (d :: ':' :: path).head?, isSeparator c = false := by
    intro c hc
    obtain rfl := Option.some.inj hc
    exact not_isSeparator_of_isAlpha hd
  have hparse : parsePrefix (d :: ':' :: path) = some (.disk d.toUpper, path) := by
    rw [parsePrefix_of_plain hplain]
    simp [hasDrive, hd]
  simp [place, components, hparse, PathPrefix.hasImplicitRoot, PathPrefix.isVerbatim]

/-- **An ordinary absolute path**: a drive, and at least one name, each behind a separator. -/
structure Ordinary (path : List Char) (drive : Char) (names : List (List Char)) : Prop where
  isAlpha : drive.isAlpha = true
  isName : ∀ name ∈ names, IsName name
  ne_nil : names ≠ []
  text : path = drive :: ':' :: names.flatMap ('\\' :: ·)

/-- Names behind separators, with what follows, are the first parts of a path. -/
theorem pieces_names {names : List (List Char)} (h : ∀ name ∈ names, IsName name)
    {follow : List Char} (hfollow : follow = [] ∨ startsWithSeparator follow = true) :
    pieces (names.flatMap ('\\' :: ·) ++ follow) = names ++ pieces follow := by
  induction names with
  | nil => rfl
  | cons name names ih =>
    obtain ⟨hname, hnames⟩ := List.forall_mem_cons.mp h
    have hrest := ih hnames
    have hnext : names.flatMap ('\\' :: ·) ++ follow = [] ∨
        startsWithSeparator (names.flatMap ('\\' :: ·) ++ follow) = true := by
      cases names with
      | nil => simpa using hfollow
      | cons next names => exact .inr rfl
    rw [List.flatMap_cons, List.cons_append, List.cons_append, pieces_cons rfl,
      List.append_assoc, List.cons_append, ← hrest]
    generalize names.flatMap ('\\' :: ·) ++ follow = rest at hnext ⊢
    cases rest with
    | nil => rw [List.append_nil, hname.pieces_eq]; rfl
    | cons c rest =>
      have hc : isSeparator c = true := by simpa [startsWithSeparator] using hnext
      rw [pieces_append hc, hname.pieces_eq, pieces_cons hc]
      rfl

/-- A path with a drive of its own takes the place of the base. -/
theorem join_of_hasDrive {base path : List Char} (h : hasDrive path = true) :
    join base path = path := by
  match path with
  | a :: b :: path =>
    rw [hasDrive, Bool.and_eq_true] at h
    have hplain : ∀ c ∈ (a :: b :: path).head?, isSeparator c = false := by
      intro c hc
      obtain rfl := Option.some.inj hc
      exact not_isSeparator_of_isAlpha h.1
    rw [join, if_pos]
    rw [parsePrefix_of_plain hplain]
    simp [hasDrive, h.1, h.2]

namespace Ordinary

variable {fold : Char → Char} {base path name : List Char} {drive : Char}
  {names : List (List Char)}

theorem place_eq (h : Ordinary base drive names) :
    place fold base =
      some { drive := drive.toUpper, rooted := true, names := names.map (List.map fold) } := by
  obtain ⟨next, rest, rfl⟩ := List.exists_cons_of_ne_nil h.ne_nil
  have hpieces : pieces ((next :: rest).flatMap ('\\' :: ·) ++ []) = next :: rest ++ pieces [] :=
    pieces_names h.isName (.inl rfl)
  rw [List.append_nil] at hpieces
  rw [h.text, place_drive h.isAlpha, hpieces]
  simp [startsWithSeparator, isSeparator, pieces, splitAt]

/-- The path ends in a name. -/
private theorem getLast_base (h : Ordinary base drive names) :
    ∃ c, base.getLast? = some c ∧ isSeparator c = false := by
  rcases List.eq_nil_or_concat names with hnil | ⟨before, last, rfl⟩
  · exact absurd hnil h.ne_nil
  · have hlast : IsName last := h.isName last (by simp)
    refine ⟨last.getLast hlast.ne_nil, ?_, hlast.free _ (List.getLast_mem hlast.ne_nil)⟩
    rw [h.text, List.concat_eq_append, List.flatMap_append, List.flatMap_singleton,
      ← List.cons_append, ← List.cons_append, List.getLast?_append_cons, List.getLast?_cons,
      List.getLast?_eq_some_getLast hlast.ne_nil]
    rfl

/-- **Joining** adds a separator and the path. -/
theorem join_eq (h : Ordinary base drive names)
    (hplain : ∀ c ∈ path.head?, isSeparator c = false) (hdrive : hasDrive path = false) :
    join base path = base ++ '\\' :: path := by
  obtain ⟨c, hlast, hc⟩ := h.getLast_base
  have hprefix : parsePrefix path = none := by
    rw [parsePrefix_of_plain hplain, hdrive]
    rfl
  have hstart : startsWithSeparator path = false := by
    cases path with
    | nil => rfl
    | cons d path => simpa [startsWithSeparator] using hplain d rfl
  have hlength : base.length ≠ 2 := by
    obtain ⟨next, rest, rfl⟩ := List.exists_cons_of_ne_nil h.ne_nil
    rw [h.text]
    simp
  have hne : base ≠ [] := fun hnil => by simp [hnil] at hlast
  simp [join, hprefix, hstart, hlast, hc, hlength, hne]

theorem place_join (h : Ordinary base drive names)
    (hplain : ∀ c ∈ path.head?, isSeparator c = false) (hdrive : hasDrive path = false) :
    place fold (join base path) =
      some (Place.below fold
        { drive := drive.toUpper, rooted := true, names := names.map (List.map fold) } path) := by
  obtain ⟨next, rest, rfl⟩ := List.exists_cons_of_ne_nil h.ne_nil
  have hpieces : pieces ((next :: rest).flatMap ('\\' :: ·) ++ '\\' :: path) =
      next :: rest ++ pieces path := by
    rw [pieces_names h.isName (.inr rfl)]
    exact congrArg _ (pieces_cons rfl path)
  rw [h.join_eq hplain hdrive, h.text, List.cons_append, List.cons_append,
    place_drive h.isAlpha, hpieces]
  simp [startsWithSeparator, isSeparator, Place.below]

theorem join_name (h : Ordinary base drive names) (hname : IsName name)
    (hdrive : hasDrive name = false) : Ordinary (join base name) drive (names ++ [name]) where
  isAlpha := h.isAlpha
  isName := List.forall_mem_append.mpr ⟨h.isName, by simpa using hname⟩
  ne_nil := by simp
  text := by
    have hplain : ∀ c ∈ name.head?, isSeparator c = false :=
      fun c hc => hname.free c (List.mem_of_mem_head? hc)
    rw [h.join_eq hplain hdrive, h.text]
    simp

end Ordinary

end FrametimeCfg.Lib.WindowsPath
