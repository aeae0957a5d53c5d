import FrametimeCfg.DriverFoundry.Copy
import FrametimeCfg.Verified.ComponentClosure

/-!
# The prepared tree of a package

`prepareCopyStrip` filters what was resolved by what the package has.

* `Yields.copyNode` is that a copy which returns is a copy of the whole, by recursion over
  the tree.
* `prepareCopyStrip_eq_ok` says what a successful run returns and what it copied, whatever
  happens to the calls of other runs.
* `preparedPackage` is that such a run leaves a complete tree exactly when the package
  provides what the selection needs.  An optional component that the package does not have
  is dropped without an error, and `missingComponent_lost` is a run where another component
  needs it.
-/

namespace FrametimeCfg.DriverFoundry

open Relation
open FrametimeCfg.Lib
open FrametimeCfg.Lib.Checks
open FrametimeCfg.Lib.Dependency
open FrametimeCfg.Lib.Effect
open FrametimeCfg.Lib.OrderedMap
open FrametimeCfg.Lib.OrderedSet

variable {α β : Type} {v : Volumes}

/-! ## What the calls leave alone -/

/-- The copies and the lists are the same. -/
def SameRecords (s t : Run) : Prop :=
  t.copies = s.copies ∧ t.kept = s.kept ∧ t.stripped = s.stripped

theorem SameRecords.trans {s t u : Run} (h : SameRecords s t) (h' : SameRecords t u) :
    SameRecords s u :=
  ⟨h'.1.trans h.1, h'.2.1.trans h.2.1, h'.2.2.trans h.2.2⟩

/-- The program records nothing, and what it returns is `a`. -/
def Yields (m : Prog Run InstallError α) (a : α) : Prop :=
  ∀ s r t, m s = (r, t) → SameRecords s t ∧ ∀ b, r = .ok b → b = a

namespace Yields

theorem pure (a : α) : Yields (pure a) a := by
  intro s r t h
  obtain ⟨rfl, rfl⟩ := Prod.mk.inj h
  exact ⟨⟨rfl, rfl, rfl⟩, fun b hb => (Except.ok.inj hb).symm⟩

theorem raise (e : InstallError) (a : α) : Yields (raise e) a := by
  intro s r t h
  obtain ⟨rfl, rfl⟩ := Prod.mk.inj h
  exact ⟨⟨rfl, rfl, rfl⟩, by simp⟩

theorem call (report : String → InstallError) : Yields (call report) () := by
  intro s r t h
  unfold DriverFoundry.call at h
  split at h
  · obtain ⟨rfl, rfl⟩ := Prod.mk.inj h
    exact ⟨⟨rfl, rfl, rfl⟩, fun _ _ => rfl⟩
  · obtain ⟨rfl, rfl⟩ := Prod.mk.inj h
    exact ⟨⟨rfl, rfl, rfl⟩, fun _ _ => rfl⟩

theorem bind {m : Prog Run InstallError α} {k : α → Prog Run InstallError β} {a : α} {b : β}
    (h : Yields m a) (hk : Yields (k a) b) : Yields (m >>= k) b := by
  intro s r t hrun
  rcases bind_cases hrun with ⟨e, hm, rfl⟩ | ⟨a', s', hm, hrest⟩
  · exact ⟨(h s _ t hm).1, by simp⟩
  · obtain ⟨hsame, hvalue⟩ := h s _ s' hm
    rw [hvalue a' rfl] at hrest
    obtain ⟨hsame', hvalue'⟩ := hk s' r t hrest
    exact ⟨hsame.trans hsame', hvalue'⟩

theorem sourceMetadata (path : String) (found : Option Node) :
    Yields (sourceMetadata path found) found := by
  refine (call _).bind ?_
  rcases found with - | node
  · exact pure none
  · cases node with
    | file bytes => exact pure _
    | directory entries => exact pure _
    | link => exact raise _ _
    | other => exact pure _

theorem metadataFor (path : String) (found : Option Node) :
    Yields (metadataFor path found) found := by
  refine (sourceMetadata path found).bind ?_
  cases found with
  | none => exact pure none
  | some node => exact (call _).bind (pure _)

theorem createNewDirectory (path : String) (taken : Bool) :
    Yields (createNewDirectory path taken) () := by
  refine Yields.bind (a := ()) ?_ (call _)
  refine (call _).bind ?_
  cases taken with
  | true => exact raise _ _
  | false => exact call _

theorem createNewOutput (path : String) (taken : Bool) :
    Yields (createNewOutput path taken) () := by
  refine Yields.bind (a := ()) ?_ (call _)
  refine (call _).bind ?_
  cases taken with
  | true => exact raise _ _
  | false => exact call _

theorem copySourceFile (dst : String) (taken : Bool) : Yields (copySourceFile dst taken) () :=
  (call _).bind ((call _).bind ((call _).bind ((createNewOutput dst taken).bind
    ((call _).bind (call _)))))

theorem copySourceDir {src dst : String} {node : Node} {taken : Bool}
    {entries : Prog Run InstallError α} {a : α} (h : Yields entries a) :
    Yields (copySourceDir src dst node taken entries) a :=
  (call _).bind ((metadataFor src _).bind ((call _).bind ((createNewDirectory dst taken).bind
    ((call _).bind (h.bind ((call _).bind (pure a)))))))

mutual
/-- A copy is the whole of what was copied. -/
theorem copyNode (unsupported : InstallError) (src dst : String) (taken : Bool) :
    ∀ node, Yields (copyNode v unsupported src dst taken node) node
  | .file bytes => by
      rw [DriverFoundry.copyNode]
      exact (copySourceFile dst taken).bind (pure _)
  | .directory entries => by
      rw [DriverFoundry.copyNode]
      exact (copySourceDir (copyEntries src dst [] entries)).bind (pure _)
  | .link => by
      rw [DriverFoundry.copyNode]
      exact raise _ _
  | .other => by
      rw [DriverFoundry.copyNode]
      exact raise _ _

theorem copyEntries (src dst : String) (done : List (String × Node)) :
    ∀ entries, Yields (copyEntries v src dst done entries) (done ++ entries)
  | [] => by
      rw [DriverFoundry.copyEntries, List.append_nil]
      exact pure done
  | (name, node) :: rest => by
      rw [DriverFoundry.copyEntries, List.append_cons]
      refine (call _).bind ((metadataFor _ _).bind ?_)
      exact (copyNode _ _ _ _ node).bind (copyEntries src dst _ rest)
end

end Yields

/-! ## What the loops record -/

/-- The copies of entries of the package. -/
def Volumes.copiesOf (v : Volumes) (entries : List (String × Node)) (names : List String) :
    List Copied :=
  names.filterMap fun name => (v.find entries name).map fun found => ⟨name, found.1, found.2⟩

theorem mem_copiesOf {entries : List (String × Node)} {names : List String} {c : Copied} :
    c ∈ v.copiesOf entries names ↔
      c.name ∈ names ∧ v.find entries c.name = some (c.origin, c.node) := by
  rw [Volumes.copiesOf, List.mem_filterMap]
  constructor
  · rintro ⟨name, hname, h⟩
    obtain ⟨found, hfound, rfl⟩ := Option.map_eq_some_iff.mp h
    exact ⟨hname, hfound⟩
  · rintro ⟨hname, hfound⟩
    exact ⟨c.name, hname, by rw [hfound]; rfl⟩

/-- What is recorded from `s` to `t`: copies under the names, and ids for the two lists. -/
structure Records (f : Filter) (copied kept stripped : List String) (s t : Run) : Prop where
  copies : t.copies = s.copies ++ f.volumes.copiesOf f.entries copied
  kept : t.kept = s.kept ++ kept
  stripped : t.stripped = s.stripped ++ stripped

namespace Records

variable {f : Filter} {s t u : Run}

theorem of_same (h : SameRecords s t) : Records f [] [] [] s t where
  copies := by rw [h.1, Volumes.copiesOf, List.filterMap_nil, List.append_nil]
  kept := by rw [h.2.1, List.append_nil]
  stripped := by rw [h.2.2, List.append_nil]

theorem trans {copied copied' kept kept' stripped stripped' : List String}
    (h : Records f copied kept stripped s t) (h' : Records f copied' kept' stripped' t u) :
    Records f (copied ++ copied') (kept ++ kept') (stripped ++ stripped') s u where
  copies := by
    rw [h'.copies, h.copies, Volumes.copiesOf, Volumes.copiesOf, Volumes.copiesOf,
      List.filterMap_append, List.append_assoc]
  kept := by rw [h'.kept, h.kept, List.append_assoc]
  stripped := by rw [h'.stripped, h.stripped, List.append_assoc]

end Records

namespace Filter

variable {f : Filter} {s t : Run} {name : String}

theorem lookUp_yields (f : Filter) (name : String) :
    Yields (f.lookUp name) (f.volumes.find f.entries name) :=
  (Yields.metadataFor _ _).bind (Yields.pure _)

/-- An entry that was copied is recorded as it is in the package. -/
theorem records_copy {report : String → InstallError} {found : String × Node}
    (hfound : f.volumes.find f.entries name = some found)
    (h : f.copy report name found s = (.ok (), t)) : Records f [name] [] [] s t := by
  obtain ⟨copies, s₁, hgets, h⟩ := Effect.bind_eq_ok h
  obtain ⟨hcopies, rfl⟩ := Prod.mk.inj hgets
  obtain rfl := Except.ok.inj hcopies
  obtain ⟨node, s₂, hnode, h⟩ := Effect.bind_eq_ok h
  obtain ⟨hsame, hvalue⟩ := Yields.copyNode _ _ _ _ found.2 _ _ _ hnode
  obtain ⟨-, rfl⟩ := Prod.mk.inj h
  obtain rfl := hvalue node rfl
  constructor
  · simp [Volumes.copiesOf, hfound, hsame.1]
  · simp [hsame.2.1]
  · simp [hsame.2.2]

theorem records_copyFixed (h : f.copyFixed name s = (.ok (), t)) :
    Records f [name] [] [] s t := by
  obtain ⟨found, s₁, hfound, h⟩ := Effect.bind_eq_ok h
  obtain ⟨hsame, hvalue⟩ := f.lookUp_yields name _ _ _ hfound
  rw [hvalue found rfl] at h
  cases hentry : f.volumes.find f.entries name with
  | some entry =>
      rw [hentry] at h
      exact (Records.of_same hsame).trans (records_copy hentry h)
  | none =>
      rw [hentry] at h
      obtain ⟨-, rfl⟩ := Prod.mk.inj h
      have hnone := Records.of_same (f := f) hsame
      exact ⟨by rw [hnone.copies]; simp [Volumes.copiesOf, hentry], hnone.kept,
        hnone.stripped⟩

theorem records_fixed {names : List String} (h : forEach f.copyFixed names s = (.ok (), t)) :
    Records f names [] [] s t := by
  induction names generalizing s with
  | nil =>
      obtain ⟨-, rfl⟩ := Prod.mk.inj h
      exact Records.of_same ⟨rfl, rfl, rfl⟩
  | cons name names ih =>
      obtain ⟨_, mid, hfirst, hrest⟩ := Effect.bind_eq_ok h
      exact (records_copyFixed hfirst).trans (ih hrest)

/-- The component is resolved and the package has it. -/
def Keeps (f : Filter) (resolved : BTreeSet) (id : String) : Prop :=
  id ∈ resolved ∧ (f.volumes.find f.entries id).isSome = true

instance (resolved : BTreeSet) (id : String) : Decidable (f.Keeps resolved id) :=
  inferInstanceAs (Decidable (_ ∧ _))

/-- **One component.**  The four cases: it is kept when it is resolved and there, stripped
when it is not resolved, and an error when it is resolved, required and not there. -/
theorem records_filterComponent {resolved : BTreeSet} {package : String × PackageDefinition}
    (h : f.filterComponent resolved package s = (.ok (), t)) :
    Records f ([package.1].filter (f.Keeps resolved ·)) ([package.1].filter (f.Keeps resolved ·))
        ([package.1].filter (· ∉ resolved)) s t ∧
      (package.1 ∈ resolved → package.2.required = true → f.Keeps resolved package.1) := by
  obtain ⟨id, definition⟩ := package
  obtain ⟨found, s₁, hfound, h⟩ := Effect.bind_eq_ok h
  obtain ⟨hsame, hvalue⟩ := f.lookUp_yields id _ _ _ hfound
  rw [hvalue found rfl] at h
  have hlookUp := Records.of_same (f := f) hsame
  cases hentry : f.volumes.find f.entries id with
  | none =>
      rw [hentry] at h
      have hnot : ¬ f.Keeps resolved id := by simp [Keeps, hentry]
      by_cases hresolved : id ∈ resolved
      · cases hrequired : definition.required with
        | true =>
            simp only [hresolved, hrequired, if_true] at h
            cases h
        | false =>
            simp only [hresolved, hrequired, if_true] at h
            obtain ⟨-, rfl⟩ := Prod.mk.inj h
            refine ⟨?_, fun _ hfalse => by cases hfalse⟩
            simpa [hnot, hresolved] using hlookUp
      · simp only [hresolved, if_false] at h
        obtain ⟨-, rfl⟩ := Prod.mk.inj h
        refine ⟨?_, fun hmem => absurd hmem hresolved⟩
        have hstripped : Records f [] [] [id] s₁
            { s₁ with stripped := s₁.stripped ++ [id] } :=
          ⟨by simp [Volumes.copiesOf], by simp, rfl⟩
        simpa [hnot, hresolved] using hlookUp.trans hstripped
  | some entry =>
      rw [hentry] at h
      by_cases hresolved : id ∈ resolved
      · have hkeeps : f.Keeps resolved id := ⟨hresolved, by rw [hentry]; rfl⟩
        simp only [hresolved, if_true] at h
        obtain ⟨_, s₂, hcopy, h⟩ := Effect.bind_eq_ok h
        obtain ⟨-, rfl⟩ := Prod.mk.inj h
        refine ⟨?_, fun _ _ => hkeeps⟩
        have hkept : Records f [] [id] [] s₂ { s₂ with kept := s₂.kept ++ [id] } :=
          ⟨by simp [Volumes.copiesOf], rfl, by simp⟩
        simpa [hkeeps, hresolved] using hlookUp.trans ((records_copy hentry hcopy).trans hkept)
      · have hnot : ¬ f.Keeps resolved id := fun hkeeps => hresolved hkeeps.1
        simp only [hresolved, if_false] at h
        obtain ⟨-, rfl⟩ := Prod.mk.inj h
        refine ⟨?_, fun hmem => absurd hmem hresolved⟩
        have hstripped : Records f [] [] [id] s₁
            { s₁ with stripped := s₁.stripped ++ [id] } :=
          ⟨by simp [Volumes.copiesOf], by simp, rfl⟩
        simpa [hnot, hresolved] using hlookUp.trans hstripped

/-- **All components.** -/
theorem records_filter {resolved : BTreeSet} {packages : List (String × PackageDefinition)}
    (h : forEach (f.filterComponent resolved) packages s = (.ok (), t)) :
    Records f ((packages.map Prod.fst).filter (f.Keeps resolved ·))
        ((packages.map Prod.fst).filter (f.Keeps resolved ·))
        ((packages.map Prod.fst).filter (· ∉ resolved)) s t ∧
      ∀ package ∈ packages, package.1 ∈ resolved → package.2.required = true →
        f.Keeps resolved package.1 := by
  induction packages generalizing s with
  | nil =>
      obtain ⟨-, rfl⟩ := Prod.mk.inj h
      exact ⟨Records.of_same ⟨rfl, rfl, rfl⟩, by simp⟩
  | cons package packages ih =>
      obtain ⟨_, mid, hfirst, hrest⟩ := Effect.bind_eq_ok h
      obtain ⟨hone, hrequired⟩ := records_filterComponent hfirst
      obtain ⟨hall, hrequired'⟩ := ih hrest
      refine ⟨?_, List.forall_mem_cons.mpr ⟨hrequired, hrequired'⟩⟩
      have hboth := hone.trans hall
      rw [← List.filter_append, ← List.filter_append] at hboth
      exact hboth

end Filter

/-- The entry of the package root that a name addresses. -/
def Volumes.entryOf (v : Volumes) (tree : Option Node) (name : String) :
    Option (String × Node) :=
  match tree with
  | some (.directory entries) => v.find entries name
  | _ => none

/-- A root that was opened is a directory. -/
theorem openSourceRoot_eq_ok {path : String} {tree : Option Node}
    {entries : List (String × Node)} {s t : Run}
    (h : openSourceRoot path tree s = (.ok entries, t)) :
    tree = some (.directory entries) ∧ SameRecords s t := by
  obtain ⟨metadata, s₁, hmetadata, h⟩ := Effect.bind_eq_ok h
  obtain ⟨hsame, hvalue⟩ := Yields.sourceMetadata path tree _ _ _ hmetadata
  rw [hvalue metadata rfl] at h
  rcases tree with - | node
  · cases h
  · cases node with
    | directory entries' =>
        obtain ⟨_, s₂, hcall, hreturn⟩ := Effect.bind_eq_ok h
        obtain ⟨hentries, rfl⟩ := Prod.mk.inj hreturn
        rw [Except.ok.inj hentries]
        exact ⟨rfl, hsame.trans (Yields.call _ _ _ _ hcall).1⟩
    | file bytes => cases h
    | link => cases h
    | other => cases h

/-- **What the run returns.**  The kept components are those that are resolved and there,
the stripped ones those that are not resolved, and the copies are those of the fixed entries
and of the kept components. -/
theorem prepareCopyStrip_eq_ok {packageRoot prepared : String} {tree : Option Node}
    {catalog : PackageCatalog} {resolved : List String} {faults : List (Option String)}
    {kept stripped : List String} {t : Run}
    (h : prepareCopyStrip v packageRoot prepared tree catalog resolved { faults } =
      (.ok (kept, stripped), t)) :
    kept = catalog.packages.keys.filter (fun id =>
        id ∈ resolved ∧ (v.entryOf tree id).isSome = true) ∧
      stripped = catalog.packages.keys.filter (· ∉ resolved) ∧
      (∀ c, c ∈ t.copies ↔ (c.name ∈ fixedNames ∨ c.name ∈ kept) ∧
        v.entryOf tree c.name = some (c.origin, c.node)) ∧
      ∀ id ∈ resolved, catalog.Required id → (v.entryOf tree id).isSome = true := by
  obtain ⟨entries, s₁, hopen, hafterOpen⟩ := Effect.bind_eq_ok h
  obtain ⟨_, s₂, hcreate, hafterCreate⟩ := Effect.bind_eq_ok hafterOpen
  obtain ⟨_, s₃, hfixed, hafterFixed⟩ := Effect.bind_eq_ok hafterCreate
  obtain ⟨_, s₄, hfilter, hreturn⟩ := Effect.bind_eq_ok hafterFixed
  obtain ⟨hlists, rfl⟩ := Prod.mk.inj hreturn
  obtain ⟨hkept, hstripped⟩ := Prod.mk.inj (Except.ok.inj hlists)
  obtain ⟨rfl, hsame⟩ := openSourceRoot_eq_ok hopen
  have hstart := hsame.trans (Yields.createNewDirectory prepared false _ _ _ hcreate).1
  obtain ⟨hrecords, hrequired⟩ := Filter.records_filter hfilter
  have hrun := (Records.of_same hstart).trans ((Filter.records_fixed hfixed).trans hrecords)
  rw [Std.ExtTreeMap.map_fst_toList_eq_keys] at hrun
  have hsorted : ∀ p : String → Bool,
      (catalog.packages.keys.filter p).insertionSort (· ≤ ·) = catalog.packages.keys.filter p := by
    intro p
    have hkeys : catalog.packages.keys.Pairwise (· ≤ ·) :=
      Std.ExtTreeMap.ordered_keys.imp fun hlt => le_of_lt (compare_lt_iff_lt.mp hlt)
    exact (hkeys.filter p).insertionSort_eq
  have hkeeps : ∀ id, decide (Filter.Keeps
      { volumes := v, packageRoot, prepared, entries } (.ofList resolved) id) =
        decide (id ∈ resolved ∧ (v.entryOf (some (.directory entries)) id).isSome = true) := by
    intro id
    exact decide_eq_decide.mpr (and_congr_left' BTreeSet.mem_ofList)
  rw [hrun.kept] at hkept
  rw [hrun.stripped] at hstripped
  simp only [List.nil_append, hsorted, hkeeps] at hkept hstripped
  refine ⟨hkept.symm, ?_, ?_, ?_⟩
  · rw [← hstripped]
    exact List.filter_congr fun id _ => by simp
  · intro c
    rw [hrun.copies, List.nil_append, mem_copiesOf, List.nil_append, List.mem_append]
    simp only [hkeeps, hkept]
    rfl
  · intro id hid hrequiredId
    obtain ⟨p, hp, hflag⟩ := hrequiredId
    have hmem : (id, p) ∈ catalog.packages.toList :=
      Std.ExtTreeMap.mem_toList_iff_getElem?_eq_some.mpr hp
    exact (hrequired (id, p) hmem (BTreeSet.mem_ofList.mpr hid) hflag).2

/-! ## Complete trees -/

/-- **What a successful run promises.**  The lists are sorted, share no id and have every
id of the catalog; what is kept was copied as a whole and nothing of what is stripped was;
every required package and every dependency of a kept one is kept. -/
structure Complete (v : Volumes) (tree : Option Node) (catalog : PackageCatalog)
    (kept stripped : List String) (copies : List Copied) : Prop where
  disjoint : ∀ id ∈ kept, id ∉ stripped
  keptSorted : kept.Pairwise (· < ·)
  strippedSorted : stripped.Pairwise (· < ·)
  lists : ∀ id, id ∈ kept ∨ id ∈ stripped ↔ catalog.Known id
  copied : ∀ id ∈ kept, ∃ c ∈ copies,
    c.name = id ∧ v.entryOf tree id = some (c.origin, c.node)
  left : ∀ id ∈ stripped, ∀ entry, v.entryOf tree id = some entry →
    ∀ c ∈ copies, c.origin ≠ entry.1
  required : ∀ id, catalog.Required id → id ∈ kept
  closed : ∀ id ∈ kept, ∀ dependency, catalog.DependsOn id dependency → dependency ∈ kept

/-- The dependency closure of the required packages and the selected known ones. -/
def PackageCatalog.closure (catalog : PackageCatalog) (selected : BTreeSet) : Set String :=
  Reach catalog.DependsOn (catalog.required ∪ catalog.wanted selected)

/-- **When a prepared tree is complete.**  The selection covers the dependencies of the
required packages, the package has every component of the closure, and no other id of the
catalog addresses an entry that is copied. -/
structure Provides (v : Volumes) (tree : Option Node) (catalog : PackageCatalog)
    (selected : BTreeSet) : Prop where
  covers : catalog.Covers selected
  present : ∀ id ∈ catalog.closure selected, (v.entryOf tree id).isSome = true
  apart : ∀ id, catalog.Known id → id ∉ catalog.closure selected →
    ∀ entry, v.entryOf tree id = some entry →
      ∀ name, name ∈ fixedNames ∨ name ∈ catalog.closure selected →
        ∀ entry', v.entryOf tree name = some entry' → entry'.1 ≠ entry.1

/-- The result of `resolve_selection` is that of `resolve_with_deps`. -/
theorem resolveSelection_returns {texts : Texts} {readToString : String → Except String String}
    {opts : InstallOptions} {catalog : PackageCatalog} {selected : BTreeSet}
    {before resolved : List String}
    (hselected : chooseSelection texts readToString opts catalog = .ok (selected, before))
    (h : Returns (fun fuel => catalog.resolveWithDeps fuel selected) (.ok resolved)) :
    Returns (fun fuel => resolveSelection texts readToString fuel opts catalog)
      (.ok (resolved, before ++ ["preset: " ++ Text.asciiLower opts.preset,
        "resolved (" ++ toString resolved.length ++ "): " ++ ", ".intercalate resolved])) := by
  obtain ⟨enough, hrun⟩ := h
  dsimp only at hrun
  refine ⟨enough, fun fuel hle => ?_⟩
  show resolveSelection texts readToString fuel opts catalog = _
  rw [resolveSelection, hselected]
  show (catalog.resolveWithDeps fuel selected >>= _) = _
  rw [hrun fuel hle]
  rfl

/-- What is found is known. -/
theorem PackageCatalog.Sound.known_of_stopped {catalog : PackageCatalog}
    (hsound : catalog.Sound) {selected : BTreeSet} {id : String}
    (h : id ∈ stopped catalog.DependsOn catalog.required (catalog.wanted selected)) :
    catalog.Known id := by
  rcases h with ⟨p, hp, -⟩ | ⟨s, ⟨-, hknown⟩, hreach⟩
  · exact ⟨p, hp⟩
  · rcases ReflTransGen.cases_tail hreach with rfl | ⟨y, -, hstep⟩
    · exact hknown
    · exact hsound.known y id hstep.2

theorem mem_keys {catalog : PackageCatalog} {id : String} :
    id ∈ catalog.packages.keys ↔ catalog.Known id := by
  rw [← PackageCatalog.mem_nodes, PackageCatalog.nodes, List.mem_toFinset]

/-- What the search from a selection finds. -/
def PackageCatalog.found (catalog : PackageCatalog) (selected : BTreeSet) : Set String :=
  stopped catalog.DependsOn catalog.required (catalog.wanted selected)

/-- What a run did, in terms of what was found in the catalog. -/
structure Filtered (v : Volumes) (tree : Option Node) (catalog : PackageCatalog)
    (found : Set String) (kept stripped : List String) (copies : List Copied) : Prop where
  keptSorted : kept.Pairwise (· < ·)
  strippedSorted : stripped.Pairwise (· < ·)
  known : ∀ id ∈ found, catalog.Known id
  kept_iff : ∀ id, id ∈ kept ↔ id ∈ found ∧ (v.entryOf tree id).isSome = true
  stripped_iff : ∀ id, id ∈ stripped ↔ catalog.Known id ∧ id ∉ found
  copies_iff : ∀ c, c ∈ copies ↔ (c.name ∈ fixedNames ∨ c.name ∈ kept) ∧
    v.entryOf tree c.name = some (c.origin, c.node)
  required : ∀ id, catalog.Required id → id ∈ found ∧ (v.entryOf tree id).isSome = true

namespace Filtered

variable {tree : Option Node} {catalog : PackageCatalog} {selected : BTreeSet}
  {kept stripped : List String} {copies : List Copied}

/-- An entry that is copied under a name is among the copies. -/
theorem mem_copies {found : Set String}
    (h : Filtered v tree catalog found kept stripped copies) {name : String}
    (hname : name ∈ fixedNames ∨ name ∈ kept) {entry : String × Node}
    (hentry : v.entryOf tree name = some entry) : ⟨name, entry.1, entry.2⟩ ∈ copies :=
  (h.copies_iff _).mpr ⟨hname, hentry⟩

theorem provides (h : Filtered v tree catalog (catalog.found selected) kept stripped copies)
    (hcomplete : Complete v tree catalog kept stripped copies) :
    Provides v tree catalog selected := by
  have hkept : ∀ id, id ∈ kept ↔ id ∈ catalog.found selected := by
    intro id
    constructor
    · intro hid
      exact ((h.kept_iff id).mp hid).1
    · intro hid
      refine ((hcomplete.lists id).mpr (h.known id hid)).resolve_right fun hstripped => ?_
      exact ((h.stripped_iff id).mp hstripped).2 hid
  have hclosed : Closed catalog.DependsOn (catalog.found selected) := by
    intro x hx y hxy
    exact (hkept y).mp (hcomplete.closed x ((hkept x).mpr hx) y hxy)
  have hclosure : catalog.found selected = catalog.closure selected := stopped_eq_reach hclosed
  refine ⟨PackageCatalog.covers_iff.mpr (closed_stopped_iff.mp hclosed), ?_, ?_⟩
  · intro id hid
    rw [← hclosure, ← hkept] at hid
    exact ((h.kept_iff id).mp hid).2
  · intro id hknown hid entry hentry name hname entry' hentry'
    rw [← hclosure] at hid
    rw [← hclosure, ← hkept] at hname
    have hstripped : id ∈ stripped := (h.stripped_iff id).mpr ⟨hknown, hid⟩
    exact hcomplete.left id hstripped entry hentry _ (h.mem_copies hname hentry')

theorem complete (h : Filtered v tree catalog (catalog.found selected) kept stripped copies)
    (hprovides : Provides v tree catalog selected) :
    Complete v tree catalog kept stripped copies := by
  have hclosed : Closed catalog.DependsOn (catalog.found selected) :=
    closed_stopped_iff.mpr (PackageCatalog.covers_iff.mp hprovides.covers)
  have hclosure : catalog.found selected = catalog.closure selected := stopped_eq_reach hclosed
  have hkept : ∀ id, id ∈ kept ↔ id ∈ catalog.found selected := by
    intro id
    rw [h.kept_iff]
    exact and_iff_left_of_imp fun hid => hprovides.present id (hclosure ▸ hid)
  constructor
  case disjoint =>
    intro id hid hstripped
    exact ((h.stripped_iff id).mp hstripped).2 ((hkept id).mp hid)
  case keptSorted => exact h.keptSorted
  case strippedSorted => exact h.strippedSorted
  case lists =>
    intro id
    rw [hkept, h.stripped_iff]
    constructor
    · rintro (hid | ⟨hknown, -⟩)
      · exact h.known id hid
      · exact hknown
    · intro hknown
      by_cases hid : id ∈ catalog.found selected
      · exact .inl hid
      · exact .inr ⟨hknown, hid⟩
  case copied =>
    intro id hid
    obtain ⟨entry, hentry⟩ := Option.isSome_iff_exists.mp ((h.kept_iff id).mp hid).2
    exact ⟨_, h.mem_copies (.inr hid) hentry, rfl, hentry⟩
  case left =>
    intro id hid entry hentry c hc
    obtain ⟨hknown, hnot⟩ := (h.stripped_iff id).mp hid
    obtain ⟨hname, horigin⟩ := (h.copies_iff c).mp hc
    rw [hkept, hclosure] at hname
    rw [hclosure] at hnot
    exact hprovides.apart id hknown hnot entry hentry c.name hname _ horigin
  case required =>
    intro id hid
    exact (h.kept_iff id).mpr (h.required id hid)
  case closed =>
    intro x hx y hxy
    exact (hkept y).mpr (hclosed x ((hkept x).mp hx) y hxy)

end Filtered

/-- **A prepared tree is complete exactly when the package provides what the selection
needs.** -/
theorem preparedPackage {texts : Texts} {json : String}
    {readToString : String → Except String String} {opts : InstallOptions}
    {catalog : PackageCatalog} {selected : BTreeSet} {before resolved messages : List String}
    {packageRoot prepared : String} {tree : Option Node} {faults : List (Option String)}
    {kept stripped : List String} {t : Run}
    (hload : Returns (fun fuel => PackageCatalog.loadFromJson texts fuel json) (.ok catalog))
    (hselected : chooseSelection texts readToString opts catalog = .ok (selected, before))
    (hresolved : Returns (fun fuel => resolveSelection texts readToString fuel opts catalog)
      (.ok (resolved, messages)))
    (hrun : prepareCopyStrip v packageRoot prepared tree catalog resolved { faults } =
      (.ok (kept, stripped), t)) :
    Complete v tree catalog kept stripped t.copies ↔ Provides v tree catalog selected := by
  obtain ⟨r, hreturns, hsound, -⟩ := PackageCatalog.loadFromJson_returns texts json
  have hsound := hsound catalog (hreturns.unique hload)
  obtain ⟨resolved', hresolved', -, hmembers⟩ :=
    PackageCatalog.resolveWithDeps_returns hsound selected
  have hsame := (resolveSelection_returns hselected hresolved').unique hresolved
  obtain ⟨rfl, -⟩ := Prod.mk.inj (Except.ok.inj hsame)
  have hstopped : ∀ id, id ∈ resolved' ↔
      id ∈ stopped catalog.DependsOn catalog.required (catalog.wanted selected) :=
    fun id => Set.ext_iff.mp hmembers id
  obtain ⟨hkept, hstripped, hcopies, hrequired⟩ := prepareCopyStrip_eq_ok hrun
  have hkeys : catalog.packages.keys.Pairwise (· < ·) :=
    Std.ExtTreeMap.ordered_keys.imp fun hlt => compare_lt_iff_lt.mp hlt
  have hknown : ∀ id ∈ catalog.found selected, catalog.Known id :=
    fun id hid => hsound.known_of_stopped hid
  have hfiltered : Filtered v tree catalog (catalog.found selected) kept stripped t.copies := by
    constructor
    case keptSorted => exact hkept ▸ hkeys.filter _
    case strippedSorted => exact hstripped ▸ hkeys.filter _
    case known => exact hknown
    case kept_iff =>
      intro id
      rw [hkept, List.mem_filter, decide_eq_true_iff, hstopped, mem_keys]
      exact and_iff_right_of_imp fun hid => hknown id hid.1
    case stripped_iff =>
      intro id
      rw [hstripped, List.mem_filter, decide_eq_true_iff, hstopped, mem_keys]
      rfl
    case copies_iff => exact hcopies
    case required =>
      intro id hid
      exact ⟨.inl hid, hrequired id ((hstopped id).mpr (.inl hid)) hid⟩
  exact ⟨hfiltered.provides, hfiltered.complete⟩

/-! ## A package without a dependency -/

/-- Names are compared letter by letter. -/
def sampleVolumes : Volumes where
  join := fun directory name => directory ++ "/" ++ name
  source := fun name stored => name = stored
  target := fun name stored => name = stored

def sampleOptions : InstallOptions := { preset := "minimal", select := ["B"] }

/-- A package with the named components. -/
def samplePackage (components : List String) : Node :=
  .directory (("setup.exe", .file [77, 90]) ::
    components.map fun id => (id, .directory [("driver.inf", .file [])]))

def sampleRun (components : List String) :
    Except InstallError (List String × List String) × Run :=
  prepareCopyStrip sampleVolumes "package" "prepared" (some (samplePackage components))
    PackageCatalog.sampleCatalog ["A", "B"] { faults := [] }

def sampleRead : String → Except String String :=
  fun path => .error ("no such file: " ++ path)

theorem sample_chooses :
    chooseSelection PackageCatalog.sampleTexts sampleRead sampleOptions
      PackageCatalog.sampleCatalog = .ok (.ofList ["B"], []) := by
  have hknown : SelectionPresets.isKnown "minimal" = true := by decide +kernel
  have hfull : SelectionPresets.fold "minimal" ≠ SelectionPresets.FULL := by decide +kernel
  have hoptions : SelectionPresets.optionalSelections (SelectionPresets.fold "minimal") =
      .ok [] := by decide +kernel
  have hcreate : SelectionPresets.createSelection PackageCatalog.sampleCatalog "minimal" =
      .ok (.ofList []) := by
    rw [SelectionPresets.createSelection, if_neg hfull, hoptions]
    rfl
  rw [chooseSelection]
  show (reject (!SelectionPresets.isKnown "minimal") _ >>= _) = _
  rw [hknown]
  show (SelectionPresets.createSelection PackageCatalog.sampleCatalog "minimal" >>= _) = _
  rw [hcreate]
  rfl

theorem sample_resolves :
    Returns (fun fuel => resolveSelection PackageCatalog.sampleTexts sampleRead fuel
      sampleOptions PackageCatalog.sampleCatalog)
      (.ok (["A", "B"], ["preset: minimal", "resolved (2): A, B"])) := by
  have hrun : PackageCatalog.sampleCatalog.resolveWithDeps 3 (.ofList ["B"]) =
      .ok ["A", "B"] := by decide +kernel
  have hreturns : Returns
      (fun fuel => PackageCatalog.sampleCatalog.resolveWithDeps fuel (.ofList ["B"]))
      (.ok ["A", "B"]) :=
    ⟨3, fun fuel hle => (PackageCatalog.resolveWithDeps_mono hle (by rw [hrun]; simp)).trans hrun⟩
  have hmessages : [] ++ ["preset: " ++ Text.asciiLower sampleOptions.preset, "resolved (" ++
      toString ["A", "B"].length ++ "): " ++ ", ".intercalate ["A", "B"]] =
      ["preset: minimal", "resolved (2): A, B"] := by decide +kernel
  have hresolves := resolveSelection_returns sample_chooses hreturns
  rw [hmessages] at hresolves
  exact hresolves

/-- **A component is lost.**  The package does not have a component that is selected, and
that another one needs.  The run succeeds with the other one; the missing component is
neither kept nor stripped. -/
theorem missingComponent_lost :
    Returns (fun fuel => PackageCatalog.loadFromJson PackageCatalog.sampleTexts fuel
        PackageCatalog.sampleJson) (.ok PackageCatalog.sampleCatalog) ∧
      Returns (fun fuel => resolveSelection PackageCatalog.sampleTexts sampleRead fuel
        sampleOptions PackageCatalog.sampleCatalog)
        (.ok (["A", "B"], ["preset: minimal", "resolved (2): A, B"])) ∧
      (sampleRun ["A"]).1 = .ok (["A"], []) ∧
      ¬ Complete sampleVolumes (some (samplePackage ["A"])) PackageCatalog.sampleCatalog
        ["A"] [] (sampleRun ["A"]).2.copies := by
  refine ⟨PackageCatalog.sample_loads, sample_resolves, by decide +kernel, ?_⟩
  intro h
  have hknown : PackageCatalog.sampleCatalog.Known "B" := ⟨{ id := "B" }, by decide +kernel⟩
  have hmem := (h.lists "B").mpr hknown
  simp at hmem

theorem sample_known {id : String} :
    PackageCatalog.sampleCatalog.Known id ↔ id = "A" ∨ id = "B" := by
  have hkeys : PackageCatalog.sampleCatalog.packages.keys = ["A", "B"] := by decide +kernel
  rw [← mem_keys, hkeys]
  simp

/-- With all its components the package gives a complete tree. -/
theorem preparedPackage_sample :
    (sampleRun ["A", "B"]).1 = .ok (["A", "B"], []) ∧
      Complete sampleVolumes (some (samplePackage ["A", "B"])) PackageCatalog.sampleCatalog
        ["A", "B"] [] (sampleRun ["A", "B"]).2.copies := by
  have hrun : (sampleRun ["A", "B"]).1 = .ok (["A", "B"], []) := by decide +kernel
  have hknown : PackageCatalog.sampleCatalog.Known "B" := sample_known.mpr (.inr rfl)
  have hwanted : "B" ∈ PackageCatalog.sampleCatalog.wanted (.ofList ["B"]) :=
    ⟨by simp, hknown⟩
  have hrequired : "A" ∈ PackageCatalog.sampleCatalog.required :=
    ⟨{ id := "A", required := true, dependencies := ["B"] }, by decide +kernel, rfl⟩
  refine ⟨hrun, ?_⟩
  rcases hpair : sampleRun ["A", "B"] with ⟨r, t⟩
  rw [hpair] at hrun
  obtain rfl : r = .ok (["A", "B"], []) := hrun
  refine (preparedPackage PackageCatalog.sample_loads sample_chooses sample_resolves
    hpair).mpr ⟨?_, ?_, ?_⟩
  · intro x _ y hedge
    rw [PackageCatalog.sample_dependsOn hedge]
    exact .inr ⟨"B", by simp, hknown, .refl⟩
  · intro id hid
    have hclosed : Closed PackageCatalog.sampleCatalog.DependsOn {x | x = "A" ∨ x = "B"} :=
      fun x _ y hedge => .inr (PackageCatalog.sample_dependsOn hedge)
    have hstart : PackageCatalog.sampleCatalog.required ∪
        PackageCatalog.sampleCatalog.wanted (.ofList ["B"]) ⊆ {x | x = "A" ∨ x = "B"} := by
      rintro x (⟨p, hp, -⟩ | ⟨-, hx⟩)
      · exact sample_known.mp ⟨p, hp⟩
      · exact sample_known.mp hx
    rcases hclosed.reach_subset hstart hid with rfl | rfl
    · decide +kernel
    · decide +kernel
  · intro id hid hnot
    refine absurd ?_ hnot
    rcases sample_known.mp hid with rfl | rfl
    · exact subset_reach (.inl hrequired)
    · exact subset_reach (.inr hwanted)

end FrametimeCfg.DriverFoundry
