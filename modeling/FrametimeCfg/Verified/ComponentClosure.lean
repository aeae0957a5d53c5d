import FrametimeCfg.DriverFoundry.Catalog
import FrametimeCfg.Lib.Dependency
import FrametimeCfg.Lib.Fuel

/-!
# Component resolution is a dependency closure

A catalog is a relation: what a package names among its dependencies.  Loading searches
the relation for cycles, and resolution searches it from a selection.

* `visitDependency_searched` is the invariant of the search for cycles: everything on its
  path depends on the id it looks at, and every path below a visited id ends.  So an error
  is a cycle, and without an error there is none.
* `addWithDeps_adds` is that of the other search.  It shares one set between the packages
  it is done with and the required packages, which it has not searched: it stops at both.
* `componentClosure` puts them together.  Both searches return, loading accepts exactly the
  catalogs it should, and resolution gives the closure exactly when the selection reaches
  the dependencies of the required packages in another way.  `requiredDependency_missing`
  is a catalog where it does not.
-/

namespace FrametimeCfg.DriverFoundry

open Relation
open FrametimeCfg.Lib
open FrametimeCfg.Domain
open FrametimeCfg.Lib.Checks
open FrametimeCfg.Lib.Dependency
open FrametimeCfg.Lib.Effect
open FrametimeCfg.Lib.Fuel
open FrametimeCfg.Lib.OrderedMap
open FrametimeCfg.Lib.OrderedSet

/-! ## Runs with enough fuel -/

/-- The run ends with `r` when it has enough fuel. -/
def Returns {α : Type} (run : Nat → Except Halt α) (r : Except InstallError α) : Prop :=
  ∃ enough, ∀ fuel, enough ≤ fuel → run fuel = r.mapError .error

theorem Returns.unique {α : Type} {run : Nat → Except Halt α} {r r' : Except InstallError α}
    (h : Returns run r) (h' : Returns run r') : r = r' := by
  obtain ⟨n, hn⟩ := h
  obtain ⟨m, hm⟩ := h'
  have hsame : r.mapError Halt.error = r'.mapError .error :=
    (hn (max n m) (le_max_left n m)).symm.trans (hm (max n m) (le_max_right n m))
  cases r with
  | ok a =>
      cases r' with
      | ok a' => exact congrArg Except.ok (Except.ok.inj hsame)
      | error e' => cases hsame
  | error e =>
      cases r' with
      | ok a' => cases hsame
      | error e' => exact congrArg Except.error (Halt.error.inj (Except.error.inj hsame))

namespace PackageCatalog

variable {catalog : PackageCatalog} {fuel : Nat} {id : String}

/-! ## Catalogs as relations -/

/-- A package of the catalog names the component among its dependencies. -/
def DependsOn (catalog : PackageCatalog) (id dependency : String) : Prop :=
  ∃ p : PackageDefinition, catalog.packages[id]? = some p ∧ dependency ∈ p.dependencies

def Known (catalog : PackageCatalog) (id : String) : Prop :=
  ∃ p : PackageDefinition, catalog.packages[id]? = some p

def Required (catalog : PackageCatalog) (id : String) : Prop :=
  ∃ p : PackageDefinition, catalog.packages[id]? = some p ∧ p.required = true

/-- The required packages. -/
def required (catalog : PackageCatalog) : Set String := {x | catalog.Required x}

/-- What loading checks of the packages: they stand under their ids, their dependencies
are packages, and no package depends on itself. -/
structure Sound (catalog : PackageCatalog) : Prop where
  named : ∀ (id : String) (p : PackageDefinition),
    catalog.packages[id]? = some p → p.id = id
  known : ∀ id dependency, catalog.DependsOn id dependency → catalog.Known dependency
  acyclic : Acyclic catalog.DependsOn

/-- The ids of the packages. -/
def nodes (catalog : PackageCatalog) : Finset String := catalog.packages.keys.toFinset

theorem mem_nodes : id ∈ catalog.nodes ↔ catalog.Known id := by
  rw [nodes, List.mem_toFinset, Std.ExtTreeMap.mem_keys,
    Std.ExtTreeMap.mem_iff_isSome_getElem?, Option.isSome_iff_exists]
  rfl

theorem mem_definitions {p : PackageDefinition} :
    p ∈ catalog.definitions ↔ ∃ id : String, catalog.packages[id]? = some p := by
  rw [definitions, List.mem_map]
  constructor
  · rintro ⟨⟨id, p⟩, h, rfl⟩
    exact ⟨id, Std.ExtTreeMap.mem_toList_iff_getElem?_eq_some.mp h⟩
  · rintro ⟨id, h⟩
    exact ⟨(id, p), Std.ExtTreeMap.mem_toList_iff_getElem?_eq_some.mpr h, rfl⟩

theorem Sound.mem_requiredIds (h : catalog.Sound) :
    id ∈ catalog.requiredIds ↔ catalog.Required id := by
  simp only [requiredIds, List.mem_map, List.mem_filter]
  constructor
  · rintro ⟨p, ⟨hp, hrequired⟩, rfl⟩
    obtain ⟨k, hk⟩ := mem_definitions.mp hp
    rw [← h.named k p hk] at hk
    exact ⟨p, hk, hrequired⟩
  · rintro ⟨p, hp, hrequired⟩
    exact ⟨p, ⟨mem_definitions.mpr ⟨id, hp⟩, hrequired⟩, h.named id p hp⟩

/-! ## The search that adds dependencies -/

theorem addWithDeps_extends (catalog : PackageCatalog) (fuel : Nat) :
    ∀ id, Extends .outOfFuel (catalog.addWithDeps fuel id)
      (catalog.addWithDeps (fuel + 1) id) := by
  induction fuel with
  | zero => exact fun id => Extends.raise _
  | succ fuel ih =>
      intro id
      rw [addWithDeps, addWithDeps]
      refine Extends.bind (Extends.refl _) fun out => ?_
      by_cases hmem : id ∈ out
      · rw [if_pos hmem, if_pos hmem]
        exact Extends.refl _
      · rw [if_neg hmem, if_neg hmem]
        cases catalog.packages[id]? with
        | none => exact Extends.refl _
        | some p => exact Extends.bind (Extends.forEach ih _) fun _ => Extends.refl _

theorem addWithDeps_mem {out : BTreeSet} (h : id ∈ out) :
    catalog.addWithDeps (fuel + 1) id out = (.ok (), out) := by
  rw [addWithDeps, bind_apply_ok (gets_apply _ _), if_pos h]
  rfl

theorem addWithDeps_unknown {out : BTreeSet} (h : catalog.packages[id]? = none) :
    catalog.addWithDeps (fuel + 1) id out = (.ok (), out) := by
  rw [addWithDeps, bind_apply_ok (gets_apply _ _), h]
  by_cases hmem : id ∈ out
  · rw [if_pos hmem]
    rfl
  · rw [if_neg hmem]
    rfl

theorem addWithDeps_package {out mid : BTreeSet} {p : PackageDefinition}
    (hmem : id ∉ out) (h : catalog.packages[id]? = some p)
    (hdeps : forEach (catalog.addWithDeps fuel) p.dependencies out = (.ok (), mid)) :
    catalog.addWithDeps (fuel + 1) id out = (.ok (), mid.insert id) := by
  rw [addWithDeps, bind_apply_ok (gets_apply _ _), if_neg hmem, h]
  exact bind_apply_ok hdeps

/-- The marked elements are there, and the others have their dependencies. -/
def Expanded (catalog : PackageCatalog) (T : Set String) (out : BTreeSet) : Prop :=
  T ⊆ out.members ∧ Closed (Passing catalog.DependsOn T) out.members

/-- What a search for the ids in `S` does to the set, when `T` was marked before. -/
structure Adds (catalog : PackageCatalog) (T S : Set String) (out out' : BTreeSet) :
    Prop where
  grows : out.members ⊆ out'.members
  has : S ⊆ out'.members
  expanded : catalog.Expanded T out'
  within : out'.members ⊆ out.members ∪ Reach (Passing catalog.DependsOn T) S

theorem Adds.nothing {T : Set String} {out : BTreeSet} (h : catalog.Expanded T out) :
    catalog.Adds T ∅ out out where
  grows := Set.Subset.rfl
  has := Set.empty_subset _
  expanded := h
  within := Set.subset_union_left

theorem Adds.trans {T S S' : Set String} {out mid out' : BTreeSet}
    (h : catalog.Adds T S out mid) (h' : catalog.Adds T S' mid out') :
    catalog.Adds T (S ∪ S') out out' where
  grows := h.grows.trans h'.grows
  has := Set.union_subset (h.has.trans h'.grows) h'.has
  expanded := h'.expanded
  within := by
    intro x hx
    rcases h'.within hx with hmid | hreach
    · rcases h.within hmid with hout | hreach
      · exact .inl hout
      · exact .inr (reach_mono Set.subset_union_left hreach)
    · exact .inr (reach_mono Set.subset_union_right hreach)

/-- After its dependencies, the package itself. -/
theorem Adds.package {T : Set String} {out mid : BTreeSet} (hmarked : id ∉ T)
    (h : catalog.Adds T {y | catalog.DependsOn id y} out mid) :
    catalog.Adds T {id} out (mid.insert id) where
  grows := fun x hx => BTreeSet.mem_insert.mpr (.inr (h.grows hx))
  has := fun x hx => BTreeSet.mem_insert.mpr (.inl hx)
  expanded := by
    constructor
    · intro x hx
      exact BTreeSet.mem_insert.mpr (.inr (h.expanded.1 hx))
    · intro x hx y hxy
      apply BTreeSet.mem_insert.mpr
      rcases BTreeSet.mem_insert.mp hx with rfl | hx
      · exact .inr (h.has hxy.2)
      · exact .inr (h.expanded.2 x hx y hxy)
  within := by
    intro x hx
    rcases BTreeSet.mem_insert.mp hx with rfl | hx
    · exact .inr (subset_reach rfl)
    · rcases h.within hx with hout | ⟨y, hy, hyx⟩
      · exact .inl hout
      · exact .inr ⟨id, rfl, .head ⟨hmarked, hy⟩ hyx⟩

/-- The ids of the list that are packages. -/
def known (catalog : PackageCatalog) (ids : List String) : Set String :=
  {x | x ∈ ids ∧ catalog.Known x}

theorem known_cons (ids : List String) :
    catalog.known (id :: ids) = catalog.known [id] ∪ catalog.known ids := by
  ext x
  simp only [known, Set.mem_ofPred_eq, Set.mem_union, List.mem_cons, List.not_mem_nil, or_false]
  exact or_and_right

/-- A loop adds what each of its calls adds. -/
theorem forEach_adds {T : Set String} {body : String → Prog BTreeSet Halt Unit}
    {ids : List String}
    (h : ∀ id ∈ ids, ∀ out, catalog.Expanded T out →
      ∃ out', body id out = (.ok (), out') ∧ catalog.Adds T (catalog.known [id]) out out') :
    ∀ out, catalog.Expanded T out →
      ∃ out', forEach body ids out = (.ok (), out') ∧
        catalog.Adds T (catalog.known ids) out out' := by
  induction ids with
  | nil =>
      intro out hout
      have hnone : catalog.known [] = ∅ := by
        ext x
        simp [known]
      refine ⟨out, rfl, ?_⟩
      rw [hnone]
      exact Adds.nothing hout
  | cons id ids ih =>
      intro out hout
      obtain ⟨mid, hrun, hmid⟩ := h id List.mem_cons_self out hout
      have hrest := ih fun x hx => h x (List.mem_cons_of_mem id hx)
      obtain ⟨out', hrun', hout'⟩ := hrest mid hmid.expanded
      refine ⟨out', (bind_apply_ok hrun).trans hrun', ?_⟩
      rw [known_cons]
      exact hmid.trans hout'

/-- **One search.**  With fuel for the packages below the id, the search ends, and adds
the id and what it reaches without a step from a marked package. -/
theorem addWithDeps_adds (hsound : catalog.Sound) {T : Set String} :
    ∀ id, rank catalog.DependsOn catalog.nodes id < fuel →
      ∀ out, catalog.Expanded T out →
        ∃ out', catalog.addWithDeps fuel id out = (.ok (), out') ∧
          catalog.Adds T (catalog.known [id]) out out' := by
  induction fuel with
  | zero =>
      intro id hfuel
      omega
  | succ fuel ih =>
      intro id hfuel out hout
      cases hp : catalog.packages[id]? with
      | none =>
          have hnone : catalog.known [id] = ∅ := by
            ext x
            simp only [known, List.mem_singleton, Set.mem_ofPred_eq, Set.mem_empty_iff_false,
              iff_false]
            rintro ⟨rfl, p, hx⟩
            simp [hp] at hx
          refine ⟨out, addWithDeps_unknown hp, ?_⟩
          rw [hnone]
          exact Adds.nothing hout
      | some p =>
          have hone : catalog.known [id] = {id} := by
            ext x
            simp only [known, List.mem_singleton, Set.mem_ofPred_eq, Set.mem_singleton_iff]
            constructor
            · exact And.left
            · rintro rfl
              exact ⟨rfl, p, hp⟩
          rw [hone]
          by_cases hmem : id ∈ out
          · refine ⟨out, addWithDeps_mem hmem, ?_⟩
            have hnothing : catalog.Adds T ∅ out out := Adds.nothing hout
            exact ⟨hnothing.grows, Set.singleton_subset_iff.mpr hmem, hout,
              Set.subset_union_left⟩
          · have hmarked : id ∉ T := fun hT => hmem (hout.1 hT)
            have hdeps : catalog.known p.dependencies = {y | catalog.DependsOn id y} := by
              ext y
              simp only [known, Set.mem_ofPred_eq]
              constructor
              · exact fun hy => ⟨p, hp, hy.1⟩
              · rintro ⟨q, hq, hy⟩
                have hknown := hsound.known id y ⟨q, hq, hy⟩
                rw [hp] at hq
                cases hq
                exact ⟨hy, hknown⟩
            have hbelow : ∀ y ∈ p.dependencies,
                rank catalog.DependsOn catalog.nodes y < fuel := by
              intro y hy
              have hedge : catalog.DependsOn id y := ⟨p, hp, hy⟩
              have hnode : y ∈ catalog.nodes := mem_nodes.mpr (hsound.known id y hedge)
              have hfall := rank_lt hsound.acyclic hnode hedge
              omega
            obtain ⟨mid, hrun, hmid⟩ :=
              forEach_adds (fun y hy => ih y (hbelow y hy)) out hout
            rw [hdeps] at hmid
            exact ⟨mid.insert id, addWithDeps_package hmem hp hrun, hmid.package hmarked⟩

/-! ## Resolution -/

/-- The known ids of a selection. -/
def wanted (catalog : PackageCatalog) (selected : BTreeSet) : Set String :=
  {x | x ∈ selected ∧ catalog.Known x}

/-- **What is resolved.**  The result lists what a search from the selection finds that
stops at required packages, and these packages. -/
theorem resolveWithDeps_eq (hsound : catalog.Sound) (hfuel : catalog.nodes.card < fuel)
    (selected : BTreeSet) :
    ∃ out : BTreeSet, catalog.resolveWithDeps fuel selected = .ok out.toList ∧
      out.members = stopped catalog.DependsOn catalog.required (catalog.wanted selected) := by
  have hstart : (BTreeSet.ofList catalog.requiredIds).members = catalog.required := by
    ext x
    rw [BTreeSet.mem_members, BTreeSet.mem_ofList, hsound.mem_requiredIds]
    rfl
  have hexpanded : catalog.Expanded catalog.required (.ofList catalog.requiredIds) := by
    unfold Expanded
    rw [hstart]
    exact ⟨Set.Subset.rfl, fun x hx y hxy => absurd hx hxy.1⟩
  have hbelow : ∀ id, rank catalog.DependsOn catalog.nodes id < fuel := by
    intro id
    have hrank : rank catalog.DependsOn catalog.nodes id ≤ catalog.nodes.card := rank_le id
    omega
  have hcalls : ∀ id ∈ selected.toList, ∀ out, catalog.Expanded catalog.required out →
      ∃ out', catalog.addWithDeps fuel id out = (.ok (), out') ∧
        catalog.Adds catalog.required (catalog.known [id]) out out' :=
    fun id _ => addWithDeps_adds hsound id (hbelow id)
  obtain ⟨out, hrun, hadds⟩ := forEach_adds hcalls _ hexpanded
  have hwanted : catalog.known selected.toList = catalog.wanted selected := by
    ext x
    simp only [known, wanted, Set.mem_ofPred_eq, Std.ExtTreeSet.mem_toList]
  rw [hwanted] at hadds
  refine ⟨out, ?_, Set.Subset.antisymm ?_ ?_⟩
  · have hsorted : out.toList.Pairwise (· ≤ ·) := out.pairwise_toList.imp le_of_lt
    rw [resolveWithDeps, hrun]
    show Except.ok (out.toList.insertionSort (· ≤ ·)) = _
    rw [hsorted.insertionSort_eq]
  · intro x hx
    rcases hadds.within hx with hrequired | hreach
    · rw [hstart] at hrequired
      exact .inl hrequired
    · exact .inr hreach
  · rintro x (hrequired | hreach)
    · exact hadds.expanded.1 hrequired
    · exact hadds.expanded.2.reach_subset hadds.has hreach

/-- A resolution that did not run out of fuel does not change with more. -/
theorem resolveWithDeps_mono {selected : BTreeSet} {more : Nat} (hle : fuel ≤ more)
    (h : catalog.resolveWithDeps fuel selected ≠ .error .outOfFuel) :
    catalog.resolveWithDeps more selected = catalog.resolveWithDeps fuel selected := by
  have hextends := Extends.forEach (fun id =>
    Extends.of_le (fun n => addWithDeps_extends catalog n id) hle) selected.toList
  unfold resolveWithDeps at h ⊢
  rcases hrun : forEach (catalog.addWithDeps fuel) selected.toList
    (.ofList catalog.requiredIds) with ⟨r, out⟩
  rw [hrun] at h
  have hne : r ≠ .error .outOfFuel := by
    rintro rfl
    exact h rfl
  rw [hextends _ r out hrun hne]

/-! ## The search for cycles -/

theorem visitDependency_extends (catalog : PackageCatalog) (fuel : Nat) :
    ∀ id, Extends .outOfFuel (catalog.visitDependency fuel id)
      (catalog.visitDependency (fuel + 1) id) := by
  induction fuel with
  | zero => exact fun id => Extends.raise _
  | succ fuel ih =>
      intro id
      rw [visitDependency, visitDependency]
      refine Extends.bind (Extends.refl _) fun visits => ?_
      by_cases hvisited : id ∈ visits.visited
      · rw [if_pos hvisited, if_pos hvisited]
        exact Extends.refl _
      · rw [if_neg hvisited, if_neg hvisited]
        by_cases hvisiting : id ∈ visits.visiting
        · rw [if_pos hvisiting, if_pos hvisiting]
          exact Extends.refl _
        · rw [if_neg hvisiting, if_neg hvisiting]
          refine Extends.bind (Extends.refl _) fun _ => ?_
          refine Extends.bind (Extends.refl _) fun p => ?_
          exact Extends.bind (Extends.forEach ih _) fun _ => Extends.refl _

theorem visitDependency_visited {s : Visits} (h : id ∈ s.visited) :
    catalog.visitDependency (fuel + 1) id s = (.ok (), s) := by
  rw [visitDependency, bind_apply_ok (gets_apply _ _), if_pos h]
  rfl

theorem visitDependency_cycle {s : Visits} (hvisited : id ∉ s.visited)
    (h : id ∈ s.visiting) :
    catalog.visitDependency (fuel + 1) id s =
      (.error (.error (.other ("package dependency cycle detected at " ++ id))), s) := by
  rw [visitDependency, bind_apply_ok (gets_apply _ _), if_neg hvisited, if_pos h]
  rfl

/-- The visits when the search goes below the id. -/
def Visits.enter (s : Visits) (id : String) : Visits :=
  { s with visiting := s.visiting.insert id }

/-- The visits when the search comes back from it. -/
def Visits.leave (s : Visits) (id : String) : Visits :=
  { visiting := s.visiting.erase id, visited := s.visited.insert id }

theorem visitDependency_package {s : Visits} {p : PackageDefinition}
    (hvisited : id ∉ s.visited) (hvisiting : id ∉ s.visiting)
    (h : catalog.packages[id]? = some p) :
    catalog.visitDependency (fuel + 1) id s =
      (forEach (catalog.visitDependency fuel) p.dependencies >>= fun _ =>
        update fun t => t.leave id) (s.enter id) := by
  have hindex : catalog.index id (s.enter id) = (.ok p, s.enter id) := by
    rw [index, h]
    rfl
  rw [visitDependency, bind_apply_ok (gets_apply _ _), if_neg hvisited, if_neg hvisiting,
    bind_apply_ok (update_apply _ _)]
  exact bind_apply_ok hindex

/-- What a search from the ids in `S` does to the visits when it finds no cycle. -/
structure Visited (catalog : PackageCatalog) (S : Set String) (s s' : Visits) : Prop where
  visiting : s'.visiting = s.visiting
  has : S ⊆ s'.visited.members
  grows : s.visited.members ⊆ s'.visited.members
  ends : ∀ x ∈ s'.visited, Acc (flip catalog.DependsOn) x

/-- A search from the ids in `S` ends, and an error of it is a cycle. -/
def Searched (catalog : PackageCatalog) (S : Set String) (s : Visits)
    (run : Except Halt Unit × Visits) : Prop :=
  (run.1 = .ok () ∧ catalog.Visited S s run.2) ∨
    ∃ e, run.1 = .error (.error e) ∧ ¬ Acyclic catalog.DependsOn

/-- When a search may start at the id: everything on its path depends on the id. -/
structure Ready (catalog : PackageCatalog) (s : Visits) (id : String) : Prop where
  known : catalog.Known id
  path : ∀ x ∈ s.visiting, TransGen catalog.DependsOn x id
  ends : ∀ x ∈ s.visited, Acc (flip catalog.DependsOn) x

theorem forEach_searched {body : String → Prog Visits Halt Unit} {ids : List String}
    {s : Visits} (hready : ∀ id ∈ ids, catalog.Ready s id)
    (h : ∀ id ∈ ids, ∀ t : Visits, t.visiting = s.visiting → catalog.Ready t id →
      catalog.Searched {id} t (body id t))
    (hends : ∀ x ∈ s.visited, Acc (flip catalog.DependsOn) x) :
    catalog.Searched {x | x ∈ ids} s (forEach body ids s) := by
  induction ids generalizing s with
  | nil =>
      refine .inl ⟨rfl, rfl, ?_, Set.Subset.rfl, hends⟩
      intro x hx
      cases hx
  | cons id ids ih =>
      rcases hrun : body id s with ⟨r, mid⟩
      have hfirst := h id List.mem_cons_self s rfl (hready id List.mem_cons_self)
      rw [hrun] at hfirst
      rcases hfirst with ⟨hok, hmid⟩ | ⟨e, herror, hcycle⟩
      · dsimp only at hok hmid
        have hstart : ∀ x ∈ ids, catalog.Ready mid x := by
          intro x hx
          have hx := hready x (List.mem_cons_of_mem id hx)
          exact ⟨hx.known, by rw [hmid.visiting]; exact hx.path, hmid.ends⟩
        have hrest := ih hstart (fun x hx t ht =>
          h x (List.mem_cons_of_mem id hx) t (ht.trans hmid.visiting)) hmid.ends
        have hstep : forEach body (id :: ids) s = forEach body ids mid := by
          rw [hok] at hrun
          exact bind_apply_ok hrun
        rw [hstep]
        rcases hrest with ⟨hok', hend⟩ | herror
        · refine .inl ⟨hok', hend.visiting.trans hmid.visiting, ?_,
            hmid.grows.trans hend.grows, hend.ends⟩
          intro x hx
          rcases List.mem_cons.mp hx with rfl | hx
          · exact hend.grows (hmid.has rfl)
          · exact hend.has hx
        · exact .inr herror
      · dsimp only at herror
        rw [herror] at hrun
        refine .inr ⟨e, ?_, hcycle⟩
        have hstep : forEach body (id :: ids) s = (.error (.error e), mid) :=
          bind_apply_error hrun
        rw [hstep]

/-- The packages that are not on the path. -/
def remaining (catalog : PackageCatalog) (s : Visits) : Nat :=
  (catalog.nodes.filter (· ∉ s.visiting)).card

theorem remaining_enter {s : Visits} (hknown : catalog.Known id) (h : id ∉ s.visiting) :
    catalog.remaining (s.enter id) < catalog.remaining s := by
  unfold remaining
  apply Finset.card_lt_card
  refine (Finset.ssubset_iff_of_subset ?_).mpr ?_
  · intro x hx
    rw [Finset.mem_filter] at hx ⊢
    exact ⟨hx.1, fun hmem => hx.2 (BTreeSet.mem_insert.mpr (.inr hmem))⟩
  · refine ⟨id, Finset.mem_filter.mpr ⟨mem_nodes.mpr hknown, h⟩, ?_⟩
    intro hmem
    exact (Finset.mem_filter.mp hmem).2 (BTreeSet.mem_insert.mpr (.inl rfl))

/-- **One search for cycles.**  With fuel for the packages that are not on the path, the
search ends; without an error every path below the id ends too, and an error is a cycle. -/
theorem visitDependency_searched
    (hknown : ∀ id dependency, catalog.DependsOn id dependency → catalog.Known dependency) :
    ∀ id s, catalog.remaining s < fuel → catalog.Ready s id →
      catalog.Searched {id} s (catalog.visitDependency fuel id s) := by
  induction fuel with
  | zero =>
      intro id s hfuel
      omega
  | succ fuel ih =>
      intro id s hfuel hready
      by_cases hvisited : id ∈ s.visited
      · rw [visitDependency_visited hvisited]
        exact .inl ⟨rfl, rfl, Set.singleton_subset_iff.mpr hvisited, Set.Subset.rfl,
          hready.ends⟩
      by_cases hvisiting : id ∈ s.visiting
      · rw [visitDependency_cycle hvisited hvisiting]
        exact .inr ⟨_, rfl, fun hacyclic => hacyclic id (hready.path id hvisiting)⟩
      obtain ⟨p, hp⟩ := hready.known
      rw [visitDependency_package hvisited hvisiting hp]
      have hedge : ∀ y ∈ p.dependencies, catalog.DependsOn id y := fun y hy => ⟨p, hp, hy⟩
      have hbelow : ∀ y ∈ p.dependencies, catalog.Ready (s.enter id) y := by
        intro y hy
        refine ⟨hknown id y (hedge y hy), ?_, hready.ends⟩
        intro x hx
        rcases BTreeSet.mem_insert.mp hx with rfl | hx
        · exact .single (hedge y hy)
        · exact (hready.path x hx).tail (hedge y hy)
      have hfall := remaining_enter hready.known hvisiting
      have hdeps := forEach_searched hbelow (fun y hy t ht => by
        have hsame : catalog.remaining t = catalog.remaining (s.enter id) := by
          rw [remaining, remaining, ht]
        exact ih y t (by omega)) hready.ends
      rcases hrun : forEach (catalog.visitDependency fuel) p.dependencies (s.enter id)
        with ⟨r, t⟩
      rw [hrun] at hdeps
      rcases hdeps with ⟨hok, hend⟩ | ⟨e, herror, hcycle⟩
      · dsimp only at hok hend
        rw [hok] at hrun
        rw [bind_apply_ok hrun]
        refine .inl ⟨rfl, ?_, ?_, ?_, ?_⟩
        · show t.visiting.erase id = s.visiting
          rw [hend.visiting]
          exact BTreeSet.erase_insert hvisiting
        · exact Set.singleton_subset_iff.mpr (BTreeSet.mem_insert.mpr (.inl rfl))
        · intro x hx
          exact BTreeSet.mem_insert.mpr (.inr (hend.grows hx))
        · intro x hx
          rcases BTreeSet.mem_insert.mp hx with rfl | hx
          · refine Acc.intro x fun y hy => ?_
            obtain ⟨q, hq, hmem⟩ := hy
            rw [hp] at hq
            cases hq
            exact hend.ends y (hend.has hmem)
          · exact hend.ends x hx
      · dsimp only at herror
        rw [herror] at hrun
        rw [bind_apply_error hrun]
        exact .inr ⟨e, rfl, hcycle⟩

/-! ## Loading -/

/-- The dependencies of every package are safe ids of packages. -/
theorem validateKnown_eq_ok {texts : Texts} :
    catalog.validateKnown texts = .ok () ↔
      ∀ id dependency, catalog.DependsOn id dependency →
        validateComponentId texts dependency = .ok () ∧ catalog.Known dependency := by
  have hone : ∀ (id dependency : String),
      (do
        validateComponentId texts dependency
        reject (!catalog.packages.contains dependency)
          (.other ("package " ++ id ++ " depends on unknown component " ++ dependency))) =
        .ok () ↔ validateComponentId texts dependency = .ok () ∧ catalog.Known dependency := by
    intro id dependency
    rw [check_bind_eq_ok, reject_eq_ok, Bool.not_eq_false', Std.ExtTreeMap.contains_iff_mem,
      Std.ExtTreeMap.mem_iff_isSome_getElem?, Option.isSome_iff_exists]
    rfl
  simp only [validateKnown, forM_eq_ok, hone, Prod.forall,
    Std.ExtTreeMap.mem_toList_iff_getElem?_eq_some]
  constructor
  · rintro h id dependency ⟨p, hp, hmem⟩
    exact h id p hp dependency hmem
  · intro h id p hp dependency hmem
    exact h id dependency ⟨p, hp, hmem⟩

/-- An id that is not a package depends on nothing. -/
theorem acyclic_of_ends (h : ∀ id, catalog.Known id → Acc (flip catalog.DependsOn) id) :
    Acyclic catalog.DependsOn := by
  intro id hcycle
  obtain ⟨y, ⟨p, hp, -⟩, -⟩ := TransGen.head'_iff.mp hcycle
  exact not_transGen_self_of_acc (h id ⟨p, hp⟩) hcycle

/-- **The search over all packages.**  It ends, and without an error exactly when there is
no cycle. -/
theorem visitAll_eq
    (hknown : ∀ id dependency, catalog.DependsOn id dependency → catalog.Known dependency)
    (hfuel : catalog.nodes.card < fuel) :
    ((forEach (catalog.visitDependency fuel) catalog.packages.keys {}).1 = .ok () ∧
        Acyclic catalog.DependsOn) ∨
      ∃ e, (forEach (catalog.visitDependency fuel) catalog.packages.keys {}).1 =
          .error (.error e) ∧ ¬ Acyclic catalog.DependsOn := by
  have hkeys : ∀ id, id ∈ catalog.packages.keys ↔ catalog.Known id := by
    intro id
    rw [← mem_nodes, nodes, List.mem_toFinset]
  have hready : ∀ id ∈ catalog.packages.keys, catalog.Ready {} id := by
    intro id hid
    exact ⟨(hkeys id).mp hid, by simp, by simp⟩
  have hremaining : ∀ s : Visits, catalog.remaining s < fuel := by
    intro s
    have hfilter : catalog.remaining s ≤ catalog.nodes.card := Finset.card_filter_le _ _
    omega
  have hsearched := forEach_searched hready
    (fun id _ t _ => visitDependency_searched hknown id t (hremaining t)) (by simp)
  rcases hsearched with ⟨hok, hend⟩ | herror
  · refine .inl ⟨hok, acyclic_of_ends fun id hid => ?_⟩
    exact hend.ends id (hend.has ((hkeys id).mpr hid))
  · exact .inr herror

/-- Every dependency is a safe id of a package, and no package depends on itself. -/
structure Resolvable (catalog : PackageCatalog) (texts : Texts) : Prop where
  known : ∀ id dependency, catalog.DependsOn id dependency →
    validateComponentId texts dependency = .ok () ∧ catalog.Known dependency
  acyclic : Acyclic catalog.DependsOn

theorem validateDependencies_eq {texts : Texts} (hfuel : catalog.nodes.card < fuel) :
    (catalog.validateDependencies texts fuel = .ok () ∧ catalog.Resolvable texts) ∨
      ∃ e, catalog.validateDependencies texts fuel = .error (.error e) ∧
        ¬ catalog.Resolvable texts := by
  unfold validateDependencies
  cases hcheck : catalog.validateKnown texts with
  | error e =>
      refine .inr ⟨e, rfl, fun h => ?_⟩
      rw [validateKnown_eq_ok.mpr h.known] at hcheck
      cases hcheck
  | ok u =>
      have hknown := validateKnown_eq_ok.mp hcheck
      rcases visitAll_eq (fun id y h => (hknown id y h).2) hfuel with
        ⟨hok, hacyclic⟩ | ⟨e, herror, hcycle⟩
      · exact .inl ⟨hok, hknown, hacyclic⟩
      · exact .inr ⟨e, herror, fun h => hcycle h.acyclic⟩

/-- A check of the dependencies that did not run out of fuel does not change with more. -/
theorem validateDependencies_mono {texts : Texts} {more : Nat} (hle : fuel ≤ more)
    (h : catalog.validateDependencies texts fuel ≠ .error .outOfFuel) :
    catalog.validateDependencies texts more = catalog.validateDependencies texts fuel := by
  unfold validateDependencies at h ⊢
  cases hcheck : catalog.validateKnown texts with
  | error e => rfl
  | ok u =>
      rw [hcheck] at h
      have hextends := Extends.forEach (fun id =>
        Extends.of_le (fun n => visitDependency_extends catalog n id) hle)
        catalog.packages.keys
      exact congrArg Prod.fst (hextends {} _ _ rfl h)

/-- **The check of the dependencies** returns, and passes exactly the catalogs that can be
resolved. -/
theorem validateDependencies_returns (catalog : PackageCatalog) (texts : Texts) :
    ∃ r, Returns (fun fuel => catalog.validateDependencies texts fuel) r ∧
      (r = .ok () ↔ catalog.Resolvable texts) := by
  rcases validateDependencies_eq (Nat.lt_succ_self catalog.nodes.card) with
    ⟨hrun, hresolvable⟩ | ⟨e, hrun, hnot⟩
  · refine ⟨.ok (), ⟨catalog.nodes.card + 1, fun fuel hle => ?_⟩, iff_of_true rfl hresolvable⟩
    exact (validateDependencies_mono hle (by rw [hrun]; simp)).trans hrun
  · refine ⟨.error e, ⟨catalog.nodes.card + 1, fun fuel hle => ?_⟩,
      iff_of_false (by simp) hnot⟩
    exact (validateDependencies_mono hle (by rw [hrun]; simp)).trans hrun

namespace Loading

variable {texts : Texts} {loading loading' : Loading} {p : PackageDefinition}

theorem add_eq_ok :
    loading.add texts p = .ok loading' ↔
      validateComponentId texts p.id = .ok () ∧
        Lib.Text.asciiLower p.id ∉ loading.foldedIds ∧ p.id ∉ loading.map ∧
          loading' = { map := loading.map.insert p.id p,
                       foldedIds := loading.foldedIds.insert (Lib.Text.asciiLower p.id) } := by
  rw [add, check_bind_eq_ok, check_bind_eq_ok, check_bind_eq_ok, reject_eq_ok, reject_eq_ok,
    Bool.eq_false_iff, Bool.eq_false_iff, ne_eq, ne_eq, Std.ExtTreeSet.contains_iff_mem,
    Std.ExtTreeMap.contains_iff_mem]
  refine and_congr_right fun _ => and_congr_right fun _ => and_congr_right fun _ => ?_
  constructor
  · intro h
    exact (Except.ok.inj h).symm
  · rintro rfl
    rfl

/-- The folded ids are those of the map. -/
def Folded (loading : Loading) : Prop :=
  ∀ id, id ∈ loading.map → Lib.Text.asciiLower id ∈ loading.foldedIds

theorem Folded.add (h : loading.Folded) (hadd : loading.add texts p = .ok loading') :
    loading'.Folded := by
  obtain ⟨-, -, -, rfl⟩ := add_eq_ok.mp hadd
  intro id hid
  apply BTreeSet.mem_insert.mpr
  rw [Std.ExtTreeMap.mem_insert, Std.LawfulEqCmp.compare_eq_iff_eq] at hid
  rcases hid with rfl | hid
  · exact .inl rfl
  · exact .inr (h id hid)

/-- The loop goes through exactly when the ids are safe and no two fold to the same. -/
theorem foldlM_add_eq_ok {packages : List PackageDefinition} (h : loading.Folded) :
    (∃ loading', packages.foldlM (add texts) loading = .ok loading') ↔
      (∀ p ∈ packages, validateComponentId texts p.id = .ok ()) ∧
        (packages.map fun p => Lib.Text.asciiLower p.id).Nodup ∧
          ∀ p ∈ packages, Lib.Text.asciiLower p.id ∉ loading.foldedIds := by
  induction packages generalizing loading with
  | nil => simp [pure, Except.pure]
  | cons p packages ih =>
      simp only [List.foldlM_cons, Checks.bind_eq_ok, List.forall_mem_cons, List.map_cons,
        List.nodup_cons]
      constructor
      · rintro ⟨loading', mid, hadd, hrest⟩
        obtain ⟨hsafe, hdistinct, hnew⟩ := (ih (h.add hadd)).mp ⟨loading', hrest⟩
        obtain ⟨hid, hfolded, -, rfl⟩ := add_eq_ok.mp hadd
        refine ⟨⟨hid, hsafe⟩, ⟨?_, hdistinct⟩, hfolded, ?_⟩
        · intro hmem
          obtain ⟨q, hq, hsame⟩ := List.mem_map.mp hmem
          exact hnew q hq (BTreeSet.mem_insert.mpr (.inl hsame))
        · intro q hq hmem
          exact hnew q hq (BTreeSet.mem_insert.mpr (.inr hmem))
      · rintro ⟨⟨hid, hsafe⟩, ⟨hhead, hdistinct⟩, hfolded, hnew⟩
        have hmap : p.id ∉ loading.map := fun hmem => hfolded (h p.id hmem)
        have hadd := add_eq_ok.mpr ⟨hid, hfolded, hmap, rfl⟩
        have hnext : ∀ q ∈ packages, Lib.Text.asciiLower q.id ∉
            loading.foldedIds.insert (Lib.Text.asciiLower p.id) := by
          intro q hq hmem
          rcases BTreeSet.mem_insert.mp hmem with hsame | hmem
          · exact hhead (List.mem_map.mpr ⟨q, hq, hsame⟩)
          · exact hnew q hq hmem
        obtain ⟨loading', hrest⟩ := (ih (h.add hadd)).mpr ⟨hsafe, hdistinct, hnext⟩
        exact ⟨loading', _, hadd, hrest⟩

/-- The map has the packages under their ids. -/
theorem get_foldlM_add {packages : List PackageDefinition}
    (h : packages.foldlM (add texts) loading = .ok loading') (id : String)
    (p : PackageDefinition) :
    loading'.map[id]? = some p ↔ loading.map[id]? = some p ∨ p ∈ packages ∧ p.id = id := by
  induction packages generalizing loading with
  | nil =>
      obtain rfl := Except.ok.inj h
      simp
  | cons q packages ih =>
      rw [List.foldlM_cons] at h
      obtain ⟨mid, hadd, hrest⟩ := Checks.bind_eq_ok.mp h
      obtain ⟨-, -, hnew, rfl⟩ := add_eq_ok.mp hadd
      have hnone : loading.map[q.id]? = none := Std.ExtTreeMap.getElem?_eq_none hnew
      rw [ih hrest, BTreeMap.get_insert, List.mem_cons]
      by_cases hid : id = q.id
      · subst hid
        rw [if_pos rfl, hnone]
        constructor
        · rintro (heq | hmem)
          · obtain rfl := Option.some.inj heq
            exact .inr ⟨.inl rfl, rfl⟩
          · exact .inr ⟨.inr hmem.1, hmem.2⟩
        · rintro (hfalse | ⟨rfl | hmem, hsame⟩)
          · cases hfalse
          · exact .inl rfl
          · exact .inr ⟨hmem, hsame⟩
      · rw [if_neg hid]
        constructor
        · rintro (hold | hmem)
          · exact .inl hold
          · exact .inr ⟨.inr hmem.1, hmem.2⟩
        · rintro (hold | ⟨rfl | hmem, hsame⟩)
          · exact .inl hold
          · exact absurd hsame.symm hid
          · exact .inr ⟨hmem, hsame⟩

end Loading

end PackageCatalog

/-! ## Catalog files -/

namespace CatalogFile

/-- A package of the file names the component among its dependencies. -/
def DependsOn (file : CatalogFile) (id dependency : String) : Prop :=
  ∃ p ∈ file.packages, p.id = id ∧ dependency ∈ p.dependencies

/-- No two ids are equal up to ASCII case, every dependency is an id of the file, and the
dependencies have no cycle. -/
structure Accepted (file : CatalogFile) : Prop where
  distinct : (file.packages.map fun p => Lib.Text.asciiLower p.id).Nodup
  known : ∀ id dependency, file.DependsOn id dependency →
    ∃ p ∈ file.packages, p.id = dependency
  acyclic : Acyclic file.DependsOn

end CatalogFile

namespace PackageCatalog

/-- The catalog of the packages that were read. -/
theorem dependsOn_iff {file : CatalogFile} {loading : Loading} {texts : Texts}
    (h : file.packages.foldlM (Loading.add texts) {} = .ok loading) (id dependency : String) :
    (PackageCatalog.mk loading.map).DependsOn id dependency ↔ file.DependsOn id dependency := by
  simp only [DependsOn, CatalogFile.DependsOn, Loading.get_foldlM_add h]
  simp [and_assoc]

theorem known_iff {file : CatalogFile} {loading : Loading} {texts : Texts}
    (h : file.packages.foldlM (Loading.add texts) {} = .ok loading) (id : String) :
    (PackageCatalog.mk loading.map).Known id ↔ ∃ p ∈ file.packages, p.id = id := by
  simp only [Known, Loading.get_foldlM_add h]
  simp

/-- Loading after the ids were collected. -/
theorem resolvable_iff {file : CatalogFile} {loading : Loading} {texts : Texts}
    (h : file.packages.foldlM (Loading.add texts) {} = .ok loading) :
    (PackageCatalog.mk loading.map).Resolvable texts ↔ file.Accepted := by
  obtain ⟨hsafe, hdistinct, -⟩ := (Loading.foldlM_add_eq_ok fun id hid => by simp at hid).mp
    ⟨loading, h⟩
  have hrelation : (PackageCatalog.mk loading.map).DependsOn = file.DependsOn := by
    funext id dependency
    exact propext (dependsOn_iff h id dependency)
  constructor
  · intro hresolvable
    refine ⟨hdistinct, fun id y hy => ?_, hrelation ▸ hresolvable.acyclic⟩
    rw [← hrelation] at hy
    exact (known_iff h y).mp (hresolvable.known id y hy).2
  · intro haccepted
    refine ⟨fun id y hy => ?_, hrelation.symm ▸ haccepted.acyclic⟩
    rw [hrelation] at hy
    obtain ⟨p, hp, rfl⟩ := haccepted.known id y hy
    exact ⟨hsafe p hp, (known_iff h p.id).mpr ⟨p, hp, rfl⟩⟩

theorem sound_of_resolvable {file : CatalogFile} {loading : Loading} {texts : Texts}
    (h : file.packages.foldlM (Loading.add texts) {} = .ok loading)
    (hresolvable : (PackageCatalog.mk loading.map).Resolvable texts) :
    (PackageCatalog.mk loading.map).Sound where
  named := by
    intro id p hp
    rcases (Loading.get_foldlM_add h id p).mp hp with hnone | hmem
    · simp at hnone
    · exact hmem.2
  known := fun id y hy => (hresolvable.known id y hy).2
  acyclic := hresolvable.acyclic

/-- Loading, once a file with the right schema was read. -/
theorem loadFromJson_of_file {texts : Texts} {json : String} {file : CatalogFile}
    (hfile : fromStr texts CatalogFile.codec json = .ok file)
    (hschema : file.schema = CATALOG_SCHEMA) (fuel : Nat) :
    loadFromJson texts fuel json =
      (file.packages.foldlM (Loading.add texts) {}).mapError .error >>= fun loading =>
        ((PackageCatalog.mk loading.map).validateDependencies texts fuel >>= fun _ =>
          .ok (PackageCatalog.mk loading.map)) := by
  have hpass : (reject (file.schema ≠ CATALOG_SCHEMA) (Halt.error (.other
      ("unsupported package catalog schema: " ++ texts.quote file.schema)))) = .ok () := by
    rw [reject_eq_ok, decide_eq_false_iff_not, not_not]
    exact hschema
  unfold loadFromJson
  rw [hfile]
  show (reject _ _ >>= _) = _
  rw [hpass]
  rfl

/-- **What loading answers to a file with the right schema.**  A catalog it accepts is
sound, and a file with safe ids is accepted exactly when it meets the conditions. -/
theorem loadFromJson_of_schema {texts : Texts} {json : String} {file : CatalogFile}
    (hfile : fromStr texts CatalogFile.codec json = .ok file)
    (hschema : file.schema = CATALOG_SCHEMA) :
    ∃ r, Returns (fun fuel => loadFromJson texts fuel json) r ∧
      (∀ catalog, r = .ok catalog → catalog.Sound) ∧
      ((∀ p ∈ file.packages, validateComponentId texts p.id = .ok ()) →
        ((∃ catalog, r = .ok catalog) ↔ file.Accepted)) := by
  simp only [loadFromJson_of_file hfile hschema]
  have hempty : Loading.Folded {} := fun id hid => by simp at hid
  cases hfold : file.packages.foldlM (Loading.add texts) {} with
  | error e =>
      refine ⟨.error e, ⟨0, fun fuel _ => rfl⟩, by simp, fun hsafe => ?_⟩
      refine iff_of_false (by simp) fun haccepted => ?_
      obtain ⟨loading, hloading⟩ := (Loading.foldlM_add_eq_ok hempty).mpr
        ⟨hsafe, haccepted.distinct, by simp⟩
      rw [hfold] at hloading
      cases hloading
  | ok loading =>
      obtain ⟨r, ⟨enough, hreturns⟩, hiff⟩ :=
        validateDependencies_returns (PackageCatalog.mk loading.map) texts
      dsimp only at hreturns
      rw [resolvable_iff hfold] at hiff
      cases r with
      | error e =>
          refine ⟨.error e, ⟨enough, fun fuel hle => ?_⟩, by simp, fun _ => ?_⟩
          · show ((PackageCatalog.mk loading.map).validateDependencies texts fuel >>= _) = _
            rw [hreturns fuel hle]
            rfl
          · exact iff_of_false (by simp) fun haccepted => by simp [haccepted] at hiff
      | ok u =>
          have haccepted := hiff.mp rfl
          refine ⟨.ok (PackageCatalog.mk loading.map), ⟨enough, fun fuel hle => ?_⟩, ?_,
            fun _ => iff_of_true ⟨_, rfl⟩ haccepted⟩
          · show ((PackageCatalog.mk loading.map).validateDependencies texts fuel >>= _) = _
            rw [hreturns fuel hle]
            rfl
          · intro catalog heq
            rw [← Except.ok.inj heq]
            exact sound_of_resolvable hfold ((resolvable_iff hfold).mpr haccepted)

/-- **What loading answers.** -/
theorem loadFromJson_returns (texts : Texts) (json : String) :
    ∃ r, Returns (fun fuel => loadFromJson texts fuel json) r ∧
      (∀ catalog, r = .ok catalog → catalog.Sound) ∧
      ∀ file, fromStr texts CatalogFile.codec json = .ok file →
        file.schema = CATALOG_SCHEMA →
        (∀ p ∈ file.packages, validateComponentId texts p.id = .ok ()) →
        ((∃ catalog, r = .ok catalog) ↔ file.Accepted) := by
  cases hfile : fromStr texts CatalogFile.codec json with
  | error e =>
      refine ⟨.error e, ⟨0, fun fuel _ => ?_⟩, by simp, by simp⟩
      show loadFromJson texts fuel json = _
      rw [loadFromJson, hfile]
      rfl
  | ok file =>
      by_cases hschema : file.schema = CATALOG_SCHEMA
      · obtain ⟨r, hreturns, hsound, haccepted⟩ := loadFromJson_of_schema hfile hschema
        refine ⟨r, hreturns, hsound, ?_⟩
        intro file' heq _
        obtain rfl := Except.ok.inj heq
        exact haccepted
      · refine ⟨.error (.other ("unsupported package catalog schema: " ++
          texts.quote file.schema)), ⟨0, fun fuel _ => ?_⟩, by simp, ?_⟩
        · show loadFromJson texts fuel json = _
          rw [loadFromJson, hfile]
          show (reject (file.schema ≠ CATALOG_SCHEMA) _ >>= _) = _
          rw [decide_eq_true hschema]
          rfl
        · intro file' heq hschema'
          rw [← Except.ok.inj heq] at hschema'
          exact absurd hschema' hschema

end PackageCatalog

/-! ## The closure -/

namespace PackageCatalog

/-- The list is in ascending order, without repetitions, and has the least set with the
required packages, the selected known packages, and the dependencies of its elements. -/
def IsClosure (catalog : PackageCatalog) (selected : BTreeSet) (resolved : List String) :
    Prop :=
  resolved.Pairwise (· < ·) ∧
    IsLeast {C | catalog.required ∪ catalog.wanted selected ⊆ C ∧
      Closed catalog.DependsOn C} {x | x ∈ resolved}

/-- Each direct dependency of a required package is required, or is reached from a selected
known package without a step from a required one. -/
def Covers (catalog : PackageCatalog) (selected : BTreeSet) : Prop :=
  ∀ x, catalog.Required x → ∀ y, catalog.DependsOn x y →
    catalog.Required y ∨ ∃ s, s ∈ selected ∧ catalog.Known s ∧
      ReflTransGen (fun a b => ¬ catalog.Required a ∧ catalog.DependsOn a b) s y

theorem covers_iff {catalog : PackageCatalog} {selected : BTreeSet} :
    catalog.Covers selected ↔ ∀ x ∈ catalog.required, ∀ y, catalog.DependsOn x y →
      y ∈ stopped catalog.DependsOn catalog.required (catalog.wanted selected) := by
  refine forall_congr' fun x => imp_congr_right fun _ => forall_congr' fun y =>
    imp_congr_right fun _ => or_congr Iff.rfl ?_
  constructor
  · rintro ⟨s, hs, hknown, hreach⟩
    exact ⟨s, ⟨hs, hknown⟩, hreach⟩
  · rintro ⟨s, ⟨hs, hknown⟩, hreach⟩
    exact ⟨s, hs, hknown, hreach⟩

theorem resolveWithDeps_returns {catalog : PackageCatalog} (hsound : catalog.Sound)
    (selected : BTreeSet) :
    ∃ resolved, Returns (fun fuel => catalog.resolveWithDeps fuel selected) (.ok resolved) ∧
      resolved.Pairwise (· < ·) ∧ {x | x ∈ resolved} =
        stopped catalog.DependsOn catalog.required (catalog.wanted selected) := by
  obtain ⟨out, hrun, hout⟩ :=
    resolveWithDeps_eq hsound (Nat.lt_succ_self catalog.nodes.card) selected
  refine ⟨out.toList, ⟨catalog.nodes.card + 1, fun fuel hle => ?_⟩, out.pairwise_toList, ?_⟩
  · exact (resolveWithDeps_mono hle (by rw [hrun]; simp)).trans hrun
  · rw [← hout]
    ext x
    exact Std.ExtTreeSet.mem_toList

/-- **Component resolution is the dependency closure exactly when the selection covers the
dependencies of the required packages.**  Loading returns, and a well-formed catalog with
safe ids is accepted exactly when no two ids are equal up to ASCII case, every dependency is
an id and there is no cycle.  For an accepted catalog resolution returns. -/
theorem componentClosure (texts : Texts) (json : String) :
    (∃ r, Returns (fun fuel => loadFromJson texts fuel json) r) ∧
      (∀ file, fromStr texts CatalogFile.codec json = .ok file →
        file.schema = CATALOG_SCHEMA →
        (∀ p ∈ file.packages, validateComponentId texts p.id = .ok ()) →
        ((∃ catalog, Returns (fun fuel => loadFromJson texts fuel json) (.ok catalog)) ↔
          file.Accepted)) ∧
      ∀ catalog, Returns (fun fuel => loadFromJson texts fuel json) (.ok catalog) →
        ∀ selected, ∃ resolved,
          Returns (fun fuel => catalog.resolveWithDeps fuel selected) (.ok resolved) ∧
            (catalog.IsClosure selected resolved ↔ catalog.Covers selected) := by
  obtain ⟨r, hreturns, hsound, haccepted⟩ := loadFromJson_returns texts json
  refine ⟨⟨r, hreturns⟩, ?_, ?_⟩
  · intro file hfile hschema hsafe
    rw [← haccepted file hfile hschema hsafe]
    constructor
    · rintro ⟨catalog, h⟩
      exact ⟨catalog, hreturns.unique h⟩
    · rintro ⟨catalog, rfl⟩
      exact ⟨catalog, hreturns⟩
  · intro catalog h selected
    obtain ⟨resolved, hrun, hsorted, hmembers⟩ :=
      resolveWithDeps_returns (hsound catalog (hreturns.unique h)) selected
    refine ⟨resolved, hrun, ?_⟩
    rw [IsClosure, hmembers, isLeast_stopped_iff, and_iff_right hsorted, covers_iff]

/-- A catalog whose required package depends on another one. -/
def sampleJson : String :=
  "\x7b\"schema\":\"driver-foundry.catalog/v1\",\"packages\":[" ++
    "\x7b\"id\":\"A\",\"required\":true,\"dependencies\":[\"B\"]\x7d," ++
    "\x7b\"id\":\"B\"\x7d]\x7d"

/-- The value of the text. -/
def sampleValue : Value :=
  .object [("schema", .string "driver-foundry.catalog/v1"), ("packages", .array [
    .object [("id", .string "A"), ("required", .bool true),
      ("dependencies", .array [.string "B"])],
    .object [("id", .string "B")]])]

def sampleTexts : Texts where
  parse := fun text => if text = sampleJson then .ok sampleValue else .error "expected value"
  mismatch := fun _ => "invalid type"
  quote := fun text => "\"" ++ text ++ "\""

/-- The two packages of the sample. -/
def samplePackages : List PackageDefinition :=
  [{ id := "A", required := true, dependencies := ["B"] }, { id := "B" }]

def sampleCatalog : PackageCatalog where
  packages := samplePackages.foldl (fun map p => map.insert p.id p) ∅

/-- The sample is accepted. -/
theorem sample_loads :
    Returns (fun fuel => loadFromJson sampleTexts fuel sampleJson) (.ok sampleCatalog) := by
  have hfile : fromStr sampleTexts CatalogFile.codec sampleJson =
      .ok { schema := CATALOG_SCHEMA, packages := samplePackages } := by decide +kernel
  have hfold : samplePackages.foldlM (Loading.add sampleTexts) {} =
      .ok { map := sampleCatalog.packages,
            foldedIds := .ofList (samplePackages.map fun p => Text.asciiLower p.id) } := by
    rw [samplePackages, List.foldlM_cons, Checks.bind_eq_ok]
    refine ⟨_, Loading.add_eq_ok.mpr ⟨by decide +kernel, by simp, by simp, rfl⟩, ?_⟩
    rw [List.foldlM_cons, Checks.bind_eq_ok]
    refine ⟨_, Loading.add_eq_ok.mpr ⟨by decide +kernel, ?_, ?_, rfl⟩, rfl⟩
    · decide +kernel
    · decide +kernel
  have hrun : sampleCatalog.validateDependencies sampleTexts 3 = .ok () := by decide +kernel
  refine ⟨3, fun fuel hle => ?_⟩
  show loadFromJson sampleTexts fuel sampleJson = .ok sampleCatalog
  rw [loadFromJson_of_file hfile rfl, hfold]
  show (sampleCatalog.validateDependencies sampleTexts fuel >>= _) = _
  rw [validateDependencies_mono hle (by rw [hrun]; simp), hrun]
  rfl

/-- **The dependency of a required package is left out.**  Nothing is selected, and the
required package alone is resolved, without what it depends on. -/
theorem requiredDependency_missing :
    Returns (fun fuel => loadFromJson sampleTexts fuel sampleJson) (.ok sampleCatalog) ∧
      Returns (fun fuel => sampleCatalog.resolveWithDeps fuel ∅) (.ok ["A"]) ∧
      ¬ sampleCatalog.IsClosure ∅ ["A"] := by
  refine ⟨sample_loads, ⟨2, fun fuel hle => ?_⟩, ?_⟩
  · have hrun : sampleCatalog.resolveWithDeps 2 ∅ = .ok ["A"] := by decide +kernel
    exact (resolveWithDeps_mono hle (by rw [hrun]; simp)).trans hrun
  · intro h
    have hedge : sampleCatalog.DependsOn "A" "B" :=
      ⟨{ id := "A", required := true, dependencies := ["B"] }, by decide +kernel, by simp⟩
    have hmem := h.2.1.2 "A" (by simp) "B" hedge
    simp at hmem

theorem sample_dependsOn {id dependency : String}
    (h : sampleCatalog.DependsOn id dependency) : dependency = "B" := by
  obtain ⟨p, hp, hmem⟩ := h
  have hget : sampleCatalog.packages[id]? = if id = "B" then some { id := "B" }
      else if id = "A" then some { id := "A", required := true, dependencies := ["B"] }
      else none := by
    simp only [sampleCatalog, samplePackages, List.foldl_cons, List.foldl_nil,
      BTreeMap.get_insert, Std.ExtTreeMap.getElem?_empty]
  rw [hget] at hp
  split at hp
  · obtain rfl := Option.some.inj hp
    cases hmem
  · split at hp
    · obtain rfl := Option.some.inj hp
      exact List.mem_singleton.mp hmem
    · cases hp

/-- The selection of the dependency makes it the closure. -/
theorem componentClosure_sample :
    ∃ resolved,
      Returns (fun fuel => sampleCatalog.resolveWithDeps fuel (.ofList ["B"])) (.ok resolved) ∧
        sampleCatalog.IsClosure (.ofList ["B"]) resolved := by
  obtain ⟨resolved, hrun, hiff⟩ := (componentClosure sampleTexts sampleJson).2.2
    sampleCatalog sample_loads (.ofList ["B"])
  refine ⟨resolved, hrun, hiff.mpr fun x _ y hedge => .inr ⟨"B", by simp, ?_, ?_⟩⟩
  · exact ⟨{ id := "B" }, by decide +kernel⟩
  · rw [sample_dependsOn hedge]

end PackageCatalog

end FrametimeCfg.DriverFoundry
