import FrametimeCfg.Domain.DriverEvidence

/-!
# Lists of driver packages

Two loops check a list of packages: the one over the input of a plan asks for
different names, the one over a package set for names in strictly ascending order.
Here each loop is the conjunction it decides.  Sorting turns the first into the
second.
-/

namespace FrametimeCfg.Verified.PackageSets

open FrametimeCfg.Domain
open FrametimeCfg.Lib.Checks

variable {gpu : ExactGpuIdentity} {packages : List PublishedDriverPackage}

/-- The canonical order of package names. -/
def Before (first second : OemPublishedName) : Prop := first.value < second.value

theorem Before.ne {first second : OemPublishedName} (h : Before first second) :
    first ≠ second := by
  intro heq
  rw [heq] at h
  exact lt_irrefl _ h

/-- A name is its text. -/
theorem ext_name {first second : OemPublishedName} (h : first.value = second.value) :
    first = second := by
  cases first
  cases second
  rw [OemPublishedName.mk.injEq]
  exact h

/-- The names of a list of packages. -/
def namesOf (packages : List PublishedDriverPackage) : List OemPublishedName :=
  packages.map PublishedDriverPackage.publishedName

@[simp] theorem namesOf_nil : namesOf [] = [] := rfl

@[simp] theorem namesOf_cons (package : PublishedDriverPackage) :
    namesOf (package :: packages) = package.publishedName :: namesOf packages := rfl

theorem names_eq (set : CanonicalPackageSet) :
    set.names = (namesOf set.packages).toFinset := rfl

/-- Names in strictly ascending order are different. -/
theorem nodup_of_pairwise {names : List OemPublishedName} (h : names.Pairwise Before) :
    names.Nodup :=
  h.imp fun hlt => hlt.ne

/-! ## The loops -/

/-- The loop over the packages of an input. -/
theorem validateInputPackages_eq_ok {names : List OemPublishedName} :
    validateInputPackages gpu names packages = .ok () ↔
      (∀ package ∈ packages, package.validateFor gpu = .ok ()) ∧
        (∀ name ∈ namesOf packages, name ∉ names) ∧ (namesOf packages).Nodup := by
  induction packages generalizing names with
  | nil => simp [validateInputPackages]
  | cons package packages ih =>
      rw [validateInputPackages, check_bind_eq_ok, check_bind_eq_ok, reject_eq_ok, ih,
        decide_eq_false_iff_not, namesOf_cons, List.nodup_cons, List.forall_mem_cons,
        List.forall_mem_cons]
      simp only [List.mem_cons, not_or]
      constructor
      · intro ⟨hvalid, hfresh, hrest, hothers, hnodup⟩
        have hnotin : package.publishedName ∉ namesOf packages := by
          intro hmem
          exact (hothers _ hmem).1 rfl
        exact ⟨⟨hvalid, hrest⟩, ⟨hfresh, fun name hname => (hothers name hname).2⟩,
          hnotin, hnodup⟩
      · intro ⟨⟨hvalid, hrest⟩, ⟨hfresh, hothers⟩, hnotin, hnodup⟩
        have hne : ∀ name ∈ namesOf packages, name ≠ package.publishedName := by
          intro name hname heq
          exact hnotin (heq ▸ hname)
        exact ⟨hvalid, hfresh, hrest, fun name hname => ⟨hne name hname, hothers name hname⟩,
          hnodup⟩

/-- The loop over the packages of a set.  The earlier names are at most the last of
them, so the comparison with that one decides. -/
theorem validatePackages_eq_ok {names : List OemPublishedName}
    {previous : Option OemPublishedName}
    (hlast : ∀ name ∈ names, ∃ prior ∈ previous, name.value ≤ prior.value) :
    validatePackages gpu names previous packages = .ok () ↔
      (∀ package ∈ packages, package.validateFor gpu = .ok ()) ∧
        (∀ prior ∈ previous, ∀ name ∈ namesOf packages, Before prior name) ∧
        (namesOf packages).Pairwise Before := by
  induction packages generalizing names previous with
  | nil => simp [validatePackages]
  | cons package packages ih =>
      have hnext : ∀ name ∈ package.publishedName :: names,
          (∀ prior ∈ previous, Before prior package.publishedName) →
          ∃ prior ∈ some package.publishedName, name.value ≤ prior.value := by
        intro name hname hbefore
        refine ⟨package.publishedName, rfl, ?_⟩
        rcases List.mem_cons.mp hname with rfl | hearlier
        · exact le_refl _
        · obtain ⟨prior, hprior, hle⟩ := hlast name hearlier
          exact hle.trans (hbefore prior hprior).le
      have hcheck : (decide (package.publishedName ∈ names) ||
          previous.any fun prior => decide (package.publishedName.value ≤ prior.value)) = false ↔
          ∀ prior ∈ previous, Before prior package.publishedName := by
        rw [Bool.or_eq_false_iff, decide_eq_false_iff_not]
        constructor
        · intro ⟨_, hany⟩ prior hprior
          rw [Option.mem_def] at hprior
          rw [hprior, Option.any_some, decide_eq_false_iff_not, not_le] at hany
          exact hany
        · intro hbefore
          constructor
          · intro hmem
            obtain ⟨prior, hprior, hle⟩ := hlast _ hmem
            exact absurd (hbefore prior hprior) (not_lt.mpr hle)
          · cases previous with
            | none => rfl
            | some prior =>
                rw [Option.any_some, decide_eq_false_iff_not, not_le]
                exact hbefore prior rfl
      rw [validatePackages, check_bind_eq_ok, check_bind_eq_ok, reject_eq_ok, hcheck]
      constructor
      · intro ⟨hvalid, hbefore, hrest⟩
        rw [ih fun name hname => hnext name hname hbefore] at hrest
        obtain ⟨hothers, hafter, hsorted⟩ := hrest
        have hhead := hafter package.publishedName rfl
        refine ⟨List.forall_mem_cons.mpr ⟨hvalid, hothers⟩, fun prior hprior => ?_,
          List.pairwise_cons.mpr ⟨hhead, hsorted⟩⟩
        have hfirst := hbefore prior hprior
        exact List.forall_mem_cons.mpr
          ⟨hfirst, fun name hname => lt_trans hfirst (hhead name hname)⟩
      · intro ⟨hvalid, hbefore, hsorted⟩
        obtain ⟨hfirst, hothers⟩ := List.forall_mem_cons.mp hvalid
        obtain ⟨hhead, htail⟩ := List.pairwise_cons.mp hsorted
        have hprior : ∀ prior ∈ previous, Before prior package.publishedName :=
          fun prior hmem => hbefore prior hmem _ (by simp)
        refine ⟨hfirst, hprior, ?_⟩
        rw [ih fun name hname => hnext name hname hprior]
        refine ⟨hothers, fun prior hmem => ?_, htail⟩
        obtain rfl := Option.some.inj hmem
        exact hhead

/-- **A canonical set**: packages of the GPU with names in strictly ascending order. -/
theorem validate_eq_ok {set : CanonicalPackageSet} :
    set.validate = .ok () ↔ set.targetGpu.validate = .ok () ∧
      (∀ package ∈ set.packages, package.validateFor set.targetGpu = .ok ()) ∧
      (namesOf set.packages).Pairwise Before := by
  rw [CanonicalPackageSet.validate, check_bind_eq_ok, validatePackages_eq_ok (by simp)]
  simp

/-! ## Sorting -/

theorem mem_sortPackages {package : PublishedDriverPackage} :
    package ∈ sortPackages packages ↔ package ∈ packages :=
  List.mem_insertionSort _

theorem names_sortPackages_perm (packages : List PublishedDriverPackage) :
    (namesOf (sortPackages packages)).Perm (namesOf packages) :=
  (List.perm_insertionSort _ _).map _

/-- Packages with different names are sorted into strictly ascending order. -/
theorem pairwise_sortPackages (h : (namesOf packages).Nodup) :
    (namesOf (sortPackages packages)).Pairwise Before := by
  have hnodup : (namesOf (sortPackages packages)).Nodup :=
    (names_sortPackages_perm packages).nodup_iff.mpr h
  have hle : (sortPackages packages).Pairwise fun left right =>
      left.publishedName.value ≤ right.publishedName.value := by
    have htotal : Std.Total fun left right : PublishedDriverPackage =>
        left.publishedName.value ≤ right.publishedName.value :=
      ⟨fun left right => le_total _ _⟩
    have htrans : IsTrans PublishedDriverPackage fun left right =>
        left.publishedName.value ≤ right.publishedName.value :=
      ⟨fun _ _ _ => le_trans⟩
    exact List.pairwise_insertionSort _ _
  have hle' : (namesOf (sortPackages packages)).Pairwise fun first second =>
      first.value ≤ second.value := List.pairwise_map.mpr hle
  exact (hle'.and hnodup).imp fun ⟨hvalue, hne⟩ =>
    lt_of_le_of_ne hvalue fun heq => hne (ext_name heq)

/-- Packages in the order of their names are sorted already. -/
theorem sortPackages_eq_self (h : (namesOf packages).Pairwise Before) :
    sortPackages packages = packages := by
  apply List.Pairwise.insertionSort_eq
  exact (List.pairwise_map.mp h).imp fun hlt => le_of_lt hlt

end FrametimeCfg.Verified.PackageSets
