import FrametimeCfg.Verified.PowerPlanListing
import Mathlib.Data.List.Nodup

/-!
# The restore of a power plan

The original plan is set, its readback is compared with the spelling of the record, and the
plans of the suite are deleted one after the other.  Both comparisons are exact although the
listings print lower case, and a plan with a blank name is not read at all.

* `forEach_clean` — the deletions up to the first plan under another name.
* `powerPlanRestore` — when the restore is exact.
-/

namespace FrametimeCfg.Verified.PowerPlanRestore

open FrametimeCfg.Domain
open FrametimeCfg.Lib.Checks (reject reject_eq_ok)
open FrametimeCfg.Lib.Effect
open FrametimeCfg.Lib.OrderedMap
open FrametimeCfg.Lib.Text
open FrametimeCfg.Verified.PowerPlanListing
open FrametimeCfg.Windows.PowerPlan

/-! ## One deletion -/

/-- Whether a plan is found under an identifier of the record: the spelling is compared
exactly, and a plan with a blank name is not read. -/
def isFound (guid : String) (plan : Plan) : Bool :=
  plan.guid = guid.toList && trim plan.name ≠ []

theorem isFound_iff {guid : String} {plan : Plan} :
    isFound guid plan = true ↔ plan.guid = guid.toList ∧ trim plan.name ≠ [] := by
  unfold isFound
  rw [Bool.and_eq_true, decide_eq_true_eq, decide_eq_true_eq]

/-- The plan that is found under an identifier. -/
def listed (s : PlanSet) (guid : String) : Option Plan := s.plans.find? (isFound guid)

theorem listed_eq_some {s : PlanSet} {guid : String} {plan : Plan}
    (h : listed s guid = some plan) :
    plan ∈ s.plans ∧ plan.guid = guid.toList ∧ trim plan.name ≠ [] :=
  ⟨List.mem_of_find?_eq_some h, isFound_iff.mp (List.find?_some h)⟩

/-- The plans of a system have different identifiers. -/
theorem plan_unique {s : PlanSet} {plan plan' : Plan} (h : plan ∈ s.plans)
    (h' : plan' ∈ s.plans) (hguid : plan.guid = plan'.guid) : plan = plan' :=
  List.inj_on_of_nodup_map s.distinct h h' hguid

theorem listed_of_found {s : PlanSet} {guid : String} {plan : Plan} (h : plan ∈ s.plans)
    (hplan : isFound guid plan = true) : listed s guid = some plan := by
  cases hfound : listed s guid with
  | none => exact absurd hplan (List.find?_eq_none.mp hfound plan h)
  | some found =>
    obtain ⟨hmem, hguid, _⟩ := listed_eq_some hfound
    rw [plan_unique hmem h (hguid.trans (isFound_iff.mp hplan).1.symm)]

/-- The plan that the code reads from the list. -/
theorem find_list (format : ListingFormat) (s : PlanSet) (guid : String) :
    ((lines (format.list s)).filterMap parsePowerPlanLine).find?
        (fun plan => plan.guid = guid.toList) =
      (listed s guid).map fun plan => { guid := plan.guid, name := trim plan.name } := by
  rw [parsed_list, List.find?_filterMap]
  have hpred : (fun plan => (visible plan).any fun plan => decide (plan.guid = guid.toList)) =
      isFound guid := by
    funext plan
    unfold visible isFound
    by_cases hname : trim plan.name = []
    · simp [hname]
    · simp [hname]
  rw [hpred]
  show (listed s guid).bind visible = _
  cases hfound : listed s guid with
  | none => rfl
  | some plan =>
    rw [Option.bind_some, visible, if_neg (listed_eq_some hfound).2.2, Option.map_some]

section Deletion

variable (format : ListingFormat) {s : PlanSet} {guid : String}

/-- A plan that is not found is passed over. -/
theorem deleteSuitePlan_none (h : listed s guid = none) :
    deleteSuitePlan format guid s = (.ok (), s) := by
  unfold deleteSuitePlan
  rw [bind_apply_ok (gets_apply _ s), find_list, h]
  rfl

/-- A plan under another name ends the restore. -/
theorem deleteSuitePlan_other {plan : Plan} (h : listed s guid = some plan)
    (hname : trim plan.name ≠ SUITE_POWER_PLAN_NAME) :
    deleteSuitePlan format guid s =
      (.error "suite power-plan provenance is no longer exact", s) := by
  unfold deleteSuitePlan
  rw [bind_apply_ok (gets_apply _ s), find_list, h]
  simp only [Option.map_some]
  refine bind_apply_error ?_
  rw [ofExcept_apply, reject, if_pos (by simpa using hname)]

/-- A plan under the name of the suite is deleted. -/
theorem deleteSuitePlan_suite {plan : Plan} (h : listed s guid = some plan)
    (hname : trim plan.name = SUITE_POWER_PLAN_NAME) (hactive : guid.toList ≠ s.active) :
    ∃ t, deleteSuitePlan format guid s = (.ok (), t) ∧ t.active = s.active ∧
      t.plans = s.plans.filter fun plan => plan.guid ≠ guid.toList := by
  obtain ⟨hmem, hguid, _⟩ := listed_eq_some h
  have hlower : lowerChars guid.toList = guid.toList := by
    rw [← hguid]
    exact lowerChars_of_canonical (s.canonical plan hmem)
  have hknown : ¬ lowerChars guid.toList ∉ s.plans.map (·.guid) := by
    rw [hlower, ← hguid, not_not]
    exact List.mem_map_of_mem hmem
  have hother : lowerChars guid.toList ≠ s.active := by rwa [hlower]
  obtain ⟨t, hdelete, hactive', hplans⟩ : ∃ t, deletePlan guid s = (.ok (), t) ∧
      t.active = s.active ∧ t.plans = s.plans.filter fun plan => plan.guid ≠ guid.toList := by
    unfold deletePlan
    rw [if_neg hknown, dif_neg hother]
    exact ⟨_, rfl, rfl, by simp only [hlower]⟩
  have hgone : ((lines (format.list t)).filterMap findPowerGuid).any (· = guid.toList) =
      false := by
    rw [found_list, hplans]
    simp
  have hpass : ofExcept (reject (trim plan.name ≠ SUITE_POWER_PLAN_NAME)
      "suite power-plan provenance is no longer exact") s = (.ok (), s) := by
    rw [ofExcept_apply, reject, if_neg (by simpa using hname)]
  refine ⟨t, ?_, hactive', hplans⟩
  unfold deleteSuitePlan
  rw [bind_apply_ok (gets_apply _ s), find_list, h]
  simp only [Option.map_some]
  rw [bind_apply_ok hpass, bind_apply_ok hdelete, bind_apply_ok (gets_apply _ t), ofExcept_apply, hgone, reject,
    if_neg Bool.false_ne_true]

/-- A deletion only removes plans. -/
theorem deleteSuitePlan_subset {s t : PlanSet} {r : Except String Unit}
    (h : deleteSuitePlan format guid s = (r, t)) (hactive : guid.toList ≠ s.active) :
    t.plans ⊆ s.plans ∧ t.active = s.active := by
  cases hfound : listed s guid with
  | none =>
    rw [deleteSuitePlan_none format hfound] at h
    cases h
    exact ⟨List.Subset.refl _, rfl⟩
  | some plan =>
    by_cases hname : trim plan.name = SUITE_POWER_PLAN_NAME
    · obtain ⟨t', hrun, hactive', hplans⟩ := deleteSuitePlan_suite format hfound hname hactive
      rw [hrun] at h
      cases h
      rw [hplans]
      exact ⟨fun _ => List.mem_of_mem_filter, hactive'⟩
    · rw [deleteSuitePlan_other format hfound hname] at h
      cases h
      exact ⟨List.Subset.refl _, rfl⟩

end Deletion

/-! ## The loop -/

section Loop

variable (format : ListingFormat)

/-- The plans that are found among identifiers have the name of the suite, up to blanks. -/
def Clean (s : PlanSet) (guids : List String) : Prop :=
  ∀ guid ∈ guids, ∀ plan, listed s guid = some plan → trim plan.name = SUITE_POWER_PLAN_NAME

/-- The loop only removes plans. -/
theorem forEach_subset {guids : List String} {s t : PlanSet} {r : Except String Unit}
    (h : forEach (deleteSuitePlan format) guids s = (r, t))
    (hactive : ∀ guid ∈ guids, guid.toList ≠ s.active) : t.plans ⊆ s.plans := by
  induction guids generalizing s with
  | nil =>
    cases h
    exact List.Subset.refl _
  | cons guid guids ih =>
    have hguid := hactive guid (by simp)
    rcases bind_cases h with ⟨e, hstep, _⟩ | ⟨_, s', hstep, hrest⟩
    · exact (deleteSuitePlan_subset format hstep hguid).1
    · obtain ⟨hsubset, hsame⟩ := deleteSuitePlan_subset format hstep hguid
      refine List.Subset.trans (ih hrest fun g hg => ?_) hsubset
      rw [hsame]
      exact hactive g (by simp [hg])

/-- **The deletions before the first plan under another name**: every plan that is found is
deleted, and no other. -/
theorem forEach_clean {guids : List String} {s : PlanSet} (hclean : Clean s guids)
    (hactive : ∀ guid ∈ guids, guid.toList ≠ s.active) :
    ∃ t, forEach (deleteSuitePlan format) guids s = (.ok (), t) ∧ t.active = s.active ∧
      t.plans = s.plans.filter fun plan => guids.all fun guid => !isFound guid plan := by
  induction guids generalizing s with
  | nil => exact ⟨s, rfl, rfl, by simp⟩
  | cons guid guids ih =>
    obtain ⟨s', hstep, hsame, hplans⟩ : ∃ s', deleteSuitePlan format guid s = (.ok (), s') ∧
        s'.active = s.active ∧ s'.plans = s.plans.filter fun plan => !isFound guid plan := by
      cases hfound : listed s guid with
      | none =>
        refine ⟨s, deleteSuitePlan_none format hfound, rfl, ?_⟩
        symm
        refine List.filter_eq_self.mpr fun plan hplan => ?_
        simpa using List.find?_eq_none.mp hfound plan hplan
      | some found =>
        have hname := hclean guid (by simp) found hfound
        obtain ⟨s', hstep, hsame, hplans⟩ :=
          deleteSuitePlan_suite format hfound hname (hactive guid (by simp))
        refine ⟨s', hstep, hsame, hplans.trans (List.filter_congr fun plan hplan => ?_)⟩
        obtain ⟨hmem, hguid, hblank⟩ := listed_eq_some hfound
        -- the plan with this identifier is the one that was found
        by_cases heq : plan.guid = guid.toList
        · have hsame := plan_unique hplan hmem (heq.trans hguid.symm)
          simp [isFound, hsame, hguid, hblank]
        · simp [isFound, heq]
    have hclean' : Clean s' guids := by
      intro g hg plan hlisted
      obtain ⟨hmem, hfound⟩ := listed_eq_some hlisted
      rw [hplans] at hmem
      exact hclean g (by simp [hg]) plan
        (listed_of_found (List.mem_of_mem_filter hmem) (isFound_iff.mpr hfound))
    have hactive' : ∀ g ∈ guids, g.toList ≠ s'.active := by
      intro g hg
      rw [hsame]
      exact hactive g (by simp [hg])
    obtain ⟨t, hrest, hsame', hplans'⟩ := ih hclean' hactive'
    refine ⟨t, (bind_apply_ok hstep).trans hrest, hsame'.trans hsame, ?_⟩
    rw [hplans', hplans, List.filter_filter]
    simp only [List.all_cons, Bool.and_comm]

end Loop

/-! ## The original plan -/

theorem eqIgnoreAsciiCase_iff {a b : String} :
    eqIgnoreAsciiCase a b = true ↔ lowerChars a.toList = lowerChars b.toList := by
  unfold eqIgnoreAsciiCase asciiLower lowerChars
  rw [decide_eq_true_eq, ← String.toList_inj, String.toList_map, String.toList_map]

/-- What the entry checks establish of the identifiers. -/
theorem checked {step original : String} {suite : List String} {unknown : BTreeMap Value}
    (h : checkPowerPlanRecord step original suite unknown = .ok ()) :
    (∀ guid ∈ suite, lowerChars guid.toList ≠ lowerChars original.toList) ∧
    ∀ a ∈ suite, ∀ b ∈ suite, lowerChars a.toList = lowerChars b.toList → a = b := by
  simp only [checkPowerPlanRecord, FrametimeCfg.Lib.Checks.bind_eq_ok, reject_eq_ok,
    Bool.or_eq_false_iff, List.any_eq_false, Bool.not_eq_true, Bool.or_eq_true, Prod.forall] at h
  obtain ⟨_, _, ⟨_, hvalid⟩, hrepeated⟩ := h
  have hbefore : ∀ (i j : Nat) (a b : String), i < j → suite[i]? = some a →
      suite[j]? = some b → lowerChars a.toList ≠ lowerChars b.toList := by
    intro i j a b hij ha hb heq
    have hmem : a ∈ suite.take j := by
      refine List.mem_of_getElem? (i := i) ?_
      rw [List.getElem?_take_of_lt hij, ha]
    have hdistinct := hrepeated b j (List.mk_mem_zipIdx_iff_getElem?.mpr hb) a hmem
    rw [eqIgnoreAsciiCase_iff.mpr heq] at hdistinct
    cases hdistinct
  refine ⟨fun guid hguid heq => hvalid guid hguid (.inr (eqIgnoreAsciiCase_iff.mpr heq)), ?_⟩
  intro a ha b hb heq
  obtain ⟨i, hi⟩ := List.getElem?_of_mem ha
  obtain ⟨j, hj⟩ := List.getElem?_of_mem hb
  rcases Nat.lt_trichotomy i j with hij | rfl | hij
  · exact absurd heq (hbefore i j a b hij hi hj)
  · exact Option.some.inj (hi.symm.trans hj)
  · exact absurd heq.symm (hbefore j i b a hij hj hi)

/-- The original plan is read back: its record is in lower case and its name is not blank. -/
def Readable (s : PlanSet) (original : String) : Prop :=
  lowerChars original.toList = original.toList ∧
  ∀ plan ∈ s.plans, plan.guid = lowerChars original.toList → trim plan.name ≠ []

section Original

variable (format : ListingFormat) {s : PlanSet} {original : String}

/-- The state in which the original plan is active. -/
theorem setActive_known (h : ∃ plan ∈ s.plans, plan.guid = lowerChars original.toList) :
    ∃ t, setActive original s = (.ok (), t) ∧ t.plans = s.plans ∧
      t.active = lowerChars original.toList := by
  obtain ⟨plan, hplan, hguid⟩ := h
  have hknown : lowerChars original.toList ∈ s.plans.map (·.guid) :=
    hguid ▸ List.mem_map_of_mem hplan
  unfold setActive
  rw [dif_pos hknown]
  exact ⟨_, rfl, rfl, rfl⟩

/-- The readback is that of the active plan, and fails where its name is blank. -/
theorem readback {plan : Plan} (hplan : plan ∈ s.plans) (hactive : plan.guid = s.active) :
    parseActivePowerPlan (format.activeScheme s) =
      if trim plan.name = [] then
        .error "powercfg active-plan output has no exact GUID/name pair"
      else .ok { guid := plan.guid, name := trim plan.name } := by
  have honly : (s.plans.filter fun plan => plan.guid = s.active) = [plan] := by
    have hnodup : s.plans.Nodup := List.Nodup.of_map _ s.distinct
    have hpred : (s.plans.filter fun plan => plan.guid = s.active) =
        s.plans.filter fun plan' => plan' = plan :=
      List.filter_congr fun plan' hplan' => by
        rw [decide_eq_decide, ← hactive]
        exact ⟨fun hguid => plan_unique hplan' hplan hguid, fun heq => by rw [heq]⟩
    rw [hpred, List.filter_eq, List.count_eq_one_of_mem hnodup hplan]
    rfl
  unfold parseActivePowerPlan
  rw [parsed_activeScheme, honly, List.filterMap_cons, visible]
  by_cases hname : trim plan.name = []
  · simp only [if_pos hname]
    rfl
  · simp only [if_neg hname]
    rfl

/-- After the checks the plans of the suite are deleted, or the readback fails. -/
theorem restore_head {step : String} {suite : List String} {unknown : BTreeMap Value}
    (hchecks : checkPowerPlanRecord step original suite unknown = .ok ())
    (h : ∃ plan ∈ s.plans, plan.guid = lowerChars original.toList) :
    ∃ t, t.plans = s.plans ∧ t.active = lowerChars original.toList ∧
      (Readable s original → restorePowerPlan format step original suite unknown s =
        forEach (deleteSuitePlan format) suite t) ∧
      (¬ Readable s original → ∃ e,
        restorePowerPlan format step original suite unknown s = (.error e, t)) := by
  obtain ⟨t, hset, hplans, hactive⟩ := setActive_known h
  obtain ⟨plan, hplan, hguid⟩ := h
  have hread := readback format (s := t) (hplans ▸ hplan) (hguid.trans hactive.symm)
  have hhead : restorePowerPlan format step original suite unknown s =
      (ofExcept (parseActivePowerPlan (format.activeScheme t)) >>= fun plan => do
        ofExcept (reject (plan.guid ≠ original.toList)
          "original power-plan readback did not match")
        forEach (deleteSuitePlan format) suite) t := by
    unfold restorePowerPlan
    rw [hchecks]
    exact (bind_apply_ok (ofExcept_apply _ s)).trans ((bind_apply_ok hset).trans
      (bind_apply_ok (gets_apply _ t)))
  refine ⟨t, hplans, hactive, fun hreadable => ?_, fun hunread => ?_⟩
  · have hsame : reject (decide (plan.guid ≠ original.toList))
        "original power-plan readback did not match" = .ok () := by
      rw [reject_eq_ok, hguid, hreadable.1]
      simp
    rw [hhead, hread, if_neg (hreadable.2 plan hplan hguid)]
    refine (bind_apply_ok (ofExcept_apply _ t)).trans ?_
    rw [hsame]
    exact bind_apply_ok (ofExcept_apply _ t)
  · rw [hhead, hread]
    by_cases hname : trim plan.name = []
    · rw [if_pos hname]
      exact ⟨_, rfl⟩
    · have hother : plan.guid ≠ original.toList := by
        intro heq
        refine hunread ⟨hguid.symm.trans heq, fun plan' hplan' hguid' => ?_⟩
        rw [plan_unique hplan' hplan (hguid'.trans hguid.symm)]
        exact hname
      rw [if_neg hname]
      refine ⟨"original power-plan readback did not match",
        (bind_apply_ok (ofExcept_apply _ t)).trans (bind_apply_error ?_)⟩
      rw [ofExcept_apply, reject, if_pos (decide_eq_true hother)]

end Original

/-! ## Exactness -/

/-- A plan whose identifier is one of the record, in any case. -/
def Present (s : PlanSet) (suite : List String) (plan : Plan) : Prop :=
  plan ∈ s.plans ∧ ∃ guid ∈ suite, lowerChars guid.toList = plan.guid

/-- Every plan of the record that is present carries the name of the suite. -/
def Owned (s : PlanSet) (suite : List String) : Prop :=
  ∀ plan, Present s suite plan → plan.name = SUITE_POWER_PLAN_NAME

/-- **An exact restore.**  The plans of the suite are removed and no other, and a repetition
changes nothing; or one of them carries another name, and the restore fails without deleting
such a plan. -/
def Exact (format : ListingFormat) (step original : String) (suite : List String)
    (unknown : BTreeMap Value) (s : PlanSet) : Prop :=
  (Owned s suite → ∃ t,
    restorePowerPlan format step original suite unknown s = (.ok (), t) ∧
    t.active = lowerChars original.toList ∧
    t.plans = s.plans.filter (fun plan =>
      suite.all fun guid => lowerChars guid.toList ≠ plan.guid) ∧
    restorePowerPlan format step original suite unknown t = (.ok (), t)) ∧
  ∀ plan, Present s suite plan → plan.name ≠ SUITE_POWER_PLAN_NAME → ∃ e t,
    restorePowerPlan format step original suite unknown s = (.error e, t) ∧ plan ∈ t.plans

/-- The identifiers of the plans that are present are written in the record as they are
listed. -/
def SpelledAsListed (s : PlanSet) (suite : List String) : Prop :=
  ∀ guid ∈ suite, ∀ plan ∈ s.plans, lowerChars guid.toList = plan.guid → guid.toList = plan.guid

/-- The first plan that is found under another name than that of the suite. -/
def firstForeign (s : PlanSet) (suite : List String) : Option Plan :=
  (suite.filterMap (listed s)).find? fun plan => plan.name ≠ SUITE_POWER_PLAN_NAME

/-- That plan is found, and blanks are not all that its name differs in. -/
def Stops (s : PlanSet) (suite : List String) : Prop :=
  ∃ plan, firstForeign s suite = some plan ∧ trim plan.name ≠ SUITE_POWER_PLAN_NAME

section Exactness

variable (format : ListingFormat) {s t : PlanSet} {step original : String}
  {suite : List String} {unknown : BTreeMap Value}

theorem lowerChars_of_found {guid : String} {plan : Plan} (hplan : plan ∈ s.plans)
    (h : plan.guid = guid.toList) : lowerChars guid.toList = plan.guid := by
  rw [← h]
  exact lowerChars_of_canonical (s.canonical plan hplan)

/-- The plans of the suite are not the active one, once that is the original. -/
theorem not_active (hchecks : checkPowerPlanRecord step original suite unknown = .ok ())
    (hactive : t.active = lowerChars original.toList) :
    ∀ guid ∈ suite, guid.toList ≠ t.active := by
  intro guid hguid heq
  obtain ⟨plan, hplan, hknown⟩ := List.mem_map.mp t.activeKnown
  refine (checked hchecks).1 guid hguid ?_
  rw [lowerChars_of_found hplan (hknown.trans heq.symm), hknown, hactive]

theorem clean_of_owned (hplans : t.plans = s.plans) (howned : Owned s suite) :
    Clean t suite := by
  intro guid hguid plan hlisted
  obtain ⟨hplan, hfound, _⟩ := listed_eq_some hlisted
  rw [howned plan ⟨hplans ▸ hplan, guid, hguid, lowerChars_of_found hplan hfound⟩]
  decide

/-- Deletion of what is found against deletion of what is present. -/
theorem found_eq_present (howned : Owned s suite) (hspelled : SpelledAsListed s suite) :
    (s.plans.filter fun plan => suite.all fun guid => !isFound guid plan) =
      s.plans.filter fun plan => suite.all fun guid => lowerChars guid.toList ≠ plan.guid := by
  refine List.filter_congr fun plan hplan => ?_
  rw [Bool.eq_iff_iff, List.all_eq_true, List.all_eq_true]
  refine forall₂_congr fun guid hguid => ?_
  rw [Bool.not_eq_true', ← Bool.not_eq_true, isFound_iff, decide_eq_true_eq, not_iff_not]
  constructor
  · intro ⟨hfound, _⟩
    exact lowerChars_of_found hplan hfound
  · intro hlower
    refine ⟨(hspelled guid hguid plan hplan hlower).symm, ?_⟩
    rw [howned plan ⟨hplan, guid, hguid, hlower⟩]
    decide

theorem planSet_ext (hplans : s.plans = t.plans) (hactive : s.active = t.active) : s = t := by
  cases s
  cases t
  cases hplans
  cases hactive
  rfl

/-- Where nothing of the suite is left, a repetition changes nothing. -/
theorem restore_again (hchecks : checkPowerPlanRecord step original suite unknown = .ok ())
    (horiginal : ∃ plan ∈ s.plans, plan.guid = lowerChars original.toList)
    (hreadable : Readable s original) (hactive : s.active = lowerChars original.toList)
    (hgone : ∀ plan ∈ s.plans, ∀ guid ∈ suite, lowerChars guid.toList ≠ plan.guid) :
    restorePowerPlan format step original suite unknown s = (.ok (), s) := by
  obtain ⟨t, hplans, hactive', hrun, _⟩ := restore_head format hchecks horiginal
  have hsame : t = s := planSet_ext hplans (hactive'.trans hactive.symm)
  have hnone : ∀ guid ∈ suite, ∀ plan ∈ s.plans, isFound guid plan = false := by
    intro guid hguid plan hplan
    rw [Bool.eq_false_iff, Ne, isFound_iff]
    intro hfound
    exact hgone plan hplan guid hguid (lowerChars_of_found hplan hfound.1)
  have hclean : Clean s suite := by
    intro guid hguid plan hlisted
    have hmem := (listed_eq_some hlisted).1
    rw [listed, List.find?_eq_none.mpr fun plan hplan => by simp [hnone guid hguid plan hplan]]
      at hlisted
    cases hlisted
  obtain ⟨u, hloop, huactive, huplans⟩ :=
    forEach_clean format hclean (not_active hchecks hactive)
  have hkept : u = s := by
    refine planSet_ext (huplans.trans (List.filter_eq_self.mpr fun plan hplan => ?_)) huactive
    rw [List.all_eq_true]
    intro guid hguid
    rw [hnone guid hguid plan hplan, Bool.not_false]
  rw [hrun hreadable, hsame, hloop, hkept]

theorem listed_congr (hplans : t.plans = s.plans) : listed t = listed s := by
  funext guid
  rw [listed, hplans, listed]

/-- The identifiers before the one under which the first foreign plan is found. -/
theorem firstForeign_eq_some {plan : Plan} (h : firstForeign s suite = some plan) :
    plan.name ≠ SUITE_POWER_PLAN_NAME ∧ ∃ before guid after, suite = before ++ guid :: after ∧
      listed s guid = some plan ∧
      ∀ g ∈ before, ∀ p, listed s g = some p → p.name = SUITE_POWER_PLAN_NAME := by
  obtain ⟨hname, cleared, rest, hsplit, hcleared⟩ := List.find?_eq_some_iff_append.mp h
  obtain ⟨before, tail, rfl, hbefore, htail⟩ := List.filterMap_eq_append_iff.mp hsplit
  obtain ⟨passed, guid, after, rfl, hpassed, hguid, _⟩ := List.filterMap_eq_cons_iff.mp htail
  refine ⟨by simpa using hname, before ++ passed, guid, after, by simp, hguid, ?_⟩
  intro g hg p hp
  rcases List.mem_append.mp hg with hg | hg
  · have hmem : p ∈ cleared := by
      rw [← hbefore]
      exact List.mem_filterMap.mpr ⟨g, hg, hp⟩
    simpa using hcleared p hmem
  · rw [hpassed g hg] at hp
    cases hp

/-- Where no foreign plan is found, every plan that is found has the name of the suite. -/
theorem firstForeign_eq_none (h : firstForeign s suite = none) : Clean s suite := by
  intro guid hguid plan hlisted
  have hplan := List.find?_eq_none.mp h plan (List.mem_filterMap.mpr ⟨guid, hguid, hlisted⟩)
  have hname : plan.name = SUITE_POWER_PLAN_NAME := by simpa using hplan
  rw [hname]
  decide

/-- The loop up to the first foreign plan deletes no foreign plan. -/
theorem forEach_before {plan : Plan} (h : firstForeign s suite = some plan)
    (hactive : ∀ guid ∈ suite, guid.toList ≠ s.active) :
    ∃ guid after t, guid ∈ suite ∧ (∀ g ∈ after, g ∈ suite) ∧ t.active = s.active ∧
      listed s guid = some plan ∧ listed t guid = some plan ∧
      (∀ p ∈ s.plans, p.name ≠ SUITE_POWER_PLAN_NAME → p ∈ t.plans) ∧
      forEach (deleteSuitePlan format) suite s =
        forEach (deleteSuitePlan format) (guid :: after) t := by
  obtain ⟨hname, before, guid, after, rfl, hguid, hbefore⟩ := firstForeign_eq_some h
  have hclean : Clean s before := by
    intro g hg p hp
    rw [hbefore g hg p hp]
    decide
  obtain ⟨t, hloop, hsame, hplans⟩ :=
    forEach_clean format hclean fun g hg => hactive g (by simp [hg])
  have hkept : ∀ p ∈ s.plans, p.name ≠ SUITE_POWER_PLAN_NAME → p ∈ t.plans := by
    intro p hp hforeign
    rw [hplans, List.mem_filter, List.all_eq_true]
    refine ⟨hp, fun g hg => ?_⟩
    rw [Bool.not_eq_true']
    by_contra hfound
    rw [Bool.not_eq_false] at hfound
    exact hforeign (hbefore g hg p (listed_of_found hp hfound))
  obtain ⟨hplan, hfound⟩ := listed_eq_some hguid
  refine ⟨guid, after, t, by simp, fun g hg => by simp [hg], hsame, hguid,
    listed_of_found (hkept plan hplan hname) (isFound_iff.mpr hfound), hkept, ?_⟩
  rw [forEach_append, bind_apply_ok hloop]

variable (hchecks : checkPowerPlanRecord step original suite unknown = .ok ())
  (horiginal : ∃ plan ∈ s.plans, plan.guid = lowerChars original.toList)

include hchecks horiginal

/-- Where every plan of the suite carries its name, the restore is exact if and only if the
original plan is read back and the identifiers are spelled as they are listed. -/
theorem exact_of_owned (howned : Owned s suite) :
    (∃ t, restorePowerPlan format step original suite unknown s = (.ok (), t) ∧
      t.active = lowerChars original.toList ∧
      t.plans = s.plans.filter (fun plan =>
        suite.all fun guid => lowerChars guid.toList ≠ plan.guid) ∧
      restorePowerPlan format step original suite unknown t = (.ok (), t)) ↔
    Readable s original ∧ SpelledAsListed s suite := by
  obtain ⟨t, hplans, hactive, hreads, hunread⟩ := restore_head format hchecks horiginal
  obtain ⟨u, hloop, huactive, huplans⟩ := forEach_clean format
    (clean_of_owned hplans howned) (not_active hchecks hactive)
  rw [hplans] at huplans
  constructor
  · intro ⟨u', hrun, _, hexact, _⟩
    have hreadable : Readable s original := by
      by_contra hread
      obtain ⟨e, herror⟩ := hunread hread
      rw [herror] at hrun
      cases hrun
    refine ⟨hreadable, fun guid hguid plan hplan hlower => ?_⟩
    rw [hreads hreadable, hloop] at hrun
    cases hrun
    -- the plan is gone, so it was found under an identifier, which is this one
    have hgone : plan ∉ u.plans := by
      rw [hexact, List.mem_filter, List.all_eq_true]
      intro ⟨_, hother⟩
      simpa [hlower] using hother guid hguid
    rw [huplans, List.mem_filter, List.all_eq_true] at hgone
    simp only [hplan, true_and, not_forall, Bool.not_eq_true', Bool.not_eq_false] at hgone
    obtain ⟨guid', hguid', hfound⟩ := hgone
    have hspelled := (isFound_iff.mp hfound).1
    have hsame : guid = guid' := (checked hchecks).2 guid hguid guid' hguid'
      (hlower.trans (lowerChars_of_found hplan hspelled).symm)
    rw [hsame, hspelled]
  · intro ⟨hreadable, hspelled⟩
    have hexact := huplans.trans (found_eq_present howned hspelled)
    refine ⟨u, (hreads hreadable).trans hloop, huactive.trans hactive, hexact, ?_⟩
    have hsubset : u.plans ⊆ s.plans := by
      rw [huplans]
      exact fun _ => List.mem_of_mem_filter
    refine restore_again format hchecks ?_ ?_ (huactive.trans hactive) ?_
    · obtain ⟨plan, hplan, hguid⟩ := horiginal
      refine ⟨plan, ?_, hguid⟩
      rw [hexact, List.mem_filter, List.all_eq_true]
      refine ⟨hplan, fun guid hsuite => ?_⟩
      rw [hguid, decide_eq_true_eq]
      exact (checked hchecks).1 guid hsuite
    · exact ⟨hreadable.1, fun plan hplan => hreadable.2 plan (hsubset hplan)⟩
    · intro plan hplan guid hguid
      rw [hexact, List.mem_filter, List.all_eq_true] at hplan
      simpa using hplan.2 guid hguid

/-- Where a plan of the suite carries another name, the restore is exact if and only if the
original plan is not read back or the deletions stop at such a plan. -/
theorem exact_of_foreign (hforeign : ¬ Owned s suite) :
    (∀ plan, Present s suite plan → plan.name ≠ SUITE_POWER_PLAN_NAME → ∃ e t,
      restorePowerPlan format step original suite unknown s = (.error e, t) ∧
      plan ∈ t.plans) ↔
    ¬ Readable s original ∨ Stops s suite := by
  obtain ⟨t, hplans, hactive, hreads, hunread⟩ := restore_head format hchecks horiginal
  have hfree := not_active hchecks hactive
  have hsame : firstForeign t suite = firstForeign s suite := by
    unfold firstForeign
    rw [listed_congr hplans]
  constructor
  · intro hexact
    by_contra hneither
    rw [not_or, not_not] at hneither
    obtain ⟨hreadable, hpassed⟩ := hneither
    cases hfirst : firstForeign s suite with
    | none =>
      -- nothing stops the loop, though a plan carries another name
      unfold Owned at hforeign
      push Not at hforeign
      obtain ⟨plan, hpresent, hname⟩ := hforeign
      obtain ⟨e, u, hrun, _⟩ := hexact plan hpresent hname
      obtain ⟨u', hloop, _⟩ :=
        forEach_clean format (firstForeign_eq_none (hsame.trans hfirst)) hfree
      rw [hreads hreadable, hloop] at hrun
      cases hrun
    | some plan =>
      -- the plan is deleted, as its name differs in blanks only
      have hpadded : trim plan.name = SUITE_POWER_PLAN_NAME := by
        by_contra hname
        exact hpassed ⟨plan, hfirst, hname⟩
      obtain ⟨guid, after, v, hguid, hafter, hvactive, hlisted, hlistedv, _, hloop⟩ :=
        forEach_before format (hsame.trans hfirst) hfree
      obtain ⟨hplan, hfound, _⟩ := listed_eq_some hlisted
      obtain ⟨e, u, hrun, hkept⟩ := hexact plan
        ⟨hplans ▸ hplan, guid, hguid, lowerChars_of_found hplan hfound⟩
        (firstForeign_eq_some hfirst).1
      obtain ⟨w, hdelete, hwactive, hwplans⟩ := deleteSuitePlan_suite format hlistedv hpadded
        (by rw [hvactive]; exact hfree guid hguid)
      rw [hreads hreadable, hloop] at hrun
      have hrest := (bind_apply_ok hdelete).symm.trans hrun
      have hmem := forEach_subset format hrest
        (fun g hg => by rw [hwactive, hvactive]; exact hfree g (hafter g hg)) hkept
      rw [hwplans, List.mem_filter] at hmem
      simp [hfound] at hmem
  · intro hcase plan hpresent hname
    by_cases hreadable : Readable s original
    · rcases hcase with hread | ⟨first, hfirst, hother⟩
      · exact absurd hreadable hread
      · obtain ⟨guid, after, v, _, _, _, _, hlisted, hkept, hloop⟩ :=
          forEach_before format (hsame.trans hfirst) hfree
        refine ⟨_, v, (hreads hreadable).trans (hloop.trans (bind_apply_error
          (deleteSuitePlan_other format hlisted hother))), ?_⟩
        exact hkept plan (hplans ▸ hpresent.1) hname
    · obtain ⟨e, herror⟩ := hunread hreadable
      exact ⟨e, t, herror, hplans ▸ hpresent.1⟩

/-- When the restore is exact. -/
theorem exact_iff :
    Exact format step original suite unknown s ↔
      (Owned s suite → Readable s original ∧ SpelledAsListed s suite) ∧
      (¬ Owned s suite → ¬ Readable s original ∨ Stops s suite) := by
  unfold Exact
  by_cases howned : Owned s suite
  · have hvacuous : ∀ plan, Present s suite plan → plan.name ≠ SUITE_POWER_PLAN_NAME →
        ∃ e t, restorePowerPlan format step original suite unknown s = (.error e, t) ∧
          plan ∈ t.plans :=
      fun plan hpresent hname => absurd (howned plan hpresent) hname
    have howner := exact_of_owned format hchecks horiginal howned
    constructor
    · intro ⟨hexact, _⟩
      exact ⟨fun _ => howner.mp (hexact howned), fun h => absurd howned h⟩
    · intro ⟨hcondition, _⟩
      exact ⟨fun _ => howner.mpr (hcondition howned), hvacuous⟩
  · have hother := exact_of_foreign format hchecks horiginal howned
    constructor
    · intro ⟨_, hexact⟩
      exact ⟨fun h => absurd h howned, fun _ => hother.mp hexact⟩
    · intro ⟨_, hcondition⟩
      exact ⟨fun h => absurd h howned, hother.mpr (hcondition howned)⟩

end Exactness

/-- **When a power-plan restore is exact.**  An identifier is accepted for its shape unless a
digit stands for a dash.  A restore whose record was accepted, with the original plan among
the plans, is exact if and only if

* where every plan of the suite carries its name, the original plan has a name and its
  identifier is in lower case, and so are those of the plans that are present, and
* where one carries another name, the original plan has none or is not in lower case, or the
  first such plan that is found differs from the name of the suite in more than blanks. -/
theorem powerPlanRestore (format : ListingFormat) (value step original : String)
    (suite : List String) (unknown : BTreeMap Value) (s : PlanSet) :
    ((validatePowerPlanGuid value = .ok () ↔ GuidShape value.toList) ↔
      ¬ HexForDash value.toList) ∧
    (checkPowerPlanRecord step original suite unknown = .ok () →
      (∃ plan ∈ s.plans, plan.guid = lowerChars original.toList) →
      (Exact format step original suite unknown s ↔
        (Owned s suite → Readable s original ∧ SpelledAsListed s suite) ∧
        (¬ Owned s suite → ¬ Readable s original ∨ Stops s suite))) :=
  ⟨validatePowerPlanGuid_iff value, fun hchecks horiginal => exact_iff format hchecks horiginal⟩

/-! ## A system in English -/

private theorem guid_not_infix {line : List Char} (h : line.length < 36) (guid : List Char)
    (hguid : isPowerPlanGuid guid = true) : ¬ guid <:+: line := by
  intro hinfix
  have hlength := hinfix.length_le
  rw [(isPowerPlanGuid_iff.mp hguid).1] at hlength
  omega

private def english : ListingFormat where
  header := ["Existing Power Schemes (* Active)".toList]
  label := "Power Scheme GUID:".toList
  closing := ' '
  headerLines := by decide +kernel
  headerFree := fun line hline =>
    guid_not_infix (by rw [List.mem_singleton.mp hline]; decide +kernel)
  labelLine := by decide +kernel
  labelFree := guid_not_infix (by decide +kernel)
  closes := by decide

private def balanced : Plan where
  guid := "381b4222-f694-41f0-9685-ff5bb260df2e".toList
  name := "Balanced".toList

private def suitePlan : Plan where
  guid := "a1b2c3d4-0000-4000-8000-0123456789ab".toList
  name := "frametime.cfg".toList

private def installed : PlanSet where
  plans := [balanced, suitePlan]
  active := suitePlan.guid
  canonical := by decide +kernel
  singleLine := by decide +kernel
  distinct := by decide +kernel
  activeKnown := by decide +kernel

private theorem balanced_known :
    ∃ plan ∈ installed.plans,
      plan.guid = lowerChars "381b4222-f694-41f0-9685-ff5bb260df2e".toList :=
  ⟨balanced, by simp [installed], by decide +kernel⟩

private theorem installed_owned {suite : List String}
    (h : ∀ guid ∈ suite, lowerChars guid.toList ≠ balanced.guid) : Owned installed suite := by
  intro plan ⟨hplan, guid, hguid, hlower⟩
  rcases List.mem_pair.mp hplan with rfl | rfl
  · exact absurd hlower (h guid hguid)
  · rfl

theorem powerPlanRestore_lowerCase :
    Exact english "P1:6" "381b4222-f694-41f0-9685-ff5bb260df2e"
      ["a1b2c3d4-0000-4000-8000-0123456789ab"] ∅ installed := by
  refine ((powerPlanRestore english "" "P1:6" "381b4222-f694-41f0-9685-ff5bb260df2e"
    ["a1b2c3d4-0000-4000-8000-0123456789ab"] ∅ installed).2 (by decide +kernel)
    balanced_known).mpr ?_
  have howned : Owned installed ["a1b2c3d4-0000-4000-8000-0123456789ab"] :=
    installed_owned (by decide +kernel)
  refine ⟨fun _ => ⟨⟨by decide +kernel, by decide +kernel⟩, ?_⟩, fun h => absurd howned h⟩
  unfold SpelledAsListed
  decide +kernel

/-- The plan of the suite stays where its identifier is in upper case in the record. -/
theorem restorePowerPlan_upperCase :
    checkPowerPlanRecord "P1:6" "381b4222-f694-41f0-9685-ff5bb260df2e"
        ["A1B2C3D4-0000-4000-8000-0123456789AB"] ∅ = .ok () ∧
      ¬ Exact english "P1:6" "381b4222-f694-41f0-9685-ff5bb260df2e"
        ["A1B2C3D4-0000-4000-8000-0123456789AB"] ∅ installed := by
  have hchecks : checkPowerPlanRecord "P1:6" "381b4222-f694-41f0-9685-ff5bb260df2e"
      ["A1B2C3D4-0000-4000-8000-0123456789AB"] ∅ = .ok () := by decide +kernel
  refine ⟨hchecks, fun hexact => ?_⟩
  have howned : Owned installed ["A1B2C3D4-0000-4000-8000-0123456789AB"] :=
    installed_owned (by decide +kernel)
  have hspelled := (((exact_iff english hchecks balanced_known).mp hexact).1 howned).2
  have hsuite := hspelled "A1B2C3D4-0000-4000-8000-0123456789AB" (by simp) suitePlan
    (by simp [installed]) (by decide +kernel)
  revert hsuite
  decide +kernel

end FrametimeCfg.Verified.PowerPlanRestore
