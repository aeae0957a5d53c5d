import FrametimeCfg.Lib.Hex
import FrametimeCfg.Windows.PowerPlan

/-!
# What is read from a listing of power plans

A plan is read from its line with its identifier and its trimmed name, unless that is blank;
its identifier alone is always found.  The other lines of a listing give nothing.

* `validatePowerPlanGuid_iff` — the strings that are accepted as identifiers.
* `parsePowerPlanLine_planLine`, `findPowerGuid_planLine` — one line.
* `parsed_list`, `found_list`, `parsed_activeScheme` — a listing.
-/

namespace FrametimeCfg.Verified.PowerPlanListing

open FrametimeCfg.Lib.Checks (reject reject_eq_ok)
open FrametimeCfg.Lib.Text
open FrametimeCfg.Windows.PowerPlan

/-! ## Identifiers -/

/-- The places of the dashes. -/
def isDashPlace (index : Nat) : Bool :=
  index = 8 || index = 13 || index = 18 || index = 23

private theorem all_places_iff {value : List Char} : (value.zipIdx.all fun (c, index) =>
      (index = 8 || index = 13 || index = 18 || index = 23) && c = '-' || isHexDigit c) =
        true ↔ ∀ (i : Nat) (c : Char), value[i]? = some c →
          isDashPlace i = true ∧ c = '-' ∨ isHexDigit c = true := by
  simp only [List.all_eq_true, Prod.forall, List.mk_mem_zipIdx_iff_getElem?, isDashPlace,
    Bool.or_eq_true, Bool.and_eq_true, decide_eq_true_eq]
  exact ⟨fun h i c => h c i, fun h c i => h i c⟩

/-- What the test of an identifier comes to: a dash may stand only in its places, and a digit
may stand anywhere. -/
theorem isPowerPlanGuid_iff {value : List Char} : isPowerPlanGuid value = true ↔
    value.length = 36 ∧ ∀ (i : Nat) (c : Char), value[i]? = some c →
      isDashPlace i = true ∧ c = '-' ∨ isHexDigit c = true := by
  unfold isPowerPlanGuid
  rw [Bool.and_eq_true, all_places_iff, decide_eq_true_eq]
  refine and_congr_left fun hchars => ?_
  have hascii : ∀ c ∈ value, c.toNat < 128 := by
    intro c hc
    obtain ⟨i, hi⟩ := List.getElem?_of_mem hc
    rcases hchars i c hi with ⟨_, rfl⟩ | hdigit
    · decide
    · exact toNat_lt_of_isHexDigit hdigit
  rw [byteLen_ascii hascii]

/-- Every character of an identifier is one of a GUID. -/
theorem guidChar_of_guid {value : List Char} (h : isPowerPlanGuid value = true) :
    ∀ c ∈ value, isGuidChar c = true := by
  intro c hc
  obtain ⟨i, hi⟩ := List.getElem?_of_mem hc
  unfold isGuidChar
  rcases (isPowerPlanGuid_iff.mp h).2 i c hi with ⟨_, rfl⟩ | hdigit
  · decide
  · rw [hdigit, Bool.true_or]

/-- **Groups of 8, 4, 4, 4 and 12 digits**, with dashes between them. -/
def GuidShape (value : List Char) : Prop :=
  value.length = 36 ∧ ∀ (i : Nat) (c : Char), value[i]? = some c →
    if isDashPlace i then c = '-' else isHexDigit c = true

/-- A digit stands where a dash belongs, in a string that would be an identifier with dashes
in their places. -/
def HexForDash (value : List Char) : Prop :=
  value.length = 36 ∧
  (∀ (i : Nat) (c : Char), value[i]? = some c →
    isDashPlace i = true ∧ c = '-' ∨ isHexDigit c = true) ∧
  ∃ (i : Nat) (c : Char), isDashPlace i = true ∧ value[i]? = some c ∧ isHexDigit c = true

/-- The identifiers that are accepted have the shape of one exactly where no digit stands in
the place of a dash. -/
theorem validatePowerPlanGuid_iff (value : String) :
    (validatePowerPlanGuid value = .ok () ↔ GuidShape value.toList) ↔
      ¬ HexForDash value.toList := by
  have haccepted : validatePowerPlanGuid value = .ok () ↔
      isPowerPlanGuid value.toList = true := by
    unfold validatePowerPlanGuid
    rw [reject_eq_ok, Bool.not_eq_false']
  have hnodash : isHexDigit '-' = false := by decide
  have hshape : GuidShape value.toList → isPowerPlanGuid value.toList = true := by
    intro h
    refine isPowerPlanGuid_iff.mpr ⟨h.1, fun i c hc => ?_⟩
    have hi := h.2 i c hc
    by_cases hplace : isDashPlace i = true
    · exact .inl ⟨hplace, by simpa [hplace] using hi⟩
    · exact .inr (by simpa [hplace] using hi)
  rw [haccepted]
  constructor
  · intro hexact hdigit
    obtain ⟨hlength, hchars, i, c, hplace, hc, hhex⟩ := hdigit
    have hi := (hexact.mp (isPowerPlanGuid_iff.mpr ⟨hlength, hchars⟩)).2 i c hc
    rw [if_pos hplace] at hi
    rw [hi, hnodash] at hhex
    cases hhex
  · intro hplain
    refine ⟨fun haccept => ?_, hshape⟩
    obtain ⟨hlength, hchars⟩ := isPowerPlanGuid_iff.mp haccept
    refine ⟨hlength, fun i c hc => ?_⟩
    by_cases hplace : isDashPlace i = true
    · rw [if_pos hplace]
      rcases hchars i c hc with ⟨_, hdash⟩ | hhex
      · exact hdash
      · exact absurd ⟨hlength, hchars, i, c, hplace, hc, hhex⟩ hplain
    · rw [if_neg hplace]
      rcases hchars i c hc with ⟨hplace', _⟩ | hhex
      · exact absurd hplace' hplace
      · exact hhex

/-! ## Case -/

theorem toLower_of_lowerHex {c : Char} (h : isLowerHexDigit c = true) : c.toLower = c := by
  simp only [isLowerHexDigit, Char.isDigit, Bool.or_eq_true, Bool.and_eq_true,
    decide_eq_true_eq, ge_iff_le, Char.le_def, UInt32.le_iff_toNat_le] at h
  have h9 : ('9' : Char).val.toNat = 57 := rfl
  have ha : ('a' : Char).val.toNat = 97 := rfl
  have hZ : ('Z' : Char).val.toNat = 90 := rfl
  have hA : ('A' : Char).val.toNat = 65 := rfl
  unfold Char.toLower
  refine dif_neg ?_
  simp only [ge_iff_le, UInt32.le_iff_toNat_le]
  omega

/-- What a canonical identifier is, by its characters. -/
theorem isCanonicalGuid_iff {value : List Char} : isCanonicalGuid value = true ↔
    value.length = 36 ∧ ∀ (i : Nat) (c : Char), value[i]? = some c →
      if isDashPlace i then c = '-' else isLowerHexDigit c = true := by
  unfold isCanonicalGuid
  rw [Bool.and_eq_true, decide_eq_true_eq]
  refine and_congr_right fun _ => ?_
  simp only [List.all_eq_true, Prod.forall, List.mk_mem_zipIdx_iff_getElem?]
  constructor
  · intro h i c hc
    have hi := h c i hc
    by_cases hplace : isDashPlace i = true
    · rw [if_pos hplace]
      unfold isDashPlace at hplace
      simpa [hplace] using hi
    · rw [if_neg hplace]
      unfold isDashPlace at hplace
      simpa [hplace] using hi
  · intro h c i hc
    have hi := h i c hc
    by_cases hplace : isDashPlace i = true
    · rw [if_pos hplace] at hi
      unfold isDashPlace at hplace
      simp [hplace, hi]
    · rw [if_neg hplace] at hi
      unfold isDashPlace at hplace
      simp [hplace, hi]

theorem isHexDigit_of_isLowerHexDigit {c : Char} (h : isLowerHexDigit c = true) :
    isHexDigit c = true := by
  unfold isLowerHexDigit at h
  unfold isHexDigit
  rw [h, Bool.true_or]

/-- A canonical identifier is accepted. -/
theorem isPowerPlanGuid_of_canonical {value : List Char} (h : isCanonicalGuid value = true) :
    isPowerPlanGuid value = true := by
  obtain ⟨hlength, hchars⟩ := isCanonicalGuid_iff.mp h
  refine isPowerPlanGuid_iff.mpr ⟨hlength, fun i c hc => ?_⟩
  have hi := hchars i c hc
  by_cases hplace : isDashPlace i = true
  · exact .inl ⟨hplace, by simpa [hplace] using hi⟩
  · exact .inr (isHexDigit_of_isLowerHexDigit (by simpa [hplace] using hi))

/-- A canonical identifier is in lower case. -/
theorem lowerChars_of_canonical {value : List Char} (h : isCanonicalGuid value = true) :
    lowerChars value = value := by
  have hchars : ∀ c ∈ value, c.toLower = c := by
    intro c hc
    obtain ⟨i, hi⟩ := List.getElem?_of_mem hc
    have hplace := (isCanonicalGuid_iff.mp h).2 i c hi
    split at hplace
    · rw [hplace]
      decide
    · exact toLower_of_lowerHex hplace
  unfold lowerChars
  rw [List.map_congr_left hchars, List.map_id']

/-! ## The line of a plan -/

theorem guid_ne_nil {guid : List Char} (h : isPowerPlanGuid guid = true) : guid ≠ [] := by
  intro hnil
  have hlength := (isPowerPlanGuid_iff.mp h).1
  simp [hnil] at hlength

/-- The identifier of a plan is the first one in its line. -/
theorem firstGuid_planLine (format : ListingFormat) (active : Bool) {plan : Plan}
    (hguid : isPowerPlanGuid plan.guid = true) :
    firstGuid (format.planLine active plan) = some plan.guid := by
  have hsplit : ∀ c, isGuidChar c = false → (!isGuidChar c) = true := by simp
  have hline : format.planLine active plan = format.label ++ format.closing ::
      (plan.guid ++ ' ' :: ([' ', '('] ++ plan.name ++ [')'] ++
        if active then [' ', '*'] else [])) := by
    simp [ListingFormat.planLine]
  have hlabel : (FrametimeCfg.Lib.Text.splitAt (fun c => !isGuidChar c) format.label).find?
      isPowerPlanGuid = none :=
    List.find?_eq_none.mpr fun piece hpiece hvalid =>
      format.labelFree piece hvalid (infix_of_mem_splitAt hpiece)
  have hwhole : FrametimeCfg.Lib.Text.splitAt (fun c => !isGuidChar c) plan.guid =
      [plan.guid] :=
    splitAt_of_free fun c hc => by rw [guidChar_of_guid hguid c hc, Bool.not_true]
  unfold firstGuid
  rw [hline, splitAt_append (hsplit _ format.closes.1), splitAt_append (hsplit ' ' (by decide)),
    hwhole, List.find?_append, hlabel, Option.none_or, List.singleton_append,
    List.find?_cons_of_pos hguid]

/-- A plan is read from its line unless its name is blank. -/
theorem parsePowerPlanLine_planLine (format : ListingFormat) (active : Bool) {plan : Plan}
    (hguid : isPowerPlanGuid plan.guid = true) :
    parsePowerPlanLine (format.planLine active plan) =
      if trim plan.name = [] then none
      else some { guid := lowerChars plan.guid, name := trim plan.name } := by
  have hclosing : format.closing ∉ plan.guid := by
    intro hmem
    have hchar := guidChar_of_guid hguid _ hmem
    rw [format.closes.1] at hchar
    cases hchar
  have hcut : splitOnceText plan.guid (format.planLine active plan) =
      some (format.label ++ [format.closing], [' ', ' ', '('] ++ plan.name ++ [')'] ++
        if active then [' ', '*'] else []) := by
    have hline : format.planLine active plan = format.label ++ format.closing ::
        (plan.guid ++ ([' ', ' ', '('] ++ plan.name ++ [')'] ++
          if active then [' ', '*'] else [])) := by
      simp [ListingFormat.planLine]
    rw [hline]
    exact splitOnceText_closed (guid_ne_nil hguid) hclosing (format.labelFree _ hguid)
  have htail : trim (trimEndMatches (· = '*') (trim ([' ', ' ', '('] ++ plan.name ++ [')'] ++
      if active then [' ', '*'] else []))) = '(' :: plan.name ++ [')'] := by
    have hopen : isWhitespace '(' = false := by decide
    have hstar : isWhitespace '*' = false := by decide
    have hsolid : trim ('(' :: plan.name ++ [')']) = '(' :: plan.name ++ [')'] :=
      trim_of_solid hopen (by decide)
    simp only [List.cons_append, List.nil_append, trim_cons_of_white (c := ' ') (by decide)]
    cases active with
    | false =>
      simp only [Bool.false_eq_true, if_false, List.append_nil]
      rw [← List.cons_append, hsolid, trimEndMatches_concat, if_neg (by decide), hsolid]
    | true =>
      have hpieces : '(' :: (plan.name ++ [')'] ++ [' ', '*']) =
          '(' :: (plan.name ++ [')', ' ']) ++ ['*'] := by simp
      have hspace : '(' :: (plan.name ++ [')', ' ']) =
          '(' :: (plan.name ++ [')']) ++ [' '] := by simp
      simp only [if_true]
      rw [hpieces, trim_of_solid hopen hstar, trimEndMatches_concat, if_pos (by decide), hspace,
        trimEndMatches_concat, if_neg (by decide), trim_concat_of_white hopen (by decide)]
      exact hsolid
  unfold parsePowerPlanLine
  rw [firstGuid_planLine format active hguid]
  simp only [Option.bind_eq_bind, Option.bind_some, hcut, htail]
  have hopened : stripPrefix ['('] ('(' :: plan.name ++ [')']) = some (plan.name ++ [')']) :=
    stripPrefix_eq_some.mpr rfl
  rw [hopened, Option.bind_some, stripSuffix_append, Option.bind_some]

theorem findPowerGuid_planLine (format : ListingFormat) (active : Bool) {plan : Plan}
    (hguid : isPowerPlanGuid plan.guid = true) :
    findPowerGuid (format.planLine active plan) = some (lowerChars plan.guid) := by
  unfold findPowerGuid
  rw [firstGuid_planLine format active hguid, Option.map_some]

/-! ## A listing -/

/-- What is read of a plan. -/
def visible (plan : Plan) : Option ActivePowerPlan :=
  if trim plan.name = [] then none else some { guid := plan.guid, name := trim plan.name }

/-- A line before the plans has no identifier. -/
theorem firstGuid_header {format : ListingFormat} {line : List Char}
    (h : line ∈ format.header) : firstGuid line = none :=
  List.find?_eq_none.mpr fun piece hpiece hvalid =>
    format.headerFree line h piece hvalid (infix_of_mem_splitAt hpiece)

theorem planLine_singleLine (format : ListingFormat) (active : Bool) {plan : Plan}
    (hguid : isPowerPlanGuid plan.guid = true) (hname : '\n' ∉ plan.name) :
    '\n' ∉ format.planLine active plan := by
  have hfree : '\n' ∉ plan.guid := by
    intro hmem
    have hchar := guidChar_of_guid hguid _ hmem
    revert hchar
    decide
  have hlabel := format.labelLine
  have hcloses := format.closes.2
  unfold ListingFormat.planLine
  cases active <;> simp [hfree, hname, hlabel, Ne.symm hcloses]

section Listing

variable (format : ListingFormat) (s : PlanSet)

theorem guid_of_mem {s : PlanSet} {plan : Plan} (h : plan ∈ s.plans) :
    isPowerPlanGuid plan.guid = true :=
  isPowerPlanGuid_of_canonical (s.canonical plan h)

theorem parse_planLine {s : PlanSet} {plan : Plan} (h : plan ∈ s.plans) (active : Bool) :
    parsePowerPlanLine (format.planLine active plan) = visible plan := by
  rw [parsePowerPlanLine_planLine format active (guid_of_mem h),
    lowerChars_of_canonical (s.canonical plan h), visible]

theorem lines_list : lines (format.list s) =
    format.header ++ s.plans.map fun plan => format.planLine (plan.guid = s.active) plan := by
  refine lines_flatMap fun line hline => ?_
  rcases List.mem_append.mp hline with hline | hline
  · exact format.headerLines line hline
  · obtain ⟨plan, hplan, rfl⟩ := List.mem_map.mp hline
    exact planLine_singleLine format _ (guid_of_mem hplan) (s.singleLine plan hplan)

/-- **What is read from a list** is what is visible of its plans. -/
theorem parsed_list :
    (lines (format.list s)).filterMap parsePowerPlanLine = s.plans.filterMap visible := by
  have hheader : format.header.filterMap parsePowerPlanLine = [] :=
    List.filterMap_eq_nil_iff.mpr fun line hline => by
      rw [parsePowerPlanLine, firstGuid_header hline]
      rfl
  rw [lines_list, List.filterMap_append, hheader, List.nil_append, List.filterMap_map]
  exact List.filterMap_congr fun plan hplan => parse_planLine format hplan _

/-- The identifiers that are found in a list are those of its plans. -/
theorem found_list :
    (lines (format.list s)).filterMap findPowerGuid = s.plans.map (·.guid) := by
  have hheader : format.header.filterMap findPowerGuid = [] :=
    List.filterMap_eq_nil_iff.mpr fun line hline => by
      rw [findPowerGuid, firstGuid_header hline]
      rfl
  rw [lines_list, List.filterMap_append, hheader, List.nil_append, List.filterMap_map]
  rw [← List.filterMap_eq_map']
  refine List.filterMap_congr fun plan hplan => ?_
  rw [Function.comp_apply, findPowerGuid_planLine format _ (guid_of_mem hplan),
    lowerChars_of_canonical (s.canonical plan hplan)]

/-- What is read of the active plan. -/
theorem parsed_activeScheme :
    (lines (format.activeScheme s)).filterMap parsePowerPlanLine =
      (s.plans.filter fun plan => plan.guid = s.active).filterMap visible := by
  have hlines : lines (format.activeScheme s) =
      (s.plans.filter fun plan => plan.guid = s.active).map (format.planLine false) := by
    refine lines_flatMap fun line hline => ?_
    obtain ⟨plan, hplan, rfl⟩ := List.mem_map.mp hline
    have hmem := List.mem_of_mem_filter hplan
    exact planLine_singleLine format _ (guid_of_mem hmem) (s.singleLine plan hmem)
  rw [hlines, List.filterMap_map]
  exact List.filterMap_congr fun plan hplan =>
    parse_planLine format (List.mem_of_mem_filter hplan) _

end Listing

end FrametimeCfg.Verified.PowerPlanListing
