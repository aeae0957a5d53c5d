import FrametimeCfg.Lib.Splitting

/-!
# Replacing in a text

`str::replace`, and what a replacement cannot bring back: two texts that lie apart never
share a place of a third one, so an occurrence of the first in a text with the second
inserted lies before or after the insertion.

* `Apart.disjoint` — two occurrences have no place in common.
* `replaceAll_induct` — the induction over the occurrences that are replaced.
* `not_infix_replaceAll`, `not_infix_replaceAll_of` — what does not occur afterwards.
-/

namespace FrametimeCfg.Lib.Text

/-! ## Texts that lie apart -/

/-- **Two texts lie apart**: neither contains the other, and no end of one begins the other. -/
structure Apart (p q : List Char) : Prop where
  notIn : ¬ p <:+: q
  notAround : ¬ q <:+: p
  noStart : ∀ overlap, overlap ≠ [] → overlap <:+ p → ¬ overlap <+: q
  noEnd : ∀ overlap, overlap ≠ [] → overlap <+: p → ¬ overlap <:+ q

theorem Apart.symm {p q : List Char} (h : Apart p q) : Apart q p where
  notIn := h.notAround
  notAround := h.notIn
  noStart := fun overlap hne hend hstart => h.noEnd overlap hne hstart hend
  noEnd := fun overlap hne hstart hend => h.noStart overlap hne hend hstart

theorem Apart.left_ne_nil {p q : List Char} (h : Apart p q) : p ≠ [] := by
  intro hnil
  exact h.notIn (hnil ▸ List.nil_infix)

/-- Texts without a common character lie apart. -/
theorem apart_of_disjoint {p q : List Char} (hp : p ≠ []) (hq : q ≠ [])
    (h : ∀ c ∈ p, c ∉ q) : Apart p q := by
  have hcommon : ∀ overlap, overlap ≠ [] → overlap ⊆ p → overlap ⊆ q → False := by
    intro overlap hne hsubset hsubset'
    obtain ⟨c, hc⟩ := List.exists_mem_of_ne_nil overlap hne
    exact h c (hsubset hc) (hsubset' hc)
  constructor
  · exact fun hin => hcommon p hp (List.Subset.refl p) hin.subset
  · exact fun haround => hcommon q hq haround.subset (List.Subset.refl q)
  · exact fun overlap hne hend hstart => hcommon overlap hne hend.subset hstart.subset
  · exact fun overlap hne hstart hend => hcommon overlap hne hstart.subset hend.subset

/-- A text that has neither the first nor the last character of another, and does not occur in
it, lies apart from it. -/
theorem apart_of_edges {p middle : List Char} {c d : Char} (hc : c ∉ p) (hd : d ∉ p)
    (hin : ¬ p <:+: c :: middle ++ [d]) : Apart p (c :: middle ++ [d]) := by
  constructor
  · exact hin
  · exact fun haround => hc (haround.subset (by simp))
  · intro overlap hne hend hstart
    cases overlap with
    | nil => exact hne rfl
    | cons e overlap =>
      have he : e = c := (List.cons_prefix_cons.mp hstart).1
      exact hc (hend.subset (by simp [he]))
  · intro overlap hne hstart hend
    obtain ⟨start, htext⟩ := hend
    have hlast := congrArg List.getLast? htext
    rw [List.getLast?_append_of_ne_nil _ hne, List.getLast?_concat] at hlast
    exact hd (hstart.subset (List.mem_of_getLast? hlast))

/-- Of two occurrences that meet, the first not after the second: the second lies in the
first, or an end of the first begins the second. -/
private theorem not_meeting {p q before after after' middle : List Char} (h : Apart p q)
    (htext : before ++ p ++ after = before ++ middle ++ q ++ after') :
    p.length ≤ middle.length := by
  by_contra hshort
  rw [List.append_assoc, List.append_assoc, List.append_assoc, List.append_cancel_left_eq,
    ← List.append_assoc] at htext
  -- the first text reaches beyond the one before the second
  obtain ⟨overlap, hoverlap, htail⟩ : ∃ overlap, p = middle ++ overlap ∧
      overlap ++ after = q ++ after' := by
    rw [List.append_assoc] at htext
    rcases List.append_eq_append_iff.mp htext with ⟨rest, hmiddle, _⟩ | ⟨rest, hp, hrest⟩
    · have hlength := congrArg List.length hmiddle
      rw [List.length_append] at hlength
      omega
    · exact ⟨rest, hp, hrest.symm⟩
  rcases List.append_eq_append_iff.mp htail with ⟨rest, hq, _⟩ | ⟨rest, hoverlap', _⟩
  · have hne : overlap ≠ [] := by
      intro hnil
      simp [hoverlap, hnil] at hshort
    exact h.noStart overlap hne ⟨middle, hoverlap.symm⟩ ⟨rest, hq.symm⟩
  · exact h.notAround ⟨middle, rest, by rw [hoverlap, hoverlap', List.append_assoc]⟩

/-- **Two occurrences of texts that lie apart** have no place in common. -/
theorem Apart.disjoint {p q before after before' after' : List Char} (h : Apart p q)
    (htext : before ++ p ++ after = before' ++ q ++ after') :
    before.length + p.length ≤ before'.length ∨ before'.length + q.length ≤ before.length := by
  have hwhole := htext
  rw [List.append_assoc, List.append_assoc] at hwhole
  rcases List.append_eq_append_iff.mp hwhole with ⟨middle, rfl, _⟩ | ⟨middle, rfl, _⟩
  · left
    have hlength := not_meeting h htext
    rw [List.length_append]
    omega
  · right
    have hlength := not_meeting h.symm htext.symm
    rw [List.length_append]
    omega

/-- What occurs in a text with an insertion occurs before or after it. -/
theorem Apart.infix_cases {p q before after : List Char} (h : Apart p q)
    (hin : p <:+: before ++ q ++ after) : p <:+: before ∨ p <:+: after := by
  obtain ⟨start, rest, htext⟩ := hin
  rcases h.disjoint htext with hfirst | hlast
  · left
    rw [List.append_assoc before] at htext
    have hprefix : start ++ p <+: before :=
      List.prefix_of_prefix_length_le ⟨rest, htext⟩ (List.prefix_append _ _)
        (by rw [List.length_append]; exact hfirst)
    exact (List.suffix_append start p).isInfix.trans hprefix.isInfix
  · right
    rw [List.append_assoc start] at htext
    have hsuffix : p ++ rest <:+ after :=
      List.suffix_of_suffix_length_le ⟨start, htext⟩ (List.suffix_append _ _) (by
        have hlength := congrArg List.length htext
        simp only [List.length_append] at hlength ⊢
        omega)
    exact (List.prefix_append p rest).isInfix.trans hsuffix.isInfix

/-! ## Replacing -/

/-- The replacement, after the rest of an occurrence was passed. -/
def replaceFrom (pattern new : List Char) : Nat → List Char → List Char
  | _, [] => []
  | skip + 1, _ :: rest => replaceFrom pattern new skip rest
  | 0, c :: rest =>
      if pattern.isPrefixOf (c :: rest) then
        new ++ replaceFrom pattern new (pattern.length - 1) rest
      else c :: replaceFrom pattern new 0 rest

/-- `str::replace` of a pattern that is not empty: the occurrences are taken from the start,
each after the end of the one before it. -/
def replaceAll (pattern new value : List Char) : List Char := replaceFrom pattern new 0 value

section Replace

variable {pattern new : List Char}

theorem replaceFrom_skip (skip : Nat) (value : List Char) :
    replaceFrom pattern new skip value = replaceAll pattern new (value.drop skip) := by
  induction value generalizing skip with
  | nil => cases skip <;> rfl
  | cons c rest ih =>
    cases skip with
    | zero => rfl
    | succ skip => exact ih skip

theorem replaceAll_cons_of_neg {c : Char} {rest : List Char} (h : ¬ pattern <+: c :: rest) :
    replaceAll pattern new (c :: rest) = c :: replaceAll pattern new rest := by
  unfold replaceAll
  rw [replaceFrom, if_neg (by rwa [List.isPrefixOf_iff_prefix])]

theorem replaceAll_append (hpattern : pattern ≠ []) (after : List Char) :
    replaceAll pattern new (pattern ++ after) = new ++ replaceAll pattern new after := by
  cases pattern with
  | nil => exact absurd rfl hpattern
  | cons c rest =>
    have hstart : (c :: rest).isPrefixOf (c :: (rest ++ after)) = true :=
      List.isPrefixOf_iff_prefix.mpr ⟨after, rfl⟩
    rw [List.cons_append, replaceAll, replaceFrom, if_pos hstart, replaceFrom_skip]
    simp

/-- A text without the pattern stays as it is. -/
theorem replaceAll_of_free {value : List Char} (h : ¬ pattern <:+: value) :
    replaceAll pattern new value = value := by
  induction value with
  | nil => rfl
  | cons c rest ih =>
    rw [List.infix_cons_iff, not_or] at h
    rw [replaceAll_cons_of_neg h.1, ih h.2]

/-- A text that lacks the last character of the pattern is left alone behind every other one. -/
theorem replaceAll_append_right {c : Char} (hlast : pattern.getLast? = some c)
    {kept : List Char} (h : c ∉ kept) (value : List Char) :
    replaceAll pattern new (value ++ kept) = replaceAll pattern new value ++ kept := by
  have hpattern : pattern ≠ [] := fun hnil => by simp [hnil] at hlast
  induction hlength : value.length using Nat.strong_induction_on generalizing value with
  | h n ih =>
    cases value with
    | nil =>
      exact replaceAll_of_free (fun hin => h (hin.subset (List.mem_of_getLast? hlast)))
    | cons d value =>
      by_cases hstart : pattern <+: d :: value
      · obtain ⟨after, hafter⟩ := hstart
        have hshorter : after.length < n := by
          have hpositive := List.length_pos_iff.mpr hpattern
          rw [← hlength, ← hafter, List.length_append]
          omega
        rw [← hafter, List.append_assoc, replaceAll_append hpattern, replaceAll_append hpattern,
          ih after.length hshorter after rfl, List.append_assoc]
      · -- an occurrence at the start would end in the text that is kept
        have hstart' : ¬ pattern <+: d :: (value ++ kept) := by
          intro hin
          rw [← List.cons_append] at hin
          rcases List.prefix_or_prefix_of_prefix hin (List.prefix_append _ kept)
            with hvalue | ⟨begun, rfl⟩
          · exact hstart hvalue
          · have hbegun : begun <+: kept := (List.prefix_append_right_inj _).mp hin
            have hne : begun ≠ [] := fun hnil => hstart ⟨[], by simp [hnil]⟩
            rw [List.getLast?_append_of_ne_nil _ hne] at hlast
            exact h (hbegun.subset (List.mem_of_getLast? hlast))
        rw [List.cons_append, replaceAll_cons_of_neg hstart', replaceAll_cons_of_neg hstart,
          ih value.length (by rw [← hlength]; simp) value rfl, List.cons_append]

/-- The first cut of a text is where the first occurrence is replaced. -/
theorem replaceAll_of_cut (hpattern : pattern ≠ []) {value before after : List Char}
    (h : splitOnceText pattern value = some (before, after)) :
    replaceAll pattern new value = before ++ new ++ replaceAll pattern new after := by
  induction value generalizing before with
  | nil => simp [splitOnceText, hpattern] at h
  | cons c rest ih =>
    unfold splitOnceText at h
    split at h
    · rename_i tail hstart
      obtain ⟨rfl, rfl⟩ := Prod.mk.inj (Option.some.inj h)
      rw [stripPrefix_eq_some.mp hstart, replaceAll_append hpattern, List.nil_append]
    · rename_i hstart
      obtain ⟨⟨before', after'⟩, hrest, heq⟩ := Option.map_eq_some_iff.mp h
      obtain ⟨rfl, rfl⟩ := Prod.mk.inj heq
      rw [replaceAll_cons_of_neg (stripPrefix_eq_none.mp hstart), ih hrest]
      rfl

/-- **The induction over the occurrences that are replaced.** -/
theorem replaceAll_induct (hpattern : pattern ≠ []) {motive : List Char → List Char → Prop}
    (free : ∀ value, ¬ pattern <:+: value → motive value value)
    (cut : ∀ before after out, ¬ pattern <:+: before → motive after out →
      motive (before ++ pattern ++ after) (before ++ new ++ out)) (value : List Char) :
    motive value (replaceAll pattern new value) := by
  induction hlength : value.length using Nat.strong_induction_on generalizing value with
  | h n ih =>
    cases hcut : splitOnceText pattern value with
    | none =>
      have hfree := splitOnceText_eq_none hcut
      rw [replaceAll_of_free hfree]
      exact free value hfree
    | some pieces =>
      obtain ⟨before, after⟩ := pieces
      obtain ⟨hvalue, hfree⟩ := splitOnceText_eq_some hpattern hcut
      rw [replaceAll_of_cut hpattern hcut, hvalue]
      refine cut before after _ hfree (ih after.length ?_ after rfl)
      have hpositive := List.length_pos_iff.mpr hpattern
      rw [← hlength, hvalue, List.length_append, List.length_append]
      omega

/-- A text that lies apart from the replacement and does not occur is not brought in. -/
theorem not_infix_replaceAll_of {name : List Char} (hpattern : pattern ≠ [])
    (hname : Apart name new) {value : List Char} (h : ¬ name <:+: value) :
    ¬ name <:+: replaceAll pattern new value := by
  revert h
  refine replaceAll_induct (motive := fun value out => ¬ name <:+: value → ¬ name <:+: out)
    hpattern (fun _ _ h => h) (fun before after out _ ih h hin => ?_) value
  rcases hname.infix_cases hin with hbefore | hout
  · exact h (hbefore.trans ⟨[], pattern ++ after, by simp⟩)
  · exact ih (fun hafter => h (hafter.trans (List.suffix_append _ _).isInfix)) hout

/-- **A pattern that lies apart from its replacement** does not occur afterwards. -/
theorem not_infix_replaceAll (h : Apart pattern new) (value : List Char) :
    ¬ pattern <:+: replaceAll pattern new value := by
  refine replaceAll_induct (motive := fun _ out => ¬ pattern <:+: out) h.left_ne_nil
    (fun _ hfree => hfree) (fun before after out hbefore ih hin => ?_) value
  rcases h.infix_cases hin with hin | hin
  · exact hbefore hin
  · exact ih hin

end Replace

/-! ## Edits -/

/-- **One text is the other** with spans exchanged, and all else unchanged and in order. -/
inductive Edited (span : List Char → List Char → Prop) : List Char → List Char → Prop
  | done : Edited span [] []
  | keep (c : Char) {value out : List Char} :
      Edited span value out → Edited span (c :: value) (c :: out)
  | swap {old new value out : List Char} :
      span old new → Edited span value out → Edited span (old ++ value) (new ++ out)

variable {span : List Char → List Char → Prop}

theorem Edited.append_left (kept : List Char) {value out : List Char}
    (h : Edited span value out) : Edited span (kept ++ value) (kept ++ out) := by
  induction kept with
  | nil => exact h
  | cons c kept ih => exact .keep c ih

theorem Edited.refl (value : List Char) : Edited span value value := by
  simpa using Edited.append_left value (.done : Edited span [] [])

/-- A replacement edits the occurrences of its pattern. -/
theorem edited_replaceAll {pattern new : List Char} (hpattern : pattern ≠ [])
    (hspan : span pattern new) (value : List Char) :
    Edited span value (replaceAll pattern new value) := by
  refine replaceAll_induct (motive := Edited span) hpattern (fun value _ => .refl value)
    (fun before after out _ ih => ?_) value
  rw [List.append_assoc, List.append_assoc]
  exact (Edited.swap hspan ih).append_left before

end FrametimeCfg.Lib.Text
