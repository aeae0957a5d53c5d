import FrametimeCfg.Lib.Text
import Mathlib.Data.List.Infix

/-!
# Texts in pieces

What `splitAt`, `splitOnceText` and `lines` return.  A separator cuts a text in two texts
that are split on their own, a text without separators is one piece, and the first cut of
`splitOnceText` is the first occurrence of its pattern.
-/

namespace FrametimeCfg.Lib.Text

variable {p : Char → Bool}

/-! ## Cutting at characters -/

theorem splitAt_nil : splitAt p [] = [[]] := rfl

theorem splitAt_cons (c : Char) (rest : List Char) : splitAt p (c :: rest) =
    if p c then [] :: splitAt p rest
    else
      match splitAt p rest with
      | [] => [[c]]
      | part :: parts => (c :: part) :: parts :=
  rfl

theorem splitAt_ne_nil (value : List Char) : splitAt p value ≠ [] := by
  cases value with
  | nil => exact List.cons_ne_nil _ _
  | cons c rest =>
    rw [splitAt_cons]
    by_cases hc : p c = true
    · rw [if_pos hc]
      exact List.cons_ne_nil _ _
    · rw [if_neg hc]
      cases splitAt p rest with
      | nil => exact List.cons_ne_nil _ _
      | cons piece pieces => exact List.cons_ne_nil _ _

/-- A text without separators is one piece. -/
theorem splitAt_of_free {value : List Char} (h : ∀ c ∈ value, p c = false) :
    splitAt p value = [value] := by
  induction value with
  | nil => rfl
  | cons c rest ih =>
    rw [splitAt_cons, h c (by simp), ih fun d hd => h d (by simp [hd])]
    rfl

/-- A separator cuts a text in two that are split on their own. -/
theorem splitAt_append {c : Char} (h : p c = true) (before after : List Char) :
    splitAt p (before ++ c :: after) = splitAt p before ++ splitAt p after := by
  induction before with
  | nil => simp [splitAt_nil, splitAt_cons, h]
  | cons d before ih =>
    simp only [List.cons_append, splitAt_cons, ih]
    by_cases hd : p d = true
    · simp [hd]
    · cases hpieces : splitAt p before with
      | nil => exact absurd hpieces (splitAt_ne_nil before)
      | cons piece pieces => simp [hd]

/-- A piece is a part of the text. -/
theorem infix_of_mem_splitAt {value piece : List Char} (h : piece ∈ splitAt p value) :
    piece <:+: value := by
  induction value generalizing piece with
  | nil =>
    rw [splitAt_nil, List.mem_singleton] at h
    exact h ▸ List.nil_infix
  | cons c rest ih =>
    -- the first piece is even the start of the text
    have hstart : ∀ first pieces, splitAt p rest = first :: pieces → first <+: rest := by
      intro first pieces hpieces
      clear h ih
      induction rest generalizing first pieces with
      | nil =>
        rw [splitAt_nil] at hpieces
        rw [← (List.cons.inj hpieces).1]
      | cons d rest ih =>
        rw [splitAt_cons] at hpieces
        split at hpieces
        · rw [← (List.cons.inj hpieces).1]
          exact List.nil_prefix
        · cases hrest : splitAt p rest with
          | nil => exact absurd hrest (splitAt_ne_nil rest)
          | cons first' pieces' =>
            rw [hrest] at hpieces
            rw [← (List.cons.inj hpieces).1]
            exact List.cons_prefix_cons.mpr ⟨rfl, ih first' pieces' hrest⟩
    rw [splitAt_cons] at h
    split at h
    · rcases List.mem_cons.mp h with rfl | h
      · exact List.nil_infix
      · exact (ih h).trans (List.suffix_cons c rest).isInfix
    · cases hrest : splitAt p rest with
      | nil => exact absurd hrest (splitAt_ne_nil rest)
      | cons first pieces =>
        rw [hrest] at h
        rcases List.mem_cons.mp h with rfl | h
        · exact (List.cons_prefix_cons.mpr ⟨rfl, hstart first pieces hrest⟩).isInfix
        · have hmem : piece ∈ splitAt p rest := by rw [hrest]; exact List.mem_cons_of_mem _ h
          exact (ih hmem).trans (List.suffix_cons c rest).isInfix

/-! ## Cutting at a text -/

theorem stripPrefix_eq (start value : List Char) : stripPrefix start value =
    if start.isPrefixOf value then some (value.drop start.length) else none :=
  rfl

/-- A start that was stripped. -/
theorem stripPrefix_eq_some {start value rest : List Char} :
    stripPrefix start value = some rest ↔ value = start ++ rest := by
  rw [stripPrefix_eq]
  by_cases h : start.isPrefixOf value = true
  · obtain ⟨tail, rfl⟩ := List.isPrefixOf_iff_prefix.mp h
    simp
  · rw [if_neg h]
    constructor
    · intro hnone
      cases hnone
    · intro hvalue
      simp [hvalue] at h

theorem stripPrefix_eq_none {start value : List Char} :
    stripPrefix start value = none ↔ ¬ start <+: value := by
  rw [stripPrefix_eq]
  rw [← List.isPrefixOf_iff_prefix]
  simp

theorem splitOnceText_nil (pattern : List Char) :
    splitOnceText pattern [] = if pattern = [] then some ([], []) else none :=
  rfl

theorem splitOnceText_cons (pattern : List Char) (c : Char) (rest : List Char) :
    splitOnceText pattern (c :: rest) =
      match stripPrefix pattern (c :: rest) with
      | some after => some ([], after)
      | none =>
          (splitOnceText pattern rest).map fun (before, after) => (c :: before, after) :=
  rfl

/-- A text in which the pattern does not occur stays whole. -/
theorem splitOnceText_eq_none {pattern : List Char} {value : List Char}
    (h : splitOnceText pattern value = none) : ¬ pattern <:+: value := by
  induction value with
  | nil =>
    intro hmem
    rw [List.infix_nil] at hmem
    simp [splitOnceText_nil, hmem] at h
  | cons c rest ih =>
    rw [splitOnceText_cons] at h
    split at h
    · cases h
    · rename_i hstart
      rw [List.infix_cons_iff, not_or]
      exact ⟨stripPrefix_eq_none.mp hstart, ih (Option.map_eq_none_iff.mp h)⟩

/-- The cut is at an occurrence, before which there is none. -/
theorem splitOnceText_eq_some {pattern : List Char} (hpattern : pattern ≠ [])
    {value before after : List Char}
    (h : splitOnceText pattern value = some (before, after)) :
    value = before ++ pattern ++ after ∧ ¬ pattern <:+: before := by
  induction value generalizing before with
  | nil => simp [splitOnceText_nil, hpattern] at h
  | cons c rest ih =>
    rw [splitOnceText_cons] at h
    split at h
    · rename_i tail hstart
      obtain ⟨rfl, rfl⟩ := Prod.mk.inj (Option.some.inj h)
      refine ⟨stripPrefix_eq_some.mp hstart, ?_⟩
      rw [List.infix_nil]
      exact hpattern
    · rename_i hstart
      obtain ⟨⟨before', after'⟩, hrest, heq⟩ := Option.map_eq_some_iff.mp h
      obtain ⟨rfl, rfl⟩ := Prod.mk.inj heq
      obtain ⟨hvalue, hfree⟩ := ih hrest
      refine ⟨by rw [hvalue]; rfl, ?_⟩
      rw [List.infix_cons_iff, not_or]
      refine ⟨fun hprefix => stripPrefix_eq_none.mp hstart ?_, hfree⟩
      rw [hvalue]
      exact hprefix.trans ⟨pattern ++ after', by simp⟩

/-- A cut leaves no shorter start: every occurrence of the pattern comes later. -/
theorem splitOnceText_first {pattern : List Char} (hpattern : pattern ≠ [])
    {value before after : List Char}
    (h : splitOnceText pattern value = some (before, after)) {before' after' : List Char}
    (hvalue : value = before' ++ pattern ++ after') : before.length ≤ before'.length := by
  induction value generalizing before before' with
  | nil => simp [splitOnceText_nil, hpattern] at h
  | cons c rest ih =>
    rw [splitOnceText_cons] at h
    split at h
    · rw [← (Prod.mk.inj (Option.some.inj h)).1]
      exact Nat.zero_le _
    · rename_i hstart
      obtain ⟨⟨tail, after''⟩, hrest, heq⟩ := Option.map_eq_some_iff.mp h
      obtain ⟨hbefore, rfl⟩ := Prod.mk.inj heq
      rw [← hbefore]
      cases before' with
      | nil =>
        refine absurd ?_ (stripPrefix_eq_none.mp hstart)
        rw [hvalue]
        exact ⟨after', rfl⟩
      | cons d before' =>
        have hlength := ih hrest (List.cons.inj hvalue).2
        simpa using hlength

/-- The cut is at the occurrence before which there is no other. -/
theorem splitOnceText_of_first {pattern before after : List Char} (hpattern : pattern ≠ [])
    (hfirst : ∀ before' after', before ++ pattern ++ after = before' ++ pattern ++ after' →
      before.length ≤ before'.length) :
    splitOnceText pattern (before ++ pattern ++ after) = some (before, after) := by
  cases hcut : splitOnceText pattern (before ++ pattern ++ after) with
  | none => exact absurd ⟨before, after, rfl⟩ (splitOnceText_eq_none hcut)
  | some cut =>
    obtain ⟨before', after'⟩ := cut
    have hvalue := (splitOnceText_eq_some hpattern hcut).1
    have hlength : before'.length = before.length :=
      Nat.le_antisymm (splitOnceText_first hpattern hcut rfl) (hfirst before' after' hvalue)
    rw [List.append_assoc, List.append_assoc] at hvalue
    obtain ⟨hbefore, htail⟩ := List.append_inj hvalue hlength.symm
    rw [hbefore, List.append_cancel_left htail]

/-- After a text without the pattern and a character that is none of it, the first cut is at
the pattern. -/
theorem splitOnceText_closed {pattern before after : List Char} {c : Char}
    (hpattern : pattern ≠ []) (hc : c ∉ pattern) (hfree : ¬ pattern <:+: before) :
    splitOnceText pattern (before ++ c :: (pattern ++ after)) = some (before ++ [c], after) := by
  have hwhole : before ++ c :: (pattern ++ after) = (before ++ [c]) ++ pattern ++ after := by
    simp
  rw [hwhole]
  refine splitOnceText_of_first hpattern fun before' after' heq => ?_
  by_contra hshort
  rw [List.length_append, List.length_singleton] at hshort
  -- an earlier occurrence starts in the text, and so lies in it or reaches the character
  obtain ⟨middle, hmiddle, htail⟩ : ∃ middle, before = before' ++ middle ∧
      middle ++ c :: (pattern ++ after) = pattern ++ after' := by
    rw [← hwhole, List.append_assoc] at heq
    rcases List.append_eq_append_iff.mp heq with ⟨middle, hbefore', htail⟩ | ⟨middle, hm, ht⟩
    · have hlength := congrArg List.length hbefore'
      rw [List.length_append] at hlength
      have hnil : middle = [] := List.length_eq_zero_iff.mp (by omega)
      subst hnil
      exact ⟨[], by simpa using hbefore'.symm, htail⟩
    · exact ⟨middle, hm, ht.symm⟩
  rcases List.append_eq_append_iff.mp htail with ⟨rest, hpieces, hrest⟩ | ⟨rest, hpieces, _⟩
  · cases rest with
    | nil =>
      refine hfree ?_
      rw [hmiddle, hpieces, List.append_nil]
      exact (List.suffix_append _ _).isInfix
    | cons d rest =>
      refine hc ?_
      rw [hpieces, (List.cons.inj hrest).1]
      simp
  · refine hfree ?_
    rw [hmiddle, hpieces]
    exact ⟨before', rest, by simp⟩

/-! ## Ends -/

/-- `str::strip_suffix`. -/
def stripSuffix (ending value : List Char) : Option (List Char) :=
  (stripPrefix ending.reverse value.reverse).map List.reverse

theorem stripSuffix_append (ending value : List Char) :
    stripSuffix ending (value ++ ending) = some value := by
  have hreverse : stripPrefix ending.reverse (value ++ ending).reverse = some value.reverse :=
    stripPrefix_eq_some.mpr List.reverse_append
  rw [stripSuffix, hreverse, Option.map_some, List.reverse_reverse]

/-- The last character is removed, or nothing is. -/
theorem trimEndMatches_concat (value : List Char) (c : Char) :
    trimEndMatches p (value ++ [c]) = if p c then trimEndMatches p value else value ++ [c] := by
  unfold trimEndMatches
  rw [List.reverse_append, List.reverse_singleton, List.singleton_append, List.dropWhile_cons]
  split
  · rfl
  · rw [List.reverse_cons, List.reverse_reverse]

/-- A text that begins and ends with other characters is not trimmed. -/
theorem trim_of_solid {c d : Char} {value : List Char} (hc : isWhitespace c = false)
    (hd : isWhitespace d = false) : trim (c :: value ++ [d]) = c :: value ++ [d] := by
  unfold trim
  rw [List.cons_append, List.dropWhile_cons_of_neg (by simp [hc]), ← List.cons_append,
    trimEndMatches_concat, if_neg (by simp [hd])]

/-- White space before a text is trimmed. -/
theorem trim_cons_of_white {c : Char} (hc : isWhitespace c = true) (value : List Char) :
    trim (c :: value) = trim value := by
  unfold trim
  rw [List.dropWhile_cons_of_pos hc]

/-- White space after a text that begins with another character is trimmed. -/
theorem trim_concat_of_white {c d : Char} (hc : isWhitespace c = false)
    (hd : isWhitespace d = true) (value : List Char) :
    trim (c :: value ++ [d]) = trim (c :: value) := by
  unfold trim
  rw [List.cons_append, List.dropWhile_cons_of_neg (by simp [hc]), ← List.cons_append,
    trimEndMatches_concat, if_pos hd, List.dropWhile_cons_of_neg (by simp [hc])]

/-! ## Lines -/

/-- The lines of a text in which each line ends with a carriage return and a line feed. -/
theorem lines_flatMap {texts : List (List Char)} (h : ∀ text ∈ texts, '\n' ∉ text) :
    lines (texts.flatMap fun text => text ++ ['\r', '\n']) = texts := by
  have hpieces : ∀ texts : List (List Char), (∀ text ∈ texts, '\n' ∉ text) →
      FrametimeCfg.Lib.Text.splitAt (· = '\n')
        (texts.flatMap fun text => text ++ ['\r', '\n']) =
          texts.map (· ++ ['\r']) ++ [[]] := by
    intro texts
    induction texts with
    | nil => exact fun _ => rfl
    | cons text texts ih =>
      intro h
      have hfree : FrametimeCfg.Lib.Text.splitAt (· = '\n') (text ++ ['\r']) =
          [text ++ ['\r']] := by
        refine splitAt_of_free fun c hc => ?_
        rcases List.mem_append.mp hc with hc | hc
        · have hne : c ≠ '\n' := fun heq => h text (by simp) (heq ▸ hc)
          simpa using hne
        · rw [List.mem_singleton.mp hc]
          decide
      have hcut : (text :: texts).flatMap (fun text => text ++ ['\r', '\n']) =
          (text ++ ['\r']) ++ '\n' :: texts.flatMap fun text => text ++ ['\r', '\n'] := by
        simp
      rw [hcut, splitAt_append (by simp), hfree, ih fun t ht => h t (by simp [ht])]
      rfl
  unfold lines
  rw [hpieces texts h]
  simp only [List.dropLast_concat, List.getLast?_concat, List.map_map]
  have hstrip : stripCarriageReturn ∘ (· ++ ['\r']) = id := by
    funext text
    simp [stripCarriageReturn]
  rw [hstrip]
  simp

/-- A line of its own, before the last line feed. -/
theorem mem_lines {before line : List Char} (hline : ∀ c ∈ line, c ≠ '\n')
    (hend : line.getLast? ≠ some '\r') : line ∈ lines (before ++ '\n' :: (line ++ ['\n'])) := by
  have hpieces : FrametimeCfg.Lib.Text.splitAt (· = '\n') (before ++ '\n' :: (line ++ ['\n'])) =
      FrametimeCfg.Lib.Text.splitAt (· = '\n') before ++ [line] ++ [[]] := by
    have hwhole : FrametimeCfg.Lib.Text.splitAt (· = '\n') line = [line] :=
      splitAt_of_free (by simpa using hline)
    rw [splitAt_append (by simp), splitAt_append (by simp), hwhole, List.append_assoc]
    rfl
  show line ∈ (FrametimeCfg.Lib.Text.splitAt (· = '\n') _).dropLast.map _ ++ _
  rw [hpieces, List.dropLast_concat]
  refine List.mem_append_left _ (List.mem_map.mpr ⟨line, by simp, ?_⟩)
  unfold stripCarriageReturn
  rw [if_neg hend]

/-! ## Bytes -/

/-- The bytes of a text are read as the text. -/
theorem fromUtf8_utf8 (s : String) : fromUtf8 (utf8 s) = some s := by
  have hbytes : (⟨(utf8 s).toArray⟩ : ByteArray) = s.toUTF8 := by
    simp [utf8]
  unfold fromUtf8 String.fromUTF8?
  rw [hbytes, String.toUTF8_eq_toByteArray, dif_pos s.isValidUTF8]
  rfl

/-- Texts with the same bytes are the same. -/
theorem utf8_injective {s t : String} (h : utf8 s = utf8 t) : s = t := by
  have hread := congrArg fromUtf8 h
  rw [fromUtf8_utf8, fromUtf8_utf8] at hread
  exact Option.some.inj hread

end FrametimeCfg.Lib.Text
