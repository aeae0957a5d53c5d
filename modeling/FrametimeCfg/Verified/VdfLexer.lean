import FrametimeCfg.Domain.Steam

/-!
# The tokens of a key-value file

A text is read as tokens exactly if it spells them: white space and comments stand between
the tokens, and of the characters of a string only quotes and backslashes are escaped.

* `skip_gap`, `skip_sound` — white space and comments.
* `quotedFrom_escaped`, `quotedFrom_sound` — strings.
* `tokensFrom_iff` — a whole text.
-/

namespace FrametimeCfg.Verified.VdfLexer

open FrametimeCfg.Domain.Steam
open FrametimeCfg.Lib.Buffer
open FrametimeCfg.Lib.Scan

/-! ## Spellings -/

/-- White space and comments between two tokens. -/
inductive Gap : List UInt8 → Prop
  | nil : Gap []
  | space {b : UInt8} {rest : List UInt8} :
      isAsciiWhitespace b = true → Gap rest → Gap (b :: rest)
  | comment {line rest : List UInt8} :
      0x0a ∉ line → Gap rest → Gap (0x2f :: 0x2f :: line ++ 0x0a :: rest)

/-- What follows the last token: the last comment need not end its line. -/
inductive Ending : List UInt8 → Prop
  | gap {bytes : List UInt8} : Gap bytes → Ending bytes
  | comment {gap line : List UInt8} :
      Gap gap → 0x0a ∉ line → Ending (gap ++ 0x2f :: 0x2f :: line)

/-- A character of a key or a string: ASCII, and not NUL. -/
def IsPlain (c : Char) : Prop := 0 < c.toNat ∧ c.toNat < 128

/-- A character of a string as it is written. -/
def escape (c : Char) : List UInt8 :=
  if c = '"' then [0x5c, 0x22] else if c = '\\' then [0x5c, 0x5c] else [UInt8.ofNat c.toNat]

/-- A string as it is written, without the quote before it. -/
def escaped (value : List Char) : List UInt8 := value.flatMap escape ++ [0x22]

/-- A token as it is written. -/
def spelling : VdfToken → List UInt8
  | .text value => 0x22 :: escaped value.toList
  | .openBrace => [0x7b]
  | .closeBrace => [0x7d]

/-- A token that can be written. -/
def PlainToken : VdfToken → Prop
  | .text value => ∀ c ∈ value.toList, IsPlain c
  | .openBrace => True
  | .closeBrace => True

/-- **The ways to write tokens.** -/
inductive Spelled : List VdfToken → List UInt8 → Prop
  | nil {bytes : List UInt8} : Ending bytes → Spelled [] bytes
  | cons {gap : List UInt8} {token : VdfToken} {tokens : List VdfToken} {rest : List UInt8} :
      Gap gap → PlainToken token → Spelled tokens rest →
        Spelled (token :: tokens) (gap ++ (spelling token ++ rest))

/-! ## White space and comments -/

theorem ending_space {b : UInt8} {bytes : List UInt8} (hb : isAsciiWhitespace b = true)
    (h : Ending bytes) : Ending (b :: bytes) := by
  cases h with
  | gap hgap => exact .gap (.space hb hgap)
  | comment hgap hline => exact .comment (.space hb hgap) hline

theorem ending_line {line bytes : List UInt8} (hline : 0x0a ∉ line) (h : Ending bytes) :
    Ending (0x2f :: 0x2f :: line ++ 0x0a :: bytes) := by
  cases h with
  | gap hgap => exact .gap (.comment hline hgap)
  | @comment gap last hgap hlast =>
    have hending : Ending ((0x2f :: 0x2f :: line ++ 0x0a :: gap) ++ 0x2f :: 0x2f :: last) :=
      .comment (.comment hline hgap) hlast
    simpa using hending

/-- A comment runs to the next line feed or to the end. -/
theorem line_split (bytes : List UInt8) : ∃ line tail, bytes = line ++ tail ∧ 0x0a ∉ line ∧
    ∀ b, tail.head? = some b → b = 0x0a := by
  refine ⟨bytes.takeWhile (· ≠ 0x0a), bytes.dropWhile (· ≠ 0x0a),
    List.takeWhile_append_dropWhile.symm, fun hmem => ?_, fun b hb => ?_⟩
  · simpa using List.all_eq_true.mp List.all_takeWhile _ hmem
  · have hfirst := List.head?_dropWhile_not (· ≠ (0x0a : UInt8)) bytes
    rw [hb] at hfirst
    simpa using hfirst

section Skip

variable {source : List UInt8} {offset : Nat}

theorem skip_end (h : source.drop offset = []) :
    skipSpaceAndComments source offset = (.ok false, offset) := by
  have hend := List.drop_eq_nil_iff.mp h
  rw [skipSpaceAndComments]
  simp only [skipWhile_end hend]
  rw [dif_pos hend]

theorem skip_space {b : UInt8} {rest : List UInt8} (h : source.drop offset = b :: rest)
    (hb : isAsciiWhitespace b = true) :
    skipSpaceAndComments source offset = skipSpaceAndComments source (offset + 1) := by
  conv_lhs => rw [skipSpaceAndComments, skipWhile_of_pos (drop_eq_cons h).1 hb]
  conv_rhs => rw [skipSpaceAndComments]

theorem skip_token {b : UInt8} {rest : List UInt8} (h : source.drop offset = b :: rest)
    (hb : isAsciiWhitespace b = false) (hslash : b ≠ 0x2f) :
    skipSpaceAndComments source offset = (.ok true, offset) := by
  obtain ⟨hbyte, _, hlt⟩ := drop_eq_cons h
  have hcomment : ¬ [0x2f, 0x2f].isPrefixOf (source.drop offset) = true := by
    rw [h]
    simp [Ne.symm hslash]
  have hother : ¬ source[offset]? = some 0x2f := by
    rw [hbyte]
    simpa using hslash
  rw [skipSpaceAndComments]
  simp only [skipWhile_of_neg hbyte hb]
  rw [dif_neg (by omega), if_neg hcomment, if_neg hother]

theorem skip_comment {line rest : List UInt8}
    (h : source.drop offset = 0x2f :: 0x2f :: line ++ rest) (hline : 0x0a ∉ line)
    (hrest : ∀ b, rest.head? = some b → b = 0x0a) :
    skipSpaceAndComments source offset =
      skipSpaceAndComments source (offset + (2 + line.length)) := by
  obtain ⟨hbyte, _, hlt⟩ := drop_eq_cons h
  have hcomment : [0x2f, 0x2f].isPrefixOf (source.drop offset) = true := by
    rw [h]
    simp
  have hline' : source.drop (offset + 2) = line ++ rest := by
    have hstart : source.drop offset = [0x2f, 0x2f] ++ (line ++ rest) := h
    exact drop_append_eq hstart
  have hskip : skipWhile (· ≠ 0x0a) source (offset + 2) = offset + 2 + line.length := by
    refine skipWhile_append hline' (fun b hb => ?_) fun b hb => ?_
    · have hne : b ≠ 0x0a := fun heq => hline (heq ▸ hb)
      simpa using hne
    · simpa using hrest b hb
  rw [skipSpaceAndComments]
  simp only [skipWhile_of_neg hbyte (by decide : isAsciiWhitespace 0x2f = false)]
  rw [dif_neg (by omega), if_pos hcomment, hskip, Nat.add_assoc]

theorem skip_slash {rest : List UInt8} (h : source.drop offset = 0x2f :: rest)
    (hrest : rest.head? ≠ some 0x2f) :
    skipSpaceAndComments source offset = (invalid "unsupported VDF comment", offset) := by
  obtain ⟨hbyte, _, hlt⟩ := drop_eq_cons h
  have hcomment : ¬ [0x2f, 0x2f].isPrefixOf (source.drop offset) = true := by
    rw [h]
    cases rest with
    | nil => simp
    | cons b rest =>
      have hb : b ≠ 0x2f := by simpa using hrest
      simp [Ne.symm hb]
  rw [skipSpaceAndComments]
  simp only [skipWhile_of_neg hbyte (by decide : isAsciiWhitespace 0x2f = false)]
  rw [dif_neg (by omega), if_neg hcomment, if_pos hbyte]

/-- White space and comments are passed over. -/
theorem skip_gap {gap rest : List UInt8} (hgap : Gap gap)
    (h : source.drop offset = gap ++ rest) :
    skipSpaceAndComments source offset = skipSpaceAndComments source (offset + gap.length) := by
  induction hgap generalizing offset with
  | nil => rfl
  | space hb _ ih =>
    rw [skip_space h hb, ih (drop_eq_cons h).2.1, List.length_cons]
    congr 1
    omega
  | @comment line tail hline _ ih =>
    have hcomment : source.drop offset = 0x2f :: 0x2f :: line ++ (0x0a :: tail ++ rest) := by
      rw [h]
      simp
    have hfeed : source.drop (offset + (2 + line.length)) = 0x0a :: (tail ++ rest) := by
      have hpart : source.drop offset = (0x2f :: 0x2f :: line) ++ (0x0a :: (tail ++ rest)) := by
        rw [h]
        simp
      have hdrop := drop_append_eq hpart
      rw [List.length_cons, List.length_cons] at hdrop
      rw [← hdrop]
      congr 1
      omega
    rw [skip_comment hcomment hline (by simp), skip_space hfeed (by decide),
      ih (drop_eq_cons hfeed).2.1]
    simp only [List.length_append, List.length_cons]
    congr 1
    omega

/-- After the last token nothing is found. -/
theorem skip_ending (h : Ending (source.drop offset)) :
    ∃ next, skipSpaceAndComments source offset = (.ok false, next) := by
  generalize hbytes : source.drop offset = bytes at h
  cases h with
  | gap hgap =>
    have hend : source.drop (offset + bytes.length) = [] :=
      drop_append_eq (hbytes.trans (List.append_nil bytes).symm)
    rw [skip_gap hgap (hbytes.trans (List.append_nil bytes).symm)]
    exact ⟨_, skip_end hend⟩
  | @comment gap line hgap hline =>
    have hcomment : source.drop (offset + gap.length) = 0x2f :: 0x2f :: line ++ [] := by
      rw [drop_append_eq hbytes, List.append_nil]
    have hend : source.drop (offset + gap.length + (2 + line.length)) = [] := by
      have hdrop := drop_append_eq hcomment
      rw [← hdrop, List.length_cons, List.length_cons]
      congr 1
      omega
    rw [skip_gap hgap hbytes, skip_comment hcomment hline (by simp)]
    exact ⟨_, skip_end hend⟩

/-- **What was passed over** is white space and comments. -/
theorem skip_sound {found : Bool} {next : Nat}
    (h : skipSpaceAndComments source offset = (.ok found, next)) :
    found = false ∧ Ending (source.drop offset) ∨
      found = true ∧ ∃ gap b, Gap gap ∧ source.drop offset = gap ++ source.drop next ∧
        source[next]? = some b := by
  induction hleft : source.length - offset using Nat.strong_induction_on
    generalizing offset with
  | h left ih =>
    cases hbytes : source.drop offset with
    | nil =>
      rw [skip_end hbytes] at h
      cases h
      exact .inl ⟨rfl, .gap .nil⟩
    | cons b rest =>
      obtain ⟨hbyte, hrest, hlt⟩ := drop_eq_cons hbytes
      by_cases hspace : isAsciiWhitespace b = true
      · rw [skip_space hbytes hspace] at h
        rcases ih _ (by omega) h rfl with ⟨hfound, hending⟩ | ⟨hfound, gap, b', hgap, hdrop, hb'⟩
        · exact .inl ⟨hfound, hrest ▸ ending_space hspace hending⟩
        · exact .inr ⟨hfound, b :: gap, b', .space hspace hgap,
            by rw [← hrest, hdrop, List.cons_append], hb'⟩
      · by_cases hslash : b = 0x2f
        · subst hslash
          by_cases hcomment : rest.head? = some 0x2f
          · obtain ⟨after, rfl⟩ : ∃ after, rest = 0x2f :: after := by
              cases rest with
              | nil => cases hcomment
              | cons c after => exact ⟨after, by rw [Option.some.inj hcomment]⟩
            obtain ⟨line, tail, rfl, hline, hfirst⟩ := line_split after
            have hpart : source.drop offset = (0x2f :: 0x2f :: line) ++ tail := hbytes
            have htail : source.drop (offset + (2 + line.length)) = tail := by
              rw [← drop_append_eq hpart, List.length_cons, List.length_cons]
              congr 1
              omega
            cases tail with
            | nil =>
              rw [skip_comment hpart hline hfirst, skip_end htail] at h
              cases h
              refine .inl ⟨rfl, ?_⟩
              rw [List.append_nil]
              exact .comment .nil hline
            | cons c tail =>
              obtain rfl : c = 0x0a := hfirst c rfl
              rw [skip_comment hpart hline hfirst, skip_space htail (by decide)] at h
              obtain ⟨_, hrest', hlt'⟩ := drop_eq_cons htail
              rcases ih _ (by omega) h rfl with
                ⟨hfound, hending⟩ | ⟨hfound, gap, b', hgap, hdrop, hb'⟩
              · rw [hrest'] at hending
                exact .inl ⟨hfound, ending_line hline hending⟩
              · rw [hrest'] at hdrop
                refine .inr ⟨hfound, _, b', .comment hline hgap, ?_, hb'⟩
                rw [hdrop]
                simp
          · rw [skip_slash hbytes hcomment] at h
            cases h
        · rw [skip_token hbytes (by simpa using hspace) hslash] at h
          cases h
          exact .inr ⟨rfl, [], b, .nil, hbytes.symm, hbyte⟩

end Skip

/-! ## Strings -/

theorem toNat_ofNat_toNat {b : UInt8} (h : b < 128) : (Char.ofNat b.toNat).toNat = b.toNat := by
  have hlt : b.toNat < 128 := UInt8.lt_iff_toNat_lt.mp h
  have hvalid : b.toNat.isValidChar := .inl (by omega)
  unfold Char.ofNat
  rw [dif_pos hvalid]
  rfl

/-- A byte of a string is the character that it is read as. -/
theorem escape_of_byte {b : UInt8} (hquote : b ≠ 0x22) (hslash : b ≠ 0x5c) (hascii : b < 128) :
    escape (Char.ofNat b.toNat) = [b] := by
  have hchar := toNat_ofNat_toNat hascii
  have hback : UInt8.ofNat (Char.ofNat b.toNat).toNat = b := by
    rw [hchar, UInt8.ofNat_toNat]
  have hne : ∀ c : Char, b ≠ UInt8.ofNat c.toNat → Char.ofNat b.toNat ≠ c := by
    intro c hc heq
    exact hc (by rw [← heq, hback])
  rw [escape, if_neg (hne '"' hquote), if_neg (hne '\\' hslash), hback]

theorem isPlain_of_byte {b : UInt8} (hnul : b ≠ 0) (hascii : b < 128) :
    IsPlain (Char.ofNat b.toNat) := by
  have hlt : b.toNat < 128 := UInt8.lt_iff_toNat_lt.mp hascii
  have hne : b.toNat ≠ 0 := fun h => hnul (UInt8.toNat_inj.mp h)
  rw [IsPlain, toNat_ofNat_toNat hascii]
  omega

theorem toNat_ofNat_char {c : Char} (h : IsPlain c) : (UInt8.ofNat c.toNat).toNat = c.toNat :=
  UInt8.toNat_ofNat_of_lt' (Nat.lt_trans h.2 (by decide))

section Quoted

variable {source : List UInt8} {offset : Nat}

theorem quoted_close {result : List Char} {rest : List UInt8}
    (h : source.drop offset = 0x22 :: rest) :
    quotedFrom source result offset = (.ok (String.ofList result), offset + 1) := by
  obtain ⟨hbyte, _, hlt⟩ := drop_eq_cons h
  have hread : source[offset] = 0x22 := Option.some.inj
    ((List.getElem?_eq_getElem hlt).symm.trans hbyte)
  rw [quotedFrom, dif_pos hlt]
  simp only [hread, if_true]

/-- One character is read. -/
theorem quoted_step {result : List Char} {c : Char} {rest : List UInt8} (hplain : IsPlain c)
    (h : source.drop offset = escape c ++ rest) :
    quotedFrom source result offset =
      quotedFrom source (result ++ [c]) (offset + (escape c).length) := by
  by_cases hquote : c = '"'
  · subst hquote
    obtain ⟨hbyte, hnext, hlt⟩ := drop_eq_cons h
    have hread : source[offset] = 0x5c := Option.some.inj
      ((List.getElem?_eq_getElem hlt).symm.trans hbyte)
    have hescaped := (drop_eq_cons hnext).1
    conv_lhs => rw [quotedFrom, dif_pos hlt]
    simp only [hread, hescaped]
    rfl
  · by_cases hslash : c = '\\'
    · subst hslash
      obtain ⟨hbyte, hnext, hlt⟩ := drop_eq_cons h
      have hread : source[offset] = 0x5c := Option.some.inj
        ((List.getElem?_eq_getElem hlt).symm.trans hbyte)
      have hescaped := (drop_eq_cons hnext).1
      conv_lhs => rw [quotedFrom, dif_pos hlt]
      simp only [hread, hescaped]
      rfl
    · rw [escape, if_neg hquote, if_neg hslash] at h ⊢
      obtain ⟨hbyte, _, hlt⟩ := drop_eq_cons h
      have hread : source[offset] = UInt8.ofNat c.toNat := Option.some.inj
        ((List.getElem?_eq_getElem hlt).symm.trans hbyte)
      have hvalue := toNat_ofNat_char hplain
      have hother : ∀ d : Char, d.toNat < 256 → c ≠ d → UInt8.ofNat c.toNat ≠
          UInt8.ofNat d.toNat := by
        intro d hd hne heq
        have hnat := congrArg UInt8.toNat heq
        rw [hvalue, UInt8.toNat_ofNat_of_lt' hd] at hnat
        exact hne (Char.toNat_inj.mp hnat)
      have hnotQuote : UInt8.ofNat c.toNat ≠ 0x22 := hother '"' (by decide) hquote
      have hnotSlash : UInt8.ofNat c.toNat ≠ 0x5c := hother '\\' (by decide) hslash
      have hnul : UInt8.ofNat c.toNat ≠ 0 := by
        intro heq
        have hnat := congrArg UInt8.toNat heq
        rw [hvalue] at hnat
        exact absurd hnat (Nat.pos_iff_ne_zero.mp hplain.1)
      have hascii : UInt8.ofNat c.toNat < 128 := by
        rw [UInt8.lt_iff_toNat_lt, hvalue]
        exact hplain.2
      conv_lhs => rw [quotedFrom, dif_pos hlt]
      simp only [hread]
      rw [if_neg hnotQuote, if_neg hnotSlash, if_neg hnul, if_pos hascii, hvalue,
        Char.ofNat_toNat]
      rfl

/-- **A string is read** up to its closing quote. -/
theorem quotedFrom_escaped {value result : List Char} {rest : List UInt8}
    (hplain : ∀ c ∈ value, IsPlain c) (h : source.drop offset = escaped value ++ rest) :
    quotedFrom source result offset =
      (.ok (String.ofList (result ++ value)), offset + (escaped value).length) := by
  induction value generalizing result offset with
  | nil => rw [quoted_close h, List.append_nil]; rfl
  | cons c value ih =>
    have hstep : source.drop offset = escape c ++ (escaped value ++ rest) := by
      rw [h]
      simp [escaped]
    have hlength : (escaped (c :: value)).length =
        (escape c).length + (escaped value).length := by
      simp [escaped]
    rw [quoted_step (hplain c (by simp)) hstep,
      ih (fun d hd => hplain d (by simp [hd])) (drop_append_eq hstep), hlength,
      List.append_assoc, List.singleton_append, Nat.add_assoc]

/-- **What was read as a string** is written there, with its closing quote. -/
theorem quotedFrom_sound {result : List Char} {value : String} {next : Nat}
    (h : quotedFrom source result offset = (.ok value, next)) :
    ∃ chars, value = String.ofList (result ++ chars) ∧ (∀ c ∈ chars, IsPlain c) ∧
      source.drop offset = escaped chars ++ source.drop next := by
  fun_induction quotedFrom source result offset with
  | case1 result offset hlt byte hquote =>
    cases h
    refine ⟨[], by rw [List.append_nil], by simp, ?_⟩
    rw [List.drop_eq_getElem_cons hlt]
    exact congrArg (· :: source.drop (offset + 1)) hquote
  | case2 => cases h
  | case3 result offset hlt byte hquote hescape hnext ih =>
    obtain ⟨chars, hvalue, hplain, hdrop⟩ := ih h
    refine ⟨'"' :: chars, by simp [hvalue], ?_, ?_⟩
    · simpa [IsPlain] using hplain
    · rw [List.drop_eq_getElem_cons hlt, drop_of_getElem? hnext, hdrop]
      exact congrArg (· :: 0x22 :: (escaped chars ++ source.drop next)) hescape
  | case4 result offset hlt byte hquote hescape hnext hother ih =>
    obtain ⟨chars, hvalue, hplain, hdrop⟩ := ih h
    refine ⟨'\\' :: chars, by simp [hvalue], ?_, ?_⟩
    · simpa [IsPlain] using hplain
    · rw [List.drop_eq_getElem_cons hlt, drop_of_getElem? hnext, hdrop]
      exact congrArg (· :: 0x5c :: (escaped chars ++ source.drop next)) hescape
  | case5 => cases h
  | case6 => cases h
  | case7 result offset hlt byte hquote hescape hnul hascii ih =>
    obtain ⟨chars, hvalue, hplain, hdrop⟩ := ih h
    refine ⟨Char.ofNat byte.toNat :: chars, by simp [hvalue], ?_, ?_⟩
    · intro c hc
      rcases List.mem_cons.mp hc with rfl | hc
      · exact isPlain_of_byte hnul hascii
      · exact hplain c hc
    · have hchar : escaped (Char.ofNat byte.toNat :: chars) = byte :: escaped chars := by
        rw [escaped, List.flatMap_cons, escape_of_byte hquote hescape hascii]
        rfl
      rw [List.drop_eq_getElem_cons hlt, hdrop, hchar]
      rfl
  | case8 => cases h
  | case9 => cases h

end Quoted

/-! ## A whole text -/

section Tokens

variable {source : List UInt8} {offset : Nat}

/-- **A token is read** where it is written. -/
theorem nextToken_spelling {gap rest : List UInt8} {token : VdfToken} (hgap : Gap gap)
    (hplain : PlainToken token) (h : source.drop offset = gap ++ (spelling token ++ rest)) :
    nextToken source offset =
      (.ok (some token), offset + gap.length + (spelling token).length) := by
  have hskip := skip_gap hgap h
  have htoken := drop_append_eq h
  cases token with
  | text value =>
    have hquote : source.drop (offset + gap.length) = 0x22 :: (escaped value.toList ++ rest) :=
      htoken
    obtain ⟨hbyte, hrest, _⟩ := drop_eq_cons hquote
    have hstring : quotedFrom source [] (offset + gap.length + 1) = _ :=
      quotedFrom_escaped hplain hrest
    rw [skip_token hquote (by decide) (by decide)] at hskip
    rw [List.nil_append, String.ofList_toList] at hstring
    unfold nextToken
    simp only [hskip, hbyte, hstring]
    simp [spelling, Nat.add_assoc, Nat.add_comm 1]
  | openBrace =>
    obtain ⟨hbyte, _⟩ := drop_eq_cons htoken
    rw [skip_token htoken (by decide) (by decide)] at hskip
    unfold nextToken
    simp only [hskip, hbyte]
    rfl
  | closeBrace =>
    obtain ⟨hbyte, _⟩ := drop_eq_cons htoken
    rw [skip_token htoken (by decide) (by decide)] at hskip
    unfold nextToken
    simp only [hskip, hbyte]
    rfl

theorem nextToken_ending (h : Ending (source.drop offset)) :
    ∃ next, nextToken source offset = (.ok none, next) := by
  obtain ⟨next, hskip⟩ := skip_ending h
  refine ⟨next, ?_⟩
  unfold nextToken
  rw [hskip]

/-- **What was read as a token** is written there. -/
theorem nextToken_sound {found : Option VdfToken} {next : Nat}
    (h : nextToken source offset = (.ok found, next)) :
    found = none ∧ Ending (source.drop offset) ∨
      ∃ token gap, found = some token ∧ PlainToken token ∧ Gap gap ∧
        source.drop offset = gap ++ (spelling token ++ source.drop next) := by
  unfold nextToken at h
  split at h
  · cases h
  · rename_i start hskip
    cases h
    rcases skip_sound hskip with ⟨_, hending⟩ | ⟨hfound, _⟩
    · exact .inl ⟨rfl, hending⟩
    · cases hfound
  · rename_i start hskip
    rcases skip_sound hskip with ⟨hfound, _⟩ | ⟨_, gap, byte, hgap, hdrop, hbyte⟩
    · cases hfound
    · have hstart := drop_of_getElem? hbyte
      rw [hbyte] at h
      dsimp only at h
      right
      split_ifs at h with hopen hclose hquote
      · cases h
        exact ⟨.openBrace, gap, rfl, trivial, hgap, by rw [hdrop, hstart, hopen]; rfl⟩
      · cases h
        exact ⟨.closeBrace, gap, rfl, trivial, hgap, by rw [hdrop, hstart, hclose]; rfl⟩
      · split at h
        · cases h
        · rename_i value after hquoted
          cases h
          obtain ⟨chars, hvalue, hplain, hstring⟩ := quotedFrom_sound hquoted
          rw [List.nil_append] at hvalue
          subst hvalue
          refine ⟨.text (String.ofList chars), gap, rfl, ?_, hgap, ?_⟩
          · intro c hc
            exact hplain c (by simpa using hc)
          · rw [hdrop, hstart, hquote, hstring, spelling, String.toList_ofList]
            rfl
      · cases h

theorem skip_contained : Contained (skipSpaceAndComments source offset).1 := by
  fun_induction skipSpaceAndComments source offset with
  | case1 => exact .ok false
  | case2 _ _ _ _ ih => exact ih
  | case3 => exact .error _
  | case4 => exact .ok true

theorem quotedFrom_contained (result : List Char) :
    Contained (quotedFrom source result offset).1 := by
  fun_induction quotedFrom source result offset with
  | case1 => exact .ok _
  | case2 => exact .error _
  | case3 _ _ _ _ _ _ _ ih => exact ih
  | case4 _ _ _ _ _ _ _ _ ih => exact ih
  | case5 => exact .error _
  | case6 => exact .error _
  | case7 _ _ _ _ _ _ _ _ ih => exact ih
  | case8 => exact .error _
  | case9 => exact .error _

/-- The lexer never takes a byte that is not there. -/
theorem nextToken_contained : Contained (nextToken source offset).1 := by
  have hspace : Contained (skipSpaceAndComments source offset).1 := skip_contained
  unfold nextToken
  split
  · rename_i e next hskip
    rw [hskip] at hspace
    intro h
    exact hspace (congrArg (Except.map fun _ => false) h)
  · exact .ok none
  · rename_i next hskip
    rcases skip_sound hskip with ⟨hfound, _⟩ | ⟨_, _, byte, _, _, hbyte⟩
    · cases hfound
    · have hstring : Contained (quotedFrom source [] (next + 1)).1 := quotedFrom_contained []
      rw [hbyte]
      dsimp only
      split_ifs
      · exact .ok _
      · exact .ok _
      · split
        · rename_i e after hquoted
          rw [hquoted] at hstring
          intro h
          exact hstring (congrArg (Except.map fun _ => "") h)
        · exact .ok _
      · exact .error _

/-- The next token of a spelling, or its end. -/
theorem nextToken_spelled {read : List VdfToken} (h : Spelled read (source.drop offset)) :
    read = [] ∧ (∃ next, nextToken source offset = (.ok none, next)) ∨
      ∃ token rest next, read = token :: rest ∧
        nextToken source offset = (.ok (some token), next) ∧ Spelled rest (source.drop next) := by
  generalize hbytes : source.drop offset = bytes at h
  cases h with
  | nil hending => exact .inl ⟨rfl, nextToken_ending (hbytes ▸ hending)⟩
  | @cons gap token tokens rest hgap hplain hrest =>
    refine .inr ⟨token, tokens, _, rfl, nextToken_spelling hgap hplain hbytes, ?_⟩
    rw [drop_append_eq (drop_append_eq hbytes)]
    exact hrest

/-- **The tokens of a text** are those that it spells. -/
theorem tokensFrom_iff {tokens found : List VdfToken} :
    (tokensFrom source tokens offset).1 = .ok found ↔
      ∃ read, found = tokens ++ read ∧ Spelled read (source.drop offset) := by
  fun_induction tokensFrom source tokens offset with
  | case1 tokens offset e next h =>
    constructor
    · intro herror
      cases herror
    · intro ⟨read, _, hspelled⟩
      rcases nextToken_spelled hspelled with ⟨_, _, hend⟩ | ⟨_, _, _, _, htoken, _⟩
      · rw [hend] at h
        cases h
      · rw [htoken] at h
        cases h
  | case2 tokens offset next h =>
    constructor
    · intro hfound
      cases hfound
      rcases nextToken_sound h with ⟨_, hending⟩ | ⟨_, _, hsome, _⟩
      · exact ⟨[], (List.append_nil _).symm, .nil hending⟩
      · cases hsome
    · intro ⟨read, hfound, hspelled⟩
      rcases nextToken_spelled hspelled with ⟨hnil, _⟩ | ⟨_, _, _, _, htoken, _⟩
      · rw [hfound, hnil, List.append_nil]
      · rw [htoken] at h
        cases h
  | case3 tokens offset token next h ih =>
    rw [ih]
    constructor
    · intro ⟨read, hfound, hspelled⟩
      rcases nextToken_sound h with ⟨hnone, _⟩ | ⟨token', gap, hsome, hplain, hgap, hdrop⟩
      · cases hnone
      · cases hsome
        refine ⟨token :: read, by rw [hfound, List.append_assoc]; rfl, ?_⟩
        rw [hdrop]
        exact .cons hgap hplain hspelled
    · intro ⟨read, hfound, hspelled⟩
      rcases nextToken_spelled hspelled with ⟨_, _, hend⟩ | ⟨_, rest, _, hread, htoken, hrest⟩
      · rw [hend] at h
        cases h
      · rw [htoken] at h
        cases h
        exact ⟨rest, by rw [hfound, hread, List.append_assoc]; rfl, hrest⟩

theorem tokensFrom_contained (tokens : List VdfToken) :
    Contained (tokensFrom source tokens offset).1 := by
  fun_induction tokensFrom source tokens offset with
  | case1 tokens offset e next h =>
    have hinside : Contained (nextToken source offset).1 := nextToken_contained
    rw [h] at hinside
    intro herror
    exact hinside (congrArg (Except.map fun _ => none) herror)
  | case2 tokens offset next h => exact .ok _
  | case3 tokens offset token next h ih => exact ih

/-- The offset of the lexer stays inside. -/
theorem tokensFrom_onward (tokens : List VdfToken) :
    Onward source.length offset (tokensFrom source tokens offset).2 := by
  fun_induction tokensFrom source tokens offset with
  | case1 tokens offset e next h => exact (nextToken_onward h).1
  | case2 tokens offset next h => exact (nextToken_onward h).1
  | case3 tokens offset token next h ih => exact (nextToken_onward h).1.trans ih

end Tokens

end FrametimeCfg.Verified.VdfLexer
