import FrametimeCfg.Windows.PackageContract
import Mathlib.Data.Bool.AllAny

/-!
# The scan for repeated keys

The scanner and `serde_json` read the same texts.  Of a text that `serde_json` accepts the
scanner finds every token where it is, and what it reports is exactly whether an object
repeats a key.

* `scanString_literal`, `scanValue_scalar` — tokens.
* `scanned` — values, items and entries, by their derivation.
* `rejectDuplicateKeys_document` — a whole text.
-/

namespace FrametimeCfg.Verified.ManifestScan

open FrametimeCfg.Domain
open FrametimeCfg.Domain.SerdeJson
open FrametimeCfg.Lib.OrderedSet
open FrametimeCfg.Lib.Scan
open FrametimeCfg.Lib.Text (utf8)
open FrametimeCfg.Windows.PackageContract

/-! ## Unfolding the scanner -/

/-- Where a scan stopped. -/
def reached {offset : Nat} (r : Except String (From offset)) : Except String Nat :=
  r.map Subtype.val

@[simp]
theorem reached_ok {offset : Nat} (read : From offset) :
    reached (.ok read) = .ok read.val := rfl

@[simp]
theorem reached_error {offset : Nat} (e : String) :
    reached (.error e : Except String (From offset)) = .error e := rfl

section Unfold

variable {serde : SerdeJson} {bytes : List UInt8} {offset : Nat}

theorem scanValue_eq :
    reached (scanValue serde bytes offset) =
      match bytes[gap bytes offset]? with
      | none => .error "missing JSON value"
      | some byte =>
          if byte = 0x7b then reached (scanObject serde bytes ∅ (gap bytes offset + 1))
          else if byte = 0x5b then reached (scanArray serde bytes (gap bytes offset + 1))
          else if byte = 0x22 then
            (scanString serde bytes (gap bytes offset)).map fun read => read.2.val
          else
            let stop := skipWhile (fun b => !isScalarEnd b) bytes (gap bytes offset)
            match serde.value ((bytes.drop (gap bytes offset)).take
              (stop - gap bytes offset)) with
            | .error _ => .error "invalid JSON scalar"
            | .ok _ => .ok stop := by
  rw [scanValue]
  split
  · rename_i hbyte
    simp only [hbyte]
    rfl
  · rename_i byte hbyte
    simp only [hbyte]
    split_ifs
    · cases scanObject serde bytes ∅ (gap bytes offset + 1) <;> rfl
    · cases scanArray serde bytes (gap bytes offset + 1) <;> rfl
    · cases scanString serde bytes (gap bytes offset) <;> rfl
    · generalize serde.value ((bytes.drop (gap bytes offset)).take
        (skipWhile (fun b => !isScalarEnd b) bytes (gap bytes offset) - gap bytes offset)) = read
      cases read <;> rfl

theorem scanObject_eq {keys : BTreeSet} :
    reached (scanObject serde bytes keys offset) =
      if bytes[gap bytes offset]? = some 0x7d then .ok (gap bytes offset + 1)
      else
        match (scanString serde bytes (gap bytes offset)).map
            fun read => (read.1, read.2.val) with
        | .error e => .error e
        | .ok (key, name) =>
            if keys.contains key then .error "package manifest has duplicate JSON field"
            else if bytes[gap bytes name]? ≠ some 0x3a then .error "invalid JSON object"
            else
              match reached (scanValue serde bytes (gap bytes name + 1)) with
              | .error e => .error e
              | .ok next =>
                  match bytes[gap bytes next]? with
                  | some 0x2c =>
                      reached (scanObject serde bytes (keys.insert key) (gap bytes next + 1))
                  | some 0x7d => .ok (gap bytes next + 1)
                  | _ => .error "invalid JSON object" := by
  rw [scanObject]
  split_ifs
  · rfl
  · cases hname : scanString serde bytes (gap bytes offset) with
    | error e => simp only [Except.map]; rfl
    | ok read =>
      obtain ⟨key, name, hmoved⟩ := read
      simp only [Except.map]
      split_ifs
      · rfl
      · rfl
      · cases scanValue serde bytes (gap bytes name + 1) with
        | error e => rfl
        | ok read =>
          obtain ⟨next, hnext⟩ := read
          dsimp only [reached_ok]
          split
          · rename_i hbyte
            simp only [hbyte]
            cases scanObject serde bytes (keys.insert key) (gap bytes next + 1) <;> rfl
          · rename_i hbyte
            simp only [hbyte, reached_ok]
          · rename_i hcomma hbracket
            simp only [reached_error]

theorem scanArray_eq :
    reached (scanArray serde bytes offset) =
      if bytes[gap bytes offset]? = some 0x5d then .ok (gap bytes offset + 1)
      else
        match reached (scanValue serde bytes (gap bytes offset)) with
        | .error e => .error e
        | .ok next =>
            match bytes[gap bytes next]? with
            | some 0x2c => reached (scanArray serde bytes (gap bytes next + 1))
            | some 0x5d => .ok (gap bytes next + 1)
            | _ => .error "invalid JSON array" := by
  rw [scanArray]
  split_ifs
  · rfl
  · cases scanValue serde bytes (gap bytes offset) with
    | error e => rfl
    | ok read =>
      obtain ⟨next, hnext⟩ := read
      dsimp only [reached_ok]
      split
      · rename_i hbyte
        simp only [hbyte]
        cases scanArray serde bytes (gap bytes next + 1) <;> rfl
      · rename_i hbyte
        simp only [hbyte, reached_ok]
      · rename_i hcomma hbracket
        simp only [reached_error]

end Unfold

/-! ## Tokens -/

section Tokens

variable {serde : SerdeJson} {bytes rest : List UInt8} {offset : Nat}

/-- White space ends at a byte of another kind, or with the bytes. -/
theorem gap_white {white : List UInt8} (hwhite : White white)
    (hdrop : bytes.drop offset = white ++ rest)
    (hrest : ∀ b, rest.head? = some b → isAsciiWhitespace b = false) :
    gap bytes offset = offset + white.length :=
  skipWhile_append hdrop (fun b hb => by
    rcases hwhite b hb with rfl | rfl | rfl | rfl <;> rfl) hrest

/-- White space before a byte of another kind: the gap ends at that byte. -/
theorem gap_cons {white : List UInt8} {b : UInt8} (hwhite : White white)
    (hdrop : bytes.drop offset = white ++ b :: rest) (hb : isAsciiWhitespace b = false) :
    gap bytes offset = offset + white.length ∧
      bytes.drop (offset + white.length) = b :: rest ∧
        bytes[offset + white.length]? = some b := by
  have hrest := drop_append_eq hdrop
  refine ⟨gap_white hwhite hdrop fun c hc => ?_, hrest, (drop_eq_cons hrest).1⟩
  cases hc
  exact hb

theorem literalEnd_inside {inside : List UInt8} (hinside : Inside inside)
    (hdrop : bytes.drop offset = inside ++ 0x22 :: rest) :
    literalEnd bytes false offset = some (offset + inside.length + 1) := by
  induction hinside generalizing offset with
  | nil =>
    obtain ⟨hbyte, -, hlt⟩ := drop_eq_cons hdrop
    rw [List.getElem?_eq_getElem hlt, Option.some.injEq] at hbyte
    rw [literalEnd, dif_pos hlt]
    simp [hbyte]
  | @plain b inside hquote hslash _ ih =>
    obtain ⟨hbyte, hrest, hlt⟩ := drop_eq_cons hdrop
    rw [List.getElem?_eq_getElem hlt, Option.some.injEq] at hbyte
    rw [literalEnd, dif_pos hlt, hbyte]
    rw [if_neg Bool.false_ne_true, if_neg hslash, if_neg hquote, ih hrest, List.length_cons]
    congr 1
    omega
  | @escaped b inside _ ih =>
    obtain ⟨hbyte, hrest, hlt⟩ := drop_eq_cons hdrop
    obtain ⟨-, hrest, hlt'⟩ := drop_eq_cons hrest
    rw [List.getElem?_eq_getElem hlt, Option.some.injEq] at hbyte
    rw [literalEnd, dif_pos hlt, hbyte, if_neg Bool.false_ne_true, if_pos rfl]
    rw [literalEnd, dif_pos hlt', if_pos rfl, ih hrest]
    simp only [List.length_cons]
    congr 1
    omega

/-- **A string literal** is read to its closing quote. -/
theorem scanString_literal {name : List UInt8} {text : String}
    (hname : serde.Literal text name) (hdrop : bytes.drop offset = name ++ rest) :
    (scanString serde bytes offset).map (fun read => (read.1, read.2.val)) =
      .ok (text, offset + name.length) := by
  obtain @⟨inside, _, hinside, hread⟩ := hname
  have hquote : bytes[offset]? = some 0x22 := (drop_eq_cons hdrop).1
  have hinner : bytes.drop (offset + 1) = inside ++ 0x22 :: rest := by
    rw [(drop_eq_cons hdrop).2.1]
    exact List.append_assoc inside [0x22] rest
  have hstop := literalEnd_inside hinside hinner
  have hslice : (bytes.drop offset).take (offset + 1 + inside.length + 1 - offset) =
      0x22 :: inside ++ [0x22] := by
    rw [hdrop]
    refine List.take_left' ?_
    simp only [List.length_append, List.length_cons, List.length_nil]
    omega
  rw [scanString, if_neg (by simp [hquote])]
  split
  · rename_i hnone
    rw [hstop] at hnone
    cases hnone
  · rename_i stop hsome
    obtain rfl := Option.some.inj (hstop.symm.trans hsome)
    simp only [hslice, hread, Except.map, List.length_append, List.length_cons, List.length_nil]
    congr 2
    omega

/-- A byte of a name or a number. -/
def isScalarByte (b : UInt8) : Bool :=
  !isScalarEnd b && !isAsciiWhitespace b && b ≠ 0x7b && b ≠ 0x5b && b ≠ 0x22

/-- A byte that ends a scalar follows, or nothing. -/
def Ends (rest : List UInt8) : Prop := ∀ b, rest.head? = some b → isScalarEnd b = true

/-- **A name or a number** is read to the byte that ends it. -/
theorem scanValue_scalar {white text : List UInt8} {value : Value} (hne : text ≠ [])
    (hbytes : ∀ b ∈ text, isScalarByte b = true) (hread : serde.value text = .ok value)
    (hwhite : White white) (hdrop : bytes.drop offset = white ++ (text ++ rest))
    (hrest : Ends rest) :
    reached (scanValue serde bytes offset) = .ok (offset + white.length + text.length) := by
  obtain ⟨b, more, rfl⟩ := List.exists_cons_of_ne_nil hne
  have hb := hbytes b (by simp)
  simp only [isScalarByte, Bool.and_eq_true, Bool.not_eq_true', decide_eq_true_eq] at hb
  obtain ⟨⟨⟨⟨-, hsolid⟩, hbrace⟩, hbracket⟩, hquote⟩ := hb
  obtain ⟨hgap, htext, hbyte⟩ := gap_cons hwhite hdrop hsolid
  have hstop : skipWhile (fun b => !isScalarEnd b) bytes (offset + white.length) =
      offset + white.length + (b :: more).length := by
    refine skipWhile_append htext (fun c hc => ?_) fun c hc => by simp [hrest c hc]
    have hscalar := hbytes c hc
    simp only [isScalarByte, Bool.and_eq_true] at hscalar
    exact hscalar.1.1.1.1
  have hslice : (bytes.drop (offset + white.length)).take (b :: more).length = b :: more := by
    rw [htext]
    exact List.take_left' rfl
  rw [scanValue_eq, hgap, hbyte]
  simp only [hbrace, hbracket, hquote, if_false, hstop, Nat.add_sub_cancel_left, hslice, hread]

end Tokens

/-! ## Repeated keys -/

open Classical in
/-- What the scan of a text goes on with, unless an object of it repeats a key. -/
noncomputable def provided (distinct : Prop) (next : Except String Nat) : Except String Nat :=
  if distinct then next else .error "package manifest has duplicate JSON field"

theorem provided_of {distinct : Prop} (h : distinct) (next : Except String Nat) :
    provided distinct next = next := if_pos h

theorem provided_not {distinct : Prop} (h : ¬distinct) (next : Except String Nat) :
    provided distinct next = .error "package manifest has duplicate JSON field" := if_neg h

theorem provided_provided (p q : Prop) (next : Except String Nat) :
    provided p (provided q next) = provided (p ∧ q) next := by
  by_cases hp : p
  · rw [provided_of hp]
    simp only [hp, true_and]
  · rw [provided_not hp, provided_not (fun h => hp h.1)]

section Scanned

variable (serde : SerdeJson)

/-- The scanner finds the end of a value. -/
def ValueScanned (value : Value) (text : List UInt8) : Prop :=
  ∀ bytes offset white rest, White white → bytes.drop offset = white ++ (text ++ rest) →
    Ends rest → reached (scanValue serde bytes offset) =
      provided value.KeysDistinct (.ok (offset + white.length + text.length))

/-- The scanner finds the end of an array. -/
def ItemsScanned (items : List Value) (text : List UInt8) : Prop :=
  ∀ bytes offset rest, bytes.drop offset = text ++ 0x5d :: rest →
    reached (scanArray serde bytes offset) =
      provided (∀ item ∈ items, item.KeysDistinct) (.ok (offset + text.length + 1))

/-- The scanner finds the end of an object, some keys of which it has seen. -/
def MembersScanned (fields : List (String × Value)) (text : List UInt8) : Prop :=
  ∀ bytes offset rest keys, bytes.drop offset = text ++ 0x7d :: rest →
    reached (scanObject serde bytes keys offset) =
      provided ((∀ field ∈ fields, field.1 ∉ keys) ∧
        (fields.map Prod.fst).Nodup ∧ ∀ field ∈ fields, field.2.KeysDistinct)
        (.ok (offset + text.length + 1))

end Scanned

section Constructors

variable {serde : SerdeJson}

theorem isScalarByte_of_number {b : UInt8} (h : isNumberByte b = true) :
    isScalarByte b = true := by
  simp only [isNumberByte, Bool.or_eq_true, Bool.and_eq_true, decide_eq_true_eq, or_assoc] at h
  rcases h with ⟨hlow, hhigh⟩ | rfl | rfl | rfl | rfl | rfl
  · have hne : ∀ c : UInt8, c < 0x30 ∨ 0x39 < c → b ≠ c := by
      rintro c hc rfl
      simp only [UInt8.lt_iff_toNat_lt, UInt8.le_iff_toNat_le] at hlow hhigh hc
      omega
    simp [isScalarByte, isScalarEnd, isAsciiWhitespace, hne]
  all_goals rfl

/-- A value begins with a byte that is neither white space nor a closing bracket. -/
theorem exists_head {value : Value} {text : List UInt8} (h : serde.Text value text) :
    ∃ b more, text = b :: more ∧ isAsciiWhitespace b = false ∧ b ≠ 0x5d := by
  cases h with
  | nullName => exact ⟨_, _, rfl, rfl, by decide⟩
  | falseName => exact ⟨_, _, rfl, rfl, by decide⟩
  | trueName => exact ⟨_, _, rfl, rfl, by decide⟩
  | number hne hbytes hread =>
    obtain ⟨b, more, rfl⟩ := List.exists_cons_of_ne_nil hne
    have hb := isScalarByte_of_number (hbytes b (by simp))
    refine ⟨b, more, rfl, ?_, ?_⟩
    · simp only [isScalarByte, Bool.and_eq_true, Bool.not_eq_true'] at hb
      exact hb.1.1.1.2
    · rintro rfl
      cases hb
  | string hliteral =>
    cases hliteral
    exact ⟨_, _, rfl, rfl, by decide⟩
  | emptyArray hwhite => exact ⟨_, _, rfl, rfl, by decide⟩
  | array hitems => exact ⟨_, _, rfl, rfl, by decide⟩
  | emptyObject hwhite => exact ⟨_, _, rfl, rfl, by decide⟩
  | object hmembers => exact ⟨_, _, rfl, rfl, by decide⟩

theorem White.nil : White [] := by
  intro b hb
  cases hb

/-- White space, then a byte that ends a scalar. -/
theorem ends_white {white rest : List UInt8} {b : UInt8} (hwhite : White white)
    (hb : isScalarEnd b = true) : Ends (white ++ b :: rest) := by
  intro c hc
  cases white with
  | nil =>
    cases hc
    exact hb
  | cons d white =>
    cases hc
    rcases hwhite c (by simp) with rfl | rfl | rfl | rfl <;> rfl

/-! ### Values -/

theorem valueScanned_scalar {text : List UInt8} {value : Value} (hne : text ≠ [])
    (hbytes : ∀ b ∈ text, isScalarByte b = true) (hread : serde.value text = .ok value)
    (hdistinct : value.KeysDistinct) : ValueScanned serde value text := by
  intro bytes offset white rest hwhite hdrop hends
  rw [provided_of hdistinct]
  exact scanValue_scalar hne hbytes hread hwhite hdrop hends

theorem valueScanned_string {text : String} {name : List UInt8}
    (hname : serde.Literal text name) : ValueScanned serde (.string text) name := by
  intro bytes offset white rest hwhite hdrop hends
  rw [provided_of (.string text)]
  obtain ⟨inside, rfl⟩ : ∃ inside, name = 0x22 :: inside := by
    cases hname
    exact ⟨_, rfl⟩
  obtain ⟨hgap, hrest, hbyte⟩ := gap_cons hwhite hdrop rfl
  have hread := scanString_literal hname hrest
  rw [scanValue_eq, hgap, hbyte]
  cases hscan : scanString serde bytes (offset + white.length) with
  | error e =>
    rw [hscan] at hread
    cases hread
  | ok read =>
    rw [hscan] at hread
    exact congrArg (Except.map Prod.snd) hread

theorem distinct_array {items : List Value} :
    (Value.array items).KeysDistinct ↔ ∀ item ∈ items, item.KeysDistinct :=
  ⟨fun h => by cases h; assumption, .array⟩

theorem distinct_object {fields : List (String × Value)} :
    (Value.object fields).KeysDistinct ↔
      (fields.map Prod.fst).Nodup ∧ ∀ field ∈ fields, field.2.KeysDistinct :=
  ⟨fun h => by cases h; exact ⟨‹_›, ‹_›⟩, fun h => .object h.1 h.2⟩

theorem valueScanned_array {items : List Value} {text : List UInt8}
    (hitems : ItemsScanned serde items text) :
    ValueScanned serde (.array items) (0x5b :: (text ++ [0x5d])) := by
  intro bytes offset white rest hwhite hdrop hends
  obtain ⟨hgap, hrest, hbyte⟩ := gap_cons hwhite hdrop rfl
  have hinner : bytes.drop (offset + white.length + 1) = text ++ 0x5d :: rest := by
    rw [(drop_eq_cons hrest).2.1]
    exact List.append_assoc text [0x5d] rest
  rw [scanValue_eq, hgap, hbyte]
  calc reached (scanArray serde bytes (offset + white.length + 1))
    _ = provided (∀ item ∈ items, item.KeysDistinct)
          (.ok (offset + white.length + 1 + text.length + 1)) := hitems bytes _ rest hinner
    _ = provided (Value.array items).KeysDistinct
          (.ok (offset + white.length + (0x5b :: (text ++ [0x5d])).length)) := by
      rw [distinct_array, List.length_cons, List.length_append, List.length_singleton]
      congr 2
      omega

theorem valueScanned_object {fields : List (String × Value)} {text : List UInt8}
    (hfields : MembersScanned serde fields text) :
    ValueScanned serde (.object fields) (0x7b :: (text ++ [0x7d])) := by
  intro bytes offset white rest hwhite hdrop hends
  obtain ⟨hgap, hrest, hbyte⟩ := gap_cons hwhite hdrop rfl
  have hinner : bytes.drop (offset + white.length + 1) = text ++ 0x7d :: rest := by
    rw [(drop_eq_cons hrest).2.1]
    exact List.append_assoc text [0x7d] rest
  have hscan := hfields bytes _ rest ∅ hinner
  rw [scanValue_eq, hgap, hbyte]
  calc reached (scanObject serde bytes ∅ (offset + white.length + 1))
    _ = provided ((∀ field ∈ fields, field.1 ∉ (∅ : BTreeSet)) ∧
          (fields.map Prod.fst).Nodup ∧ ∀ field ∈ fields, field.2.KeysDistinct)
          (.ok (offset + white.length + 1 + text.length + 1)) := hfields bytes _ rest ∅ hinner
    _ = provided (Value.object fields).KeysDistinct
          (.ok (offset + white.length + (0x7b :: (text ++ [0x7d])).length)) := by
      have hempty : ∀ field ∈ fields, field.1 ∉ (∅ : BTreeSet) :=
        fun _ _ => Std.ExtTreeSet.not_mem_empty
      rw [distinct_object, and_iff_right hempty, List.length_cons, List.length_append,
        List.length_singleton]
      congr 2
      omega

/-! ### Items and entries -/

/-- **One item of an array**, and what follows it. -/
theorem scanArray_item {item : Value} {before text after bytes rest : List UInt8} {b : UInt8}
    {offset : Nat} (hbefore : White before) (htext : serde.Text item text) (hafter : White after)
    (hscanned : ValueScanned serde item text) (hb : b = 0x2c ∨ b = 0x5d)
    (hdrop : bytes.drop offset = before ++ (text ++ (after ++ b :: rest))) :
    bytes.drop (offset + (before ++ (text ++ after)).length + 1) = rest ∧
      reached (scanArray serde bytes offset) =
        provided item.KeysDistinct
          (if b = 0x2c then
            reached (scanArray serde bytes (offset + (before ++ (text ++ after)).length + 1))
          else .ok (offset + (before ++ (text ++ after)).length + 1)) := by
  have hend : isScalarEnd b = true := by rcases hb with rfl | rfl <;> rfl
  have hsolid : isAsciiWhitespace b = false := by rcases hb with rfl | rfl <;> rfl
  obtain ⟨c, more, hcons, hc, hopen⟩ := exists_head htext
  have htail := drop_append_eq hdrop
  have hbyte : bytes[offset + before.length]? = some c := by
    rw [hcons] at htail
    exact (drop_eq_cons htail).1
  have hgap : gap bytes offset = offset + before.length := by
    refine gap_white hbefore hdrop fun d hd => ?_
    rw [hcons] at hd
    cases hd
    exact hc
  have hvalue := hscanned bytes (offset + before.length) [] _ White.nil htail
    (ends_white hafter hend)
  obtain ⟨hgap', hrest, hbyte'⟩ := gap_cons hafter (drop_append_eq htail) hsolid
  have hlength : offset + (before ++ (text ++ after)).length =
      offset + before.length + text.length + after.length := by
    simp only [List.length_append]
    omega
  rw [hlength]
  refine ⟨(drop_eq_cons hrest).2.1, ?_⟩
  rw [scanArray_eq, hgap, hbyte, if_neg (by simpa using hopen), hvalue, List.length_nil,
    Nat.add_zero]
  by_cases hdistinct : item.KeysDistinct
  · rw [provided_of hdistinct, provided_of hdistinct]
    dsimp only
    rw [hgap', hbyte']
    rcases hb with rfl | rfl <;> rfl
  · rw [provided_not hdistinct, provided_not hdistinct]

/-- **One entry of an object**, and what follows it. -/
theorem scanObject_member {key : String} {value : Value}
    {before name colon start text after bytes rest : List UInt8} {b : UInt8} {offset : Nat}
    (keys : BTreeSet) (hbefore : White before) (hname : serde.Literal key name)
    (hcolon : White colon) (hstart : White start) (hafter : White after)
    (hscanned : ValueScanned serde value text) (hb : b = 0x2c ∨ b = 0x7d)
    (hdrop : bytes.drop offset =
      before ++ (name ++ (colon ++ 0x3a :: (start ++ (text ++ (after ++ b :: rest)))))) :
    bytes.drop (offset +
        (before ++ (name ++ (colon ++ 0x3a :: (start ++ (text ++ after))))).length + 1) = rest ∧
      reached (scanObject serde bytes keys offset) =
        provided (key ∉ keys ∧ value.KeysDistinct)
          (if b = 0x2c then
            reached (scanObject serde bytes (keys.insert key) (offset +
              (before ++ (name ++ (colon ++ 0x3a :: (start ++ (text ++ after))))).length + 1))
          else .ok (offset +
            (before ++ (name ++ (colon ++ 0x3a :: (start ++ (text ++ after))))).length + 1)) := by
  have hend : isScalarEnd b = true := by rcases hb with rfl | rfl <;> rfl
  have hsolid : isAsciiWhitespace b = false := by rcases hb with rfl | rfl <;> rfl
  have htail := drop_append_eq hdrop
  obtain ⟨inside, hquote⟩ : ∃ inside, name = 0x22 :: inside := by
    cases hname
    exact ⟨_, rfl⟩
  have hbyte : bytes[offset + before.length]? = some 0x22 := by
    rw [hquote] at htail
    exact (drop_eq_cons htail).1
  have hgap : gap bytes offset = offset + before.length := by
    refine gap_white hbefore hdrop fun d hd => ?_
    rw [hquote] at hd
    cases hd
    rfl
  obtain ⟨hgapColon, hseparator, hbyteColon⟩ := gap_cons hcolon (drop_append_eq htail) rfl
  have hinner := (drop_eq_cons hseparator).2.1
  have hvalue := hscanned bytes _ start _ hstart hinner (ends_white hafter hend)
  obtain ⟨hgapNext, hrest, hbyteNext⟩ :=
    gap_cons hafter (drop_append_eq (drop_append_eq hinner)) hsolid
  have hlength :
      offset + (before ++ (name ++ (colon ++ 0x3a :: (start ++ (text ++ after))))).length =
        offset + before.length + name.length + colon.length + 1 + start.length + text.length +
          after.length := by
    simp only [List.length_append, List.length_cons]
    omega
  rw [hlength]
  refine ⟨(drop_eq_cons hrest).2.1, ?_⟩
  rw [scanObject_eq, hgap, hbyte, if_neg (by decide), scanString_literal hname htail]
  dsimp only
  by_cases hkey : key ∈ keys
  · rw [if_pos (by simpa using hkey), provided_not (fun h => h.1 hkey)]
  · rw [if_neg (by simpa using hkey), hgapColon, if_neg (by simp [hbyteColon]), hvalue]
    by_cases hdistinct : value.KeysDistinct
    · rw [provided_of hdistinct, provided_of ⟨hkey, hdistinct⟩]
      dsimp only
      rw [hgapNext, hbyteNext]
      rcases hb with rfl | rfl <;> rfl
    · rw [provided_not hdistinct, provided_not (fun h => hdistinct h.2)]

theorem itemsScanned_last {item : Value} {before text after : List UInt8}
    (hbefore : White before) (htext : serde.Text item text) (hafter : White after)
    (hscanned : ValueScanned serde item text) :
    ItemsScanned serde [item] (before ++ (text ++ after)) := by
  intro bytes offset rest hdrop
  simp only [List.append_assoc] at hdrop
  rw [(scanArray_item hbefore htext hafter hscanned (.inr rfl) hdrop).2,
    if_neg (by decide), List.forall_mem_singleton]

theorem itemsScanned_cons {item : Value} {items : List Value}
    {before text after more : List UInt8} (hbefore : White before)
    (htext : serde.Text item text) (hafter : White after)
    (hscanned : ValueScanned serde item text) (hmore : ItemsScanned serde items more) :
    ItemsScanned serde (item :: items) (before ++ (text ++ (after ++ 0x2c :: more))) := by
  intro bytes offset rest hdrop
  simp only [List.append_assoc, List.cons_append] at hdrop
  obtain ⟨hinner, hitem⟩ := scanArray_item hbefore htext hafter hscanned (.inl rfl) hdrop
  rw [hitem, if_pos rfl, hmore bytes _ rest hinner, provided_provided, List.forall_mem_cons]
  congr 2
  simp only [List.length_append, List.length_cons]
  omega

theorem itemsScanned_nil {white : List UInt8} (hwhite : White white) :
    ItemsScanned serde [] white := by
  intro bytes offset rest hdrop
  obtain ⟨hgap, -, hbyte⟩ := gap_cons hwhite hdrop rfl
  rw [provided_of (List.forall_mem_nil _), scanArray_eq, hgap, if_pos hbyte]

theorem membersScanned_nil {white : List UInt8} (hwhite : White white) :
    MembersScanned serde [] white := by
  intro bytes offset rest keys hdrop
  obtain ⟨hgap, -, hbyte⟩ := gap_cons hwhite hdrop rfl
  rw [provided_of (by simp), scanObject_eq, hgap, if_pos hbyte]

theorem membersScanned_last {key : String} {value : Value}
    {before name colon start text after : List UInt8} (hbefore : White before)
    (hname : serde.Literal key name) (hcolon : White colon) (hstart : White start)
    (hafter : White after) (hscanned : ValueScanned serde value text) :
    MembersScanned serde [(key, value)]
      (before ++ (name ++ (colon ++ 0x3a :: (start ++ (text ++ after))))) := by
  intro bytes offset rest keys hdrop
  simp only [List.append_assoc, List.cons_append] at hdrop
  rw [(scanObject_member keys hbefore hname hcolon hstart hafter hscanned (.inr rfl) hdrop).2,
    if_neg (by decide)]
  simp

/-- An entry and those that follow it, which are compared with its own key too. -/
theorem fresh_cons {keys : BTreeSet} {key : String} {value : Value}
    {fields : List (String × Value)} :
    ((key ∉ keys ∧ value.KeysDistinct) ∧ (∀ field ∈ fields, field.1 ∉ keys.insert key) ∧
        (fields.map Prod.fst).Nodup ∧ ∀ field ∈ fields, field.2.KeysDistinct) ↔
      (∀ field ∈ (key, value) :: fields, field.1 ∉ keys) ∧
        (((key, value) :: fields).map Prod.fst).Nodup ∧
          ∀ field ∈ (key, value) :: fields, field.2.KeysDistinct := by
  have hfresh : (∀ field ∈ fields, field.1 ∉ keys.insert key) ↔
      key ∉ fields.map Prod.fst ∧ ∀ field ∈ fields, field.1 ∉ keys := by
    simp only [BTreeSet.mem_insert, not_or, List.mem_map, not_exists, not_and]
    exact forall₂_and
  rw [hfresh, List.forall_mem_cons, List.forall_mem_cons, List.map_cons, List.nodup_cons]
  tauto

theorem membersScanned_cons {key : String} {value : Value} {fields : List (String × Value)}
    {before name colon start text after more : List UInt8} (hbefore : White before)
    (hname : serde.Literal key name) (hcolon : White colon) (hstart : White start)
    (hafter : White after) (hscanned : ValueScanned serde value text)
    (hmore : MembersScanned serde fields more) :
    MembersScanned serde ((key, value) :: fields)
      (before ++ (name ++ (colon ++ 0x3a :: (start ++ (text ++ (after ++ 0x2c :: more)))))) := by
  intro bytes offset rest keys hdrop
  simp only [List.append_assoc, List.cons_append] at hdrop
  obtain ⟨hinner, hmember⟩ :=
    scanObject_member keys hbefore hname hcolon hstart hafter hscanned (.inl rfl) hdrop
  rw [hmember, if_pos rfl, hmore bytes _ rest _ hinner, provided_provided, fresh_cons]
  congr 2
  simp only [List.length_append, List.length_cons]
  omega

theorem isScalarByte_utf8 {name : String} (h : name ∈ ["null", "false", "true"]) :
    utf8 name ≠ [] ∧ ∀ b ∈ utf8 name, isScalarByte b = true := by
  rw [← List.all_iff_forall_prop]
  simp only [List.mem_cons, List.not_mem_nil, or_false] at h
  rcases h with rfl | rfl | rfl <;> decide

/-- **The scanner finds every value**, by its derivation. -/
theorem scanned (hserde : serde.Documented) {value : Value} {text : List UInt8}
    (h : serde.Text value text) : ValueScanned serde value text :=
  @Text.rec serde (fun value text _ => ValueScanned serde value text)
    (fun items text _ => ItemsScanned serde items text)
    (fun fields text _ => MembersScanned serde fields text)
    (valueScanned_scalar (isScalarByte_utf8 (by simp)).1 (isScalarByte_utf8 (by simp)).2
      hserde.readsNull .null)
    (valueScanned_scalar (isScalarByte_utf8 (by simp)).1 (isScalarByte_utf8 (by simp)).2
      hserde.readsFalse (.bool false))
    (valueScanned_scalar (isScalarByte_utf8 (by simp)).1 (isScalarByte_utf8 (by simp)).2
      hserde.readsTrue (.bool true))
    (fun {_ n} hne hbytes hread =>
      valueScanned_scalar hne (fun b hb => isScalarByte_of_number (hbytes b hb)) hread (.number n))
    (fun hname => valueScanned_string hname)
    (fun hwhite => valueScanned_array (itemsScanned_nil hwhite))
    (fun _ hitems => valueScanned_array hitems)
    (fun hwhite => valueScanned_object (membersScanned_nil hwhite))
    (fun _ hfields => valueScanned_object hfields)
    (fun hbefore htext hafter hvalue => itemsScanned_last hbefore htext hafter hvalue)
    (fun hbefore htext hafter _ hvalue hmore =>
      itemsScanned_cons hbefore htext hafter hvalue hmore)
    (fun hbefore hname hcolon hstart _ hafter hvalue =>
      membersScanned_last hbefore hname hcolon hstart hafter hvalue)
    (fun hbefore hname hcolon hstart _ hafter _ hvalue hmore =>
      membersScanned_cons hbefore hname hcolon hstart hafter hvalue hmore)
    value text h

/-- **The verdict on a text** that `serde_json` accepts is whether an object repeats a key. -/
theorem rejectDuplicateKeys_document (hserde : serde.Documented) {value : Value}
    {bytes : List UInt8} (h : serde.Document value bytes) :
    (value.KeysDistinct → rejectDuplicateKeys serde bytes = .ok ()) ∧
      (¬value.KeysDistinct → rejectDuplicateKeys serde bytes =
        .error "package manifest has duplicate JSON field") := by
  obtain ⟨before, text, after, hbefore, htext, hafter, hbytes⟩ := h
  have hdrop : bytes.drop 0 = before ++ (text ++ after) := hbytes
  have hends : Ends after := by
    intro b hb
    rcases hafter b (List.mem_of_mem_head? hb) with rfl | rfl | rfl | rfl <;> rfl
  have hvalue := scanned hserde htext bytes 0 before after hbefore hdrop hends
  have hgap : gap bytes (0 + before.length + text.length) = bytes.length := by
    have hrest := drop_append_eq (drop_append_eq hdrop)
    rw [gap_white hafter (by rw [hrest, List.append_nil]) (by simp), hbytes]
    simp only [List.length_append]
    omega
  refine ⟨fun hdistinct => ?_, fun hrepeated => ?_⟩
  · rw [provided_of hdistinct] at hvalue
    rw [rejectDuplicateKeys]
    cases hscan : scanValue serde bytes 0 with
    | error e =>
      rw [hscan] at hvalue
      cases hvalue
    | ok read =>
      obtain ⟨next, hnext⟩ := read
      rw [hscan, reached_ok] at hvalue
      have hstop : next = 0 + before.length + text.length := Except.ok.inj hvalue
      exact if_pos (hstop ▸ hgap)
  · rw [provided_not hrepeated] at hvalue
    rw [rejectDuplicateKeys]
    cases hscan : scanValue serde bytes 0 with
    | error e =>
      rw [hscan] at hvalue
      cases hvalue
      rfl
    | ok read =>
      rw [hscan] at hvalue
      cases hvalue

end Constructors

end FrametimeCfg.Verified.ManifestScan
