import Mathlib.Data.String.Basic

/-!
# Text operations of the Rust standard library

The string functions the program uses, at the level of characters: ASCII case
mapping, byte lengths, the Unicode control and white-space classes, splitting,
and the integer parsers with the optional leading plus sign that
`from_str_radix` accepts.
-/

namespace FrametimeCfg.Lib.Text

/-- `str::to_ascii_lowercase`. -/
def asciiLower (s : String) : String := s.map Char.toLower

/-- `str::to_ascii_uppercase`. -/
def asciiUpper (s : String) : String := s.map Char.toUpper

/-- `str::eq_ignore_ascii_case`. -/
def eqIgnoreAsciiCase (s t : String) : Bool := asciiLower s = asciiLower t

/-- `str::len`, in bytes of UTF-8. -/
def byteLen (s : String) : Nat := s.utf8ByteSize

/-- The bytes of an ASCII text are its characters. -/
theorem toUTF8_ascii {text : List Char} (h : ∀ c ∈ text, c.toNat < 128) :
    (String.ofList text).toUTF8.data.toList = text.map fun c => c.val.toUInt8 := by
  have hbytes : ∀ c ∈ text, String.utf8EncodeChar c = [c.val.toUInt8] := by
    intro c hc
    refine String.utf8EncodeChar_eq_singleton ?_
    have hlt : c.val.toNat < 128 := h c hc
    have hle : c.val ≤ 0x7f := by
      rw [UInt32.le_iff_toNat_le]
      show c.val.toNat ≤ 127
      omega
    unfold Char.utf8Size
    exact if_pos hle
  show (String.ofList text).toByteArray.data.toList = _
  rw [String.toByteArray_ofList, List.utf8Encode, List.data_toByteArray]
  show text.flatMap String.utf8EncodeChar = _
  induction text with
  | nil => rfl
  | cons c text ih =>
      rw [List.flatMap_cons, hbytes c (by simp), List.map_cons, ih]
      · rfl
      · exact fun d hd => h d (by simp [hd])
      · exact fun d hd => hbytes d (by simp [hd])

/-- `char::is_control`: the Unicode class Cc. -/
def isControl (c : Char) : Bool :=
  c.toNat < 0x20 || (0x7f ≤ c.toNat && c.toNat < 0xa0)

/-- `char::is_whitespace`: the Unicode property White_Space. -/
def isWhitespace (c : Char) : Bool :=
  (0x09 ≤ c.toNat && c.toNat ≤ 0x0d) || c.toNat = 0x20 || c.toNat = 0x85 ||
    c.toNat = 0xa0 || c.toNat = 0x1680 ||
    (0x2000 ≤ c.toNat && c.toNat ≤ 0x200a) || c.toNat = 0x2028 ||
    c.toNat = 0x2029 || c.toNat = 0x202f || c.toNat = 0x205f || c.toNat = 0x3000

/-- A byte that `u8::is_ascii_hexdigit` accepts. -/
def isHexDigit (c : Char) : Bool :=
  c.isDigit || ('a' ≤ c && c ≤ 'f') || ('A' ≤ c && c ≤ 'F')

/-- A decimal digit or one of `a` to `f`. -/
def isLowerHexDigit (c : Char) : Bool := c.isDigit || ('a' ≤ c && c ≤ 'f')

/-- The value of a hexadecimal digit. -/
def hexValue (c : Char) : Nat :=
  if c.isDigit then c.toNat - '0'.toNat
  else if 'a' ≤ c && c ≤ 'f' then c.toNat - 'a'.toNat + 10
  else c.toNat - 'A'.toNat + 10

/-- The digits after an optional plus sign. -/
def unsignedDigits : List Char → List Char
  | '+' :: rest => rest
  | digits => digits

/-- `from_str_radix(value, 16)` before the range check. -/
def parseHexNat (value : List Char) : Option Nat :=
  let digits := unsignedDigits value
  if digits = [] || ¬ digits.all isHexDigit then none
  else some (digits.foldl (fun acc c => 16 * acc + hexValue c) 0)

/-- `str::parse` of an unsigned integer before the range check. -/
def parseDecimalNat (value : List Char) : Option Nat :=
  let digits := unsignedDigits value
  if digits = [] || ¬ digits.all Char.isDigit then none
  else some (digits.foldl (fun acc c => 10 * acc + (c.toNat - '0'.toNat)) 0)

/-- `str::split` at the characters `p` holds of. -/
def splitAt (p : Char → Bool) : List Char → List (List Char)
  | [] => [[]]
  | c :: rest =>
      if p c then [] :: splitAt p rest
      else
        match splitAt p rest with
        | [] => [[c]]
        | part :: parts => (c :: part) :: parts

/-- `str::split_once` at a character. -/
def splitOnce (separator : Char) : List Char → Option (List Char × List Char)
  | [] => none
  | c :: rest =>
      if c = separator then some ([], rest)
      else (splitOnce separator rest).map fun (before, after) => (c :: before, after)

/-- `str::strip_prefix`. -/
def stripPrefix (start value : List Char) : Option (List Char) :=
  if start.isPrefixOf value then some (value.drop start.length) else none

/-- `str::split_once` at a text. -/
def splitOnceText (pattern : List Char) : List Char → Option (List Char × List Char)
  | [] => if pattern = [] then some ([], []) else none
  | c :: rest =>
      match stripPrefix pattern (c :: rest) with
      | some after => some ([], after)
      | none =>
          (splitOnceText pattern rest).map fun (before, after) => (c :: before, after)

/-- `str::trim_end_matches` with the characters `p` holds of. -/
def trimEndMatches (p : Char → Bool) (value : List Char) : List Char :=
  (value.reverse.dropWhile p).reverse

/-- `str::trim`. -/
def trim (value : List Char) : List Char :=
  trimEndMatches isWhitespace (value.dropWhile isWhitespace)

/-- A line without the carriage return before its line feed. -/
def stripCarriageReturn (line : List Char) : List Char :=
  if line.getLast? = some '\r' then line.dropLast else line

/-- `str::lines`: a last line without a line feed counts unless it is empty. -/
def lines (value : List Char) : List (List Char) :=
  let parts := splitAt (· = '\n') value
  parts.dropLast.map stripCarriageReturn ++ parts.getLast?.toList.filter (· ≠ [])

/-- `str::as_bytes`. -/
def utf8 (s : String) : List UInt8 := s.toUTF8.data.toList

/-- `str::from_utf8`. -/
def fromUtf8 (bytes : List UInt8) : Option String := String.fromUTF8? ⟨bytes.toArray⟩

/-- The bytes that were read as a text are the bytes of the text. -/
theorem utf8_fromUtf8 {bytes : List UInt8} {s : String} (h : fromUtf8 bytes = some s) :
    utf8 s = bytes := by
  unfold fromUtf8 String.fromUTF8? at h
  split at h
  · have hs := Option.some.inj h
    rw [← hs]
    rfl
  · cases h

end FrametimeCfg.Lib.Text
