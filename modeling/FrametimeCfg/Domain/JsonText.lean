import FrametimeCfg.Domain.Json
import FrametimeCfg.Lib.Text

/-!
# JSON texts

What a JSON text is, in bytes, relative to what `serde_json` reads in a string literal and in
a number.  A value is read with the entries of its objects as they are written, repeated keys
included; `Value.asObject` then keeps the last entry of each key.
-/

namespace FrametimeCfg.Domain

open FrametimeCfg.Lib.Text

/-- `serde_json::from_slice`, for a text and for a value. -/
structure SerdeJson where
  string : List UInt8 → Option String
  value : List UInt8 → Except String Value

namespace SerdeJson

/-- White space between the tokens of a JSON text. -/
def White (bytes : List UInt8) : Prop :=
  ∀ b ∈ bytes, b = 0x20 ∨ b = 0x09 ∨ b = 0x0a ∨ b = 0x0d

/-- A byte of a number. -/
def isNumberByte (b : UInt8) : Bool :=
  (0x30 ≤ b && b ≤ 0x39) || b = 0x2b || b = 0x2d || b = 0x2e || b = 0x45 || b = 0x65

/-- The inside of a string literal: a quote in it is escaped. -/
inductive Inside : List UInt8 → Prop
  | nil : Inside []
  | plain {b : UInt8} {rest : List UInt8} :
      b ≠ 0x22 → b ≠ 0x5c → Inside rest → Inside (b :: rest)
  | escaped (b : UInt8) {rest : List UInt8} : Inside rest → Inside (0x5c :: b :: rest)

section Grammar

variable (serde : SerdeJson)

/-- A string literal. -/
inductive Literal : String → List UInt8 → Prop
  | intro {inside : List UInt8} {text : String} :
      Inside inside → serde.string (0x22 :: inside ++ [0x22]) = some text →
        Literal text (0x22 :: inside ++ [0x22])

mutual

/-- **The texts of a value.** -/
inductive Text : Value → List UInt8 → Prop
  | nullName : Text .null (utf8 "null")
  | falseName : Text (.bool false) (utf8 "false")
  | trueName : Text (.bool true) (utf8 "true")
  | number {bytes : List UInt8} {n : Number} :
      bytes ≠ [] → (∀ b ∈ bytes, isNumberByte b = true) →
        serde.value bytes = .ok (.number n) → Text (.number n) bytes
  | string {text : String} {bytes : List UInt8} : serde.Literal text bytes →
      Text (.string text) bytes
  | emptyArray {white : List UInt8} : White white → Text (.array []) (0x5b :: (white ++ [0x5d]))
  | array {items : List Value} {bytes : List UInt8} : Items items bytes →
      Text (.array items) (0x5b :: (bytes ++ [0x5d]))
  | emptyObject {white : List UInt8} : White white →
      Text (.object []) (0x7b :: (white ++ [0x7d]))
  | object {fields : List (String × Value)} {bytes : List UInt8} : Members fields bytes →
      Text (.object fields) (0x7b :: (bytes ++ [0x7d]))

/-- Items with commas between them. -/
inductive Items : List Value → List UInt8 → Prop
  | last {item : Value} {before bytes after : List UInt8} :
      White before → Text item bytes → White after → Items [item] (before ++ (bytes ++ after))
  | cons {item : Value} {items : List Value} {before bytes after rest : List UInt8} :
      White before → Text item bytes → White after → Items items rest →
        Items (item :: items) (before ++ (bytes ++ (after ++ 0x2c :: rest)))

/-- Entries with commas between them. -/
inductive Members : List (String × Value) → List UInt8 → Prop
  | last {key : String} {value : Value} {before name colon start bytes after : List UInt8} :
      White before → serde.Literal key name → White colon → White start → Text value bytes →
        White after →
          Members [(key, value)] (before ++ (name ++ (colon ++ 0x3a :: (start ++ (bytes ++ after)))))
  | cons {key : String} {value : Value} {fields : List (String × Value)}
      {before name colon start bytes after rest : List UInt8} :
      White before → serde.Literal key name → White colon → White start → Text value bytes →
        White after → Members fields rest →
          Members ((key, value) :: fields)
            (before ++ (name ++ (colon ++ 0x3a :: (start ++ (bytes ++ (after ++ 0x2c :: rest))))))

end

/-- A JSON text: one value, with white space around it. -/
def Document (value : Value) (bytes : List UInt8) : Prop :=
  ∃ before text after, White before ∧ serde.Text value text ∧ White after ∧
    bytes = before ++ (text ++ after)

/-- **What is documented of `serde_json`**: it reads JSON texts only, each as the value that
is written, and it reads the three names. -/
structure Documented : Prop where
  accepted : ∀ bytes value, serde.value bytes = .ok value → serde.Document value bytes
  readsNull : serde.value (utf8 "null") = .ok .null
  readsFalse : serde.value (utf8 "false") = .ok (.bool false)
  readsTrue : serde.value (utf8 "true") = .ok (.bool true)

end Grammar

end SerdeJson

/-- No object of the value repeats a key. -/
inductive Value.KeysDistinct : Value → Prop
  | null : KeysDistinct .null
  | bool (b : Bool) : KeysDistinct (.bool b)
  | number (n : Number) : KeysDistinct (.number n)
  | string (s : String) : KeysDistinct (.string s)
  | array {items : List Value} : (∀ item ∈ items, KeysDistinct item) →
      KeysDistinct (.array items)
  | object {fields : List (String × Value)} : (fields.map Prod.fst).Nodup →
      (∀ field ∈ fields, KeysDistinct field.2) → KeysDistinct (.object fields)

end FrametimeCfg.Domain
