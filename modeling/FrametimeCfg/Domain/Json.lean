import FrametimeCfg.Lib.OrderedMap
import Mathlib.Algebra.Order.Field.Rat

/-!
# JSON values and floating-point numbers

The persisted documents (`state.json`, `progress.json`, the benchmark history
and the audit file) are JSON objects that every reader decodes through
`serde_json::Value`.  `Value` is that type.  An object is kept as the list of
its entries; `Value.asObject` reads it the way `serde_json::Map` does, as a
map in which a repeated key keeps its last value.

`F64` is the domain of `f64` as far as this program looks at it: the code
compares frame rates and asks whether they are finite, and never computes with
them outside the log parser.  The two zeros compare equal, so they are one
value here.
-/

namespace FrametimeCfg.Domain

open FrametimeCfg.Lib.OrderedMap

/-! ## Floating-point numbers -/

/-- An `f64`: not a number, an infinity, or a finite value. -/
inductive F64 where
  | nan
  | inf (negative : Bool)
  | finite (value : ℚ)
  deriving DecidableEq

namespace F64

/-- `f64::is_finite`. -/
def isFinite : F64 → Bool
  | .finite _ => true
  | _ => false

/-- `PartialEq` on `f64`: not a number is unequal to everything. -/
def feq : F64 → F64 → Bool
  | .nan, _ => false
  | a, b => a = b

/-- `<=` on `f64`. -/
def fle : F64 → F64 → Bool
  | .nan, _ => false
  | _, .nan => false
  | .inf true, _ => true
  | _, .inf false => true
  | .inf false, _ => false
  | _, .inf true => false
  | .finite a, .finite b => a ≤ b

/-- `<` on `f64`. -/
def flt (a b : F64) : Bool := fle a b && !feq a b

/-- `f64::from(u32)`, and integer literals. -/
def ofNat (n : Nat) : F64 := .finite n

/-- `0.0`. -/
def zero : F64 := .finite 0

end F64

/-! ## Values -/

/-- A `serde_json` number. -/
inductive Number where
  /-- A non-negative integer. -/
  | unsigned (n : UInt64)
  /-- A negative integer from `-2^63` on. -/
  | signed (n : Int)
  /-- A number with a fraction or an exponent; always finite. -/
  | float (value : ℚ)
  deriving DecidableEq

/-- `serde_json::Value`. -/
inductive Value where
  | null
  | bool (b : Bool)
  | number (n : Number)
  | string (s : String)
  | array (items : List Value)
  | object (fields : List (String × Value))

mutual
/-- Equality of values is decidable. -/
def Value.decEq : (a b : Value) → Decidable (a = b)
  | .null, .null => isTrue rfl
  | .bool a, .bool b => decidable_of_iff (a = b) (by simp)
  | .number a, .number b => decidable_of_iff (a = b) (by simp)
  | .string a, .string b => decidable_of_iff (a = b) (by simp)
  | .array a, .array b =>
      match Value.decEqItems a b with
      | isTrue h => isTrue (by rw [h])
      | isFalse h => isFalse (by simpa using h)
  | .object a, .object b =>
      match Value.decEqFields a b with
      | isTrue h => isTrue (by rw [h])
      | isFalse h => isFalse (by simpa using h)
  | .null, .bool _ | .null, .number _ | .null, .string _ | .null, .array _
  | .null, .object _ | .bool _, .null | .bool _, .number _ | .bool _, .string _
  | .bool _, .array _ | .bool _, .object _ | .number _, .null
  | .number _, .bool _ | .number _, .string _ | .number _, .array _
  | .number _, .object _ | .string _, .null | .string _, .bool _
  | .string _, .number _ | .string _, .array _ | .string _, .object _
  | .array _, .null | .array _, .bool _ | .array _, .number _
  | .array _, .string _ | .array _, .object _ | .object _, .null
  | .object _, .bool _ | .object _, .number _ | .object _, .string _
  | .object _, .array _ => isFalse (by simp)

/-- Equality of the items of two arrays. -/
def Value.decEqItems : (a b : List Value) → Decidable (a = b)
  | [], [] => isTrue rfl
  | [], _ :: _ => isFalse (by simp)
  | _ :: _, [] => isFalse (by simp)
  | a :: as, b :: bs =>
      match Value.decEq a b, Value.decEqItems as bs with
      | isTrue h, isTrue hs => isTrue (by rw [h, hs])
      | isFalse h, _ => isFalse (by simp [h])
      | _, isFalse hs => isFalse (by simp [hs])

/-- Equality of the entries of two objects. -/
def Value.decEqFields : (a b : List (String × Value)) → Decidable (a = b)
  | [], [] => isTrue rfl
  | [], _ :: _ => isFalse (by simp)
  | _ :: _, [] => isFalse (by simp)
  | (k, a) :: as, (j, b) :: bs =>
      match instDecidableEqString k j, Value.decEq a b, Value.decEqFields as bs with
      | isTrue hk, isTrue h, isTrue hs => isTrue (by rw [hk, h, hs])
      | isFalse hk, _, _ => isFalse (by simp [hk])
      | _, isFalse h, _ => isFalse (by simp [h])
      | _, _, isFalse hs => isFalse (by simp [hs])
end

instance : DecidableEq Value := Value.decEq

namespace Value

/-- `Value::as_str`. -/
def asStr : Value → Option String
  | .string s => some s
  | _ => none

/-- `Value::as_u64`. -/
def asU64 : Value → Option UInt64
  | .number (.unsigned n) => some n
  | _ => none

/-- `Value::as_f64`. -/
def asF64 : Value → Option F64
  | .number (.unsigned n) => some (.finite n.toNat)
  | .number (.signed n) => some (.finite n)
  | .number (.float q) => some (.finite q)
  | _ => none

/-- `Value::as_array`. -/
def asArray : Value → Option (List Value)
  | .array items => some items
  | _ => none

/-- `Value::as_object`, and `BTreeMap::<String, Value>::deserialize`: a
repeated key keeps its last value. -/
def asObject : Value → Option (BTreeMap Value)
  | .object fields => some (Std.ExtTreeMap.ofList fields)
  | _ => none

/-- A map written as an object, in key order. -/
def ofObject (fields : BTreeMap Value) : Value := .object fields.toList

/-- The number an unsigned integer of the program is written as. -/
def ofU64 (n : UInt64) : Value := .number (.unsigned n)

/-- The number a finite `f64` is written as; other values are written as
`null`. -/
def ofF64 : F64 → Value
  | .finite q => .number (.float q)
  | _ => .null

/-- Reading back a written object. -/
@[simp] theorem asObject_ofObject (fields : BTreeMap Value) :
    asObject (ofObject fields) = some fields := by
  simp [asObject, ofObject, BTreeMap.ofList_toList]

/-- A record with a flattened rest: the known entries that are present, then
the rest. -/
def ofRecord (known : List (String × Option Value)) (rest : BTreeMap Value) :
    Value :=
  .object (known.filterMap (fun (k, v) => v.map (k, ·)) ++ rest.toList)

/-! ### Reading back a record -/

/-- What the known entries of a record give a key. -/
def entry (known : List (String × Option Value)) (k : String) : Option Value :=
  (known.lookup k).join

/-- The known entries that are present. -/
def present (known : List (String × Option Value)) : List (String × Value) :=
  known.filterMap fun (k, v) => v.map (k, ·)

private theorem mem_present {known : List (String × Option Value)} {k : String}
    {v : Value} : (k, v) ∈ present known ↔ (k, some v) ∈ known := by
  rw [present, List.mem_filterMap]
  constructor
  · rintro ⟨⟨j, w⟩, hmem, h⟩
    cases w with
    | none => cases h
    | some w =>
        simp only [Option.map_some, Option.some.injEq, Prod.mk.injEq] at h
        rwa [← h.1, ← h.2]
  · intro hmem
    exact ⟨(k, some v), hmem, rfl⟩

theorem keys_present_sublist (known : List (String × Option Value)) :
    ((present known).map Prod.fst).Sublist (known.map Prod.fst) := by
  induction known with
  | nil => exact List.Sublist.refl _
  | cons x rest ih =>
      obtain ⟨k, v⟩ := x
      cases v with
      | none => exact List.Sublist.cons k ih
      | some v => exact List.Sublist.cons_cons k ih

/-- With distinct keys, an entry is found under its key. -/
theorem lookup_of_mem {known : List (String × Option Value)} {k : String}
    {v : Option Value} (hnodup : (known.map Prod.fst).Nodup) (h : (k, v) ∈ known) :
    known.lookup k = some v := by
  induction known with
  | nil => cases h
  | cons x rest ih =>
      rw [List.map_cons, List.nodup_cons] at hnodup
      rcases List.mem_cons.mp h with rfl | hrest
      · exact List.lookup_cons_self
      · have hne : k ≠ x.1 := fun heq =>
          hnodup.1 (heq ▸ List.mem_map_of_mem (f := Prod.fst) hrest)
        have hbeq : (k == x.1) = false := beq_false_of_ne hne
        rw [List.lookup_cons, hbeq]
        exact ih hnodup.2 hrest

theorem get_ofList_present {known : List (String × Option Value)}
    (hnodup : (known.map Prod.fst).Nodup) (k : String) :
    (Std.ExtTreeMap.ofList (present known) : BTreeMap Value)[k]? = entry known k := by
  have hkeys : ((present known).map Prod.fst).Nodup :=
    hnodup.sublist (keys_present_sublist known)
  by_cases hmem : k ∈ (present known).map Prod.fst
  · obtain ⟨⟨j, v⟩, hv, rfl⟩ := List.mem_map.mp hmem
    have hlookup := lookup_of_mem hnodup (mem_present.mp hv)
    rw [entry, hlookup]
    refine Std.ExtTreeMap.getElem?_ofList_of_mem (k := j) (by simp) ?_ hv
    have hpairwise := List.pairwise_map.mp hkeys
    exact hpairwise.imp fun hne heq => hne (by simpa using heq)
  · have hentry : entry known k = none := by
      cases hlookup : known.lookup k with
      | none => rw [entry, hlookup]; rfl
      | some v =>
          cases v with
          | none => rw [entry, hlookup]; rfl
          | some v =>
              obtain ⟨l₁, l₂, rfl, -⟩ := List.lookup_eq_some_iff.mp hlookup
              refine absurd (List.mem_map.mpr ⟨(k, v), ?_, rfl⟩) hmem
              exact mem_present.mpr (by simp)
    rw [hentry]
    refine Std.ExtTreeMap.getElem?_ofList_of_contains_eq_false ?_
    simpa using hmem

/-- **Reading back a written record.**  An entry of the rest hides a known
entry with the same key. -/
theorem asObject_ofRecord {known : List (String × Option Value)}
    (hnodup : (known.map Prod.fst).Nodup) (rest : BTreeMap Value) :
    ∃ fields, (ofRecord known rest).asObject = some fields ∧
      ∀ k, fields[k]? = (rest[k]?).or (entry known k) := by
  refine ⟨_, rfl, fun k => ?_⟩
  rw [← get_ofList_present hnodup]
  exact BTreeMap.get_ofList_append_toList _ _ _

/-! ### Flattened parts -/

/-- The entries of a flattened part together with the rest, as the reader of
the record finds them. -/
def flattened (part : List (String × Option Value)) (rest : BTreeMap Value) :
    BTreeMap Value :=
  Std.ExtTreeMap.ofList (present part ++ rest.toList)

theorem get_flattened {part : List (String × Option Value)}
    (hnodup : (part.map Prod.fst).Nodup) (rest : BTreeMap Value) (k : String) :
    (flattened part rest)[k]? = (rest[k]?).or (entry part k) := by
  rw [← get_ofList_present hnodup]
  exact BTreeMap.get_ofList_append_toList _ _ _

/-- What an entry list says about a key that its first half names. -/
theorem entry_append_of_mem {named part : List (String × Option Value)} {k : String}
    (h : k ∈ named.map Prod.fst) : entry (named ++ part) k = entry named k := by
  induction named with
  | nil => cases h
  | cons x named ih =>
      obtain ⟨j, v⟩ := x
      by_cases hk : k = j
      · subst hk
        simp [entry]
      · have hrest : k ∈ named.map Prod.fst := by simpa [hk] using h
        have hbeq : (k == j) = false := beq_false_of_ne hk
        simpa [entry, List.lookup_cons, hbeq] using ih hrest

/-- What an entry list says about a key that its first half does not name. -/
theorem entry_append_of_not_mem {named part : List (String × Option Value)} {k : String}
    (h : k ∉ named.map Prod.fst) : entry (named ++ part) k = entry part k := by
  induction named with
  | nil => rfl
  | cons x named ih =>
      obtain ⟨j, v⟩ := x
      have hne : k ≠ j := fun hk => h (by simp [hk])
      have hrest : k ∉ named.map Prod.fst := fun hk => h (List.mem_cons_of_mem _ hk)
      have hbeq : (k == j) = false := beq_false_of_ne hne
      simpa [entry, List.lookup_cons, hbeq] using ih hrest

/-- **Reading back a record with a flattened part.**  The named fields are
found as they were written, and what they leave over is the flattened part
together with the rest. -/
theorem asObject_ofRecord_append {named part : List (String × Option Value)}
    {keys partKeys : List String} (hkeys : named.map Prod.fst = keys)
    (hpart : part.map Prod.fst = partKeys) (hnodup : (keys ++ partKeys).Nodup)
    {rest : BTreeMap Value} (hrest : ∀ k ∈ keys, rest[k]? = none) :
    ∃ fields, (ofRecord (named ++ part) rest).asObject = some fields ∧
      (∀ k ∈ keys, fields[k]? = entry named k) ∧
      BTreeMap.without fields keys = flattened part rest := by
  subst hkeys hpart
  obtain ⟨fields, hread, hget⟩ :=
    asObject_ofRecord (by rwa [List.map_append] : ((named ++ part).map Prod.fst).Nodup) rest
  rw [List.nodup_append] at hnodup
  refine ⟨fields, hread, fun k hk => ?_, BTreeMap.ext fun k => ?_⟩
  · rw [hget, hrest k hk, Option.none_or, entry_append_of_mem hk]
  · rw [BTreeMap.get_without, get_flattened hnodup.2.1]
    by_cases hk : k ∈ named.map Prod.fst
    · have hmem : k ∉ part.map Prod.fst := fun hmem => hnodup.2.2 k hk k hmem rfl
      have hnone : entry part k = none := by
        have hsplit : entry (part ++ []) k = entry [] k := entry_append_of_not_mem hmem
        rw [List.append_nil] at hsplit
        rw [hsplit]
        rfl
      rw [if_pos hk, hrest k hk, Option.none_or, hnone]
    · rw [if_neg hk, hget, entry_append_of_not_mem hk]

end Value

/-! ## Tolerant readers -/

/-- `tolerant_string`: the text of a field that is a string. -/
def tolerantString (value : Option Value) : Option String :=
  value.bind Value.asStr

/-- `tolerant_u8`. -/
def tolerantU8 (value : Option Value) : Option UInt8 :=
  (value.bind Value.asU64).bind fun n =>
    if n.toNat < 256 then some (UInt8.ofNat n.toNat) else none

/-- The reader of an optional text field of a derived record: absent and
`null` read as nothing, and anything that is not a text fails. -/
def optionalString (value : Option Value) : Except String (Option String) :=
  match value with
  | none => .ok none
  | some .null => .ok none
  | some (.string s) => .ok (some s)
  | some _ => .error "invalid type: expected a string"

/-- The reader of a required text field of a derived record. -/
def requiredString (field : String) (fields : BTreeMap Value) :
    Except String String :=
  match fields[field]? with
  | none => .error ("missing field " ++ field)
  | some (.string s) => .ok s
  | some _ => .error "invalid type: expected a string"

end FrametimeCfg.Domain
