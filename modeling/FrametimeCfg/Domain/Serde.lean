import FrametimeCfg.Domain.Json
import Mathlib.Data.List.Induction

/-!
# Derived codecs

A data type that derives `Serialize` and `Deserialize` is read from a JSON value and
written as one.  `Codec` is such a pair, with the values that it writes as it read
them: `kept` says of a value that decodes whether what is written has the same content.
Two values have the same content when they differ in the order of keys and in repeated
keys only.

The codecs here are those of the attributes that the backup file uses.  A value that
was read before its type was known is kept by `serde` in a buffer, and some types
accept more from the buffer than from a text: a struct without a flattened rest may be
a sequence, a variant an object with one entry, and the tag of an enum the index of the
variant.
-/

namespace FrametimeCfg.Domain

open FrametimeCfg.Lib.OrderedMap

/-! ## The content of a value -/

mutual
/-- The value with the entries of every object in key order and without the repeated
ones. -/
def Value.normal : Value → Value
  | .array items => .array (Value.normalItems items)
  | .object fields =>
      .object (Std.ExtTreeMap.ofList (Value.normalFields fields) : BTreeMap Value).toList
  | v => v

def Value.normalItems : List Value → List Value
  | [] => []
  | v :: vs => Value.normal v :: Value.normalItems vs

def Value.normalFields : List (String × Value) → List (String × Value)
  | [] => []
  | (k, v) :: rest => (k, Value.normal v) :: Value.normalFields rest
end

namespace Serde

/-- The entries of an object as a map, as `Value.asObject` reads them. -/
def asMap (fields : List (String × Value)) : BTreeMap Value := Std.ExtTreeMap.ofList fields

/-- **The same JSON**, up to the order of keys. -/
def Same (a b : Value) : Prop := a.normal = b.normal

instance (a b : Value) : Decidable (Same a b) := inferInstanceAs (Decidable (_ = _))

/-- The same JSON, or absent in both. -/
def SameEntry (a b : Option Value) : Prop := a.map Value.normal = b.map Value.normal

theorem normalItems_eq (items : List Value) :
    Value.normalItems items = items.map Value.normal := by
  induction items with
  | nil => rfl
  | cons v items ih => rw [Value.normalItems, ih, List.map_cons]

theorem normalFields_eq (fields : List (String × Value)) :
    Value.normalFields fields = fields.map (fun (k, v) => (k, v.normal)) := by
  induction fields with
  | nil => rfl
  | cons x fields ih =>
      obtain ⟨k, v⟩ := x
      rw [Value.normalFields, ih, List.map_cons]

theorem same_array {as bs : List Value} :
    Same (.array as) (.array bs) ↔ as.map Value.normal = bs.map Value.normal := by
  unfold Same
  simp only [Value.normal, Value.array.injEq, normalItems_eq]

theorem get_asMap_normal (fields : List (String × Value)) (k : String) :
    (asMap (Value.normalFields fields))[k]? = (asMap fields)[k]?.map Value.normal := by
  rw [normalFields_eq]
  unfold asMap
  induction fields using List.reverseRecOn with
  | nil => simp
  | append_singleton fields x ih =>
      obtain ⟨j, v⟩ := x
      simp only [Std.ExtTreeMap.ofList_eq_insertMany_empty, List.map_append,
        List.map_cons, List.map_nil, Std.ExtTreeMap.insertMany_append,
        Std.ExtTreeMap.insertMany_list_singleton] at ih ⊢
      rw [BTreeMap.get_insert, BTreeMap.get_insert, ih]
      by_cases h : k = j
      · rw [if_pos h, if_pos h, Option.map_some]
      · rw [if_neg h, if_neg h]

/-- Two objects are the same when they agree at every key. -/
theorem same_object {xs ys : List (String × Value)} :
    Same (.object xs) (.object ys) ↔
      ∀ k : String, SameEntry (asMap xs)[k]? (asMap ys)[k]? := by
  have hnormal : ∀ fields, (Value.object fields).normal =
      .object (asMap (Value.normalFields fields)).toList := fun _ => rfl
  unfold Same SameEntry
  rw [hnormal, hnormal, Value.object.injEq]
  constructor
  · intro h k
    have hmaps := congrArg asMap h
    simp only [asMap, BTreeMap.ofList_toList] at hmaps
    rw [← get_asMap_normal, ← get_asMap_normal, asMap, asMap, hmaps]
  · intro h
    have hmaps : asMap (Value.normalFields xs) = asMap (Value.normalFields ys) :=
      BTreeMap.ext fun k => by rw [get_asMap_normal, get_asMap_normal, h k]
    rw [hmaps]

/-- A written record has the content of an object when the named entries and the rest
have. -/
theorem same_ofRecord {named : List (String × Option Value)} {rest : BTreeMap Value}
    {raw : List (String × Value)} (hnodup : (named.map Prod.fst).Nodup)
    (hrest : ∀ k ∈ named.map Prod.fst, rest[k]? = none) :
    Same (Value.ofRecord named rest) (.object raw) ↔
      (∀ p ∈ named, SameEntry p.2 (asMap raw)[p.1]?) ∧
        ∀ k, k ∉ named.map Prod.fst → SameEntry rest[k]? (asMap raw)[k]? := by
  have hget : ∀ k : String, (asMap (Value.present named ++ rest.toList))[k]? =
      (rest[k]?).or (Value.entry named k) := fun k => by
    have hpart := BTreeMap.get_ofList_append_toList (Value.present named) rest k
    rwa [Value.get_ofList_present hnodup] at hpart
  have hobject : Value.ofRecord named rest = .object (Value.present named ++ rest.toList) :=
    rfl
  rw [hobject, same_object]
  have hnamed : ∀ p ∈ named, (rest[p.1]?).or (Value.entry named p.1) = p.2 := by
    intro p hp
    rw [hrest p.1 (List.mem_map_of_mem hp), Option.none_or, Value.entry,
      Value.lookup_of_mem hnodup hp]
    rfl
  have hother : ∀ k, k ∉ named.map Prod.fst → Value.entry named k = none := by
    intro k hk
    have hsplit : Value.entry (named ++ []) k = Value.entry [] k :=
      Value.entry_append_of_not_mem hk
    rw [List.append_nil] at hsplit
    rw [hsplit]
    rfl
  constructor
  · intro h
    constructor
    · intro p hp
      have hat := h p.1
      rwa [hget, hnamed p hp] at hat
    · intro k hk
      have hat := h k
      rwa [hget, hother k hk, Option.or_none] at hat
  · rintro ⟨h, hothers⟩ k
    rw [hget]
    by_cases hk : k ∈ named.map Prod.fst
    · obtain ⟨p, hp, rfl⟩ := List.mem_map.mp hk
      rw [hnamed p hp]
      exact h p hp
    · rw [hother k hk, Option.or_none]
      exact hothers k hk

/-- The rest that was left over from the object is the same. -/
theorem same_ofRecord_without {named : List (String × Option Value)}
    {rest : BTreeMap Value} {raw : List (String × Value)}
    (hnodup : (named.map Prod.fst).Nodup)
    (hrest : rest = BTreeMap.without (asMap raw) (named.map Prod.fst)) :
    Same (Value.ofRecord named rest) (.object raw) ↔
      ∀ p ∈ named, SameEntry p.2 (asMap raw)[p.1]? := by
  have hnone : ∀ k ∈ named.map Prod.fst, rest[k]? = none := by
    intro k hk
    rw [hrest, BTreeMap.get_without, if_pos hk]
  rw [same_ofRecord hnodup hnone, and_iff_left]
  intro k hk
  rw [hrest, BTreeMap.get_without, if_neg hk]
  rfl

/-- Without a rest, the object has no other keys. -/
theorem same_ofRecord_empty {named : List (String × Option Value)}
    {raw : List (String × Value)} (hnodup : (named.map Prod.fst).Nodup) :
    Same (Value.ofRecord named ∅) (.object raw) ↔
      (∀ p ∈ named, SameEntry p.2 (asMap raw)[p.1]?) ∧
        (BTreeMap.without (asMap raw) (named.map Prod.fst)).isEmpty = true := by
  have hnone : ∀ k ∈ named.map Prod.fst, (∅ : BTreeMap Value)[k]? = none := by simp
  rw [same_ofRecord hnodup hnone, Std.ExtTreeMap.isEmpty_iff]
  apply and_congr_right
  intro _
  constructor
  · intro h
    refine BTreeMap.ext fun k => ?_
    rw [BTreeMap.get_without]
    by_cases hk : k ∈ named.map Prod.fst
    · rw [if_pos hk]
      simp
    · have hat := h k hk
      rw [if_neg hk]
      cases hget : (asMap raw)[k]? with
      | none => simp
      | some v =>
          rw [hget] at hat
          simp [SameEntry] at hat
  · intro h k hk
    have hat : (BTreeMap.without (asMap raw) (named.map Prod.fst))[k]? =
        (∅ : BTreeMap Value)[k]? := by rw [h]
    rw [BTreeMap.get_without, if_neg hk] at hat
    rw [hat]
    rfl

/-! ## Codecs -/

/-- A reader and a writer of a data type.  A value that decodes is written with the
content it had exactly when it is kept. -/
structure Codec (α : Type) where
  read : Value → Option α
  write : α → Value
  kept : Value → Bool
  same_iff : ∀ {v a}, read v = some a → (Same (write a) v ↔ kept v = true)

namespace Codec

variable {α : Type}

/-- A codec that writes what it read. -/
def exact (read : Value → Option α) (write : α → Value)
    (h : ∀ {v a}, read v = some a → write a = v) : Codec α where
  read := read
  write := write
  kept := fun _ => true
  same_iff := fun hread => by simp [Same, h hread]

def value : Codec Value := exact some id (by simp)

def string : Codec String :=
  exact (fun v => match v with | .string s => some s | _ => none) .string fun {v a} h => by
    split at h
    · obtain rfl := Option.some.inj h
      rfl
    · cases h

def bool : Codec Bool :=
  exact (fun v => match v with | .bool b => some b | _ => none) .bool fun {v a} h => by
    split at h
    · obtain rfl := Option.some.inj h
      rfl
    · cases h

/-- An unsigned integer below a bound. -/
def unsigned (bound : Nat) (ofNat : Nat → α) (toU64 : α → UInt64)
    (h : ∀ n : UInt64, n.toNat < bound → toU64 (ofNat n.toNat) = n) : Codec α :=
  exact
    (fun v => match v with
      | .number (.unsigned n) => if n.toNat < bound then some (ofNat n.toNat) else none
      | _ => none)
    (fun a => .ofU64 (toU64 a)) fun {v a} hread => by
      split at hread
      · split at hread
        case isTrue hlt =>
          obtain rfl := Option.some.inj hread
          rw [Value.ofU64, h _ hlt]
        case isFalse => cases hread
      · cases hread

def u8 : Codec UInt8 :=
  unsigned 256 UInt8.ofNat UInt8.toUInt64 fun n hn => by
    rw [← UInt64.toNat_inj, UInt8.toNat_toUInt64, UInt8.toNat_ofNat_of_lt' hn]

def u16 : Codec UInt16 :=
  unsigned 65536 UInt16.ofNat UInt16.toUInt64 fun n hn => by
    rw [← UInt64.toNat_inj, UInt16.toNat_toUInt64, UInt16.toNat_ofNat_of_lt' hn]

def u32 : Codec UInt32 :=
  unsigned 4294967296 UInt32.ofNat UInt32.toUInt64 fun n hn => by
    rw [← UInt64.toNat_inj, UInt32.toNat_toUInt64, UInt32.toNat_ofNat_of_lt' hn]

def u64 : Codec UInt64 :=
  exact (fun v => match v with | .number (.unsigned n) => some n | _ => none) .ofU64
    fun {v a} h => by
      split at h
      · obtain rfl := Option.some.inj h
        rfl
      · cases h

/-- A signed byte; numbers from zero on are written as unsigned ones. -/
def i8 : Codec Int8 :=
  exact
    (fun v => match v with
      | .number (.unsigned n) => if n.toNat < 128 then some (Int8.ofInt n.toNat) else none
      | .number (.signed n) => if -128 ≤ n ∧ n < 0 then some (Int8.ofInt n) else none
      | _ => none)
    (fun a => if 0 ≤ a.toInt then .ofU64 (UInt64.ofNat a.toInt.toNat)
      else .number (.signed a.toInt))
    fun {v a} h => by
      split at h
      · split at h
        case isTrue hlt =>
          obtain rfl := Option.some.inj h
          rename_i n
          have hint : (Int8.ofInt n.toNat).toInt = n.toNat :=
            Int8.toInt_ofInt_of_le (by omega) (by omega)
          rw [hint, if_pos (by omega), Int.toNat_natCast, UInt64.ofNat_toNat]
          rfl
        case isFalse => cases h
      · split at h
        case isTrue hlt =>
          obtain rfl := Option.some.inj h
          rename_i n
          have hint : (Int8.ofInt n).toInt = n :=
            Int8.toInt_ofInt_of_le (by omega) (by omega)
          rw [hint, if_neg (by omega)]
        case isFalse => cases h
      · cases h

/-! ### Sequences -/

/-- The items, when each decodes. -/
def readItems (c : Codec α) : List Value → Option (List α)
  | [] => some []
  | v :: vs =>
      match c.read v, readItems c vs with
      | some a, some as => some (a :: as)
      | _, _ => none

theorem readItems_same (c : Codec α) {vs : List Value} {as : List α}
    (h : c.readItems vs = some as) :
    (as.map c.write).map Value.normal = vs.map Value.normal ↔ vs.all c.kept = true := by
  induction vs generalizing as with
  | nil =>
      obtain rfl := Option.some.inj h
      simp
  | cons v vs ih =>
      rw [readItems] at h
      split at h
      case h_1 a as' ha has =>
        obtain rfl := Option.some.inj h
        have hitem := c.same_iff ha
        unfold Same at hitem
        simp only [List.map_cons, List.cons.injEq, List.all_cons, Bool.and_eq_true, hitem,
          ih has]
      case h_2 => cases h

/-- `Vec<T>`. -/
def vec (c : Codec α) : Codec (List α) where
  read := fun v => match v with | .array items => c.readItems items | _ => none
  write := fun as => .array (as.map c.write)
  kept := fun v => match v with | .array items => items.all c.kept | _ => false
  same_iff := fun {v as} h => by
    split at h
    · rw [same_array, c.readItems_same h]
    · cases h

/-- Only the empty sequence is read as one. -/
theorem vec_read_nil (c : Codec α) {v : Value} (h : c.vec.read v = some []) :
    v = .array [] := by
  unfold vec at h
  simp only at h
  split at h
  · rename_i items
    cases items with
    | nil => rfl
    | cons v vs =>
        rw [readItems] at h
        split at h
        · cases h
        · cases h
  · cases h

/-! ### Enums of units -/

/-- An enum whose variants carry nothing, written as the name of the variant.  From the
buffer it is also read from an object whose only entry has that name. -/
def unit (payload : Value → Bool) (all : List α) (name : α → String) : Codec α where
  read := fun v => match v with
    | .string s => all.find? (fun a => name a = s)
    | .object [(s, p)] => if payload p then all.find? (fun a => name a = s) else none
    | _ => none
  write := fun a => .string (name a)
  kept := fun v => match v with | .string _ => true | _ => false
  same_iff := fun {v a} h => by
    split at h
    · have hname := List.find?_some h
      rw [decide_eq_true_eq] at hname
      simp [Same, hname]
    · simp [Same, Value.normal]
    · cases h

end Codec

/-! ## Fields -/

/-- A field of a record: how an entry that may be absent is read, what is written, and
what a sequence without an item for the field reads as. -/
structure Field (α : Type) where
  name : String
  read : Option Value → Option α
  write : α → Option Value
  missing : Option α
  kept : Option Value → Bool
  same_iff : ∀ {v a}, read v = some a → (SameEntry (write a) v ↔ kept v = true)

namespace Field

variable {α : Type}

theorem sameEntry_some {a b : Value} : SameEntry (some a) (some b) ↔ Same a b := by
  simp [SameEntry, Same]

/-- A field without attributes. -/
def required (name : String) (c : Codec α) : Field α where
  name := name
  read := fun v => v.bind c.read
  write := fun a => some (c.write a)
  missing := none
  kept := fun v => v.any c.kept
  same_iff := fun {v a} h => by
    cases v with
    | none => cases h
    | some v => rw [sameEntry_some, c.same_iff h, Option.any_some]

/-- An `Option` without `skip_serializing_if`: absent and `null` are nothing, and
nothing is written as `null`. -/
def optional (name : String) (c : Codec α) : Field (Option α) where
  name := name
  read := fun v => match v with
    | none | some .null => some none
    | some v => (c.read v).map some
  write := fun a => some ((a.map c.write).getD .null)
  missing := none
  kept := fun v => match v with
    | none => false
    | some .null => true
    | some v => c.kept v
  same_iff := fun {v a} h => by
    split at h
    · obtain rfl := Option.some.inj h
      simp [SameEntry]
    · obtain rfl := Option.some.inj h
      simp [SameEntry]
    · rename_i v hnull
      obtain ⟨b, hb, rfl⟩ := Option.map_eq_some_iff.mp h
      rw [Option.map_some, Option.getD_some, sameEntry_some, c.same_iff hb]

/-- A field with `default`, whose default value is `d`. -/
def orElse (name : String) (c : Codec α) (d : α) : Field α where
  name := name
  read := fun v => match v with
    | none => some d
    | some v => c.read v
  write := fun a => some (c.write a)
  missing := some d
  kept := fun v => v.any c.kept
  same_iff := fun {v a} h => by
    cases v with
    | none => simp [SameEntry]
    | some v => rw [sameEntry_some, c.same_iff h, Option.any_some]

/-- A `Vec` with `default`. -/
def defaulted (name : String) (c : Codec α) : Field (List α) where
  name := name
  read := fun v => match v with
    | none => some []
    | some v => c.vec.read v
  write := fun a => some (c.vec.write a)
  missing := some []
  kept := fun v => v.any c.vec.kept
  same_iff := fun {v a} h => by
    cases v with
    | none => simp [SameEntry]
    | some v => rw [sameEntry_some, c.vec.same_iff h, Option.any_some]

/-- An `Option` with `default` that is skipped when it is nothing. -/
def skipNone (name : String) (c : Codec α) : Field (Option α) where
  name := name
  read := fun v => match v with
    | none | some .null => some none
    | some v => (c.read v).map some
  write := fun a => a.map c.write
  missing := some none
  kept := fun v => match v with
    | none => true
    | some .null => false
    | some v => c.kept v
  same_iff := fun {v a} h => by
    split at h
    · obtain rfl := Option.some.inj h
      simp [SameEntry]
    · obtain rfl := Option.some.inj h
      simp [SameEntry]
    · rename_i v hnull
      obtain ⟨b, hb, rfl⟩ := Option.map_eq_some_iff.mp h
      rw [Option.map_some, sameEntry_some, c.same_iff hb]

/-- A `Vec` with `default` that is skipped when it is empty. -/
def skipEmpty (name : String) (c : Codec α) : Field (List α) where
  name := name
  read := fun v => match v with
    | none => some []
    | some v => c.vec.read v
  write := fun a => if a.isEmpty then none else some (c.vec.write a)
  missing := some []
  kept := fun v => match v with
    | none => true
    | some (.array []) => false
    | some v => c.vec.kept v
  same_iff := fun {v a} h => by
    cases v with
    | none =>
        obtain rfl := Option.some.inj h
        simp [SameEntry]
    | some v =>
        have hsame := c.vec.same_iff h
        cases a with
        | nil =>
            have hempty : v = .array [] := c.vec_read_nil h
            subst hempty
            simp [SameEntry]
        | cons b bs =>
            have hne : v ≠ .array [] := by
              intro heq
              rw [heq] at h
              cases h
            rw [List.isEmpty_cons, if_neg Bool.false_ne_true, sameEntry_some, hsame]
            split
            · contradiction
            · rename_i heq
              exact absurd (Option.some.inj heq) hne
            · rename_i heq
              rw [Option.some.inj heq]

end Field

/-- Fields in the order of their declaration. -/
structure Fields (α : Type) where
  keys : List String
  read : BTreeMap Value → Option α
  /-- The fields from the front of a sequence, and what is left of it. -/
  readSeq : List Value → Option (α × List Value)
  named : α → List (String × Option Value)
  kept : BTreeMap Value → Bool
  named_keys : ∀ a, (named a).map Prod.fst = keys
  same_iff : ∀ {m a}, read m = some a →
    ((∀ p ∈ named a, SameEntry p.2 m[p.1]?) ↔ kept m = true)

namespace Fields

variable {α β : Type}

def done : Fields Unit where
  keys := []
  read := fun _ => some ()
  readSeq := fun items => some ((), items)
  named := fun _ => []
  kept := fun _ => true
  named_keys := fun _ => rfl
  same_iff := fun _ => by simp

/-- One more field in front. -/
def field (f : Field α) (fs : Fields β) : Fields (α × β) where
  keys := f.name :: fs.keys
  read := fun m =>
    match f.read m[f.name]?, fs.read m with
    | some a, some b => some (a, b)
    | _, _ => none
  readSeq := fun items =>
    match items with
    | [] => match f.missing, fs.readSeq [] with
      | some a, some (b, rest) => some ((a, b), rest)
      | _, _ => none
    | v :: vs => match f.read (some v), fs.readSeq vs with
      | some a, some (b, rest) => some ((a, b), rest)
      | _, _ => none
  named := fun (a, b) => (f.name, f.write a) :: fs.named b
  kept := fun m => f.kept m[f.name]? && fs.kept m
  named_keys := fun (a, b) => by rw [List.map_cons, fs.named_keys]
  same_iff := fun {m ab} h => by
    split at h
    case h_1 a b ha hb =>
      obtain rfl := Option.some.inj h
      rw [List.forall_mem_cons, f.same_iff ha, fs.same_iff hb, Bool.and_eq_true]
    case h_2 => cases h

theorem required_read {name : String} {c : Codec α} {fields : Fields β}
    {m : BTreeMap Value} : (field (.required name c) fields).read m =
      match (Field.required name c).read m[name]?, fields.read m with
      | some a, some b => some (a, b)
      | _, _ => none :=
  rfl

end Fields

/-- No key of the record is repeated. -/
def once (keys : List String) (raw : List (String × Value)) : Bool :=
  keys.all fun k => (raw.filter fun entry => entry.1 = k).length ≤ 1

/-- A struct without a flattened rest.  Other keys are dropped, and a sequence is read
by position. -/
def Codec.closed {α β : Type} (fields : Fields β) (make : β → α) (split : α → β)
    (hsplit : ∀ b, split (make b) = b) (hnodup : fields.keys.Nodup) : Codec α where
  read := fun v => match v with
    | .object raw =>
        if once fields.keys raw then (fields.read (asMap raw)).map make else none
    | .array items => match fields.readSeq items with
      | some (b, []) => some (make b)
      | _ => none
    | _ => none
  write := fun a => .ofRecord (fields.named (split a)) ∅
  kept := fun v => match v with
    | .object raw =>
        (BTreeMap.without (asMap raw) fields.keys).isEmpty && fields.kept (asMap raw)
    | _ => false
  same_iff := fun {v a} h => by
    split at h
    · rename_i raw
      split at h
      case isTrue =>
        obtain ⟨b, hb, rfl⟩ := Option.map_eq_some_iff.mp h
        have hkeys := fields.named_keys b
        rw [hsplit, same_ofRecord_empty (by rw [hkeys]; exact hnodup), hkeys,
          fields.same_iff hb, Bool.and_eq_true]
        exact and_comm
      case isFalse => cases h
    · simp [Same, Value.ofRecord, Value.normal]
    · cases h

/-! ## Records with a flattened rest -/

structure Record (α : Type) where
  keys : List String
  read : BTreeMap Value → Option α
  named : α → List (String × Option Value)
  rest : α → BTreeMap Value
  kept : BTreeMap Value → Bool
  keys_nodup : keys.Nodup
  named_keys : ∀ a, (named a).map Prod.fst = keys
  rest_eq : ∀ {m a}, read m = some a → rest a = BTreeMap.without m keys
  same_iff : ∀ {m a}, read m = some a →
    ((∀ p ∈ named a, SameEntry p.2 m[p.1]?) ↔ kept m = true)

namespace Record

variable {α β : Type}

/-- The named fields, and the rest. -/
def of (fields : Fields β) (make : β → BTreeMap Value → α) (split : α → β × BTreeMap Value)
    (hsplit : ∀ b rest, split (make b rest) = (b, rest)) (hnodup : fields.keys.Nodup) :
    Record α where
  keys := fields.keys
  read := fun m => (fields.read m).map fun b => make b (BTreeMap.without m fields.keys)
  named := fun a => fields.named (split a).1
  rest := fun a => (split a).2
  kept := fields.kept
  keys_nodup := hnodup
  named_keys := fun a => fields.named_keys _
  rest_eq := fun {m a} h => by
    obtain ⟨b, -, rfl⟩ := Option.map_eq_some_iff.mp h
    rw [hsplit]
  same_iff := fun {m a} h => by
    obtain ⟨b, hb, rfl⟩ := Option.map_eq_some_iff.mp h
    rw [hsplit]
    exact fields.same_iff hb

/-- The record on its own. -/
def codec (r : Record α) : Codec α where
  read := fun v => match v with
    | .object raw => if once r.keys raw then r.read (asMap raw) else none
    | _ => none
  write := fun a => .ofRecord (r.named a) (r.rest a)
  kept := fun v => match v with
    | .object raw => r.kept (asMap raw)
    | _ => false
  same_iff := fun {v a} h => by
    split at h
    · split at h
      case isTrue =>
        have hkeys := r.named_keys a
        rw [same_ofRecord_without (by rw [hkeys]; exact r.keys_nodup)
          (by rw [hkeys]; exact r.rest_eq h), r.same_iff h]
      case isFalse => cases h
    · cases h

end Record

/-! ## Enums with a tag beside the content -/

/-- `()` as the buffer reads it by reference. -/
def isUnit (payload : Value) : Bool := payload = .null

/-- `()` as the buffer reads it by value: an empty object is one too. -/
def isUnitOrEmpty (payload : Value) : Bool := payload = .null || payload = .object []

/-- A variant of an enum that is written as its name and its content. -/
structure Arm (ε : Type) (name : ε → String) (content : ε → Value) where
  tag : String
  read : Value → Option ε
  kept : Value → Bool
  same_iff : ∀ {v e}, read v = some e →
    name e = tag ∧ (Same (content e) v ↔ kept v = true)

/-- The arm of a variant. -/
def Arm.of {α ε : Type} {name : ε → String} {content : ε → Value} (tag : String)
    (c : Codec α) (make : α → ε)
    (h : ∀ a, name (make a) = tag ∧ content (make a) = c.write a) : Arm ε name content where
  tag := tag
  read := fun v => (c.read v).map make
  kept := c.kept
  same_iff := fun {v e} hread => by
    obtain ⟨a, ha, rfl⟩ := Option.map_eq_some_iff.mp hread
    rw [(h a).1, (h a).2, c.same_iff ha]
    exact ⟨rfl, Iff.rfl⟩

namespace Codec

variable {ε : Type} {name : ε → String} {content : ε → Value}

/-- The name of a variant, as the tag. -/
def armTag (arms : List (Arm ε name content)) : Codec (Arm ε name content) :=
  unit isUnit arms Arm.tag

def readArm (arms : List (Arm ε name content)) (t c : Value) : Option ε :=
  ((armTag arms).read t).bind fun arm => arm.read c

def keptArm (arms : List (Arm ε name content)) (t c : Value) : Bool :=
  (armTag arms).kept t && ((armTag arms).read t).any fun arm => arm.kept c

theorem readArm_same {arms : List (Arm ε name content)} {t c : Value} {e : ε}
    (h : readArm arms t c = some e) :
    Same (.string (name e)) t ∧ Same (content e) c ↔ keptArm arms t c = true := by
  obtain ⟨arm, harm, hread⟩ := Option.bind_eq_some_iff.mp h
  have htag : Same (.string arm.tag) t ↔ (armTag arms).kept t = true :=
    (armTag arms).same_iff harm
  rw [keptArm, harm, Option.any_some, Bool.and_eq_true, (arm.same_iff hread).1, htag,
    (arm.same_iff hread).2]

/-- An enum with `tag` and `content`.  Other keys are dropped, and a pair is read by
position. -/
def adjacent (tag value : String) (hne : tag ≠ value) (name : ε → String)
    (content : ε → Value) (arms : List (Arm ε name content)) : Codec ε where
  read := fun v => match v with
    | .object raw =>
        if once [tag, value] raw then
          match (asMap raw)[tag]?, (asMap raw)[value]? with
          | some t, some c => readArm arms t c
          | _, _ => none
        else none
    | .array [t, c] => readArm arms t c
    | _ => none
  write := fun e => .ofRecord [(tag, some (.string (name e))), (value, some (content e))] ∅
  kept := fun v => match v with
    | .object raw =>
        (BTreeMap.without (asMap raw) [tag, value]).isEmpty &&
          match (asMap raw)[tag]?, (asMap raw)[value]? with
          | some t, some c => keptArm arms t c
          | _, _ => false
    | _ => false
  same_iff := fun {v e} h => by
    split at h
    · rename_i raw
      split at h
      case isTrue =>
        split at h
        case h_1 t c ht hc =>
          rw [same_ofRecord_empty (by simpa using hne), Bool.and_eq_true]
          simp only [List.forall_mem_cons, List.not_mem_nil, false_implies, implies_true,
            and_true, List.map_cons, List.map_nil, ht, hc, Field.sameEntry_some,
            readArm_same h]
          exact and_comm
        case h_2 => cases h
      case isFalse => cases h
    · simp [Same, Value.ofRecord, Value.normal]
    · cases h

end Codec

/-! ## Enums with a tag among the fields -/

/-- How a variant is written: its name, its named fields and its rest. -/
structure Written where
  tag : String
  named : List (String × Option Value)
  rest : BTreeMap Value

/-- A variant of an enum whose tag stands among its fields. -/
structure Variant (ε : Type) (written : ε → Written) where
  tag : String
  keys : List String
  keys_nodup : keys.Nodup
  read : BTreeMap Value → Option ε
  kept : BTreeMap Value → Bool
  tag_eq : ∀ {m e}, read m = some e → (written e).tag = tag
  named_keys : ∀ {m e}, read m = some e → (written e).named.map Prod.fst = keys
  rest_eq : ∀ {m e}, read m = some e → (written e).rest = BTreeMap.without m keys
  same_iff : ∀ {m e}, read m = some e →
    ((∀ p ∈ (written e).named, SameEntry p.2 m[p.1]?) ↔ kept m = true)

/-- The variant of a record. -/
def Variant.of {α ε : Type} {written : ε → Written} (tag : String) (r : Record α)
    (make : α → ε) (h : ∀ a, written (make a) = ⟨tag, r.named a, r.rest a⟩) :
    Variant ε written where
  tag := tag
  keys := r.keys
  keys_nodup := r.keys_nodup
  read := fun m => (r.read m).map make
  kept := r.kept
  tag_eq := fun {m e} hread => by
    obtain ⟨a, -, rfl⟩ := Option.map_eq_some_iff.mp hread
    rw [h]
  named_keys := fun {m e} hread => by
    obtain ⟨a, -, rfl⟩ := Option.map_eq_some_iff.mp hread
    rw [h]
    exact r.named_keys a
  rest_eq := fun {m e} hread => by
    obtain ⟨a, ha, rfl⟩ := Option.map_eq_some_iff.mp hread
    rw [h]
    exact r.rest_eq ha
  same_iff := fun {m e} hread => by
    obtain ⟨a, ha, rfl⟩ := Option.map_eq_some_iff.mp hread
    rw [h]
    exact r.same_iff ha

namespace Codec

variable {α ε : Type} {written : ε → Written}

/-- The variant that a tag selects: by name, or from the buffer by index. -/
def pick (variants : List (Variant ε written)) : Value → Option (Variant ε written)
  | .string s => variants.find? fun variant => variant.tag = s
  | .number (.unsigned n) => variants[n.toNat]?
  | _ => none

/-- The tag is a name. -/
def isName : Value → Bool
  | .string _ => true
  | _ => false

theorem pick_same {variants : List (Variant ε written)} {t : Value}
    {variant : Variant ε written} (h : pick variants t = some variant) :
    Same (.string variant.tag) t ↔ isName t = true := by
  unfold pick at h
  split at h
  · have hname := List.find?_some h
    rw [decide_eq_true_eq] at hname
    simp [Same, isName, hname]
  · simp [Same, isName, Value.normal]
  · cases h

theorem pick_mem {variants : List (Variant ε written)} {t : Value}
    {variant : Variant ε written} (h : pick variants t = some variant) :
    variant ∈ variants := by
  unfold pick at h
  split at h
  · exact List.mem_of_find?_eq_some h
  · exact List.mem_of_getElem? h
  · cases h

/-- An enum with `tag`.  The fields of a variant are read without the tag. -/
def internal (key : String) (variants : List (Variant ε written))
    (hkey : ∀ variant ∈ variants, key ∉ variant.keys) : Codec ε where
  read := fun v => match v with
    | .object raw =>
        if once [key] raw then
          match (asMap raw)[key]?.bind (pick variants) with
          | some variant =>
              if once variant.keys raw then variant.read ((asMap raw).erase key) else none
          | none => none
        else none
    | _ => none
  write := fun e =>
    .ofRecord ((key, some (.string (written e).tag)) :: (written e).named) (written e).rest
  kept := fun v => match v with
    | .object raw =>
        (asMap raw)[key]?.any isName &&
          ((asMap raw)[key]?.bind (pick variants)).any fun variant =>
            variant.kept ((asMap raw).erase key)
    | _ => false
  same_iff := fun {v e} h => by
    split at h
    · rename_i raw
      split at h
      case isTrue =>
        split at h
        case h_1 variant hvariant =>
          split at h
          case isTrue =>
            obtain ⟨t, ht, hpick⟩ := Option.bind_eq_some_iff.mp hvariant
            have hnotin := hkey variant (pick_mem hpick)
            have hkeys := variant.named_keys h
            have hcons : (((key, some (.string (written e).tag)) :: (written e).named).map
                Prod.fst) = key :: variant.keys := by rw [List.map_cons, hkeys]
            rw [same_ofRecord_without
              (by rw [hcons]; exact List.nodup_cons.mpr ⟨hnotin, variant.keys_nodup⟩)
              (by rw [hcons]; exact variant.rest_eq h)]
            have hnamed : (∀ p ∈ (written e).named, SameEntry p.2 (asMap raw)[p.1]?) ↔
                variant.kept ((asMap raw).erase key) = true := by
              rw [← variant.same_iff h]
              refine forall₂_congr fun p hp => ?_
              have hne : p.1 ≠ key := fun heq => by
                have hmem : p.1 ∈ variant.keys := hkeys ▸ List.mem_map_of_mem hp
                exact hnotin (heq ▸ hmem)
              rw [BTreeMap.get_erase, if_neg hne]
            rw [List.forall_mem_cons, hnamed, ht, Field.sameEntry_some, variant.tag_eq h,
              pick_same hpick, Option.any_some, Option.bind_some, hpick, Option.any_some,
              Bool.and_eq_true]
          case isFalse => cases h
        case h_2 => cases h
      case isFalse => cases h
    · cases h

/-- An enum whose last variant is `untagged` and takes any value. -/
def orUnknown {β : Type} (c : Codec α) (known : α → β) (unknown : Value → β) (write : β → Value)
    (hknown : ∀ a, write (known a) = c.write a) (hunknown : ∀ v, write (unknown v) = v) :
    Codec β where
  read := fun v => match c.read v with
    | some a => some (known a)
    | none => some (unknown v)
  write := write
  kept := fun v => (c.read v).isNone || c.kept v
  same_iff := fun {v b} h => by
    split at h
    case h_1 a ha =>
      obtain rfl := Option.some.inj h
      rw [hknown, c.same_iff ha, ha]
      simp
    case h_2 hnone =>
      obtain rfl := Option.some.inj h
      rw [hunknown, hnone]
      simp [Same]

end Codec

end Serde

end FrametimeCfg.Domain
