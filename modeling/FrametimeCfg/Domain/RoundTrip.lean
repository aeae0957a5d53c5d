import FrametimeCfg.Domain.Serde

/-!
# Codecs that read what they wrote

A codec of `Serde` says when a document that was read is written again with its content.
The other direction is a property of some codecs: what was written is read as it was.  It
is composed here from the fields of a struct, and two codecs are added: integers of 64
bits with a sign, and maps.
-/

namespace FrametimeCfg.Domain.Serde

open FrametimeCfg.Lib.OrderedMap

variable {α β : Type}

/-! ## Codecs -/

namespace Codec

private theorem i64_read {v : Value} {a : Int64}
    (h : (match v with
      | .number (.unsigned n) =>
          if n.toNat < 9223372036854775808 then some (Int64.ofInt n.toNat) else none
      | .number (.signed n) =>
          if -9223372036854775808 ≤ n ∧ n < 0 then some (Int64.ofInt n) else none
      | _ => none) = some a) :
    (if 0 ≤ a.toInt then Value.ofU64 (UInt64.ofNat a.toInt.toNat)
      else .number (.signed a.toInt)) = v := by
  split at h
  · split at h
    case isTrue hlt =>
      obtain rfl := Option.some.inj h
      rename_i n
      have hint : (Int64.ofInt n.toNat).toInt = n.toNat :=
        Int64.toInt_ofInt_of_le (by omega) (by omega)
      rw [hint, if_pos (by omega), Int.toNat_natCast, UInt64.ofNat_toNat]
      rfl
    case isFalse => cases h
  · split at h
    case isTrue hlt =>
      obtain rfl := Option.some.inj h
      rename_i n
      have hint : (Int64.ofInt n).toInt = n :=
        Int64.toInt_ofInt_of_le (by omega) (by omega)
      rw [hint, if_neg (by omega)]
    case isFalse => cases h
  · cases h

/-- An `i64`; numbers from zero on are written as unsigned ones. -/
def i64 : Codec Int64 :=
  exact
    (fun v => match v with
      | .number (.unsigned n) =>
          if n.toNat < 9223372036854775808 then some (Int64.ofInt n.toNat) else none
      | .number (.signed n) =>
          if -9223372036854775808 ≤ n ∧ n < 0 then some (Int64.ofInt n) else none
      | _ => none)
    (fun a => if 0 ≤ a.toInt then .ofU64 (UInt64.ofNat a.toInt.toNat)
      else .number (.signed a.toInt))
    i64_read

/-- The entries of an object, when each decodes. -/
def readEntries (c : Codec α) : List (String × Value) → Option (List (String × α))
  | [] => some []
  | (k, v) :: rest =>
      match c.read v, readEntries c rest with
      | some a, some as => some ((k, a) :: as)
      | _, _ => none

theorem readEntries_append (c : Codec α) {xs ys : List (String × Value)} :
    c.readEntries (xs ++ ys) =
      (c.readEntries xs).bind fun as => (c.readEntries ys).map fun bs => as ++ bs := by
  induction xs with
  | nil => simp [readEntries]
  | cons x xs ih =>
      obtain ⟨k, v⟩ := x
      rw [List.cons_append, readEntries, readEntries, ih]
      cases c.read v with
      | none => rfl
      | some a =>
          cases c.readEntries xs with
          | none => rfl
          | some as => cases c.readEntries ys <;> rfl

/-- The map has at each key what the last entry for it decodes to. -/
theorem get_readEntries (c : Codec α) {raw : List (String × Value)}
    {as : List (String × α)} (h : c.readEntries raw = some as) (k : String) :
    (asMap raw)[k]?.map c.read = (Std.ExtTreeMap.ofList as : BTreeMap α)[k]?.map some := by
  unfold asMap
  induction raw using List.reverseRecOn generalizing as with
  | nil =>
      obtain rfl := Option.some.inj h
      simp
  | append_singleton raw x ih =>
      obtain ⟨j, v⟩ := x
      rw [readEntries_append] at h
      obtain ⟨as', has, h⟩ := Option.bind_eq_some_iff.mp h
      obtain ⟨bs, hbs, rfl⟩ := Option.map_eq_some_iff.mp h
      rw [readEntries, readEntries] at hbs
      cases hv : c.read v with
      | none => rw [hv] at hbs; cases hbs
      | some a =>
          rw [hv] at hbs
          obtain rfl := Option.some.inj hbs
          have hrest := ih has
          simp only [Std.ExtTreeMap.ofList_eq_insertMany_empty,
            Std.ExtTreeMap.insertMany_append,
            Std.ExtTreeMap.insertMany_list_singleton] at hrest ⊢
          rw [BTreeMap.get_insert, BTreeMap.get_insert]
          by_cases hk : k = j
          · rw [if_pos hk, if_pos hk, Option.map_some, Option.map_some, hv]
          · rw [if_neg hk, if_neg hk, hrest]

/-- The entries of a map, written. -/
def writeEntries (c : Codec α) (m : BTreeMap α) : List (String × Value) :=
  m.toList.map fun (k, a) => (k, c.write a)

theorem get_writeEntries (c : Codec α) (m : BTreeMap α) (k : String) :
    (asMap (c.writeEntries m))[k]? = m[k]?.map c.write := by
  have hkeys : (c.writeEntries m).map Prod.fst = m.toList.map Prod.fst := by
    rw [writeEntries, List.map_map]
    rfl
  cases hget : m[k]? with
  | none =>
      refine Std.ExtTreeMap.getElem?_ofList_of_contains_eq_false ?_
      rw [hkeys, Std.ExtTreeMap.map_fst_toList_eq_keys, Bool.eq_false_iff, ne_eq,
        List.contains_iff_mem, Std.ExtTreeMap.mem_keys, Std.ExtTreeMap.mem_iff_isSome_getElem?,
        hget]
      simp
  | some a =>
      have hmem : (k, a) ∈ m.toList := Std.ExtTreeMap.mem_toList_iff_getElem?_eq_some.mpr hget
      refine Std.ExtTreeMap.getElem?_ofList_of_mem (k := k) (by simp) ?_
        (List.mem_map.mpr ⟨(k, a), hmem, rfl⟩)
      have hdistinct := m.distinct_keys_toList
      rw [writeEntries, List.pairwise_map]
      exact hdistinct

/-- `BTreeMap<String, T>`.  Of two entries for a key the last one counts. -/
def map (c : Codec α) : Codec (BTreeMap α) where
  read := fun v => match v with
    | .object raw => (c.readEntries raw).map fun as => Std.ExtTreeMap.ofList as
    | _ => none
  write := fun m => .object (c.writeEntries m)
  kept := fun v => match v with
    | .object raw => (asMap raw).toList.all fun (_, v) => c.kept v
    | _ => false
  same_iff := fun {v m} h => by
    split at h
    case h_2 => cases h
    case h_1 raw =>
      obtain ⟨as, has, rfl⟩ := Option.map_eq_some_iff.mp h
      have hget := c.get_readEntries has
      rw [same_object, List.all_eq_true]
      constructor
      · intro hsame p hp
        have hentry := Std.ExtTreeMap.mem_toList_iff_getElem?_eq_some.mp hp
        have hat := hsame p.1
        have hread := hget p.1
        rw [get_writeEntries, hentry] at hat
        rw [hentry, Option.map_some] at hread
        obtain ⟨a, ha, hread⟩ := Option.map_eq_some_iff.mp hread.symm
        rw [ha, Option.map_some, Field.sameEntry_some] at hat
        exact (c.same_iff hread.symm).mp hat
      · intro hkept k
        have hread := hget k
        rw [get_writeEntries]
        cases hentry : (asMap raw)[k]? with
        | none =>
            rw [hentry, Option.map_none] at hread
            rw [Option.map_eq_none_iff.mp hread.symm]
            rfl
        | some v =>
            rw [hentry, Option.map_some] at hread
            obtain ⟨a, ha, hread⟩ := Option.map_eq_some_iff.mp hread.symm
            have hmem : (k, v) ∈ (asMap raw).toList :=
              Std.ExtTreeMap.mem_toList_iff_getElem?_eq_some.mpr hentry
            rw [ha, Option.map_some, Field.sameEntry_some]
            exact (c.same_iff hread.symm).mpr (hkept _ hmem)

/-! ## Reading what was written -/

/-- What was written is read as it was. -/
def RoundTrip (c : Codec α) : Prop := ∀ a, c.read (c.write a) = some a

theorem string_roundTrip : string.RoundTrip := fun _ => rfl

theorem bool_roundTrip : bool.RoundTrip := fun _ => rfl

theorem i64_roundTrip : i64.RoundTrip := by
  intro a
  have hlow := a.le_toInt
  have hhigh := a.toInt_lt
  show (match (if 0 ≤ a.toInt then Value.ofU64 (UInt64.ofNat a.toInt.toNat)
      else .number (.signed a.toInt)) with
    | .number (.unsigned n) =>
        if n.toNat < 9223372036854775808 then some (Int64.ofInt n.toNat) else none
    | .number (.signed n) =>
        if -9223372036854775808 ≤ n ∧ n < 0 then some (Int64.ofInt n) else none
    | _ => none) = some a
  by_cases h : 0 ≤ a.toInt
  · have hsize : a.toInt.toNat < UInt64.size := by
      show a.toInt.toNat < 18446744073709551616
      omega
    have hnat : (UInt64.ofNat a.toInt.toNat).toNat = a.toInt.toNat :=
      UInt64.toNat_ofNat_of_lt' hsize
    have hbound : a.toInt.toNat < 9223372036854775808 := by omega
    rw [if_pos h]
    show (if (UInt64.ofNat a.toInt.toNat).toNat < _ then
      some (Int64.ofInt (UInt64.ofNat a.toInt.toNat).toNat) else none) = some a
    rw [hnat, if_pos hbound, Int.toNat_of_nonneg h, Int64.ofInt_toInt]
  · have hbound : -9223372036854775808 ≤ a.toInt ∧ a.toInt < 0 := by omega
    rw [if_neg h]
    show (if _ then some (Int64.ofInt a.toInt) else none) = some a
    rw [if_pos hbound, Int64.ofInt_toInt]

/-- The name of a variant is read as the variant. -/
theorem unit_roundTrip {payload : Value → Bool} {all : List α} {name : α → String}
    (hall : ∀ a, a ∈ all) (hinj : ∀ a b, name a = name b → a = b) :
    (unit payload all name).RoundTrip := by
  intro a
  show all.find? (fun b => name b = name a) = some a
  cases hfind : all.find? (fun b => name b = name a) with
  | none =>
      have hnone := List.find?_eq_none.mp hfind a (hall a)
      simp at hnone
  | some b =>
      have hname := List.find?_some hfind
      rw [hinj b a (of_decide_eq_true hname)]

theorem readEntries_write (c : Codec α) (h : c.RoundTrip) (entries : List (String × α)) :
    c.readEntries (entries.map fun (k, a) => (k, c.write a)) = some entries := by
  induction entries with
  | nil => rfl
  | cons x entries ih =>
      obtain ⟨k, a⟩ := x
      rw [List.map_cons, readEntries, h a, ih]

theorem map_roundTrip {c : Codec α} (h : c.RoundTrip) : c.map.RoundTrip := by
  intro m
  show (c.readEntries (c.writeEntries m)).map _ = some m
  rw [writeEntries, readEntries_write c h, Option.map_some, BTreeMap.ofList_toList]

end Codec

/-! ## Structs -/

/-- The fields are read from entries that have what was written. -/
def Fields.RoundTrip (fields : Fields β) : Prop :=
  ∀ b (m : BTreeMap Value), (∀ p ∈ fields.named b, m[p.1]? = p.2) → fields.read m = some b

theorem Fields.done_roundTrip : Fields.done.RoundTrip := fun _ _ _ => rfl

theorem Fields.required_roundTrip {name : String} {c : Codec α} {fields : Fields β}
    (hc : c.RoundTrip) (h : fields.RoundTrip) :
    (Fields.field (.required name c) fields).RoundTrip := by
  intro ab m hentries
  obtain ⟨a, b⟩ := ab
  have hname : m[name]? = some (c.write a) :=
    hentries (name, some (c.write a)) List.mem_cons_self
  have hrest : fields.read m = some b :=
    h b m fun p hp => hentries p (List.mem_cons_of_mem _ hp)
  have hfirst : (Field.required name c).read m[name]? = some a := by
    rw [hname]
    exact hc a
  rw [required_read, hfirst, hrest]

/-- A key that is listed once is listed at most once among the present entries. -/
theorem once_present {named : List (String × Option Value)}
    (hnodup : (named.map Prod.fst).Nodup) (keys : List String) :
    once keys (Value.present named) = true := by
  have hpresent : ((Value.present named).map Prod.fst).Nodup :=
    hnodup.sublist (Value.keys_present_sublist named)
  rw [once, List.all_eq_true]
  intro k _
  rw [decide_eq_true_eq]
  have hcount := List.nodup_iff_count.mp hpresent k
  rwa [List.count_eq_length_filter, List.filter_map, List.length_map] at hcount

theorem Codec.closed_read {fields : Fields β} {make : β → α} {split : α → β}
    {hsplit : ∀ b, split (make b) = b} {hnodup : fields.keys.Nodup} {v : Value} :
    (Codec.closed fields make split hsplit hnodup).read v = match v with
      | .object raw => if once fields.keys raw then (fields.read (asMap raw)).map make else none
      | .array items => match fields.readSeq items with
        | some (b, []) => some (make b)
        | _ => none
      | _ => none :=
  rfl

/-- A struct without a rest is read as it was written. -/
theorem Codec.closed_roundTrip {fields : Fields β} {make : β → α} {split : α → β}
    {hsplit : ∀ b, split (make b) = b} {hnodup : fields.keys.Nodup}
    (hmake : ∀ a, make (split a) = a) (h : fields.RoundTrip) :
    (Codec.closed fields make split hsplit hnodup).RoundTrip := by
  intro a
  have hkeys : ((fields.named (split a)).map Prod.fst).Nodup := by
    rw [fields.named_keys]
    exact hnodup
  have hraw : Value.ofRecord (fields.named (split a)) ∅ =
      .object (Value.present (fields.named (split a))) := by
    show Value.object (_ ++ (∅ : BTreeMap Value).toList) = _
    rw [show (∅ : BTreeMap Value).toList = [] from rfl, List.append_nil]
    rfl
  have hread : fields.read (asMap (Value.present (fields.named (split a)))) =
      some (split a) := by
    apply h
    intro p hp
    rw [asMap, Value.get_ofList_present hkeys, Value.entry, Value.lookup_of_mem hkeys hp]
    rfl
  have hwrite : (Codec.closed fields make split hsplit hnodup).write a =
      .object (Value.present (fields.named (split a))) := hraw
  rw [closed_read, hwrite]
  show (if once fields.keys _ then _ else _) = _
  rw [if_pos (once_present hkeys fields.keys), hread, Option.map_some, hmake]

end FrametimeCfg.Domain.Serde
