import FrametimeCfg.Lib.Wide
import Mathlib.Data.List.Forall2

/-!
# Fixed layouts

A record of a fixed layout is written field by field into a buffer of zeros and read back
from the places of the fields.  Where the places tile the buffer, what is written is the
fields one after the other (`written_eq`), what is read at the places are these fields
(`map_fieldAt_flatten`), and no byte of a buffer is outside the places
(`flatten_map_fieldAt`).

A field type carries its two conversions with the proofs that they are inverse to each other.
-/

namespace FrametimeCfg.Lib.Layout

open FrametimeCfg.Lib.Wide

/-! ## Places -/

/-- The place of a field in a buffer. -/
structure Place where
  offset : Nat
  width : Nat
  deriving DecidableEq, Repr

/-- The bytes at a place. -/
def fieldAt (bytes : List UInt8) (place : Place) : List UInt8 :=
  (bytes.drop place.offset).take place.width

/-- The buffer with other bytes from an offset on. -/
def putAt (bytes : List UInt8) (offset : Nat) (data : List UInt8) : List UInt8 :=
  bytes.take offset ++ (data ++ bytes.drop (offset + data.length))

/-- The places lie one after the other, from an offset to another, without a gap. -/
def Tiles : Nat → List Place → Nat → Prop
  | start, [], stop => start = stop
  | start, place :: places, stop =>
      place.offset = start ∧ Tiles (start + place.width) places stop

/-- The fields have the widths of their places. -/
abbrev Fitting (places : List Place) (fields : List (List UInt8)) : Prop :=
  List.Forall₂ (fun place field => field.length = place.width) places fields

instance decidableTiles : (start : Nat) → (places : List Place) → (stop : Nat) →
    Decidable (Tiles start places stop)
  | start, [], stop => inferInstanceAs (Decidable (start = stop))
  | start, place :: places, stop =>
      have := decidableTiles (start + place.width) places stop
      inferInstanceAs
        (Decidable (place.offset = start ∧ Tiles (start + place.width) places stop))

theorem length_fieldAt {bytes : List UInt8} {place : Place}
    (h : place.offset + place.width ≤ bytes.length) :
    (fieldAt bytes place).length = place.width := by
  rw [fieldAt, List.length_take, List.length_drop]
  omega

/-- The places end where the last of them does. -/
theorem Tiles.le {start stop : Nat} {places : List Place} (h : Tiles start places stop) :
    start ≤ stop := by
  induction places generalizing start with
  | nil => exact Nat.le_of_eq h
  | cons place places ih => exact Nat.le_trans (Nat.le_add_right _ _) (ih h.2)

/-- **No byte is left out**: the fields of a buffer are the buffer. -/
theorem flatten_map_fieldAt {bytes : List UInt8} {start : Nat} {places : List Place}
    (h : Tiles start places bytes.length) :
    (places.map (fieldAt bytes)).flatten = bytes.drop start := by
  induction places generalizing start with
  | nil => exact (List.drop_eq_nil_of_le (Nat.le_of_eq (Eq.symm h))).symm
  | cons place places ih =>
      obtain ⟨hoffset, hrest⟩ := h
      rw [List.map_cons, List.flatten_cons, ih hrest, fieldAt, hoffset, ← List.drop_drop,
        List.take_append_drop]

/-- Every field of a tiled buffer has the width of its place. -/
theorem fitting_map_fieldAt {bytes : List UInt8} {start : Nat} {places : List Place}
    (h : Tiles start places bytes.length) : Fitting places (places.map (fieldAt bytes)) := by
  induction places generalizing start with
  | nil => exact .nil
  | cons place places ih =>
      obtain ⟨hoffset, hrest⟩ := h
      refine .cons (length_fieldAt ?_) (ih hrest)
      rw [hoffset]
      exact hrest.le

/-- **The fields are found again** at their places. -/
theorem map_fieldAt_flatten {before : List UInt8} {places : List Place}
    {fields : List (List UInt8)} {stop : Nat} (h : Tiles before.length places stop)
    (hfit : Fitting places fields) :
    places.map (fieldAt (before ++ fields.flatten)) = fields := by
  induction hfit generalizing before with
  | nil => rfl
  | @cons place field places fields hwidth hfit ih =>
      obtain ⟨hoffset, hrest⟩ := h
      have hfield : fieldAt (before ++ (field ++ fields.flatten)) place = field := by
        rw [fieldAt, hoffset, List.drop_left, ← hwidth, List.take_left]
      have hbefore : (before ++ field).length = before.length + place.width := by
        rw [List.length_append, hwidth]
      rw [← hbefore] at hrest
      have hlater := ih hrest
      rw [List.append_assoc] at hlater
      rw [List.map_cons, List.flatten_cons, hfield, hlater]

/-- The fields written at their places. -/
def written (bytes : List UInt8) : List Place → List (List UInt8) → List UInt8
  | place :: places, field :: fields => written (putAt bytes place.offset field) places fields
  | _, _ => bytes

/-- **What is written** into the zeros are the fields, one after the other. -/
theorem written_eq {before : List UInt8} {places : List Place} {fields : List (List UInt8)}
    {stop : Nat} (h : Tiles before.length places stop) (hfit : Fitting places fields) :
    written (before ++ List.replicate (stop - before.length) 0) places fields =
      before ++ fields.flatten := by
  induction hfit generalizing before with
  | nil =>
      have hstop : before.length = stop := h
      rw [hstop, Nat.sub_self]
      rfl
  | @cons place field places fields hwidth hfit ih =>
      obtain ⟨hoffset, hrest⟩ := h
      have hbefore : (before ++ field).length = before.length + place.width := by
        rw [List.length_append, hwidth]
      rw [← hbefore] at hrest
      have hput : putAt (before ++ List.replicate (stop - before.length) 0) place.offset field =
          (before ++ field) ++ List.replicate (stop - (before ++ field).length) 0 := by
        rw [putAt, hoffset, List.take_left, ← List.drop_drop, List.drop_left,
          List.drop_replicate, List.length_append, List.append_assoc, Nat.sub_sub]
      rw [written, hput, ih hrest, List.flatten_cons, List.append_assoc]

/-- The fields fill the buffer. -/
theorem length_flatten {start stop : Nat} {places : List Place} {fields : List (List UInt8)}
    (h : Tiles start places stop) (hfit : Fitting places fields) :
    start + fields.flatten.length = stop := by
  induction hfit generalizing start with
  | nil => exact h
  | cons hwidth hfit ih =>
      have hrest := ih h.2
      rw [List.flatten_cons, List.length_append, hwidth]
      omega

/-- A whole buffer that is written. -/
theorem written_zeros {places : List Place} {fields : List (List UInt8)} {size : Nat}
    (h : Tiles 0 places size) (hfit : Fitting places fields) :
    written (List.replicate size 0) places fields = fields.flatten := by
  have hempty : Tiles ([] : List UInt8).length places size := h
  exact written_eq hempty hfit

/-- A whole buffer that is read. -/
theorem fieldsAt_flatten {places : List Place} {fields : List (List UInt8)} {size : Nat}
    (h : Tiles 0 places size) (hfit : Fitting places fields) :
    places.map (fieldAt fields.flatten) = fields := by
  have hempty : Tiles ([] : List UInt8).length places size := h
  exact map_fieldAt_flatten hempty hfit

/-! ## Field types -/

/-- A type whose values have a fixed number of bytes. -/
structure FieldType (α : Type) where
  width : Nat
  encode : α → List UInt8
  decode : List UInt8 → α
  length_encode : ∀ a, (encode a).length = width
  decode_encode : ∀ a, decode (encode a) = a
  encode_decode : ∀ bytes, bytes.length = width → encode (decode bytes) = bytes

/-- A word decodes to what was encoded. -/
theorem leValue_leBytes_of_lt {count n : Nat} (h : n < 256 ^ count) :
    leValue (leBytes count n) = n := by
  rw [leValue_leBytes, Nat.mod_eq_of_lt h]

/-- `u8`. -/
def u8 : FieldType UInt8 where
  width := 1
  encode a := [a]
  decode bytes := bytes.headD 0
  length_encode _ := rfl
  decode_encode _ := rfl
  encode_decode bytes h := by
    obtain ⟨b, rfl⟩ := List.length_eq_one_iff.mp h
    rfl

/-- `u16`, little-endian. -/
def u16 : FieldType UInt16 where
  width := 2
  encode a := leBytes 2 a.toNat
  decode bytes := UInt16.ofNat (leValue bytes)
  length_encode a := leBytes_length 2 a.toNat
  decode_encode a := by
    have hlt : a.toNat < 256 ^ 2 := a.toNat_lt
    rw [leValue_leBytes_of_lt hlt, UInt16.ofNat_toNat]
  encode_decode bytes h := by
    have hlt := leValue_lt bytes
    rw [h] at hlt
    have hvalue : (UInt16.ofNat (leValue bytes)).toNat = leValue bytes := Nat.mod_eq_of_lt hlt
    rw [hvalue, ← h, leBytes_leValue]

/-- `u32`, little-endian. -/
def u32 : FieldType UInt32 where
  width := 4
  encode a := leBytes 4 a.toNat
  decode bytes := UInt32.ofNat (leValue bytes)
  length_encode a := leBytes_length 4 a.toNat
  decode_encode a := by
    have hlt : a.toNat < 256 ^ 4 := a.toNat_lt
    rw [leValue_leBytes_of_lt hlt, UInt32.ofNat_toNat]
  encode_decode bytes h := by
    have hlt := leValue_lt bytes
    rw [h] at hlt
    have hvalue : (UInt32.ofNat (leValue bytes)).toNat = leValue bytes := Nat.mod_eq_of_lt hlt
    rw [hvalue, ← h, leBytes_leValue]

/-- `u64`, little-endian. -/
def u64 : FieldType UInt64 where
  width := 8
  encode a := leBytes 8 a.toNat
  decode bytes := UInt64.ofNat (leValue bytes)
  length_encode a := leBytes_length 8 a.toNat
  decode_encode a := by
    have hlt : a.toNat < 256 ^ 8 := a.toNat_lt
    rw [leValue_leBytes_of_lt hlt, UInt64.ofNat_toNat]
  encode_decode bytes h := by
    have hlt := leValue_lt bytes
    rw [h] at hlt
    have hvalue : (UInt64.ofNat (leValue bytes)).toNat = leValue bytes := Nat.mod_eq_of_lt hlt
    rw [hvalue, ← h, leBytes_leValue]

/-- `i16`, little-endian and in two's complement. -/
def i16 : FieldType Int16 where
  width := 2
  encode a := u16.encode a.toUInt16
  decode bytes := Int16.ofUInt16 (u16.decode bytes)
  length_encode a := u16.length_encode a.toUInt16
  decode_encode a := by rw [u16.decode_encode]
  encode_decode := u16.encode_decode

/-- **Two's complement**: the number of a signed field, from its bytes. -/
theorem toInt_eq_bmod (a : Int16) : a.toInt = (leValue (i16.encode a) : Int).bmod 65536 := by
  have hlt : a.toUInt16.toNat < 256 ^ 2 := a.toUInt16.toNat_lt
  have hvalue : leValue (i16.encode a) = a.toUInt16.toNat := leValue_leBytes_of_lt hlt
  rw [hvalue]
  exact BitVec.toInt_eq_toNat_bmod a.toUInt16.toBitVec

/-- An array of bytes of a fixed length. -/
abbrev ByteArrayOf (count : Nat) : Type := { bytes : List UInt8 // bytes.length = count }

/-- `[u8; count]`. -/
def byteArray (count : Nat) : FieldType (ByteArrayOf count) where
  width := count
  encode a := a.val
  decode bytes :=
    if h : bytes.length = count then ⟨bytes, h⟩
    else ⟨List.replicate count 0, List.length_replicate⟩
  length_encode a := a.property
  decode_encode a := by rw [dif_pos a.property]
  encode_decode bytes h := by rw [dif_pos h]

end FrametimeCfg.Lib.Layout
