import FrametimeCfg.Lib.Buffer

/-!
# The access control list of the suite root

`validate_acl` stands between the bytes of a discretionary access control list and the code
that forms pointers into them.  An `usize` is a natural number here, and the additions that
the code checks fail from `2 ^ 64` on.  Words are read in the order of the one machine the
suite supports, with the lowest byte first.
-/

namespace FrametimeCfg.Windows.Acl

open FrametimeCfg.Lib.Buffer
open FrametimeCfg.Lib.Checks
open FrametimeCfg.Lib.Wide

/-- `ACL_HEADER_BYTES`. -/
def aclHeaderBytes : Nat := 8

/-- `ACE_HEADER_BYTES`. -/
def aceHeaderBytes : Nat := 4

/-- `ACE_MASK_OFFSET`. -/
def aceMaskOffset : Nat := 4

/-- `ACE_SID_OFFSET`. -/
def aceSidOffset : Nat := 8

/-- `SID_HEADER_BYTES`. -/
def sidHeaderBytes : Nat := 8

/-- `SID_REVISION`. -/
def sidRevision : UInt8 := 1

/-- `SID_MAX_SUB_AUTHORITIES`. -/
def sidMaxSubAuthorities : UInt8 := 15

/-- `ACE_ALIGNMENT`. -/
def aceAlignment : Nat := 4

/-- `SID_ALIGNMENT`. -/
def sidAlignment : Nat := 4

/-- `AceExtent`. -/
structure AceExtent where
  aceType : UInt8
  aceFlags : UInt8
  mask : UInt32
  sidOffset : Nat
  deriving DecidableEq

/-- `read_u16`. -/
def readU16 (bytes : List UInt8) (offset : Nat) (field : String) :
    Except (Stop String) UInt16 := do
  let stop ← okOr (checkedAdd offset 2)
    (.error ("suite root DACL " ++ field ++ " extent overflows"))
  let value ← okOr (get bytes offset stop)
    (.error ("suite root DACL " ++ field ++ " is truncated"))
  let b0 ← index value 0
  let b1 ← index value 1
  return UInt16.ofNat (leValue [b0, b1])

/-- `read_u32`. -/
def readU32 (bytes : List UInt8) (offset : Nat) (field : String) :
    Except (Stop String) UInt32 := do
  let stop ← okOr (checkedAdd offset 4)
    (.error ("suite root DACL " ++ field ++ " extent overflows"))
  let value ← okOr (get bytes offset stop)
    (.error ("suite root DACL " ++ field ++ " is truncated"))
  let b0 ← index value 0
  let b1 ← index value 1
  let b2 ← index value 2
  let b3 ← index value 3
  return UInt32.ofNat (leValue [b0, b1, b2, b3])

/-- `acl_size_from_header`. -/
def aclSizeFromHeader (header : List UInt8) : Except (Stop String) Nat := do
  let size ← readU16 header 2 "ACL size"
  return size.toNat

/-- The extent of the entry at `next`: its size is read, and the entry ends inside the list. -/
def aceExtent (acl : List UInt8) (next : Nat) : Except (Stop String) Nat := do
  reject (next % aceAlignment ≠ 0) (.error "suite root DACL ACE is misaligned")
  let headerEnd ← okOr (checkedAdd next aceHeaderBytes)
    (.error "suite root DACL ACE header extent overflows")
  reject (acl.length < headerEnd) (.error "suite root DACL ACE header is truncated")
  let aceSize ← readU16 acl (next + 2) "ACE size"
  let aceEnd ← okOr (checkedAdd next aceSize.toNat)
    (.error "suite root DACL ACE extent overflows")
  reject (aceSize.toNat < aceSidOffset + sidHeaderBytes || aceSize.toNat % aceAlignment ≠ 0 ||
    acl.length < aceEnd) (.error "suite root DACL ACE extent is invalid")
  return aceEnd

/-- The identifier of the entry at `next`, which has to end before the entry does. -/
def sidExtent (acl : List UInt8) (base next aceEnd : Nat) : Except (Stop String) Nat := do
  let sidOffset ← okOr (checkedAdd next aceSidOffset)
    (.error "suite root DACL SID offset overflows")
  let sidAddress ← okOr (checkedAdd base sidOffset)
    (.error "suite root DACL SID address overflows")
  reject (sidAddress % sidAlignment ≠ 0) (.error "suite root DACL SID is misaligned")
  let sidHeaderEnd ← okOr (checkedAdd sidOffset sidHeaderBytes)
    (.error "suite root DACL SID header extent overflows")
  reject (aceEnd < sidHeaderEnd) (.error "suite root DACL SID header is truncated")
  let revision ← index acl sidOffset
  reject (revision ≠ sidRevision) (.error "suite root DACL SID revision is invalid")
  let subAuthorities ← index acl (sidOffset + 1)
  reject (sidMaxSubAuthorities < subAuthorities)
    (.error "suite root DACL SID sub-authority count is invalid")
  let sidSize ← okOr ((checkedMul subAuthorities.toNat 4).bind (checkedAdd sidHeaderBytes))
    (.error "suite root DACL SID extent overflows")
  let sidEnd ← okOr (checkedAdd sidOffset sidSize)
    (.error "suite root DACL SID extent overflows")
  reject (aceEnd < sidEnd) (.error "suite root DACL SID extent is truncated")
  return sidOffset

/-- One round of the loop: the entry at `next`, and where the next one starts. -/
def aceAt (acl : List UInt8) (base next : Nat) : Except (Stop String) (AceExtent × Nat) := do
  let aceEnd ← aceExtent acl next
  let sidOffset ← sidExtent acl base next aceEnd
  let aceType ← index acl next
  let aceFlags ← index acl (next + 1)
  let mask ← readU32 acl (next + aceMaskOffset) "ACE mask"
  return ({ aceType, aceFlags, mask, sidOffset }, aceEnd)

/-- The loop over the entries. -/
def aces (acl : List UInt8) (base : Nat) :
    Nat → Nat → List AceExtent → Except (Stop String) (List AceExtent)
  | 0, _, found => .ok found
  | count + 1, next, found => do
      let (ace, aceEnd) ← aceAt acl base next
      aces acl base count aceEnd (found ++ [ace])

/-- `validate_acl`. -/
def validateAcl (acl : List UInt8) (base : Nat) : Except (Stop String) (List AceExtent) := do
  reject (base % aceAlignment ≠ 0) (.error "suite root DACL base is misaligned")
  reject (acl.length < aclHeaderBytes) (.error "suite root DACL header is truncated")
  let size ← aclSizeFromHeader acl
  reject (size ≠ acl.length) (.error "suite root DACL extent disagrees with AclSize")
  let aceCount ← readU16 acl 4 "ACL ACE count"
  aces acl base aceCount.toNat aclHeaderBytes []

end FrametimeCfg.Windows.Acl
