import FrametimeCfg.Windows.Acl
import Mathlib

/-!
# The walk over an access control list

The sizes in an access control list are its own, and the walk has to believe them.  This file
says what it has made sure of when it returns, for every buffer, and that it accepts every
list that is well formed.

* `aceAt_eq_ok` — one round of the loop succeeds exactly at a well-placed entry.
* `aces_eq_ok` — the loop succeeds exactly when all entries it comes to are well placed.
* `validateAcl_contained` — nothing is read outside the buffer.
* `daclWalk` — the three parts together.
-/

namespace FrametimeCfg.Verified.AclWalk

open FrametimeCfg.Lib.Buffer
open FrametimeCfg.Lib.Checks
open FrametimeCfg.Lib.Wide
open FrametimeCfg.Windows.Acl

/-! ## Words of a buffer -/

/-- The word of two bytes at a position. -/
def wordAt (acl : List UInt8) (i : Nat) : UInt16 :=
  UInt16.ofNat (leValue [byteAt acl i, byteAt acl (i + 1)])

/-- The word of four bytes at a position. -/
def longAt (acl : List UInt8) (i : Nat) : UInt32 :=
  UInt32.ofNat (leValue
    [byteAt acl i, byteAt acl (i + 1), byteAt acl (i + 2), byteAt acl (i + 3)])

theorem readU16_eq_ok {bytes : List UInt8} {offset : Nat} {field : String} {w : UInt16} :
    readU16 bytes offset field = .ok w ↔
      offset + 2 < usizeCount ∧ offset + 2 ≤ bytes.length ∧ wordAt bytes offset = w := by
  have h0 := getElem_slice bytes offset (show 0 < 2 by decide)
  have h1 := getElem_slice bytes offset (show 1 < 2 by decide)
  simp only [readU16, bind_eq_ok, okOr_eq_ok, checkedAdd_eq_some, get_eq_some, and_assoc,
    exists_and_left, exists_eq_left', Nat.add_sub_cancel_left, index_eq_ok]
  rw [h0, h1]
  simp only [getElem_eq_some, and_assoc, exists_and_left, exists_eq_left']
  constructor
  · rintro ⟨hadd, _, hlength, _, _, hw⟩
    exact ⟨hadd, hlength, Except.ok.inj hw⟩
  · rintro ⟨hadd, hlength, hw⟩
    exact ⟨hadd, by omega, hlength, by omega, by omega, congrArg Except.ok hw⟩

theorem readU32_eq_ok {bytes : List UInt8} {offset : Nat} {field : String} {w : UInt32} :
    readU32 bytes offset field = .ok w ↔
      offset + 4 < usizeCount ∧ offset + 4 ≤ bytes.length ∧ longAt bytes offset = w := by
  have h0 := getElem_slice bytes offset (show 0 < 4 by decide)
  have h1 := getElem_slice bytes offset (show 1 < 4 by decide)
  have h2 := getElem_slice bytes offset (show 2 < 4 by decide)
  have h3 := getElem_slice bytes offset (show 3 < 4 by decide)
  simp only [readU32, bind_eq_ok, okOr_eq_ok, checkedAdd_eq_some, get_eq_some, and_assoc,
    exists_and_left, exists_eq_left', Nat.add_sub_cancel_left, index_eq_ok]
  rw [h0, h1, h2, h3]
  simp only [getElem_eq_some, and_assoc, exists_and_left, exists_eq_left']
  constructor
  · rintro ⟨hadd, _, hlength, _, _, _, _, hw⟩
    exact ⟨hadd, hlength, Except.ok.inj hw⟩
  · rintro ⟨hadd, hlength, hw⟩
    exact ⟨hadd, by omega, hlength, by omega, by omega, by omega, by omega,
      congrArg Except.ok hw⟩

/-! ## One entry -/

/-- The size of the entry at `next`. -/
def aceSize (acl : List UInt8) (next : Nat) : Nat := (wordAt acl (next + 2)).toNat

/-- The number of sub-authorities of the identifier of the entry at `next`. -/
def subAuthorities (acl : List UInt8) (next : Nat) : Nat := (byteAt acl (next + 8 + 1)).toNat

/-- What is reported of the entry at `next`. -/
def extentAt (acl : List UInt8) (next : Nat) : AceExtent where
  aceType := byteAt acl next
  aceFlags := byteAt acl (next + 1)
  mask := longAt acl (next + 4)
  sidOffset := next + 8

/-- **A well-placed entry.**  It starts and ends at a multiple of four bytes inside the list,
and its identifier ends before it does. -/
structure Entry (acl : List UInt8) (base next : Nat) : Prop where
  aligned : next % 4 = 0
  room : 16 ≤ aceSize acl next
  size : aceSize acl next % 4 = 0
  inside : next + aceSize acl next ≤ acl.length
  address : base + (next + 8) < usizeCount
  sidAligned : (base + (next + 8)) % 4 = 0
  revision : byteAt acl (next + 8) = 1
  count : subAuthorities acl next ≤ 15
  sidInside : next + 16 + 4 * subAuthorities acl next ≤ next + aceSize acl next

theorem aceExtent_eq_ok {acl : List UInt8} (hacl : acl.length < 65536) {next stop : Nat} :
    aceExtent acl next = .ok stop ↔
      next % 4 = 0 ∧ 16 ≤ aceSize acl next ∧ aceSize acl next % 4 = 0 ∧
        next + aceSize acl next ≤ acl.length ∧ next + aceSize acl next = stop := by
  simp only [aceExtent, bind_eq_ok, reject_eq_ok, okOr_eq_ok, checkedAdd_eq_some, and_assoc,
    readU16_eq_ok, exists_and_left, exists_eq_left', exists_const, Bool.or_eq_false_iff,
    decide_eq_false_iff_not, not_lt, not_not, ne_eq]
  unfold aceSize usizeCount aceAlignment aceHeaderBytes aceSidOffset sidHeaderBytes
  constructor
  · rintro ⟨haligned, _, _, _, _, _, hroom, hsize, hinside, hstop⟩
    exact ⟨haligned, hroom, hsize, hinside, Except.ok.inj hstop⟩
  · rintro ⟨haligned, hroom, hsize, hinside, hstop⟩
    exact ⟨haligned, by omega, by omega, by omega, by omega, by omega, hroom, hsize, hinside,
      congrArg Except.ok hstop⟩

theorem sidExtent_eq_ok {acl : List UInt8} (hacl : acl.length < 65536)
    {base next stop offset : Nat} (hstop : stop ≤ acl.length) :
    sidExtent acl base next stop = .ok offset ↔
      base + (next + 8) < usizeCount ∧ (base + (next + 8)) % 4 = 0 ∧
        byteAt acl (next + 8) = 1 ∧ subAuthorities acl next ≤ 15 ∧
        next + 16 + 4 * subAuthorities acl next ≤ stop ∧ next + 8 = offset := by
  have hlimit : sidMaxSubAuthorities.toNat = 15 := rfl
  simp only [sidExtent, bind_eq_ok, reject_eq_ok, okOr_eq_ok, checkedAdd_eq_some,
    checkedMul_eq_some, Option.bind_eq_some_iff, and_assoc, index_eq_ok, getElem_eq_some,
    exists_const, ne_eq, exists_and_left, exists_eq_left', decide_eq_false_iff_not, not_not,
    not_lt, UInt8.lt_iff_toNat_lt, hlimit]
  unfold subAuthorities usizeCount aceSidOffset sidAlignment sidHeaderBytes sidRevision
  constructor
  · rintro ⟨_, hbase, haligned, _, _, _, hrevision, _, hsub, _, _, _, hinside, hoffset⟩
    exact ⟨hbase, haligned, hrevision, hsub, by omega, Except.ok.inj hoffset⟩
  · rintro ⟨hbase, haligned, hrevision, hsub, hinside, hoffset⟩
    exact ⟨by omega, hbase, haligned, by omega, by omega, by omega, hrevision, by omega, hsub,
      by omega, by omega, by omega, by omega, congrArg Except.ok hoffset⟩

/-- **One round of the loop** succeeds exactly at a well-placed entry. -/
theorem aceAt_eq_ok {acl : List UInt8} (hacl : acl.length < 65536) {base next stop : Nat}
    {ace : AceExtent} :
    aceAt acl base next = .ok (ace, stop) ↔
      Entry acl base next ∧ extentAt acl next = ace ∧ next + aceSize acl next = stop := by
  simp only [aceAt, bind_eq_ok, aceExtent_eq_ok hacl, and_assoc, exists_and_left,
    exists_eq_left']
  constructor
  · rintro ⟨haligned, hroom, hsize, hinside, sidOffset, hsid, hrest⟩
    obtain ⟨haddress, hsidAligned, hrevision, hcount, hsidInside, rfl⟩ :=
      (sidExtent_eq_ok hacl hinside).mp hsid
    simp only [index_eq_ok, getElem_eq_some, readU32_eq_ok, and_assoc, exists_and_left,
      exists_eq_left'] at hrest
    obtain ⟨_, _, _, _, hresult⟩ := hrest
    obtain ⟨hace, hstop⟩ := Prod.mk.inj (Except.ok.inj hresult)
    exact ⟨⟨haligned, hroom, hsize, hinside, haddress, hsidAligned, hrevision, hcount,
      hsidInside⟩, hace, hstop⟩
  · rintro ⟨h, rfl, rfl⟩
    have hroom := h.room
    have hinside := h.inside
    refine ⟨h.aligned, hroom, h.size, hinside, next + 8, ?_, ?_⟩
    · exact (sidExtent_eq_ok hacl hinside).mpr
        ⟨h.address, h.sidAligned, h.revision, h.count, h.sidInside, rfl⟩
    · simp only [index_eq_ok, getElem_eq_some, readU32_eq_ok, and_assoc, exists_and_left,
        exists_eq_left', aceMaskOffset, usizeCount]
      exact ⟨by omega, by omega, by omega, by omega, rfl⟩

/-! ## The loop -/

/-- The positions of `count` entries that follow each other from `next` on. -/
def positions (acl : List UInt8) : Nat → Nat → List Nat
  | 0, _ => []
  | count + 1, next => next :: positions acl count (next + aceSize acl next)

theorem length_positions (acl : List UInt8) (count next : Nat) :
    (positions acl count next).length = count := by
  induction count generalizing next with
  | zero => rfl
  | succ count ih => simp [positions, ih]

/-- The loop succeeds exactly when all entries it comes to are well placed. -/
theorem aces_eq_ok {acl : List UInt8} (hacl : acl.length < 65536) {base count next : Nat}
    {found result : List AceExtent} :
    aces acl base count next found = .ok result ↔
      (∀ p ∈ positions acl count next, Entry acl base p) ∧
        found ++ (positions acl count next).map (extentAt acl) = result := by
  induction count generalizing next found with
  | zero => simp [aces, positions]
  | succ count ih =>
      simp only [aces, bind_eq_ok, Prod.exists, positions, List.forall_mem_cons, List.map_cons,
        aceAt_eq_ok hacl]
      constructor
      · rintro ⟨ace, stop, ⟨hentry, rfl, rfl⟩, hrest⟩
        obtain ⟨hentries, hresult⟩ := ih.mp hrest
        exact ⟨⟨hentry, hentries⟩, by rw [← hresult, List.append_assoc]; rfl⟩
      · rintro ⟨⟨hentry, hentries⟩, hresult⟩
        refine ⟨_, _, ⟨hentry, rfl, rfl⟩, ih.mpr ⟨hentries, ?_⟩⟩
        rw [← hresult, List.append_assoc]
        rfl

/-- Where an entry that was reported starts. -/
def aceStart (ace : AceExtent) : Nat := ace.sidOffset - 8

/-- Where it stops. -/
def aceStop (acl : List UInt8) (ace : AceExtent) : Nat :=
  aceStart ace + aceSize acl (aceStart ace)

@[simp] theorem aceStart_extentAt (acl : List UInt8) (next : Nat) :
    aceStart (extentAt acl next) = next := by
  simp [aceStart, extentAt]

@[simp] theorem aceStop_extentAt (acl : List UInt8) (next : Nat) :
    aceStop acl (extentAt acl next) = next + aceSize acl next := by
  simp [aceStop]

/-- The positions do not go back. -/
theorem le_of_mem_positions {acl : List UInt8} {count next p : Nat}
    (h : p ∈ positions acl count next) : next ≤ p := by
  induction count generalizing next with
  | zero => simp [positions] at h
  | succ count ih =>
      rcases List.mem_cons.mp h with rfl | h
      · exact Nat.le_refl _
      · have hle := ih h
        omega

/-- Each entry starts where the one before it stops. -/
theorem isChain_positions (acl : List UInt8) (count next : Nat) :
    (positions acl count next).IsChain fun p q => p + aceSize acl p = q := by
  induction count generalizing next with
  | zero => exact .nil
  | succ count ih =>
      cases count with
      | zero => exact .singleton _
      | succ count => exact List.isChain_cons_cons.mpr ⟨rfl, ih _⟩

/-- No entry stops behind the start of a later one. -/
theorem pairwise_positions (acl : List UInt8) (count next : Nat) :
    (positions acl count next).Pairwise fun p q => p + aceSize acl p ≤ q := by
  induction count generalizing next with
  | zero => exact List.Pairwise.nil
  | succ count ih =>
      exact List.Pairwise.cons (fun q hq => le_of_mem_positions hq) (ih _)

/-! ## The walk stays inside -/

theorem readU16_contained (bytes : List UInt8) (offset : Nat) (field : String) :
    Contained (readU16 bytes offset field) := by
  refine .bind (.okOr _ _) fun stop hstop => .bind (.okOr _ _) fun value hvalue => ?_
  obtain ⟨-, rfl⟩ := checkedAdd_eq_some.mp (okOr_eq_ok.mp hstop)
  obtain ⟨⟨-, hlength⟩, rfl⟩ := get_eq_some.mp (okOr_eq_ok.mp hvalue)
  have hvalue : (List.take (offset + 2 - offset) (List.drop offset bytes)).length = 2 := by
    rw [List.length_take, List.length_drop]
    omega
  exact .bind (.index (by omega)) fun _ _ => .bind (.index (by omega)) fun _ _ => .ok _

theorem readU32_contained (bytes : List UInt8) (offset : Nat) (field : String) :
    Contained (readU32 bytes offset field) := by
  refine .bind (.okOr _ _) fun stop hstop => .bind (.okOr _ _) fun value hvalue => ?_
  obtain ⟨-, rfl⟩ := checkedAdd_eq_some.mp (okOr_eq_ok.mp hstop)
  obtain ⟨⟨-, hlength⟩, rfl⟩ := get_eq_some.mp (okOr_eq_ok.mp hvalue)
  have hvalue : (List.take (offset + 4 - offset) (List.drop offset bytes)).length = 4 := by
    rw [List.length_take, List.length_drop]
    omega
  exact .bind (.index (by omega)) fun _ _ => .bind (.index (by omega)) fun _ _ =>
    .bind (.index (by omega)) fun _ _ => .bind (.index (by omega)) fun _ _ => .ok _

theorem aceExtent_contained (acl : List UInt8) (next : Nat) :
    Contained (aceExtent acl next) :=
  .bind (.reject _ _) fun _ _ => .bind (.okOr _ _) fun _ _ => .bind (.reject _ _) fun _ _ =>
    .bind (readU16_contained _ _ _) fun _ _ => .bind (.okOr _ _) fun _ _ =>
      .bind (.reject _ _) fun _ _ => .ok _

/-- The identifier is read only after its header was found inside the entry. -/
theorem sidExtent_contained {acl : List UInt8} {base next stop : Nat}
    (hstop : stop ≤ acl.length) : Contained (sidExtent acl base next stop) := by
  refine .bind (.okOr _ _) fun offset _ => .bind (.okOr _ _) fun _ _ =>
    .bind (.reject _ _) fun _ _ => .bind (.okOr _ _) fun headerEnd hend =>
    .bind (.reject _ _) fun _ hheader => ?_
  obtain ⟨-, rfl⟩ := checkedAdd_eq_some.mp (okOr_eq_ok.mp hend)
  have hinside : ¬ stop < offset + sidHeaderBytes :=
    decide_eq_false_iff_not.mp (reject_eq_ok.mp hheader)
  unfold sidHeaderBytes at hinside
  exact .bind (.index (by omega)) fun _ _ => .bind (.reject _ _) fun _ _ =>
    .bind (.index (by omega)) fun _ _ => .bind (.reject _ _) fun _ _ =>
    .bind (.okOr _ _) fun _ _ => .bind (.okOr _ _) fun _ _ => .bind (.reject _ _) fun _ _ => .ok _

theorem aceAt_contained {acl : List UInt8} (hacl : acl.length < 65536) (base next : Nat) :
    Contained (aceAt acl base next) := by
  refine .bind (aceExtent_contained _ _) fun stop hstop => ?_
  obtain ⟨-, hroom, -, hinside, rfl⟩ := (aceExtent_eq_ok hacl).mp hstop
  exact .bind (sidExtent_contained hinside) fun _ _ => .bind (.index (by omega)) fun _ _ =>
    .bind (.index (by omega)) fun _ _ => .bind (readU32_contained _ _ _) fun _ _ => .ok _

theorem aces_contained {acl : List UInt8} (hacl : acl.length < 65536) (base count next : Nat)
    (found : List AceExtent) : Contained (aces acl base count next found) := by
  induction count generalizing next found with
  | zero => exact .ok _
  | succ count ih => exact .bind (aceAt_contained hacl base next) fun _ _ => ih _ _

/-- The list is as long as its header says, and the header holds a word of two bytes. -/
theorem aclSizeFromHeader_eq_ok {acl : List UInt8} {size : Nat} :
    aclSizeFromHeader acl = .ok size ↔ 4 ≤ acl.length ∧ (wordAt acl 2).toNat = size := by
  simp only [aclSizeFromHeader, bind_eq_ok, readU16_eq_ok, usizeCount, and_assoc,
    exists_and_left, exists_eq_left']
  constructor
  · rintro ⟨_, hlength, hsize⟩
    exact ⟨hlength, Except.ok.inj hsize⟩
  · rintro ⟨hlength, hsize⟩
    exact ⟨by omega, hlength, congrArg Except.ok hsize⟩

/-- **Nothing is read outside the buffer.** -/
theorem validateAcl_contained (acl : List UInt8) (base : Nat) :
    Contained (validateAcl acl base) := by
  refine .bind (.reject _ _) fun _ _ => .bind (.reject _ _) fun _ _ =>
    .bind (.bind (readU16_contained _ _ _) fun _ _ => .ok _) fun size hsize =>
    .bind (.reject _ _) fun _ heq => .bind (readU16_contained _ _ _) fun _ _ => ?_
  obtain ⟨-, rfl⟩ := aclSizeFromHeader_eq_ok.mp hsize
  have hlength := not_not.mp (decide_eq_false_iff_not.mp (reject_eq_ok.mp heq))
  have hword := (wordAt acl 2).toNat_lt
  exact aces_contained (by omega) _ _ _ _

/-- The list is accepted exactly when its header fits and its entries are well placed. -/
theorem validateAcl_eq_ok {acl : List UInt8} {base : Nat} {found : List AceExtent} :
    validateAcl acl base = .ok found ↔
      base % 4 = 0 ∧ 8 ≤ acl.length ∧ (wordAt acl 2).toNat = acl.length ∧
        (∀ p ∈ positions acl (wordAt acl 4).toNat 8, Entry acl base p) ∧
        (positions acl (wordAt acl 4).toNat 8).map (extentAt acl) = found := by
  have hword := (wordAt acl 2).toNat_lt
  simp only [validateAcl, bind_eq_ok, reject_eq_ok, aclSizeFromHeader_eq_ok, readU16_eq_ok,
    and_assoc, exists_and_left, exists_eq_left', exists_const, decide_eq_false_iff_not, not_lt,
    not_not, ne_eq]
  unfold aceAlignment aclHeaderBytes usizeCount
  constructor
  · rintro ⟨hbase, hlength, _, hsize, _, _, hrun⟩
    obtain ⟨hentries, hfound⟩ := (aces_eq_ok (by omega)).mp hrun
    exact ⟨hbase, hlength, hsize, hentries, hfound⟩
  · rintro ⟨hbase, hlength, hsize, hentries, hfound⟩
    exact ⟨hbase, hlength, by omega, hsize, by omega, by omega,
      (aces_eq_ok (by omega)).mpr ⟨hentries, hfound⟩⟩

/-! ## What was walked -/

/-- The bytes an entry takes. -/
def extent (acl : List UInt8) (ace : AceExtent) : Set Nat :=
  Set.Ico (aceStart ace) (aceStop acl ace)

/-- **What the walk has made sure of.**  The entries follow each other behind the header, none
shares a byte with another or leaves the first `AclSize` bytes, and each identifier, with the
sub-authorities it declares, lies inside its own entry at an aligned address. -/
structure Walked (acl : List UInt8) (base : Nat) (found : List AceExtent) : Prop where
  aclSize : (wordAt acl 2).toNat = acl.length
  aceCount : found.length = (wordAt acl 4).toNat
  first : ∀ ace, found.head? = some ace → aceStart ace = 8
  consecutive : found.IsChain fun ace ace' => aceStop acl ace = aceStart ace'
  disjoint : found.Pairwise fun ace ace' => Disjoint (extent acl ace) (extent acl ace')
  inside : ∀ ace ∈ found, 8 ≤ aceStart ace ∧ aceStart ace < aceStop acl ace ∧
    aceStop acl ace ≤ (wordAt acl 2).toNat
  fields : ∀ ace ∈ found, ace = extentAt acl (aceStart ace)
  sid : ∀ ace ∈ found, aceStart ace < ace.sidOffset ∧
    ace.sidOffset + (8 + 4 * (byteAt acl (ace.sidOffset + 1)).toNat) ≤ aceStop acl ace
  sidAligned : ∀ ace ∈ found, (base + ace.sidOffset) % 4 = 0

theorem walked {acl : List UInt8} {base : Nat} {found : List AceExtent}
    (h : validateAcl acl base = .ok found) : Walked acl base found := by
  obtain ⟨-, -, hsize, hentries, rfl⟩ := validateAcl_eq_ok.mp h
  refine { aclSize := hsize, aceCount := ?_, first := ?_, consecutive := ?_, disjoint := ?_,
           inside := ?_, fields := ?_, sid := ?_, sidAligned := ?_ }
  · rw [List.length_map, length_positions]
  · intro ace hace
    cases hcount : (wordAt acl 4).toNat with
    | zero => simp [hcount, positions] at hace
    | succ count =>
        rw [hcount, positions, List.map_cons, List.head?_cons, Option.some.injEq] at hace
        rw [← hace, aceStart_extentAt]
  · rw [List.isChain_map]
    simpa only [aceStart_extentAt, aceStop_extentAt] using isChain_positions acl _ 8
  · rw [List.pairwise_map]
    refine (pairwise_positions acl _ 8).imp fun {p q} hle => ?_
    rw [Set.disjoint_left]
    intro i hi hi'
    have hstop : i < p + aceSize acl p := by simpa using hi.2
    have hstart : q ≤ i := by simpa using hi'.1
    omega
  · rw [List.forall_mem_map]
    intro p hp
    have hle := le_of_mem_positions hp
    have hroom := (hentries p hp).room
    have hinside := (hentries p hp).inside
    rw [aceStart_extentAt, aceStop_extentAt, hsize]
    omega
  · rw [List.forall_mem_map]
    intro p _
    rw [aceStart_extentAt]
  · rw [List.forall_mem_map]
    intro p hp
    have hsid := (hentries p hp).sidInside
    have hoffset : (extentAt acl p).sidOffset = p + 8 := rfl
    rw [aceStart_extentAt, aceStop_extentAt, hoffset]
    unfold subAuthorities at hsid
    omega
  · rw [List.forall_mem_map]
    exact fun p hp => (hentries p hp).sidAligned

/-! ## Well-formed lists -/

/-- A security identifier. -/
structure Sid where
  authority : List UInt8
  subAuthorities : List UInt32
  length_authority : authority.length = 6
  length_subAuthorities : subAuthorities.length ≤ 15

/-- An entry with room for its identifier, padded to four bytes. -/
structure Ace where
  aceType : UInt8
  aceFlags : UInt8
  mask : UInt32
  sid : Sid
  padding : List UInt8
  padded : padding.length % 4 = 0

namespace Ace

/-- `AceSize`. -/
def size (ace : Ace) : Nat := 16 + 4 * ace.sid.subAuthorities.length + ace.padding.length

/-- The bytes of an entry. -/
def bytes (ace : Ace) : List UInt8 :=
  [ace.aceType, ace.aceFlags] ++ leBytes 2 ace.size ++ leBytes 4 ace.mask.toNat ++
    [1, UInt8.ofNat ace.sid.subAuthorities.length] ++ ace.sid.authority ++
    ace.sid.subAuthorities.flatMap (fun word => leBytes 4 word.toNat) ++ ace.padding

theorem length_words (words : List UInt32) :
    (words.flatMap fun word => leBytes 4 word.toNat).length = 4 * words.length := by
  induction words with
  | nil => rfl
  | cons word words ih =>
      rw [List.flatMap_cons, List.length_append, leBytes_length, ih, List.length_cons]
      omega

theorem length_bytes (ace : Ace) : ace.bytes.length = ace.size := by
  simp only [bytes, size, List.length_append, leBytes_length, length_words,
    ace.sid.length_authority, List.length_cons, List.length_nil]

end Ace

/-- A list of entries with its header, and what is left unused behind the entries. -/
structure Acl where
  revision : UInt8
  sbz1 : UInt8
  sbz2 : List UInt8
  aces : List Ace
  unused : List UInt8
  length_sbz2 : sbz2.length = 2
  fits : 8 + (aces.flatMap Ace.bytes).length + unused.length < 65536

namespace Acl

/-- `AclSize`. -/
def size (acl : Acl) : Nat := 8 + (acl.aces.flatMap Ace.bytes).length + acl.unused.length

/-- The header. -/
def header (acl : Acl) : List UInt8 :=
  [acl.revision, acl.sbz1] ++ leBytes 2 acl.size ++ leBytes 2 acl.aces.length ++ acl.sbz2

/-- The bytes of a list. -/
def bytes (acl : Acl) : List UInt8 := acl.header ++ acl.aces.flatMap Ace.bytes ++ acl.unused

/-- What there is to report of the entries from `next` on. -/
def extents : List Ace → Nat → List AceExtent
  | [], _ => []
  | ace :: rest, next =>
      { aceType := ace.aceType, aceFlags := ace.aceFlags, mask := ace.mask,
        sidOffset := next + 8 } :: extents rest (next + ace.size)

theorem length_header (acl : Acl) : acl.header.length = 8 := by
  simp [header, leBytes_length, acl.length_sbz2]

theorem length_bytes (acl : Acl) : acl.bytes.length = acl.size := by
  simp [bytes, size, length_header, Nat.add_assoc]

end Acl

theorem toNat_leBytes_two {n : Nat} (h : n < 65536) :
    (UInt16.ofNat (leValue (leBytes 2 n))).toNat = n := by
  rw [leValue_leBytes]
  show n % 65536 % 65536 = n
  omega

/-- A well-formed entry is well placed wherever it is put at a multiple of four bytes. -/
theorem entry_of_ace (before after : List UInt8) {ace : Ace} {base : Nat}
    (hbefore : before.length % 4 = 0) (hbase : base % 4 = 0)
    (hfits : (before ++ ace.bytes ++ after).length < 65536)
    (haddress : base + (before ++ ace.bytes ++ after).length ≤ usizeCount) :
    Entry (before ++ ace.bytes ++ after) base before.length ∧
      aceSize (before ++ ace.bytes ++ after) before.length = ace.size ∧
      extentAt (before ++ ace.bytes ++ after) before.length =
        { aceType := ace.aceType, aceFlags := ace.aceFlags, mask := ace.mask,
          sidOffset := before.length + 8 } := by
  have hlength := ace.length_bytes
  have hcount := ace.sid.length_subAuthorities
  have hpadded := ace.padded
  have hsize : ace.size = 16 + 4 * ace.sid.subAuthorities.length + ace.padding.length := rfl
  have htotal : (before ++ ace.bytes ++ after).length =
      before.length + ace.size + after.length := by
    rw [List.length_append, List.length_append, hlength]
  have hbyte : ∀ k, k < ace.size →
      byteAt (before ++ ace.bytes ++ after) (before.length + k) = byteAt ace.bytes k :=
    fun k hk => byteAt_middle rfl (by omega)
  have hword : aceSize (before ++ ace.bytes ++ after) before.length = ace.size := by
    rw [aceSize, wordAt, Nat.add_assoc, hbyte 2 (by omega), hbyte 3 (by omega)]
    exact toNat_leBytes_two (by omega)
  have hmask : longAt (before ++ ace.bytes ++ after) (before.length + 4) = ace.mask := by
    have hvalue : UInt32.ofNat (leValue (leBytes 4 ace.mask.toNat)) = ace.mask := by
      have hlt : ace.mask.toNat < 256 ^ 4 := ace.mask.toNat_lt
      rw [leValue_leBytes, Nat.mod_eq_of_lt hlt, UInt32.ofNat_toNat]
    rw [longAt, Nat.add_assoc, Nat.add_assoc, Nat.add_assoc, hbyte 4 (by omega),
      hbyte 5 (by omega), hbyte 6 (by omega), hbyte 7 (by omega)]
    exact hvalue
  have hrevision : byteAt (before ++ ace.bytes ++ after) (before.length + 8) = 1 :=
    hbyte 8 (by omega)
  have hsub : subAuthorities (before ++ ace.bytes ++ after) before.length =
      ace.sid.subAuthorities.length := by
    rw [subAuthorities, Nat.add_assoc, hbyte 9 (by omega)]
    show ace.sid.subAuthorities.length % 256 = _
    omega
  refine ⟨⟨hbefore, by omega, by omega, by omega, by omega, by omega, hrevision, by omega,
    by omega⟩, hword, ?_⟩
  have htype : byteAt (before ++ ace.bytes ++ after) before.length = ace.aceType :=
    hbyte 0 (by omega)
  have hflags : byteAt (before ++ ace.bytes ++ after) (before.length + 1) = ace.aceFlags :=
    hbyte 1 (by omega)
  rw [extentAt, htype, hflags, hmask]

/-- The entries of a well-formed list are the ones the walk comes to. -/
theorem positions_of_aces {base : Nat} (hbase : base % 4 = 0) (list : List Ace) :
    ∀ before after : List UInt8, before.length % 4 = 0 →
      (before ++ list.flatMap Ace.bytes ++ after).length < 65536 →
      base + (before ++ list.flatMap Ace.bytes ++ after).length ≤ usizeCount →
      (∀ p ∈ positions (before ++ list.flatMap Ace.bytes ++ after) list.length before.length,
        Entry (before ++ list.flatMap Ace.bytes ++ after) base p) ∧
      (positions (before ++ list.flatMap Ace.bytes ++ after) list.length before.length).map
        (extentAt (before ++ list.flatMap Ace.bytes ++ after)) =
          Acl.extents list before.length := by
  induction list with
  | nil => simp [positions, Acl.extents]
  | cons ace list ih =>
      intro before after hbefore hfits haddress
      have hsplit : before ++ (ace :: list).flatMap Ace.bytes ++ after =
          before ++ ace.bytes ++ (list.flatMap Ace.bytes ++ after) := by
        simp [List.append_assoc]
      have hnext : before ++ (ace :: list).flatMap Ace.bytes ++ after =
          before ++ ace.bytes ++ list.flatMap Ace.bytes ++ after := by
        simp [List.append_assoc]
      have hlength : (before ++ ace.bytes).length = before.length + ace.size := by
        rw [List.length_append, ace.length_bytes]
      have hentry := entry_of_ace before (list.flatMap Ace.bytes ++ after) hbefore hbase
        (hsplit ▸ hfits) (hsplit ▸ haddress)
      rw [← hsplit] at hentry
      obtain ⟨hplaced, hsize, hextent⟩ := hentry
      have hsizeMod := hplaced.size
      have hrest := ih (before ++ ace.bytes) after (by omega) (hnext ▸ hfits)
        (hnext ▸ haddress)
      rw [← hnext, hlength] at hrest
      obtain ⟨hplaces, hextents⟩ := hrest
      rw [List.length_cons, positions, hsize, List.forall_mem_cons, List.map_cons]
      exact ⟨⟨hplaced, hplaces⟩, by rw [hextent, hextents, Acl.extents]⟩

/-- Every entry takes sixteen bytes at least. -/
theorem length_le_aces (list : List Ace) :
    16 * list.length ≤ (list.flatMap Ace.bytes).length := by
  induction list with
  | nil => simp
  | cons ace list ih =>
      have hsize : 16 ≤ ace.size := by
        unfold Ace.size
        omega
      rw [List.flatMap_cons, List.length_append, ace.length_bytes, List.length_cons]
      omega

/-- **Every well-formed list is accepted**, with what its entries hold. -/
theorem validateAcl_bytes (acl : Acl) {base : Nat} (hbase : base % 4 = 0)
    (haddress : base + acl.bytes.length ≤ usizeCount) :
    validateAcl acl.bytes base = .ok (Acl.extents acl.aces 8) := by
  have hfits : acl.size < 65536 := acl.fits
  have hsize := acl.length_bytes
  have height := acl.length_header
  have hcount := length_le_aces acl.aces
  have htotal : acl.size = 8 + (acl.aces.flatMap Ace.bytes).length + acl.unused.length := rfl
  have hbyte : ∀ k, k < 8 → byteAt acl.bytes k = byteAt acl.header k := by
    intro k hk
    rw [Acl.bytes, List.append_assoc, byteAt, List.getElem?_append_left (by omega), byteAt]
  have haclSize : (wordAt acl.bytes 2).toNat = acl.size := by
    rw [wordAt, hbyte 2 (by omega), hbyte 3 (by omega)]
    exact toNat_leBytes_two hfits
  have haceCount : (wordAt acl.bytes 4).toNat = acl.aces.length := by
    rw [wordAt, hbyte 4 (by omega), hbyte 5 (by omega)]
    exact toNat_leBytes_two (by omega)
  have hwalk := positions_of_aces hbase acl.aces acl.header acl.unused (by omega)
    (show acl.bytes.length < 65536 by omega) haddress
  rw [height] at hwalk
  refine validateAcl_eq_ok.mpr ⟨hbase, by omega, by omega, ?_⟩
  rw [haceCount]
  exact hwalk

/-- **The walk over a discretionary access control list is contained and complete.**  For
every buffer and base address nothing is read outside the buffer, a walk that returns has
made sure of the extents, and every well-formed list that lies in the address space is
accepted with exactly the type, the flags, the mask and the identifier of each entry. -/
theorem daclWalk :
    (∀ acl base, validateAcl acl base ≠ .error .outOfBounds) ∧
    (∀ acl base found, base % 4 = 0 → validateAcl acl base = .ok found →
      Walked acl base found) ∧
    (∀ (acl : Acl) (base : Nat), base % 4 = 0 → base + acl.bytes.length ≤ usizeCount →
      validateAcl acl.bytes base = .ok (Acl.extents acl.aces 8)) :=
  ⟨validateAcl_contained, fun _ _ _ _ h => walked h,
    fun acl _ hbase haddress => validateAcl_bytes acl hbase haddress⟩

/-- Full access for one account, which has no padding, and for another one. -/
def sampleAcl : Acl where
  revision := 2
  sbz1 := 0
  sbz2 := [0, 0]
  aces := [
    { aceType := 0, aceFlags := 3, mask := 0x001F01FF, padding := [], padded := rfl,
      sid := { authority := [0, 0, 0, 0, 0, 5], subAuthorities := [18],
               length_authority := rfl, length_subAuthorities := by decide } },
    { aceType := 0, aceFlags := 3, mask := 0x001F01FF, padding := [0, 0, 0, 0], padded := rfl,
      sid := { authority := [0, 0, 0, 0, 0, 5], subAuthorities := [32, 544],
               length_authority := rfl, length_subAuthorities := by decide } }]
  unused := []
  length_sbz2 := rfl
  fits := by decide

theorem daclWalk_sample :
    validateAcl sampleAcl.bytes 4096 = .ok (Acl.extents sampleAcl.aces 8) ∧
      Walked sampleAcl.bytes 4096 (Acl.extents sampleAcl.aces 8) := by
  have hok := daclWalk.2.2 sampleAcl 4096 (by decide) (by decide)
  exact ⟨hok, daclWalk.2.1 _ _ _ (by decide) hok⟩

end FrametimeCfg.Verified.AclWalk
