import FrametimeCfg.Windows.Smbios
import Mathlib.Data.Bool.AllAny
import Mathlib.Data.List.Chain
import Mathlib.Data.List.Perm.Subperm

/-!
# The walk over the firmware structures

A table is a list of structures, and the code has to find them again before it can join the
devices to the channels.  This file says what a structure is, and that the walk comes to
exactly the structures that were put in; and it says of the join which lists have a topology
and what the topology is.

* `walk_bytes` — the walk folds `select` over the structures, in order.
* `foldlM_select_eq_ok` — what the fold keeps, and when it ends without an error.
* `joinChannels_eq_ok` — the join, in the same way.
* `memoryTopology` — the parts together.
-/

namespace FrametimeCfg.Verified.SmbiosWalk

open FrametimeCfg.Lib.Buffer
open FrametimeCfg.Lib.Checks
open FrametimeCfg.Lib.Wide
open FrametimeCfg.Windows.Smbios

/-! ## Structures -/

/-- **A firmware structure**: its kind and handle, the rest of its formatted part, and its
strings, which have no two zero bytes next to each other before their end. -/
structure Structure where
  kind : UInt8
  handle : UInt16
  body : List UInt8
  strings : List UInt8
  fits : body.length + 4 < 256
  noDoubleNul : (strings ++ [0]).IsChain fun a b => ¬ (a = 0 ∧ b = 0)

namespace Structure

/-- The formatted part. -/
def formatted (s : Structure) : List UInt8 :=
  [s.kind, UInt8.ofNat (s.body.length + 4)] ++ leBytes 2 s.handle.toNat ++ s.body

/-- The bytes of a structure. -/
def bytes (s : Structure) : List UInt8 := s.formatted ++ s.strings ++ [0, 0]

/-- The word of two bytes at an offset of the formatted part. -/
def wordAt (s : Structure) (i : Nat) : Nat :=
  leValue [byteAt s.formatted i, byteAt s.formatted (i + 1)]

/-- The Size field of a memory device. -/
def size (s : Structure) : Nat := s.wordAt 12

/-- The Extended Size field of a memory device. -/
def extendedSize (s : Structure) : Nat := leValue ((s.formatted.drop 28).take 4)

/-- A memory device with a module in it, of a known size. -/
def populated (s : Structure) : Bool := s.size ≠ 0 ∧ s.size ≠ 65535

/-- The number of devices of a memory channel. -/
def memberCount (s : Structure) : Nat := (byteAt s.formatted 6).toNat

/-- The handles of the devices of a memory channel. -/
def members (s : Structure) : List UInt16 :=
  (List.range' 0 s.memberCount).map fun i => UInt16.ofNat (s.wordAt (7 + i * 3 + 1))

/-- The channel as it is kept. -/
def channel (s : Structure) : MemoryChannel :=
  { handle := s.handle, deviceHandles := s.members }

/-- **A complete structure.**  A memory device has its size, and a memory channel all the
devices it declares. -/
structure Complete (s : Structure) : Prop where
  device : s.kind = 17 → 14 ≤ s.formatted.length ∧
    (s.size = 0x7fff → 32 ≤ s.formatted.length ∧ s.extendedSize ≠ 0)
  channel : s.kind = 37 → 7 + s.memberCount * 3 ≤ s.formatted.length

theorem length_formatted (s : Structure) : s.formatted.length = s.body.length + 4 := by
  simp [formatted, leBytes_length]
  omega

theorem length_bytes (s : Structure) :
    s.bytes.length = s.formatted.length + s.strings.length + 2 := by
  simp [bytes, Nat.add_assoc]

/-- The handle is read back. -/
theorem handle_eq (s : Structure) :
    UInt16.ofNat (leValue [byteAt s.formatted 2, byteAt s.formatted 3]) = s.handle := by
  show UInt16.ofNat (leValue (leBytes 2 s.handle.toNat)) = s.handle
  have hlt : s.handle.toNat < 256 ^ 2 := s.handle.toNat_lt
  rw [leValue_leBytes, Nat.mod_eq_of_lt hlt, UInt16.ofNat_toNat]

end Structure

/-- The table of a list of structures. -/
def table (list : List Structure) : List UInt8 := list.flatMap Structure.bytes

/-- The buffer of the firmware call: four bytes of a version, the length, the table. -/
def raw (version : List UInt8) (list : List Structure) : List UInt8 :=
  version ++ leBytes 4 (table list).length ++ table list

/-! ## The walk finds the structures -/

/-- Zero bytes next to each other end the strings, and nothing before does. -/
theorem doubleNul_strings {strings : List UInt8}
    (h : (strings ++ [0]).IsChain fun a b => ¬ (a = 0 ∧ b = 0)) (rest : List UInt8) :
    doubleNul (strings ++ [0, 0] ++ rest) = some strings.length := by
  induction strings with
  | nil => rfl
  | cons a strings ih =>
      cases strings with
      | nil =>
          have hpair : ¬ (a = 0 ∧ (0 : UInt8) = 0) := (List.isChain_cons_cons.mp h).1
          show doubleNul (a :: 0 :: 0 :: rest) = some 1
          rw [doubleNul, if_neg hpair]
          rfl
      | cons b strings =>
          obtain ⟨hpair, htail⟩ := List.isChain_cons_cons.mp h
          show doubleNul (a :: b :: (strings ++ [0, 0] ++ rest)) = _
          rw [doubleNul, if_neg hpair]
          have hrest := ih htail
          show (doubleNul (b :: strings ++ [0, 0] ++ rest)).map (· + 1) = _
          rw [hrest]
          rfl

/-- A structure is found where it was put. -/
theorem nextSmbiosStructure_bytes (before after : List UInt8) (s : Structure)
    (hfits : (before ++ s.bytes ++ after).length < usizeCount) :
    nextSmbiosStructure (before ++ s.bytes ++ after) before.length =
      .ok (s.formatted, before.length + s.bytes.length) := by
  have hformatted := s.length_formatted
  have hbytes := s.length_bytes
  have hbody := s.fits
  have hlength : (before ++ s.bytes ++ after).length =
      before.length + s.bytes.length + after.length := by
    rw [List.length_append, List.length_append]
  have hstrings : (before ++ s.bytes ++ after).drop (before.length + s.formatted.length) =
      s.strings ++ [0, 0] ++ after := by
    have hsplit : before ++ s.bytes ++ after =
        (before ++ s.formatted) ++ (s.strings ++ [0, 0] ++ after) := by
      simp [Structure.bytes, List.append_assoc]
    rw [hsplit, List.drop_left' (by rw [List.length_append])]
  have hfirst : ((before ++ s.bytes ++ after).drop before.length).take s.formatted.length =
      s.formatted := by
    have hsplit : before ++ s.bytes ++ after =
        before ++ (s.formatted ++ (s.strings ++ [0, 0] ++ after)) := by
      simp [Structure.bytes, List.append_assoc]
    rw [hsplit, List.drop_left, List.take_left]
  have hdeclared : (UInt8.ofNat (s.body.length + 4)).toNat = s.formatted.length := by
    rw [hformatted]
    exact Nat.mod_eq_of_lt hbody
  refine nextSmbiosStructure_eq_ok.mpr
    ⟨UInt8.ofNat (s.body.length + 4), s.strings.length, ?_, ?_⟩
  · rw [getElem_middle rfl (by omega)]
    rfl
  · rw [hdeclared, hstrings, hfirst]
    exact ⟨by omega, by omega, doubleNul_strings s.noDoubleNul after, by omega, rfl, by omega⟩

/-- **The walk folds over the structures**, in the order in which they were put there. -/
theorem walk_bytes (list : List Structure) : ∀ (before : List UInt8) (found : Found),
    (before ++ table list).length < usizeCount →
      walk (before ++ table list) before.length found =
        (list.map Structure.formatted).foldlM select found := by
  induction list with
  | nil =>
      intro before found _
      rw [walk, if_neg (by simp [table])]
      rfl
  | cons s list ih =>
      intro before found hfits
      have hsplit : before ++ table (s :: list) = before ++ s.bytes ++ table list := by
        simp [table, List.append_assoc]
      rw [hsplit] at hfits ⊢
      have hnext := nextSmbiosStructure_bytes before (table list) s hfits
      have hroom : before.length < (before ++ s.bytes ++ table list).length := by
        have hbytes := s.length_bytes
        rw [List.length_append, List.length_append]
        omega
      rw [walk, if_pos hroom, List.map_cons, List.foldlM_cons]
      split
      · next e he =>
          rw [hnext] at he
          cases he
      · next formatted stop heq =>
          obtain ⟨rfl, rfl⟩ := Prod.mk.inj (Except.ok.inj (hnext.symm.trans heq))
          have hlength : before.length + s.bytes.length = (before ++ s.bytes).length := by
            rw [List.length_append]
          rw [hlength]
          exact congrArg _ (funext fun found' => ih (before ++ s.bytes) found' hfits)

/-! ## What the fold keeps -/

theorem type17IsPopulated_eq_ok {s : Structure} {b : Bool} :
    type17IsPopulated s.formatted = .ok b ↔
      (14 ≤ s.formatted.length ∧
        (s.size = 0x7fff → 32 ≤ s.formatted.length ∧ s.extendedSize ≠ 0)) ∧
      s.populated = b := by
  simp only [type17IsPopulated, bind_eq_ok, reject_eq_ok, index_eq_ok, getElem_eq_some,
    and_assoc, exists_and_left, exists_eq_left', exists_const, decide_eq_false_iff_not, not_lt]
  have hsize : leValue [byteAt s.formatted 12, byteAt s.formatted 13] = s.size := rfl
  rw [hsize]
  by_cases hnone : s.size = 0 ∨ s.size = 65535
  · have hother : s.size ≠ 0x7fff := by omega
    have hpopulated : s.populated = false := by
      simp only [Structure.populated, decide_eq_false_iff_not]
      omega
    rw [if_pos hnone, hpopulated]
    constructor
    · rintro ⟨hlength, _, _, hb⟩
      exact ⟨hlength, fun h => absurd h hother, Except.ok.inj hb⟩
    · rintro ⟨hlength, _, hb⟩
      exact ⟨hlength, by omega, by omega, congrArg Except.ok hb⟩
  · have hpopulated : s.populated = true := by
      simp only [Structure.populated, decide_eq_true_eq]
      omega
    rw [if_neg hnone, hpopulated]
    by_cases hextended : s.size = 0x7fff
    · rw [if_pos hextended]
      simp only [bind_eq_ok, reject_eq_ok, slice, okOr_eq_ok, get_eq_some, and_assoc,
        exists_and_left, exists_eq_left', exists_const, decide_eq_false_iff_not, not_lt]
      constructor
      · rintro ⟨hlength, _, _, hroom, _, _, hvalue, hb⟩
        exact ⟨hlength, fun _ => ⟨hroom, hvalue⟩, Except.ok.inj hb⟩
      · rintro ⟨hlength, hmore, hb⟩
        obtain ⟨hroom, hvalue⟩ := hmore hextended
        exact ⟨hlength, by omega, by omega, hroom, by omega, hroom, hvalue,
          congrArg Except.ok hb⟩
    · rw [if_neg hextended]
      constructor
      · rintro ⟨hlength, _, _, hb⟩
        exact ⟨hlength, fun h => absurd h hextended, Except.ok.inj hb⟩
      · rintro ⟨hlength, _, hb⟩
        exact ⟨hlength, by omega, by omega, congrArg Except.ok hb⟩

theorem deviceHandles_eq_ok {formatted : List UInt8} {count i : Nat} {handles : List UInt16}
    (h : 7 + (i + count) * 3 ≤ formatted.length) :
    deviceHandles formatted count i = .ok handles ↔
      (List.range' i count).map (fun j => UInt16.ofNat (leValue
        [byteAt formatted (7 + j * 3 + 1), byteAt formatted (7 + j * 3 + 2)])) = handles := by
  induction count generalizing i handles with
  | zero => simp [deviceHandles, pure, Except.pure]
  | succ count ih =>
      simp only [deviceHandles, bind_eq_ok, index_eq_ok, getElem_eq_some, and_assoc,
        exists_and_left, exists_eq_left', List.range'_succ, List.map_cons]
      constructor
      · rintro ⟨_, _, rest, hrest, hhandles⟩
        rw [(ih (by omega)).mp hrest]
        exact Except.ok.inj hhandles
      · intro hhandles
        exact ⟨by omega, by omega, _, (ih (by omega)).mpr rfl, congrArg Except.ok hhandles⟩

theorem parseType37Channel_eq_ok {s : Structure} {channel : MemoryChannel} :
    parseType37Channel s.handle s.formatted = .ok channel ↔
      7 + s.memberCount * 3 ≤ s.formatted.length ∧ s.channel = channel := by
  have hcount : s.memberCount < 256 := (byteAt s.formatted 6).toNat_lt
  simp only [parseType37Channel, bind_eq_ok, reject_eq_ok, okOr_eq_ok, checkedMul_eq_some,
    checkedAdd_eq_some, index_eq_ok, getElem_eq_some, and_assoc, exists_and_left,
    exists_eq_left', exists_const, decide_eq_false_iff_not, not_lt]
  have hmembers : (byteAt s.formatted 6).toNat = s.memberCount := rfl
  rw [hmembers]
  unfold usizeCount
  constructor
  · rintro ⟨_, _, _, _, hroom, handles, hhandles, hchannel⟩
    rw [deviceHandles_eq_ok (by omega)] at hhandles
    subst hhandles
    exact ⟨by omega, Except.ok.inj hchannel⟩
  · rintro ⟨hroom, hchannel⟩
    exact ⟨by omega, by omega, by omega, by omega, by omega, _,
      (deviceHandles_eq_ok (by omega)).mpr rfl, congrArg Except.ok hchannel⟩

/-- The memory devices. -/
def devices (list : List Structure) : List Structure := list.filter (·.kind = 17)

/-- The memory channels. -/
def channels (list : List Structure) : List Structure := list.filter (·.kind = 37)

/-- The handles of both, in order. -/
def selectedHandles (list : List Structure) : List UInt16 :=
  (list.filter fun s => s.kind = 17 ∨ s.kind = 37).map Structure.handle

/-- What is kept of a memory device. -/
def deviceEntry (s : Structure) : UInt16 × Bool := (s.handle, s.populated)

/-- What is kept after a list of structures. -/
def keep (found : Found) (list : List Structure) : Found where
  devices := found.devices ++ (devices list).map deviceEntry
  channels := found.channels ++ (channels list).map Structure.channel
  seenSelectedHandles := found.seenSelectedHandles ++ selectedHandles list

/-- The handles of the devices are among the handles that were seen. -/
def Known (found : Found) : Prop :=
  ∀ entry ∈ found.devices, entry.1 ∈ found.seenSelectedHandles

theorem keep_nil (found : Found) : keep found [] = found := by
  simp [keep, devices, channels, selectedHandles]

theorem keep_cons (found : Found) (s : Structure) (list : List Structure) :
    keep (keep found [s]) list = keep found (s :: list) := by
  by_cases h17 : s.kind = 17
  · simp [keep, devices, channels, selectedHandles, h17]
  · by_cases h37 : s.kind = 37
    · simp [keep, devices, channels, selectedHandles, h37]
    · simp [keep, devices, channels, selectedHandles, h17, h37]

/-- One round: a complete structure with a handle of its own. -/
theorem select_eq_ok {found found' : Found} (hknown : Known found) {s : Structure} :
    select found s.formatted = .ok found' ↔
      s.Complete ∧ (∀ h ∈ selectedHandles [s], h ∉ found.seenSelectedHandles) ∧
        keep found [s] = found' := by
  have hlength := s.length_formatted
  have hkind : byteAt s.formatted 0 = s.kind := rfl
  simp only [select, bind_eq_ok, index_eq_ok, getElem_eq_some, and_assoc, exists_and_left,
    exists_eq_left', s.handle_eq, hkind]
  by_cases h17 : s.kind = 17
  · have hne : ¬ s.kind = 37 := by
      rw [h17]
      decide
    have hkeep : keep found [s] = { found with
        devices := found.devices ++ [(s.handle, s.populated)]
        seenSelectedHandles := found.seenSelectedHandles ++ [s.handle] } := by
      simp [keep, devices, channels, selectedHandles, deviceEntry, h17]
    have hselected : selectedHandles [s] = [s.handle] := by simp [selectedHandles, h17]
    rw [if_pos h17, hkeep, hselected, List.forall_mem_singleton]
    simp only [bind_eq_ok, reject_eq_ok, exists_const, Bool.or_eq_false_iff,
      type17IsPopulated_eq_ok]
    constructor
    · rintro ⟨_, _, _, ⟨hseen, _⟩, populated, ⟨hcomplete, rfl⟩, hfound⟩
      have hfresh : s.handle ∉ found.seenSelectedHandles := by simpa using hseen
      exact ⟨⟨fun _ => hcomplete, fun h => absurd h hne⟩, hfresh, Except.ok.inj hfound⟩
    · rintro ⟨hcomplete, hfresh, hfound⟩
      have hdevices : ((found.devices.map Prod.fst).contains s.handle) = false := by
        rw [Bool.eq_false_iff]
        intro hcontains
        obtain ⟨entry, hentry, heq⟩ := List.mem_map.mp (List.contains_iff_mem.mp hcontains)
        exact hfresh (heq ▸ hknown entry hentry)
      exact ⟨by omega, by omega, by omega, ⟨by simpa using hfresh, hdevices⟩, s.populated,
        ⟨hcomplete.device h17, rfl⟩, congrArg Except.ok hfound⟩
  · rw [if_neg h17]
    by_cases h37 : s.kind = 37
    · have hkeep : keep found [s] = { found with
          channels := found.channels ++ [s.channel]
          seenSelectedHandles := found.seenSelectedHandles ++ [s.handle] } := by
        simp [keep, devices, channels, selectedHandles, h37]
      have hselected : selectedHandles [s] = [s.handle] := by simp [selectedHandles, h37]
      rw [if_pos h37, hkeep, hselected, List.forall_mem_singleton]
      simp only [bind_eq_ok, reject_eq_ok, exists_const, parseType37Channel_eq_ok]
      constructor
      · rintro ⟨_, _, _, hseen, channel, ⟨hcomplete, rfl⟩, hfound⟩
        have hfresh : s.handle ∉ found.seenSelectedHandles := by simpa using hseen
        exact ⟨⟨fun h => absurd h h17, fun _ => hcomplete⟩, hfresh, Except.ok.inj hfound⟩
      · rintro ⟨hcomplete, hfresh, hfound⟩
        exact ⟨by omega, by omega, by omega, by simpa using hfresh, s.channel,
          ⟨hcomplete.channel h37, rfl⟩, congrArg Except.ok hfound⟩
    · have hkeep : keep found [s] = found := by
        simp [keep, devices, channels, selectedHandles, h17, h37]
      have hselected : selectedHandles [s] = [] := by simp [selectedHandles, h17, h37]
      rw [if_neg h37, hkeep, hselected]
      constructor
      · rintro ⟨_, _, _, hfound⟩
        exact ⟨⟨fun h => absurd h h17, fun h => absurd h h37⟩, by simp, Except.ok.inj hfound⟩
      · rintro ⟨_, _, hfound⟩
        exact ⟨by omega, by omega, by omega, congrArg Except.ok hfound⟩

theorem selectedHandles_cons (s : Structure) (list : List Structure) :
    selectedHandles (s :: list) = selectedHandles [s] ++ selectedHandles list := by
  by_cases h : s.kind = 17 ∨ s.kind = 37
  · simp [selectedHandles, h]
  · simp [selectedHandles, h]

/-- The handles of one round stay known. -/
theorem known_keep {found : Found} (hknown : Known found) (s : Structure) :
    Known (keep found [s]) := by
  intro entry hentry
  rcases List.mem_append.mp hentry with hold | hnew
  · exact List.mem_append_left _ (hknown entry hold)
  · refine List.mem_append_right _ ?_
    obtain ⟨d, hd, rfl⟩ := List.mem_map.mp hnew
    obtain ⟨hmem, hkind⟩ := List.mem_filter.mp hd
    exact List.mem_map.mpr ⟨d, List.mem_filter.mpr ⟨hmem, by simp_all⟩, rfl⟩

/-- **What the fold keeps**, and when it ends without an error. -/
theorem foldlM_select_eq_ok {list : List Structure} {found found' : Found}
    (hknown : Known found) :
    (list.map Structure.formatted).foldlM select found = .ok found' ↔
      (∀ s ∈ list, s.Complete) ∧ (selectedHandles list).Nodup ∧
        (∀ h ∈ selectedHandles list, h ∉ found.seenSelectedHandles) ∧
        keep found list = found' := by
  induction list generalizing found with
  | nil => simp [keep_nil, selectedHandles, pure, Except.pure]
  | cons s list ih =>
      rw [List.map_cons, List.foldlM_cons, bind_eq_ok, List.forall_mem_cons,
        selectedHandles_cons, List.nodup_append, List.forall_mem_append]
      have hsole : (selectedHandles [s]).Nodup := by
        by_cases h : s.kind = 17 ∨ s.kind = 37
        · simp [selectedHandles, h]
        · simp [selectedHandles, h]
      constructor
      · rintro ⟨next, hnext, hrest⟩
        obtain ⟨hcomplete, hfresh, rfl⟩ := (select_eq_ok hknown).mp hnext
        obtain ⟨hcompletes, hnodup, hfreshes, hfound⟩ := (ih (known_keep hknown s)).mp hrest
        rw [keep_cons] at hfound
        refine ⟨⟨hcomplete, hcompletes⟩, ⟨hsole, hnodup, ?_⟩, ⟨hfresh, ?_⟩, hfound⟩
        · intro h hh h' hh' heq
          exact hfreshes h' hh' (List.mem_append_right _ (heq ▸ hh))
        · exact fun h hh hseen => hfreshes h hh (List.mem_append_left _ hseen)
      · rintro ⟨⟨hcomplete, hcompletes⟩, ⟨_, hnodup, hapart⟩, ⟨hfresh, hfreshes⟩, hfound⟩
        refine ⟨keep found [s], (select_eq_ok hknown).mpr ⟨hcomplete, hfresh, rfl⟩, ?_⟩
        refine (ih (known_keep hknown s)).mpr ⟨hcompletes, hnodup, ?_, ?_⟩
        · intro h hh hseen
          rcases List.mem_append.mp hseen with hold | hnew
          · exact hfreshes h hh hold
          · exact hapart h hnew h hh rfl
        · rw [keep_cons]
          exact hfound

/-! ## The join -/

/-- A device that is there and populated. -/
def isPopulated (entries : List (UInt16 × Bool)) (handle : UInt16) : Bool :=
  entries.lookup handle = some true

theorem joinDevices_eq_ok {entries : List (UInt16 × Bool)} {handles : List UInt16} :
    ∀ {membership populated membership' : List UInt16},
      joinDevices entries handles membership = .ok (populated, membership') ↔
        (∀ h ∈ handles, ∃ b, entries.lookup h = some b) ∧ handles.Nodup ∧
          (∀ h ∈ handles, h ∉ membership) ∧ handles.filter (isPopulated entries) = populated ∧
          membership ++ handles = membership' := by
  induction handles with
  | nil => simp [joinDevices]
  | cons h handles ih =>
      intro membership populated membership'
      simp only [joinDevices, bind_eq_ok, okOr_eq_ok, reject_eq_ok, exists_const, Prod.exists,
        ih, List.forall_mem_cons, List.nodup_cons]
      constructor
      · rintro ⟨b, hlookup, hfresh, _, _, ⟨hknown, hnodup, hapart, rfl, rfl⟩, hresult⟩
        obtain ⟨hpopulated, hmembership⟩ := Prod.mk.inj (Except.ok.inj hresult)
        refine ⟨⟨⟨b, hlookup⟩, hknown⟩, ⟨?_, hnodup⟩, ⟨by simpa using hfresh, ?_⟩, ?_, ?_⟩
        · exact fun hmem => hapart h hmem (by simp)
        · exact fun h' hmem hold => hapart h' hmem (List.mem_append_left _ hold)
        · rw [← hpopulated, List.filter_cons, isPopulated, hlookup]
          cases b <;> rfl
        · rw [← hmembership, List.append_assoc]
          rfl
      · rintro ⟨⟨⟨b, hlookup⟩, hknown⟩, ⟨hne, hnodup⟩, ⟨hfresh, hapart⟩, hpopulated,
          hmembership⟩
        refine ⟨b, hlookup, by simpa using hfresh, _, _, ⟨hknown, hnodup, ?_, rfl, rfl⟩, ?_⟩
        · intro h' hmem hold
          rcases List.mem_append.mp hold with hold | hnew
          · exact hapart h' hmem hold
          · rw [List.mem_singleton] at hnew
            exact hne (hnew ▸ hmem)
        · rw [← hpopulated, ← hmembership, List.filter_cons, isPopulated, hlookup,
            List.append_assoc]
          cases b <;> rfl

/-- A channel with its populated members, where it has one. -/
def populatedPart (entries : List (UInt16 × Bool)) (channel : MemoryChannel) :
    Option MemoryChannel :=
  if channel.deviceHandles.filter (isPopulated entries) = [] then none
  else some { handle := channel.handle
              deviceHandles := channel.deviceHandles.filter (isPopulated entries) }

/-- **The join** succeeds exactly when every member is a device, and listed once. -/
theorem joinChannels_eq_ok {entries : List (UInt16 × Bool)} {list : List MemoryChannel} :
    ∀ {membership : List UInt16} {joined : List MemoryChannel} {membership' : List UInt16},
      joinChannels entries list membership = .ok (joined, membership') ↔
        (∀ h ∈ list.flatMap MemoryChannel.deviceHandles, ∃ b, entries.lookup h = some b) ∧
          (list.flatMap MemoryChannel.deviceHandles).Nodup ∧
          (∀ h ∈ list.flatMap MemoryChannel.deviceHandles, h ∉ membership) ∧
          list.filterMap (populatedPart entries) = joined ∧
          membership ++ list.flatMap MemoryChannel.deviceHandles = membership' := by
  induction list with
  | nil => simp [joinChannels]
  | cons c list ih =>
      intro membership joined membership'
      simp only [joinChannels, bind_eq_ok, Prod.exists, joinDevices_eq_ok, ih,
        List.flatMap_cons, List.forall_mem_append, List.nodup_append]
      have hcons : ∀ populated : List UInt16,
          c.deviceHandles.filter (isPopulated entries) = populated →
          (c :: list).filterMap (populatedPart entries) =
            if populated = [] then list.filterMap (populatedPart entries)
            else { handle := c.handle, deviceHandles := populated } ::
              list.filterMap (populatedPart entries) := by
        rintro populated rfl
        rw [List.filterMap_cons, populatedPart]
        by_cases h : c.deviceHandles.filter (isPopulated entries) = []
        · rw [if_pos h, if_pos h]
        · rw [if_neg h, if_neg h]
      constructor
      · rintro ⟨populated, between, ⟨hknown, hnodup, hapart, hpopulated, rfl⟩, _, _,
          ⟨hknowns, hnodups, haparts, rfl, rfl⟩, hresult⟩
        obtain ⟨hjoined, hmembership⟩ := Prod.mk.inj (Except.ok.inj hresult)
        refine ⟨⟨hknown, hknowns⟩, ⟨hnodup, hnodups, ?_⟩, ⟨hapart, ?_⟩, ?_, ?_⟩
        · exact fun h hh h' hh' heq => haparts h' hh' (List.mem_append_right _ (heq ▸ hh))
        · exact fun h hh hold => haparts h hh (List.mem_append_left _ hold)
        · rw [hcons populated hpopulated, hjoined]
        · rw [← hmembership, List.append_assoc]
      · rintro ⟨⟨hknown, hknowns⟩, ⟨hnodup, hnodups, hdisjoint⟩, ⟨hapart, haparts⟩, hjoined,
          hmembership⟩
        refine ⟨_, _, ⟨hknown, hnodup, hapart, rfl, rfl⟩, _, _,
          ⟨hknowns, hnodups, ?_, rfl, rfl⟩, ?_⟩
        · intro h hh hold
          rcases List.mem_append.mp hold with hold | hnew
          · exact haparts h hh hold
          · exact hdisjoint h hnew h hh rfl
        · rw [← hjoined, ← hmembership, hcons _ rfl, List.append_assoc]
          rfl

/-! ## Topologies -/

/-- Whether the list has a populated device with the handle. -/
def populatedHandle (list : List Structure) (handle : UInt16) : Bool :=
  (devices list).any fun d => d.handle = handle ∧ d.populated

/-- **Consistent references.**  Handles are not repeated, and every member of a channel is a
device and listed once. -/
structure Consistent (list : List Structure) : Prop where
  unique : (selectedHandles list).Nodup
  known : ∀ c ∈ channels list, ∀ h ∈ c.members, ∃ d ∈ devices list, d.handle = h
  once : ((channels list).flatMap Structure.members).Nodup

/-- **A usable mapping.**  A device is populated, and every populated device is in a
channel. -/
structure Usable (list : List Structure) : Prop where
  populated : ∃ d ∈ devices list, d.populated
  mapped : ∀ d ∈ devices list, d.populated → ∃ c ∈ channels list, d.handle ∈ c.members

/-- The populated members of a channel, where it has one. -/
def populatedChannel (list : List Structure) (c : Structure) : Option MemoryChannel :=
  if c.members.filter (populatedHandle list) = [] then none
  else some { handle := c.handle, deviceHandles := c.members.filter (populatedHandle list) }

/-- The topology of a list. -/
def topologyOf (list : List Structure) : MemoryTopology where
  channelCount := UInt16.ofNat (channels list).length
  populatedChannels := (channels list).filterMap (populatedChannel list)

/-- What is looked up of a device that was kept. -/
theorem lookup_deviceEntry {ds : List Structure} (h : (ds.map Structure.handle).Nodup)
    {handle : UInt16} {b : Bool} :
    (ds.map deviceEntry).lookup handle = some b ↔
      ∃ d ∈ ds, d.handle = handle ∧ d.populated = b := by
  induction ds with
  | nil => simp
  | cons d ds ih =>
      rw [List.map_cons, List.nodup_cons] at h
      rw [List.map_cons, deviceEntry, List.lookup_cons]
      by_cases heq : handle = d.handle
      · subst heq
        simp only [beq_self_eq_true, List.mem_cons]
        constructor
        · intro hb
          exact ⟨d, .inl rfl, rfl, Option.some.inj hb⟩
        · rintro ⟨d', rfl | hd', hhandle, rfl⟩
          · rfl
          · exact absurd (List.mem_map.mpr ⟨d', hd', hhandle⟩) h.1
      · have hbeq : (handle == d.handle) = false := by simpa using heq
        simp only [hbeq, ih h.2, List.mem_cons]
        constructor
        · rintro ⟨d', hd', hrest⟩
          exact ⟨d', .inr hd', hrest⟩
        · rintro ⟨d', rfl | hd', hhandle, hb⟩
          · exact absurd hhandle.symm heq
          · exact ⟨d', hd', hhandle, hb⟩

theorem nodup_devices {list : List Structure} (h : (selectedHandles list).Nodup) :
    ((devices list).map Structure.handle).Nodup := by
  refine h.sublist (List.Sublist.map _ (List.monotone_filter_right list fun s hs => ?_))
  simp_all

/-- A handle is that of a populated device in both senses. -/
theorem isPopulated_deviceEntry {list : List Structure} (h : (selectedHandles list).Nodup) :
    isPopulated ((devices list).map deviceEntry) = populatedHandle list := by
  funext handle
  rw [Bool.eq_iff_iff, isPopulated, decide_eq_true_iff, lookup_deviceEntry (nodup_devices h),
    populatedHandle, List.any_eq_true]
  simp

theorem length_selectedHandles (list : List Structure) :
    (devices list).length + (channels list).length = (selectedHandles list).length := by
  induction list with
  | nil => rfl
  | cons s list ih =>
      rw [selectedHandles_cons, List.length_append, ← ih]
      by_cases h17 : s.kind = 17
      · simp [devices, channels, selectedHandles, h17]
        omega
      · by_cases h37 : s.kind = 37
        · simp [devices, channels, selectedHandles, h37]
          omega
        · simp [devices, channels, selectedHandles, h17, h37]

/-- There are no more handles than values of two bytes. -/
theorem length_le_of_nodup {handles : List UInt16} (h : handles.Nodup) :
    handles.length ≤ 65536 := by
  have hnodup : (handles.map UInt16.toNat).Nodup :=
    List.pairwise_map.mpr (h.imp fun hne heq => hne (UInt16.toNat_inj.mp heq))
  have hsubset : handles.map UInt16.toNat ⊆ List.range 65536 := by
    intro n hn
    obtain ⟨handle, _, rfl⟩ := List.mem_map.mp hn
    exact List.mem_range.mpr handle.toNat_lt
  have hle := (hnodup.subperm hsubset).length_le
  rwa [List.length_map, List.length_range] at hle

/-- Where a device is populated, one of the handles is not a channel's. -/
theorem length_channels_le {list : List Structure} (h : (selectedHandles list).Nodup)
    (husable : Usable list) : (channels list).length ≤ 65535 := by
  obtain ⟨d, hd, _⟩ := husable.populated
  have hdevice := List.length_pos_of_mem hd
  have hsum := length_selectedHandles list
  have hle := length_le_of_nodup h
  omega

/-- The two tests of the code after the join. -/
theorem usable_iff {list : List Structure} :
    Usable list ↔ (channels list).filterMap (populatedChannel list) ≠ [] ∧
      ((((devices list).map deviceEntry).filter fun entry => entry.2).all fun entry =>
        ((channels list).flatMap Structure.members).contains entry.1) = true := by
  have hmapped : ((((devices list).map deviceEntry).filter fun entry => entry.2).all
      fun entry => ((channels list).flatMap Structure.members).contains entry.1) = true ↔
        ∀ d ∈ devices list, d.populated → ∃ c ∈ channels list, d.handle ∈ c.members := by
    rw [List.all_eq_true]
    constructor
    · intro hall d hd hpopulated
      have hentry : deviceEntry d ∈ ((devices list).map deviceEntry).filter fun e => e.2 :=
        List.mem_filter.mpr ⟨List.mem_map.mpr ⟨d, hd, rfl⟩, hpopulated⟩
      exact List.mem_flatMap.mp (List.contains_iff_mem.mp (hall _ hentry))
    · intro hall entry hentry
      obtain ⟨hmem, hpopulated⟩ := List.mem_filter.mp hentry
      obtain ⟨d, hd, rfl⟩ := List.mem_map.mp hmem
      exact List.contains_iff_mem.mpr (List.mem_flatMap.mpr (hall d hd hpopulated))
  have hsome : (channels list).filterMap (populatedChannel list) ≠ [] ↔
      ∃ c ∈ channels list, ∃ h ∈ c.members, ∃ d ∈ devices list, d.handle = h ∧ d.populated := by
    rw [ne_eq, List.filterMap_eq_nil_iff]
    push Not
    refine exists_congr fun c => and_congr_right fun _ => ?_
    rw [populatedChannel]
    by_cases hnone : c.members.filter (populatedHandle list) = []
    · rw [if_pos hnone]
      rw [List.filter_eq_nil_iff] at hnone
      simp only [populatedHandle, List.any_eq_true, decide_eq_true_eq] at hnone
      constructor
      · exact fun hne => absurd rfl hne
      · rintro ⟨handle, hmember, d, hd, heq, hpopulated⟩
        exact absurd ⟨d, hd, heq, hpopulated⟩ (hnone handle hmember)
    · rw [if_neg hnone]
      rw [List.filter_eq_nil_iff] at hnone
      simpa [populatedHandle] using hnone
  rw [hmapped, hsome]
  constructor
  · rintro ⟨⟨d, hd, hpopulated⟩, hall⟩
    obtain ⟨c, hc, hmember⟩ := hall d hd hpopulated
    exact ⟨⟨c, hc, d.handle, hmember, d, hd, rfl, hpopulated⟩, hall⟩
  · rintro ⟨⟨_, _, _, _, d, hd, _, hpopulated⟩, hall⟩
    exact ⟨⟨d, hd, hpopulated⟩, hall⟩

/-- The join of what was kept. -/
theorem joinChannels_keep {list : List Structure} (h : (selectedHandles list).Nodup)
    {joined : List MemoryChannel} {membership : List UInt16} :
    joinChannels (keep {} list).devices (keep {} list).channels [] =
        .ok (joined, membership) ↔
      Consistent list ∧ (channels list).filterMap (populatedChannel list) = joined ∧
        (channels list).flatMap Structure.members = membership := by
  have hdevices : (keep {} list).devices = (devices list).map deviceEntry := rfl
  have hchannels : (keep {} list).channels = (channels list).map Structure.channel := rfl
  have hmembers : ((channels list).map Structure.channel).flatMap MemoryChannel.deviceHandles =
      (channels list).flatMap Structure.members := by
    rw [List.flatMap_map]
    rfl
  have hpart : ((channels list).map Structure.channel).filterMap
      (populatedPart ((devices list).map deviceEntry)) =
        (channels list).filterMap (populatedChannel list) := by
    rw [List.filterMap_map]
    congr 1
    funext c
    simp only [Function.comp_apply, populatedPart, populatedChannel, isPopulated_deviceEntry h]
    rfl
  rw [hdevices, hchannels, joinChannels_eq_ok, hmembers, hpart, List.nil_append]
  simp only [lookup_deviceEntry (nodup_devices h), List.mem_flatMap]
  constructor
  · rintro ⟨hknown, honce, _, hjoined, hmembership⟩
    refine ⟨⟨h, ?_, honce⟩, hjoined, hmembership⟩
    intro c hc handle hhandle
    obtain ⟨_, d, hd, heq, _⟩ := hknown handle ⟨c, hc, hhandle⟩
    exact ⟨d, hd, heq⟩
  · rintro ⟨hconsistent, hjoined, hmembership⟩
    refine ⟨?_, hconsistent.once, by simp, hjoined, hmembership⟩
    rintro handle ⟨c, hc, hhandle⟩
    obtain ⟨d, hd, heq⟩ := hconsistent.known c hc handle hhandle
    exact ⟨d.populated, d, hd, heq, rfl⟩

/-- The outcome for what was kept of handles that are not repeated. -/
theorem topology_keep {list : List Structure} (h : (selectedHandles list).Nodup) :
    (∀ t, topology (keep {} list) = .ok (some t) ↔
      Consistent list ∧ Usable list ∧ topologyOf list = t) ∧
    (topology (keep {} list) = .ok none ↔
      Consistent list ∧ ¬ Usable list ∧ (channels list).length ≤ 65535) := by
  have hlength : (keep {} list).channels.length = (channels list).length := by simp [keep]
  have hentries : (keep {} list).devices = (devices list).map deviceEntry := rfl
  by_cases hnone : channels list = []
  · have hunusable : ¬ Usable list := by
      intro husable
      obtain ⟨d, hd, hpopulated⟩ := husable.populated
      obtain ⟨c, hc, _⟩ := husable.mapped d hd hpopulated
      rw [hnone] at hc
      cases hc
    have hconsistent : Consistent list := ⟨h, by simp [hnone], by simp [hnone]⟩
    have hkept : (keep {} list).channels = [] := by simp [keep, hnone]
    rw [topology, if_pos hkept]
    constructor
    · intro t
      constructor
      · intro hresult
        cases Except.ok.inj hresult
      · exact fun hall => absurd hall.2.1 hunusable
    · exact iff_of_true rfl ⟨hconsistent, hunusable, by simp [hnone]⟩
  · have hkept : ¬ (keep {} list).channels = [] := by simpa [keep] using hnone
    rw [topology, if_neg hkept]
    simp only [bind_eq_ok, reject_eq_ok, exists_const, Prod.exists, joinChannels_keep h,
      decide_eq_false_iff_not, not_lt, hlength]
    simp only [hentries]
    by_cases husable : Usable list
    · obtain ⟨hsome, hall⟩ := usable_iff.mp husable
      have htest : ¬ ((channels list).filterMap (populatedChannel list) = [] ∨
          ((((devices list).map deviceEntry).filter fun entry => entry.2).all fun entry =>
            ((channels list).flatMap Structure.members).contains entry.1) = false) := by
        simp only [hsome, hall, false_or, Bool.true_eq_false, not_false_eq_true]
      constructor
      · intro t
        constructor
        · rintro ⟨_, _, _, ⟨hconsistent, rfl, rfl⟩, hresult⟩
          rw [if_neg htest] at hresult
          exact ⟨hconsistent, husable, Option.some.inj (Except.ok.inj hresult)⟩
        · rintro ⟨hconsistent, _, ht⟩
          refine ⟨length_channels_le h husable, _, _, ⟨hconsistent, rfl, rfl⟩, ?_⟩
          rw [if_neg htest, ← ht]
          rfl
      · constructor
        · rintro ⟨_, _, _, ⟨_, rfl, rfl⟩, hresult⟩
          rw [if_neg htest] at hresult
          cases Except.ok.inj hresult
        · exact fun hall' => absurd husable hall'.2.1
    · have htest : (channels list).filterMap (populatedChannel list) = [] ∨
          ((((devices list).map deviceEntry).filter fun entry => entry.2).all fun entry =>
            ((channels list).flatMap Structure.members).contains entry.1) = false := by
        by_contra hno
        rw [not_or, Bool.not_eq_false] at hno
        exact husable (usable_iff.mpr hno)
      constructor
      · intro t
        constructor
        · rintro ⟨_, _, _, ⟨_, rfl, rfl⟩, hresult⟩
          rw [if_pos htest] at hresult
          cases Except.ok.inj hresult
        · exact fun hall => absurd hall.2.1 husable
      · constructor
        · rintro ⟨hbound, _, _, ⟨hconsistent, _, _⟩, _⟩
          exact ⟨hconsistent, husable, hbound⟩
        · rintro ⟨hconsistent, _, hbound⟩
          refine ⟨hbound, _, _, ⟨hconsistent, rfl, rfl⟩, ?_⟩
          rw [if_pos htest]
          rfl

/-! ## Nothing is read outside the buffer -/

theorem type17IsPopulated_contained (formatted : List UInt8) :
    Contained (type17IsPopulated formatted) := by
  refine .bind (.reject _ _) fun _ hlength => ?_
  have hroom : 14 ≤ formatted.length :=
    Nat.le_of_not_lt (decide_eq_false_iff_not.mp (reject_eq_ok.mp hlength))
  refine .bind (.index (by omega)) fun _ _ => .bind (.index (by omega)) fun _ _ =>
    .ite (fun _ => .ok _) fun _ => .ite (fun _ => ?_) fun _ => .ok _
  refine .bind (.reject _ _) fun _ hmore => ?_
  have hroom' : 32 ≤ formatted.length :=
    Nat.le_of_not_lt (decide_eq_false_iff_not.mp (reject_eq_ok.mp hmore))
  exact .bind (.slice (by omega) hroom') fun _ _ => .bind (.reject _ _) fun _ _ => .ok _

theorem deviceHandles_contained {formatted : List UInt8} {count i : Nat}
    (h : 7 + (i + count) * 3 ≤ formatted.length) :
    Contained (deviceHandles formatted count i) := by
  induction count generalizing i with
  | zero => exact .ok _
  | succ count ih =>
      exact .bind (.index (by omega)) fun _ _ => .bind (.index (by omega)) fun _ _ =>
        .bind (ih (by omega)) fun _ _ => .ok _

theorem parseType37Channel_contained (handle : UInt16) (formatted : List UInt8) :
    Contained (parseType37Channel handle formatted) := by
  refine .bind (.reject _ _) fun _ hlength => ?_
  have hroom : 7 ≤ formatted.length :=
    Nat.le_of_not_lt (decide_eq_false_iff_not.mp (reject_eq_ok.mp hlength))
  refine .bind (.index (by omega)) fun byte _ => .bind (.okOr _ _) fun devices hdevices =>
    .bind (.okOr _ _) fun required hrequired => .bind (.reject _ _) fun _ hmore => ?_
  obtain ⟨-, rfl⟩ := checkedMul_eq_some.mp (okOr_eq_ok.mp hdevices)
  obtain ⟨-, rfl⟩ := checkedAdd_eq_some.mp (okOr_eq_ok.mp hrequired)
  have hroom' : ¬ formatted.length < 7 + byte.toNat * 3 :=
    decide_eq_false_iff_not.mp (reject_eq_ok.mp hmore)
  exact .bind (deviceHandles_contained (by omega)) fun _ _ => .ok _

theorem select_contained (found : Found) {formatted : List UInt8}
    (h : 4 ≤ formatted.length) : Contained (select found formatted) :=
  .bind (.index (by omega)) fun _ _ => .bind (.index (by omega)) fun _ _ =>
    .bind (.index (by omega)) fun _ _ => .ite
      (fun _ => .bind (.reject _ _) fun _ _ =>
        .bind (type17IsPopulated_contained _) fun _ _ => .ok _)
      fun _ => .ite
        (fun _ => .bind (.reject _ _) fun _ _ =>
          .bind (parseType37Channel_contained _ _) fun _ _ => .ok _)
        fun _ => .ok _

theorem nextSmbiosStructure_contained (tbl : List UInt8) (start : Nat) :
    Contained (nextSmbiosStructure tbl start) := by
  refine .bind (.okOr _ _) fun headerEnd hheader => ?_
  obtain ⟨hadd, hroom⟩ := Option.filter_eq_some_iff.mp (okOr_eq_ok.mp hheader)
  obtain ⟨-, rfl⟩ := checkedAdd_eq_some.mp hadd
  have hend : start + 4 ≤ tbl.length := of_decide_eq_true hroom
  refine .bind (.index (by omega)) fun length _ => .bind (.reject _ _) fun _ _ =>
    .bind (.okOr _ _) fun formattedEnd hformatted => ?_
  obtain ⟨hadd', hroom'⟩ := Option.filter_eq_some_iff.mp (okOr_eq_ok.mp hformatted)
  obtain ⟨-, rfl⟩ := checkedAdd_eq_some.mp hadd'
  have hend' : start + length.toNat ≤ tbl.length := of_decide_eq_true hroom'
  exact .bind (.slice hend' (Nat.le_refl _)) fun _ _ => .bind (.okOr _ _) fun _ _ =>
    .bind (.okOr _ _) fun _ _ => .bind (.slice (by omega) hend') fun _ _ => .ok _

theorem length_of_nextSmbiosStructure {tbl formatted : List UInt8} {start stop : Nat}
    (h : nextSmbiosStructure tbl start = .ok (formatted, stop)) : 4 ≤ formatted.length := by
  obtain ⟨length, _, _, hmin, hend, _, _, rfl, _⟩ := nextSmbiosStructure_eq_ok.mp h
  rw [List.length_take, List.length_drop]
  omega

theorem walk_contained (tbl : List UInt8) (offset : Nat) (found : Found) :
    Contained (walk tbl offset found) := by
  induction offset, found using walk.induct tbl with
  | case1 offset found hlt e hnext =>
      rw [walk, if_pos hlt]
      split
      · next e' he' =>
          intro h
          obtain rfl := Except.error.inj h
          exact nextSmbiosStructure_contained tbl offset he'
      · next formatted stop hok =>
          rw [hok] at hnext
          cases hnext
  | case2 offset found hlt formatted stop hnext ih =>
      rw [walk, if_pos hlt]
      split
      · next e he =>
          rw [he] at hnext
          cases hnext
      · next formatted' stop' hok =>
          obtain ⟨rfl, rfl⟩ := Prod.mk.inj (Except.ok.inj (hok.symm.trans hnext))
          exact .bind (select_contained found (length_of_nextSmbiosStructure hok))
            fun found' _ => ih found'
  | case3 offset found hge =>
      rw [walk, if_neg hge]
      exact .ok _

theorem joinDevices_contained (entries : List (UInt16 × Bool)) (handles membership) :
    Contained (joinDevices entries handles membership) := by
  induction handles generalizing membership with
  | nil => exact .ok _
  | cons h handles ih =>
      exact .bind (.okOr _ _) fun _ _ => .bind (.reject _ _) fun _ _ =>
        .bind (ih _) fun _ _ => .ok _

theorem joinChannels_contained (entries : List (UInt16 × Bool)) (list membership) :
    Contained (joinChannels entries list membership) := by
  induction list generalizing membership with
  | nil => exact .ok _
  | cons c list ih =>
      exact .bind (joinDevices_contained _ _ _) fun _ _ => .bind (ih _) fun _ _ => .ok _

theorem topology_contained (found : Found) : Contained (topology found) :=
  .ite (fun _ => .ok _) fun _ => .bind (.reject _ _) fun _ _ =>
    .bind (joinChannels_contained _ _ _) fun _ _ => .ite (fun _ => .ok _) fun _ => .ok _

theorem rawSmbiosTable_contained (buffer : List UInt8) :
    Contained (rawSmbiosTable buffer) := by
  refine .bind (.reject _ _) fun _ hlength => ?_
  have hroom : rawSmbiosHeaderSize ≤ buffer.length :=
    Nat.le_of_not_lt (decide_eq_false_iff_not.mp (reject_eq_ok.mp hlength))
  exact .bind (.slice (by decide) hroom) fun _ _ => .bind (.reject _ _) fun _ _ =>
    .slice hroom (Nat.le_refl _)

/-- **Nothing is read outside the buffer**, whatever the firmware hands over. -/
theorem parseMemoryTopology_contained (buffer : List UInt8) :
    Contained (parseMemoryTopology buffer) :=
  .bind (rawSmbiosTable_contained _) fun _ _ => .bind (walk_contained _ _ _) fun _ _ =>
    topology_contained _

/-! ## The whole parser -/

/-- The table is found in the buffer. -/
theorem rawSmbiosTable_raw {version : List UInt8} (hversion : version.length = 4)
    {list : List Structure} (hfits : (table list).length < 4294967296) :
    rawSmbiosTable (raw version list) = .ok (table list) := by
  have hlength : (raw version list).length = 8 + (table list).length := by
    simp [raw, leBytes_length, hversion]
    omega
  have hdeclared : get (raw version list) 4 8 = some (leBytes 4 (table list).length) := by
    have hmiddle : get (version ++ leBytes 4 (table list).length ++ table list) 4 8 =
        some (((leBytes 4 (table list).length).drop 0).take 4) :=
      get_middle (by omega) rfl (by rw [leBytes_length])
    rw [raw, hmiddle, List.drop_zero, List.take_of_length_le (by rw [leBytes_length])]
  have hrest : get (raw version list) 8 (8 + (table list).length) = some (table list) := by
    rw [get_eq_some]
    refine ⟨by omega, ?_⟩
    have hdrop : (raw version list).drop 8 = table list := by
      rw [raw, List.drop_left' (by simp [leBytes_length, hversion])]
    rw [hdrop, List.take_of_length_le (by omega)]
  have hvalue : leValue (leBytes 4 (table list).length) = (table list).length := by
    rw [leValue_leBytes]
    exact Nat.mod_eq_of_lt hfits
  simp only [rawSmbiosTable, rawSmbiosHeaderSize, bind_eq_ok, reject_eq_ok, slice, okOr_eq_ok,
    exists_const, hdeclared, Option.some.injEq, exists_eq_left', hvalue, hlength, hrest]
  simp

/-- What is parsed of a list of structures. -/
theorem parseMemoryTopology_raw {version : List UInt8} (hversion : version.length = 4)
    {list : List Structure} (hfits : (table list).length < 4294967296) :
    parseMemoryTopology (raw version list) =
      ((list.map Structure.formatted).foldlM select {} >>= topology) := by
  have hwalk := walk_bytes list [] {}
    (show (table list).length < usizeCount by unfold usizeCount; omega)
  rw [parseMemoryTopology, rawSmbiosTable_raw hversion hfits, bind_ok]
  exact congrArg (· >>= topology) hwalk

/-- What is kept of the whole list, from nothing. -/
theorem keep_eq_ok {list : List Structure} {found : Found} :
    (list.map Structure.formatted).foldlM select {} = .ok found ↔
      (∀ s ∈ list, s.Complete) ∧ (selectedHandles list).Nodup ∧ keep {} list = found := by
  have hempty : Known {} := by simp [Known]
  rw [foldlM_select_eq_ok hempty]
  simp

theorem parseMemoryTopology_eq_some {version : List UInt8} (hversion : version.length = 4)
    {list : List Structure} (hfits : (table list).length < 4294967296)
    (t : MemoryTopology) :
    parseMemoryTopology (raw version list) = .ok (some t) ↔
      (∀ s ∈ list, s.Complete) ∧ Consistent list ∧ Usable list ∧ topologyOf list = t := by
  rw [parseMemoryTopology_raw hversion hfits, bind_eq_ok]
  simp only [keep_eq_ok]
  constructor
  · rintro ⟨_, ⟨hcomplete, hunique, rfl⟩, hresult⟩
    exact ⟨hcomplete, ((topology_keep hunique).1 t).mp hresult⟩
  · rintro ⟨hcomplete, hconsistent, hrest⟩
    exact ⟨_, ⟨hcomplete, hconsistent.unique, rfl⟩,
      ((topology_keep hconsistent.unique).1 t).mpr ⟨hconsistent, hrest⟩⟩

theorem parseMemoryTopology_eq_none {version : List UInt8} (hversion : version.length = 4)
    {list : List Structure} (hfits : (table list).length < 4294967296) :
    parseMemoryTopology (raw version list) = .ok none ↔
      (∀ s ∈ list, s.Complete) ∧ Consistent list ∧ ¬ Usable list ∧
        (channels list).length ≤ 65535 := by
  rw [parseMemoryTopology_raw hversion hfits, bind_eq_ok]
  simp only [keep_eq_ok]
  constructor
  · rintro ⟨_, ⟨hcomplete, hunique, rfl⟩, hresult⟩
    exact ⟨hcomplete, (topology_keep hunique).2.mp hresult⟩
  · rintro ⟨hcomplete, hconsistent, hrest⟩
    exact ⟨_, ⟨hcomplete, hconsistent.unique, rfl⟩,
      (topology_keep hconsistent.unique).2.mpr ⟨hconsistent, hrest⟩⟩

/-- **The memory topology is exact and bounded.**  Nothing is read outside the buffer, and a
step takes six bytes at least.  Of a table of structures, the walk comes to exactly these, in
order; a topology is returned exactly for complete and consistent structures with a usable
mapping, and it is the one of the list; and nothing is returned exactly for complete and
consistent structures without one, up to the number of channels the result can hold. -/
theorem memoryTopology :
    (∀ buffer, parseMemoryTopology buffer ≠ .error .outOfBounds) ∧
    (∀ tbl start formatted stop,
      nextSmbiosStructure tbl start = .ok (formatted, stop) →
        start + 6 ≤ stop ∧ stop ≤ tbl.length) ∧
    (∀ (version : List UInt8) (list : List Structure), version.length = 4 →
      (table list).length < 4294967296 →
        (∀ found, walk (table list) 0 found =
          (list.map Structure.formatted).foldlM select found) ∧
        (∀ t, parseMemoryTopology (raw version list) = .ok (some t) ↔
          (∀ s ∈ list, s.Complete) ∧ Consistent list ∧ Usable list ∧ topologyOf list = t) ∧
        (parseMemoryTopology (raw version list) = .ok none ↔
          (∀ s ∈ list, s.Complete) ∧ Consistent list ∧ ¬ Usable list ∧
            (channels list).length ≤ 65535)) := by
  refine ⟨parseMemoryTopology_contained, fun _ _ _ _ h => nextSmbiosStructure_advances h, ?_⟩
  intro version list hversion hfits
  refine ⟨fun found => ?_, parseMemoryTopology_eq_some hversion hfits,
    parseMemoryTopology_eq_none hversion hfits⟩
  exact walk_bytes list [] found
    (show (table list).length < usizeCount by unfold usizeCount; omega)

/-- A memory device of 8 GiB with no strings. -/
def device (handle : UInt16) : Structure where
  kind := 17
  handle := handle
  body := [0, 0, 0, 0, 0, 0, 0, 0, 0, 32]
  strings := []
  fits := by decide
  noDoubleNul := .singleton _

/-- A memory channel with up to two members and no strings. -/
def memoryChannel (handle : UInt16) (members : List UInt16) (h : members.length ≤ 2) :
    Structure where
  kind := 37
  handle := handle
  body := [0, 0, UInt8.ofNat members.length] ++
    members.flatMap fun member => 0 :: leBytes 2 member.toNat
  strings := []
  fits := by
    match members, h with
    | [], _ => decide
    | [_], _ => simp [leBytes]
    | [_, _], _ => simp [leBytes]
  noDoubleNul := .singleton _

/-- Two devices in one channel. -/
def sampleStructures : List Structure :=
  [device 1, device 2, memoryChannel 3 [2, 1] (by decide)]

/-- A fact about every member of every channel is decided along the lists. -/
private theorem forall_members {list : List Structure} {p : UInt16 → Prop} [DecidablePred p]
    (h : (list.flatMap Structure.members).all (fun handle => p handle) = true) :
    ∀ c ∈ list, ∀ handle ∈ c.members, p handle := by
  rw [List.all_iff_forall_prop] at h
  exact fun c hc handle hhandle => h handle (List.mem_flatMap.mpr ⟨c, hc, hhandle⟩)

theorem memoryTopology_sample :
    parseMemoryTopology (raw [0, 3, 6, 0] sampleStructures) =
      .ok (some { channelCount := 1
                  populatedChannels := [{ handle := 3, deviceHandles := [2, 1] }] }) := by
  refine ((memoryTopology.2.2 [0, 3, 6, 0] sampleStructures rfl (by decide)).2.1 _).mpr
    ⟨?_, ⟨by decide, forall_members (by decide), by decide⟩,
      ⟨by decide, by decide⟩, by decide⟩
  intro s hs
  rcases List.mem_cons.mp hs with rfl | hs
  · exact ⟨by decide, by decide⟩
  rcases List.mem_cons.mp hs with rfl | hs
  · exact ⟨by decide, by decide⟩
  · rw [List.mem_singleton.mp hs]
    exact ⟨by decide, by decide⟩

/-! ## Lists without the answer one would expect -/

/-- A memory device that ends before its Size field. -/
def truncatedDevice (handle : UInt16) : Structure where
  kind := 17
  handle := handle
  body := []
  strings := []
  fits := by decide
  noDoubleNul := .singleton _

/-- A populated device in a channel, and a device that is too short. -/
def truncatedStructures : List Structure :=
  [device 1, truncatedDevice 2, memoryChannel 3 [1] (by decide)]

/-- A channel that lists its only device twice. -/
def repeatedStructures : List Structure := [device 1, memoryChannel 3 [1, 1] (by decide)]

/-- A channel without members for every handle there is. -/
def manyChannels : List Structure :=
  (List.range 65536).map fun n => memoryChannel (UInt16.ofNat n) [] (by decide)

theorem channels_manyChannels : channels manyChannels = manyChannels := by
  refine List.filter_eq_self.mpr fun s hs => ?_
  obtain ⟨_, _, rfl⟩ := List.mem_map.mp hs
  rfl

theorem devices_manyChannels : devices manyChannels = [] := by
  refine List.filter_eq_nil_iff.mpr fun s hs => ?_
  obtain ⟨_, _, rfl⟩ := List.mem_map.mp hs
  simp [memoryChannel]

theorem members_manyChannels {s : Structure} (hs : s ∈ manyChannels) : s.members = [] := by
  obtain ⟨_, _, rfl⟩ := List.mem_map.mp hs
  rfl

theorem consistent_manyChannels : Consistent manyChannels := by
  refine ⟨?_, ?_, ?_⟩
  · have hall : (manyChannels.filter fun s => s.kind = 17 ∨ s.kind = 37) = manyChannels := by
      refine List.filter_eq_self.mpr fun s hs => ?_
      obtain ⟨_, _, rfl⟩ := List.mem_map.mp hs
      simp [memoryChannel]
    rw [selectedHandles, hall, manyChannels, List.map_map]
    refine List.pairwise_map.mpr (List.nodup_range.imp_of_mem fun {m n} hm hn hne heq => ?_)
    have hm' := List.mem_range.mp hm
    have hn' := List.mem_range.mp hn
    have hvalue := congrArg UInt16.toNat heq
    have hvalues : m % 65536 = n % 65536 := hvalue
    omega
  · intro c hc handle hhandle
    rw [channels_manyChannels] at hc
    rw [members_manyChannels hc] at hhandle
    cases hhandle
  · have hnil : manyChannels.flatMap Structure.members = [] :=
      List.flatMap_eq_nil_iff.mpr fun s hs => members_manyChannels hs
    rw [channels_manyChannels, hnil]
    exact List.nodup_nil

/-- Nine bytes for each channel. -/
theorem length_table_manyChannels : (table manyChannels).length = 589824 := by
  have hconst : ∀ s ∈ manyChannels, s.bytes.length = 9 := by
    intro s hs
    obtain ⟨_, _, rfl⟩ := List.mem_map.mp hs
    rfl
  have hlength : ∀ list : List Structure, (∀ s ∈ list, s.bytes.length = 9) →
      (table list).length = 9 * list.length := by
    intro list
    induction list with
    | nil => simp [table]
    | cons s list ih =>
        intro h
        rw [List.forall_mem_cons] at h
        have hrest := ih h.2
        unfold table at hrest ⊢
        rw [List.flatMap_cons, List.length_append, h.1, hrest, List.length_cons]
        omega
  rw [hlength manyChannels hconst, manyChannels, List.length_map, List.length_range]

/-- A device that is too short is an error although the references are consistent and the
mapping is usable; so is a device that one channel lists twice; and so are more channels than
the result can count, where there is no mapping. -/
theorem memoryTopology_rejected :
    (Consistent truncatedStructures ∧ Usable truncatedStructures ∧
      ∀ t, parseMemoryTopology (raw [0, 3, 6, 0] truncatedStructures) ≠ .ok (some t)) ∧
    ((selectedHandles repeatedStructures).Nodup ∧ Usable repeatedStructures ∧
      (∀ c ∈ channels repeatedStructures, ∀ h ∈ c.members,
        (∃ d ∈ devices repeatedStructures, d.handle = h) ∧
          ((channels repeatedStructures).filter fun c' => h ∈ c'.members).length = 1) ∧
      ∀ t, parseMemoryTopology (raw [0, 3, 6, 0] repeatedStructures) ≠ .ok (some t)) ∧
    (Consistent manyChannels ∧ ¬ Usable manyChannels ∧
      parseMemoryTopology (raw [0, 3, 6, 0] manyChannels) ≠ .ok none) := by
  refine ⟨⟨⟨by decide, forall_members (by decide), by decide⟩,
      ⟨by decide, by decide⟩, ?_⟩,
    ⟨by decide, ⟨by decide, by decide⟩, forall_members (by decide), ?_⟩, consistent_manyChannels, ?_, ?_⟩
  · intro t ht
    obtain ⟨hcomplete, -⟩ := (parseMemoryTopology_eq_some rfl (by decide) t).mp ht
    have hdevice := (hcomplete (truncatedDevice 2) (by simp [truncatedStructures])).device rfl
    exact absurd hdevice.1 (by decide)
  · intro t ht
    obtain ⟨-, hconsistent, -⟩ := (parseMemoryTopology_eq_some rfl (by decide) t).mp ht
    exact absurd hconsistent.once (by decide)
  · intro husable
    obtain ⟨d, hd, _⟩ := husable.populated
    rw [devices_manyChannels] at hd
    cases hd
  · intro hnone
    have hfits : (table manyChannels).length < 4294967296 := by
      rw [length_table_manyChannels]
      decide
    obtain ⟨-, -, -, hbound⟩ := (parseMemoryTopology_eq_none rfl hfits).mp hnone
    rw [channels_manyChannels, manyChannels, List.length_map, List.length_range] at hbound
    omega

end FrametimeCfg.Verified.SmbiosWalk
