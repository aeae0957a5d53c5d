import FrametimeCfg.Lib.Buffer

/-!
# The memory topology in the firmware tables

`parse_memory_topology` walks the SMBIOS structures of the firmware, keeps the memory devices
(Type 17) and the memory channels (Type 37), and joins the two.  The table comes from the
firmware, so every length in it is checked before it is used.

The walk ends because each structure takes at least six bytes (`nextSmbiosStructure_advances`).
-/

namespace FrametimeCfg.Windows.Smbios

open FrametimeCfg.Lib.Buffer
open FrametimeCfg.Lib.Checks
open FrametimeCfg.Lib.Wide

/-- `MemoryChannel`. -/
structure MemoryChannel where
  handle : UInt16
  deviceHandles : List UInt16
  deriving DecidableEq

/-- `MemoryTopology`. -/
structure MemoryTopology where
  channelCount : UInt16
  populatedChannels : List MemoryChannel
  deriving DecidableEq

/-- `RAW_SMBIOS_HEADER_SIZE`. -/
def rawSmbiosHeaderSize : Nat := 8

/-! ## Structures -/

/-- `raw_smbios_table`. -/
def rawSmbiosTable (raw : List UInt8) : Except (Stop String) (List UInt8) := do
  reject (raw.length < rawSmbiosHeaderSize)
    (.error "P1:24 RawSMBIOSData header is truncated")
  let length ← slice raw 4 rawSmbiosHeaderSize
  let declared := leValue length
  reject (declared ≠ raw.length - rawSmbiosHeaderSize)
    (.error "P1:24 RawSMBIOSData length does not exactly match the buffer")
  slice raw rawSmbiosHeaderSize raw.length

/-- Where two zero bytes stand next to each other for the first time. -/
def doubleNul : List UInt8 → Option Nat
  | a :: b :: rest =>
      if a = 0 ∧ b = 0 then some 0 else (doubleNul (b :: rest)).map (· + 1)
  | _ => none

/-- `next_smbios_structure`: the formatted part of the structure at `start`, and where the
structure ends. -/
def nextSmbiosStructure (table : List UInt8) (start : Nat) :
    Except (Stop String) (List UInt8 × Nat) := do
  let _ ← okOr ((checkedAdd start 4).filter (· ≤ table.length))
    (.error "P1:24 SMBIOS structure header is truncated")
  let length ← index table (start + 1)
  let formattedLength := length.toNat
  reject (formattedLength < 4) (.error "P1:24 SMBIOS structure has an invalid formatted length")
  let formattedEnd ← okOr ((checkedAdd start formattedLength).filter (· ≤ table.length))
    (.error "P1:24 SMBIOS formatted structure is truncated")
  let strings ← slice table formattedEnd table.length
  let terminator ← okOr (doubleNul strings)
    (.error "P1:24 SMBIOS structure is missing its double-NUL terminator")
  let stop ← okOr ((checkedAdd formattedEnd terminator).bind (checkedAdd · 2))
    (.error "P1:24 SMBIOS structure length overflows usize")
  let formatted ← slice table start formattedEnd
  return (formatted, stop)

/-- `type17_is_populated`. -/
def type17IsPopulated (formatted : List UInt8) : Except (Stop String) Bool := do
  reject (formatted.length < 14)
    (.error "P1:24 SMBIOS Type 17 is truncated before its Size field")
  let low ← index formatted 12
  let high ← index formatted 13
  let size := leValue [low, high]
  if size = 0 ∨ size = 65535 then return false
  else if size = 0x7fff then do
    reject (formatted.length < 32)
      (.error "P1:24 SMBIOS Type 17 extended Size field is truncated")
    let extended ← slice formatted 28 32
    reject (leValue extended = 0) (.error "P1:24 SMBIOS Type 17 has a zero extended Size")
    return true
  else return true

/-- The handles of the devices from the index on. -/
def deviceHandles (formatted : List UInt8) : Nat → Nat → Except (Stop String) (List UInt16)
  | 0, _ => return []
  | count + 1, i => do
      let start := 7 + i * 3
      let low ← index formatted (start + 1)
      let high ← index formatted (start + 2)
      let rest ← deviceHandles formatted count (i + 1)
      return UInt16.ofNat (leValue [low, high]) :: rest

/-- `parse_type37_channel`. -/
def parseType37Channel (handle : UInt16) (formatted : List UInt8) :
    Except (Stop String) MemoryChannel := do
  reject (formatted.length < 7)
    (.error "P1:24 SMBIOS Type 37 is truncated before its device count")
  let byte ← index formatted 6
  let count := byte.toNat
  let devices ← okOr (checkedMul count 3)
    (.error "P1:24 SMBIOS Type 37 device count overflows")
  let required ← okOr (checkedAdd 7 devices) (.error "P1:24 SMBIOS Type 37 length overflows")
  reject (formatted.length < required)
    (.error "P1:24 SMBIOS Type 37 device associations are truncated")
  let handles ← deviceHandles formatted count 0
  return { handle, deviceHandles := handles }

/-! ## The walk -/

/-- What the walk has kept: the devices, and whether each is populated; the channels; and the
handles of both. -/
structure Found where
  devices : List (UInt16 × Bool) := []
  channels : List MemoryChannel := []
  seenSelectedHandles : List UInt16 := []
  deriving DecidableEq

/-- One round of the walk, at a structure. -/
def select (found : Found) (formatted : List UInt8) : Except (Stop String) Found := do
  let kind ← index formatted 0
  let low ← index formatted 2
  let high ← index formatted 3
  let handle := UInt16.ofNat (leValue [low, high])
  if kind = 17 then do
    reject (found.seenSelectedHandles.contains handle ||
        (found.devices.map Prod.fst).contains handle)
      (.error "P1:24 SMBIOS has duplicate selected structure handles")
    let populated ← type17IsPopulated formatted
    return { found with
      devices := found.devices ++ [(handle, populated)]
      seenSelectedHandles := found.seenSelectedHandles ++ [handle] }
  else if kind = 37 then do
    reject (found.seenSelectedHandles.contains handle)
      (.error "P1:24 SMBIOS has duplicate selected structure handles")
    let channel ← parseType37Channel handle formatted
    return { found with
      channels := found.channels ++ [channel]
      seenSelectedHandles := found.seenSelectedHandles ++ [handle] }
  else return found

theorem doubleNul_lt {bytes : List UInt8} {k : Nat} (h : doubleNul bytes = some k) :
    k + 2 ≤ bytes.length := by
  induction bytes using doubleNul.induct generalizing k with
  | case1 a b rest hzero =>
      rw [doubleNul, if_pos hzero, Option.some.injEq] at h
      simp [← h]
  | case2 a b rest hne ih =>
      rw [doubleNul, if_neg hne] at h
      obtain ⟨j, hj, rfl⟩ := Option.map_eq_some_iff.mp h
      have hlength := ih hj
      simp only [List.length_cons] at hlength ⊢
      omega
  | case3 bytes hshort =>
      rw [doubleNul] at h
      · cases h
      · exact hshort

/-- A structure that was found: its length and the end of its strings. -/
theorem nextSmbiosStructure_eq_ok {table formatted : List UInt8} {start stop : Nat} :
    nextSmbiosStructure table start = .ok (formatted, stop) ↔
      ∃ length : UInt8, ∃ terminator, table[start + 1]? = some length ∧ 4 ≤ length.toNat ∧
        start + length.toNat ≤ table.length ∧
        doubleNul (table.drop (start + length.toNat)) = some terminator ∧
        start + length.toNat + terminator + 2 < usizeCount ∧
        (table.drop start).take length.toNat = formatted ∧
        start + length.toNat + terminator + 2 = stop := by
  simp only [nextSmbiosStructure, bind_eq_ok, okOr_eq_ok, reject_eq_ok, slice, get_eq_some,
    Option.filter_eq_some_iff, checkedAdd_eq_some, Option.bind_eq_some_iff, and_assoc,
    exists_and_left, exists_eq_left', exists_const, decide_eq_false_iff_not, decide_eq_true_eq,
    not_lt, index_eq_ok, Nat.add_sub_cancel_left]
  constructor
  · rintro ⟨_, _, length, hlength, hmin, _, hend, _, _, terminator, hnul, _, husize, _, _, hres⟩
    obtain ⟨hformatted, hstop⟩ := Prod.mk.inj (Except.ok.inj hres)
    rw [List.take_of_length_le (by rw [List.length_drop])] at hnul
    exact ⟨length, hlength, hmin, hend, terminator, hnul, husize, hformatted, hstop⟩
  · rintro ⟨length, hlength, hmin, hend, terminator, hnul, husize, hformatted, hstop⟩
    refine ⟨by omega, by omega, length, hlength, hmin, by omega, hend, hend, Nat.le_refl _,
      terminator, ?_, by omega, husize, by omega, hend, ?_⟩
    · rw [List.take_of_length_le (by rw [List.length_drop]), hnul]
    · rw [hformatted, hstop]
      rfl

/-- **Each step of the walk** takes six bytes at least, and ends inside the table. -/
theorem nextSmbiosStructure_advances {table formatted : List UInt8} {start stop : Nat}
    (h : nextSmbiosStructure table start = .ok (formatted, stop)) :
    start + 6 ≤ stop ∧ stop ≤ table.length := by
  obtain ⟨length, terminator, _, hmin, hend, hnul, _, _, rfl⟩ :=
    nextSmbiosStructure_eq_ok.mp h
  have hroom := doubleNul_lt hnul
  rw [List.length_drop] at hroom
  omega

/-- The loop of `parse_memory_topology`. -/
def walk (table : List UInt8) (offset : Nat) (found : Found) : Except (Stop String) Found :=
  if offset < table.length then
    match _hnext : nextSmbiosStructure table offset with
    | .error e => .error e
    | .ok (formatted, stop) => do
        let found ← select found formatted
        walk table stop found
  else .ok found
termination_by table.length - offset
decreasing_by
  have hadvance := nextSmbiosStructure_advances _hnext
  omega

/-! ## The join -/

/-- The inner loop: the populated members of a channel, and the membership with all of its
members added. -/
def joinDevices (devices : List (UInt16 × Bool)) :
    List UInt16 → List UInt16 → Except (Stop String) (List UInt16 × List UInt16)
  | [], membership => .ok ([], membership)
  | deviceHandle :: rest, membership => do
      let populated ← okOr (devices.lookup deviceHandle)
        (.error "P1:24 SMBIOS memory channel references a missing Type 17 device")
      reject (membership.contains deviceHandle)
        (.error "P1:24 SMBIOS has duplicate Type 17 channel membership")
      let (members, membership) ← joinDevices devices rest (membership ++ [deviceHandle])
      return (if populated then deviceHandle :: members else members, membership)

/-- The outer loop: the channels with a populated member, and the membership. -/
def joinChannels (devices : List (UInt16 × Bool)) :
    List MemoryChannel → List UInt16 →
      Except (Stop String) (List MemoryChannel × List UInt16)
  | [], membership => .ok ([], membership)
  | channel :: rest, membership => do
      let (populated, membership) ← joinDevices devices channel.deviceHandles membership
      let (channels, membership) ← joinChannels devices rest membership
      return (if populated = [] then channels
        else { handle := channel.handle, deviceHandles := populated } :: channels, membership)

/-- What `parse_memory_topology` makes of what the walk has kept. -/
def topology (found : Found) : Except (Stop String) (Option MemoryTopology) := do
  if found.channels = [] then return none
  else do
    reject (65535 < found.channels.length) (.error "P1:24 SMBIOS channel count exceeds u16")
    let channelCount := UInt16.ofNat found.channels.length
    let (populatedChannels, membership) ← joinChannels found.devices found.channels []
    let everyPopulatedDeviceIsMapped :=
      (found.devices.filter fun device => device.2).all fun device =>
        membership.contains device.1
    if populatedChannels = [] ∨ everyPopulatedDeviceIsMapped = false then return none
    else return some { channelCount, populatedChannels }

/-- `parse_memory_topology`. -/
def parseMemoryTopology (raw : List UInt8) :
    Except (Stop String) (Option MemoryTopology) := do
  let table ← rawSmbiosTable raw
  let found ← walk table 0 {}
  topology found

end FrametimeCfg.Windows.Smbios
