import FrametimeCfg.Lib.Hex
import FrametimeCfg.Lib.Splitting
import FrametimeCfg.Windows.DeviceBindings

/-!
# What a PCI instance id names

An instance id is parsed twice, by the binding that is validated and by the reader of
SetupAPI.  Both walk over its components and keep, of each kind of field, the last one that
they met.  They agree on every id that passes the checks of the binding.  That an id names
one identity takes more: no field may be repeated, and none may have the plus sign that the
integer parser lets pass.

* `readPart_eq`, `parsePciIdentity_eq` — the two parsers are one.
* `foldl_read` — what is kept of each kind of field.
* `names_iff` — when an accepted id names one identity.
-/

namespace FrametimeCfg.Verified.PciIdentity

open FrametimeCfg.Domain
open FrametimeCfg.Lib.Checks
open FrametimeCfg.Lib.Text
open FrametimeCfg.Windows.DeviceBindings

/-- Vendor, device, the two halves of the subsystem, and revision. -/
abbrev Identity := Nat × Nat × Nat × Nat × Nat

/-! ## Ids and fields -/

/-- The components of an instance id, in upper case. -/
def components (value : String) : List (List Char) :=
  FrametimeCfg.Lib.Text.splitAt (fun c => c = '\\' || c = '&') (asciiUpper value).toList

/-- What follows `start` in the components that begin with it. -/
def fieldTexts (start : String) (value : String) : List (List Char) :=
  (components value).filterMap (stripPrefix start.toList)

/-- **One field.**  Exactly one component begins with `start`, and exactly `width` digits
follow it, which write `n`. -/
def OneField (start : String) (width : Nat) (value : String) (n : Nat) : Prop :=
  ∃ digits, fieldTexts start value = [digits] ∧ digits.length = width ∧
    (∀ c ∈ digits, isHexDigit c = true) ∧ n = hexNat digits

/-- **What it is to name one identity.**  The subsystem is written device first. -/
structure Names (value : String) (id : Identity) : Prop where
  vendor : OneField "VEN_" 4 value id.1
  device : OneField "DEV_" 4 value id.2.1
  subsystem : ∃ n, OneField "SUBSYS_" 8 value n ∧ id.2.2.1 = n % 2 ^ 16 ∧
    id.2.2.2.1 = n / 2 ^ 16
  revision : OneField "REV_" 2 value id.2.2.2.2

/-- The field is not repeated, and has no plus sign. -/
def Plain (start value : String) : Prop :=
  (fieldTexts start value).length ≤ 1 ∧ ∀ text ∈ fieldTexts start value, '+' ∉ text

/-- No field of the id is repeated or has a plus sign. -/
def Unambiguous (value : String) : Prop :=
  ∀ start ∈ ["VEN_", "DEV_", "SUBSYS_", "REV_"], Plain start value

/-- The checks of the binding: its length, its characters and its first component. -/
structure Admissible (value : String) : Prop where
  short : byteLen value ≤ 512
  printable : value.toList.any isControl = false
  pci : (components value).head? = some "PCI".toList

/-! ## One parser -/

/-- The two helpers differ in the range that they check last, which digits of this width
cannot leave. -/
theorem parseHex32_eq {text : List Char} {width bound : Nat} (hbound : 16 ^ width ≤ bound)
    (hrange : bound ≤ 2 ^ 32) : parseHex32 text width = parseHex text width bound := by
  unfold parseHex32 parseHex
  cases hparsed : parseHexNat text with
  | none => simp
  | some n =>
    rw [byteLen_ascii (ascii_of_parseHexNat hparsed)]
    by_cases hwidth : text.length = width
    · have hn := parseHexNat_lt hparsed
      rw [hwidth] at hn
      have hsmall : n < bound := Nat.lt_of_lt_of_le hn hbound
      have hlarge : n < 2 ^ 32 := Nat.lt_of_lt_of_le hsmall hrange
      simp only [if_pos hwidth, if_pos hsmall]
      exact Option.filter_eq_some_iff.mpr ⟨rfl, by simpa using hlarge⟩
    · rw [if_neg hwidth, if_neg hwidth]

theorem readPart_eq (fields : PciFields) (part : List Char) :
    readPart fields part = fields.read part := by
  unfold readPart PciFields.read
  have h4 : ∀ text, parseHex32 text 4 = parseHex text 4 (2 ^ 16) :=
    fun text => parseHex32_eq (by decide) (by decide)
  have h8 : ∀ text, parseHex32 text 8 = parseHex text 8 (2 ^ 32) :=
    fun text => parseHex32_eq (by decide) (by decide)
  have h2 : ∀ text, parseHex32 text 2 = parseHex text 2 (2 ^ 8) :=
    fun text => parseHex32_eq (by decide) (by decide)
  simp only [h4, h8, h2] <;> rfl

/-- The fields that either parser keeps. -/
def fieldsOf (value : String) : PciFields := (components value).foldl PciFields.read {}

/-! ## What is kept -/

/-- A part begins with at most one of two starts that differ in their first letter. -/
theorem stripPrefix_exclusive {c d : Char} (hne : c ≠ d) {start other part text : List Char}
    (h : stripPrefix (c :: start) part = some text) :
    stripPrefix (d :: other) part = none := by
  rw [stripPrefix_eq_none]
  intro hprefix
  rw [stripPrefix_eq_some.mp h, List.cons_append] at hprefix
  exact hne (List.cons_prefix_cons.mp hprefix).1.symm

/-- The last text of a list, read as a field, or what was there. -/
def lastField (width bound : Nat) (texts : List (List Char)) (kept : Option Nat) :
    Option Nat :=
  (texts.getLast?.map fun text => parseHex text width bound).getD kept

theorem lastField_cons (width bound : Nat) (text : List Char) (texts : List (List Char))
    (kept : Option Nat) : lastField width bound (text :: texts) kept =
      lastField width bound texts (parseHex text width bound) := by
  unfold lastField
  rw [List.getLast?_cons]
  cases texts.getLast? <;> rfl

/-- **Of each kind of field the last one is kept.** -/
theorem foldl_read (parts : List (List Char)) (kept : PciFields) :
    parts.foldl PciFields.read kept =
      { vendor := lastField 4 (2 ^ 16)
          (parts.filterMap (stripPrefix "VEN_".toList)) kept.vendor
        device := lastField 4 (2 ^ 16)
          (parts.filterMap (stripPrefix "DEV_".toList)) kept.device
        subsystem := lastField 8 (2 ^ 32)
          (parts.filterMap (stripPrefix "SUBSYS_".toList)) kept.subsystem
        revision := lastField 2 (2 ^ 8)
          (parts.filterMap (stripPrefix "REV_".toList)) kept.revision } := by
  induction parts generalizing kept with
  | nil => rfl
  | cons part parts ih =>
    rw [List.foldl_cons, ih]
    simp only [List.filterMap_cons, PciFields.read]
    cases hvendor : stripPrefix "VEN_".toList part with
    | some text =>
      have hdevice : stripPrefix "DEV_".toList part = none :=
        stripPrefix_exclusive (by decide) hvendor
      have hsubsystem : stripPrefix "SUBSYS_".toList part = none :=
        stripPrefix_exclusive (by decide) hvendor
      have hrevision : stripPrefix "REV_".toList part = none :=
        stripPrefix_exclusive (by decide) hvendor
      simp only [hdevice, hsubsystem, hrevision, lastField_cons]
    | none =>
      cases hdevice : stripPrefix "DEV_".toList part with
      | some text =>
        have hsubsystem : stripPrefix "SUBSYS_".toList part = none :=
          stripPrefix_exclusive (by decide) hdevice
        have hrevision : stripPrefix "REV_".toList part = none :=
          stripPrefix_exclusive (by decide) hdevice
        simp only [hsubsystem, hrevision, lastField_cons]
      | none =>
        cases hsubsystem : stripPrefix "SUBSYS_".toList part with
        | some text =>
          have hrevision : stripPrefix "REV_".toList part = none :=
            stripPrefix_exclusive (by decide) hsubsystem
          simp only [hrevision, lastField_cons]
        | none =>
          cases hrevision : stripPrefix "REV_".toList part with
          | some text => simp only [lastField_cons]
          | none => simp only []

theorem lastField_eq_some {width bound n : Nat} {texts : List (List Char)}
    (h : lastField width bound texts none = some n) :
    ∃ text, texts.getLast? = some text ∧ text.length = width ∧ parseHexNat text = some n ∧
      n < bound := by
  unfold lastField parseHex at h
  cases hlast : texts.getLast? with
  | none => simp [hlast] at h
  | some text =>
    refine ⟨text, rfl, ?_⟩
    rw [hlast] at h
    simp only [Option.map_some, Option.getD_some] at h
    by_cases hwidth : text.length = width
    · rw [if_pos hwidth] at h
      cases hparsed : parseHexNat text with
      | none => simp [hparsed] at h
      | some m =>
        rw [hparsed] at h
        by_cases hm : m < bound
        · simp only [if_pos hm, Option.some.injEq] at h
          exact ⟨hwidth, by rw [h], h ▸ hm⟩
        · simp [if_neg hm] at h
    · simp [if_neg hwidth] at h

/-! ## Accepted ids -/

variable {value : String} {id : Identity}

/-- The numbers that are kept, where each field was read. -/
structure Reads (value : String) (vendor device subsystem revision : Nat) : Prop where
  vendor : lastField 4 (2 ^ 16) (fieldTexts "VEN_" value) none = some vendor
  device : lastField 4 (2 ^ 16) (fieldTexts "DEV_" value) none = some device
  subsystem : lastField 8 (2 ^ 32) (fieldTexts "SUBSYS_" value) none = some subsystem
  revision : lastField 2 (2 ^ 8) (fieldTexts "REV_" value) none = some revision

theorem fieldsOf_eq (value : String) : fieldsOf value =
    { vendor := lastField 4 (2 ^ 16) (fieldTexts "VEN_" value) none
      device := lastField 4 (2 ^ 16) (fieldTexts "DEV_" value) none
      subsystem := lastField 8 (2 ^ 32) (fieldTexts "SUBSYS_" value) none
      revision := lastField 2 (2 ^ 8) (fieldTexts "REV_" value) none } :=
  foldl_read (components value) {}

/-- **The reader of SetupAPI** accepts the ids whose fields are all read. -/
theorem parsePciIdentity_eq_ok : parsePciIdentity value = .ok id ↔
    ∃ v d s r, Reads value v d s r ∧ id = (v, d, s % 2 ^ 16, s / 2 ^ 16, r) := by
  have hfold : (components value).foldl readPart {} = fieldsOf value := by
    have hread : readPart = PciFields.read := funext fun f => funext fun p => readPart_eq f p
    rw [hread, fieldsOf]
  have hparts : parsePciIdentity value = (do
      let subsystem ← okOr (fieldsOf value).subsystem
        "PCI instance has no canonical subsystem ID"
      let vendor ← okOr (fieldsOf value).vendor "PCI instance has no canonical vendor ID"
      let device ← okOr (fieldsOf value).device "PCI instance has no canonical device ID"
      let revision ← okOr (fieldsOf value).revision
        "PCI instance has no canonical revision ID"
      return (vendor % 2 ^ 16, device % 2 ^ 16, subsystem % 2 ^ 16,
        subsystem / 2 ^ 16 % 2 ^ 16, revision % 2 ^ 8)) := by
    rw [← hfold]
    rfl
  rw [hparts, fieldsOf_eq]
  simp only [bind_eq_ok, okOr_eq_ok]
  -- digits of these widths are below the bounds of the casts
  have hsmall : ∀ {width bound n : Nat} {texts : List (List Char)},
      lastField width bound texts none = some n → n < bound := fun h =>
    (lastField_eq_some h).choose_spec.2.2.2
  constructor
  · rintro ⟨s, hs, v, hv, d, hd, r, hr, hid⟩
    refine ⟨v, d, s, r, ⟨hv, hd, hs, hr⟩, ?_⟩
    have hid' := Except.ok.inj hid
    rw [← hid', Nat.mod_eq_of_lt (hsmall hv), Nat.mod_eq_of_lt (hsmall hd),
      Nat.mod_eq_of_lt (hsmall hr)]
    have hs' := hsmall hs
    rw [Nat.mod_eq_of_lt (a := s / 2 ^ 16) (by omega)]
  · rintro ⟨v, d, s, r, ⟨hv, hd, hs, hr⟩, rfl⟩
    refine ⟨s, hs, v, hv, d, hd, r, hr, ?_⟩
    rw [Nat.mod_eq_of_lt (hsmall hv), Nat.mod_eq_of_lt (hsmall hd),
      Nat.mod_eq_of_lt (hsmall hr)]
    have hs' := hsmall hs
    rw [Nat.mod_eq_of_lt (a := s / 2 ^ 16) (by omega)]
    rfl

/-- **The binding** accepts those of them that pass its checks. -/
theorem parsePciInstance_eq_ok : parsePciInstance value = .ok id ↔ Admissible value ∧
    ∃ v d s r, Reads value v d s r ∧ id = (v, d, s % 2 ^ 16, s / 2 ^ 16, r) := by
  have hfields := fieldsOf_eq value
  unfold parsePciInstance
  by_cases hcheck : byteLen value > 512 || value.toList.any isControl
  · rw [if_pos hcheck]
    constructor
    · intro h
      cases h
    · rintro ⟨hadmissible, _⟩
      simp only [Bool.or_eq_true, decide_eq_true_eq, hadmissible.printable] at hcheck
      have hshort := hadmissible.short
      simp at hcheck
      omega
  · rw [if_neg hcheck]
    simp only [Bool.or_eq_true, decide_eq_true_eq, not_or, Bool.not_eq_true] at hcheck
    rw [← components]
    cases hparts : components value with
    | nil => exact absurd hparts (splitAt_ne_nil _)
    | cons first parts =>
      simp only []
      by_cases hfirst : first = "PCI".toList
      · have hadmissible : Admissible value :=
          ⟨by omega, hcheck.2, by rw [hparts, hfirst]; rfl⟩
        have hfold : parts.foldl PciFields.read {} = fieldsOf value := by
          rw [fieldsOf, hparts, hfirst]
          rfl
        rw [if_neg (by simpa using hfirst), hfold, hfields]
        simp only [hadmissible, true_and]
        constructor
        · intro h
          split at h
          · rename_i s v d r hs hv hd hr
            exact ⟨v, d, s, r, ⟨hv, hd, hs, hr⟩, (Except.ok.inj h).symm⟩
          · cases h
        · rintro ⟨v, d, s, r, ⟨hv, hd, hs, hr⟩, rfl⟩
          simp only [hv, hd, hs, hr]
      · rw [if_pos hfirst]
        constructor
        · intro h
          cases h
        · rintro ⟨hadmissible, _⟩
          have hpci := hadmissible.pci
          rw [hparts] at hpci
          exact absurd (Option.some.inj hpci) hfirst

/-! ## Ids that name one identity -/

theorem plain_of_oneField {start : String} {width n : Nat} (h : OneField start width value n) :
    Plain start value := by
  obtain ⟨digits, hone, _, hdigits, _⟩ := h
  unfold Plain
  rw [hone]
  refine ⟨by simp, fun text htext hplus => ?_⟩
  rw [List.mem_singleton.mp htext] at hplus
  exact absurd (hdigits '+' hplus) (by decide)

/-- A field that is not repeated and has no sign is written in digits. -/
theorem oneField_of_plain {start : String} {width bound n : Nat} (h : Plain start value)
    (hread : lastField width bound (fieldTexts start value) none = some n) :
    OneField start width value n := by
  obtain ⟨text, hlast, hwidth, hparsed, _⟩ := lastField_eq_some hread
  have hone : fieldTexts start value = [text] := by
    obtain ⟨hlength, _⟩ := h
    cases htexts : fieldTexts start value with
    | nil => simp [htexts] at hlast
    | cons first rest =>
      have hrest : rest = [] := by
        rw [htexts, List.length_cons] at hlength
        exact List.eq_nil_of_length_eq_zero (by omega)
      rw [htexts, hrest] at hlast
      rw [hrest, show first = text from Option.some.inj hlast]
  have hplain : unsignedDigits text = text := by
    rcases unsignedDigits_cases text with ⟨hsame, _⟩ | hsign
    · exact hsame
    · have hfree : '+' ∉ text := h.2 text (by simp [hone])
      rw [hsign] at hfree
      simp at hfree
  obtain ⟨_, hdigits, hvalue⟩ := parseHexNat_eq_some.mp hparsed
  rw [hplain] at hdigits hvalue
  exact ⟨text, hone, hwidth, hdigits, hvalue⟩

/-- **An accepted id names one identity** exactly where it is unambiguous. -/
theorem names_iff {v d s r : Nat} (h : Reads value v d s r) :
    Names value (v, d, s % 2 ^ 16, s / 2 ^ 16, r) ↔ Unambiguous value := by
  constructor
  · intro hnames start hstart
    obtain ⟨_, hsubsystem, _⟩ := hnames.subsystem
    simp only [List.mem_cons, List.not_mem_nil, or_false] at hstart
    rcases hstart with rfl | rfl | rfl | rfl
    · exact plain_of_oneField hnames.vendor
    · exact plain_of_oneField hnames.device
    · exact plain_of_oneField hsubsystem
    · exact plain_of_oneField hnames.revision
  · intro hplain
    have hvendor : Plain "VEN_" value := hplain _ (by simp)
    have hdevice : Plain "DEV_" value := hplain _ (by simp)
    have hsubsystem : Plain "SUBSYS_" value := hplain _ (by simp)
    have hrevision : Plain "REV_" value := hplain _ (by simp)
    exact {
      vendor := oneField_of_plain hvendor h.vendor
      device := oneField_of_plain hdevice h.device
      subsystem := ⟨s, oneField_of_plain hsubsystem h.subsystem, rfl, rfl⟩
      revision := oneField_of_plain hrevision h.revision }

/-! ## Bindings -/

/-- The numbers of a binding. -/
def bindingIdentity (b : PciDeviceBinding) : Identity :=
  (b.vendorId.toNat, b.deviceId.toNat, b.subsystemVendorId.toNat, b.subsystemDeviceId.toNat,
    b.revisionId.toNat)

theorem check_eq_ok {ε : Type} {b : Bool} {e : ε} : check b e = .ok () ↔ b = true := by
  unfold check
  cases b <;> simp

/-- A validated binding has the numbers of its id. -/
theorem parsed_of_validate {b : PciDeviceBinding} (h : b.validate = .ok ()) :
    parsePciInstance b.instanceId = .ok (bindingIdentity b) := by
  simp only [PciDeviceBinding.validate, bind_eq_ok, check_eq_ok] at h
  obtain ⟨_, _, _, _, _, _, _, _, _, _, _, _, _, _, parsed, hparsed, hsame⟩ := h
  rw [hparsed, of_decide_eq_true hsame]
  rfl

/-- A binding is only given for a live device once it validated. -/
theorem validate_of_binding {expected now : String} {device : DeviceProperties}
    {b : PciDeviceBinding} (h : binding expected now device = .ok b) : b.validate = .ok () := by
  simp only [binding, bind_eq_ok] at h
  obtain ⟨_, _, _, _, _, _, _, _, _, _, _, _, _, _, _, hvalid, hb⟩ := h
  obtain rfl := Except.ok.inj hb
  exact mapError_eq_ok.mp hvalid

/-- **The two parsers agree, and the ids that name one identity.**  On the ids that pass the
checks of the binding both parsers return the same.  An id that they accept names the identity
that they return exactly where no field is repeated and none has a plus sign; the same holds
of the binding of a live device, which always validates. -/
theorem pciIdentity (value : String) (id : Identity) (b : PciDeviceBinding) :
    (parsePciInstance value = .ok id →
      parsePciIdentity value = .ok id ∧ (Names value id ↔ Unambiguous value)) ∧
    (parsePciIdentity value = .ok id → Admissible value →
      parsePciInstance value = .ok id ∧ (Names value id ↔ Unambiguous value)) ∧
    (∀ expected now device, binding expected now device = .ok b → b.validate = .ok ()) ∧
    (b.validate = .ok () →
      (Names b.instanceId (bindingIdentity b) ↔ Unambiguous b.instanceId)) := by
  refine ⟨fun h => ?_, fun h hadmissible => ?_, fun _ _ _ h => validate_of_binding h,
    fun h => ?_⟩
  · obtain ⟨_, v, d, s, r, hreads, rfl⟩ := parsePciInstance_eq_ok.mp h
    exact ⟨parsePciIdentity_eq_ok.mpr ⟨v, d, s, r, hreads, rfl⟩, names_iff hreads⟩
  · obtain ⟨v, d, s, r, hreads, rfl⟩ := parsePciIdentity_eq_ok.mp h
    exact ⟨parsePciInstance_eq_ok.mpr ⟨hadmissible, v, d, s, r, hreads, rfl⟩,
      names_iff hreads⟩
  · obtain ⟨_, v, d, s, r, hreads, hid⟩ := parsePciInstance_eq_ok.mp (parsed_of_validate h)
    rw [hid]
    exact names_iff hreads

/-! ## Sample ids -/

/-- The components, computed on characters. -/
theorem components_eq (value : String) : components value =
    FrametimeCfg.Lib.Text.splitAt (fun c => c = '\\' || c = '&')
      (value.toList.map Char.toUpper) := by
  rw [components, asciiUpper, String.toList_map]

def exactId : String := "PCI\\VEN_10DE&DEV_2684&SUBSYS_47101462&REV_A1\\4&abc&0&0008"

def signedId : String := "PCI\\VEN_+123&DEV_2684&SUBSYS_47101462&REV_A1"

def repeatedId : String := "PCI\\VEN_10DE&VEN_1234&DEV_2684&SUBSYS_47101462&REV_A1"

private def exactIdentity : Identity := (0x10de, 0x2684, 0x1462, 0x4710, 0xa1)

private def exactBinding : PciDeviceBinding where
  schemaVersion := 1
  instanceId := exactId
  containerId := "\x7b01234567-89ab-cdef-0123-456789abcdef\x7d"
  classGuid := "\x7b4d36e968-e325-11ce-bfc1-08002be10318\x7d"
  vendorId := 0x10de
  deviceId := 0x2684
  subsystemVendorId := 0x1462
  subsystemDeviceId := 0x4710
  revisionId := 0xa1
  driverProvider := "NVIDIA"
  driverVersion := "32.0.15.1234"
  publishedInf := "oem42.inf"
  observedAtUtc := "2026-08-13T12:00:00Z"

private def exactDevice : DeviceProperties where
  classGuid := "\x7b4d36e968-e325-11ce-bfc1-08002be10318\x7d"
  instanceId := .ok exactId
  containerId := .ok "\x7b01234567-89ab-cdef-0123-456789abcdef\x7d"
  driverProvider := .ok "NVIDIA"
  driverVersion := .ok "32.0.15.1234"
  publishedInf := .ok "oem42.inf"

theorem exactId_reads : Reads exactId 0x10de 0x2684 0x47101462 0xa1 := by
  constructor <;>
  · rw [fieldTexts, components_eq]
    decide +kernel

theorem exactId_admissible : Admissible exactId where
  short := by decide +kernel
  printable := by decide +kernel
  pci := by
    rw [components_eq]
    decide +kernel

private theorem exactId_parsed : parsePciInstance exactId = .ok exactIdentity :=
  parsePciInstance_eq_ok.mpr ⟨exactId_admissible, _, _, _, _, exactId_reads, rfl⟩

private theorem exactBinding_valid : exactBinding.validate = .ok () := by
  simp only [PciDeviceBinding.validate, bind_eq_ok, check_eq_ok]
  exact ⟨(), by decide +kernel, (), by decide +kernel, (), by decide +kernel,
    (), by decide +kernel, (), by decide +kernel, (), by decide +kernel,
    (), by decide +kernel, exactIdentity, exactId_parsed, by decide +kernel⟩

private theorem exactDevice_bound :
    binding exactDevice.classGuid "2026-08-13T12:00:00Z" exactDevice = .ok exactBinding := by
  have hidentity : parsePciIdentity exactId = .ok exactIdentity :=
    parsePciIdentity_eq_ok.mpr ⟨_, _, _, _, exactId_reads, rfl⟩
  have hinf : asciiLower "oem42.inf" = "oem42.inf" := by
    rw [← String.toList_inj, asciiLower, String.toList_map]
    decide +kernel
  have hclass : reject (!eqIgnoreAsciiCase exactDevice.classGuid exactDevice.classGuid)
      "SetupAPI class GUID disagrees with the requested class" = .ok () :=
    reject_eq_ok.mpr (by simp [eqIgnoreAsciiCase])
  simp only [binding, bind_eq_ok]
  refine ⟨(), hclass, exactId, rfl, exactIdentity, hidentity, _, rfl, _, rfl, _, rfl, _, rfl,
    (), ?_, ?_⟩
  · rw [hinf]
    exact mapError_eq_ok.mpr exactBinding_valid
  · rw [hinf]
    rfl

/-- The id of a live device names what is returned, and so does its binding. -/
theorem pciIdentity_exactId :
    Unambiguous exactId ∧ Names exactId exactIdentity ∧
      Names exactBinding.instanceId (bindingIdentity exactBinding) := by
  have hall := pciIdentity exactId exactIdentity exactBinding
  have hparsed := exactId_parsed
  have hvalid := hall.2.2.1 exactDevice.classGuid _ exactDevice exactDevice_bound
  have hplain : Unambiguous exactId := by
    intro start hstart
    simp only [List.mem_cons, List.not_mem_nil, or_false] at hstart
    unfold Plain
    rw [fieldTexts, components_eq]
    rcases hstart with rfl | rfl | rfl | rfl <;> decide +kernel
  have hidentity := (hall.1 hparsed).1
  exact ⟨hplain, (hall.2.1 hidentity exactId_admissible).2.mpr hplain,
    (hall.2.2.2 hvalid).mpr hplain⟩

/-- A plus sign is read as no digit, and of two vendors the later one is kept. -/
theorem pciIdentity_ambiguous :
    parsePciInstance signedId = .ok (0x123, 0x2684, 0x1462, 0x4710, 0xa1) ∧
      ¬ Names signedId (0x123, 0x2684, 0x1462, 0x4710, 0xa1) ∧
      parsePciInstance repeatedId = .ok (0x1234, 0x2684, 0x1462, 0x4710, 0xa1) ∧
      ¬ Names repeatedId (0x1234, 0x2684, 0x1462, 0x4710, 0xa1) := by
  have hsigned : Reads signedId 0x123 0x2684 0x47101462 0xa1 := by
    constructor <;>
    · rw [fieldTexts, components_eq]
      decide +kernel
  have hrepeated : Reads repeatedId 0x1234 0x2684 0x47101462 0xa1 := by
    constructor <;>
    · rw [fieldTexts, components_eq]
      decide +kernel
  have hsignedOk : Admissible signedId :=
    ⟨by decide +kernel, by decide +kernel, by rw [components_eq]; decide +kernel⟩
  have hrepeatedOk : Admissible repeatedId :=
    ⟨by decide +kernel, by decide +kernel, by rw [components_eq]; decide +kernel⟩
  refine ⟨parsePciInstance_eq_ok.mpr ⟨hsignedOk, _, _, _, _, hsigned, rfl⟩, fun hnames => ?_,
    parsePciInstance_eq_ok.mpr ⟨hrepeatedOk, _, _, _, _, hrepeated, rfl⟩, fun hnames => ?_⟩
  · have hplain := plain_of_oneField hnames.vendor
    rw [Plain, fieldTexts, components_eq] at hplain
    exact absurd hplain (by decide +kernel)
  · have hplain := plain_of_oneField hnames.vendor
    rw [Plain, fieldTexts, components_eq] at hplain
    exact absurd hplain (by decide +kernel)

end FrametimeCfg.Verified.PciIdentity
