import FrametimeCfg.Verified.ManifestScan
import Mathlib.Data.Bool.AllAny
import Mathlib.Data.List.Perm.Subperm

/-!
# The acceptance of a package manifest

A manifest is accepted when its bytes are one JSON object that repeats no key at any depth,
with exactly the fields of a manifest, and its files are the compiled payload layout, one for
one.

* `exactKeys_perm` — the fields of an object.
* `foldlM_addFile` — the files, one by one.
* `parseManifest_exact` — the whole manifest.
-/

namespace FrametimeCfg.Verified.ManifestAcceptance

open FrametimeCfg.Domain
open FrametimeCfg.Lib.Checks
open FrametimeCfg.Lib.OrderedMap
open FrametimeCfg.Lib.OrderedSet
open FrametimeCfg.Lib.Text
open FrametimeCfg.Verified.ManifestScan
open FrametimeCfg.Windows.PackageContract

/-! ## Fields -/

section Fields

variable {fields : List (String × Value)}

/-- **The keys of an object** are the expected ones, each once. -/
theorem exactKeys_perm (hnodup : (fields.map Prod.fst).Nodup) {expected : List String}
    (hexpected : expected.Nodup) {u : Unit}
    (h : exactKeys (Std.ExtTreeMap.ofList fields) expected = .ok u) :
    (fields.map Prod.fst).Perm expected := by
  simp only [exactKeys, reject_eq_ok, Bool.or_eq_false_iff, decide_eq_false_iff_not, not_not,
    List.any_eq_false, Bool.not_eq_true', Bool.not_eq_false] at h
  obtain ⟨hsize, hcontains⟩ := h
  rw [BTreeMap.size_ofList hnodup] at hsize
  have hsubset : expected ⊆ fields.map Prod.fst := fun key hkey =>
    BTreeMap.mem_ofList.mp (by simpa using hcontains key hkey)
  refine ((List.subperm_of_subset hexpected hsubset).perm_of_length_le ?_).symm
  rw [List.length_map, hsize]

theorem mem_of_asStr (hnodup : (fields.map Prod.fst).Nodup) {key text : String}
    (h : (Std.ExtTreeMap.ofList fields : BTreeMap Value)[key]?.bind Value.asStr = some text) :
    (key, .string text) ∈ fields := by
  obtain ⟨value, hget, hvalue⟩ := Option.bind_eq_some_iff.mp h
  cases value <;> cases hvalue
  exact (BTreeMap.get_ofList hnodup).mp hget

theorem mem_of_asU64 (hnodup : (fields.map Prod.fst).Nodup) {key : String} {n : UInt64}
    (h : (Std.ExtTreeMap.ofList fields : BTreeMap Value)[key]?.bind Value.asU64 = some n) :
    (key, .number (.unsigned n)) ∈ fields := by
  obtain ⟨value, hget, hvalue⟩ := Option.bind_eq_some_iff.mp h
  cases value with
  | number number =>
    cases number <;> cases hvalue
    exact (BTreeMap.get_ofList hnodup).mp hget
  | _ => cases hvalue

theorem mem_of_asArray (hnodup : (fields.map Prod.fst).Nodup) {key : String}
    {items : List Value}
    (h : (Std.ExtTreeMap.ofList fields : BTreeMap Value)[key]?.bind Value.asArray = some items) :
    (key, .array items) ∈ fields := by
  obtain ⟨value, hget, hvalue⟩ := Option.bind_eq_some_iff.mp h
  cases value <;> cases hvalue
  exact (BTreeMap.get_ofList hnodup).mp hget

end Fields

/-! ## Files -/

/-- What a file is listed as in the result: its hash in lower case. -/
def listed (entry : PackageFile) : PackageFile := { entry with sha256 := asciiLower entry.sha256 }

/-- An entry of the file list, with its path, its size and its hash. -/
def Describes (item : Value) (entry : PackageFile) : Prop :=
  ∃ fields, item = .object fields ∧ (fields.map Prod.fst).Perm ["path", "size", "sha256"] ∧
    ("path", .string entry.path) ∈ fields ∧
    ("size", .number (.unsigned entry.size)) ∈ fields ∧
    ("sha256", .string entry.sha256) ∈ fields

theorem addFile_eq {byPath next : BTreeMap PackageFile} {item : Value}
    (hdistinct : item.KeysDistinct) (h : addFile byPath item = .ok next) :
    ∃ entry, Describes item entry ∧ asciiLower entry.path ∉ byPath ∧
      next = byPath.insert (asciiLower entry.path) (listed entry) := by
  simp only [addFile, bind_eq_ok, okOr_eq_ok, reject_eq_ok, Option.filter_eq_some_iff] at h
  obtain ⟨object, hobject, _, hkeys, path, hpath, _, _, size, hsize, sha256, ⟨hhash, _⟩, _,
    hfresh, hnext⟩ := h
  cases item <;> cases hobject
  rename_i fields
  obtain ⟨hnodup, _⟩ := distinct_object.mp hdistinct
  refine ⟨⟨path, size, sha256⟩, ⟨fields, rfl, ?_, ?_, ?_, ?_⟩, ?_, (Except.ok.inj hnext).symm⟩
  · exact exactKeys_perm hnodup (by decide) hkeys
  · exact mem_of_asStr hnodup hpath
  · exact mem_of_asU64 hnodup hsize
  · exact mem_of_asStr hnodup hhash
  · rw [← Std.ExtTreeMap.contains_iff_mem, hfresh]
    exact Bool.false_ne_true

/-- What a file is listed under. -/
def keyed (entry : PackageFile) : String × PackageFile := (asciiLower entry.path, listed entry)

/-- **The files are listed** one by one, none of them twice. -/
theorem foldlM_addFile {items : List Value} {byPath result : BTreeMap PackageFile}
    (hdistinct : ∀ item ∈ items, item.KeysDistinct)
    (h : items.foldlM addFile byPath = .ok result) :
    ∃ entries, List.Forall₂ Describes items entries ∧
      result.toList.Perm (byPath.toList ++ entries.map keyed) := by
  induction items generalizing byPath with
  | nil =>
    cases h
    exact ⟨[], .nil, by simp⟩
  | cons item items ih =>
    rw [List.foldlM_cons, bind_eq_ok] at h
    obtain ⟨next, hitem, hitems⟩ := h
    obtain ⟨hfirst, hrest⟩ := List.forall_mem_cons.mp hdistinct
    obtain ⟨entry, hdescribes, hfresh, rfl⟩ := addFile_eq hfirst hitem
    obtain ⟨entries, hentries, hperm⟩ := ih hrest hitems
    refine ⟨entry :: entries, .cons hdescribes hentries, ?_⟩
    have hentry : (byPath.insert (asciiLower entry.path) (listed entry)).toList.Perm
        (keyed entry :: byPath.toList) := BTreeMap.toList_insert_perm hfresh _
    have hall : (byPath.toList ++ (entry :: entries).map keyed).Perm
        (keyed entry :: byPath.toList ++ entries.map keyed) := List.perm_middle
    exact hperm.trans ((hentry.append_right _).trans hall.symm)

/-! ## The manifest -/

/-- **What an accepted manifest says**: its text, its fields and its files. -/
structure Exact (serde : SerdeJson) (bytes : List UInt8) (manifest : PackageManifest) : Prop where
  /-- One object, with no key repeated at any depth and with the three fields. -/
  text : ∃ fields items entries,
    serde.Document (.object fields) bytes ∧ (Value.object fields).KeysDistinct ∧
    (fields.map Prod.fst).Perm ["schema_version", "version", "files"] ∧
    ("schema_version", .number (.unsigned 1)) ∈ fields ∧
    ("version", .string manifest.version) ∈ fields ∧
    ("files", .array items) ∈ fields ∧
    -- the files, as they are written
    List.Forall₂ Describes items entries ∧
    (entries.map fun entry => asciiLower entry.path).Perm expectedPayloadPaths.toList ∧
    manifest.files.Perm (entries.map listed)
  /-- The result has the payload layout in its order. -/
  layout : manifest.files.map (fun file => asciiLower file.path) = expectedPayloadPaths.toList

/-- Two ascending lists of the same elements. -/
theorem eq_toList_of_mem {l : List String} (hl : l.Pairwise (· < ·)) {s : BTreeSet}
    (h : BTreeSet.ofList l = s) : l = s.toList := by
  have hperm : l.Perm s.toList := by
    refine (List.perm_ext_iff_of_nodup (hl.imp ne_of_lt)
      ((BTreeSet.pairwise_toList s).imp ne_of_lt)).mpr fun k => ?_
    rw [Std.ExtTreeSet.mem_toList, ← h, BTreeSet.mem_ofList]
  exact hperm.eq_of_pairwise (fun a b _ _ hab hba => absurd hba (lt_asymm hab)) hl
    (BTreeSet.pairwise_toList s)

theorem pairwise_keys (byPath : BTreeMap PackageFile) : byPath.keys.Pairwise (· < ·) :=
  (Std.ExtTreeMap.ordered_keys (t := byPath)).imp fun h => compare_lt_iff_lt.mp h

theorem parseManifest_exact {serde : SerdeJson} (hserde : serde.Documented) {bytes : List UInt8}
    {manifest : PackageManifest} (h : parseManifest serde bytes = .ok manifest) :
    Exact serde bytes manifest := by
  simp only [parseManifest, bind_eq_ok, okOr_eq_ok, reject_eq_ok, mapError_eq_ok,
    Option.filter_eq_some_iff, decide_eq_false_iff_not, not_not] at h
  obtain ⟨_, _, _, hscan, value, hread, object, hobject, _, hkeys, _, hschema, version,
    ⟨hversion, _⟩, items, hitems, _, _, byPath, hfold, _, hpaths, hmanifest⟩ := h
  have hdocument := hserde.accepted bytes value hread
  have hdistinct : value.KeysDistinct := by
    by_contra hrepeated
    rw [(rejectDuplicateKeys_document hserde hdocument).2 hrepeated] at hscan
    cases hscan
  cases value <;> cases hobject
  rename_i fields
  obtain ⟨hnodup, hvalues⟩ := distinct_object.mp hdistinct
  have hfiles := mem_of_asArray hnodup hitems
  have hitemsDistinct := distinct_array.mp (hvalues _ hfiles)
  obtain ⟨entries, hentries, hperm⟩ := foldlM_addFile hitemsDistinct hfold
  obtain rfl := Except.ok.inj hmanifest
  have hkeysEq : byPath.keys = expectedPayloadPaths.toList :=
    eq_toList_of_mem (pairwise_keys byPath) hpaths
  have hempty : (∅ : BTreeMap PackageFile).toList = [] :=
    Std.ExtTreeMap.toList_eq_nil_iff.mpr rfl
  rw [hempty, List.nil_append] at hperm
  have hlayout : byPath.toList.map (fun entry => asciiLower entry.2.path) = byPath.keys := by
    rw [← Std.ExtTreeMap.map_fst_toList_eq_keys]
    refine List.map_congr_left fun p hp => ?_
    obtain ⟨entry, _, rfl⟩ := List.mem_map.mp (hperm.mem_iff.mp hp)
    rfl
  refine ⟨⟨fields, items, entries, hdocument, hdistinct, exactKeys_perm hnodup (by decide) hkeys,
    mem_of_asU64 hnodup hschema, mem_of_asStr hnodup hversion, hfiles, hentries, ?_, ?_⟩, ?_⟩
  · have hpath := (hperm.map Prod.fst).symm
    rw [Std.ExtTreeMap.map_fst_toList_eq_keys, hkeysEq, List.map_map] at hpath
    exact hpath
  · have hfile := hperm.map Prod.snd
    rw [List.map_map] at hfile
    exact hfile
  · rw [List.map_map, ← hkeysEq]
    exact hlayout

/-- **Acceptance is exact.**  An accepted manifest is one JSON object in which no object repeats
a key, with exactly the fields of a manifest; its files are the payload layout one for one, and
the result lists each of them with its own size and hash.  The scan for repeated keys lets
every text pass that `serde_json` reads and that repeats none, and of the others it says
nothing but that they do. -/
theorem manifestAcceptance (serde : SerdeJson) (hserde : serde.Documented) (bytes : List UInt8) :
    (∀ manifest, parseManifest serde bytes = .ok manifest → Exact serde bytes manifest) ∧
      ∀ value, serde.value bytes = .ok value →
        (value.KeysDistinct → rejectDuplicateKeys serde bytes = .ok ()) ∧
        (¬value.KeysDistinct → rejectDuplicateKeys serde bytes =
          .error "package manifest has duplicate JSON field") :=
  ⟨fun _ => parseManifest_exact hserde, fun value hread =>
    rejectDuplicateKeys_document hserde (hserde.accepted bytes value hread)⟩

/-! ## A field written once and twice -/

/-- A field `a` with the number one. -/
def fieldText : List UInt8 := utf8 "\"a\":1"

/-- `serde_json` on the texts with that field. -/
def fieldSerde : SerdeJson where
  string bytes := if bytes = utf8 "\"a\"" then some "a" else none
  value bytes :=
    if bytes = utf8 "null" then .ok .null
    else if bytes = utf8 "false" then .ok (.bool false)
    else if bytes = utf8 "true" then .ok (.bool true)
    else if bytes = utf8 "1" then .ok (.number (.unsigned 1))
    else if bytes = 0x7b :: (fieldText ++ [0x7d]) then
      .ok (.object [("a", .number (.unsigned 1))])
    else if bytes = 0x7b :: (fieldText ++ 0x2c :: fieldText ++ [0x7d]) then
      .ok (.object [("a", .number (.unsigned 1)), ("a", .number (.unsigned 1))])
    else .error "expected value"

theorem text_one : fieldSerde.Text (.number (.unsigned 1)) (utf8 "1") :=
  .number (by decide) (List.all_iff_forall_prop.mp (by decide)) rfl

theorem literal_a : fieldSerde.Literal "a" (utf8 "\"a\"") :=
  @SerdeJson.Literal.intro fieldSerde (utf8 "a") "a"
    (.plain (by decide) (by decide) .nil) rfl

theorem members_one : fieldSerde.Members [("a", .number (.unsigned 1))] fieldText :=
  @SerdeJson.Members.last fieldSerde "a" _ [] (utf8 "\"a\"") [] [] (utf8 "1") []
    White.nil literal_a White.nil White.nil text_one White.nil

theorem members_two : fieldSerde.Members
    [("a", .number (.unsigned 1)), ("a", .number (.unsigned 1))]
    (fieldText ++ 0x2c :: fieldText) :=
  @SerdeJson.Members.cons fieldSerde "a" _ _ [] (utf8 "\"a\"") [] [] (utf8 "1") [] fieldText
    White.nil literal_a White.nil White.nil text_one White.nil members_one

theorem documented_of_text {value : Value} {text : List UInt8} (h : fieldSerde.Text value text) :
    fieldSerde.Document value text :=
  ⟨[], text, [], White.nil, h, White.nil, (List.append_nil text).symm⟩

theorem documented_field : fieldSerde.Documented where
  accepted bytes value h := by
    simp only [fieldSerde] at h
    split_ifs at h with h₁ h₂ h₃ h₄ h₅ h₆ <;> cases h <;> refine documented_of_text ?_
    · exact h₁ ▸ .nullName
    · exact h₂ ▸ .falseName
    · exact h₃ ▸ .trueName
    · exact h₄ ▸ text_one
    · exact h₅ ▸ .object members_one
    · exact h₆ ▸ .object members_two
  readsNull := rfl
  readsFalse := rfl
  readsTrue := rfl

theorem manifestAcceptance_field :
    rejectDuplicateKeys fieldSerde (0x7b :: (fieldText ++ [0x7d])) = .ok () ∧
      rejectDuplicateKeys fieldSerde (0x7b :: (fieldText ++ 0x2c :: fieldText ++ [0x7d])) =
        .error "package manifest has duplicate JSON field" :=
  ⟨((manifestAcceptance fieldSerde documented_field _).2 _ rfl).1
      (.object (by decide) (by
        simp only [List.mem_singleton, forall_eq]
        exact .number _)),
    ((manifestAcceptance fieldSerde documented_field _).2 _ rfl).2 fun h => by
      have hnodup := (distinct_object.mp h).1
      revert hnodup
      decide⟩

end FrametimeCfg.Verified.ManifestAcceptance
