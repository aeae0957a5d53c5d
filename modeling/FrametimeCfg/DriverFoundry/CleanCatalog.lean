import FrametimeCfg.Lib.Checks
import FrametimeCfg.Lib.Text
import Mathlib.Data.List.Infix

/-!
# The catalogs of a cleanup

What a cleanup removes is listed in files below a settings root: a folder for each vendor,
and in it a file for each kind of thing, one entry a line.  The entries are a small language
of data: no quotes, no control characters, no way up the tree.

A file is read strictly (`loadLines`) or leniently (`tryLoadLines`), which takes a file that
it cannot read for one without entries.

The settings tree maps a folder and a file in it to the text of the file.  A byte is allowed
in an entry only if it is ASCII, so that the entries are tested character by character.
-/

namespace FrametimeCfg.DriverFoundry

open FrametimeCfg.Lib.Checks
open FrametimeCfg.Lib.Text

inductive CatalogError where
  /-- No file of this name in this folder below this root. -/
  | notFound (settingsRoot vendor fileName : String)
  | backupRejected (fileName : String)
  | unsafePathComponent (component : String)
  | unsafeEntry (file entry : String)
  deriving DecidableEq

/-- The text of the file of a name in the folder of a vendor. -/
abbrev SettingsTree := String → String → Option String

/-! ## Entries -/

/-- `validate_path_component`. -/
def validatePathComponent (component : String) : Except CatalogError Unit :=
  reject
    (component = "" || component.toList.any (fun c => c = '/' || c = '\\') ||
      decide (['.', '.'] <:+: component.toList) ||
      !component.toList.all fun c => c.isAlphanum || c = '.' || c = '_' || c = '-')
    (.unsafePathComponent component)

/-- The signs an entry may have beside letters and digits. -/
def ENTRY_SIGNS : List Char := " \\/._-,:&%*()\x7b\x7d$@=+".toList

def isEntryChar (c : Char) : Bool := c.isAlphanum || ENTRY_SIGNS.contains c

/-- `validate_entry`: whether an entry is accepted. -/
def validateEntry (entry : String) : Bool :=
  byteLen entry ≤ 260 && !decide (['.', '.'] <:+: entry.toList) && entry.toList.all isEntryChar

/-- The lines of a file that are not blank, trimmed. -/
def entryLines (text : String) : List String :=
  (((lines text.toList).map trim).filter (· ≠ [])).map String.ofList

/-! ## Files -/

/-- An entry of a file, or why it is not one. -/
private def checkedEntry (fileName line : String) : Except CatalogError String := do
  reject (!validateEntry line) (.unsafeEntry fileName line)
  pure line

/-- `load_lines`. -/
def loadLines (tree : SettingsTree) (settingsRoot vendor fileName : String) :
    Except CatalogError (List String) := do
  validatePathComponent vendor
  validatePathComponent fileName
  reject (".bak".toList.isSuffixOf (asciiLower fileName).toList) (.backupRejected fileName)
  let text ← okOr (tree vendor fileName) (.notFound settingsRoot vendor fileName)
  (entryLines text).mapM (checkedEntry fileName)

/-- `try_load_lines`. -/
def tryLoadLines (tree : SettingsTree) (settingsRoot vendor fileName : String) : List String :=
  match loadLines tree settingsRoot vendor fileName with
  | .ok entries => entries
  | .error _ => []

/-! ## What a file gives -/

/-- A name that a catalog can be read under. -/
def isCatalogName (fileName : String) : Bool :=
  (validatePathComponent fileName).isOk && !".bak".toList.isSuffixOf (asciiLower fileName).toList

/-- The file is there. -/
def SettingsTree.Present (tree : SettingsTree) (vendor fileName : String) : Prop :=
  ∃ text, tree vendor fileName = some text

/-- The file is there and has this entry. -/
def SettingsTree.Lists (tree : SettingsTree) (vendor fileName entry : String) : Prop :=
  ∃ text, tree vendor fileName = some text ∧ entry ∈ entryLines text

/-- **The file is there and has an entry** that the language of the entries rejects. -/
def SettingsTree.Rejected (tree : SettingsTree) (vendor fileName : String) : Prop :=
  ∃ entry, tree.Lists vendor fileName entry ∧ validateEntry entry = false

section Load

variable {tree : SettingsTree} {settingsRoot vendor fileName : String}

private theorem checkedEntry_eq_ok {line entry : String} :
    checkedEntry fileName line = .ok entry ↔ entry = line ∧ validateEntry line = true := by
  cases hvalid : validateEntry line with
  | true => simp [checkedEntry, hvalid, pure, Except.pure, eq_comm]
  | false => simp [checkedEntry, hvalid]

private theorem mapM_checkedEntry {lines entries : List String} :
    lines.mapM (checkedEntry fileName) = .ok entries ↔
      entries = lines ∧ ∀ line ∈ lines, validateEntry line = true := by
  induction lines generalizing entries with
  | nil =>
    rw [List.mapM_nil]
    exact ⟨fun h => ⟨(Except.ok.inj h).symm, by simp⟩, fun h => by rw [h.1]; rfl⟩
  | cons line lines ih =>
    simp only [List.mapM_cons, bind_eq_ok, checkedEntry_eq_ok, ih, List.forall_mem_cons]
    constructor
    · rintro ⟨_, ⟨rfl, hline⟩, _, ⟨rfl, hlines⟩, hentries⟩
      exact ⟨(Except.ok.inj hentries).symm, hline, hlines⟩
    · rintro ⟨rfl, hline, hlines⟩
      exact ⟨line, ⟨rfl, hline⟩, lines, ⟨rfl, hlines⟩, rfl⟩

/-- **What the strict reading gives**: all entries of a file that has none to reject. -/
theorem loadLines_eq_ok (hvendor : isCatalogName vendor = true)
    (hfile : isCatalogName fileName = true) {entries : List String} :
    loadLines tree settingsRoot vendor fileName = .ok entries ↔
      ∃ text, tree vendor fileName = some text ∧ entries = entryLines text ∧
        ∀ line ∈ entryLines text, validateEntry line = true := by
  have hok {component : String} (h : isCatalogName component = true) :
      validatePathComponent component = .ok () := by
    rw [isCatalogName, Bool.and_eq_true] at h
    cases hcomponent : validatePathComponent component with
    | ok _ => rfl
    | error e => simp [hcomponent, Except.isOk, Except.toBool] at h
  have hbak : ".bak".toList.isSuffixOf (asciiLower fileName).toList = false := by
    rw [isCatalogName, Bool.and_eq_true] at hfile
    simpa using hfile.2
  simp only [loadLines, hok hvendor, hok hfile, hbak, bind_ok, reject_false, bind_eq_ok,
    okOr_eq_ok, mapM_checkedEntry]

/-- The strict reading fails exactly where the file is missing or has an entry to reject. -/
theorem loadLines_isOk_iff (settingsRoot : String) (hvendor : isCatalogName vendor = true)
    (hfile : isCatalogName fileName = true) :
    (∃ entries, loadLines tree settingsRoot vendor fileName = .ok entries) ↔
      tree.Present vendor fileName ∧ ¬ tree.Rejected vendor fileName := by
  simp only [loadLines_eq_ok hvendor hfile]
  constructor
  · rintro ⟨_, text, htext, rfl, hvalid⟩
    refine ⟨⟨text, htext⟩, ?_⟩
    rintro ⟨entry, ⟨text', htext', hentry⟩, hrejected⟩
    obtain rfl := Option.some.inj (htext.symm.trans htext')
    rw [hvalid entry hentry] at hrejected
    cases hrejected
  · rintro ⟨⟨text, htext⟩, hnone⟩
    refine ⟨entryLines text, text, htext, rfl, fun entry hentry => ?_⟩
    by_contra hrejected
    exact hnone ⟨entry, ⟨text, htext, hentry⟩, by simpa using hrejected⟩

/-- **What the lenient reading gives**: the entries, unless one of them is rejected. -/
theorem mem_tryLoadLines (hvendor : isCatalogName vendor = true)
    (hfile : isCatalogName fileName = true) {entry : String} :
    entry ∈ tryLoadLines tree settingsRoot vendor fileName ↔
      tree.Lists vendor fileName entry ∧ ¬ tree.Rejected vendor fileName := by
  have hok : (∃ entries, loadLines tree settingsRoot vendor fileName = .ok entries) ↔ _ :=
    loadLines_isOk_iff settingsRoot hvendor hfile
  unfold tryLoadLines
  cases hload : loadLines tree settingsRoot vendor fileName with
  | ok entries =>
    obtain ⟨text, htext, rfl, _⟩ := (loadLines_eq_ok hvendor hfile).mp hload
    have hnone := (hok.mp ⟨_, hload⟩).2
    constructor
    · exact fun hentry => ⟨⟨text, htext, hentry⟩, hnone⟩
    · rintro ⟨⟨text', htext', hentry⟩, _⟩
      rwa [Option.some.inj (htext.symm.trans htext')]
  | error e =>
    constructor
    · exact fun hentry => absurd hentry List.not_mem_nil
    · rintro ⟨⟨text, htext, _⟩, hnone⟩
      obtain ⟨entries, hentries⟩ := hok.mpr ⟨⟨text, htext⟩, hnone⟩
      rw [hentries] at hload
      cases hload

end Load

end FrametimeCfg.DriverFoundry
