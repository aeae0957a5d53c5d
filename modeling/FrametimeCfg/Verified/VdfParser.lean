import FrametimeCfg.Verified.VdfLexer
import Mathlib.Data.Bool.AllAny
import Mathlib.Data.List.Sort

/-!
# Key-value files as trees

A key-value file is read as a tree of maps exactly if it is one of the ways to write that
tree, and the cursors of the lexer and of the descent stay inside.

* `sound`, `complete` — the descent, one lemma for a value and one for an object.
* `parseVdf_eq_ok` — a whole text.
* `vdfParser` — a text, its cursors, and the library paths that are read from it.
-/

namespace FrametimeCfg.Verified.VdfParser

open FrametimeCfg.Domain.Steam
open FrametimeCfg.Lib.Buffer
open FrametimeCfg.Lib.Scan
open FrametimeCfg.Lib.Text (utf8)
open FrametimeCfg.Verified.VdfLexer

/-! ## One entry -/

section Step

variable {tokens : List VdfToken} {expectClose : Bool} {object : VdfObject} {cursor : Nat}

theorem parseValue_eq :
    (parseValue tokens cursor).val =
      match tokens[cursor]? with
      | none => (.error (.invalidVdf "VDF key has no value"), cursor)
      | some (.text value) => (.ok (.string value), cursor + 1)
      | some .openBrace =>
          match (parseObject tokens true [] (cursor + 1)).val with
          | (.ok fields, next) => (.ok (.object fields), next)
          | (.error e, next) => (.error e, next)
      | some .closeBrace => (.error (.invalidVdf "VDF key has no value"), cursor) := by
  rw [parseValue]
  split
  · rename_i htoken
    simp only [htoken]
  · rename_i htoken
    simp only [htoken]
  · rename_i htoken
    simp only [htoken]
    rcases parseObject tokens true [] (cursor + 1) with ⟨⟨_ | fields, next⟩, hnested⟩
    · rfl
    · rfl
  · rename_i htoken
    simp only [htoken]

theorem parseObject_eq :
    (parseObject tokens expectClose object cursor).val =
      match tokens[cursor]? with
      | none =>
          if expectClose then (.error (.invalidVdf "unclosed VDF object"), cursor)
          else (.ok object, cursor)
      | some .closeBrace =>
          if expectClose then (.ok object, cursor + 1)
          else (.error (.invalidVdf "unexpected VDF close brace"), cursor)
      | some .openBrace => (.error (.invalidVdf "VDF key must be quoted"), cursor)
      | some (.text key) =>
          match (parseValue tokens (cursor + 1)).val with
          | (.error e, next) => (.error e, next)
          | (.ok value, next) =>
              if (getField object key).isSome then
                (.error (.invalidVdf s!"duplicate VDF key: {key}"), next)
              else (parseObject tokens expectClose (insertField key value object) next).val := by
  rw [parseObject]
  split
  · rename_i htoken
    simp only [htoken]
    cases expectClose <;> rfl
  · rename_i htoken
    simp only [htoken]
    cases expectClose <;> rfl
  · rename_i htoken
    simp only [htoken]
  · rename_i key htoken
    simp only [htoken]
    rcases parseValue tokens (cursor + 1) with ⟨⟨_ | value, next⟩, hread⟩
    · rfl
    · dsimp only
      split <;> rfl

end Step

/-! ## Trees -/

mutual

/-- The tokens of a value.  The fields of an object may be written in any order. -/
inductive ValueTokens : VdfValue → List VdfToken → Prop
  | string (value : String) : ValueTokens (.string value) [.text value]
  | object {order fields : VdfObject} {tokens : List VdfToken} :
      order.Perm fields → FieldTokens order tokens →
        ValueTokens (.object fields) (.openBrace :: tokens ++ [.closeBrace])

/-- The tokens of fields, in their order. -/
inductive FieldTokens : VdfObject → List VdfToken → Prop
  | nil : FieldTokens [] []
  | cons {key : String} {value : VdfValue} {rest : VdfObject} {tokens after : List VdfToken} :
      ValueTokens value tokens → FieldTokens rest after →
        FieldTokens ((key, value) :: rest) (.text key :: (tokens ++ after))

end

/-- The keys of an object, each before the next: the entries of a map. -/
def KeysOrdered (object : VdfObject) : Prop := object.Pairwise fun a b => a.1 < b.1

/-- **A tree of maps**: at every level the keys are ordered, and so distinct. -/
inductive Tree : VdfValue → Prop
  | string (value : String) : Tree (.string value)
  | object {fields : VdfObject} :
      KeysOrdered fields → (∀ field ∈ fields, Tree field.2) → Tree (.object fields)

/-- **The texts of a tree**, as bytes: its fields in any order, white space and comments
anywhere between the tokens. -/
def Printing (root : VdfObject) (bytes : List UInt8) : Prop :=
  ∃ order tokens, order.Perm root ∧ FieldTokens order tokens ∧ Spelled tokens bytes

/-! ## Maps -/

theorem getField_isSome {object : VdfObject} {key : String} :
    (getField object key).isSome = true ↔ key ∈ object.map Prod.fst := by
  rw [getField, ← not_iff_not, Bool.not_eq_true, Option.isSome_eq_false_iff, Option.isNone_iff_eq_none,
    List.lookup_eq_none_iff]
  simp only [List.mem_map, not_exists, not_and, bne_iff_ne, ne_eq]
  exact ⟨fun h field hfield heq => h field hfield heq.symm,
    fun h field hfield heq => h field hfield heq.symm⟩

section Insert

variable {object : VdfObject} {key : String} {value : VdfValue}

theorem insertField_perm (h : key ∉ object.map Prod.fst) :
    (insertField key value object).Perm ((key, value) :: object) := by
  induction object with
  | nil => exact .refl _
  | cons field object ih =>
    obtain ⟨k, v⟩ := field
    rw [List.map_cons, List.mem_cons, not_or] at h
    rw [insertField]
    split_ifs with hlt heq
    · exact .refl _
    · exact absurd heq h.1
    · exact (List.Perm.cons (k, v) (ih h.2)).trans (List.Perm.swap _ _ _)

theorem insertField_ordered (hobject : KeysOrdered object) (h : key ∉ object.map Prod.fst) :
    KeysOrdered (insertField key value object) := by
  induction object with
  | nil => exact List.pairwise_singleton _ _
  | cons field object ih =>
    obtain ⟨k, v⟩ := field
    obtain ⟨hfirst, hrest⟩ := List.pairwise_cons.mp hobject
    rw [List.map_cons, List.mem_cons, not_or] at h
    rw [insertField]
    split_ifs with hlt heq
    · refine List.pairwise_cons.mpr ⟨fun other hother => ?_, hobject⟩
      rcases List.mem_cons.mp hother with rfl | hother
      · exact hlt
      · exact lt_trans hlt (hfirst other hother)
    · exact absurd heq h.1
    · refine List.pairwise_cons.mpr ⟨fun other hother => ?_, ih hrest h.2⟩
      rcases List.mem_cons.mp ((insertField_perm h.2).mem_iff.mp hother) with rfl | hother
      · exact lt_of_le_of_ne (not_lt.mp hlt) (Ne.symm heq)
      · exact hfirst other hother

end Insert

/-- Maps with the same entries are equal. -/
theorem eq_of_ordered {a b : VdfObject} (hperm : a.Perm b) (ha : KeysOrdered a)
    (hb : KeysOrdered b) : a = b :=
  hperm.eq_of_pairwise (fun _ _ _ _ hxy hyx => absurd hyx (lt_asymm hxy)) ha hb

theorem keys_nodup {object : VdfObject} (h : KeysOrdered object) :
    (object.map Prod.fst).Nodup :=
  List.pairwise_map.mpr (h.imp fun hlt => ne_of_lt hlt)

/-! ## The descent reads trees -/

/-- What ends an object. -/
def closing (expectClose : Bool) : List VdfToken := if expectClose then [.closeBrace] else []

/-- The value that is read from a cursor is written there. -/
def ValueSound (tokens : List VdfToken) (cursor : Nat) : Prop :=
  ∀ value next, (parseValue tokens cursor).val = (.ok value, next) →
    ∃ consumed, tokens.drop cursor = consumed ++ tokens.drop next ∧
      ValueTokens value consumed ∧ Tree value

/-- The fields that are read from a cursor are written there, and are added to the map. -/
def ObjectSound (tokens : List VdfToken) (cursor : Nat) : Prop :=
  ∀ expectClose object result next, KeysOrdered object →
    (parseObject tokens expectClose object cursor).val = (.ok result, next) →
    ∃ order consumed,
      tokens.drop cursor = consumed ++ (closing expectClose ++ tokens.drop next) ∧
      FieldTokens order consumed ∧ (∀ field ∈ order, Tree field.2) ∧
      result.Perm (order ++ object) ∧ KeysOrdered result ∧
      (expectClose = false → tokens.drop next = [])

section Sound

variable {tokens : List VdfToken} {cursor : Nat}

theorem valueSound_of (hnested : cursor < tokens.length → ObjectSound tokens (cursor + 1)) :
    ValueSound tokens cursor := by
  intro value next h
  rw [parseValue_eq] at h
  split at h
  · cases h
  · rename_i text htoken
    cases h
    exact ⟨[.text text], drop_of_getElem? htoken, .string text, .string text⟩
  · rename_i htoken
    have hinside := (List.getElem?_eq_some_iff.mp htoken).1
    split at h
    · rename_i fields after hfields
      cases h
      obtain ⟨order, consumed, hdrop, horder, htrees, hperm, hordered, _⟩ :=
        hnested hinside true [] fields next List.Pairwise.nil hfields
      rw [List.append_nil] at hperm
      refine ⟨.openBrace :: consumed ++ [.closeBrace], ?_, .object hperm.symm horder,
        .object hordered fun field hfield => htrees field (hperm.mem_iff.mp hfield)⟩
      rw [drop_of_getElem? htoken, hdrop]
      simp [closing]
    · cases h
  · cases h

theorem objectSound_of (hvalue : cursor < tokens.length → ValueSound tokens (cursor + 1))
    (hrest : ∀ next, cursor < tokens.length → cursor < next → ObjectSound tokens next) :
    ObjectSound tokens cursor := by
  intro expectClose object result next hobject h
  rw [parseObject_eq] at h
  split at h
  · rename_i htoken
    have hend : tokens.drop cursor = [] := List.drop_eq_nil_of_le (by simpa using htoken)
    cases expectClose with
    | true => cases h
    | false =>
      cases h
      exact ⟨[], [], rfl, .nil, by simp, .refl _, hobject, fun _ => hend⟩
  · rename_i htoken
    cases expectClose with
    | true =>
      cases h
      exact ⟨[], [], drop_of_getElem? htoken, .nil, by simp, .refl _, hobject, nofun⟩
    | false => cases h
  · cases h
  · rename_i key htoken
    have hinside := (List.getElem?_eq_some_iff.mp htoken).1
    have hmoved := (parseValue tokens (cursor + 1)).property.1
    split at h
    · cases h
    · rename_i value after hread
      rw [hread] at hmoved
      obtain ⟨consumed, hdrop, hwritten, htree⟩ := hvalue hinside value after hread
      by_cases hknown : (getField object key).isSome = true
      · rw [if_pos hknown] at h
        cases h
      rw [if_neg hknown] at h
      have hnew : key ∉ object.map Prod.fst := fun hmem => hknown (getField_isSome.mpr hmem)
      obtain ⟨order, later, hlater, horder, htrees, hperm, hordered, hend⟩ :=
        hrest after hinside hmoved expectClose _ result next
          (insertField_ordered hobject hnew) h
      refine ⟨(key, value) :: order, .text key :: (consumed ++ later), ?_,
        .cons hwritten horder, ?_, ?_, hordered, hend⟩
      · rw [drop_of_getElem? htoken, hdrop, hlater]
        simp
      · intro field hfield
        rcases List.mem_cons.mp hfield with rfl | hfield
        · exact htree
        · exact htrees field hfield
      · exact hperm.trans (((insertField_perm hnew).append_left order).trans
          List.perm_middle)

/-- **What is read is written.** -/
theorem sound (tokens : List VdfToken) (cursor : Nat) :
    ValueSound tokens cursor ∧ ObjectSound tokens cursor := by
  induction hleft : tokens.length - cursor using Nat.strong_induction_on
    generalizing cursor with
  | h left ih =>
    have hlater : ∀ next, cursor < tokens.length → cursor < next →
        ValueSound tokens next ∧ ObjectSound tokens next :=
      fun next hinside hmoved => ih _ (by omega) next rfl
    exact ⟨valueSound_of fun hinside => (hlater _ hinside (Nat.lt_succ_self cursor)).2,
      objectSound_of (fun hinside => (hlater _ hinside (Nat.lt_succ_self cursor)).1)
        fun next hinside hmoved => (hlater next hinside hmoved).2⟩

end Sound

/-! ## Trees are read -/

/-- A value that is written is read. -/
def ValueComplete (tokens written : List VdfToken) : Prop :=
  ∀ value cursor rest, ValueTokens value written → Tree value →
    tokens.drop cursor = written ++ rest →
    (parseValue tokens cursor).val = (.ok value, cursor + written.length)

/-- Fields that are written are read, and added to a map without their keys. -/
def ObjectComplete (tokens written : List VdfToken) : Prop :=
  ∀ order expectClose object cursor rest, FieldTokens order written →
    (∀ field ∈ order, Tree field.2) → KeysOrdered object →
    ((order ++ object).map Prod.fst).Nodup →
    tokens.drop cursor = written ++ (closing expectClose ++ rest) →
    (expectClose = false → rest = []) →
    ∃ result, (parseObject tokens expectClose object cursor).val =
        (.ok result, cursor + written.length + (closing expectClose).length) ∧
      result.Perm (order ++ object) ∧ KeysOrdered result

section Complete

variable {tokens written : List VdfToken}

theorem valueComplete_of
    (hnested : ∀ inner, inner.length < written.length → ObjectComplete tokens inner) :
    ValueComplete tokens written := by
  intro value cursor rest hwritten htree hdrop
  cases hwritten with
  | string text =>
    rw [parseValue_eq, (drop_eq_cons hdrop).1]
    rfl
  | @object order fields inner hperm horder =>
    obtain ⟨hopen, hrest, _⟩ := drop_eq_cons hdrop
    cases htree with
    | object hordered htrees =>
      have hinner : tokens.drop (cursor + 1) = inner ++ (closing true ++ rest) := by
        rw [hrest]
        simp [closing]
      have hnodup : ((order ++ []).map Prod.fst).Nodup := by
        rw [List.append_nil]
        exact (hperm.map Prod.fst).nodup_iff.mpr (keys_nodup hordered)
      obtain ⟨result, hread, hresult, hsorted⟩ := hnested inner
        (by rw [List.length_append, List.length_cons]; omega) order true []
        (cursor + 1) rest horder (fun field hfield => htrees field (hperm.mem_iff.mp hfield))
        List.Pairwise.nil hnodup hinner nofun
      rw [List.append_nil] at hresult
      obtain rfl := eq_of_ordered (hresult.trans hperm) hsorted hordered
      rw [parseValue_eq, hopen]
      simp only [hread]
      simp [closing]
      omega

theorem objectComplete_of
    (hvalue : ∀ inner, inner.length < written.length → ValueComplete tokens inner)
    (hlater : ∀ inner, inner.length < written.length → ObjectComplete tokens inner) :
    ObjectComplete tokens written := by
  intro order expectClose object cursor rest hwritten htrees hobject hnodup hdrop hend
  cases hwritten with
  | nil =>
    refine ⟨object, ?_, .refl _, hobject⟩
    rw [parseObject_eq]
    cases expectClose with
    | true =>
      rw [(drop_eq_cons hdrop).1]
      rfl
    | false =>
      rw [hend rfl] at hdrop
      rw [List.getElem?_eq_none (List.drop_eq_nil_iff.mp hdrop)]
      rfl
  | @cons key value order inner after hinner hafter =>
    have htail : tokens.drop cursor =
        .text key :: (inner ++ (after ++ (closing expectClose ++ rest))) := by
      rw [hdrop]
      simp
    obtain ⟨hkey, hrest, _⟩ := drop_eq_cons htail
    rw [List.cons_append, List.map_cons, List.nodup_cons] at hnodup
    have hshort : inner.length < (VdfToken.text key :: (inner ++ after)).length ∧
        after.length < (VdfToken.text key :: (inner ++ after)).length := by
      rw [List.length_cons, List.length_append]
      omega
    have hread := hvalue inner hshort.1 value (cursor + 1) _ hinner
      (htrees (key, value) (by simp)) hrest
    have hnew : key ∉ object.map Prod.fst := fun hmem => hnodup.1 (by
      rw [List.map_append]
      exact List.mem_append_right _ hmem)
    have hperm : (order ++ insertField key value object).Perm
        (order ++ (key, value) :: object) := (insertField_perm hnew).append_left order
    have hnodup' : ((order ++ insertField key value object).map Prod.fst).Nodup := by
      refine ((hperm.trans List.perm_middle).map Prod.fst).nodup_iff.mpr ?_
      exact List.nodup_cons.mpr hnodup
    obtain ⟨result, hresult, hsame, hordered⟩ := hlater after hshort.2 order expectClose _
      (cursor + 1 + inner.length) rest hafter (fun field hfield => htrees field (by simp [hfield]))
      (insertField_ordered hobject hnew) hnodup' (drop_append_eq hrest) hend
    refine ⟨result, ?_, (hsame.trans hperm).trans List.perm_middle, hordered⟩
    have hunknown : ¬ (getField object key).isSome = true :=
      fun hsome => hnew (getField_isSome.mp hsome)
    rw [parseObject_eq, hkey]
    simp only [hread]
    rw [if_neg hunknown, hresult]
    simp only [List.length_cons, List.length_append]
    congr 1
    omega

/-- **What is written is read.** -/
theorem complete (tokens written : List VdfToken) :
    ValueComplete tokens written ∧ ObjectComplete tokens written := by
  induction hlength : written.length using Nat.strong_induction_on generalizing written with
  | h n ih =>
    exact ⟨valueComplete_of fun inner hinner => (ih _ (by omega) inner rfl).2,
      objectComplete_of (fun inner hinner => (ih _ (by omega) inner rfl).1)
        fun inner hinner => (ih _ (by omega) inner rfl).2⟩

end Complete

/-! ## A whole text -/

/-- **A text is read as a tree** exactly if it is a printing of the tree. -/
theorem parseVdf_eq_ok {text : String} {root : VdfObject} :
    parseVdf text = .ok root ↔ Tree (.object root) ∧ Printing root (utf8 text) := by
  have htokens : ∀ tokens, (tokensFrom (utf8 text) [] 0).1 = .ok tokens ↔
      Spelled tokens (utf8 text) := by
    intro tokens
    rw [tokensFrom_iff]
    simp
  constructor
  · intro h
    unfold parseVdf at h
    split at h
    · cases h
    · rename_i tokens hread
      split at h
      · cases h
      · rename_i object cursor hobject
        split_ifs at h with hcursor
        · cases h
        · cases h
          obtain ⟨order, consumed, hdrop, horder, htrees, hperm, hordered, hend⟩ :=
            (sound tokens 0).2 false [] root cursor List.Pairwise.nil hobject
          rw [hend rfl] at hdrop
          rw [List.append_nil] at hperm
          have hall : tokens = consumed := by simpa [closing] using hdrop
          refine ⟨.object hordered fun field hfield => htrees field (hperm.mem_iff.mp hfield),
            order, tokens, hperm.symm, hall ▸ horder, (htokens tokens).mp hread⟩
  · intro ⟨htree, order, tokens, hperm, horder, hspelled⟩
    cases htree with
    | object hordered htrees =>
      have hnodup : ((order ++ []).map Prod.fst).Nodup := by
        rw [List.append_nil]
        exact (hperm.map Prod.fst).nodup_iff.mpr (keys_nodup hordered)
      obtain ⟨result, hread, hresult, hsorted⟩ := (complete tokens tokens).2 order false [] 0 []
        horder (fun field hfield => htrees field (hperm.mem_iff.mp hfield)) List.Pairwise.nil
        hnodup (by simp [closing]) fun _ => rfl
      rw [List.append_nil] at hresult
      obtain rfl := eq_of_ordered (hresult.trans hperm) hsorted hordered
      unfold parseVdf
      rw [(htokens tokens).mpr hspelled]
      simp only [hread]
      simp [closing]

/-- A text is never read past its end. -/
theorem parseVdf_contained (text : String) : Contained (parseVdf text) := by
  have hlexer : Contained (tokensFrom (utf8 text) [] 0).1 := tokensFrom_contained []
  unfold parseVdf
  split
  · rename_i e htokens
    rw [htokens] at hlexer
    intro h
    exact hlexer (congrArg (Except.map fun _ => []) h)
  · split
    · exact .error _
    · split_ifs
      · exact .error _
      · exact .ok _

/-! ## Library paths -/

theorem getField_eq_some {object : VdfObject} (h : KeysOrdered object) {key : String}
    {value : VdfValue} : getField object key = some value ↔ (key, value) ∈ object := by
  induction object with
  | nil => simp [getField]
  | cons field object ih =>
    obtain ⟨k, v⟩ := field
    obtain ⟨hfirst, hrest⟩ := List.pairwise_cons.mp h
    rw [getField, List.lookup_cons, List.mem_cons]
    by_cases hkey : key = k
    · subst hkey
      have hother : (key, value) ∉ object := fun hmem => lt_irrefl key (hfirst _ hmem)
      simp [hother, eq_comm]
    · rw [beq_false_of_ne hkey]
      simp only [Prod.mk.injEq, hkey, false_and, false_or]
      exact ih hrest

/-- The path that a library has: itself, or its field `path`. -/
inductive HasPath : VdfValue → Option String → Prop
  | string (path : String) : HasPath (.string path) (some path)
  | field {fields : VdfObject} {path : String} :
      ("path", .string path) ∈ fields → HasPath (.object fields) (some path)
  | none {fields : VdfObject} :
      (∀ path, ("path", .string path) ∉ fields) → HasPath (.object fields) none

/-- **The library paths of a tree**: those of the entries under `libraryfolders`, in the
order of their keys. -/
def LibraryPaths (root : VdfObject) (paths : List String) : Prop :=
  (∃ libraries found, ("libraryfolders", .object libraries) ∈ root ∧
    List.Forall₂ (fun library path => HasPath library.2 path) libraries found ∧
    paths = found.reduceOption) ∨
  (∀ libraries, ("libraryfolders", .object libraries) ∉ root) ∧ paths = []

theorem hasPath_iff {value : VdfValue} (h : Tree value) {path : Option String} :
    HasPath value path ↔ path = libraryPath value := by
  cases h with
  | string text =>
    constructor
    · intro hpath
      cases hpath
      rfl
    · intro hpath
      exact hpath ▸ .string text
  | @object fields hordered _ =>
    have hget : ∀ value, getField fields "path" = some value ↔ ("path", value) ∈ fields :=
      fun value => getField_eq_some hordered
    constructor
    · intro hpath
      cases hpath with
      | field hmem => rw [libraryPath, (hget _).mpr hmem]
      | none hnone =>
        rw [libraryPath]
        split
        · rename_i path hfield
          exact absurd ((hget _).mp hfield) (hnone path)
        · rfl
    · intro hpath
      rw [hpath, libraryPath]
      split
      · rename_i path hfield
        exact .field ((hget _).mp hfield)
      · rename_i hother
        exact .none fun path hmem => hother path ((hget _).mpr hmem)

theorem forall₂_hasPath {libraries : VdfObject} (h : ∀ library ∈ libraries, Tree library.2)
    {found : List (Option String)} :
    List.Forall₂ (fun library path => HasPath library.2 path) libraries found ↔
      found = libraries.map fun library => libraryPath library.2 := by
  induction libraries generalizing found with
  | nil => rw [List.forall₂_nil_left_iff, List.map_nil]
  | cons library libraries ih =>
    rw [List.forall₂_cons_left_iff, List.map_cons]
    constructor
    · intro ⟨path, rest, hpath, hrest, hfound⟩
      rw [hfound, (hasPath_iff (h library (by simp))).mp hpath,
        (ih fun l hl => h l (by simp [hl])).mp hrest]
    · intro hfound
      exact ⟨_, _, (hasPath_iff (h library (by simp))).mpr rfl,
        (ih fun l hl => h l (by simp [hl])).mpr rfl, hfound⟩

/-- What `library_paths_from_vdf` returns for a tree. -/
theorem libraryPathsFromVdf_eq_ok {text : String} {paths : List String} :
    libraryPathsFromVdf text = .ok paths ↔
      ∃ root, parseVdf text = .ok root ∧ LibraryPaths root paths := by
  unfold libraryPathsFromVdf
  cases hread : parseVdf text with
  | error e => simp
  | ok root =>
    simp only [Except.ok.injEq, exists_eq_left']
    have htree := (parseVdf_eq_ok.mp hread).1
    cases htree with
    | object hordered htrees =>
      have hget : ∀ value, getField root "libraryfolders" = some value ↔
          ("libraryfolders", value) ∈ root := fun value => getField_eq_some hordered
      split
      · rename_i libraries hfield
        have hmem := (hget _).mp hfield
        have hpaths : (libraries.map fun library => libraryPath library.2).reduceOption =
            libraries.filterMap fun library => libraryPath library.2 := List.filterMap_map
        have hall : ∀ library ∈ libraries, Tree library.2 := by
          have htree := htrees _ hmem
          cases htree with
          | object _ hall => exact hall
        rw [Except.ok.injEq]
        constructor
        · intro hfound
          exact .inl ⟨libraries, _, hmem, (forall₂_hasPath hall).mpr rfl, by rw [hpaths, hfound]⟩
        · rintro (⟨others, found, hothers, hfound, rfl⟩ | ⟨hnone, _⟩)
          · have hsame : others = libraries := by
              have hvalue := Option.some.inj (((hget _).mpr hothers).symm.trans hfield)
              exact VdfValue.object.inj hvalue
            subst hsame
            rw [(forall₂_hasPath hall).mp hfound, hpaths]
          · exact absurd hmem (hnone libraries)
      · rename_i hother
        have hnone : ∀ libraries, ("libraryfolders", .object libraries) ∉ root :=
          fun libraries hmem => hother libraries ((hget _).mpr hmem)
        rw [Except.ok.injEq]
        constructor
        · intro hempty
          exact .inr ⟨hnone, hempty.symm⟩
        · rintro (⟨libraries, _, hmem, _⟩ | ⟨_, rfl⟩)
          · exact absurd hmem (hnone libraries)
          · rfl

/-- What `app_manifest_is_cs2` recognises. -/
theorem appManifestIsCs2_iff {text : String} :
    appManifestIsCs2 text = true ↔ ∃ root appState, parseVdf text = .ok root ∧
      ("AppState", .object appState) ∈ root ∧ ("appid", .string CS2_APP_ID) ∈ appState := by
  unfold appManifestIsCs2
  cases hread : parseVdf text with
  | error e => simp
  | ok root =>
    simp only [Except.ok.injEq, exists_and_left, exists_eq_left']
    have htree := (parseVdf_eq_ok.mp hread).1
    cases htree with
    | object hordered htrees =>
      constructor
      · intro h
        split at h
        · rename_i appState hstate
          have hmem := (getField_eq_some hordered).mp hstate
          have hstateOrdered : KeysOrdered appState := by
            have htree := htrees _ hmem
            cases htree with
            | object hordered _ => exact hordered
          split at h
          · rename_i value happid
            rw [decide_eq_true_eq] at h
            exact ⟨appState, hmem, (getField_eq_some hstateOrdered).mp (h ▸ happid)⟩
          · cases h
        · cases h
      · intro ⟨appState, hmem, happid⟩
        have hstateOrdered : KeysOrdered appState := by
          have htree := htrees _ hmem
          cases htree with
          | object hordered _ => exact hordered
        rw [(getField_eq_some hordered).mpr hmem]
        simp only [(getField_eq_some hstateOrdered).mpr happid, decide_true]

/-! ## The parser -/

/-- **The parser of key-value files is exact.**  A text is read as a tree if and only if it
is a printing of that tree; no cursor moves back or past the end, whether or not the text is
accepted, and no element outside is taken; and the library paths are those of the tree. -/
theorem vdfParser (text : String) :
    (∀ root, parseVdf text = .ok root ↔ Tree (.object root) ∧ Printing root (utf8 text)) ∧
    (Contained (parseVdf text) ∧
      (∀ offset, Onward (utf8 text).length offset
        (skipSpaceAndComments (utf8 text) offset).2) ∧
      (∀ result offset, Onward (utf8 text).length offset
        (quotedFrom (utf8 text) result offset).2) ∧
      (∀ tokens offset, Onward (utf8 text).length offset
        (tokensFrom (utf8 text) tokens offset).2) ∧
      ∀ tokens expectClose object cursor, Onward tokens.length cursor
        (parseObject tokens expectClose object cursor).val.2) ∧
    ∀ paths, libraryPathsFromVdf text = .ok paths ↔
      ∃ root, Tree (.object root) ∧ Printing root (utf8 text) ∧ LibraryPaths root paths := by
  refine ⟨fun root => parseVdf_eq_ok, ⟨parseVdf_contained text,
    fun offset => skipSpaceAndComments_onward _ offset,
    fun result offset => quotedFrom_onward _ result offset,
    fun tokens offset => tokensFrom_onward tokens,
    fun tokens expectClose object cursor =>
      (parseObject tokens expectClose object cursor).property⟩, fun paths => ?_⟩
  rw [libraryPathsFromVdf_eq_ok]
  refine exists_congr fun root => ?_
  rw [parseVdf_eq_ok, and_assoc]

private def libraryTokens : List VdfToken :=
  [.text "libraryfolders", .openBrace, .text "0", .text "C:\\S", .closeBrace]

private theorem library_spelled :
    Spelled libraryTokens
      (utf8 "\"libraryfolders\"\x7b\"0\" \"C:\\\\S\" \x7d // end") := by
  have hbytes : utf8 "\"libraryfolders\"\x7b\"0\" \"C:\\\\S\" \x7d // end" =
      [] ++ (spelling (.text "libraryfolders") ++ ([] ++ (spelling .openBrace ++
        ([] ++ (spelling (.text "0") ++ ([0x20] ++ (spelling (.text "C:\\S") ++
          ([0x20] ++ (spelling .closeBrace ++ ([0x20] ++ 0x2f :: 0x2f :: utf8 " end")))))))))) := by
    decide +kernel
  have hspace : Gap [0x20] := .space (by decide) .nil
  have hlibraries : ∀ c ∈ "libraryfolders".toList, 0 < c.toNat ∧ c.toNat < 128 :=
    List.all_iff_forall_prop.mp (by decide +kernel)
  have hzero : ∀ c ∈ "0".toList, 0 < c.toNat ∧ c.toNat < 128 :=
    List.all_iff_forall_prop.mp (by decide +kernel)
  have hpath : ∀ c ∈ "C:\\S".toList, 0 < c.toNat ∧ c.toNat < 128 :=
    List.all_iff_forall_prop.mp (by decide +kernel)
  rw [hbytes]
  exact .cons .nil hlibraries (.cons .nil trivial (.cons .nil hzero (.cons hspace hpath
    (.cons hspace trivial (.nil (.comment hspace (by decide +kernel)))))))

theorem vdfParser_library :
    libraryPathsFromVdf "\"libraryfolders\"\x7b\"0\" \"C:\\\\S\" \x7d // end" =
      .ok ["C:\\S"] := by
  refine ((vdfParser _).2.2 _).mpr ⟨[("libraryfolders", .object [("0", .string "C:\\S")])],
    ?_, ?_, ?_⟩
  · refine .object (List.pairwise_singleton _ _) fun field hfield => ?_
    rw [List.mem_singleton.mp hfield]
    refine .object (List.pairwise_singleton _ _) fun field hfield => ?_
    rw [List.mem_singleton.mp hfield]
    exact .string _
  · have hfields : FieldTokens [("libraryfolders", .object [("0", .string "C:\\S")])]
        libraryTokens := .cons (.object (.refl _) (.cons (.string _) .nil)) .nil
    exact ⟨_, _, .refl _, hfields, library_spelled⟩
  · exact .inl ⟨[("0", .string "C:\\S")], [some "C:\\S"], by simp, .cons (.string _) .nil, rfl⟩

end FrametimeCfg.Verified.VdfParser
