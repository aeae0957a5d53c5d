import FrametimeCfg.Lib.Scan
import FrametimeCfg.Lib.Text

/-!
# The files of Steam

`parse_vdf` reads the key-value files of Steam: a lexer over the bytes of a text, and a
recursive descent over its tokens.  Both hold a cursor, which every function below returns
with its result, whether it failed or not.

The lexer ends because each of its rounds moves the offset on (`skipSpaceAndComments_le`,
`quotedFrom_le`), and the descent because a nested object cannot move the cursor back, which
its result carries.
-/

namespace FrametimeCfg.Domain.Steam

open FrametimeCfg.Lib.Buffer
open FrametimeCfg.Lib.Scan
open FrametimeCfg.Lib.Text

def CS2_APP_ID : String := "730"

inductive SteamError where
  | invalidVdf (message : String)
  deriving DecidableEq

/-! ## Values -/

/-- `VdfValue`.  The fields of an object are the entries of its map, in the order of the
keys. -/
inductive VdfValue where
  | string (value : String)
  | object (fields : List (String × VdfValue))

abbrev VdfObject := List (String × VdfValue)

/-- `BTreeMap::get`. -/
def getField (object : VdfObject) (key : String) : Option VdfValue := object.lookup key

/-- `BTreeMap::insert`. -/
def insertField (key : String) (value : VdfValue) : VdfObject → VdfObject
  | [] => [(key, value)]
  | (k, v) :: rest =>
      if key < k then (key, value) :: (k, v) :: rest
      else if key = k then (key, value) :: rest
      else (k, v) :: insertField key value rest

/-! ## The lexer -/

inductive VdfToken where
  | text (value : String)
  | openBrace
  | closeBrace
  deriving DecidableEq

/-- An error of the lexer. -/
def invalid {α : Type} (message : String) : Except (Stop SteamError) α :=
  .error (.error (.invalidVdf message))

/-- `VdfLexer::skip_space_and_comments`: whether a byte is left, and where it is. -/
def skipSpaceAndComments (source : List UInt8) (offset : Nat) :
    Except (Stop SteamError) Bool × Nat :=
  let next := skipWhile isAsciiWhitespace source offset
  if hend : source.length ≤ next then (.ok false, next)
  else if [0x2f, 0x2f].isPrefixOf (source.drop next) then
    skipSpaceAndComments source (skipWhile (· ≠ 0x0a) source (next + 2))
  else if source[next]? = some 0x2f then (invalid "unsupported VDF comment", next)
  else (.ok true, next)
termination_by source.length - offset
decreasing_by
  have hspace : offset ≤ skipWhile isAsciiWhitespace source offset := skipWhile_bounds.1
  have hline : next + 2 ≤ skipWhile (· ≠ 0x0a) source (next + 2) := skipWhile_bounds.1
  simp only [next] at hend hline ⊢
  omega

/-- The loop of `VdfLexer::quoted`. -/
def quotedFrom (source : List UInt8) (result : List Char) (offset : Nat) :
    Except (Stop SteamError) String × Nat :=
  if h : offset < source.length then
    let byte := source[offset]
    if byte = 0x22 then (.ok (String.ofList result), offset + 1)
    else if byte = 0x5c then
      match source[offset + 1]? with
      | none => (invalid "unclosed VDF string", offset + 1)
      | some escaped =>
          if escaped = 0x22 then quotedFrom source (result ++ ['"']) (offset + 2)
          else if escaped = 0x5c then quotedFrom source (result ++ ['\\']) (offset + 2)
          else (invalid "unsupported VDF escape", offset + 2)
    else if byte = 0 then (invalid "NUL in VDF", offset + 1)
    else if byte < 128 then
      quotedFrom source (result ++ [Char.ofNat byte.toNat]) (offset + 1)
    else (invalid "non-ASCII VDF text is unsupported", offset + 1)
  else (invalid "unclosed VDF string", offset)
termination_by source.length - offset

/-- A cursor that moved on, and not past the end. -/
def Onward (length offset next : Nat) : Prop :=
  offset ≤ next ∧ (offset ≤ length → next ≤ length)

theorem Onward.refl {length a : Nat} : Onward length a a := ⟨Nat.le_refl a, id⟩

theorem Onward.trans {length a b c : Nat} (h : Onward length a b) (h' : Onward length b c) :
    Onward length a c :=
  ⟨Nat.le_trans h.1 h'.1, fun ha => h'.2 (h.2 ha)⟩

theorem onward_of_getElem? {α : Type} {l : List α} {i : Nat} {x : α} (h : l[i]? = some x) :
    Onward l.length i (i + 1) :=
  ⟨Nat.le_succ i, fun _ => (List.getElem?_eq_some_iff.mp h).1⟩

theorem skipSpaceAndComments_onward (source : List UInt8) (offset : Nat) :
    Onward source.length offset (skipSpaceAndComments source offset).2 := by
  fun_induction skipSpaceAndComments source offset with
  | case1 offset next hend => exact skipWhile_bounds
  | case2 offset next hend hcomment ih =>
    obtain ⟨tail, htail⟩ := List.isPrefixOf_iff_prefix.mp hcomment
    have hslashes : Onward source.length next (next + 2) :=
      ⟨Nat.le_add_right next 2, fun hle => le_of_drop_append htail.symm hle⟩
    exact (Onward.trans skipWhile_bounds hslashes).trans (Onward.trans skipWhile_bounds ih)
  | case3 offset next hend hcomment hslash => exact skipWhile_bounds
  | case4 offset next hend hcomment hslash => exact skipWhile_bounds

theorem quotedFrom_onward (source : List UInt8) (result : List Char) (offset : Nat) :
    Onward source.length offset (quotedFrom source result offset).2 := by
  have hbyte : ∀ {offset : Nat}, offset < source.length →
      Onward source.length offset (offset + 1) := fun h => ⟨Nat.le_succ _, fun _ => h⟩
  fun_induction quotedFrom source result offset with
  | case1 result offset h byte hquote => exact hbyte h
  | case2 result offset h byte hquote hescape hnone => exact hbyte h
  | case3 result offset h byte hquote hescape hnext ih =>
    exact (hbyte h).trans ((onward_of_getElem? hnext).trans ih)
  | case4 result offset h byte hquote hescape hnext hother ih =>
    exact (hbyte h).trans ((onward_of_getElem? hnext).trans ih)
  | case5 result offset h byte hquote hescape escaped hnext hother hother' =>
    exact (hbyte h).trans (onward_of_getElem? hnext)
  | case6 result offset h byte hquote hescape hnul => exact hbyte h
  | case7 result offset h byte hquote hescape hnul hascii ih => exact (hbyte h).trans ih
  | case8 result offset h byte hquote hescape hnul hascii => exact hbyte h
  | case9 result offset h => exact .refl

/-- One round of `VdfLexer::tokens`: the next token, or none at the end. -/
def nextToken (source : List UInt8) (offset : Nat) :
    Except (Stop SteamError) (Option VdfToken) × Nat :=
  match skipSpaceAndComments source offset with
  | (.error e, next) => (.error e, next)
  | (.ok false, next) => (.ok none, next)
  | (.ok true, next) =>
      match source[next]? with
      | none => (.error .outOfBounds, next)
      | some byte =>
          if byte = 0x7b then (.ok (some .openBrace), next + 1)
          else if byte = 0x7d then (.ok (some .closeBrace), next + 1)
          else if byte = 0x22 then
            match quotedFrom source [] (next + 1) with
            | (.error e, after) => (.error e, after)
            | (.ok value, after) => (.ok (some (.text value)), after)
          else (invalid "VDF values must be quoted", next)

/-- A round of the lexer stays inside, and moves on where it finds a token. -/
theorem nextToken_onward {source : List UInt8} {offset next : Nat}
    {r : Except (Stop SteamError) (Option VdfToken)} (h : nextToken source offset = (r, next)) :
    Onward source.length offset next ∧
      ∀ token, r = .ok (some token) → offset < next ∧ offset < source.length := by
  have hspace := skipSpaceAndComments_onward source offset
  unfold nextToken at h
  split at h
  · rename_i e start hskip
    cases h
    rw [hskip] at hspace
    exact ⟨hspace, fun _ hr => nomatch hr⟩
  · rename_i start hskip
    cases h
    rw [hskip] at hspace
    exact ⟨hspace, fun _ hr => nomatch hr⟩
  · rename_i start hskip
    rw [hskip] at hspace
    have hle := hspace.1
    cases hbyte : source[start]? with
    | none =>
      rw [hbyte] at h
      cases h
      exact ⟨hspace, fun _ hr => nomatch hr⟩
    | some byte =>
      have hlt := (List.getElem?_eq_some_iff.mp hbyte).1
      have hmoved := hspace.trans (onward_of_getElem? hbyte)
      have hstring := quotedFrom_onward source [] (start + 1)
      rw [hbyte] at h
      dsimp only at h hle hstring
      split_ifs at h
      · cases h
        exact ⟨hmoved, fun _ _ => by omega⟩
      · cases h
        exact ⟨hmoved, fun _ _ => by omega⟩
      · split at h
        · rename_i e after hquoted
          cases h
          rw [hquoted] at hstring
          exact ⟨hmoved.trans hstring, fun _ hr => nomatch hr⟩
        · rename_i value after hquoted
          cases h
          rw [hquoted] at hstring
          have hafter := hstring.1
          exact ⟨hmoved.trans hstring, fun _ _ => by omega⟩
      · cases h
        exact ⟨hspace, fun _ hr => nomatch hr⟩

/-- The loop of `VdfLexer::tokens`. -/
def tokensFrom (source : List UInt8) (tokens : List VdfToken) (offset : Nat) :
    Except (Stop SteamError) (List VdfToken) × Nat :=
  match _hnext : nextToken source offset with
  | (.error e, next) => (.error e, next)
  | (.ok none, next) => (.ok tokens, next)
  | (.ok (some token), next) => tokensFrom source (tokens ++ [token]) next
termination_by source.length - offset
decreasing_by
  have hmoved := (nextToken_onward _hnext).2 token rfl
  omega

/-! ## The descent -/

/-- What is read from a cursor on, and a cursor that moved on from there. -/
abbrev Parsed (α : Type) (tokens : List VdfToken) (cursor : Nat) : Type :=
  { result : Except SteamError α × Nat // Onward tokens.length cursor result.2 }

mutual

/-- The value after a key, in `parse_object`. -/
def parseValue (tokens : List VdfToken) (cursor : Nat) : Parsed VdfValue tokens cursor :=
  match htoken : tokens[cursor]? with
  | none => ⟨(.error (.invalidVdf "VDF key has no value"), cursor), .refl⟩
  | some (.text value) => ⟨(.ok (.string value), cursor + 1), onward_of_getElem? htoken⟩
  | some .openBrace =>
      match parseObject tokens true [] (cursor + 1) with
      | ⟨(.ok fields, next), hnested⟩ =>
          ⟨(.ok (.object fields), next), (onward_of_getElem? htoken).trans hnested⟩
      | ⟨(.error e, next), hnested⟩ =>
          ⟨(.error e, next), (onward_of_getElem? htoken).trans hnested⟩
  | some .closeBrace => ⟨(.error (.invalidVdf "VDF key has no value"), cursor), .refl⟩
termination_by tokens.length - cursor
decreasing_by
  have hinside := (List.getElem?_eq_some_iff.mp htoken).1
  omega

/-- `parse_object`, with the fields that are read already. -/
def parseObject (tokens : List VdfToken) (expectClose : Bool) (object : VdfObject)
    (cursor : Nat) : Parsed VdfObject tokens cursor :=
  match htoken : tokens[cursor]? with
  | none =>
      if expectClose then
        ⟨(.error (.invalidVdf "unclosed VDF object"), cursor), .refl⟩
      else ⟨(.ok object, cursor), .refl⟩
  | some .closeBrace =>
      if expectClose then ⟨(.ok object, cursor + 1), onward_of_getElem? htoken⟩
      else ⟨(.error (.invalidVdf "unexpected VDF close brace"), cursor), .refl⟩
  | some .openBrace => ⟨(.error (.invalidVdf "VDF key must be quoted"), cursor), .refl⟩
  | some (.text key) =>
      match parseValue tokens (cursor + 1) with
      | ⟨(.error e, next), hread⟩ =>
          ⟨(.error e, next), (onward_of_getElem? htoken).trans hread⟩
      | ⟨(.ok value, next), hread⟩ =>
          if (getField object key).isSome then
            ⟨(.error (.invalidVdf s!"duplicate VDF key: {key}"), next),
              (onward_of_getElem? htoken).trans hread⟩
          else
            let rest := parseObject tokens expectClose (insertField key value object) next
            ⟨rest.val, ((onward_of_getElem? htoken).trans hread).trans rest.property⟩
termination_by tokens.length - cursor
decreasing_by
  all_goals have hinside := (List.getElem?_eq_some_iff.mp htoken).1
  · omega
  · have hmoved : cursor + 1 ≤ next := hread.1
    omega

end

/-- `parse_vdf`. -/
def parseVdf (text : String) : Except (Stop SteamError) VdfObject :=
  match (tokensFrom (utf8 text) [] 0).1 with
  | .error e => .error e
  | .ok tokens =>
      match (parseObject tokens false [] 0).val with
      | (.error e, _) => .error (.error e)
      | (.ok object, cursor) =>
          if cursor ≠ tokens.length then invalid "trailing VDF tokens" else .ok object

/-! ## What is read from the files -/

/-- The path of one library, in `library_paths_from_vdf`. -/
def libraryPath (value : VdfValue) : Option String :=
  match value with
  | .string path => some path
  | .object fields =>
      match getField fields "path" with
      | some (.string path) => some path
      | _ => none

/-- `library_paths_from_vdf`. -/
def libraryPathsFromVdf (text : String) : Except (Stop SteamError) (List String) :=
  match parseVdf text with
  | .error e => .error e
  | .ok root =>
      match getField root "libraryfolders" with
      | some (.object libraries) => .ok (libraries.filterMap fun (_, value) => libraryPath value)
      | _ => .ok []

/-- `app_manifest_is_cs2`. -/
def appManifestIsCs2 (text : String) : Bool :=
  match parseVdf text with
  | .error _ => false
  | .ok root =>
      match getField root "AppState" with
      | some (.object appState) =>
          match getField appState "appid" with
          | some (.string value) => value = CS2_APP_ID
          | _ => false
      | _ => false

end FrametimeCfg.Domain.Steam
