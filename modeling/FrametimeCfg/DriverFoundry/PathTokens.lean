import FrametimeCfg.Lib.Replacing
import Mathlib.Data.List.TakeWhile

/-!
# Path tokens

A path may name a place by a variable of the environment, as in `%TEMP%\NVIDIA`.  The
variables are replaced one after the other, each in what the ones before it left.

What follows the last token of a path is left alone (`expandPathTokens_append`), so that a
path keeps its last name (`lastName_expandPathTokens`).
-/

namespace FrametimeCfg.DriverFoundry

open FrametimeCfg.Lib.Text

/-- The environment of the process: `std::env::var`, which is none also for a value that is
not Unicode, and `std::env::temp_dir`. -/
structure Environment where
  var : String → Option String
  tempDir : String

namespace Environment

variable (env : Environment)

/-- A directory of the user: its own variable, or a place below the profile. -/
private def userDirectory (name below : String) : String :=
  (env.var name).getD ((env.var "USERPROFILE").elim "" (· ++ below))

/-- The replacements of `expand_path_tokens`, in their order. -/
def replacements : List (String × String) :=
  [("%LOCALAPPDATA%", env.userDirectory "LOCALAPPDATA" "\\AppData\\Local"),
   ("%APPDATA%", env.userDirectory "APPDATA" "\\AppData\\Roaming"),
   ("%TEMP%", env.tempDir),
   ("%PROGRAMDATA%", (env.var "ProgramData").getD "C:\\ProgramData"),
   ("%PROGRAMFILES%", (env.var "ProgramFiles").getD "C:\\Program Files"),
   ("%WINDIR%", (env.var "WINDIR").getD "C:\\Windows"),
   ("%SYSTEMROOT%", (env.var "SystemRoot").getD "C:\\Windows")]

/-- The replacements, made in a text. -/
def expandChars (path : List Char) : List Char :=
  env.replacements.foldl (fun out r => replaceAll r.1.toList r.2.toList out) path

/-- `expand_path_tokens`. -/
def expandPathTokens (path : String) : String := String.ofList (env.expandChars path.toList)

/-- Every token ends with a percent sign. -/
theorem getLast_replacements :
    ∀ r ∈ env.replacements, r.1.toList.getLast? = some '%' := by
  simp [replacements]

theorem expandChars_append {kept : List Char} (h : '%' ∉ kept) (path : List Char) :
    env.expandChars (path ++ kept) = env.expandChars path ++ kept := by
  have hlast := env.getLast_replacements
  unfold expandChars
  generalize env.replacements = replacements at hlast ⊢
  induction replacements generalizing path with
  | nil => rfl
  | cons r replacements ih =>
    rw [List.foldl_cons, List.foldl_cons,
      replaceAll_append_right (hlast r List.mem_cons_self) h,
      ih _ (fun r hr => hlast r (List.mem_cons_of_mem _ hr))]

end Environment

/-! ## The last name -/

/-- What follows the last separator of a path. -/
def lastName (path : List Char) : List Char :=
  (path.reverse.takeWhile (· ≠ '\\')).reverse

theorem lastName_append {path name : List Char} (h : '\\' ∉ name) :
    lastName (path ++ '\\' :: name) = name := by
  have hname : ∀ c ∈ name.reverse, (decide (c ≠ '\\')) = true := fun c hc =>
    decide_eq_true (fun heq => h (heq ▸ List.mem_reverse.mp hc))
  rw [lastName, List.reverse_append, List.reverse_cons, List.append_assoc,
    List.takeWhile_append_of_pos hname]
  simp

theorem not_mem_lastName (path : List Char) : '\\' ∉ lastName path := by
  intro hmem
  have hne := List.mem_takeWhile_imp (List.mem_reverse.mp hmem)
  exact absurd rfl (of_decide_eq_true hne)

/-- A path with a separator is its last name behind something. -/
theorem exists_append_lastName {path : List Char} (h : '\\' ∈ path) :
    ∃ start, path = start ++ '\\' :: lastName path := by
  have hwhole := List.takeWhile_append_dropWhile (p := (· ≠ '\\')) (l := path.reverse)
  cases hdrop : path.reverse.dropWhile (· ≠ '\\') with
  | nil =>
    rw [hdrop, List.append_nil] at hwhole
    have hin : '\\' ∈ path.reverse.takeWhile (· ≠ '\\') := by
      rw [hwhole]
      exact List.mem_reverse.mpr h
    exact absurd (List.mem_reverse.mpr hin) (not_mem_lastName path)
  | cons c dropped =>
    have hc : c = '\\' := by
      have hhead := List.head?_dropWhile_not (· ≠ '\\') path.reverse
      rw [hdrop] at hhead
      simpa using hhead
    refine ⟨dropped.reverse, ?_⟩
    rw [hdrop, hc] at hwhole
    have hpath := congrArg List.reverse hwhole
    rw [List.reverse_reverse, List.reverse_append, List.reverse_cons] at hpath
    simpa [lastName] using hpath.symm

/-- **A path with its tokens replaced** ends with the name that it ended with. -/
theorem lastName_expandPathTokens (env : Environment) {path : String}
    (hpath : '\\' ∈ path.toList) (htoken : '%' ∉ lastName path.toList) :
    lastName (env.expandPathTokens path).toList = lastName path.toList := by
  obtain ⟨start, hstart⟩ := exists_append_lastName hpath
  have hkept : '%' ∉ '\\' :: lastName path.toList := by simp [htoken]
  rw [Environment.expandPathTokens, String.toList_ofList, hstart]
  rw [env.expandChars_append hkept, lastName_append (not_mem_lastName _),
    lastName_append (not_mem_lastName _)]

end FrametimeCfg.DriverFoundry
