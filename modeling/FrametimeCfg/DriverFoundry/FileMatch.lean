import FrametimeCfg.DriverFoundry.PathTokens
import FrametimeCfg.Lib.WindowsPath

/-!
# The files that a token matches

A token of a catalog stands for files: the path that it spells, and what is found under its
name below the directories of the system.  All of them are removed, directories with what is
in them.

Paths are texts.  The names in the repository of the drivers are given where it is a
directory that can be read.
-/

namespace FrametimeCfg.DriverFoundry

open FrametimeCfg.Lib.Text
open FrametimeCfg.Lib.WindowsPath

/-! ## Guards -/

/-- `is_unsafe_path_token`. -/
def isUnsafePathToken (token : List Char) : Bool :=
  let t := trimEndMatches isSeparator (trim token)
  let bytes := utf8 (String.ofList t)
  t = [] || (bytes.length ≤ 3 && bytes[1]? = some 0x3a)

/-- `is_safe_candidate`. -/
def isSafeCandidate (path : List Char) : Bool :=
  let trimmed := String.ofList (trimEndMatches isSeparator path)
  let bytes := utf8 trimmed
  path ≠ [] && !(bytes.length = 2 && bytes[1]? = some 0x3a) &&
    !(eqIgnoreAsciiCase trimmed "C:" || eqIgnoreAsciiCase trimmed "C:\\")

/-! ## Directories -/

namespace Environment

variable (env : Environment)

def sysRoot : List Char :=
  ((env.var "SystemRoot").getD ((env.var "WINDIR").getD "C:\\Windows")).toList

def programFiles : List Char := ((env.var "ProgramFiles").getD "C:\\Program Files").toList

def programFilesX86 : List Char :=
  ((env.var "ProgramFiles(x86)").getD "C:\\Program Files (x86)").toList

def programData : List Char := ((env.var "ProgramData").getD "C:\\ProgramData").toList

def system32 : List Char := join env.sysRoot "System32".toList

def syswow64 : List Char := join env.sysRoot "SysWOW64".toList

def drivers : List Char := join env.system32 "drivers".toList

def driverstoreRepo : List Char :=
  join (join env.system32 "DriverStore".toList) "FileRepository".toList

/-- The directories that every token is looked for in. -/
def roots : List (List Char) :=
  [env.system32, env.syswow64, env.drivers, env.sysRoot, env.programFiles, env.programFilesX86,
    env.programData]

end Environment

/-! ## Candidates -/

/-- The name ends in one of these, in lower case. -/
def endsInOne (extensions : List String) (name : List Char) : Bool :=
  extensions.any fun extension => extension.toList.isSuffixOf (name.map Char.toLower)

/-- The last name of a token, or the token. -/
def baseName (rel : List Char) : List Char := (Lib.WindowsPath.fileName rel).getD rel

/-- The file of a name with an extension. -/
private def withExtension (name : List Char) (extension : String) : List Char :=
  name ++ '.' :: extension.toList

/-- The entries of the repository that a token may be the start of. -/
def listedNames (listing : Option (List String)) (rel : List Char) : List (List Char) :=
  let name := baseName rel
  let bare := !rel.any isSeparator
  let looksLikePackage :=
    bare && !endsInOne [".sys", ".dll", ".exe", ".inf"] name && 4 ≤ byteLen (String.ofList name)
  let needle := name.map Char.toLower
  if looksLikePackage then
    ((listing.getD []).take 128).filterMap fun entry =>
      let lower := (asciiLower entry).toList
      if needle.isPrefixOf lower || decide (needle ++ ['_'] <:+: lower) then some entry.toList
      else none
  else []

/-- Every directory that a token is looked for in, with what is joined to it. -/
def joined (env : Environment) (listing : Option (List String)) (rel : List Char) :
    List (List Char × List Char) :=
  let name := baseName rel
  env.roots.flatMap (fun root =>
    (root, rel) :: ((Lib.WindowsPath.fileName rel).map fun name => (root, name)).toList) ++
  (if endsInOne [".sys", ".dll", ".exe"] name then []
    else
      [(env.drivers, withExtension name "sys"), (env.system32, withExtension name "dll"),
        (env.syswow64, withExtension name "dll"), (env.system32, withExtension name "exe")]) ++
  [(env.driverstoreRepo, name)] ++
  (listedNames listing rel).map fun entry => (env.driverstoreRepo, entry)

/-- The paths that are offered for a token, which is given as it is and without separators at
its start. -/
def offered (env : Environment) (listing : Option (List String)) (raw rel : List Char) :
    List (List Char) :=
  [env.expandChars raw, env.expandChars rel] ++
    (joined env listing rel).map fun (directory, path) => join directory path

/-- A path that is safe and not there yet is added. -/
def offer (candidates : List (List Char)) (path : List Char) : List (List Char) :=
  if isSafeCandidate path && !candidates.any (fun candidate => samePath candidate path) then
    candidates ++ [path]
  else candidates

/-- `file_match_candidates`. -/
def fileMatchCandidates (env : Environment) (listing : Option (List String)) (token : String) :
    List (List Char) :=
  let raw := trim token.toList
  let rel := raw.dropWhile isSeparator
  if raw = [] || rel = [] || isUnsafePathToken rel then []
  else (offered env listing raw rel).foldl offer []

end FrametimeCfg.DriverFoundry
