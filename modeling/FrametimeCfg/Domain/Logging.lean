import FrametimeCfg.Lib.Replacing

/-!
# Log records

The names of the computer and of the user are taken out of a message, and the name of a user
folder out of a path.
-/

namespace FrametimeCfg.Domain.Logging

open FrametimeCfg.Lib.Text

/-- The text that stands for a name. -/
def REDACTED : List Char := "<redacted>".toList

/-- The start of a path into a user folder, in lower case. -/
def USERS_MARKER : List Char := "c:\\users\\".toList

/-- The path that stands for one into a user folder. -/
def REDACTED_PATH : List Char := "C:\\Users\\<redacted>".toList

/-- The characters at which the name of a user folder ends. -/
def isPathEnd (c : Char) : Bool :=
  c = '\\' || c = '/' || c = ' ' || c = '\t' || c = '\r' || c = '\n'

/-- `redact_user_paths`. -/
def redactUserPaths (input : List Char) : List Char :=
  match splitOnceText USERS_MARKER (input.map Char.toLower) with
  | none => input
  | some (before, _) =>
      let start := before.length
      let tail := input.drop (start + USERS_MARKER.length)
      input.take start ++ REDACTED_PATH ++ tail.dropWhile fun c => !isPathEnd c

/-- The names that are given are replaced, one after the other. -/
def redactNames (message : List Char) (computerName userName : Option (List Char)) :
    List Char :=
  ([computerName, userName].filterMap id).foldl
    (fun redacted value => if value = [] then redacted else replaceAll value REDACTED redacted)
    message

/-- `redact_message`. -/
def redactMessage (message : List Char) (computerName userName : Option (List Char)) :
    List Char :=
  redactUserPaths (redactNames message computerName userName)

end FrametimeCfg.Domain.Logging
