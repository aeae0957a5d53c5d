import FrametimeCfg.DriverFoundry.Catalog

/-!
# The prepared tree

The components that were resolved are copied from the package into a new directory, and
the others are left behind.

A package is a tree that does not change while it is copied.  Each call to the file system
goes through unless a fault is due, and what the code reports of the fault is its error.
Names are compared as the file systems of the two directories compare them, which need not
be letter by letter.
-/

namespace FrametimeCfg.DriverFoundry

open FrametimeCfg.Lib.Effect
open FrametimeCfg.Lib.OrderedSet

/-! ## Packages -/

/-- What a path names. -/
inductive Node where
  | file (bytes : List UInt8)
  | directory (entries : List (String × Node))
  /-- A symbolic link or another reparse point. -/
  | link
  /-- A device, a pipe or a socket. -/
  | other

/-- How paths are joined, and which name addresses an entry stored under which. -/
structure Volumes where
  join : String → String → String
  source : String → String → Bool
  target : String → String → Bool

/-- The entry of a directory that a name addresses, with the name it is stored under. -/
def Volumes.find (v : Volumes) (entries : List (String × Node)) (name : String) :
    Option (String × Node) :=
  entries.find? fun entry => v.source name entry.1

/-! ## The run -/

/-- An entry of the prepared directory, and the entry of the package it is a copy of. -/
structure Copied where
  name : String
  origin : String
  node : Node

/-- What was copied, the two lists, and the faults of the calls to come. -/
structure Run where
  copies : List Copied := []
  kept : List String := []
  stripped : List String := []
  faults : List (Option String) := []

/-- A call to the file system, and how an error of it is reported. -/
def call (report : String → InstallError) : Prog Run InstallError Unit := fun s =>
  let next := { s with faults := s.faults.tail }
  match s.faults.head?.join with
  | some error => (.error (report error), next)
  | none => (.ok (), next)

/-- `source_metadata`. -/
def sourceMetadata (path : String) (found : Option Node) :
    Prog Run InstallError (Option Node) := do
  call fun error => .other ("inspect package source " ++ path ++ ": " ++ error)
  match found with
  | some .link => raise (.other ("package source contains a symlink/reparse point: " ++ path))
  | found => return found

/-- `SourceRoot::open`, which gives the entries of the root. -/
def openSourceRoot (path : String) (tree : Option Node) :
    Prog Run InstallError (List (String × Node)) := do
  let metadata ← sourceMetadata path tree
  match metadata with
  | none => raise (.packageMissing path)
  | some (.directory entries) => do
      call fun error => .other ("canonicalize package root " ++ path ++ ": " ++ error)
      return entries
  | some _ => raise (.other ("package root must be a real directory: " ++ path))

/-- `SourceRoot::metadata_for`.  An entry that is no link is inside the root. -/
def metadataFor (path : String) (found : Option Node) :
    Prog Run InstallError (Option Node) := do
  let metadata ← sourceMetadata path found
  match metadata with
  | none => return none
  | some node => do
      call fun error => .other ("canonicalize package entry " ++ path ++ ": " ++ error)
      return some node

/-- `SourceRoot::verify_root`. -/
def verifyRoot : Prog Run InstallError Unit := call .other

/-- `validate_new_path`, where something else may have the path. -/
def validateNewPath (path : String) (taken : Bool) : Prog Run InstallError Unit := do
  call .other
  if taken then
    raise (.other ("refusing to replace existing output path: " ++ path))
  else
    call .other

/-- `create_new_directory`. -/
def createNewDirectory (path : String) (taken : Bool) : Prog Run InstallError Unit := do
  validateNewPath path taken
  call fun error => .other ("create new directory " ++ path ++ ": " ++ error)

/-- `create_new_output`. -/
def createNewOutput (path : String) (taken : Bool) : Prog Run InstallError Unit := do
  validateNewPath path taken
  call fun error => .other ("create new output " ++ path ++ ": " ++ error)

/-- `copy_source_file`. -/
def copySourceFile (dst : String) (taken : Bool) : Prog Run InstallError Unit := do
  verifyRoot
  call .io
  call .other
  createNewOutput dst taken
  call .io
  verifyRoot

/-- `copy_source_dir_all`, around the copies of the entries. -/
def copySourceDir {α : Type} (src dst : String) (node : Node) (taken : Bool)
    (copyEntries : Prog Run InstallError α) : Prog Run InstallError α := do
  verifyRoot
  let _ ← metadataFor src (some node)
  call .other
  createNewDirectory dst taken
  call .io
  let copied ← copyEntries
  verifyRoot
  return copied

mutual
/-- A copy of what a path names, under a new path. -/
def copyNode (v : Volumes) (unsupported : InstallError) (src dst : String) (taken : Bool) :
    Node → Prog Run InstallError Node
  | .file bytes => do
      copySourceFile dst taken
      return .file bytes
  | .directory entries => do
      let copied ← copySourceDir src dst (.directory entries) taken
        (copyEntries v src dst [] entries)
      return .directory copied
  | .link => raise unsupported
  | .other => raise unsupported

/-- The loop of `copy_source_dir_all`, after the entries in `done`. -/
def copyEntries (v : Volumes) (src dst : String) (done : List (String × Node)) :
    List (String × Node) → Prog Run InstallError (List (String × Node))
  | [] => pure done
  | (name, node) :: rest => do
      call .io
      let _ ← metadataFor (v.join src name) (some node)
      let copied ← copyNode v
        (.other ("package source contains unsupported entry: " ++ v.join src name))
        (v.join src name) (v.join dst name) (done.any fun entry => v.target name entry.1) node
      copyEntries v src dst (done ++ [(name, copied)]) rest
end

/-! ## Filtering -/

/-- The package and the directory that is prepared, and the entries of the package. -/
structure Filter where
  volumes : Volumes
  packageRoot : String
  prepared : String
  entries : List (String × Node)

namespace Filter

/-- The metadata of an entry of the package root, with the name it is stored under. -/
def lookUp (f : Filter) (name : String) :
    Prog Run InstallError (Option (String × Node)) := do
  let found := f.volumes.find f.entries name
  let _ ← metadataFor (f.volumes.join f.packageRoot name) (found.map Prod.snd)
  return found

/-- The copy of an entry of the package root. -/
def copy (f : Filter) (report : String → InstallError) (name : String)
    (found : String × Node) : Prog Run InstallError Unit := do
  let src := f.volumes.join f.packageRoot name
  let copies ← gets Run.copies
  let node ← copyNode f.volumes (report src) src (f.volumes.join f.prepared name)
    (copies.any fun copied => f.volumes.target name copied.name) found.2
  update fun s => { s with copies := s.copies ++ [⟨name, found.1, node⟩] }

/-- The body of the first loop of `prepare_copy_strip`. -/
def copyFixed (f : Filter) (name : String) : Prog Run InstallError Unit := do
  let found ← f.lookUp name
  match found with
  | some found =>
      f.copy (fun src => .other ("package entry must be a regular file or directory: " ++ src))
        name found
  | none => pure ()

/-- The body of the second loop. -/
def filterComponent (f : Filter) (resolved : BTreeSet)
    (package : String × PackageDefinition) : Prog Run InstallError Unit := do
  let id := package.1
  let found ← f.lookUp id
  match found with
  | none =>
      if id ∈ resolved then
        if package.2.required then
          raise (.other ("required component missing from package: " ++ id))
        else
          pure ()
      else
        update fun s => { s with stripped := s.stripped ++ [id] }
  | some found =>
      if id ∈ resolved then do
        f.copy
          (fun src => .other ("package component must be a regular file or directory: " ++ src))
          id found
        update fun s => { s with kept := s.kept ++ [id] }
      else
        update fun s => { s with stripped := s.stripped ++ [id] }

end Filter

/-- The entries that every prepared tree has. -/
def fixedNames : List String := ["setup.exe", "NVI2"]

/-- `prepare_copy_strip`. -/
def prepareCopyStrip (v : Volumes) (packageRoot prepared : String) (tree : Option Node)
    (catalog : PackageCatalog) (resolved : List String) :
    Prog Run InstallError (List String × List String) := do
  let entries ← openSourceRoot packageRoot tree
  createNewDirectory prepared false
  let f : Filter := { volumes := v, packageRoot, prepared, entries }
  forEach f.copyFixed fixedNames
  forEach (f.filterComponent (.ofList resolved)) catalog.packages.toList
  gets fun s => (s.kept.insertionSort (· ≤ ·), s.stripped.insertionSort (· ≤ ·))

end FrametimeCfg.DriverFoundry
