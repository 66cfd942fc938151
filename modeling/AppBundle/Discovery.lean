import AppBundle.Catalog
import AppBundle.Config
import AppBundle.Reading
import AppBundle.Tree

/-!
# Discovering functions

A built file is a function if it lies directly in the functions directory, or one directory down
and is named `index` or like that directory. Other files one directory down are helpers. Files
farther down are not deployed, which is worth a warning for each directory that holds such a file.
-/

namespace AppBundle

/-- A function found in the build output. -/
structure FunctionEntry where
  outputName : Text
  /-- The absolute path of the built file. -/
  entrypoint : Path
  relativeEntrypoint : Path
  /-- The file it was built from, if the layout tells it. -/
  sourcePath : Option Path
deriving DecidableEq, Repr

/-- The functions in the order of their paths, and the directories too far down, below the
functions directory and in ascending order. -/
structure Discovery where
  entries : List FunctionEntry := []
  tooDeep : List Path := []

/-- Why the functions could not be discovered. -/
inductive DiscoverError where
  | outsideProject (path : Path)
  | access (cause : AccessError)
deriving DecidableEq

namespace DiscoverError

def message : DiscoverError → Text
  | outsideProject path =>
    "function ".toList ++ path ++ " is outside the project root".toList
  | access cause => "failed to probe function source: ".toList ++ cause.message

end DiscoverError

namespace Discovery

/-- What a file below the functions directory is. -/
inductive Role where
  | function
  | helper
  | nestedTooDeep
  | other
deriving DecidableEq, Repr

def functionExtensions : List Text := ["js", "mjs", "cjs"].map String.toList

/-- The file, given by its path below the functions directory, is named `index` or like the
directory it lies in. -/
def isDirectoryFunction (within : Path) : Bool :=
  let stem := Path.stripExtension within.fileName
  stem = "index".toList || stem = within.parent.fileName

/-- What the file is, given by the names that lead to it from the functions directory. -/
def roleOf (names : List Text) : Role :=
  let within : Path := Text.joinBy '/' names
  if within.extension.any functionExtensions.contains then
    match names.length with
    | 0 | 1 => .function
    | 2 => if isDirectoryFunction within then .function else .helper
    | _ => .nestedTooDeep
  else .other

/-- The first of some paths that is a file of the project, or else the given one. -/
def firstFile (default : Path) : List Path → ExceptT AccessError Reading Path
  | [] => return default
  | c :: cs => do
    let file ← Reading.file c
    if file.isSome then return c else firstFile default cs

/-- The source of a built file: what the layout derives, under the extension of a file that is
there. -/
def sourceOf (layout : Layout) (built : Path) : ExceptT AccessError Reading (Option Path) :=
  match layout.sourcePath? built with
  | none => return none
  | some derived => return some (← firstFile derived (Layout.sourceCandidates derived))

/-- The entry of a function at an absolute path and below the functions directory. -/
def entryAt (project : Path) (layout : Layout) (path within : Path) :
    ExceptT DiscoverError Reading FunctionEntry :=
  match Path.relativeTo? project path with
  | none => throw (.outsideProject path)
  | some relativeEntrypoint => do
    let sourcePath ← (sourceOf layout relativeEntrypoint).adapt DiscoverError.access
    return {
      outputName := layout.apiPrefix ++ '/' :: within.stripExtension
      entrypoint := path
      relativeEntrypoint
      sourcePath }

/-- Discovers functions among files below the functions directory `root`. -/
def amongFiles (project : Path) (layout : Layout) (root : Path) :
    List (List Text) → ExceptT DiscoverError Reading Discovery
  | [] => return {}
  | names :: rest => do
    let within : Path := Text.joinBy '/' names
    match roleOf names with
    | .function =>
      let entry ← entryAt project layout (root.resolveFrom within) within
      let later ← amongFiles project layout root rest
      return { later with entries := entry :: later.entries }
    | .nestedTooDeep =>
      let later ← amongFiles project layout root rest
      return { later with tooDeep := Ascending.insert within.parent later.tooDeep }
    | .helper | .other => amongFiles project layout root rest

/-- Discovers the functions of a project; without a functions directory it has none. -/
def run (t : Tree) (project : Path) (layout : Layout) : ExceptT DiscoverError Reading Discovery :=
  let root := project.resolveFrom layout.functionsDir
  match t.filesBelow? [] root with
  | none => return {}
  | some files => amongFiles project layout root files

/-- A warning for each directory too far down. -/
def warnings (d : Discovery) (layout : Layout) : List Warning :=
  d.tooDeep.map (.nestedTooDeep layout.functionsDir)

end Discovery

end AppBundle
