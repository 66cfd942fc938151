import AppBundle.Ignore
import AppBundle.Import.Exports
import AppBundle.Import.Specifier
import AppBundle.Json.Parser
import AppBundle.Reading
import AppBundle.Resolution
import AppBundle.Snapshot
import AppBundle.Source

/-!
# Walking imports

From an entrypoint the walk visits every file that an import, a package lookup or a link leads to,
nearest first and each path once. A visit of one file does not depend on the walk: it yields the
files found there, in order, and the warnings. The number of visits is limited, and a walk that
reaches the limit is told apart from one that ends.
-/

namespace AppBundle

namespace Import

/-- A reading that a file access can fail. -/
abbrev Scan := ExceptT AccessError Reading

/-- Asks for a file of the project. -/
def askFile (p : Path) : Scan (Option ProjectFile) := Reading.file p

/-- Asks whether a path is excluded. -/
def isExcluded (exclude : Ignore) (p : Path) : Scan Bool :=
  match exclude.check p with
  | .ok b => pure b
  | .error s => ExceptT.mk (.stray s)

/-- Where a lookup ends: at a file, at paths that are excluded, or nowhere. -/
inductive Probe where
  | found (path : Path) (file : ProjectFile)
  | excluded
  | missing

/-- The extensions tried on a path and on the index of a directory. -/
def triedExtensions (typescript : Bool) : List Text :=
  let plain := ["js", "mjs", "cjs", "json"]
  (if typescript then plain ++ ["ts", "tsx", "jsx"] else plain).map String.toList

/-- The paths that a base path may stand for, in the order in which they are tried: itself, with
an extension, typed sources in place of a compiled one, and the index of a directory. -/
def candidates (typescript : Bool) (base : Path) : List Path :=
  let extensions := triedExtensions typescript
  let typed :=
    if typescript ∧ base.endsWith ".js".toList then
      let stem := base.take (base.length - 3)
      [stem ++ ".ts".toList, stem ++ ".tsx".toList]
    else []
  base :: extensions.map (fun ext => base ++ '.' :: ext) ++ typed
    ++ extensions.map fun ext => base ++ "/index.".toList ++ ext

/-- Looks for the first candidate that is a file and not excluded. -/
def probeFirst (exclude : Ignore) : (anyExcluded : Bool) → List Path → Scan Probe
  | anyExcluded, [] => pure (if anyExcluded then .excluded else .missing)
  | anyExcluded, c :: cs => do
    if ← isExcluded exclude c then probeFirst exclude true cs
    else
      match ← askFile c with
      | some file => return .found c file
      | none => probeFirst exclude anyExcluded cs

/-- Looks up a path as a file or a directory. -/
def probeModule (options : ScanOptions) (base : Path) : Scan Probe :=
  probeFirst options.exclude false (candidates options.typescript base)

/-- What a visit or a part of one yields: files found, in order, and warnings. -/
structure Finds where
  files : List (Path × ProjectFile) := []
  warnings : List Warning := []

namespace Finds

def append (a b : Finds) : Finds :=
  { files := a.files ++ b.files, warnings := a.warnings ++ b.warnings }

instance : Append Finds := ⟨append⟩

end Finds

/-- Where the manifest of a package leads the importer, and what reading it yields. -/
def entryOf (dialect : Dialect) (subpath : Option Text) (manifestPath : Path)
    (manifest : ProjectFile) : Option Text × List Warning :=
  match manifest.text? with
  | none => (none, [.invalidManifest manifestPath Json.Fault.badUnicode.message])
  | some text =>
    match Json.read text with
    | .ok json => (entryPoint? dialect subpath json, [])
    | .error e => (none, [.invalidManifest manifestPath (e.message text)])

/-- Looks up a package below the nearest of some directories that has it. A manifest decides; a
package without one is looked up as a path and, if there is nothing, farther up. -/
def probePackage (options : ScanOptions) (dialect : Dialect) (name : Text)
    (subpath : Option Text) : (bases : List Path) → Scan (Probe × Finds)
  | [] => return (.missing, {})
  | base :: bases => do
    if base.fileName = "node_modules".toList then
      probePackage options dialect name subpath bases
    else
      match base.join ("node_modules/".toList ++ name) with
      | none => probePackage options dialect name subpath bases
      | some package =>
        let manifestPath := package ++ "/package.json".toList
        let manifest ←
          if ← isExcluded options.exclude manifestPath then pure none else askFile manifestPath
        match manifest with
        | none =>
          let target := match subpath with
            | some inside => package.join inside
            | none => some package
          match target with
          | none => probePackage options dialect name subpath bases
          | some target =>
            match ← probeModule options target with
            | .missing => probePackage options dialect name subpath bases
            | probe => return (probe, {})
        | some manifest =>
          let (entry, warnings) := entryOf dialect subpath manifestPath manifest
          let finds : Finds := { files := [(manifestPath, manifest)], warnings }
          let target := match entry, subpath with
            | some entry, _ => package.join entry
            | none, some inside => package.join inside
            | none, none => some package
          match target with
          | some target => return (← probeModule options target, finds)
          | none => return (.missing, finds)

/-- Looks up what a specifier asks for; a module of the platform needs no lookup. -/
def probeRequest (options : ScanOptions) (dialect : Dialect) (dir : Path) :
    Request → Scan (Option Probe × Finds)
  | .relative path => do
    match dir.join path with
    | some base => return (some (← probeModule options base), {})
    | none => return (some .missing, {})
  | .absolute => return (some .missing, {})
  | .builtin => return (none, {})
  | .package name subpath => do
    let (probe, finds) ← probePackage options dialect name subpath (ancestors dir)
    return (some probe, finds)

/-- Follows one specifier of a file. -/
def followSpecifier (options : ScanOptions) (importer : Path) (dialect : Dialect)
    (specifier : Text) : Scan Finds := do
  let (probe, finds) ← probeRequest options dialect importer.parent (requestOf specifier)
  match probe with
  | some (.found path file) => return finds ++ { files := [(path, file)] }
  | some .missing => return finds ++ { warnings := [.unresolved specifier importer] }
  | some .excluded | none => return finds

/-- Follows the specifiers of a file in order. -/
def followSpecifiers (options : ScanOptions) (importer : Path) (dialect : Dialect) :
    List Text → Scan Finds
  | [] => return {}
  | specifier :: rest => do
    let here ← followSpecifier options importer dialect specifier
    return here ++ (← followSpecifiers options importer dialect rest)

/-- Follows a link to the file that it holds the path of; the link itself is shipped as it is. -/
def followLink (options : ScanOptions) (link target : Path) : Scan Finds := do
  let resolved := if target.head? = some '/' then none else link.parent.join target
  match resolved with
  | none => return { warnings := [.linkLeavesProject link target] }
  | some resolved =>
    if ← isExcluded options.exclude resolved then return {}
    else
      match ← askFile resolved with
      | some file => return { files := [(resolved, file)] }
      | none => return { warnings := [.linkToNothing link resolved] }

/-- The extensions of files that are read for specifiers. -/
def codeExtensions : List Text :=
  ["js", "mjs", "cjs", "jsx", "ts", "tsx", "mts", "cts"].map String.toList

/-- The specifiers that a file is followed by: those of a text with the extension of code. -/
def specifiersOf (path : Path) (file : ProjectFile) : List Text :=
  match path.extension, file.text? with
  | some ext, some text => if codeExtensions.contains ext then Source.specifiers text else []
  | _, _ => []

/-- The dialect of a file as the options tell it. -/
def dialectOf (options : ScanOptions) (path : Path) (file : ProjectFile) : Dialect :=
  Source.dialectOf options.mixedModules path file.text?

/-- What one file leads to. -/
def visit (options : ScanOptions) (path : Path) (file : ProjectFile) : Scan Finds :=
  match file.kind with
  | .symlink target => followLink options path target
  | .regular =>
    followSpecifiers options path (dialectOf options path file) (specifiersOf path file)

/-- A walk under way: the files still to visit, the paths met, and what is known so far. -/
structure Walk where
  queue : List (Path × ProjectFile) := []
  seen : List Path := []
  resolution : Resolution := {}

namespace Walk

/-- Queues the files whose paths were not met before. -/
def enqueue : Walk → List (Path × ProjectFile) → Walk
  | walk, [] => walk
  | walk, (path, file) :: rest =>
    if walk.seen.contains path then enqueue walk rest
    else enqueue { walk with queue := walk.queue ++ [(path, file)], seen := path :: walk.seen } rest

/-- Visits what is queued, at most `limit` files. Nothing is returned if that is too few. -/
def run (options : ScanOptions) : (limit : Nat) → Walk → Scan (Option Resolution)
  | limit, walk =>
    match walk.queue with
    | [] => return some walk.resolution
    | (path, file) :: queue =>
      match limit with
      | 0 => return none
      | limit + 1 => do
        let finds ← visit options path file
        let resolution := walk.resolution.add (dialectOf options path file) path finds.warnings
        run options limit ({ walk with queue, resolution }.enqueue finds.files)

end Walk

/-- Resolves an entrypoint by walking its imports, with at most `limit` visits. -/
def resolver (limit : Nat) : Resolver := fun options entrypoint => do
  match entrypoint.normalize with
  | none => throw (.missing entrypoint)
  | some entry =>
    match ← (askFile entry).adapt ResolveError.access with
    | none => throw (.missing entrypoint)
    | some file =>
      match ← (Walk.run options limit (Walk.enqueue {} [(entry, file)])).adapt
          ResolveError.access with
      | some resolution => return resolution
      | none => throw (.unfinished entrypoint)

end Import

/-! ## How far a walk can go

A path of a finite tree that leads to a file takes few enough steps: between two links it goes down
the tree, and no lookup follows more than forty links. So there are finitely many such paths, and
a walk that visits each once ends within their number. -/

/-- The number of steps of a path that leads anywhere. -/
def Tree.stepLimit (t : Tree) : Nat := (Tree.linkLimit + 1) * (t.depth + 1)

/-- A bound on the files that a walk of the tree meets, under their normal paths or with a slash in
front. -/
def Tree.visitLimit (t : Tree) : Nat := 2 * (t.entries.size + 1).pow t.stepLimit

/-- A bound that also counts the files that only the snapshot still has. -/
def Snapshot.visitLimit (s : Snapshot) (t : Tree) : Nat := t.visitLimit + 2 * s.size

end AppBundle
