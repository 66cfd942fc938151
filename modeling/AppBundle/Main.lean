import AppBundle.Command

/-!
# The program

Copies what a command line can see of the disk into a tree, runs the command on the tree, and does
what the report says. A link is copied as a path to the place where it ends, so the copy also holds
what links lead to; a file that cannot be read is not copied.
-/

namespace AppBundle

namespace Disk

/-- What was copied so far, and the places that links lead to. -/
structure Copy where
  entries : List (Place × Entry) := []
  linked : List Place := []

abbrev Copying := StateT Copy IO

/-- What was found at a place. -/
inductive Found where
  | nothing
  | file
  | dir
  | link (last : Place)

def pathOf (place : Place) : String := String.ofList (Tree.pathOf place)

/-- The place of an absolute path. -/
def placeOf (path : String) : Place := (Text.splitBy (· = '/') path.toList).filter (· ≠ [])

def add (place : Place) (e : Entry) : Copying Unit :=
  modify fun c => { c with entries := (place, e) :: c.entries }

/-- Adds a directory and those on the way to it. -/
def addDirs (dir : Place) : Copying Unit :=
  (List.range (dir.length + 1)).forM fun n => add (dir.take n) .dir

/-- Adds a link as a path to the place where it ends; one that ends nowhere gets a path that fails
as the link does. -/
def addLink (place : Place) : Copying Found := do
  match ← (IO.FS.realPath (pathOf place)).toBaseIO with
  | .ok path =>
    let last := placeOf path.toString
    add place (.link (Tree.pathOf last))
    addDirs last.dropLast
    return .link last
  | .error (.noFileOrDirectory ..) | .error (.inappropriateType ..) =>
    add place (.link ['\x00'])
    return .file
  | .error _ =>
    add place (.link (Tree.pathOf place))
    return .file

/-- Adds what stands at a place, without what a directory holds. -/
def addEntry (place : Place) : Copying Found := do
  match place.getLast? with
  | none => return .dir
  | some name =>
    let path := (← IO.FS.realPath (pathOf place.dropLast)) / String.ofList name
    match ← path.symlinkMetadata.toBaseIO with
    | .error _ => return .nothing
    | .ok status =>
      match status.type with
      | .dir => add place .dir; return .dir
      | .symlink => addLink place
      | .other => return .nothing
      | .file =>
        match ← (IO.FS.readBinFile path).toBaseIO with
        | .ok content => add place (.file content 0o644); return .file
        | .error _ => return .nothing

/-- Adds what stands on the way of a path that is walked from a directory, and says where the walk
ends. -/
def addWay : Place → List Text → Copying Place
  | place, [] => return place
  | place, name :: rest => do
    if name = ['.'] then addWay place rest
    else if name = ['.', '.'] then addWay place.dropLast rest
    else
      let next := place ++ [name]
      match ← addEntry next with
      | .dir => addWay next rest
      | .link last => let _ ← addEntry last; addWay last rest
      | _ => return next

/-- Adds what stands on the way of a path that is read from the working directory. -/
def addPath (cwd : Place) (p : Path) : Copying Place := do
  addDirs (Tree.startOf cwd p)
  addWay (Tree.startOf cwd p) (Tree.walkNames p)

/-- Adds all that stands below a directory. -/
partial def addBelow (dir : Place) : Copying Unit := do
  match ← (← IO.FS.realPath (pathOf dir)).readDir.toBaseIO with
  | .error _ => return
  | .ok names =>
    for name in names do
      let place := dir ++ [name.fileName.toList]
      match ← addEntry place with
      | .dir => addBelow place
      | .link last => modify fun c => { c with linked := last :: c.linked }
      | _ => pure ()

/-- Adds what stands at the places that links lead to, until they lead nowhere new. Of a directory
around one that was copied already, nothing more is copied. -/
partial def addLinked (copied : List Place) : Copying Unit := do
  let c ← get
  match c.linked with
  | [] => return
  | place :: rest =>
    set { c with linked := rest }
    if copied.any fun top => top.isPrefixOf place || place.isPrefixOf top then addLinked copied
    else
      match ← addEntry place with
      | .dir => addBelow place
      | _ => pure ()
      addLinked (place :: copied)

/-- The tree of the entries that were copied. -/
def Copy.tree (c : Copy) : Tree :=
  (c.entries.mergeSort fun a b => ¬ a.1 < b.1).foldl (fun t (place, e) => t.put place e) Tree.empty

/-- Copies what a command on a project can see. -/
def copyFor (cwd : Place) (dir : Path) (out : Option Path) : Copying Unit := do
  let project ← addPath cwd dir
  addBelow project
  addLinked [project]
  if let some path := out then
    let _ ← addPath cwd path

/-- Writes the file that a command leaves; says whether that went well. -/
def writeOut (cwd : Place) (t : Tree) (out : Path) : IO Bool := do
  match t.locate true cwd out with
  | .error _ => return false
  | .ok place =>
    match t.get? place with
    | some (.file content _) =>
      match ← (IO.FS.writeBinFile (pathOf place) content).toBaseIO with
      | .ok () => return true
      | .error _ => return false
    | _ => return false

end Disk

open Disk

/-- Carries out a command line and says what it came to. -/
def Command.execute (args : List Text) : IO Report := do
  let cwd := placeOf (← IO.currentDir).toString
  let copy (dir : Path) (out : Option Path) : IO Tree := do
    return (← (copyFor cwd dir out).run {}).2.tree
  match Command.parse args with
  | some (.routes dir) => return Command.run (← copy dir none) cwd args
  | some (.package dir _ none _) => return Command.run (← copy dir none) cwd args
  | some (.package dir _ (some out) _) =>
    let tree ← copy dir (some out)
    let report := Command.run tree cwd args
    if report.exitCode ≠ 0 then return report
    else if ← writeOut cwd report.tree out then return report
    else return Command.unwritten tree out
  | _ => return Command.run Tree.empty cwd args

end AppBundle

open AppBundle

def main (args : List String) : IO UInt32 := do
  let report ← Command.execute (args.map String.toList)
  IO.print (String.ofList report.stdout)
  IO.eprint (String.ofList report.stderr)
  return UInt32.ofNat report.exitCode
