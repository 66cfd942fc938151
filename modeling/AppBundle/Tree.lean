import AppBundle.Catalog
import AppBundle.Path

/-!
# File trees

A tree files its entries under places, the lists of names that lead to them from the top. An entry
is a file with its bytes and permission bits, a link that holds a path, or a directory; the top is
always a directory. In the order of places a directory's content follows the directory itself and
comes before the next sibling, names in the order of their bytes.
-/

namespace AppBundle

/-- What stands at a place of a tree. -/
inductive Entry where
  | file (content : ByteArray) (permissions : Nat)
  | link (target : Path)
  | dir

namespace Entry

def isDir : Entry → Bool
  | dir => true
  | file .. | link _ => false

end Entry

/-- The names that lead to an entry from the top. -/
abbrev Place := List Text

/-- A file tree. -/
structure Tree where
  entries : Catalog Place Entry := Catalog.empty

namespace Tree

def empty : Tree := {}

instance : Inhabited Tree := ⟨empty⟩

/-- What stands at a place. -/
def get? (t : Tree) (place : Place) : Option Entry :=
  if place = [] then some .dir else t.entries.find? place

/-- Puts an entry at a place; the top stays a directory. -/
def put (t : Tree) (place : Place) (e : Entry) : Tree :=
  if place = [] then t else { t with entries := t.entries.insert place e }

/-- Takes away what stands at a place and everything below it. -/
def prune (t : Tree) (place : Place) : Tree :=
  { t with entries := t.entries.filter fun p => !place.isPrefixOf p }

/-- The places below a directory, each as the names that lead to it from there, with what stands
at them: depth first, siblings by name. -/
def below (t : Tree) (dir : Place) : List (List Text × Entry) :=
  t.entries.entries.filterMap fun (place, e) =>
    if dir.isPrefixOf place && dir ≠ place then some (place.drop dir.length, e) else none

/-- The path of a place from the top. -/
def pathOf (place : Place) : Path := '/' :: Text.joinBy '/' place

/-- The length of the longest place. -/
def depth (t : Tree) : Nat := t.entries.keys.foldl (fun n place => max n place.length) 0

@[simp] theorem get?_nil (t : Tree) : t.get? [] = some .dir := by simp [get?]

theorem get?_put (t : Tree) {place : Place} (place' : Place) (e : Entry) (h : place ≠ []) :
    (t.put place e).get? place' = if place' = place then some e else t.get? place' := by
  by_cases h' : place' = []
  · subst h'; simp [get?, Ne.symm h]
  · simp [get?, put, h, h']

end Tree

/-! ## Looking up paths

A path is looked up name by name. A link met on the way is replaced by its target, read from the
directory that holds the link, and a lookup that meets more than forty links fails. Only a link
that is the last name of the path can be looked at without following it. -/

/-- Why a path leads nowhere. -/
inductive LookupError where
  | missing
  | notDirectory
  | tooManyLinks
  | nameTooLong
  | unusableName
deriving DecidableEq, Repr

namespace LookupError

/-- Nothing stands there, as opposed to a path that cannot be looked up at all. -/
def isAbsence : LookupError → Bool
  | missing | notDirectory => true
  | tooManyLinks | nameTooLong | unusableName => false

end LookupError

namespace Tree

/-- The most links that one lookup follows. -/
def linkLimit : Nat := 40

/-- The longest name in bytes. -/
def nameLimit : Nat := 255

/-- The longest path in bytes. -/
def pathLimit : Nat := 4095

/-- Where a lookup stands once it has arrived, met a link or failed. -/
inductive Progress where
  | arrived (place : Place)
  | link (dir : Place) (target : Path) (rest : List Text)
  | failed (e : LookupError)

/-- Walks names from a place up to the first link to follow. -/
def advance (t : Tree) (followLast : Bool) : Place → List Text → Progress
  | place, [] => .arrived place
  | place, name :: rest =>
    match t.get? place with
    | some .dir =>
      if name = ['.'] then advance t followLast place rest
      else if name = ['.', '.'] then advance t followLast place.dropLast rest
      else if nameLimit < name.bytes.length then .failed .nameTooLong
      else match t.get? (place ++ [name]) with
        | none => .failed .missing
        | some (.link target) =>
          if rest = [] ∧ followLast = false then .arrived (place ++ [name])
          else .link place target rest
        | some _ => advance t followLast (place ++ [name]) rest
    | _ => .failed .notDirectory

/-- The names that a path walks; a slash at its end asks for a directory. -/
def walkNames (p : Path) : List Text :=
  (p.splitBy (· = '/')).filter (· ≠ []) ++ if Text.endsWith p ['/'] then [['.']] else []

/-- The place from which a path is walked. -/
def startOf (dir : Place) : Path → Place
  | '/' :: _ => []
  | _ => dir

/-- Walks names from a place, following at most `links` links. -/
def follow (t : Tree) (followLast : Bool) : (links : Nat) → Place → List Text →
    Except LookupError Place
  | links, place, names =>
    match t.advance followLast place names with
    | .arrived place => .ok place
    | .failed e => .error e
    | .link dir target rest =>
      match links with
      | 0 => .error .tooManyLinks
      | links + 1 => follow t followLast links (startOf dir target) (walkNames target ++ rest)

/-- The place of a path that is read from the directory `cwd`. -/
def locate (t : Tree) (followLast : Bool) (cwd : Place) (p : Path) : Except LookupError Place :=
  if p = [] then .error .missing
  else if '\x00' ∈ p then .error .unusableName
  else if pathLimit < p.bytes.length then .error .nameTooLong
  else t.follow followLast linkLimit (startOf cwd p) (walkNames p)

/-- What a path leads to, links followed. -/
def status (t : Tree) (cwd : Place) (p : Path) : Except LookupError Entry := do
  let place ← t.locate true cwd p
  match t.get? place with
  | some e => .ok e
  | none => .error .missing

def isThere (t : Tree) (cwd : Place) (p : Path) : Bool :=
  match t.status cwd p with
  | .ok _ => true
  | .error _ => false

def isFile (t : Tree) (cwd : Place) (p : Path) : Bool :=
  match t.status cwd p with
  | .ok (.file ..) => true
  | _ => false

/-- The files and links below the directory that a path leads to, each as the names that lead to it
from there; nothing if the path leads to no directory. -/
def filesBelow? (t : Tree) (cwd : Place) (p : Path) : Option (List (List Text)) :=
  match t.locate true cwd p with
  | .error _ => none
  | .ok place =>
    if (t.get? place).any Entry.isDir then
      some ((t.below place).filterMap fun (names, e) => if e.isDir then none else some names)
    else none

/-- What a path names, a link as its last name not followed. -/
def statusOfName (t : Tree) (cwd : Place) (p : Path) : Except LookupError Entry := do
  let place ← t.locate false cwd p
  match t.get? place with
  | some e => .ok e
  | none => .error .missing

/-! ## Writing files

Files are written through links, as they are read; a directory is never overwritten. -/

/-- Makes the directories that the names lead through, and says where they end. -/
def makeDirs (t : Tree) : Place → List Text → Except LookupError (Tree × Place)
  | place, [] => .ok (t, place)
  | place, name :: rest =>
    match t.follow true linkLimit place [name] with
    | .ok next => makeDirs t next rest
    | .error .missing =>
      let next := place ++ [name]
      makeDirs (t.put next .dir) next rest
    | .error e => .error e

/-- Where a file of this path is written: the file that is there, or the free name. -/
def target? (t : Tree) (cwd : Place) (p : Path) : Option Place :=
  match t.locate true cwd p with
  | .ok place =>
    match t.get? place with
    | some (.file ..) => some place
    | _ => none
  | .error .missing =>
    match p.cutLast? '/' with
    | some (_, []) => none
    | none => if p = [] then none else some (cwd ++ [p])
    | some (dir, name) =>
      match t.locate true cwd (dir ++ ['/']) with
      | .ok place => some (place ++ [name])
      | .error _ => none
  | .error _ => none

/-- Writes a text file; a file that is there keeps its permissions. -/
def write? (t : Tree) (cwd : Place) (p : Path) (content : ByteArray) : Option Tree :=
  (t.target? cwd p).map fun place =>
    match t.get? place with
    | some (.file _ permissions) => t.put place (.file content permissions)
    | _ => t.put place (.file content 0o644)

/-- Puts an entry at a path, with the directories on the way to it. -/
def place? (t : Tree) (cwd : Place) (p : Path) (e : Entry) : Option Tree :=
  match (walkNames p).reverse with
  | [] => none
  | name :: dirs =>
    match t.makeDirs (startOf cwd p) dirs.reverse with
    | .error _ => none
    | .ok (t, dir) =>
      match e with
      | .file .. =>
        match t.follow true linkLimit dir [name] with
        | .ok place => some (t.put place e)
        | .error _ => some (t.put (dir ++ [name]) e)
      | _ => some (t.put (dir ++ [name]) e)

/-- Takes away what a path names, a directory with all it holds. -/
def remove? (t : Tree) (cwd : Place) (p : Path) : Option Tree :=
  match t.locate false cwd p with
  | .ok place => some (t.prune place)
  | .error _ => none

end Tree

end AppBundle
