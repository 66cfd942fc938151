import AppBundle.Text

/-!
# Project-relative paths

A path names a file below the project root by segments between slashes. Its normal form has no
empty, `.` or `..` segment and no backslash; a path that climbs above the root has none.
-/

namespace AppBundle

/-- A path below the project root. -/
abbrev Path := Text

namespace Path

/-- One step into or out of a directory: empty and `.` segments stay, `..` leaves the directory
entered last, and nothing leaves the root. -/
def step (entered : List Text) (segment : Text) : Option (List Text) :=
  if segment = [] ∨ segment = ['.'] then some entered
  else if segment = ['.', '.'] then
    match entered with
    | [] => none
    | _ :: outer => some outer
  else some (segment :: entered)

/-- The directories entered by a list of segments, innermost first. -/
def enter : List Text → List Text → Option (List Text)
  | entered, [] => some entered
  | entered, segment :: rest => (step entered segment).bind (enter · rest)

/-- Both slashes separate segments. -/
def isSeparator (c : Char) : Bool := c = '/' || c = '\\'

def segments (p : Path) : List Text := p.splitBy isSeparator

/-- The path of the directories entered, outermost first. -/
def ofEntered (entered : List Text) : Path := Text.joinBy '/' entered.reverse

/-- The normal form of a path, or nothing if the path climbs above the project root. -/
def normalize (p : Path) : Option Path := (enter [] (segments p)).map ofEntered

/-- The path read from the directory `base`. -/
def join (base relative : Path) : Option Path :=
  if base = [] then normalize relative else normalize (base ++ '/' :: relative)

/-- All but the last segment; nothing for a path of one segment. -/
def parent (p : Path) : Path :=
  match p.cutLast? '/' with
  | some (dir, _) => dir
  | none => []

/-- The last segment. -/
def fileName (p : Path) : Text :=
  match p.cutLast? '/' with
  | some (_, name) => name
  | none => p

/-- What follows the last dot of the last segment; a name whose only dot opens it has no
extension. -/
def extension (p : Path) : Option Text :=
  match p.fileName.cutLast? '.' with
  | none | some ([], _) => none
  | some (_, ext) => some ext

/-- The path without the extension of its last segment. -/
def stripExtension (p : Path) : Path :=
  match p.extension with
  | some ext => p.take (p.length - ext.length - 1)
  | none => p

/-- The parts of a path as the file system reads it, where only `/` separates. -/
inductive Component where
  | root
  | current
  | up
  | name (segment : Text)
deriving DecidableEq, Repr

namespace Component

/-- A segment after the first one; empty and `.` segments are no components there. -/
def ofSegment? (segment : Text) : Option Component :=
  if segment = [] ∨ segment = ['.'] then none
  else if segment = ['.', '.'] then some .up
  else some (.name segment)

end Component

/-- The components of a path: a leading slash is the root, a leading `.` the current directory,
and later empty and `.` segments vanish. -/
def components (p : Path) : List Component :=
  match p.splitBy (· = '/') with
  | [] => []
  | first :: rest =>
    let tail := rest.filterMap Component.ofSegment?
    if first = [] then
      if p = [] then [] else .root :: tail
    else if first = ['.'] then .current :: tail
    else (Component.ofSegment? first).toList ++ tail

/-- The names entered by components, innermost first; going up from the top fails. -/
def enterComponents : List Text → List Component → Option (List Text)
  | entered, [] => some entered
  | entered, .root :: rest | entered, .current :: rest => enterComponents entered rest
  | [], .up :: _ => none
  | _ :: outer, .up :: rest => enterComponents outer rest
  | entered, .name segment :: rest => enterComponents (segment :: entered) rest

/-- A relative path of the file system as a project-relative path. -/
def ofComponents (p : Path) : Option Path := (enterComponents [] p.components).map ofEntered

/-- A path of the file system read from a directory: an absolute path stands for itself. -/
def resolveFrom (dir p : Path) : Path :=
  match p with
  | '/' :: _ => p
  | _ => if dir.endsWith ['/'] ∨ dir = [] then dir ++ p else dir ++ '/' :: p

/-- The components that remain of `p` below `dir`, if `p` is `dir` or lies below it. -/
def below? (dir p : Path) : Option (List Component) :=
  let rec strip : List Component → List Component → Option (List Component)
    | [], rest => some rest
    | _ :: _, [] => none
    | d :: ds, c :: cs => if d = c then strip ds cs else none
  strip dir.components p.components

/-- The project-relative path of `p`, which lies below the directory `dir`. -/
def relativeTo? (dir p : Path) : Option Path :=
  (below? dir p).bind fun rest => (enterComponents [] rest).map ofEntered

@[simp] theorem normalize_nil : normalize [] = some [] := rfl

/-- The parent of a path is shorter, so that climbing from parent to parent ends. -/
theorem length_parent_lt {p : Path} (h : p ≠ []) : p.parent.length < p.length := by
  unfold parent
  split
  · rename_i dir name hcut
    rw [Text.eq_of_cutLast? hcut]; simp
  · exact List.length_pos_iff.2 h

end Path

end AppBundle
