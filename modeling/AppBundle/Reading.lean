import AppBundle.Path
import AppBundle.Text.Quoted

/-!
# Computations that read project files

A `Reading` asks for project files by path and goes on from each answer; it has no other way to
learn about the project. What it computes is therefore a function of the answers alone, whoever
gives them: `Reading.answer` takes them from a fixed source. A reading ends early only when an
exclusion is asked about a path that no exclusion can speak of.
-/

namespace AppBundle

/-- A file as it is shipped: with its content, or with the path that a link holds. -/
inductive FileKind where
  | regular
  | symlink (target : Path)
deriving DecidableEq

/-- A file of the project under its normal path. A link has the content of the file that it leads
to, and none if it leads nowhere. -/
structure ProjectFile where
  path : Path
  kind : FileKind
  mode : Nat
  content : ByteArray

namespace ProjectFile

/-- The content as a text, if it is UTF-8. -/
def text? (f : ProjectFile) : Option Text := (String.fromUTF8? f.content).map String.toList

def isSymlink (f : ProjectFile) : Bool := f.kind ≠ .regular

end ProjectFile

/-- Why a file could not be read, apart from not being there. -/
inductive AccessError where
  | outsideRoot (path : Path)
  | unreadable (path : Path)
deriving DecidableEq

namespace AccessError

def message : AccessError → Text
  | outsideRoot path => "path ".toList ++ Text.quoted path ++ " escapes the project root".toList
  | unreadable path => "failed to read ".toList ++ path

end AccessError

/-- The answer to a request for a file: the file, its absence, or an error. -/
abbrev Answer := Except AccessError (Option ProjectFile)

/-- A path that still has a root once the project root is taken off. -/
structure Stray where
  path : Path
deriving DecidableEq

/-- A computation that asks for project files. -/
inductive Reading (α : Type) where
  | done (value : α)
  | ask (path : Path) (next : Answer → Reading α)
  | stray (path : Stray)

namespace Reading

variable {α β : Type}

def bind : Reading α → (α → Reading β) → Reading β
  | done a, f => f a
  | ask p next, f => ask p fun r => bind (next r) f
  | stray s, _ => stray s

instance : Monad Reading where
  pure := done
  bind := bind

/-- Asks for one file. -/
def file (p : Path) : Reading Answer := ask p done

/-- The outcome when every request is answered from a fixed source. -/
def answer (source : Path → Answer) : Reading α → Except Stray α
  | done a => .ok a
  | ask p next => answer source (next (source p))
  | stray s => .error s

/-- The paths asked for, in order, when every request is answered from a fixed source. -/
def requests (source : Path → Answer) : Reading α → List Path
  | done _ => []
  | ask p next => p :: requests source (next (source p))
  | stray _ => []

@[simp] theorem answer_done (source : Path → Answer) (a : α) :
    (done a).answer source = .ok a := rfl

theorem answer_bind (source : Path → Answer) (r : Reading α) (f : α → Reading β) :
    (r >>= f).answer source = (r.answer source).bind fun a => (f a).answer source := by
  show (bind r f).answer source = _
  induction r with
  | done a => rfl
  | ask p next ih => exact ih _
  | stray s => rfl

end Reading

/-! ## Warnings

What is worth telling although packaging goes on: imports and links that lead to no file of the
project, package manifests that are no JSON, and directories whose files are not deployed. -/

/-- A finding that does not stop the packaging. -/
inductive Warning where
  | unresolved (specifier : Text) (importer : Path)
  | linkLeavesProject (link target : Path)
  | linkToNothing (link target : Path)
  | invalidManifest (manifest : Path) (detail : Text)
  | nestedTooDeep (functionsDir dir : Path)
  /-- In the words of whoever found it. -/
  | reported (text : Text)
deriving DecidableEq, Repr

namespace Warning

def message : Warning → Text
  | unresolved specifier importer =>
    "failed to resolve ".toList ++ specifier.quoted ++ " from ".toList ++ importer
  | linkLeavesProject link target =>
    "symlink ".toList ++ link ++ " points outside the project: ".toList ++ target
  | linkToNothing link target =>
    "symlink ".toList ++ link ++ " points at missing file ".toList ++ target
  | invalidManifest manifest detail =>
    "invalid package manifest ".toList ++ manifest ++ ": ".toList ++ detail
  | nestedTooDeep functionsDir dir =>
    functionsDir ++ "/".toList ++ dir ++
      (" is nested more than one level below the functions directory; " ++
        "its files are not deployed as functions").toList
  | reported text => text

end Warning

end AppBundle
