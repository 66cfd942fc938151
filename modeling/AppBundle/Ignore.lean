import AppBundle.Ignore.Syntax
import AppBundle.Reading
import AppBundle.Text.Quoted

/-!
# Exclusion patterns

Patterns are read like the lines of an ignore file. Of the rules that match a path the last one
decides; a path that none matches is judged by the nearest parent directory that one does. A rule
with `!` takes a path back in. A list without rules excludes nothing; any other list can speak of
a path only once the root is taken off it (`Ignore.check`).
-/

namespace AppBundle

/-- A rule of an exclusion list. -/
structure IgnoreRule where
  takesBack : Bool
  dirsOnly : Bool
  glob : List Glob.Token

/-- Why a pattern list could not be built: the pattern, the glob that it was read as, and the
fault of that glob. -/
structure PatternError where
  pattern : Text
  glob : Text
  fault : Glob.SyntaxError

namespace PatternError

def message (e : PatternError) : Text :=
  "invalid pattern ".toList ++ e.pattern.quoted ++ ": error parsing glob '".toList ++ e.glob
    ++ "': ".toList ++ e.fault.message

end PatternError

namespace IgnoreRule

/-- A line without trailing blanks, unless the last one is escaped. -/
def trimLine (line : Text) : Text :=
  if line.endsWith ['\\', ' '] then line else line.dropEndWhile CharClass.isBlank

/-- Takes the marks off the start of a line: whether it takes back, whether it holds from the root
only, and what is left. -/
def readMarks : Text → Bool × Bool × Text
  | '\\' :: '!' :: cs => (false, false, '!' :: cs)
  | '\\' :: '#' :: cs => (false, false, '#' :: cs)
  | '!' :: '/' :: cs => (true, true, cs)
  | '!' :: cs => (true, false, cs)
  | '/' :: cs => (false, true, cs)
  | cs => (false, false, cs)

/-- Takes the slash off the end of a line, with a backslash before it. -/
def readDirMark (cs : Text) : Bool × Text :=
  match cs.getLast? with
  | some '/' =>
    let cs := cs.dropLast
    match cs.getLast? with
    | some '\\' => (true, cs.dropLast)
    | _ => (true, cs)
  | _ => (false, cs)

/-- A glob without a slash matches in every directory. -/
def anywhere (fromRoot : Bool) (cs : Text) : Text :=
  if fromRoot || cs.contains '/' || cs = ['*', '*'] then cs else '*' :: '*' :: '/' :: cs

/-- A glob that ends in all below a directory does not match the directory. -/
def insideOnly (cs : Text) : Text :=
  if cs.endsWith ['/', '*', '*'] then cs ++ ['/', '*'] else cs

/-- Reads a pattern; comments and blank patterns are no rule. -/
def parse (pattern : Text) : Except PatternError (Option IgnoreRule) :=
  let line := trimLine pattern
  if pattern.head? = some '#' ∨ line = [] then .ok none
  else
    let (takesBack, fromRoot, cs) := readMarks line
    let (dirsOnly, cs) := readDirMark cs
    match Glob.parse (insideOnly (anywhere fromRoot cs)) with
    | .ok glob => .ok (some { takesBack, dirsOnly, glob })
    | .error fault => .error { pattern, glob := line, fault }

end IgnoreRule

/-- A compiled list of patterns below a root; `size` counts the patterns it was built from. -/
structure Ignore where
  root : Path := []
  size : Nat := 0
  rules : List IgnoreRule := []

namespace Ignore

/-- The list that excludes nothing. -/
def empty : Ignore := {}

instance : Inhabited Ignore := ⟨empty⟩

/-- Reads the patterns in order, up to the first that is none. -/
def parseRules : List Text → Except PatternError (List IgnoreRule)
  | [] => .ok []
  | p :: ps => do
    let rule ← IgnoreRule.parse p
    let rules ← parseRules ps
    return rule.toList ++ rules

/-- Compiles patterns below a root. -/
def build (root : Path) (patterns : List Text) : Except PatternError Ignore := do
  let rules ← parseRules patterns
  return { root, size := patterns.length, rules }

/-- A path without a `./` in front. -/
def dropHere (p : Path) : Path := (p.after? ['.', '/']).getD p

/-- A path with the root taken off: a path without a slash is a name and stays as it is, and a
root that is the current directory takes nothing off. -/
def stripRoot (root p : Path) : Path :=
  let root := dropHere root
  let p := dropHere p
  if root.components = [.current] ∨ p.contains '/' = false then p
  else match p.after? root with
    | some rest => (rest.after? ['/']).getD rest
    | none => p

/-- The paths that end at a component of a list of segments, after what stands before them. -/
def componentEnds : Option Path → List Text → List Path
  | _, [] => []
  | before, segment :: rest =>
    let path := match before with
      | none => segment
      | some dir => dir ++ '/' :: segment
    let isComponent := segment ≠ [] && (segment ≠ ['.'] || before.isNone)
    if isComponent then path :: componentEnds (some path) rest else componentEnds (some path) rest

/-- The directories above a relative path, nearest first, the empty path last. -/
def parents (p : Path) : List Path :=
  match (componentEnds none (p.splitBy (· = '/'))).reverse with
  | [] => []
  | _ :: above => above ++ [[]]

/-- What the rules say of one path: the last rule that matches decides. -/
def verdict (rules : List IgnoreRule) (isDir : Bool) (p : Path) : Option Bool :=
  (rules.reverse.find? fun r => (isDir || !r.dirsOnly) && Glob.isMatch r.glob p).map fun r =>
    !r.takesBack

/-- What the rules say of the nearest of some directories. -/
def verdictOfParents (rules : List IgnoreRule) : List Path → Bool
  | [] => false
  | dir :: above => (verdict rules true dir).getD (verdictOfParents rules above)

/-- A path below the root is excluded by itself or by a directory above it. -/
def excludes (rules : List IgnoreRule) (p : Path) : Bool :=
  (verdict rules false p).getD (verdictOfParents rules (parents p))

/-- Whether a path, read from the root, is excluded. A path that still has a root of its own once
the root is taken off cannot be judged. -/
def check (l : Ignore) (p : Path) : Except Stray Bool :=
  if l.rules.isEmpty then .ok false
  else
    let rest := stripRoot l.root (l.root.resolveFrom p)
    match rest with
    | '/' :: _ => .error ⟨p⟩
    | _ => .ok (excludes l.rules rest)

end Ignore

end AppBundle
