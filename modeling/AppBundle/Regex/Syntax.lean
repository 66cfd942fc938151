import AppBundle.Regex.Bracket

/-!
# Reading regular expressions

Expressions are read from left to right. Flags set in the middle of a group hold to the end of the
group, also in its later branches, and group names may not repeat.
-/

namespace AppBundle

namespace RegexSyntax

/-- A part that was read: an expression with the depth of its nesting, or flags, which cannot be
repeated. -/
inductive Part where
  | expr (r : Regex) (depth : Nat)
  | flags

namespace Part

def depth : Part → Nat
  | expr _ depth => depth
  | flags => 0

def regex : Part → Regex
  | expr r _ => r
  | flags => .empty

end Part

/-- The expressions in a row. -/
def sequence : List Regex → Regex
  | [] => .empty
  | [r] => r
  | r :: rest => .seq r (sequence rest)

/-- Any of the expressions. -/
def choice : List Regex → Regex
  | [] => .empty
  | [r] => r
  | r :: rest => .alt r (choice rest)

/-- A group under way: its flags, its finished branches and the parts of the branch being read, all
last one first. -/
structure OpenGroup where
  flags : RegexFlags := {}
  branches : List (Regex × Nat) := []
  parts : List Part := []

namespace OpenGroup

def push (g : OpenGroup) (r : Regex) (depth : Nat) : OpenGroup :=
  { g with parts := .expr r depth :: g.parts }

/-- The branch being read; several parts count as one level of nesting. -/
def branch (g : OpenGroup) : Regex × Nat :=
  (sequence (g.parts.reverse.map Part.regex),
    g.parts.foldl (fun n p => max n p.depth) 0 + if g.parts.length ≤ 1 then 0 else 1)

def nextBranch (g : OpenGroup) : OpenGroup :=
  { g with branches := g.branch :: g.branches, parts := [] }

/-- The expression of the whole group; several branches count as one level of nesting. -/
def close (g : OpenGroup) : Regex × Nat :=
  let branches := (g.branch :: g.branches).reverse
  (choice (branches.map (·.1)),
    branches.foldl (fun n b => max n b.2) 0 + if g.branches.isEmpty then 0 else 1)

/-- Repeats the last part. -/
def repeatLast (g : OpenGroup) (least : Nat) (most : Option Nat) : Except RegexFault OpenGroup :=
  match g.parts with
  | .expr r depth :: parts => .ok { g with parts := .expr (.rep r least most) (depth + 1) :: parts }
  | _ => .error .nothingToRepeat

/-- Repeats the last part a counted number of times, unless that takes too much room. -/
def repeatCounted (g : OpenGroup) (least : Nat) (most : Option Nat) :
    Except RegexFault OpenGroup := do
  let g ← g.repeatLast least most
  if g.parts.head?.all (·.regex.room ≤ Regex.roomLimit) then return g else .error .tooLarge

end OpenGroup

/-- Levels of nesting that are allowed. -/
def depthLimit : Nat := 250

def isNameStart (c : Char) : Bool := c = '_' || CharClass.isLetter c

def isNameChar (c : Char) : Bool :=
  isNameStart c || CharClass.isNumeral c || c = '.' || c = '[' || c = ']'

/-- A group name and the `>` after it. -/
def readGroupName (t : Text) : Except RegexFault (Text × Text) :=
  let name := t.takeWhile (· ≠ '>')
  match t.dropWhile (· ≠ '>') with
  | [] => .error .badGroupName
  | _ :: rest =>
    if name.head?.any isNameStart ∧ name.all isNameChar then .ok (name, rest)
    else .error .badGroupName

/-- Sets the flag of a letter. -/
def setFlag (flags : RegexFlags) (on : Bool) (c : Char) : Option RegexFlags :=
  match c with
  | 'i' => some { flags with ignoreCase := on }
  | 'm' => some { flags with multiLine := on }
  | 's' => some { flags with dotMatchesLineFeed := on }
  | 'u' => some { flags with unicode := on }
  | 'R' => some { flags with crlf := on }
  | 'x' => some { flags with verbose := on }
  | 'U' => some flags
  | _ => none

/-- Sets the flags that letters name, those after a `-` off. No letter stands twice, and the `-`
stands once and not last. -/
def setFlags : (on : Bool) → (seen : Text) → RegexFlags → Text → Except RegexFault RegexFlags
  | _, _, flags, [] => .ok flags
  | on, seen, flags, c :: cs =>
    if seen.contains c then .error .badFlags
    else if c = '-' then
      if cs = [] then .error .badFlags else setFlags false (c :: seen) flags cs
    else
      match setFlag flags on c with
      | some flags => setFlags on (c :: seen) flags cs
      | none => .error .badFlags

/-- What an opening parenthesis starts: a group with its flags and perhaps a name, or a change of
flags. -/
inductive Opening where
  | group (flags : RegexFlags) (name : Option Text) (rest : Text)
  | flags (flags : RegexFlags) (rest : Text)

/-- Reads what follows an opening parenthesis. -/
def readGroup (flags : RegexFlags) (t : Text) : Except RegexFault Opening := do
  let isFlagChar (c : Char) : Bool := c ≠ ':' && c ≠ ')'
  let named (t : Text) : Except RegexFault Opening := do
    let (name, rest) ← readGroupName t
    return .group flags (some name) rest
  match next flags t with
  | '?' :: '=' :: _ | '?' :: '!' :: _ | '?' :: '<' :: '=' :: _ | '?' :: '<' :: '!' :: _ =>
    .error .lookAround
  | '?' :: 'P' :: '<' :: cs => named cs
  | '?' :: '<' :: cs => named cs
  | '?' :: cs =>
    let letters := cs.takeWhile isFlagChar
    match cs.dropWhile isFlagChar with
    | [] => .error .unclosedGroup
    | closing :: rest =>
      let flags ← setFlags true [] flags letters
      if closing = ':' then return .group flags none rest
      else if letters = [] then .error .nothingToRepeat
      else return .flags flags rest
  | cs => return .group flags none cs

/-- A number with blanks around it; nothing if there is no digit. -/
def readCount (flags : RegexFlags) (t : Text) : Except RegexFault (Option Nat × Text) :=
  let rec digits : (value : Option Nat) → (steps : Nat) → Text → Option Nat × Text
    | value, 0, t => (value, t)
    | value, steps + 1, t =>
      match t with
      | [] => (value, [])
      | c :: cs =>
        if c.isDigit then
          digits (some (10 * value.getD 0 + (c.toNat - 48))) steps (next flags cs)
        else (value, c :: cs)
  let (value, rest) := digits none t.length (t.dropWhile CharClass.isBlank)
  if value.any (UInt32.size ≤ ·) then .error .badRepetition
  else .ok (value, next flags (rest.dropWhile CharClass.isBlank))

/-- A counted repetition after its opening brace. -/
def readCounts (flags : RegexFlags) (t : Text) :
    Except RegexFault (Nat × Option Nat × Text) := do
  let (first, rest) ← readCount flags (next flags t)
  match rest with
  | '\x7d' :: rest =>
    match first with
    | some n => return (n, some n, rest)
    | none => .error .badRepetition
  | ',' :: rest =>
    match next flags rest with
    | '\x7d' :: rest =>
      match first with
      | some n => return (n, none, rest)
      | none => .error .badRepetition
    | rest =>
      match first, ← readCount flags rest with
      | some least, (some most, '\x7d' :: rest) =>
        if least ≤ most then return (least, some most, rest) else .error .badRepetition
      | _, _ => .error .badRepetition
  | _ => .error .badRepetition

/-- A `?` after a repetition asks for few repetitions first, which is all the same here. -/
def dropLazyMark : Text → Text
  | '?' :: cs => cs
  | cs => cs

/-- Reads parts into the innermost open group. -/
def readParts : (steps : Nat) → (names : List Text) → (outer : List OpenGroup) → OpenGroup → Text →
    Except RegexFault (Regex × Nat)
  | 0, _, _, _, _ => .error .nestedTooDeep
  | steps + 1, names, outer, g, t =>
    match next g.flags t with
    | [] => if outer.isEmpty then .ok g.close else .error .unclosedGroup
    | '(' :: cs => do
      match ← readGroup g.flags cs with
      | .flags flags rest =>
        readParts steps names outer { g with flags, parts := .flags :: g.parts } rest
      | .group flags none rest => readParts steps names (g :: outer) { flags } rest
      | .group flags (some name) rest =>
        if name ∈ names then .error (.repeatedGroupName name)
        else readParts steps (name :: names) (g :: outer) { flags } rest
    | ')' :: cs =>
      match outer with
      | [] => .error .unopenedGroup
      | parent :: outer =>
        let (r, depth) := g.close
        readParts steps names outer (parent.push r (depth + 1)) cs
    | '|' :: cs => readParts steps names outer g.nextBranch cs
    | '[' :: cs => do
      let (set, depth, rest) ← readBracket g.flags cs
      readParts steps names outer (g.push (.oneOf set) depth) rest
    | '?' :: cs => do readParts steps names outer (← g.repeatLast 0 (some 1)) (dropLazyMark cs)
    | '*' :: cs => do readParts steps names outer (← g.repeatLast 0 none) (dropLazyMark cs)
    | '+' :: cs => do readParts steps names outer (← g.repeatLast 1 none) (dropLazyMark cs)
    | '\x7b' :: cs => do
      if g.parts.isEmpty then .error .nothingToRepeat
      let (least, most, rest) ← readCounts g.flags cs
      readParts steps names outer (← g.repeatCounted least most)
        (dropLazyMark (next g.flags rest))
    | cs => do
      let (p, rest) ← readPrimitive g.flags cs
      readParts steps names outer (g.push (← ofPrimitive g.flags p) 0) rest

end RegexSyntax

namespace Regex

/-- Reads a regular expression. -/
def parse (t : Text) : Except RegexFault Regex := do
  let (r, depth) ← RegexSyntax.readParts (t.length + 1) [] [] {} t
  if depth ≤ RegexSyntax.depthLimit then return r else .error .nestedTooDeep

/-- The text with every character that has a meaning of its own behind a backslash. -/
def escape (t : Text) : Text :=
  t.flatMap fun c => if RegexSyntax.isMeta c then ['\\', c] else [c]

end Regex

end AppBundle
