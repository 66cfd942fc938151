import AppBundle.Regex.Primitive

/-!
# Classes in brackets

A class lists characters, ranges, named classes and other classes between brackets, and combines
what it lists by `&&`, `--` and `~~` from left to right. A `^` in front takes the complement.
-/

namespace AppBundle

namespace RegexSyntax

/-- The operations between the parts of a class. -/
inductive SetOperator where
  | inter
  | diff
  | symmDiff
deriving DecidableEq, Repr

/-- What is listed so far: the sets, last one first, and how deep they nest. -/
structure Listed where
  sets : List CharSet := []
  depth : Nat := 0

namespace Listed

def push (l : Listed) (s : CharSet) (depth : Nat) : Listed :=
  { sets := s :: l.sets, depth := max l.depth depth }

/-- The set of all that is listed; several items count as one level of nesting. -/
def toSet (l : Listed) : CharSet × Nat :=
  (.ofList l.sets.reverse, l.depth + if l.sets.length ≤ 1 then 0 else 1)

end Listed

/-- A class that is open: what stands to the left of the operator read last, and what is listed
since. -/
structure OpenClass where
  negated : Bool
  left : Option (CharSet × Nat × SetOperator) := none
  listed : Listed := {}

namespace OpenClass

def push (c : OpenClass) (s : CharSet) (depth : Nat) : OpenClass :=
  { c with listed := c.listed.push s depth }

/-- The set of everything read so far. -/
def combine (flags : RegexFlags) (c : OpenClass) : CharSet × Nat :=
  let (right, rightDepth) := c.listed.toSet
  match c.left with
  | none => (right, rightDepth)
  | some (left, leftDepth, operator) =>
    let left := withCase flags left
    let right := withCase flags right
    (match operator with
      | .inter => .inter left right
      | .diff => .diff left right
      | .symmDiff => .symmDiff left right,
    max leftDepth rightDepth + 1)

def operate (flags : RegexFlags) (c : OpenClass) (operator : SetOperator) : OpenClass :=
  let (left, depth) := c.combine flags
  { negated := c.negated, left := some (left, depth, operator) }

/-- The set of a class that ends here. -/
def close (flags : RegexFlags) (c : OpenClass) : Except RegexFault (CharSet × Nat) :=
  let (set, depth) := c.combine flags
  let set := withCase flags set
  let set := if c.negated then .compl set else set
  if flags.unicode ∨ set.isAscii then .ok (set, depth + 1) else .error .notAscii

end OpenClass

/-- Hyphens at the start of a class stand for themselves. -/
def readHyphens (flags : RegexFlags) : (steps : Nat) → OpenClass → Text → OpenClass × Text
  | 0, c, t => (c, t)
  | steps + 1, c, t =>
    match t with
    | '-' :: cs => readHyphens flags steps (c.push (.single '-') 0) (next flags cs)
    | _ => (c, t)

/-- What opens a class after its bracket: a `^`, then hyphens or a `]`, which stand for
themselves there. -/
def readOpening (flags : RegexFlags) (t : Text) : OpenClass × Text :=
  let (negated, t) := match next flags t with
    | '^' :: cs => (true, next flags cs)
    | t => (false, t)
  let (c, t) := readHyphens flags t.length { negated } t
  match t with
  | ']' :: cs => if c.listed.sets.isEmpty then (c.push (.single ']') 0, next flags cs) else (c, t)
  | _ => (c, t)

/-- A named class after its opening bracket, as in `[:alpha:]`, if there is one. -/
def readNamed? (flags : RegexFlags) (t : Text) :
    Option (Except RegexFault CharSet × Text) :=
  match t with
  | ':' :: cs =>
    let (negated, cs) := match cs with
      | '^' :: cs => (true, cs)
      | cs => (false, cs)
    match Text.after? (cs.dropWhile (· ≠ ':')) ":]".toList with
    | none => none
    | some rest =>
      (CharSet.named? (cs.takeWhile (· ≠ ':'))).map fun s =>
        let s := withCase flags s
        let s := if negated then .compl s else s
        (if flags.unicode ∨ s.isAscii then .ok s else .error .notAscii, rest)
  | _ => none

/-- One character of a class or an escape. -/
def readClassItem (flags : RegexFlags) : Text → Except RegexFault (RegexPrimitive × Text)
  | [] => .error .unclosedClass
  | '\\' :: cs => readEscape flags cs
  | c :: cs => .ok (.char c, cs)

/-- The code point of a bound of a range. -/
def boundOf (flags : RegexFlags) : RegexPrimitive → Except RegexFault Nat
  | .char c => if flags.unicode ∨ c.toNat < 128 then .ok c.toNat else .error .notAscii
  | .byte n => .ok n
  | .set _ | .look _ | .dot => .error .noRangeBound

/-- The set of a single item of a class. -/
def setOf (flags : RegexFlags) : RegexPrimitive → Except RegexFault CharSet
  | .set s => .ok s
  | .look _ | .dot => .error .badEscape
  | item => do
    let n ← boundOf flags item
    return .range n n

/-- An item of a class or a range of two. -/
def readClassRange (flags : RegexFlags) (t : Text) : Except RegexFault (CharSet × Text) := do
  let (lower, rest) ← readClassItem flags t
  match next flags rest with
  | [] => .error .unclosedClass
  | '-' :: cs =>
    match next flags cs with
    | [] => .error .unclosedClass
    | ']' :: _ | '-' :: _ => return (← setOf flags lower, '-' :: cs)
    | cs =>
      let (upper, rest) ← readClassItem flags cs
      let lo ← boundOf flags lower
      let hi ← boundOf flags upper
      if lo ≤ hi then return (.range lo hi, rest) else .error .descendingRange
  | rest => return (← setOf flags lower, rest)

/-- Reads classes from inside: the open ones, innermost first. -/
def readClasses (flags : RegexFlags) : (steps : Nat) → OpenClass → List OpenClass → Text →
    Except RegexFault (CharSet × Nat × Text)
  | 0, _, _, _ => .error .unclosedClass
  | steps + 1, c, outer, t =>
    let listItem (t : Text) : Except RegexFault (CharSet × Nat × Text) := do
      let (s, rest) ← readClassRange flags t
      readClasses flags steps (c.push s 0) outer rest
    match next flags t with
    | [] => .error .unclosedClass
    | '[' :: cs =>
      match readNamed? flags cs with
      | some (s, rest) => do readClasses flags steps (c.push (← s) 0) outer rest
      | none =>
        let (inner, rest) := readOpening flags cs
        readClasses flags steps inner (c :: outer) rest
    | ']' :: cs => do
      let (s, depth) ← c.close flags
      match outer with
      | [] => return (s, depth, cs)
      | parent :: outer => readClasses flags steps (parent.push s depth) outer cs
    | '&' :: '&' :: cs => readClasses flags steps (c.operate flags .inter) outer cs
    | '-' :: '-' :: cs => readClasses flags steps (c.operate flags .diff) outer cs
    | '~' :: '~' :: cs => readClasses flags steps (c.operate flags .symmDiff) outer cs
    | cs => listItem cs

/-- Reads a class after its opening bracket: its set, how deep it nests, and what follows. -/
def readBracket (flags : RegexFlags) (t : Text) : Except RegexFault (CharSet × Nat × Text) :=
  let (c, rest) := readOpening flags t
  readClasses flags (t.length + 1) c [] rest

end RegexSyntax

end AppBundle
