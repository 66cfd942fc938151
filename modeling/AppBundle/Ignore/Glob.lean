import AppBundle.Text

/-!
# Globs

A glob is matched against the bytes of a path. Wildcards stop at slashes, but for `**` between
slashes, which stands for any number of directories, and a bracketed class matches one byte of any
of its characters.
-/

namespace AppBundle

/-- The bytes that remain of a path. -/
abbrev Bytes := List UInt8

namespace Glob

/-- A part of a glob. -/
inductive Token where
  | literal (c : Char)
  /-- One byte other than a slash. -/
  | any
  /-- Any bytes other than slashes. -/
  | star
  /-- Directories at the start of the path, or none. -/
  | dirsBefore
  /-- Everything below a directory. -/
  | everythingBelow
  /-- Directories between two others, or none. -/
  | dirsBetween
  /-- One byte of the characters in the ranges, or one of no such character. -/
  | oneOf (negated : Bool) (ranges : List (Char × Char))
  | choice (branches : List (List Token))

def slash : UInt8 := 47

/-- The single bytes and byte ranges of a range of characters: what stands between the last byte
of the lower and the first byte of the upper bound, and the other bytes of both. -/
def byteRanges (range : Char × Char) : List (UInt8 × UInt8) :=
  let lo := Text.bytes [range.1]
  let hi := Text.bytes [range.2]
  if range.1 = range.2 then lo.map fun b => (b, b)
  else match lo.getLast?, hi with
    | some last, first :: more =>
      lo.dropLast.map (fun b => (b, b)) ++ (last, first) :: more.map fun b => (b, b)
    | _, _ => []

/-- What remains after the first slash, after the second, and so on. -/
def afterSlashes : Bytes → List Bytes
  | [] => []
  | b :: bs => if b = slash then bs :: afterSlashes bs else afterSlashes bs

/-- What remains after any number of bytes other than slashes. -/
def afterName : Bytes → List Bytes
  | [] => [[]]
  | b :: bs => if b = slash then [b :: bs] else (b :: bs) :: afterName bs

/-- What remains after any number of bytes. -/
def suffixes : Bytes → List Bytes
  | [] => [[]]
  | b :: bs => (b :: bs) :: suffixes bs

/-- The rest of the bytes after the given ones. -/
def afterBytes : Bytes → Bytes → List Bytes
  | [], bs => [bs]
  | _ :: _, [] => []
  | p :: ps, b :: bs => if p = b then afterBytes ps bs else []

mutual

/-- The part contributes nothing to the glob: a choice without a branch that does. -/
def Token.isVoid : Token → Bool
  | .choice branches => areVoid branches
  | .literal _ | .any | .star | .dirsBefore | .everythingBelow | .dirsBetween | .oneOf .. => false

def isVoid : List Token → Bool
  | [] => true
  | t :: ts => t.isVoid && isVoid ts

def areVoid : List (List Token) → Bool
  | [] => true
  | b :: bs => isVoid b && areVoid bs

end

mutual

/-- What may remain of a path after one part of a glob. -/
def Token.rests : Token → Bytes → List Bytes
  | .literal c, bs => afterBytes (Text.bytes [c]) bs
  | .any, b :: bs => if b = slash then [] else [bs]
  | .any, [] => []
  | .star, bs => afterName bs
  | .dirsBefore, bs => bs :: afterSlashes bs
  | .everythingBelow, b :: bs => if b = slash then suffixes bs else []
  | .everythingBelow, [] => []
  | .dirsBetween, b :: bs => if b = slash then bs :: afterSlashes bs else []
  | .dirsBetween, [] => []
  | .oneOf negated ranges, b :: bs =>
    let listed := (ranges.flatMap byteRanges).any fun (lo, hi) => lo ≤ b && b ≤ hi
    if listed ≠ negated then [bs] else []
  | .oneOf .., [] => []
  | .choice branches, bs => if areVoid branches then [bs] else choiceRests branches bs

/-- What may remain after all parts of a glob, if any of the given bytes may remain before them. -/
def rests : List Token → List Bytes → List Bytes
  | [], before => before
  | t :: ts, before => rests ts (Rests.flatMap List.length t.rests before)

/-- What may remain after one of the branches that contribute to the glob. -/
def choiceRests : List (List Token) → Bytes → List Bytes
  | [], _ => []
  | b :: others, bs =>
    let more := choiceRests others bs
    if isVoid b then more else Rests.union List.length (rests b [bs]) more

end

def Token.isLiteral : Token → Bool
  | .literal _ => true
  | _ => false

def Token.isChar (c : Char) : Token → Bool
  | .literal d => c = d
  | _ => false

/-- The glob ends in a dot that belongs to the name of a file or to its extension; globs that spell
out the whole path, or more than a name of it, ask for no name. -/
def asksForDot (tokens : List Token) : Bool :=
  tokens.getLast?.any (·.isChar '.') &&
    match tokens with
    | .dirsBefore :: ts => !ts.all Token.isLiteral || !ts.any (·.isChar '/')
    | ts => !ts.all Token.isLiteral

/-- The glob matches the whole path; `**` alone matches every path. A path that ends in `..` ends in
no name. -/
def isMatch (tokens : List Token) (path : Text) : Bool :=
  match tokens with
  | [.dirsBefore] => true
  | _ =>
    if (path = ['.', '.'] ∨ path.endsWith ['/', '.', '.']) ∧ asksForDot tokens then false
    else (rests tokens [path.bytes]).contains []

end Glob

end AppBundle
