import AppBundle.Json.Parser
import AppBundle.Regex
import AppBundle.Regex.Property

/-!
# Primitives of regular expressions

The smallest parts of an expression: characters, escapes and classes of characters. Flags say how
they are read.
-/

namespace AppBundle

/-- How an expression is read from some point on. -/
structure RegexFlags where
  ignoreCase : Bool := false
  multiLine : Bool := false
  dotMatchesLineFeed : Bool := false
  crlf : Bool := false
  unicode : Bool := true
  /-- Blanks and comments are skipped. -/
  verbose : Bool := false
deriving DecidableEq, Repr

/-- A part of an expression before the flags are applied. -/
inductive RegexPrimitive where
  | char (c : Char)
  /-- A byte given by two hexadecimal digits. -/
  | byte (n : Nat)
  | set (s : CharSet)
  | look (l : Look)
  | dot
deriving Repr

namespace RegexSyntax

/-- Drops blanks and comments, which start at `#` and end with the line. -/
def dropVerbose : (inComment : Bool) → Text → Text
  | _, [] => []
  | true, c :: cs => dropVerbose (c ≠ '\n') cs
  | false, c :: cs =>
    if CharClass.isBlank c then dropVerbose false cs
    else if c = '#' then dropVerbose true cs
    else c :: cs

/-- What is read next: in verbose mode, what follows blanks and comments. -/
def next (flags : RegexFlags) (t : Text) : Text := if flags.verbose then dropVerbose false t else t

/-- The characters that have a meaning of their own. -/
def isMeta (c : Char) : Bool := "\\.+*?()|[]\x7b\x7d^$#&-~".toList.contains c

/-- The characters that stand for themselves after a backslash. -/
def isEscapable (c : Char) : Bool :=
  isMeta c || (c.toNat < 128 && !c.isAlphanum && c ≠ '<' && c ≠ '>')

/-- The character of a code point, unless it is a surrogate or none. -/
def charOf? (n : Nat) : Option Char := if n.isValidChar then some (Char.ofNat n) else none

/-- Hexadecimal digits, a fixed number of them. -/
def readHexDigits (flags : RegexFlags) : (count : Nat) → (value : Nat) → Text → Option (Nat × Text)
  | 0, value, t => some (value, t)
  | count + 1, value, t =>
    match next flags t with
    | [] => none
    | c :: cs =>
      match Json.hexValue? c with
      | some digit => readHexDigits flags count (16 * value + digit) cs
      | none => none

/-- Hexadecimal digits up to a closing brace. -/
def readBracedHex (flags : RegexFlags) : (steps : Nat) → (digits : Option Nat) → Text →
    Option (Nat × Text)
  | 0, _, _ => none
  | steps + 1, digits, t =>
    match next flags t with
    | [] => none
    | c :: cs =>
      if c = '\x7d' then digits.map (·, cs)
      else
        match Json.hexValue? c with
        | some digit => readBracedHex flags steps (some (16 * digits.getD 0 + digit)) cs
        | none => none

/-- The character after `\x`, `\u` or `\U`. -/
def readHexEscape (flags : RegexFlags) (count : Nat) (t : Text) :
    Except RegexFault (RegexPrimitive × Text) :=
  match next flags t with
  | '\x7b' :: cs =>
    match readBracedHex flags (cs.length + 1) none cs with
    | some (n, rest) =>
      match charOf? n with
      | some c => .ok (.char c, rest)
      | none => .error .badEscape
    | none => .error .badEscape
  | cs =>
    match readHexDigits flags count 0 cs with
    | some (n, rest) =>
      match charOf? n with
      | some c => .ok (if count = 2 then .byte n else .char c, rest)
      | none => .error .badEscape
    | none => .error .badEscape

/-- The name of a word boundary in braces, if a letter or `-` opens it. -/
def readBoundaryName (flags : RegexFlags) (t : Text) :
    Except RegexFault (Option (Text × Text)) :=
  let isNameChar (c : Char) : Bool := c.isAlpha || c = '-'
  match t with
  | '\x7b' :: cs =>
    match next flags cs with
    | [] => .error .badRepetition
    | c :: cs =>
      if isNameChar c then
        let name := (c :: cs).takeWhile isNameChar
        match next flags ((c :: cs).dropWhile isNameChar) with
        | '\x7d' :: rest => .ok (some (name, rest))
        | _ => .error .badEscape
      else .ok none
  | _ => .ok none

/-- The word boundary after `\b`. -/
def readBoundary (flags : RegexFlags) (t : Text) : Except RegexFault (RegexPrimitive × Text) := do
  let u := flags.unicode
  match ← readBoundaryName flags t with
  | none => return (.look (.wordEdge u), t)
  | some (name, rest) =>
    match String.ofList name with
    | "start" => return (.look (.wordStart u), rest)
    | "end" => return (.look (.wordEnd u), rest)
    | "start-half" => return (.look (.wordStartHalf u), rest)
    | "end-half" => return (.look (.wordEndHalf u), rest)
    | _ => .error .badEscape

/-- A set with the variants of its members if case is ignored. -/
def withCase (flags : RegexFlags) (s : CharSet) : CharSet :=
  if flags.ignoreCase then .folded (!flags.unicode) s else s

/-- A name up to a closing brace. -/
def readBracedName (flags : RegexFlags) : (steps : Nat) → Text → Option (Text × Text)
  | 0, _ => none
  | steps + 1, t =>
    match next flags t with
    | [] => none
    | '\x7d' :: cs => some ([], cs)
    | c :: cs => (readBracedName flags steps cs).map fun (name, rest) => (c :: name, rest)

/-- The parts of a text around the first `!=`. -/
def cutUnequal? : Text → Option (Text × Text)
  | [] => none
  | '!' :: '=' :: rest => some ([], rest)
  | c :: cs => (cutUnequal? cs).map fun (before, rest) => (c :: before, rest)

/-- The set that the braces after `\p` name; between a property and its value all of `!=`, `:` and
`=` mean the same. -/
def propertySet? (name : Text) : Option CharSet :=
  match ((cutUnequal? name).or (name.cutFirst? ':')).or (name.cutFirst? '=') with
  | some (property, value) => CharSet.propertyValue? property value
  | none => CharSet.property? name

/-- The property after `\p`, or after `\P`, which negates it. -/
def readProperty (flags : RegexFlags) (negated : Bool) (t : Text) :
    Except RegexFault (RegexPrimitive × Text) := do
  let (set, rest) ← match next flags t with
    | [] | '\\' :: _ => .error .badEscape
    | '\x7b' :: cs =>
      match readBracedName flags (cs.length + 1) cs with
      | some (name, rest) => .ok (propertySet? name, rest)
      | none => .error .badEscape
    | c :: cs => .ok (CharSet.property? [c], cs)
  if flags.unicode = false then .error .notAscii
  match set with
  | some s =>
    let s := withCase flags s
    return (.set (if negated then .compl s else s), rest)
  | none => .error .unknownProperty

/-- The class that a letter after a backslash stands for, unless it is negated. -/
def perlClass? (unicode : Bool) (c : Char) : Option CharSet :=
  match c with
  | 'd' => some (.digits unicode)
  | 's' => some (.blanks unicode)
  | 'w' => some (.wordChars unicode)
  | _ => none

/-- What follows a backslash. -/
def readEscape (flags : RegexFlags) (t : Text) : Except RegexFault (RegexPrimitive × Text) :=
  match t with
  | [] => .error .badEscape
  | c :: cs =>
    let u := flags.unicode
    match c with
    | 'x' => readHexEscape flags 2 cs
    | 'u' => readHexEscape flags 4 cs
    | 'U' => readHexEscape flags 8 cs
    | 'p' => readProperty flags false cs
    | 'P' => readProperty flags true cs
    | 'a' => .ok (.char '\x07', cs)
    | 'f' => .ok (.char '\x0c', cs)
    | 't' => .ok (.char '\t', cs)
    | 'n' => .ok (.char '\n', cs)
    | 'r' => .ok (.char '\r', cs)
    | 'v' => .ok (.char '\x0b', cs)
    | 'A' => .ok (.look .textStart, cs)
    | 'z' => .ok (.look .textEnd, cs)
    | 'b' => readBoundary flags cs
    | 'B' => .ok (.look (.noWordEdge u), cs)
    | '<' => .ok (.look (.wordStart u), cs)
    | '>' => .ok (.look (.wordEnd u), cs)
    | _ =>
      match perlClass? u c, perlClass? u c.toLower with
      | some s, _ => .ok (.set s, cs)
      | none, some s => if u then .ok (.set (.compl s), cs) else .error .notAscii
      | none, none => if isEscapable c then .ok (.char c, cs) else .error .badEscape

/-- A primitive that stands at the front of a text. -/
def readPrimitive (flags : RegexFlags) : Text → Except RegexFault (RegexPrimitive × Text)
  | [] => .error .badEscape
  | '\\' :: cs => readEscape flags cs
  | '.' :: cs => .ok (.dot, cs)
  | '^' :: cs =>
    .ok (.look (if flags.multiLine then if flags.crlf then .lineStartCrlf else .lineStart
      else .textStart), cs)
  | '$' :: cs =>
    .ok (.look (if flags.multiLine then if flags.crlf then .lineEndCrlf else .lineEnd
      else .textEnd), cs)
  | c :: cs => .ok (.char c, cs)

/-- The expression of a primitive. -/
def ofPrimitive (flags : RegexFlags) : RegexPrimitive → Except RegexFault Regex
  | .char c =>
    if flags.unicode then .ok (.oneOf (withCase flags (.single c)))
    else if c.toNat < 128 ∨ flags.ignoreCase = false then
      .ok (.oneOf (withCase flags (.single c)))
    else .error .notAscii
  | .byte n =>
    if flags.unicode ∨ n < 128 then .ok (.oneOf (withCase flags (.range n n)))
    else .error .notAscii
  | .set s => .ok (.oneOf s)
  | .look l => .ok (.look l)
  | .dot =>
    if flags.unicode = false then .error .notAscii
    else if flags.dotMatchesLineFeed then .ok (.oneOf (.compl .none))
    else if flags.crlf then .ok (.oneOf (.compl (.table [(10, 10), (13, 13)])))
    else .ok (.oneOf (.compl (.range 10 10)))

end RegexSyntax

end AppBundle
