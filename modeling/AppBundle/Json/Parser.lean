import AppBundle.Json

/-!
# Reading JSON

Reading is strict: one value, without comments, trailing commas or unescaped control characters,
nested less than 128 deep, with numbers that a double can hold. A fault has the place where it was
met.
-/

namespace AppBundle

namespace Json

/-- Why a text is no JSON value. -/
inductive Fault where
  | endsInList
  | endsInObject
  | endsInString
  | endsInValue
  | noColon
  | noCommaInList
  | noCommaInObject
  | unknownWord
  | noValue
  | badEscape
  | badNumber
  | hugeNumber
  | badUnicode
  | controlCharacter
  | keyNoString
  | loneSurrogate
  | trailingComma
  | trailingCharacters
  | unfinishedSurrogate
  | tooDeep
deriving DecidableEq, Repr

namespace Fault

def message : Fault → Text := fun fault => String.toList <| match fault with
  | endsInList => "EOF while parsing a list"
  | endsInObject => "EOF while parsing an object"
  | endsInString => "EOF while parsing a string"
  | endsInValue => "EOF while parsing a value"
  | noColon => "expected \x60:\x60"
  | noCommaInList => "expected \x60,\x60 or \x60]\x60"
  | noCommaInObject => "expected \x60,\x60 or \x60\x7d\x60"
  | unknownWord => "expected ident"
  | noValue => "expected value"
  | badEscape => "invalid escape"
  | badNumber => "invalid number"
  | hugeNumber => "number out of range"
  | badUnicode => "invalid unicode code point"
  | controlCharacter => "control character (\\u0000-\\u001F) found while parsing a string"
  | keyNoString => "key must be a string"
  | loneSurrogate => "lone leading surrogate in hex escape"
  | trailingComma => "trailing comma"
  | trailingCharacters => "trailing characters"
  | unfinishedSurrogate => "unexpected end of hex escape"
  | tooDeep => "recursion limit exceeded"

end Fault

/-- A fault met before the rest of a text, or at the first byte of that rest. -/
structure Misread where
  fault : Fault
  rest : Text
  atNext : Bool := false

/-- A fault at the next character, if there is one. -/
def failAt {α : Type} (fault : Fault) (rest : Text) : Except Misread α :=
  .error { fault, rest, atNext := !rest.isEmpty }

/-- A fault before the rest. -/
def failBefore {α : Type} (fault : Fault) (rest : Text) : Except Misread α :=
  .error { fault, rest }

def isSpace (c : Char) : Bool := c = ' ' || c = '\n' || c = '\t' || c = '\r'

def skipSpace (t : Text) : Text := t.dropWhile isSpace

/-- The rest of a word that is spelled out. -/
def readWord : (word : Text) → Text → Except Misread Text
  | [], t => .ok t
  | _ :: _, [] => failBefore .endsInValue []
  | w :: ws, c :: cs => if c = w then readWord ws cs else failBefore .unknownWord cs

/-- The value of a hexadecimal digit. -/
def hexValue? (c : Char) : Option Nat :=
  if '0' ≤ c ∧ c ≤ '9' then some (c.toNat - 48)
  else if 'a' ≤ c ∧ c ≤ 'f' then some (c.toNat - 87)
  else if 'A' ≤ c ∧ c ≤ 'F' then some (c.toNat - 55)
  else none

/-- The code unit of four hexadecimal digits. -/
def readUnit : Text → Except Misread (Nat × Text)
  | a :: b :: c :: d :: rest =>
    match [a, b, c, d].mapM hexValue? with
    | some digits => .ok (digits.foldl (fun n digit => 16 * n + digit) 0, rest)
    | none => failBefore .badEscape rest
  | _ => failBefore .endsInString []

def isHighSurrogate (n : Nat) : Bool := 0xD800 ≤ n && n ≤ 0xDBFF

def isLowSurrogate (n : Nat) : Bool := 0xDC00 ≤ n && n ≤ 0xDFFF

/-- The character of an escape after `\u`: of one code unit, or of a high and a low surrogate. -/
def readUnicodeEscape (t : Text) : Except Misread (Char × Text) := do
  let (high, t) ← readUnit t
  if isLowSurrogate high then failBefore .loneSurrogate t
  else if isHighSurrogate high then
    match t with
    | [] => failBefore .endsInString []
    | '\\' :: [] => failBefore .endsInString []
    | '\\' :: 'u' :: t =>
      let (low, t) ← readUnit t
      if isLowSurrogate low then
        .ok (Char.ofNat (0x10000 + (high - 0xD800) * 0x400 + (low - 0xDC00)), t)
      else failBefore .loneSurrogate t
    | '\\' :: _ :: t => failBefore .unfinishedSurrogate t
    | _ :: t => failBefore .unfinishedSurrogate t
  else .ok (Char.ofNat high, t)

/-- The character of an escape after the backslash. -/
def readEscape : Text → Except Misread (Char × Text)
  | [] => failBefore .endsInString []
  | c :: cs =>
    match c with
    | '\x22' | '\\' | '/' => .ok (c, cs)
    | 'b' => .ok ('\x08', cs)
    | 'f' => .ok ('\x0c', cs)
    | 'n' => .ok ('\n', cs)
    | 'r' => .ok ('\r', cs)
    | 't' => .ok ('\t', cs)
    | 'u' => readUnicodeEscape cs
    | _ => failBefore .badEscape cs

/-- The rest of a string after its opening quote; every step takes at least one character. -/
def readString : (steps : Nat) → Text → Except Misread (Text × Text)
  | 0, t => failBefore .endsInString t
  | _, [] => failBefore .endsInString []
  | steps + 1, c :: cs =>
    if c = '\x22' then .ok ([], cs)
    else if c = '\\' then do
      let (escaped, cs) ← readEscape cs
      let (t, cs) ← readString steps cs
      return (escaped :: t, cs)
    else if c.toNat < 32 then failBefore .controlCharacter cs
    else do
      let (t, cs) ← readString steps cs
      return (c :: t, cs)

def spanDigits (t : Text) : Text × Text := t.span Char.isDigit

/-- The number of decimal digits. -/
def natOfDigits (digits : Text) : Nat :=
  digits.foldl (fun n c => 10 * n + (c.toNat - 48)) 0

/-- Doubles end where the next one would be `2 ^ 1024`: a number from the middle below it on has
none. `digits` are those before and after the point, `places` of them after it. -/
def isHuge (digits : Text) (places : Nat) (exponent : Int) : Bool :=
  let digits := digits.dropWhile (· = '0')
  let scale := exponent - places
  if digits = [] then false
  else if scale + digits.length > 310 then true
  else if scale + digits.length < 300 then false
  else
    let limit := Nat.pow 2 1024 - Nat.pow 2 970
    if 0 ≤ scale then limit ≤ natOfDigits digits * Nat.pow 10 scale.toNat
    else limit * Nat.pow 10 (-scale).toNat ≤ natOfDigits digits

/-- The digits of an exponent after its letter. -/
def readExponent (t : Text) : Except Misread (Int × Text) := do
  let (negative, t) := match t with
    | '+' :: t => (false, t)
    | '-' :: t => (true, t)
    | t => (false, t)
  match t with
  | [] => failBefore .endsInValue []
  | c :: cs =>
    if c.isDigit then
      let (digits, rest) := spanDigits (c :: cs)
      let n : Int := natOfDigits digits
      return (if negative then -n else n, rest)
    else failBefore .badNumber cs

/-- The digits after a decimal point, if there is one. -/
def readFraction (t : Text) : Except Misread (Text × Text) :=
  match t with
  | '.' :: t =>
    let (digits, rest) := spanDigits t
    if digits ≠ [] then .ok (digits, rest)
    else if rest = [] then failAt .endsInValue []
    else failAt .badNumber rest
  | t => .ok ([], t)

/-- A number without its sign. -/
def readUnsigned (t : Text) : Except Misread (Unit × Text) := do
  let (whole, rest) := spanDigits t
  match whole with
  | [] => failBefore .badNumber (t.drop 1)
  | '0' :: _ :: _ => failAt .badNumber (t.drop 1)
  | _ =>
    let (fraction, rest) ← readFraction rest
    let (exponent, rest) ← match rest with
      | 'e' :: rest | 'E' :: rest => readExponent rest
      | rest => .ok (0, rest)
    if isHuge (whole ++ fraction) fraction.length exponent then failBefore .hugeNumber rest
    else return ((), rest)

/-- A number, kept as it is written. -/
def readNumber (t : Text) : Except Misread (Json × Text) := do
  let unsigned := match t with
    | '-' :: t => t
    | t => t
  let (_, rest) ← readUnsigned unsigned
  return (.number (t.take (t.length - rest.length)), rest)

/-- Values nest less than this deep. -/
def depthLimit : Nat := 128

mutual

/-- A value after blanks. Each step takes a character or ends; `depth` counts what may be opened
yet. -/
def readValue : (steps depth : Nat) → Text → Except Misread (Json × Text)
  | 0, _, t => failBefore .tooDeep t
  | steps + 1, depth, t =>
    match skipSpace t with
    | [] => failAt .endsInValue []
    | 'n' :: cs => do return (.null, ← readWord "ull".toList cs)
    | 't' :: cs => do return (.bool true, ← readWord "rue".toList cs)
    | 'f' :: cs => do return (.bool false, ← readWord "alse".toList cs)
    | '\x22' :: cs => do
      let (s, cs) ← readString (cs.length + 1) cs
      return (.string s, cs)
    | '[' :: cs =>
      if depth ≤ 1 then failAt .tooDeep ('[' :: cs)
      else do
        let (items, cs) ← readItems steps (depth - 1) true cs
        return (.array items, cs)
    | '\x7b' :: cs =>
      if depth ≤ 1 then failAt .tooDeep ('\x7b' :: cs)
      else do
        let (members, cs) ← readMembers steps (depth - 1) true [] cs
        return (.object members, cs)
    | c :: cs =>
      if c = '-' ∨ c.isDigit then readNumber (c :: cs) else failAt .noValue (c :: cs)

/-- The items of an array and its closing bracket. -/
def readItems : (steps depth : Nat) → (first : Bool) → Text → Except Misread (List Json × Text)
  | 0, _, _, t => failBefore .tooDeep t
  | steps + 1, depth, first, t =>
    match skipSpace t with
    | [] => failAt .endsInList []
    | ']' :: cs => .ok ([], cs)
    | c :: cs =>
      if first then do
        let (v, cs) ← readValue steps depth (c :: cs)
        let (vs, cs) ← readItems steps depth false cs
        return (v :: vs, cs)
      else if c = ',' then
        match skipSpace cs with
        | ']' :: cs => failAt .trailingComma (']' :: cs)
        | cs => do
          let (v, cs) ← readValue steps depth cs
          let (vs, cs) ← readItems steps depth false cs
          return (v :: vs, cs)
      else failAt .noCommaInList (c :: cs)

/-- The members of an object, after those read so far, and its closing brace. -/
def readMembers : (steps depth : Nat) → (first : Bool) → List (Text × Json) → Text →
    Except Misread (List (Text × Json) × Text)
  | 0, _, _, _, t => failBefore .tooDeep t
  | steps + 1, depth, first, members, t =>
    match skipSpace t with
    | [] => failAt .endsInObject []
    | '\x7d' :: cs => .ok (members, cs)
    | c :: cs =>
      if first then readMember steps depth members (c :: cs)
      else if c = ',' then
        match skipSpace cs with
        | '\x7d' :: cs => failAt .trailingComma ('\x7d' :: cs)
        | cs => readMember steps depth members cs
      else failAt .noCommaInObject (c :: cs)

/-- One member and those after it. -/
def readMember : (steps depth : Nat) → List (Text × Json) → Text →
    Except Misread (List (Text × Json) × Text)
  | 0, _, _, t => failBefore .tooDeep t
  | steps + 1, depth, members, t =>
    match t with
    | [] => failAt .endsInValue []
    | '\x22' :: cs => do
      let (key, cs) ← readString (cs.length + 1) cs
      match skipSpace cs with
      | [] => failAt .endsInObject []
      | ':' :: cs =>
        let (v, cs) ← readValue steps depth cs
        readMembers steps depth false (setMember key v members) cs
      | cs => failAt .noColon cs
    | cs => failAt .keyNoString cs

end

/-- A whole text as one value. -/
def read (t : Text) : Except Misread Json := do
  let (v, rest) ← readValue (3 * t.length + 3) depthLimit t
  match skipSpace rest with
  | [] => return v
  | rest => failAt .trailingCharacters rest

namespace Misread

/-- The fault with its line and column, in bytes, in the text that was read. -/
def message (e : Misread) (t : Text) : Text :=
  let before := t.take (t.length - e.rest.length)
  let crossed := e.atNext && e.rest.head? = some '\n'
  let line := before.count '\n' + 1 + if crossed then 1 else 0
  let column :=
    if crossed then 0
    else (Text.bytes ((before.reverse.takeWhile (· ≠ '\n')))).length + if e.atNext then 1 else 0
  e.fault.message ++ " at line ".toList ++ Text.ofNat line ++ " column ".toList
    ++ Text.ofNat column

end Misread

end Json

end AppBundle
