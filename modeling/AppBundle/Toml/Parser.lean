import AppBundle.Toml.Number

/-!
# Reading TOML

A document is read line by line: headers, keys with values, comments and blank lines. Strings may
hold no control characters but tabs, and values and dotted keys may not nest too deep.
-/

namespace AppBundle

namespace Toml

/-- Values nest less than this deep, and dotted keys have less parts. -/
def depthLimit : Nat := 80

def isWhite (c : Char) : Bool := c = ' ' || c = '\t'

def skipWhite (t : Text) : Text := t.dropWhile isWhite

/-- A character that may stand in a comment or a string. -/
def isPlain (c : Char) : Bool := c = '\t' || (32 ≤ c.toNat && c.toNat ≠ 127)

/-- What follows a line end. -/
def afterNewline? : Text → Option Text
  | '\n' :: cs => some cs
  | '\r' :: '\n' :: cs => some cs
  | _ => none

/-- What follows a comment, if there is one. -/
def skipComment : Text → Text
  | '#' :: cs => cs.dropWhile isPlain
  | cs => cs

/-- The next line, if nothing but a comment is left of this one. -/
def nextLine? (t : Text) : Option Text :=
  match skipComment (skipWhite t) with
  | [] => some []
  | cs => afterNewline? cs

/-- Drops blanks, comments and line ends. -/
def skipLines : (steps : Nat) → Text → Text
  | 0, t => t
  | steps + 1, t =>
    match skipWhite t with
    | '#' :: cs =>
      match afterNewline? (cs.dropWhile isPlain) with
      | some cs => skipLines steps cs
      | none => '#' :: cs
    | cs =>
      match afterNewline? cs with
      | some cs => skipLines steps cs
      | none => cs

/-- The character of a code point given by a number of hexadecimal digits. -/
def readCodePoint (count : Nat) (t : Text) : Option (Char × Text) :=
  let digits := t.take count
  let n := valueOf 16 digits
  if digits.length = count ∧ digits.all isHexDigit ∧ n.isValidChar then
    some (Char.ofNat n, t.drop count)
  else none

/-- The character of an escape after its backslash. -/
def readEscape : Text → Option (Char × Text)
  | 'b' :: cs => some ('\x08', cs)
  | 't' :: cs => some ('\t', cs)
  | 'n' :: cs => some ('\n', cs)
  | 'f' :: cs => some ('\x0c', cs)
  | 'r' :: cs => some ('\r', cs)
  | '\x22' :: cs => some ('\x22', cs)
  | '\\' :: cs => some ('\\', cs)
  | 'u' :: cs => readCodePoint 4 cs
  | 'U' :: cs => readCodePoint 8 cs
  | _ => none

/-- The rest of a string on one line, up to its quote. -/
def readString : (steps : Nat) → Text → Option (Text × Text)
  | 0, _ => none
  | steps + 1, t =>
    match t with
    | '\x22' :: cs => some ([], cs)
    | '\\' :: cs => do
      let (c, cs) ← readEscape cs
      let (text, rest) ← readString steps cs
      return (c :: text, rest)
    | c :: cs => do
      if !isPlain c then none
      let (text, rest) ← readString steps cs
      return (c :: text, rest)
    | [] => none

/-- The rest of a literal string on one line, up to its quote. -/
def readLiteral (t : Text) : Option (Text × Text) :=
  let isLiteralChar (c : Char) : Bool := isPlain c && c ≠ '\x27'
  match t.dropWhile isLiteralChar with
  | '\x27' :: rest => some (t.takeWhile isLiteralChar, rest)
  | _ => none

/-- Drops blanks and line ends. -/
def skipBlankLines : Text → Text
  | ' ' :: cs | '\t' :: cs | '\n' :: cs | '\r' :: '\n' :: cs => skipBlankLines cs
  | cs => cs

/-- What follows a backslash that hides a line end and the blanks after it. -/
def afterHiddenNewline? (t : Text) : Option Text :=
  (afterNewline? (skipWhite t)).map skipBlankLines

/-- What follows three quotes that end a string, and the quotes, two at most, that belong to it. -/
def readClosing (quote : Char) (t : Text) : Option (Text × Text) :=
  let count := min 5 (t.takeWhile (· = quote)).length
  if 3 ≤ count then some (List.replicate (count - 3) quote, t.drop count) else none

/-- The rest of a string over several lines. -/
def readLongString : (steps : Nat) → Text → Option (Text × Text)
  | 0, _ => none
  | steps + 1, t =>
    match t with
    | [] => none
    | '\x22' :: cs =>
      match readClosing '\x22' t with
      | some closing => some closing
      | none => do
        let (text, rest) ← readLongString steps cs
        return ('\x22' :: text, rest)
    | '\\' :: cs =>
      match afterHiddenNewline? cs with
      | some cs => readLongString steps cs
      | none => do
        let (c, cs) ← readEscape cs
        let (text, rest) ← readLongString steps cs
        return (c :: text, rest)
    | c :: cs =>
      match afterNewline? t with
      | some cs => do
        let (text, rest) ← readLongString steps cs
        return ('\n' :: text, rest)
      | none => do
        if !isPlain c then none
        let (text, rest) ← readLongString steps cs
        return (c :: text, rest)

/-- The rest of a literal string over several lines. -/
def readLongLiteral : (steps : Nat) → Text → Option (Text × Text)
  | 0, _ => none
  | steps + 1, t =>
    match t with
    | [] => none
    | c :: cs =>
      match readClosing '\x27' t, afterNewline? t with
      | some closing, _ => some closing
      | none, some cs => do
        let (text, rest) ← readLongLiteral steps cs
        return ('\n' :: text, rest)
      | none, none => do
        if !isPlain c then none
        let (text, rest) ← readLongLiteral steps cs
        return (c :: text, rest)

/-- A text without the line end it starts with. -/
def dropNewline (t : Text) : Text := (afterNewline? t).getD t

def isBareKeyChar (c : Char) : Bool := c.isAlphanum || c = '_' || c = '-'

/-- One part of a key. -/
def readKeyPart (t : Text) : Option (Text × Text) :=
  match t with
  | '\x22' :: cs => readString (cs.length + 1) cs
  | '\x27' :: cs => readLiteral cs
  | cs =>
    match cs.takeWhile isBareKeyChar with
    | [] => none
    | key => some (key, cs.dropWhile isBareKeyChar)

/-- The parts of a key, with points and blanks between them. -/
def readKeyParts : (steps : Nat) → Text → Option (List Text × Text)
  | 0, _ => none
  | steps + 1, t => do
    let (part, rest) ← readKeyPart (skipWhite t)
    match skipWhite rest with
    | '.' :: rest => do
      let (parts, rest) ← readKeyParts steps rest
      return (part :: parts, rest)
    | rest => return ([part], rest)

/-- A key, which has not too many parts. -/
def readKey (t : Text) : Option (List Text × Text) := do
  let (parts, rest) ← readKeyParts (t.length + 1) t
  if parts.length < depthLimit then return (parts, rest) else none

mutual

/-- A value; `depth` counts the arrays and tables around it. -/
def readValue : (steps depth : Nat) → Text → Option (Item × Text)
  | 0, _, _ => none
  | steps + 1, depth, t =>
    let ofText (read : Option (Text × Text)) : Option (Item × Text) :=
      read.map fun (text, rest) => (.string text, rest)
    match t with
    | '\x22' :: '\x22' :: '\x22' :: cs => ofText (readLongString (cs.length + 1) (dropNewline cs))
    | '\x22' :: cs => ofText (readString (cs.length + 1) cs)
    | '\x27' :: '\x27' :: '\x27' :: cs => ofText (readLongLiteral (cs.length + 1) (dropNewline cs))
    | '\x27' :: cs => ofText (readLiteral cs)
    | '[' :: cs => do
      if depthLimit ≤ depth + 1 then none
      let (items, rest) ← readItems steps (depth + 1) cs
      return (.array items, rest)
    | '\x7b' :: cs =>
      if depthLimit ≤ depth + 1 then none
      else
        match skipWhite cs with
        | '\x7d' :: rest => some (.table .inline [], rest)
        | cs => do
          let (members, rest) ← readPairs steps (depth + 1) [] cs
          return (.table .inline members, rest)
    | cs => readBareValue cs

/-- The items of an array and its closing bracket. -/
def readItems : (steps depth : Nat) → Text → Option (List Item × Text)
  | 0, _, _ => none
  | steps + 1, depth, t =>
    match skipLines t.length t with
    | ']' :: rest => some ([], rest)
    | cs => do
      let (item, rest) ← readValue steps depth cs
      match skipLines rest.length rest with
      | ',' :: rest => do
        let (items, rest) ← readItems steps depth rest
        return (item :: items, rest)
      | ']' :: rest => return ([item], rest)
      | _ => none

/-- The members of a table in braces, after those read so far, and its closing brace. -/
def readPairs : (steps depth : Nat) → Members → Text → Option (Members × Text)
  | 0, _, _, _ => none
  | steps + 1, depth, members, t => do
    let (key, rest) ← readKey t
    match rest with
    | '=' :: rest => do
      let (item, rest) ← readValue steps depth (skipWhite rest)
      let members ← setKey key item .inline members
      match skipWhite rest with
      | ',' :: rest => readPairs steps depth members rest
      | '\x7d' :: rest => return (members, rest)
      | _ => none
    | _ => none

end

/-- Reads a document from the start of a line on, below the header read last. -/
def readLines : (steps : Nat) → (header : List Text) → Members → Text → Option Members
  | 0, _, _, _ => none
  | steps + 1, header, root, t =>
    match skipWhite t with
    | [] => some root
    | '#' :: cs => do readLines steps header root (← nextLine? ('#' :: cs))
    | '[' :: '[' :: cs => do
      let (key, rest) ← readKey cs
      let rest ← rest.after? [']', ']']
      readLines steps key (← openNextTable key root) (← nextLine? rest)
    | '[' :: cs => do
      let (key, rest) ← readKey cs
      let rest ← rest.after? [']']
      readLines steps key (← openTable key root) (← nextLine? rest)
    | cs =>
      match afterNewline? cs with
      | some cs => readLines steps header root cs
      | none => do
        let (key, rest) ← readKey cs
        let rest ← rest.after? ['=']
        let (item, rest) ← readValue (rest.length + 1) 0 (skipWhite rest)
        readLines steps header (← setUnder header key item root) (← nextLine? rest)

/-- Reads a document; a byte order mark in front is no part of it. -/
def read (t : Text) : Option Members :=
  let t := (t.after? ['\ufeff']).getD t
  readLines (t.length + 1) [] [] t

end Toml

end AppBundle
