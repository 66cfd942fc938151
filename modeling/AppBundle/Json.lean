import AppBundle.Text

/-!
# JSON values

The members of an object keep their order, and no key is given twice: a member that repeats a key
replaces the value where the key stands already (`setMember`).
-/

namespace AppBundle

/-- A JSON value; a number is kept as it is written. -/
inductive Json where
  | null
  | bool (b : Bool)
  | number (digits : Text)
  | string (t : Text)
  | array (items : List Json)
  | object (members : List (Text × Json))
deriving Inhabited

namespace Json

/-- The value of a member. -/
def member? (key : Text) : Json → Option Json
  | object members => members.lookup key
  | _ => none

/-- The text of a string. -/
def string? : Json → Option Text
  | string t => some t
  | _ => none

/-- Sets a member, where its key stands or else at the end. -/
def setMember (key : Text) (value : Json) : List (Text × Json) → List (Text × Json)
  | [] => [(key, value)]
  | (k, v) :: rest => if k = key then (k, value) :: rest else (k, v) :: setMember key value rest

/-- The number of a natural number. -/
def nat (n : Nat) : Json := number (Text.ofNat n)

/-- What is set is found under its key, and nothing else is changed. -/
theorem lookup_setMember (key key' : Text) (value : Json) (members : List (Text × Json)) :
    (setMember key value members).lookup key'
      = if key' = key then some value else members.lookup key' := by
  induction members with
  | nil => simp only [setMember, List.lookup_cons, List.lookup_nil]; grind
  | cons m rest ih =>
    obtain ⟨k, v⟩ := m
    simp only [setMember]
    split
    · rename_i h; subst h; simp only [List.lookup_cons]; grind
    · simp only [List.lookup_cons, ih]; grind

/-! ## Printing

Values are printed over several lines: each item and each member on a line of its own, two spaces
deeper than what holds it, and empty arrays and objects as `[]` and `\x7b\x7d`. Of the characters
in a string only quotes, backslashes and control characters are escaped. -/

/-- The four lower-case hexadecimal digits of a code unit. -/
def hexUnit (n : Nat) : Text :=
  [4096, 256, 16, 1].map fun weight => Nat.digitChar (n / weight % 16)

/-- The written form of a character in a string. -/
def escapeChar (c : Char) : Text :=
  if c = '\x22' then ['\\', '\x22']
  else if c = '\\' then ['\\', '\\']
  else if c = '\x08' then ['\\', 'b']
  else if c = '\t' then ['\\', 't']
  else if c = '\n' then ['\\', 'n']
  else if c = '\x0c' then ['\\', 'f']
  else if c = '\r' then ['\\', 'r']
  else if c.toNat < 32 then '\\' :: 'u' :: hexUnit c.toNat
  else [c]

/-- The written form of a string. -/
def quote (t : Text) : Text := '\x22' :: t.flatMap escapeChar ++ ['\x22']

/-- A new line at a depth of nesting. -/
def newLine (depth : Nat) : Text := '\n' :: List.replicate (2 * depth) ' '

mutual

/-- The written form of a value at a depth of nesting. -/
def printAt (depth : Nat) : Json → Text
  | .null => "null".toList
  | .bool b => if b then "true".toList else "false".toList
  | .number digits => digits
  | .string t => quote t
  | .array [] => "[]".toList
  | .array (v :: vs) =>
    '[' :: newLine (depth + 1) ++ printAt (depth + 1) v ++ printItems (depth + 1) vs
      ++ newLine depth ++ [']']
  | .object [] => "\x7b\x7d".toList
  | .object ((k, v) :: rest) =>
    '\x7b' :: newLine (depth + 1) ++ quote k ++ ": ".toList ++ printAt (depth + 1) v
      ++ printMembers (depth + 1) rest ++ newLine depth ++ ['\x7d']

def printItems (depth : Nat) : List Json → Text
  | [] => []
  | v :: vs => ',' :: newLine depth ++ printAt depth v ++ printItems depth vs

def printMembers (depth : Nat) : List (Text × Json) → Text
  | [] => []
  | (k, v) :: rest =>
    ',' :: newLine depth ++ quote k ++ ": ".toList ++ printAt depth v ++ printMembers depth rest

end

/-- The written form of a value. -/
def print (v : Json) : Text := printAt 0 v

end Json

end AppBundle
