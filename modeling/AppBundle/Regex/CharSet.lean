import AppBundle.Text.CaseFold
import AppBundle.Text.CharClass

/-!
# Sets of characters

A set of code points is written as it is put together: from ranges and tables, by the operations on
sets, and by adding whatever differs from a member in case only. Membership follows the writing.
-/

namespace AppBundle

/-- A set of code points. -/
inductive CharSet where
  | range (lo hi : Nat)
  | table (rows : List (Nat × Nat))
  | union (a b : CharSet)
  | inter (a b : CharSet)
  | diff (a b : CharSet)
  | symmDiff (a b : CharSet)
  | compl (a : CharSet)
  /-- With all that differs from a member in case only; among ASCII letters or among all. -/
  | folded (ascii : Bool) (a : CharSet)
deriving DecidableEq, Repr

namespace CharSet

def none : CharSet := table []

def single (c : Char) : CharSet := range c.toNat c.toNat

/-- The code points that an ASCII letter differs from in case only, and itself. -/
def asciiVariants (n : Nat) : List Nat :=
  if 65 ≤ n ∧ n ≤ 90 then [n, n + 32] else if 97 ≤ n ∧ n ≤ 122 then [n, n - 32] else [n]

/-- Membership of a code point. -/
def mem : CharSet → Nat → Bool
  | range lo hi, n => lo ≤ n && n ≤ hi
  | table rows, n => CharClass.within rows n
  | union a b, n => a.mem n || b.mem n
  | inter a b, n => a.mem n && b.mem n
  | diff a b, n => a.mem n && !b.mem n
  | symmDiff a b, n => a.mem n != b.mem n
  | compl a, n => !a.mem n
  | folded true a, n => (asciiVariants n).any a.mem
  | folded false a, n => (CaseFold.variants n).any a.mem

/-- No byte above ASCII is in the set. -/
def isAscii (s : CharSet) : Bool := !((List.range 128).any fun n => s.mem (n + 128))

/-- The union of sets. -/
def ofList : List CharSet → CharSet
  | [] => none
  | [s] => s
  | s :: rest => union s (ofList rest)

def digits (unicode : Bool) : CharSet :=
  if unicode then table CharClass.digitRanges else range 48 57

def blanks (unicode : Bool) : CharSet :=
  if unicode then table CharClass.blankRanges else table [(9, 13), (32, 32)]

def wordChars (unicode : Bool) : CharSet :=
  if unicode then table CharClass.wordRanges
  else table [(48, 57), (65, 90), (95, 95), (97, 122)]

/-- The named classes of ASCII characters. -/
def named? (name : Text) : Option CharSet :=
  match String.ofList name with
  | "alnum" => some (table [(48, 57), (65, 90), (97, 122)])
  | "alpha" => some (table [(65, 90), (97, 122)])
  | "ascii" => some (range 0 127)
  | "blank" => some (table [(9, 9), (32, 32)])
  | "cntrl" => some (table [(0, 31), (127, 127)])
  | "digit" => some (range 48 57)
  | "graph" => some (range 33 126)
  | "lower" => some (range 97 122)
  | "print" => some (range 32 126)
  | "punct" => some (table [(33, 47), (58, 64), (91, 96), (123, 126)])
  | "space" => some (table [(9, 13), (32, 32)])
  | "upper" => some (range 65 90)
  | "word" => some (table [(48, 57), (65, 90), (95, 95), (97, 122)])
  | "xdigit" => some (table [(48, 57), (65, 70), (97, 102)])
  | _ => Option.none

end CharSet

end AppBundle
