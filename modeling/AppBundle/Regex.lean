import AppBundle.Regex.CharSet

/-!
# Regular expressions

An expression is matched from a spot of a text, which is what stands before it and what remains.
`Regex.ends` lists the spots where a match from there may end, so repetitions of any kind need no
backtracking: each expression has at most as many ends as the text has positions.
-/

namespace AppBundle

/-! ## Matching -/

/-- A condition on the spot between two characters. -/
inductive Look where
  | textStart
  | textEnd
  | lineStart
  | lineEnd
  /-- Line starts and ends where a carriage return ends a line too. -/
  | lineStartCrlf
  | lineEndCrlf
  | wordEdge (unicode : Bool)
  | noWordEdge (unicode : Bool)
  | wordStart (unicode : Bool)
  | wordEnd (unicode : Bool)
  /-- No word character before. -/
  | wordStartHalf (unicode : Bool)
  /-- No word character after. -/
  | wordEndHalf (unicode : Bool)
deriving DecidableEq, Repr

/-- A regular expression. -/
inductive Regex where
  | empty
  | oneOf (set : CharSet)
  | look (l : Look)
  | seq (r s : Regex)
  | alt (r s : Regex)
  /-- At least `least` times in a row, and at most `most` times if that is given. -/
  | rep (r : Regex) (least : Nat) (most : Option Nat)
deriving Repr

/-- A place in a text: the character before it, if any, and what remains. -/
structure Spot where
  before : Option Char
  rest : Text
deriving DecidableEq, Repr

namespace Look

def isWordChar (unicode : Bool) (c : Char) : Bool := (CharSet.wordChars unicode).mem c.toNat

/-- The condition holds at the spot. -/
def holds (l : Look) (s : Spot) : Bool :=
  let after := s.rest.head?
  let wordBefore (unicode : Bool) := s.before.any (isWordChar unicode)
  let wordAfter (unicode : Bool) := after.any (isWordChar unicode)
  match l with
  | textStart => s.before.isNone
  | textEnd => after.isNone
  | lineStart => s.before.isNone || s.before = some '\n'
  | lineEnd => after.isNone || after = some '\n'
  | lineStartCrlf =>
    s.before.isNone || s.before = some '\n' || (s.before = some '\r' && after ≠ some '\n')
  | lineEndCrlf =>
    after.isNone || after = some '\r' || (after = some '\n' && s.before ≠ some '\r')
  | wordEdge unicode => wordBefore unicode != wordAfter unicode
  | noWordEdge unicode => wordBefore unicode == wordAfter unicode
  | wordStart unicode => !wordBefore unicode && wordAfter unicode
  | wordEnd unicode => wordBefore unicode && !wordAfter unicode
  | wordStartHalf unicode => !wordBefore unicode
  | wordEndHalf unicode => !wordAfter unicode

end Look

namespace Regex

/-- Spots are listed by what remains, longest first. -/
def spotSize (s : Spot) : Nat := s.rest.length

/-- The spots after exactly `n` steps from any of the given ones; once a step changes nothing, no
other does. -/
def exactly (next : Spot → List Spot) : Nat → List Spot → List Spot
  | 0, spots => spots
  | n + 1, spots =>
    let more := Rests.flatMap spotSize next spots
    if more = spots then spots else exactly next n more

/-- The spots after at most `n` steps from any of the given ones. -/
def atMost (next : Spot → List Spot) : Nat → List Spot → List Spot
  | 0, spots => spots
  | n + 1, spots =>
    let more := Rests.union spotSize spots (Rests.flatMap spotSize next spots)
    if more = spots then spots else atMost next n more

/-- The spots where a match from the given one may end. Steps beyond the number of positions of
the text lead nowhere new. -/
def ends : Regex → Spot → List Spot
  | empty, s => [s]
  | oneOf set, s =>
    match s.rest with
    | [] => []
    | c :: cs => if set.mem c.toNat then [⟨some c, cs⟩] else []
  | look l, s => if l.holds s then [s] else []
  | seq r₁ r₂, s => Rests.flatMap spotSize r₂.ends (r₁.ends s)
  | alt r₁ r₂, s => Rests.union spotSize (r₁.ends s) (r₂.ends s)
  | rep r least most, s =>
    let first := exactly r.ends least [s]
    let positions := s.rest.length + 1
    match most with
    | none => atMost r.ends positions first
    | some most => atMost r.ends (min (most - least) positions) first

/-- A match starts at some spot from the given one on. -/
def matchesFrom (r : Regex) : (before : Option Char) → Text → Bool
  | before, [] => r.ends ⟨before, []⟩ ≠ []
  | before, c :: cs => r.ends ⟨before, c :: cs⟩ ≠ [] || matchesFrom r (some c) cs

/-- The expression matches somewhere in the text. -/
def isMatch (r : Regex) (t : Text) : Bool := r.matchesFrom none t

end Regex

/-! ## Faults -/

/-- Why a text is no regular expression. -/
inductive RegexFault where
  | unopenedGroup
  | unclosedGroup
  | unclosedClass
  | descendingRange
  | noRangeBound
  | nothingToRepeat
  | badRepetition
  | badEscape
  | badGroupName
  | repeatedGroupName (name : Text)
  | badFlags
  | lookAround
  | unknownProperty
  /-- Outside Unicode mode only ASCII can be told from the bytes of longer characters. -/
  | notAscii
  | nestedTooDeep
  | tooLarge
deriving DecidableEq, Repr

namespace RegexFault

def message : RegexFault → Text
  | unopenedGroup => "unopened group".toList
  | unclosedGroup => "unclosed group".toList
  | unclosedClass => "unclosed character class".toList
  | descendingRange => "invalid character class range".toList
  | noRangeBound => "a range needs a character at either end".toList
  | nothingToRepeat => "repetition operator missing expression".toList
  | badRepetition => "invalid repetition".toList
  | badEscape => "unrecognized escape sequence".toList
  | badGroupName => "invalid capture group name".toList
  | repeatedGroupName name => "duplicate capture group name ".toList ++ name
  | badFlags => "invalid flags".toList
  | lookAround => "look-around is not supported".toList
  | unknownProperty => "Unicode property not found".toList
  | notAscii => "pattern can match invalid UTF-8".toList
  | nestedTooDeep => "nested too deep".toList
  | tooLarge => "compiled expression is too large".toList

end RegexFault

/-! ## Room

Counted repetitions are spelled out before an expression is matched. What is spelled out takes
room, here estimated in bytes, and an expression that takes too much is refused. Repeating what is
empty anyway takes no more room than having it once. -/

namespace CharSet

/-- The room of a set: the more ranges it has, the more. -/
def room : CharSet → Nat
  | range lo hi => if hi < 128 then 40 else if lo = hi then 96 else 160
  | table rows => 63 * rows.length
  | union a b | diff a b | symmDiff a b => a.room + b.room
  | inter a b => min a.room b.room
  | compl a => a.room + 960
  | folded _ a => 2 * a.room

end CharSet

namespace Regex

/-- The expression matches nothing but the empty text. -/
def isEmptyOnly : Regex → Bool
  | empty | look _ => true
  | oneOf _ => false
  | seq r s | alt r s => r.isEmptyOnly && s.isEmptyOnly
  | rep r _ most => r.isEmptyOnly || most = some 0

/-- The room of an expression. -/
def room : Regex → Nat
  | empty | look _ => 32
  | oneOf set => set.room
  | seq r s => r.room + s.room
  | alt r s => r.room + s.room + 72
  | rep r least most =>
    let copies (n : Nat) : Nat := if r.isEmptyOnly then min n 1 else n
    match most with
    | none => copies (max least 1) * r.room + 72
    | some most => copies most * r.room + (copies most - copies least) * 40 + 32

/-- The most room that an expression may take. -/
def roomLimit : Nat := 10 * 1024 * 1024

end Regex

end AppBundle
