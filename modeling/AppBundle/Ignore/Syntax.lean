import AppBundle.Ignore.Glob

/-!
# Reading globs

`*`, `?`, `[…]`, `{…,…}` and `\` are special. A bracket that is never closed stands for itself, as
do all later ones; braces have to balance, and a range of characters has to ascend.
-/

namespace AppBundle

namespace Glob

/-- Why a text is no glob. -/
inductive SyntaxError where
  | descendingRange (lo hi : Char)
  | unopenedChoice
  | unclosedChoice
  | danglingEscape
deriving DecidableEq, Repr

namespace SyntaxError

def message : SyntaxError → Text
  | descendingRange lo hi =>
    "invalid range; '".toList ++ lo :: "' > '".toList ++ hi :: "'".toList
  | unopenedChoice =>
    "unopened alternate group; missing '\x7b' (maybe escape '\x7d' with '[\x7d]'?)".toList
  | unclosedChoice =>
    "unclosed alternate group; missing '\x7d' (maybe escape '\x7b' with '[\x7b]'?)".toList
  | danglingEscape => "dangling '\\'".toList

end SyntaxError

/-- What a bracket opens. -/
inductive ClassBody where
  | closed (ranges : List (Char × Char)) (rest : Text)
  | unclosed
  | descending (lo hi : Char)

/-- Reads the members of a class, the ranges so far with the last one first. A `]` or `-` that
comes first stands for itself, and so does a `-` that comes last. -/
def readMembers : (first inRange : Bool) → List (Char × Char) → Text → ClassBody
  | _, _, _, [] => .unclosed
  | first, inRange, ranges, c :: cs =>
    if c = ']' ∧ first = false then
      .closed ((if inRange then ('-', '-') :: ranges else ranges).reverse) cs
    else if c = '-' ∧ first = false ∧ inRange = false then readMembers false true ranges cs
    else if inRange ∧ c ≠ ']' then
      match ranges with
      | (lo, _) :: others =>
        if c < lo then .descending lo c else readMembers false false ((lo, c) :: others) cs
      | [] => readMembers false false [(c, c)] cs
    else readMembers false inRange ((c, c) :: ranges) cs

/-- Reads a class after its opening bracket. -/
def readClass (cs : Text) : Bool × ClassBody :=
  match cs with
  | '!' :: cs | '^' :: cs => (true, readMembers true false [] cs)
  | cs => (false, readMembers true false [] cs)

theorem length_of_readMembers {first inRange : Bool} {ranges out : List (Char × Char)}
    {cs rest : Text} (h : readMembers first inRange ranges cs = .closed out rest) :
    rest.length < cs.length := by
  induction cs generalizing first inRange ranges with
  | nil => simp [readMembers] at h
  | cons c cs ih =>
    simp only [readMembers] at h
    split at h
    · injection h with _ h; simp [h]
    · split at h
      · have := ih h; simp; omega
      · split at h
        · split at h
          · split at h
            · simp at h
            · have := ih h; simp; omega
          · have := ih h; simp; omega
        · have := ih h; simp; omega

theorem length_of_readClass {negated : Bool} {ranges : List (Char × Char)} {cs rest : Text}
    (h : readClass cs = (negated, .closed ranges rest)) : rest.length < cs.length := by
  unfold readClass at h
  split at h
  · injection h with _ h; have := length_of_readMembers h; simp; omega
  · injection h with _ h; have := length_of_readMembers h; simp; omega
  · injection h with _ h; exact length_of_readMembers h

/-- A glob read so far: the parts of the innermost open branch, last one first, and for each open
choice its finished branches and the parts before it. -/
structure Draft where
  parts : List Token := []
  opened : List (List (List Token) × List Token) := []
  brackets : Bool := true

namespace Draft

def push (d : Draft) (t : Token) : Draft := { d with parts := t :: d.parts }

/-- Two stars that are no directory wildcard. -/
def pushStars (d : Draft) : Draft := (d.push .star).push .star

/-- The directory wildcard in place of the slash before it, unless one stands there. -/
def pushDirs (d : Draft) (t : Token) : Draft :=
  match d.parts with
  | .dirsBefore :: _ | .everythingBelow :: _ => d
  | _ :: before => { d with parts := t :: before }
  | [] => d.push t

def openChoice (d : Draft) : Draft := { d with parts := [], opened := ([], d.parts) :: d.opened }

/-- A comma: the next branch of the innermost choice, or itself outside of choices. -/
def nextBranch (d : Draft) : Draft :=
  match d.opened with
  | [] => d.push (.literal ',')
  | (branches, before) :: outer =>
    { d with parts := [], opened := (d.parts.reverse :: branches, before) :: outer }

def closeChoice (d : Draft) : Except SyntaxError Draft :=
  match d.opened with
  | [] => .error .unopenedChoice
  | (branches, before) :: outer =>
    .ok { d with
      parts := .choice (d.parts.reverse :: branches).reverse :: before
      opened := outer }

end Draft

/-- Reads two stars: what they are, whether a slash after them belongs to them, and whether that
slash is there. `last` is the character before them. -/
def readStars (d : Draft) (last : Option Char) (after : Text) : Draft × Bool :=
  if d.parts.isEmpty then
    match after with
    | [] => (d.push .dirsBefore, false)
    | '/' :: _ => (d.push .dirsBefore, true)
    | _ => (d.pushStars, false)
  else if last ≠ some '/' ∧ (d.opened.isEmpty ∨ (last ≠ some ',' ∧ last ≠ some '\x7b')) then
    (d.pushStars, false)
  else
    match after with
    | [] => (d.pushDirs .everythingBelow, false)
    | '/' :: _ => (d.pushDirs .dirsBetween, true)
    | c :: _ =>
      if !d.opened.isEmpty && (c = ',' || c = '\x7d') then (d.pushDirs .everythingBelow, false)
      else (d.pushStars, false)

/-- Reads the characters of a glob after `last`. -/
def readParts (d : Draft) (last : Option Char) (cs : Text) : Except SyntaxError Draft :=
  match cs with
  | [] => .ok d
  | '?' :: cs => readParts (d.push .any) (some '?') cs
  | '*' :: '*' :: cs =>
    match readStars d last cs with
    | (d, true) => readParts d (some '/') (cs.drop 1)
    | (d, false) => readParts d (some '*') cs
  | '*' :: cs => readParts (d.push .star) (some '*') cs
  | '[' :: cs =>
    if d.brackets then
      match _ : readClass cs with
      | (negated, .closed ranges rest) => readParts (d.push (.oneOf negated ranges)) (some ']') rest
      | (_, .unclosed) => readParts { d.push (.literal '[') with brackets := false } (some '[') cs
      | (_, .descending lo hi) => .error (.descendingRange lo hi)
    else readParts (d.push (.literal '[')) (some '[') cs
  | '\x7b' :: cs => readParts d.openChoice (some '\x7b') cs
  | '\x7d' :: cs =>
    match d.closeChoice with
    | .ok d => readParts d (some '\x7d') cs
    | .error e => .error e
  | ',' :: cs => readParts d.nextBranch (some ',') cs
  | ['\\'] => .error .danglingEscape
  | '\\' :: c :: cs => readParts (d.push (.literal c)) (some c) cs
  | c :: cs => readParts (d.push (.literal c)) (some c) cs
termination_by cs.length
decreasing_by
  all_goals simp only [List.length_cons, List.length_drop]
  all_goals first
    | omega
    | exact Nat.lt_succ_of_lt (length_of_readClass ‹readClass _ = _›)

/-- The parts of a glob. -/
def parse (cs : Text) : Except SyntaxError (List Token) := do
  let d ← readParts {} none cs
  if d.opened.isEmpty then .ok d.parts.reverse else .error .unclosedChoice

end Glob

end AppBundle
