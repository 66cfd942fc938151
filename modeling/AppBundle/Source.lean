import AppBundle.Path
import AppBundle.Text.CharClass

/-!
# Sources

A source is code, string literals and comments. It names the modules that it imports, and it is an
ES module or a CommonJS script.
-/

namespace AppBundle

namespace Source

/-! ## Comments

Stripping a source leaves code and literals as they are, nothing of a line comment but the line feed
that ends it, and of a block comment its line feeds and one space. What looks like a comment inside
a literal is part of the literal. -/

/-- What the next character of a source belongs to. -/
inductive Context where
  | code
  | literal (quote : Char)
  /-- After a backslash in a literal. -/
  | escape (quote : Char)
  | lineComment
  /-- In a block comment, after a `*` or not. -/
  | blockComment (afterStar : Bool)
deriving DecidableEq, Repr

def isQuote (c : Char) : Bool := c = '\x27' || c = '\x22' || c = '\x60'

/-- A literal ends at its own quote, and one that is no template at the end of its line. -/
def closes (quote c : Char) : Bool := c = quote || (c = '\n' && quote ≠ '\x60')

/-- The source from a given context on, without comments. -/
def strip : Context → Text → Text
  | .blockComment _, [] => [' ']
  | _, [] => []
  | .code, '/' :: '/' :: cs => strip .lineComment cs
  | .code, '/' :: '*' :: cs => strip (.blockComment false) cs
  | .code, c :: cs => c :: strip (if isQuote c then .literal c else .code) cs
  | .literal q, '\\' :: cs => '\\' :: strip (.escape q) cs
  | .literal q, c :: cs => c :: strip (if closes q c then .code else .literal q) cs
  | .escape q, c :: cs => c :: strip (.literal q) cs
  | .lineComment, c :: cs => if c = '\n' then c :: strip .code cs else strip .lineComment cs
  | .blockComment afterStar, c :: cs =>
    if c = '\n' then c :: strip (.blockComment false) cs
    else if afterStar ∧ c = '/' then ' ' :: strip .code cs
    else strip (.blockComment (c = '*')) cs

/-- The source without its comments. -/
def stripComments (source : Text) : Text := strip .code source

/-! ## Specifiers

After `from`, after `import`, and as the only argument of `import(…)` and `require(…)` a source
names modules literally. The words count only where no word runs into them, and the source is read
without its comments, from left to right, each character for one import at most. -/

def skipBlanks (t : Text) : Text := t.dropWhile CharClass.isBlank

def isStringQuote (c : Char) : Bool := c = '\x27' || c = '\x22'

/-- A character that may stand in a specifier. -/
def isSpecifierChar (c : Char) : Bool := !isStringQuote c && c ≠ '\n'

/-- A quoted specifier after blanks, and what follows it. -/
def quotedSpecifier? (t : Text) : Option (Text × Text) :=
  match skipBlanks t with
  | [] => none
  | opening :: cs =>
    let specifier := cs.takeWhile isSpecifierChar
    match cs.dropWhile isSpecifierChar with
    | [] => none
    | closing :: rest =>
      if isStringQuote opening ∧ isStringQuote closing ∧ specifier ≠ [] then some (specifier, rest)
      else none

/-- A specifier in parentheses after blanks, and what follows them. -/
def calledSpecifier? (t : Text) : Option (Text × Text) :=
  match skipBlanks t with
  | '(' :: cs =>
    match quotedSpecifier? cs with
    | some (specifier, rest) =>
      match skipBlanks rest with
      | ')' :: rest => some (specifier, rest)
      | _ => none
    | none => none
  | _ => none

/-- An import at the very start of a text: its specifier and what follows. -/
def importHere? (t : Text) : Option (Text × Text) :=
  match t.after? "from".toList with
  | some rest => quotedSpecifier? rest
  | none =>
    match t.after? "import".toList with
    | some rest => (quotedSpecifier? rest).or (calledSpecifier? rest)
    | none =>
      match t.after? "require".toList with
      | some rest => calledSpecifier? rest
      | none => none

theorem length_skipBlanks_le (t : Text) : (skipBlanks t).length ≤ t.length :=
  (List.dropWhile_sublist _).length_le

theorem length_of_quotedSpecifier? {t specifier rest : Text}
    (h : quotedSpecifier? t = some (specifier, rest)) : rest.length < t.length := by
  unfold quotedSpecifier? at h
  have h₁ := length_skipBlanks_le t
  split at h
  · simp at h
  · rename_i opening cs hb
    have h₂ : (cs.dropWhile isSpecifierChar).length ≤ cs.length :=
      (List.dropWhile_sublist _).length_le
    simp only at h
    split at h
    · simp at h
    · rename_i closing rest' hd
      split at h
      · simp only [Option.some.injEq, Prod.mk.injEq] at h
        rw [hb] at h₁; rw [hd] at h₂; simp at h₁ h₂; rw [← h.2]; omega
      · simp at h

theorem length_of_calledSpecifier? {t specifier rest : Text}
    (h : calledSpecifier? t = some (specifier, rest)) : rest.length < t.length := by
  unfold calledSpecifier? at h
  have h₁ := length_skipBlanks_le t
  split at h
  · rename_i cs hb
    rw [hb] at h₁
    split at h
    · rename_i s rest' hq
      have h₂ := length_of_quotedSpecifier? hq
      have h₃ := length_skipBlanks_le rest'
      split at h
      · rename_i rest'' hr
        simp only [Option.some.injEq, Prod.mk.injEq] at h
        rw [hr] at h₃; simp at h₁ h₃; rw [← h.2]; omega
      · simp at h
    · simp at h
  · simp at h

theorem length_of_importHere? {t specifier rest : Text}
    (h : importHere? t = some (specifier, rest)) : rest.length < t.length := by
  unfold importHere? at h
  split at h
  · rename_i rest' ha
    have h₁ := length_of_quotedSpecifier? h
    rw [Text.eq_append_of_after? ha]; simp; omega
  · split at h
    · rename_i rest' ha
      rw [Text.eq_append_of_after? ha]
      rcases Option.or_eq_some_iff.1 h with h | ⟨-, h⟩
      · have h₁ := length_of_quotedSpecifier? h; simp; omega
      · have h₁ := length_of_calledSpecifier? h; simp; omega
    · split at h
      · rename_i rest' ha
        have h₁ := length_of_calledSpecifier? h
        rw [Text.eq_append_of_after? ha]; simp; omega
      · simp at h

/-- An import at the start of a text that follows a word character or not. -/
def importAfter? (afterWord : Bool) (t : Text) : Option (Text × Text) :=
  if afterWord then none else importHere? t

theorem length_of_importAfter? {afterWord : Bool} {t specifier rest : Text}
    (h : importAfter? afterWord t = some (specifier, rest)) : rest.length < t.length := by
  unfold importAfter? at h
  split at h
  · simp at h
  · exact length_of_importHere? h

/-- The specifiers of a text without comments that follows a word character or not. -/
def specifiersFrom (afterWord : Bool) (t : Text) : List Text :=
  match h : importAfter? afterWord t with
  | some (specifier, rest) =>
    have := length_of_importAfter? h
    specifier :: specifiersFrom false rest
  | none =>
    match t with
    | [] => []
    | c :: cs => specifiersFrom (CharClass.isWord c) cs
termination_by t.length

/-- The specifiers of a source, in order. -/
def specifiers (source : Text) : List Text := specifiersFrom false (stripComments source)

end Source

/-! ## Dialects

Some extensions decide; with others a module is told by a line that starts with an `import` or
`export` statement. -/

/-- How a source imports other files. -/
inductive Dialect where
  | esModule
  | commonJs
deriving DecidableEq, Repr

namespace Source

/-- The words that make a declaration after `export`. -/
def exportedWords : List Text :=
  ["default", "const", "let", "var", "function", "async", "class", "type", "interface",
    "enum"].map String.toList

/-- The text opens with the word, and no word character follows it. -/
def opensWithWord (t word : Text) : Bool :=
  match t.after? word with
  | some rest => !(rest.head?.any CharClass.isWord)
  | none => false

/-- What may follow `import` in a statement of a module. -/
def continuesImport (t : Text) : Bool :=
  match skipBlanks t with
  | [] => false
  | c :: cs =>
    c = '\x7b' || c = '*' || isStringQuote c
      || (c :: cs ≠ t && (CharClass.isWord c || c = '$'))

/-- What may follow `export` in a statement of a module. -/
def continuesExport (t : Text) : Bool :=
  match skipBlanks t with
  | [] => false
  | c :: cs =>
    c = '\x7b' || c = '*' || (c :: cs ≠ t && exportedWords.any (opensWithWord (c :: cs)))

/-- The line starts with a statement that only a module has. -/
def isModuleLine (line : Text) : Bool :=
  let t := skipBlanks line
  (t.after? "import".toList).any continuesImport || (t.after? "export".toList).any continuesExport

/-- The source has a line that only a module has. -/
def hasModuleLine (source : Text) : Bool := (stripComments source).lines.any isModuleLine

/-- The dialect of a file: of its text, if it is one, where the extension leaves both open. -/
def dialectOf (mixedModules : Bool) (path : Path) (text? : Option Text) : Dialect :=
  match path.extension with
  | none => .commonJs
  | some ext =>
    if ext ∈ ["mjs".toList, "mts".toList] then .esModule
    else if mixedModules ∧ ext ∈ ["js".toList, "jsx".toList, "ts".toList, "tsx".toList] then
      if text?.any hasModuleLine then .esModule else .commonJs
    else .commonJs

end Source

end AppBundle
