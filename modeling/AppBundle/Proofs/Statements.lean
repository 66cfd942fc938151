import AppBundle.Proofs.Comments

/-!
# Statements that import

A source of statements that name modules literally, with blanks and comments between the tokens, is
read for exactly these modules, in their order (`specifiers_of_statements`).

Without its comments the source has the same tokens with blanks between them (`Laid.strip`), since
no token but a literal has a character that begins a literal or a comment. A word leads to an import
only if a quote or a parenthesis is what comes next, and in a clause that is never so, be the word
`from` or `import` itself (`Reads.word`).
-/

namespace AppBundle

namespace CharClass

theorem exists_of_within {n : Nat} : ∀ {ranges : List (Nat × Nat)}, within ranges n = true →
    ∃ r ∈ ranges, r.1 ≤ n ∧ n ≤ r.2
  | (lo, hi) :: rest, h => by
    simp only [within, Bool.and_eq_true, Bool.or_eq_true, decide_eq_true_eq] at h
    obtain ⟨hlo, hhi | hrest⟩ := h
    · exact ⟨(lo, hi), List.mem_cons_self, hlo, hhi⟩
    · obtain ⟨r, hr, hn⟩ := exists_of_within hrest
      exact ⟨r, List.mem_cons_of_mem _ hr, hn⟩

theorem isWord_of_isBlank {c : Char} (h : isBlank c = true) : isWord c = false := by
  have hall : ∀ r ∈ blankRanges, ∀ n ∈ List.range' r.1 (r.2 + 1 - r.1),
      within wordRanges n = false := by decide +kernel
  obtain ⟨r, hr, hlo, hhi⟩ := exists_of_within h
  exact hall r hr c.toNat (List.mem_range'_1.2 ⟨hlo, by omega⟩)

end CharClass

namespace Source

/-- What holds of the characters of a text is decided by going through the text. -/
local instance (priority := 2000) {P : Char → Prop} [DecidablePred P] (t : Text) :
    Decidable (∀ c ∈ t, P c) := List.decidableBAll P t

/-! ## Tokens -/

/-- The characters of the property `White_Space`. -/
def whitespace : List Char :=
  ['\t', '\n', '\x0b', '\x0c', '\r', ' ', '\u0085', '\u00a0', '\u1680', '\u2000', '\u2001',
    '\u2002', '\u2003', '\u2004', '\u2005', '\u2006', '\u2007', '\u2008', '\u2009', '\u200a',
    '\u2028', '\u2029', '\u202f', '\u205f', '\u3000']

theorem isBlank_iff {c : Char} : CharClass.isBlank c = true ↔ c ∈ whitespace := by
  have hblank : ∀ r ∈ CharClass.blankRanges, ∀ n ∈ List.range' r.1 (r.2 + 1 - r.1),
      Char.ofNat n ∈ whitespace := by decide +kernel
  have hwhite : ∀ c ∈ whitespace, CharClass.isBlank c = true := by decide +kernel
  refine ⟨fun h => ?_, hwhite c⟩
  obtain ⟨r, hr, hlo, hhi⟩ := CharClass.exists_of_within h
  have hmem := hblank r hr c.toNat (List.mem_range'_1.2 ⟨hlo, by omega⟩)
  rwa [Char.ofNat_toNat] at hmem

/-- The marks that may stand in a clause. -/
def clauseMarks : List Char := ['\x7b', '\x7d', ',', '*', '=']

def marks : List Char := clauseMarks ++ ['(', ')', ';']

/-- A character that may stand in a name: no blank, and none that a mark, literal or comment begins
with. -/
def isIdentifierChar (c : Char) : Bool := !(whitespace ++ marks ++ quotes ++ ['/']).contains c

structure Identifier where
  name : Text
  not_nil : name ≠ []
  chars : ∀ c ∈ name, isIdentifierChar c = true

/-- A literal that names a module, in single or double quotes; a template names none. -/
structure Literal where
  quote : Char
  text : Text
  isQuote : quote = '\x27' ∨ quote = '\x22'
  not_nil : text ≠ []
  chars : ∀ c ∈ text, c ≠ '\x27' ∧ c ≠ '\x22' ∧ c ≠ '\n' ∧ c ≠ '\\'

inductive Token where
  | word (i : Identifier)
  | mark (c : Char) (h : c ∈ marks)
  | literal (l : Literal)

namespace Token

def text : Token → Text
  | word i => i.name
  | mark c _ => [c]
  | literal l => l.quote :: (l.text ++ [l.quote])

def isWord : Token → Bool
  | word _ => true
  | mark _ _ | literal _ => false

/-- The token may stand in a clause. -/
def InClause : Token → Prop
  | word _ => True
  | mark c _ => c ∈ clauseMarks
  | literal _ => False

instance : DecidablePred InClause
  | word _ => isTrue trivial
  | mark c _ => inferInstanceAs (Decidable (c ∈ clauseMarks))
  | literal _ => isFalse not_false

def importWord : Token := word ⟨"import".toList, by decide, by decide⟩
def exportWord : Token := word ⟨"export".toList, by decide, by decide⟩
def fromWord : Token := word ⟨"from".toList, by decide, by decide⟩
def requireWord : Token := word ⟨"require".toList, by decide, by decide⟩
def equals : Token := mark '=' (by decide)
def opening : Token := mark '(' (by decide)
def closing : Token := mark ')' (by decide)
def semicolon : Token := mark ';' (by decide)

end Token

/-- What stands in a statement between its first word and `from`, or in front of an initializer or
a call. -/
structure Clause where
  tokens : List Token
  inClause : ∀ t ∈ tokens, t.InClause

/-- A statement that names a module. -/
inductive Statement where
  | importFrom (clause : Clause) (source : Literal)
  | exportFrom (clause : Clause) (source : Literal)
  | importOnly (source : Literal)
  | importCall (before : Clause) (source : Literal)
  | initializer (clause : Clause) (source : Literal)

namespace Statement

/-- The module that the statement names. -/
def specifier : Statement → Text
  | importFrom _ source | exportFrom _ source | importOnly source | importCall _ source
  | initializer _ source => source.text

def tokens : Statement → List Token
  | importFrom clause source => .importWord :: clause.tokens ++ [.fromWord, .literal source]
  | exportFrom clause source => .exportWord :: clause.tokens ++ [.fromWord, .literal source]
  | importOnly source => [.importWord, .literal source]
  | importCall before source =>
    before.tokens ++ [.importWord, .opening, .literal source, .closing]
  | initializer clause source =>
    clause.tokens ++ [.equals, .requireWord, .opening, .literal source, .closing]

end Statement

/-- The tokens of statements, a semicolon between neighbours, and one behind the last if it is
`ended`. -/
def tokensOf (ended : Bool) : List Statement → List Token
  | [] => []
  | [s] => s.tokens ++ if ended then [.semicolon] else []
  | s :: s' :: rest => s.tokens ++ .semicolon :: tokensOf ended (s' :: rest)

/-! ## Layouts -/

def AreBlanks (gap : Text) : Prop := ∀ c ∈ gap, CharClass.isBlank c = true

/-- Blanks, line comments with the line feed that ends them, and block comments. -/
inductive IsGap : Text → Prop
  | nil : IsGap []
  | blank {c : Char} {gap : Text} (hc : c ∈ whitespace) (h : IsGap gap) : IsGap (c :: gap)
  | lineComment {t gap : Text} (ht : '\n' ∉ t) (h : IsGap gap) :
      IsGap ('/' :: '/' :: t ++ '\n' :: gap)
  | blockComment {t gap : Text} (ht : ¬blockEnd <:+: t) (h : IsGap gap) :
      IsGap ('/' :: '*' :: (t ++ blockEnd) ++ gap)

/-- The text is the tokens with gaps before, between and behind them. A gap may be empty, but not
between two words. -/
inductive Laid (Gap : Text → Prop) : (afterWord : Bool) → List Token → Text → Prop
  | nil {afterWord : Bool} {gap : Text} (hgap : Gap gap) : Laid Gap afterWord [] gap
  | cons {afterWord : Bool} {gap rest : Text} {t : Token} {ts : List Token} (hgap : Gap gap)
      (hapart : afterWord = true → t.isWord = true → gap ≠ []) (h : Laid Gap t.isWord ts rest) :
      Laid Gap afterWord (t :: ts) (gap ++ (t.text ++ rest))

variable {source t u rest gap : Text} {afterWord : Bool} {ts : List Token}

/-! ## Without comments -/

theorem isIdentifierChar_iff {c : Char} : isIdentifierChar c = true
    ↔ CharClass.isBlank c = false ∧ c ∉ marks ∧ c ∉ quotes ∧ c ≠ '/' := by
  rw [← Bool.not_eq_true (CharClass.isBlank c), isBlank_iff]
  simp [isIdentifierChar]

/-- What begins no literal and no comment is left as it is. -/
theorem strip_plain (ht : ∀ c ∈ t, c ∉ quotes ∧ c ≠ '/') (rest : Text) :
    stripComments (t ++ rest) = t ++ stripComments rest := by
  induction t with
  | nil => rfl
  | cons c t ih =>
    obtain ⟨⟨hquote, hslash⟩, ht⟩ := List.forall_mem_cons.1 ht
    rw [List.cons_append, List.cons_append, ← ih ht]
    exact strip_code hquote fun h => absurd h hslash

theorem not_quote_of_isBlank {c : Char} (hc : CharClass.isBlank c = true) :
    c ∉ quotes ∧ c ≠ '/' := by
  have hall : ∀ q ∈ '/' :: quotes, CharClass.isBlank q = false := by decide
  have hne : c ∉ '/' :: quotes := fun h => by simp [hall c h] at hc
  exact ⟨fun h => hne (List.mem_cons_of_mem _ h), fun h => hne (h ▸ List.mem_cons_self)⟩

theorem first_blockEnd_of (ht : ¬blockEnd <:+: t) : ¬blockEnd <:+: t ++ ['*'] := by
  rintro ⟨before, later, h⟩
  rcases List.eq_nil_or_concat later with rfl | ⟨later, c, rfl⟩
  · have hlast := congrArg List.getLast? h
    simp [blockEnd] at hlast
  · rw [List.concat_eq_append, ← List.append_assoc] at h
    exact ht ⟨before, later, (List.append_inj' h rfl).1⟩

theorem areBlanks_feeds (t : Text) : AreBlanks (t.filter (· = '\n') ++ [' ']) := by
  intro c hc
  rcases List.mem_append.1 hc with hfeed | hspace
  · rw [of_decide_eq_true (List.mem_filter.1 hfeed).2]
    decide
  · rw [List.mem_singleton.1 hspace]
    decide

/-- Blanks are left of a gap, and some are if there was something. -/
theorem strip_gap (h : IsGap gap) : ∃ blanks, AreBlanks blanks ∧ (blanks = [] → gap = [])
    ∧ ∀ rest, stripComments (gap ++ rest) = blanks ++ stripComments rest := by
  induction h with
  | nil => exact ⟨[], by simp [AreBlanks], fun _ => rfl, fun _ => rfl⟩
  | @blank c gap hc h ih =>
    obtain ⟨blanks, hblanks, -, hstrip⟩ := ih
    rw [← isBlank_iff] at hc
    refine ⟨c :: blanks, List.forall_mem_cons.2 ⟨hc, hblanks⟩, by simp, fun rest => ?_⟩
    have hplain := strip_plain (t := [c]) (by simpa using not_quote_of_isBlank hc) (gap ++ rest)
    rw [hstrip] at hplain
    exact hplain
  | @lineComment t gap ht h ih =>
    obtain ⟨blanks, hblanks, -, hstrip⟩ := ih
    refine ⟨'\n' :: blanks, List.forall_mem_cons.2 ⟨by decide, hblanks⟩, by simp, fun rest => ?_⟩
    have hline : Stands (.lineComment t) ('\n' :: (gap ++ rest)) :=
      .lineComment (fun c hc => fun heq => ht (heq ▸ hc)) (by simp)
    have hfeed := strip_plain (t := ['\n']) (by decide) (gap ++ rest)
    rw [hstrip] at hfeed
    rw [List.append_assoc]
    exact (stripComments_cons hline).trans hfeed
  | @blockComment t gap ht h ih =>
    obtain ⟨blanks, hblanks, -, hstrip⟩ := ih
    refine ⟨(t ++ blockEnd).filter (· = '\n') ++ [' '] ++ blanks, fun c hc => ?_, by simp,
      fun rest => ?_⟩
    · rcases List.mem_append.1 hc with hc | hc
      · exact areBlanks_feeds _ c hc
      · exact hblanks c hc
    · have hblock : Stands (.blockComment (t ++ blockEnd)) (gap ++ rest) :=
        .blockComment (first_blockEnd_of ht)
      have hkept := stripComments_cons hblock
      rw [hstrip] at hkept
      rw [List.append_assoc, List.append_assoc]
      exact hkept

theorem Literal.isStringQuote (l : Literal) : isStringQuote l.quote = true := by
  simpa [Source.isStringQuote] using l.isQuote

theorem Literal.isSpecifierChar (l : Literal) {c : Char} (hc : c ∈ l.text) :
    isSpecifierChar c = true := by
  obtain ⟨hsingle, hdouble, hfeed, -⟩ := l.chars c hc
  simp [Source.isSpecifierChar, Source.isStringQuote, hsingle, hdouble, hfeed]

theorem Literal.mem_quotes (l : Literal) : l.quote ∈ quotes := by
  rcases l.isQuote with h | h <;> rw [h] <;> decide

theorem Literal.literalTail (l : Literal) (rest : Text) :
    LiteralTail l.quote (l.text ++ [l.quote]) rest := by
  have htail : ∀ {t : Text}, (∀ c ∈ t, c ∈ l.text) →
      LiteralTail l.quote (t ++ [l.quote]) rest := by
    intro t ht
    induction t with
    | nil => exact .closed (.inl rfl) rest
    | cons c t ih =>
      obtain ⟨hc, ht⟩ := List.forall_mem_cons.1 ht
      obtain ⟨hsingle, hdouble, hfeed, hescape⟩ := l.chars c hc
      refine .plain hescape ?_ (ih ht)
      rintro (rfl | ⟨hline, -⟩)
      · exact l.isQuote.elim hsingle hdouble
      · exact hfeed hline
  exact htail fun c hc => hc

theorem not_quote_of_mem_marks {c : Char} (hc : c ∈ marks) : c ∉ quotes ∧ c ≠ '/' := by
  have hall : ∀ c ∈ marks, c ∉ quotes ∧ c ≠ '/' := by decide
  exact hall c hc

theorem strip_token (t : Token) (rest : Text) :
    stripComments (t.text ++ rest) = t.text ++ stripComments rest := by
  cases t with
  | word i =>
    exact strip_plain (fun c hc => (isIdentifierChar_iff.1 (i.chars c hc)).2.2) rest
  | mark c hc => exact strip_plain (by simpa [Token.text] using not_quote_of_mem_marks hc) rest
  | literal l =>
    exact stripComments_cons (Stands.literal l.mem_quotes (l.literalTail rest))

/-- Without comments the tokens stand as before, with blanks between them. -/
theorem Laid.strip (h : Laid IsGap afterWord ts source) :
    Laid AreBlanks afterWord ts (stripComments source) := by
  induction h with
  | @nil _ gap hgap =>
    obtain ⟨blanks, hblanks, -, hstrip⟩ := strip_gap hgap
    have hend := hstrip []
    rw [List.append_nil, show stripComments [] = [] from rfl, List.append_nil] at hend
    exact hend ▸ .nil hblanks
  | @cons afterWord gap rest t ts hgap hapart h ih =>
    obtain ⟨blanks, hblanks, hsome, hstrip⟩ := strip_gap hgap
    rw [hstrip, strip_token]
    exact .cons hblanks (fun hafter hword => mt hsome (hapart hafter hword)) ih

/-! ## Where an import is read -/

theorem specifiersFrom_nil (b : Bool) : specifiersFrom b [] = [] := by
  rw [specifiersFrom]
  cases b <;> rfl

theorem specifiersFrom_cons {b : Bool} {c : Char} (h : importAfter? b (c :: t) = none) :
    specifiersFrom b (c :: t) = specifiersFrom (CharClass.isWord c) t := by
  rw [specifiersFrom]
  split
  · rename_i hsome
    rw [h] at hsome
    cases hsome
  · rfl

theorem specifiersFrom_import {s : Text} (h : importHere? t = some (s, rest)) :
    specifiersFrom false t = s :: specifiersFrom false rest := by
  have hafter : importAfter? false t = some (s, rest) := h
  rw [specifiersFrom]
  split
  · rename_i hsome
    rw [hafter] at hsome
    cases hsome
    rfl
  · rename_i hnone
    rw [hafter] at hnone
    cases hnone

theorem importAfter?_eq_none {b : Bool} (h : importHere? t = none) : importAfter? b t = none := by
  cases b
  · exact h
  · rfl

theorem skipBlanks_append {blanks : Text} (h : AreBlanks blanks) (t : Text) :
    skipBlanks (blanks ++ t) = skipBlanks t :=
  List.dropWhile_append_of_pos h

theorem skipBlanks_of_head {c : Char} (hc : CharClass.isBlank c = false) :
    skipBlanks (c :: t) = c :: t := by
  rw [skipBlanks, List.dropWhile_cons, hc]
  rfl

theorem quotedSpecifier?_eq_none (h : ∀ c ∈ (skipBlanks t).head?, isStringQuote c = false) :
    quotedSpecifier? t = none := by
  unfold quotedSpecifier?
  split
  · rfl
  · rename_i opening cs hblanks
    have hopening := h opening (by rw [hblanks]; rfl)
    dsimp only
    split
    · rfl
    · rw [if_neg (by simp [hopening])]

theorem calledSpecifier?_eq_none (h : ∀ c ∈ (skipBlanks t).head?, c ≠ '(') :
    calledSpecifier? t = none := by
  unfold calledSpecifier?
  split
  · rename_i cs hblanks
    exact absurd rfl (h '(' (by rw [hblanks]; rfl))
  · rfl

/-- What follows is neither a quote nor a parenthesis, blanks apart. -/
def Quiet (t : Text) : Prop := ∀ c ∈ (skipBlanks t).head?, isStringQuote c = false ∧ c ≠ '('

theorem Quiet.quotedSpecifier? (h : Quiet t) : quotedSpecifier? t = none :=
  quotedSpecifier?_eq_none fun c hc => (h c hc).1

theorem Quiet.calledSpecifier? (h : Quiet t) : calledSpecifier? t = none :=
  calledSpecifier?_eq_none fun c hc => (h c hc).2

theorem isStringQuote_of_identifierChar {c : Char} (hc : isIdentifierChar c = true) :
    isStringQuote c = false ∧ c ≠ '(' := by
  obtain ⟨-, hmark, hquote, -⟩ := isIdentifierChar_iff.1 hc
  simp only [quotes, List.mem_cons, not_or] at hquote
  refine ⟨by simp [isStringQuote, hquote], ?_⟩
  rintro rfl
  exact hmark (by decide)

/-- A name is quiet, and the rest of it with what is quiet behind it. -/
theorem Quiet.append (h : Quiet rest) (ht : ∀ c ∈ t, isIdentifierChar c = true) :
    Quiet (t ++ rest) := by
  cases t with
  | nil => exact h
  | cons c t =>
    have hc := ht c List.mem_cons_self
    intro d hd
    rw [List.cons_append, skipBlanks_of_head (isIdentifierChar_iff.1 hc).1] at hd
    cases hd
    exact isStringQuote_of_identifierChar hc

/-- A word that a name with some rest opens with ends within the name, if no name goes on there. -/
theorem exists_of_after? {word after : Text} (hword : ∀ c ∈ word, isIdentifierChar c = true)
    (hend : ∀ c ∈ rest.head?, isIdentifierChar c = false)
    (h : (t ++ rest).after? word = some after) : ∃ t', t = word ++ t' ∧ after = t' ++ rest := by
  rcases List.append_eq_append_iff.1 (Text.eq_append_of_after? h) with
    ⟨later, rfl, hrest⟩ | ⟨later, rfl, hafter⟩
  · cases later with
    | nil =>
      rw [List.nil_append] at hrest
      exact ⟨[], by simp, by simp [hrest]⟩
    | cons c later =>
      have hc := hend c (by rw [hrest]; rfl)
      rw [hword c (by simp)] at hc
      cases hc
  · exact ⟨later, rfl, hafter⟩

/-- No import is read at the start of a name, or within it, that something quiet follows. -/
theorem importHere?_eq_none (ht : ∀ c ∈ t, isIdentifierChar c = true)
    (hend : ∀ c ∈ rest.head?, isIdentifierChar c = false) (hquiet : Quiet rest) :
    importHere? (t ++ rest) = none := by
  have hafter : ∀ {word after : Text}, (∀ c ∈ word, isIdentifierChar c = true) →
      (t ++ rest).after? word = some after → Quiet after := by
    intro word after hword h
    obtain ⟨t', rfl, rfl⟩ := exists_of_after? hword hend h
    exact hquiet.append fun c hc => ht c (List.mem_append_right _ hc)
  unfold importHere?
  split
  · rename_i after h
    exact (hafter (by decide) h).quotedSpecifier?
  · split
    · rename_i after h
      have hquiet := hafter (by decide) h
      rw [hquiet.quotedSpecifier?, hquiet.calledSpecifier?]
      rfl
    · split
      · rename_i after h
        exact (hafter (by decide) h).calledSpecifier?
      · rfl

/-- Only a name can begin an import. -/
theorem importHere?_of_head (hend : ∀ c ∈ rest.head?, isIdentifierChar c = false) :
    importHere? rest = none := by
  have hnone : ∀ {word : Text}, word ≠ [] → (∀ c ∈ word, isIdentifierChar c = true) →
      rest.after? word = none := by
    intro word hne hword
    rcases hafter : rest.after? word with _ | after
    · rfl
    · obtain ⟨t', hnil, -⟩ := exists_of_after? (t := []) hword hend hafter
      exact absurd (List.append_eq_nil_iff.1 hnil.symm).1 hne
  rw [importHere?, hnone (by decide) (by decide), hnone (by decide) (by decide),
    hnone (by decide) (by decide)]

theorem isWord_of_not_identifierChar {c : Char} (hc : isIdentifierChar c = false) :
    CharClass.isWord c = false := by
  have hall : ∀ c ∈ marks ++ quotes ++ ['/'], CharClass.isWord c = false := by decide +kernel
  rcases hblank : CharClass.isBlank c with _ | _
  · by_contra hword
    have hmem : c ∉ marks ++ quotes ++ ['/'] := fun hmem => hword (hall c hmem)
    rw [List.mem_append, List.mem_append, List.mem_singleton, not_or, not_or, and_assoc] at hmem
    exact Bool.eq_false_iff.1 hc (isIdentifierChar_iff.2 ⟨hblank, hmem⟩)
  · exact CharClass.isWord_of_isBlank hblank

theorem specifiersFrom_other {c : Char} (hc : isIdentifierChar c = false) (b : Bool) (t : Text) :
    specifiersFrom b (c :: t) = specifiersFrom false t := by
  have hnone : importHere? (c :: t) = none :=
    importHere?_of_head fun d hd => by cases hd; exact hc
  rw [specifiersFrom_cons (importAfter?_eq_none hnone), isWord_of_not_identifierChar hc]

theorem not_identifierChar_of_isBlank {c : Char} (hc : CharClass.isBlank c = true) :
    isIdentifierChar c = false :=
  Bool.eq_false_iff.2 fun h => Bool.eq_false_iff.1 (isIdentifierChar_iff.1 h).1 hc

theorem not_identifierChar_of_mem_marks {c : Char} (hc : c ∈ marks) :
    isIdentifierChar c = false := by
  have hall : ∀ c ∈ marks, isIdentifierChar c = false := by decide
  exact hall c hc

/-- Behind blanks no word runs on. -/
theorem specifiersFrom_blanks {blanks : Text} (h : AreBlanks blanks) (b : Bool) (t : Text) :
    specifiersFrom b (blanks ++ t) = specifiersFrom (b && blanks.isEmpty) t := by
  induction blanks generalizing b with
  | nil => rw [List.isEmpty_nil, Bool.and_true, List.nil_append]
  | cons c blanks ih =>
    obtain ⟨hc, hblanks⟩ := List.forall_mem_cons.1 h
    rw [List.cons_append, specifiersFrom_other (not_identifierChar_of_isBlank hc), ih hblanks,
      List.isEmpty_cons, Bool.and_false, Bool.false_and]

/-- A name is passed that something quiet follows. -/
theorem specifiersFrom_name (ht : ∀ c ∈ t, isIdentifierChar c = true)
    (hend : ∀ c ∈ rest.head?, isIdentifierChar c = false) (hquiet : Quiet rest) (b : Bool) :
    ∃ b', specifiersFrom b (t ++ rest) = specifiersFrom b' rest := by
  induction t generalizing b with
  | nil => exact ⟨b, rfl⟩
  | cons c t ih =>
    obtain ⟨b', h⟩ := ih (List.forall_mem_cons.1 ht).2 (CharClass.isWord c)
    have hnone := importAfter?_eq_none (b := b) (importHere?_eq_none ht hend hquiet)
    exact ⟨b', (specifiersFrom_cons hnone).trans h⟩

/-! ## Token by token -/

/-- However the tokens are laid out with blanks, this is read of them. -/
def Reads (ts : List Token) (out : List Text) : Prop :=
  ∀ ⦃afterWord b : Bool⦄ ⦃t : Text⦄, Laid AreBlanks afterWord ts t →
    (b = true → afterWord = true) → specifiersFrom b t = out

theorem Laid.head_after_word {next : Token} (h : Laid AreBlanks true (next :: ts) t) :
    ∀ c ∈ t.head?, isIdentifierChar c = false := by
  intro d hd
  cases h with
  | @cons _ gap rest _ _ hgap hapart h =>
    cases gap with
    | cons c gap =>
      cases hd
      exact not_identifierChar_of_isBlank (hgap _ List.mem_cons_self)
    | nil =>
      cases next with
      | word i => exact absurd rfl (hapart rfl rfl)
      | mark c hc =>
        cases hd
        exact not_identifierChar_of_mem_marks hc
      | literal l =>
        cases hd
        have hall : ∀ c ∈ quotes, isIdentifierChar c = false := by decide
        exact hall _ l.mem_quotes

theorem Laid.quiet {next : Token} (h : Laid AreBlanks afterWord (next :: ts) t)
    (hnext : next.InClause) : Quiet t := by
  intro d hd
  cases h with
  | @cons _ gap rest _ _ hgap hapart h =>
    rw [skipBlanks_append hgap] at hd
    cases next with
    | word i =>
      obtain ⟨c, cs, hcons⟩ := List.exists_cons_of_ne_nil i.not_nil
      have hc := i.chars c (hcons ▸ List.mem_cons_self)
      rw [Token.text, hcons, List.cons_append,
        skipBlanks_of_head (isIdentifierChar_iff.1 hc).1] at hd
      cases hd
      exact isStringQuote_of_identifierChar hc
    | mark c hc =>
      have hall : ∀ c ∈ clauseMarks,
          CharClass.isBlank c = false ∧ isStringQuote c = false ∧ c ≠ '(' := by decide
      obtain ⟨hblank, hother⟩ := hall c hnext
      rw [Token.text, List.cons_append, skipBlanks_of_head hblank] at hd
      cases hd
      exact hother
    | literal l => exact hnext.elim

theorem reads_nil : Reads [] [] := by
  intro afterWord b t h _
  cases h with
  | nil hgap =>
    have hblanks := specifiersFrom_blanks hgap b []
    rw [List.append_nil] at hblanks
    rw [hblanks, specifiersFrom_nil]

section Tokens

variable {out : List Text}

theorem Reads.mark {c : Char} (hc : c ∈ marks) (h : Reads ts out) :
    Reads (.mark c hc :: ts) out := by
  intro afterWord b t hlaid _
  cases hlaid with
  | cons hgap _ hlaid =>
    rw [specifiersFrom_blanks hgap]
    exact (specifiersFrom_other (not_identifierChar_of_mem_marks hc) _ _).trans
      (h hlaid (by simp))

/-- A word is passed in front of what may stand in a clause. -/
theorem Reads.word {next : Token} (hnext : next.InClause) (h : Reads (next :: ts) out)
    (i : Identifier) : Reads (.word i :: next :: ts) out := by
  intro afterWord b t hlaid _
  cases hlaid with
  | cons hgap _ hlaid =>
    obtain ⟨b', hname⟩ := specifiersFrom_name i.chars hlaid.head_after_word (hlaid.quiet hnext) _
    rw [specifiersFrom_blanks hgap]
    exact hname.trans (h hlaid fun _ => rfl)

/-- Nothing is read of a clause, whatever its names. -/
theorem Reads.clause {next : Token} (hnext : next.InClause) (h : Reads (next :: ts) out) :
    ∀ {clause : List Token}, (∀ t ∈ clause, t.InClause) → Reads (clause ++ next :: ts) out
  | [], _ => h
  | t :: clause, hclause => by
    obtain ⟨ht, hrest⟩ := List.forall_mem_cons.1 hclause
    have hlater := Reads.clause hnext h hrest
    cases t with
    | word i =>
      cases clause with
      | nil => exact hlater.word hnext i
      | cons t' clause => exact hlater.word (hrest t' List.mem_cons_self) i
    | mark c hc => exact hlater.mark hc
    | literal l => exact ht.elim

theorem quotedSpecifier?_literal {blanks : Text} (h : AreBlanks blanks) (l : Literal)
    (rest : Text) :
    quotedSpecifier? (blanks ++ ((Token.literal l).text ++ rest)) = some (l.text, rest) := by
  have hquote : ∀ c ∈ quotes, CharClass.isBlank c = false := by decide
  have hclosing : ¬(l.quote :: rest).head?.any isSpecifierChar := by
    simp [isSpecifierChar, l.isStringQuote]
  obtain ⟨htake, hdrop⟩ := Text.takeWhile_of_longest (fun c hc => l.isSpecifierChar hc) hclosing
  have htext : (Token.literal l).text ++ rest = l.quote :: (l.text ++ l.quote :: rest) := by
    simp [Token.text]
  rw [quotedSpecifier?, skipBlanks_append h, htext, skipBlanks_of_head (hquote _ l.mem_quotes)]
  dsimp only
  rw [htake, hdrop]
  dsimp only
  rw [if_pos ⟨l.isStringQuote, l.isStringQuote, l.not_nil⟩]

theorem calledSpecifier?_literal {blanks before after : Text} (h : AreBlanks blanks)
    (hbefore : AreBlanks before) (hafter : AreBlanks after) (l : Literal) (rest : Text) :
    calledSpecifier? (blanks ++ (['('] ++ (before ++ ((Token.literal l).text
      ++ (after ++ ([')'] ++ rest)))))) = some (l.text, rest) := by
  have hopening : skipBlanks (blanks ++ (['('] ++ (before ++ ((Token.literal l).text
      ++ (after ++ ([')'] ++ rest)))))) = '(' :: (before ++ ((Token.literal l).text
      ++ (after ++ ([')'] ++ rest)))) :=
    (skipBlanks_append h _).trans (skipBlanks_of_head (by decide))
  have hclosing : skipBlanks (after ++ ([')'] ++ rest)) = ')' :: rest :=
    (skipBlanks_append hafter _).trans (skipBlanks_of_head (by decide))
  simp only [calledSpecifier?, hopening, quotedSpecifier?_literal hbefore, hclosing]

theorem importHere?_from (rest : Text) :
    importHere? ("from".toList ++ rest) = quotedSpecifier? rest := by
  rw [importHere?, Text.after?_append]

theorem importHere?_import (rest : Text) :
    importHere? ("import".toList ++ rest)
      = (quotedSpecifier? rest).or (calledSpecifier? rest) := by
  rw [importHere?, Text.after?_append]
  rfl

theorem importHere?_require (rest : Text) :
    importHere? ("require".toList ++ rest) = calledSpecifier? rest := by
  rw [importHere?, Text.after?_append]
  rfl

theorem specifiersFrom_afterBlanks {afterWord b : Bool} {i : Identifier} {blanks : Text}
    (hblanks : AreBlanks blanks) (hapart : afterWord = true → (Token.word i).isWord = true →
      blanks ≠ []) (hb : b = true → afterWord = true) (t : Text) :
    specifiersFrom b (blanks ++ t) = specifiersFrom false t := by
  rw [specifiersFrom_blanks hblanks]
  cases b with
  | false => rfl
  | true =>
    have hne := hapart (hb rfl) rfl
    cases blanks with
    | nil => exact absurd rfl hne
    | cons c blanks => rfl

/-- A word that a literal may follow leads to an import of what the literal names. -/
theorem Reads.quoted {i : Identifier} (l : Literal) (h : Reads ts out)
    (himport : ∀ {t rest : Text}, quotedSpecifier? t = some (l.text, rest) →
      importHere? (i.name ++ t) = some (l.text, rest)) :
    Reads (.word i :: .literal l :: ts) (l.text :: out) := by
  intro afterWord b t hlaid hb
  cases hlaid with
  | cons hgap hapart hlaid =>
    cases hlaid with
    | @cons _ blanks rest _ _ hblanks _ hlaid =>
      rw [specifiersFrom_afterBlanks hgap hapart hb]
      have hhere := himport (quotedSpecifier?_literal hblanks l rest)
      exact (specifiersFrom_import hhere).trans (congrArg _ (h hlaid (by simp)))

/-- So does a word that parentheses may follow with the literal in them. -/
theorem Reads.called {i : Identifier} (l : Literal) (h : Reads ts out)
    (himport : ∀ {t rest : Text}, quotedSpecifier? t = none →
      calledSpecifier? t = some (l.text, rest) →
      importHere? (i.name ++ t) = some (l.text, rest)) :
    Reads (.word i :: .opening :: .literal l :: .closing :: ts) (l.text :: out) := by
  intro afterWord b t hlaid hb
  cases hlaid with
  | cons hgap hapart hlaid =>
    cases hlaid with
    | @cons _ blanks _ _ _ hblanks _ hlaid =>
      cases hlaid with
      | @cons _ before _ _ _ hbefore _ hlaid =>
        cases hlaid with
        | @cons _ after rest _ _ hafter _ hlaid =>
          rw [specifiersFrom_afterBlanks hgap hapart hb]
          have hnone : quotedSpecifier? (blanks ++ (['('] ++ (before ++ ((Token.literal l).text
              ++ (after ++ ([')'] ++ rest)))))) = none := by
            refine quotedSpecifier?_eq_none fun c hc => ?_
            rw [skipBlanks_append hblanks, List.singleton_append,
              skipBlanks_of_head (by decide)] at hc
            cases hc
            rfl
          have hhere := himport hnone (calledSpecifier?_literal hblanks hbefore hafter l rest)
          exact (specifiersFrom_import hhere).trans (congrArg _ (h hlaid (by simp)))

/-- Of a statement the module is read that it names, and nothing else. -/
theorem Reads.statement (h : Reads ts out) (s : Statement) :
    Reads (s.tokens ++ ts) (s.specifier :: out) := by
  have hword (i : Identifier) : (Token.word i).InClause := trivial
  have hequals : Token.equals.InClause := by decide
  have hfrom (l : Literal) : Reads (.fromWord :: .literal l :: ts) (l.text :: out) :=
    Reads.quoted l h fun hquoted => (importHere?_from _).trans hquoted
  have hclause {i : Identifier} (clause : Clause) (l : Literal) :
      Reads (.word i :: clause.tokens ++ .fromWord :: .literal l :: ts) (l.text :: out) :=
    Reads.clause (hword _) (hfrom l) (List.forall_mem_cons.2 ⟨hword i, clause.inClause⟩)
  cases s with
  | importFrom clause l =>
    simp only [Statement.tokens, List.cons_append, List.append_assoc, List.nil_append]
    exact hclause clause l
  | exportFrom clause l =>
    simp only [Statement.tokens, List.cons_append, List.append_assoc, List.nil_append]
    exact hclause clause l
  | importOnly l =>
    exact Reads.quoted l h fun hquoted => by
      rw [importHere?_import, hquoted]
      rfl
  | importCall before l =>
    have hcall : Reads (.importWord :: .opening :: .literal l :: .closing :: ts) (l.text :: out) :=
      Reads.called l h fun hnone hcalled => by
        rw [importHere?_import, hnone, hcalled]
        rfl
    simp only [Statement.tokens, List.cons_append, List.append_assoc, List.nil_append]
    exact Reads.clause (hword _) hcall before.inClause
  | initializer clause l =>
    have hrequire : Reads (.requireWord :: .opening :: .literal l :: .closing :: ts)
        (l.text :: out) :=
      Reads.called l h fun _ hcalled => (importHere?_require _).trans hcalled
    simp only [Statement.tokens, List.cons_append, List.append_assoc, List.nil_append]
    exact Reads.clause hequals (hrequire.mark _) clause.inClause

end Tokens

theorem reads_tokensOf (ended : Bool) : ∀ statements : List Statement,
    Reads (tokensOf ended statements) (statements.map Statement.specifier)
  | [] => reads_nil
  | [s] => by
    cases ended
    · exact reads_nil.statement s
    · exact (reads_nil.mark (by decide)).statement s
  | s :: s' :: rest => ((reads_tokensOf ended (s' :: rest)).mark (by decide)).statement s

/-- Of statements that import or export from a module, import it alone or in a call, or take it for
an initializer, with semicolons between them and whatever blanks and comments between their tokens
(a line feed behind a semicolon is one), the modules that they name are read, each once and in
order, and nothing else: nothing of a comment, and nothing of a clause. -/
theorem specifiers_of_statements {ended : Bool} {statements : List Statement} {source : Text}
    (h : Laid IsGap false (tokensOf ended statements) source) :
    specifiers source = statements.map Statement.specifier :=
  reads_tokensOf ended statements h.strip (by simp)

/-- A name that is `from`, and an import and a quote in comments, are passed. -/
theorem specifiers_of_commented_statements :
    specifiers "import/* import 'x' */from from'a';\nb = // it's\nrequire(\"b\")".toList
      = ["a".toList, "b".toList] := by
  have hspace : IsGap [' '] := .blank (by decide) .nil
  have hfeed : IsGap ['\n'] := .blank (by decide) .nil
  have hstar : '*' ∉ " import 'x' ".toList := by decide
  have hblock : IsGap ('/' :: '*' :: (" import 'x' ".toList ++ blockEnd) ++ []) :=
    .blockComment (fun h => hstar (h.subset List.mem_cons_self)) .nil
  have hline : IsGap (' ' :: ('/' :: '/' :: " it's".toList ++ '\n' :: [])) :=
    .blank (by decide) (.lineComment (by decide) .nil)
  have hlaid : Laid IsGap false (tokensOf false [
      .importFrom ⟨[.fromWord], by decide⟩ ⟨'\x27', ['a'], by decide, by decide, by decide⟩,
      .initializer ⟨[.word ⟨['b'], by decide, by decide⟩], by decide⟩
        ⟨'\x22', ['b'], by decide, by decide, by decide⟩]) _ :=
    .cons .nil (by decide) (.cons hblock (by decide) (.cons hspace (by decide)
      (.cons .nil (by decide) (.cons .nil (by decide) (.cons hfeed (by decide)
      (.cons hspace (by decide) (.cons hline (by decide) (.cons .nil (by decide)
      (.cons .nil (by decide) (.cons .nil (by decide) (.nil .nil)))))))))))
  exact (congrArg specifiers (by decide)).trans (specifiers_of_statements hlaid)

end Source

end AppBundle
