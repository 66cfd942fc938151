import AppBundle.Source
import Mathlib.Data.List.Basic
import Mathlib.Data.List.TakeWhile

/-!
# What stripping a source leaves of it

A source splits into pieces in exactly one way: characters of its code, literals, line comments and
block comments, each up to where it ends first (`exists_splits`, `Splits.unique`). Stripping goes
through the pieces one by one and keeps of each what is to be kept (`stripComments_of_splits`). A
slash that is kept as code had no slash and no star behind it, and has none when the comments are
gone, so that what is left splits into code and literals (`splits_stripComments`).
-/

namespace AppBundle

namespace Source

/-! ## Pieces -/

/-- A piece of a source, without the mark that it begins with. -/
inductive Piece where
  | code (c : Char)
  | literal (quote : Char) (t : Text)
  | lineComment (t : Text)
  | blockComment (t : Text)
deriving DecidableEq, Repr

namespace Piece

/-- The piece as it stands in the source. -/
def text : Piece → Text
  | code c => [c]
  | literal quote t => quote :: t
  | lineComment t => '/' :: '/' :: t
  | blockComment t => '/' :: '*' :: t

/-- What is kept of the piece. -/
def kept : Piece → Text
  | code c => [c]
  | literal quote t => quote :: t
  | lineComment _ => []
  | blockComment t => t.filter (· = '\n') ++ [' ']

def isComment : Piece → Bool
  | code _ | literal _ _ => false
  | lineComment _ | blockComment _ => true

end Piece

/-- The pieces one behind the other. -/
def textOf (ps : List Piece) : Text := ps.flatMap Piece.text

def quotes : List Char := ['\x27', '\x22', '\x60']

/-- The mark that ends a block comment. -/
def blockEnd : Text := ['*', '/']

/-- A literal ends at a quote of its own, or at the end of its line if it is no template. -/
def Ends (quote c : Char) : Prop := c = quote ∨ c = '\n' ∧ quote ≠ '\x60'

/-- The text is what follows the quote of a literal, in front of such a rest: up to where the
literal ends, or else to the end of the source. A backslash hides any character. -/
inductive LiteralTail (quote : Char) : Text → Text → Prop
  | closed {c : Char} (hend : Ends quote c) (rest : Text) : LiteralTail quote [c] rest
  | cut : LiteralTail quote [] []
  | cutHidden : LiteralTail quote ['\\'] []
  | plain {c : Char} {t rest : Text} (hescape : c ≠ '\\') (hend : ¬Ends quote c)
      (h : LiteralTail quote t rest) : LiteralTail quote (c :: t) rest
  | hidden {c : Char} {t rest : Text} (h : LiteralTail quote t rest) :
      LiteralTail quote ('\\' :: c :: t) rest

/-- The piece may stand in front of such a rest. A character is code if no literal and no comment
begins with it. A line comment goes to the end of its line, and a block comment to the first mark
that ends it, or else to the end of the source. -/
inductive Stands : Piece → Text → Prop
  | code {c : Char} {rest : Text} (hquote : c ∉ quotes)
      (hslash : c = '/' → rest.head? ≠ some '/' ∧ rest.head? ≠ some '*') : Stands (.code c) rest
  | literal {quote : Char} {t rest : Text} (hquote : quote ∈ quotes)
      (h : LiteralTail quote t rest) : Stands (.literal quote t) rest
  | lineComment {t rest : Text} (ht : ∀ c ∈ t, c ≠ '\n') (hrest : ¬rest.head?.any (· ≠ '\n')) :
      Stands (.lineComment t) rest
  | blockComment {t rest : Text} (ht : ¬blockEnd <:+: t ++ ['*']) :
      Stands (.blockComment (t ++ blockEnd)) rest
  | openComment {t : Text} (ht : ¬blockEnd <:+: t) : Stands (.blockComment t) []

/-- The text is the pieces one behind the other, each in front of a rest that it may stand in front
of. -/
inductive Splits : Text → List Piece → Prop
  | nil : Splits [] []
  | cons {p : Piece} {rest : Text} {ps : List Piece} (hp : Stands p rest) (h : Splits rest ps) :
      Splits (p.text ++ rest) (p :: ps)

section Pieces

variable {source t t' u rest rest' : Text} {p p' : Piece} {ps ps' : List Piece} {quote c : Char}

theorem Piece.text_ne_nil : p.text ≠ [] := by
  cases p <;> exact List.cons_ne_nil _ _

theorem Splits.textOf_eq (h : Splits source ps) : textOf ps = source := by
  induction h with
  | nil => rfl
  | cons hp h ih => rw [textOf, List.flatMap_cons, ← ih, textOf]

theorem Splits.eq_nil (h : Splits [] ps) : ps = [] := by
  cases ps with
  | nil => rfl
  | cons p ps => exact absurd (List.append_eq_nil_iff.1 h.textOf_eq).1 Piece.text_ne_nil

/-! ## Every source splits -/

theorem exists_literalTail : ∀ t : Text, ∃ literal rest, LiteralTail quote literal rest
    ∧ t = literal ++ rest
  | [] => ⟨[], [], .cut, rfl⟩
  | c :: t => by
    by_cases hend : Ends quote c
    · exact ⟨[c], t, .closed hend t, rfl⟩
    by_cases hescape : c = '\\'
    · subst hescape
      cases t with
      | nil => exact ⟨['\\'], [], .cutHidden, rfl⟩
      | cons c t =>
        obtain ⟨literal, rest, h, rfl⟩ := exists_literalTail t
        exact ⟨'\\' :: c :: literal, rest, .hidden h, rfl⟩
    · obtain ⟨literal, rest, h, rfl⟩ := exists_literalTail t
      exact ⟨c :: literal, rest, .plain hescape hend h, rfl⟩

/-- Where a block comment has an end, it has a first one. -/
theorem exists_first_blockEnd (h : blockEnd <:+: t) :
    ∃ u rest, t = u ++ blockEnd ++ rest ∧ ¬blockEnd <:+: u ++ ['*'] := by
  induction t with
  | nil => exact absurd (List.infix_nil.1 h) (List.cons_ne_nil _ _)
  | cons c t ih =>
    by_cases hhere : blockEnd <+: c :: t
    · obtain ⟨rest, hrest⟩ := hhere
      exact ⟨[], rest, hrest.symm, by decide⟩
    · obtain ⟨u, rest, rfl, hfirst⟩ := ih ((List.infix_cons_iff.1 h).resolve_left hhere)
      refine ⟨c :: u, rest, rfl, fun hinfix => ?_⟩
      rcases List.infix_cons_iff.1 hinfix with hfront | hlater
      · exact hhere (hfront.trans ⟨'/' :: rest, by simp [blockEnd]⟩)
      · exact hfirst hlater

/-- Every text that is not empty begins with a piece. -/
theorem exists_stands (h : t ≠ []) : ∃ p rest, Stands p rest ∧ t = p.text ++ rest := by
  obtain ⟨c, t, rfl⟩ := List.exists_cons_of_ne_nil h
  by_cases hquote : c ∈ quotes
  · obtain ⟨literal, rest, hliteral, rfl⟩ := exists_literalTail t
    exact ⟨_, rest, .literal hquote hliteral, rfl⟩
  by_cases hslash : c = '/' → t.head? ≠ some '/' ∧ t.head? ≠ some '*'
  · exact ⟨.code c, t, .code hquote hslash, rfl⟩
  obtain ⟨rfl, hhead⟩ := Classical.not_imp.1 hslash
  by_cases hline : t.head? = some '/'
  · obtain ⟨t, rfl⟩ := List.head?_eq_some_iff.1 hline
    refine ⟨.lineComment (t.takeWhile (· ≠ '\n')), t.dropWhile (· ≠ '\n'), .lineComment ?_ ?_, ?_⟩
    · intro c hc
      simpa using List.mem_takeWhile_imp hc
    · exact Text.not_head?_dropWhile _ t
    · simp [Piece.text]
  have hblock : t.head? = some '*' := by simpa [hline] using hhead
  obtain ⟨t, rfl⟩ := List.head?_eq_some_iff.1 hblock
  by_cases hclosed : blockEnd <:+: t
  · obtain ⟨u, rest, rfl, hfirst⟩ := exists_first_blockEnd hclosed
    exact ⟨.blockComment (u ++ blockEnd), rest, .blockComment hfirst, rfl⟩
  · exact ⟨.blockComment t, [], .openComment hclosed, by simp [Piece.text]⟩

theorem exists_splits (t : Text) : ∃ ps, Splits t ps := by
  by_cases h : t = []
  · exact ⟨[], h ▸ .nil⟩
  · obtain ⟨p, rest, hp, hsplit⟩ := exists_stands h
    have hshorter : rest.length < t.length := by
      rw [hsplit, List.length_append]
      exact Nat.lt_add_of_pos_left (List.length_pos_iff.2 Piece.text_ne_nil)
    obtain ⟨ps, hps⟩ := exists_splits rest
    exact ⟨p :: ps, hsplit ▸ .cons hp hps⟩
termination_by t.length

/-! ## No source splits in two ways -/

theorem not_ends_escape (hquote : quote ∈ quotes) : ¬Ends quote '\\' := by
  rintro (rfl | ⟨h, -⟩)
  · exact absurd hquote (by decide)
  · exact absurd h (by decide)

theorem LiteralTail.unique (hquote : quote ∈ quotes) (h : LiteralTail quote t rest) :
    ∀ {t' rest' : Text}, LiteralTail quote t' rest' → t ++ rest = t' ++ rest' → t = t' := by
  have hescape := not_ends_escape hquote
  induction h with
  | closed | cut | cutHidden =>
    intro t' rest' h' heq
    cases h' <;> grind
  | plain hescape hend h ih =>
    intro t' rest' h' heq
    cases h' with
    | plain _ _ h' =>
      obtain ⟨rfl, hlater⟩ := List.cons.inj heq
      rw [ih h' hlater]
    | _ => grind
  | hidden h ih =>
    intro t' rest' h' heq
    cases h' with
    | hidden h' =>
      obtain ⟨-, hhidden⟩ := List.cons.inj heq
      obtain ⟨rfl, hlater⟩ := List.cons.inj hhidden
      rw [ih h' hlater]
    | _ => grind

theorem eq_nil_of_first_blockEnd {before later : Text}
    (hfirst : ¬blockEnd <:+: before ++ later ++ ['*'])
    (heq : blockEnd ++ rest = later ++ (blockEnd ++ rest')) : later = [] := by
  match later, heq with
  | [], _ => rfl
  | [c], heq => simp [blockEnd] at heq
  | c :: d :: later, heq =>
    obtain ⟨hc, hlater⟩ := List.cons.inj heq
    obtain ⟨hd, -⟩ := List.cons.inj hlater
    subst hc hd
    exact absurd ⟨before, later ++ ['*'], by simp [blockEnd]⟩ hfirst

/-- Before its first end, a block comment has no other. -/
theorem first_blockEnd_unique (h : ¬blockEnd <:+: t ++ ['*']) (h' : ¬blockEnd <:+: t' ++ ['*'])
    (heq : t ++ (blockEnd ++ rest) = t' ++ (blockEnd ++ rest')) : t = t' := by
  rcases List.append_eq_append_iff.1 heq with ⟨later, rfl, hlater⟩ | ⟨later, rfl, hlater⟩
  · rw [eq_nil_of_first_blockEnd h' hlater, List.append_nil]
  · rw [eq_nil_of_first_blockEnd h hlater, List.append_nil]

theorem Stands.unique (h : Stands p rest) (h' : Stands p' rest')
    (heq : p.text ++ rest = p'.text ++ rest') : p = p' := by
  cases h with
  | code hquote hslash => cases h' <;> grind [Piece.text, quotes]
  | literal hquote h =>
    cases h' with
    | literal hquote' h' =>
      obtain ⟨rfl, hlater⟩ := List.cons.inj heq
      rw [h.unique hquote h' hlater]
    | _ => grind [Piece.text, quotes]
  | lineComment ht hrest =>
    cases h' with
    | lineComment ht' hrest' =>
      simp only [Piece.text, List.cons_append, List.cons.injEq, true_and] at heq
      have htake := (Text.takeWhile_of_longest (by simpa using ht) hrest).1
      have htake' := (Text.takeWhile_of_longest (by simpa using ht') hrest').1
      rw [← htake, heq, htake']
    | _ => grind [Piece.text, quotes]
  | blockComment ht =>
    cases h' with
    | blockComment ht' =>
      simp only [Piece.text, List.cons_append, List.append_assoc, List.cons.injEq, true_and] at heq
      rw [first_blockEnd_unique ht ht' heq]
    | openComment ht' =>
      simp only [Piece.text, List.cons_append, List.append_nil, List.cons.injEq, true_and] at heq
      exact absurd ⟨_, _, heq⟩ ht'
    | _ => grind [Piece.text, quotes]
  | openComment ht =>
    cases h' with
    | blockComment ht' =>
      simp only [Piece.text, List.cons_append, List.append_nil, List.cons.injEq, true_and] at heq
      exact absurd ⟨_, _, heq.symm⟩ ht
    | openComment => simpa [Piece.text] using heq
    | _ => grind [Piece.text, quotes]

theorem Splits.unique (h : Splits source ps) (h' : Splits source ps') : ps' = ps := by
  induction h generalizing ps' with
  | nil => exact h'.eq_nil
  | @cons p rest ps hp h ih =>
    generalize hsource : p.text ++ rest = source at h'
    cases h' with
    | nil => exact absurd (List.append_eq_nil_iff.1 hsource).1 Piece.text_ne_nil
    | cons hp' h' =>
      obtain rfl := hp.unique hp' hsource
      obtain rfl := List.append_cancel_left hsource
      rw [ih h']

/-! ## Stripping -/

attribute [local simp] strip

theorem isQuote_iff : isQuote c = true ↔ c ∈ quotes := by
  simp [isQuote, quotes, or_assoc]

theorem closes_iff : closes quote c = true ↔ Ends quote c := by
  simp [closes, Ends]

theorem strip_code (hquote : c ∉ quotes)
    (hslash : c = '/' → t.head? ≠ some '/' ∧ t.head? ≠ some '*') :
    strip .code (c :: t) = c :: strip .code t := by
  rw [strip, if_neg (mt isQuote_iff.1 hquote)]
  · rintro u rfl rfl
    exact (hslash rfl).1 rfl
  · rintro u rfl rfl
    exact (hslash rfl).2 rfl

theorem strip_literal (hquote : quote ∈ quotes) (h : LiteralTail quote t rest) :
    strip (.literal quote) (t ++ rest) = t ++ strip .code rest := by
  have hhidden := not_ends_escape hquote
  induction h with
  | closed hend rest =>
    rw [List.cons_append, List.nil_append, strip, if_pos (closes_iff.2 hend)]
    · rfl
    · rintro rfl
      exact hhidden hend
  | cut => rfl
  | cutHidden => rfl
  | plain hescape hend h ih =>
    rw [List.cons_append, strip, if_neg (mt closes_iff.1 hend), ih]
    · rfl
    · exact hescape
  | hidden h ih => rw [List.cons_append, List.cons_append, strip, strip, ih]; rfl

theorem strip_lineComment (ht : ∀ c ∈ t, c ≠ '\n') (hrest : ¬rest.head?.any (· ≠ '\n')) :
    strip .lineComment (t ++ rest) = strip .code rest := by
  induction t with
  | nil =>
    cases rest with
    | nil => rfl
    | cons c rest =>
      obtain rfl : c = '\n' := by simpa using hrest
      rw [strip_code (by decide) fun h => absurd h (by decide)]
      rfl
  | cons c t ih =>
    obtain ⟨hc, ht⟩ := List.forall_mem_cons.1 ht
    rw [List.cons_append, strip, if_neg hc, ih ht]

/-- In a block comment, up to its end, line feeds are kept. -/
theorem strip_blockComment : ∀ {before t : Text}, ¬blockEnd <:+: before ++ t →
    strip (.blockComment (before.getLast? = some '*')) (t ++ rest)
      = t.filter (· = '\n') ++ strip (.blockComment ((before ++ t).getLast? = some '*')) rest
  | before, [], _ => by simp
  | before, c :: t, h => by
    have hend : ¬(before.getLast? = some '*' ∧ c = '/') := by
      rintro ⟨hlast, rfl⟩
      obtain ⟨front, rfl⟩ := List.getLast?_eq_some_iff.1 hlast
      exact h ⟨front, t, by simp [blockEnd]⟩
    rw [List.append_cons] at h ⊢
    have hlater := strip_blockComment h
    rw [List.getLast?_concat] at hlater
    rw [List.cons_append, strip]
    by_cases hc : c = '\n'
    · subst hc
      rw [if_pos rfl]
      simpa using hlater
    · rw [if_neg hc, if_neg (by simpa using hend)]
      simpa [hc] using hlater

theorem strip_closedComment (h : ¬blockEnd <:+: t ++ ['*']) :
    strip (.blockComment false) (t ++ blockEnd ++ rest)
      = t.filter (· = '\n') ++ ' ' :: strip .code rest := by
  have hsplit : t ++ blockEnd ++ rest = t ++ ['*'] ++ '/' :: rest := by simp [blockEnd]
  have hstrip := @strip_blockComment ('/' :: rest) [] (t ++ ['*']) h
  rw [List.nil_append, List.getLast?_concat, ← hsplit, List.filter_append] at hstrip
  simpa using hstrip

theorem strip_openComment (h : ¬blockEnd <:+: t) :
    strip (.blockComment false) t = t.filter (· = '\n') ++ [' '] := by
  have hstrip := @strip_blockComment [] [] t h
  rw [List.append_nil, strip] at hstrip
  exact hstrip

/-- Of each piece is kept what is to be kept of it. -/
theorem strip_piece (h : Stands p rest) :
    strip .code (p.text ++ rest) = p.kept ++ strip .code rest := by
  cases h with
  | code hquote hslash => exact strip_code hquote hslash
  | @literal quote t _ hquote h =>
    rw [Piece.text, List.cons_append, strip, if_pos (isQuote_iff.2 hquote), strip_literal hquote h]
    · rfl
    · rintro u rfl -
      exact absurd hquote (by decide)
    · rintro u rfl -
      exact absurd hquote (by decide)
  | lineComment ht hrest => exact strip_lineComment ht hrest
  | @blockComment t rest ht =>
    have hkept : (t ++ blockEnd).filter (· = '\n') = t.filter (· = '\n') := by
      simp [List.filter_append, blockEnd]
    rw [Piece.kept, hkept, List.append_assoc]
    exact strip_closedComment ht
  | openComment ht =>
    rw [List.append_nil]
    exact (strip_openComment ht).trans (List.append_nil _).symm

theorem stripComments_cons (h : Stands p rest) :
    stripComments (p.text ++ rest) = p.kept ++ stripComments rest := strip_piece h

theorem stripComments_of_splits (h : Splits source ps) :
    stripComments source = ps.flatMap Piece.kept := by
  induction h with
  | nil => rfl
  | cons hp h ih => rw [stripComments_cons hp, ih, List.flatMap_cons]

/-! ## What is left -/

theorem count_kept (h : Stands p rest) : p.kept.count '\n' = p.text.count '\n' := by
  cases h with
  | code | literal => rfl
  | @lineComment t _ ht =>
    have hnone : '\n' ∉ t := fun h => ht _ h rfl
    simp [Piece.kept, Piece.text, List.count_eq_zero_of_not_mem hnone]
  | blockComment | openComment => simp [Piece.kept, Piece.text]

theorem count_stripComments (h : Splits source ps) :
    (stripComments source).count '\n' = source.count '\n' := by
  induction h with
  | nil => rfl
  | cons hp h ih =>
    rw [stripComments_cons hp, List.count_append, List.count_append, count_kept hp, ih]

/-- The pieces of what is kept of a piece. -/
def Piece.left : Piece → List Piece
  | .code c => [.code c]
  | .literal quote t => [.literal quote t]
  | .lineComment _ => []
  | .blockComment t => (t.filter (· = '\n') ++ [' ']).map .code

theorem isComment_of_mem_left (h : p' ∈ p.left) : p'.isComment = false := by
  cases p with
  | code | literal =>
    rw [List.mem_singleton.1 h]
    rfl
  | lineComment => cases h
  | blockComment t =>
    obtain ⟨c, -, rfl⟩ := List.mem_map.1 h
    rfl

theorem kept_of_not_comment (h : p.isComment = false) : p.kept = p.text := by
  cases p with
  | code | literal => rfl
  | lineComment | blockComment => cases h

theorem LiteralTail.of_rest (h : LiteralTail quote t rest) (hrest : rest = [] → rest' = []) :
    LiteralTail quote t rest' := by
  induction h with
  | closed hend rest => exact .closed hend rest'
  | cut =>
    rw [hrest rfl]
    exact .cut
  | cutHidden =>
    rw [hrest rfl]
    exact .cutHidden
  | plain hescape hend h ih => exact .plain hescape hend (ih hrest)
  | hidden h ih => exact .hidden (ih hrest)

/-- Only a slash may be taken from the front. -/
theorem head?_stripComments (h : t.head? ≠ some '/') : (stripComments t).head? = t.head? := by
  cases t with
  | nil => rfl
  | cons c t =>
    have hc : c ≠ '/' := fun hc => h (congrArg some hc)
    rw [stripComments, strip]
    · rfl
    · exact fun _ h => absurd h hc
    · exact fun _ h => absurd h hc

/-- What stands for a block comment is code. -/
theorem splits_code (ht : ∀ c ∈ t, c = '\n' ∨ c = ' ') (h : Splits rest ps) :
    Splits (t ++ rest) (t.map .code ++ ps) := by
  induction t with
  | nil => exact h
  | cons c t ih =>
    obtain ⟨hc, ht⟩ := List.forall_mem_cons.1 ht
    refine .cons (.code ?_ ?_) (ih ht)
    · rcases hc with rfl | rfl <;> decide
    · rcases hc with rfl | rfl <;> exact fun h => absurd h (by decide)

/-- What is left splits into what is left of the pieces. -/
theorem splits_stripComments (h : Splits source ps) :
    Splits (stripComments source) (ps.flatMap Piece.left) := by
  induction h with
  | nil => exact .nil
  | @cons p rest ps hp h ih =>
    rw [stripComments_cons hp, List.flatMap_cons]
    cases hp with
    | code hquote hslash =>
      refine .cons (.code hquote fun hc => ?_) ih
      rw [head?_stripComments (hslash hc).1]
      exact hslash hc
    | literal hquote hliteral =>
      have hrest : rest = [] → stripComments rest = [] := by
        rintro rfl
        rfl
      exact .cons (.literal hquote (hliteral.of_rest hrest)) ih
    | lineComment => exact ih
    | blockComment | openComment =>
      refine splits_code (fun c hc => ?_) ih
      rcases List.mem_append.1 hc with hfeed | hspace
      · exact .inl (of_decide_eq_true (List.mem_filter.1 hfeed).2)
      · exact .inr (List.mem_singleton.1 hspace)

/-- A source splits into pieces in exactly one way, and stripping keeps of each piece, in their
order, what is to be kept of it. That has as many line feeds as the source, splits into pieces of
which none is a comment, and is left as it is by stripping it again. -/
theorem stripComments_keeps_pieces (source : Text) :
    ∃ ps, Splits source ps ∧ (∀ ps', Splits source ps' → ps' = ps)
      ∧ textOf ps = source ∧ stripComments source = ps.flatMap Piece.kept
      ∧ (stripComments source).count '\n' = source.count '\n'
      ∧ (∀ ps', Splits (stripComments source) ps' → ∀ p ∈ ps', p.isComment = false)
      ∧ stripComments (stripComments source) = stripComments source := by
  obtain ⟨ps, hsplits⟩ := exists_splits source
  have hleft := splits_stripComments hsplits
  have hnone : ∀ p ∈ ps.flatMap Piece.left, p.isComment = false := by
    intro p hp
    obtain ⟨p', -, hp⟩ := List.mem_flatMap.1 hp
    exact isComment_of_mem_left hp
  refine ⟨ps, hsplits, fun ps' => hsplits.unique, hsplits.textOf_eq,
    stripComments_of_splits hsplits, count_stripComments hsplits, ?nocomment, ?again⟩
  case nocomment =>
    intro ps' hsplits'
    rw [hleft.unique hsplits']
    exact hnone
  case again =>
    calc stripComments (stripComments source)
        = (ps.flatMap Piece.left).flatMap Piece.kept := stripComments_of_splits hleft
      _ = textOf (ps.flatMap Piece.left) := List.flatMap_congr fun p hp =>
          kept_of_not_comment (hnone p hp)
      _ = stripComments source := hleft.textOf_eq

-- the slash behind the first opening mark ends no comment, and the last comment has no end
example : stripComments "f(x) /*/ '\n '*/ // \" /*\n'//'; /* c".toList
    = "f(x) \n  \n'//';  ".toList := by
  decide

end Pieces

end Source

end AppBundle
