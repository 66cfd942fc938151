/-!
# Texts

A text is the list of its characters. Cutting a text at separators and joining the pieces again
loses nothing (`joinBy_splitBy`), and the order of texts is the order of their code points, which
is also the order of their UTF-8 encodings.
-/

namespace AppBundle

/-- A text is the list of its characters. -/
abbrev Text := List Char

namespace Text

/-- The pieces of a text between its separators; a text without separators is its only piece. -/
def splitBy (isSep : Char → Bool) : Text → List Text
  | [] => [[]]
  | c :: cs =>
    if isSep c then [] :: splitBy isSep cs
    else match splitBy isSep cs with
      | [] => [[c]]
      | piece :: rest => (c :: piece) :: rest

/-- The texts in order, one separator between neighbours. -/
def joinBy (sep : Char) : List Text → Text
  | [] => []
  | [t] => t
  | t :: u :: ts => t ++ sep :: joinBy sep (u :: ts)

/-- What stands before and after the first separator. -/
def cutFirst? (sep : Char) : Text → Option (Text × Text)
  | [] => none
  | c :: cs =>
    if c = sep then some ([], cs)
    else match cutFirst? sep cs with
      | some (before, after) => some (c :: before, after)
      | none => none

/-- What stands before and after the last separator. -/
def cutLast? (sep : Char) : Text → Option (Text × Text)
  | [] => none
  | c :: cs =>
    match cutLast? sep cs with
    | some (before, after) => some (c :: before, after)
    | none => if c = sep then some ([], cs) else none

/-- The rest of a text that opens with the given one. -/
def after? : Text → (opening : Text) → Option Text
  | t, [] => some t
  | [], _ :: _ => none
  | c :: cs, p :: ps => if c = p then after? cs ps else none

/-- The text ends with the given one. -/
def endsWith (t ending : Text) : Bool := ending.isSuffixOf t

/-- The text without its trailing characters that satisfy the test. -/
def dropEndWhile (test : Char → Bool) : Text → Text
  | [] => []
  | c :: cs =>
    match dropEndWhile test cs with
    | [] => if test c then [] else [c]
    | rest => c :: rest

/-- The decimal digits of a number. -/
def ofNat (n : Nat) : Text := Nat.toDigits 10 n

/-- ASCII letters in lower case, all else unchanged. -/
def foldCase (t : Text) : Text := t.map Char.toLower

/-- The UTF-8 encoding. -/
def bytes (t : Text) : List UInt8 := t.flatMap String.utf8EncodeChar

/-- The lines of a text: a line feed ends a line, a carriage return before it belongs to the end,
and nothing after the last line feed is no line. -/
def lines (t : Text) : List Text :=
  let pieces := splitBy (· = '\n') t
  let ended := pieces.dropLast.map fun line =>
    match line.getLast? with
    | some '\r' => line.dropLast
    | _ => line
  match pieces.getLast? with
  | some [] | none => ended
  | some last => ended ++ [last]

theorem splitBy_ne_nil (isSep : Char → Bool) (t : Text) : splitBy isSep t ≠ [] := by
  cases t with
  | nil => simp [splitBy]
  | cons c cs =>
    simp only [splitBy]
    split
    · simp
    · split <;> simp

@[simp] theorem joinBy_cons {sep : Char} {t : Text} {ts : List Text} (h : ts ≠ []) :
    joinBy sep (t :: ts) = t ++ sep :: joinBy sep ts := by
  cases ts with
  | nil => exact absurd rfl h
  | cons u us => rfl

/-- Cutting a text at one separator and joining the pieces with it gives the text back. -/
theorem joinBy_splitBy (sep : Char) (t : Text) : joinBy sep (splitBy (· = sep) t) = t := by
  induction t with
  | nil => rfl
  | cons c cs ih =>
    simp only [splitBy]
    split
    · rename_i h
      have h : c = sep := by simpa using h
      rw [joinBy_cons (splitBy_ne_nil _ _), ih, h]; rfl
    · split
      · rename_i h; exact absurd h (splitBy_ne_nil _ _)
      · rename_i piece rest h
        rw [h] at ih
        cases rest with
        | nil => simp only [joinBy] at ih ⊢; rw [ih]
        | cons u us =>
          rw [joinBy_cons (by simp)] at ih ⊢
          rw [List.cons_append, ih]

@[simp] theorem after?_append (p t : Text) : after? (p ++ t) p = some t := by
  induction p with
  | nil => cases t <;> rfl
  | cons c cs ih => simp [after?, ih]

theorem eq_append_of_after? {p t rest : Text} (h : after? t p = some rest) : t = p ++ rest := by
  induction p generalizing t with
  | nil => cases t <;> simpa [after?] using h
  | cons c cs ih =>
    cases t with
    | nil => simp [after?] at h
    | cons d ds =>
      simp only [after?] at h
      split at h
      · rename_i hcd; rw [ih h, hcd]; rfl
      · simp at h

theorem eq_of_cutLast? {sep : Char} {t before after : Text}
    (h : t.cutLast? sep = some (before, after)) : t = before ++ sep :: after := by
  induction t generalizing before after with
  | nil => simp [cutLast?] at h
  | cons c cs ih =>
    simp only [cutLast?] at h
    split at h
    · rename_i before' after' hc
      simp only [Option.some.injEq, Prod.mk.injEq] at h
      rw [← h.1, ← h.2, ih hc]; rfl
    · split at h
      · rename_i hsep
        simp only [Option.some.injEq, Prod.mk.injEq] at h
        rw [← h.1, ← h.2, hsep]; rfl
      · simp at h

/-- What passes a test is taken up to its end where the next character does not pass it. -/
theorem takeWhile_of_longest {test : Char → Bool} {t rest : Text} (ht : ∀ c ∈ t, test c)
    (hlongest : ¬rest.head?.any test) :
    (t ++ rest).takeWhile test = t ∧ (t ++ rest).dropWhile test = rest := by
  rw [List.takeWhile_append_of_pos ht, List.dropWhile_append_of_pos ht]
  cases rest with
  | nil => simp
  | cons c rest => simp_all

theorem not_head?_dropWhile (test : Char → Bool) (t : Text) :
    ¬(t.dropWhile test).head?.any test := by
  have hstop := List.head?_dropWhile_not test t
  rcases hhead : (t.dropWhile test).head? with _ | c
  · simp
  · rw [hhead] at hstop
    simpa using hstop

end Text

/-! ## What may remain

A pattern can match a text in several ways, and each leaves a rest. A list of rests is kept longest
first and without repetitions, so that it never holds more of them than the text has positions. -/

namespace Rests

variable {σ : Type} [DecidableEq σ]

/-- The rests of either list. -/
def union (size : σ → Nat) : List σ → List σ → List σ
  | [], ys => ys
  | x :: xs, [] => x :: xs
  | x :: xs, y :: ys =>
    if x = y then x :: union size xs ys
    else if size y ≤ size x then x :: union size xs (y :: ys)
    else y :: union size (x :: xs) ys
termination_by xs ys => xs.length + ys.length

/-- The rests that `next` leaves of any rest of a list. -/
def flatMap (size : σ → Nat) (next : σ → List σ) (rests : List σ) : List σ :=
  rests.foldr (fun s acc => union size (next s) acc) []

@[simp] theorem mem_union {size : σ → Nat} {s : σ} {xs ys : List σ} :
    s ∈ union size xs ys ↔ s ∈ xs ∨ s ∈ ys := by
  fun_induction union size xs ys with
  | case1 ys => simp
  | case2 x xs => simp
  | case3 x xs ys ih => simp [ih]; grind
  | case4 x xs y ys _ _ ih => simp [ih]; grind
  | case5 x xs y ys _ _ ih => simp [ih]; grind

@[simp] theorem mem_flatMap {size : σ → Nat} {next : σ → List σ} {s : σ} {rests : List σ} :
    s ∈ flatMap size next rests ↔ ∃ r ∈ rests, s ∈ next r := by
  induction rests with
  | nil => simp [flatMap]
  | cons r rs ih =>
    show s ∈ union size (next r) (flatMap size next rs) ↔ _
    simp [ih]

end Rests

end AppBundle
