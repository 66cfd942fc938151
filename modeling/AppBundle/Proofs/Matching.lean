import AppBundle.Regex.Syntax

/-!
# What regular expressions match

The ends of a match are those of its parts put together: a sequence ends where its rest ends behind
an end of its first part, a choice where one of its branches does. A match may start anywhere in a
text (`isMatch_iff`), so that a choice matches what one of its branches matches (`isMatch_choice`).

An expression that begins with the start of the text and some characters matches only texts that
begin with these characters (`prefix_of_isMatch`).
-/

namespace AppBundle

theorem CharSet.mem_single {c d : Char} : (single c).mem d.toNat = true ↔ d = c := by
  simp only [single, mem, Bool.and_eq_true, decide_eq_true_eq]
  refine ⟨fun ⟨hle, hge⟩ => ?_, fun h => by simp [h]⟩
  have hsame : d.toNat = c.toNat := Nat.le_antisymm hge hle
  exact Char.toNat_inj.1 hsame

namespace Regex

open RegexSyntax

variable {r s : Regex} {p e : Spot}

/-! ## Ends -/

theorem mem_ends_empty : e ∈ empty.ends p ↔ e = p := by simp [ends]

theorem mem_ends_oneOf {set : CharSet} :
    e ∈ (oneOf set).ends p
      ↔ ∃ c, p.rest = c :: e.rest ∧ e.before = some c ∧ set.mem c.toNat = true := by
  obtain ⟨before, rest⟩ := p
  obtain ⟨before', rest'⟩ := e
  cases rest with
  | nil => simp [ends]
  | cons c cs =>
    by_cases hc : set.mem c.toNat = true
    · simp only [ends, hc, if_true, List.mem_singleton, Spot.mk.injEq, List.cons.injEq]
      constructor
      · rintro ⟨rfl, rfl⟩
        exact ⟨c, ⟨rfl, rfl⟩, rfl, hc⟩
      · rintro ⟨d, ⟨rfl, rfl⟩, hbefore, -⟩
        exact ⟨hbefore, rfl⟩
    · simp only [ends, hc, Bool.false_eq_true, if_false, List.not_mem_nil, List.cons.injEq,
        false_iff]
      rintro ⟨d, ⟨rfl, -⟩, -, hd⟩
      exact hc hd

theorem mem_ends_look {l : Look} : e ∈ (look l).ends p ↔ e = p ∧ l.holds p = true := by
  by_cases h : l.holds p = true
  · simp [ends, h]
  · simp [ends, h]

theorem mem_ends_seq : e ∈ (seq r s).ends p ↔ ∃ m ∈ r.ends p, e ∈ s.ends m := by
  simp [ends]

theorem mem_ends_alt : e ∈ (alt r s).ends p ↔ e ∈ r.ends p ∨ e ∈ s.ends p := by
  simp [ends]

/-- The parts of a sequence are matched one behind the other. -/
theorem mem_ends_sequence {rs : List Regex} :
    e ∈ (sequence (r :: rs)).ends p ↔ ∃ m ∈ r.ends p, e ∈ (sequence rs).ends m := by
  cases rs with
  | nil => simp [RegexSyntax.sequence, mem_ends_empty]
  | cons s rs => exact mem_ends_seq

/-- A choice is matched where one of its branches is. -/
theorem mem_ends_choice : ∀ {rs : List Regex}, rs ≠ [] →
    (e ∈ (choice rs).ends p ↔ ∃ r ∈ rs, e ∈ r.ends p)
  | [r], _ => by simp [choice]
  | r :: s :: rs, _ => by
    rw [choice, mem_ends_alt, mem_ends_choice (List.cons_ne_nil s rs)]
    · simp
    · exact List.cons_ne_nil s rs

/-! ## Matches -/

theorem getLast?_cons_or (c : Char) (cs : Text) (before : Option Char) :
    (c :: cs).getLast?.or before = cs.getLast?.or (some c) := by
  rw [List.getLast?_cons, Option.some_or, ← Option.or_some]

theorem matchesFrom_iff : ∀ {before : Option Char} {t : Text},
    r.matchesFrom before t = true
      ↔ ∃ passed rest, t = passed ++ rest ∧ ∃ e, e ∈ r.ends ⟨passed.getLast?.or before, rest⟩
  | before, [] => by
    simp only [matchesFrom, decide_eq_true_eq, List.nil_eq_append_iff]
    constructor
    · intro h
      exact ⟨[], [], ⟨rfl, rfl⟩, List.exists_mem_of_ne_nil _ h⟩
    · rintro ⟨_, _, ⟨rfl, rfl⟩, e, he⟩
      exact List.ne_nil_of_mem he
  | before, c :: cs => by
    rw [matchesFrom, Bool.or_eq_true, decide_eq_true_eq, matchesFrom_iff]
    constructor
    · rintro (h | ⟨passed, rest, rfl, e, he⟩)
      · exact ⟨[], c :: cs, rfl, List.exists_mem_of_ne_nil _ h⟩
      · refine ⟨c :: passed, rest, rfl, e, ?_⟩
        rwa [List.getLast?_cons, Option.some_or, ← Option.or_some]
    · rintro ⟨_ | ⟨d, passed⟩, rest, h, e, he⟩
      · rw [List.nil_append] at h
        rw [h]
        exact .inl (List.ne_nil_of_mem he)
      · obtain ⟨rfl, rfl⟩ := List.cons.inj h
        refine .inr ⟨passed, rest, rfl, e, ?_⟩
        rwa [getLast?_cons_or] at he

/-- A match may start behind any part of the text. -/
theorem isMatch_iff {t : Text} : r.isMatch t = true
    ↔ ∃ passed rest, t = passed ++ rest ∧ ∃ e, e ∈ r.ends ⟨passed.getLast?, rest⟩ := by
  unfold isMatch
  simp only [matchesFrom_iff, Option.or_none]

/-- An expression that asks for the start of the text is matched from there. -/
theorem isMatch_textStart {t : Text} :
    (seq (look .textStart) r).isMatch t = true ↔ ∃ e, e ∈ r.ends ⟨none, t⟩ := by
  rw [isMatch_iff]
  constructor
  · rintro ⟨passed, rest, rfl, e, he⟩
    obtain ⟨m, hm, he⟩ := mem_ends_seq.1 he
    obtain ⟨rfl, hstart⟩ := mem_ends_look.1 hm
    have hpassed : passed = [] := by simpa [Look.holds] using hstart
    subst hpassed
    exact ⟨e, he⟩
  · rintro ⟨e, he⟩
    exact ⟨[], t, rfl, e, mem_ends_seq.2 ⟨_, mem_ends_look.2 ⟨rfl, rfl⟩, he⟩⟩

theorem isMatch_choice {rs : List Regex} (hne : rs ≠ []) {t : Text} :
    (choice rs).isMatch t = true ↔ ∃ r ∈ rs, r.isMatch t = true := by
  simp only [isMatch_iff, mem_ends_choice hne]
  constructor
  · rintro ⟨passed, rest, h, e, r, hr, he⟩
    exact ⟨r, hr, passed, rest, h, e, he⟩
  · rintro ⟨r, hr, passed, rest, h, e, he⟩
    exact ⟨passed, rest, h, e, r, hr, he⟩

/-- The expression of a character that stands for itself. -/
def ofChar (c : Char) : Regex := .oneOf (.single c)

/-- What matches characters and more begins with these characters. -/
theorem prefix_of_mem_ends {more : List Regex} : ∀ {opening : Text} {p : Spot},
    e ∈ (sequence (opening.map ofChar ++ more)).ends p → opening <+: p.rest
  | [], _, _ => List.nil_prefix
  | c :: cs, p, h => by
    obtain ⟨m, hm, h⟩ := mem_ends_sequence.1 h
    obtain ⟨d, hrest, -, hd⟩ := mem_ends_oneOf.1 hm
    rw [CharSet.mem_single] at hd
    rw [hrest, hd]
    exact List.cons_prefix_cons.2 ⟨rfl, prefix_of_mem_ends h⟩

theorem prefix_of_isMatch {opening : Text} {more : List Regex} {t : Text}
    (h : (sequence (look .textStart :: opening.map ofChar ++ more)).isMatch t = true) :
    opening <+: t := by
  obtain ⟨passed, rest, rfl, e, he⟩ := isMatch_iff.1 h
  obtain ⟨m, hm, he⟩ := mem_ends_sequence.1 he
  obtain ⟨rfl, hstart⟩ := mem_ends_look.1 hm
  have hpassed : passed = [] := by simpa [Look.holds] using hstart
  rw [hpassed, List.nil_append]
  exact prefix_of_mem_ends he

end Regex

end AppBundle
