import AppBundle.Proofs.Matching

/-!
# What repetitions match

A repetition ends where a row of matches ends, each behind the one before. Every match goes on in
the text or stays where it is (`onward_of_mem_ends`), and one that stays can be left out of the row,
so that a row needs no more matches than there are characters left (`Row.shorten`). The bound on the
rounds of a repetition is one more, and therefore it has all the ends that it could have without a
bound (`mem_ends_rep`).
-/

namespace AppBundle

namespace Regex

variable {next : Spot → List Spot} {r s : Regex} {set : CharSet} {p m e : Spot} {n k : Nat}

/-! ## Rows of matches -/

variable (next) in
/-- So many steps in a row lead from one spot to another. -/
inductive Row : Nat → Spot → Spot → Prop
  | nil (p : Spot) : Row 0 p p
  | cons {n : Nat} {p m e : Spot} (h : m ∈ next p) (hlater : Row n m e) : Row (n + 1) p e

theorem row_zero : Row next 0 p e ↔ e = p := by
  constructor
  · rintro ⟨⟩
    rfl
  · rintro rfl
    exact .nil e

theorem row_succ : Row next (n + 1) p e ↔ ∃ m ∈ next p, Row next n m e := by
  constructor
  · rintro (_ | ⟨h, hlater⟩)
    exact ⟨_, h, hlater⟩
  · rintro ⟨m, h, hlater⟩
    exact .cons h hlater

theorem row_add : Row next (n + k) p e ↔ ∃ m, Row next n p m ∧ Row next k m e := by
  induction n generalizing p with
  | zero => simp [row_zero]
  | succ n ih =>
    rw [Nat.succ_add, row_succ]
    simp only [ih, row_succ]
    constructor
    · rintro ⟨m, hm, m', hfirst, hsecond⟩
      exact ⟨m', ⟨m, hm, hfirst⟩, hsecond⟩
    · rintro ⟨m', ⟨m, hm, hfirst⟩, hsecond⟩
      exact ⟨m, hm, m', hfirst, hsecond⟩

/-- Where one more step leads to the same spots, so does any number of them. -/
theorem mem_iff_row_of_fixed {spots : List Spot}
    (hfixed : ∀ e, e ∈ spots ↔ ∃ p ∈ spots, e ∈ next p) :
    e ∈ spots ↔ ∃ p ∈ spots, Row next n p e := by
  induction n generalizing e with
  | zero => simp [row_zero]
  | succ n ih =>
    rw [ih]
    simp only [row_succ]
    constructor
    · rintro ⟨p, hp, hrow⟩
      obtain ⟨q, hq, hstep⟩ := (hfixed p).1 hp
      exact ⟨q, hq, p, hstep, hrow⟩
    · rintro ⟨q, hq, p, hstep, hrow⟩
      exact ⟨p, (hfixed p).2 ⟨q, hq, hstep⟩, hrow⟩

theorem mem_exactly : ∀ {n : Nat} {spots : List Spot},
    e ∈ exactly next n spots ↔ ∃ p ∈ spots, Row next n p e
  | 0, spots => by simp [exactly, row_zero]
  | n + 1, spots => by
    rw [exactly]
    split
    -- the rounds stop early once a round finds the spots that it began with
    · rename_i hsame
      have hfixed : ∀ q, q ∈ Rests.flatMap spotSize next spots ↔ ∃ p ∈ spots, q ∈ next p :=
        fun q => Rests.mem_flatMap
      rw [hsame] at hfixed
      exact mem_iff_row_of_fixed hfixed
    · rw [mem_exactly]
      simp only [Rests.mem_flatMap, row_succ]
      constructor
      · rintro ⟨m, ⟨p, hp, hm⟩, hrow⟩
        exact ⟨p, hp, m, hm, hrow⟩
      · rintro ⟨p, hp, m, hm, hrow⟩
        exact ⟨m, ⟨p, hp, hm⟩, hrow⟩

/-- Spots that no step leads out of are left by no row. -/
theorem Row.mem_of_closed {spots : List Spot} (hclosed : ∀ p ∈ spots, ∀ m ∈ next p, m ∈ spots)
    (h : Row next n p e) (hp : p ∈ spots) : e ∈ spots := by
  induction h with
  | nil p => exact hp
  | cons hm _ ih => exact ih (hclosed _ hp _ hm)

theorem mem_atMost : ∀ {n : Nat} {spots : List Spot},
    e ∈ atMost next n spots ↔ ∃ p ∈ spots, ∃ k ≤ n, Row next k p e
  | 0, spots => by simp [atMost, row_zero]
  | n + 1, spots => by
    rw [atMost]
    split
    · rename_i hsame
      have hclosed : ∀ p ∈ spots, ∀ m ∈ next p, m ∈ spots := by
        intro p hp m hm
        rw [← hsame]
        exact Rests.mem_union.2 (.inr (Rests.mem_flatMap.2 ⟨p, hp, hm⟩))
      constructor
      · intro he
        exact ⟨e, he, 0, Nat.zero_le _, .nil e⟩
      · rintro ⟨p, hp, k, -, hrow⟩
        exact hrow.mem_of_closed hclosed hp
    · rw [mem_atMost]
      simp only [Rests.mem_union, Rests.mem_flatMap]
      constructor
      · rintro ⟨m, hm | ⟨p, hp, hm⟩, k, hk, hrow⟩
        · exact ⟨m, hm, k, by omega, hrow⟩
        · exact ⟨p, hp, k + 1, by omega, .cons hm hrow⟩
      · rintro ⟨p, hp, _ | k, hk, hrow⟩
        · exact ⟨p, .inl hp, 0, by omega, hrow⟩
        · obtain ⟨m, hm, hrow⟩ := row_succ.1 hrow
          exact ⟨m, .inr ⟨p, hp, hm⟩, k, by omega, hrow⟩

/-! ## Onward -/

/-- A spot lies at or behind another one of the same text. -/
def Onward (p e : Spot) : Prop :=
  ∃ passed, p.rest = passed ++ e.rest ∧ e.before = passed.getLast?.or p.before

theorem Onward.refl (p : Spot) : Onward p p := ⟨[], rfl, rfl⟩

theorem Onward.trans (h : Onward p m) (h' : Onward m e) : Onward p e := by
  obtain ⟨passed, hrest, hbefore⟩ := h
  obtain ⟨passed', hrest', hbefore'⟩ := h'
  refine ⟨passed ++ passed', by rw [hrest, hrest', List.append_assoc], ?_⟩
  rw [hbefore', hbefore, List.getLast?_append, Option.or_assoc]

/-- Whoever does not stay leaves less of the text. -/
theorem Onward.eq_or_lt (h : Onward p e) : e = p ∨ e.rest.length < p.rest.length := by
  obtain ⟨passed, hrest, hbefore⟩ := h
  obtain ⟨before, rest⟩ := p
  obtain ⟨before', rest'⟩ := e
  cases passed with
  | nil =>
    have hrest : rest = rest' := hrest
    have hbefore : before' = before := hbefore
    exact .inl (by rw [hrest, hbefore])
  | cons c passed =>
    refine .inr ?_
    rw [hrest]
    simp only [List.length_append, List.length_cons]
    omega

theorem Row.onward (hnext : ∀ p, ∀ e ∈ next p, Onward p e) (h : Row next n p e) : Onward p e := by
  induction h with
  | nil p => exact .refl p
  | cons hm _ ih => exact (hnext _ _ hm).trans ih

theorem exists_row_of_mem_rep {least : Nat} {most : Option Nat}
    (h : e ∈ (rep r least most).ends p) : ∃ n ≥ least, Row r.ends n p e := by
  have hmore : ∃ bound, e ∈ atMost r.ends bound (exactly r.ends least [p]) := by
    cases most with
    | none => exact ⟨_, h⟩
    | some most => exact ⟨_, h⟩
  obtain ⟨bound, hmore⟩ := hmore
  obtain ⟨m, hm, k, -, hlater⟩ := mem_atMost.1 hmore
  obtain ⟨q, hq, hfirst⟩ := mem_exactly.1 hm
  cases List.mem_singleton.1 hq
  exact ⟨least + k, Nat.le_add_right _ _, row_add.2 ⟨m, hfirst, hlater⟩⟩

/-- No match goes back in the text. -/
theorem onward_of_mem_ends : ∀ (r : Regex) {p e : Spot}, e ∈ r.ends p → Onward p e
  | .empty, p, e, h => by
    rw [mem_ends_empty.1 h]
    exact .refl p
  | .oneOf set, p, e, h => by
    obtain ⟨c, hrest, hbefore, -⟩ := mem_ends_oneOf.1 h
    exact ⟨[c], hrest, hbefore⟩
  | .look l, p, e, h => by
    rw [(mem_ends_look.1 h).1]
    exact .refl p
  | .seq r s, p, e, h => by
    obtain ⟨m, hm, he⟩ := mem_ends_seq.1 h
    exact (onward_of_mem_ends r hm).trans (onward_of_mem_ends s he)
  | .alt r s, p, e, h => by
    rcases mem_ends_alt.1 h with he | he
    · exact onward_of_mem_ends r he
    · exact onward_of_mem_ends s he
  | .rep r least most, p, e, h => by
    obtain ⟨n, -, hrow⟩ := exists_row_of_mem_rep h
    exact hrow.onward fun _ _ => onward_of_mem_ends r

/-- Without the matches that stay, a row is no longer than what is left of the text. -/
theorem Row.shorten (hnext : ∀ p, ∀ e ∈ next p, Onward p e) (h : Row next n p e) :
    ∃ k ≤ p.rest.length, Row next k p e := by
  induction h with
  | nil p => exact ⟨0, Nat.zero_le _, .nil p⟩
  | cons hm _ ih =>
    obtain ⟨k, hk, hrow⟩ := ih
    rcases (hnext _ _ hm).eq_or_lt with rfl | hless
    · exact ⟨k, hk, hrow⟩
    · exact ⟨k + 1, by omega, .cons hm hrow⟩

/-! ## Repetitions -/

/-- A repetition without an upper bound ends where a row of matches does that is long enough. -/
theorem mem_ends_rep {least : Nat} :
    e ∈ (rep r least none).ends p ↔ ∃ n ≥ least, Row r.ends n p e := by
  refine ⟨exists_row_of_mem_rep, ?_⟩
  rintro ⟨n, hn, hrow⟩
  obtain ⟨k, rfl⟩ := Nat.exists_eq_add_of_le hn
  obtain ⟨m, hfirst, hlater⟩ := row_add.1 hrow
  have hstep : ∀ p, ∀ e ∈ r.ends p, Onward p e := fun _ _ => onward_of_mem_ends r
  obtain ⟨k', hk', hshort⟩ := hlater.shorten hstep
  have hless : m.rest.length ≤ p.rest.length := by
    rcases (hfirst.onward hstep).eq_or_lt with rfl | hless
    · exact Nat.le_refl _
    · exact Nat.le_of_lt hless
  have hm : m ∈ exactly r.ends least [p] := mem_exactly.2 ⟨p, List.mem_singleton_self p, hfirst⟩
  exact mem_atMost.2 ⟨m, hm, k', by omega, hshort⟩

theorem row_oneOf : Row (oneOf set).ends n p e ↔ ∃ passed : Text, passed.length = n
    ∧ p.rest = passed ++ e.rest ∧ e.before = passed.getLast?.or p.before
    ∧ ∀ c ∈ passed, set.mem c.toNat = true := by
  induction n generalizing p with
  | zero =>
    rw [row_zero]
    constructor
    · rintro rfl
      exact ⟨[], rfl, rfl, rfl, by simp⟩
    · rintro ⟨passed, hlength, hrest, hbefore, -⟩
      cases List.length_eq_zero_iff.1 hlength
      obtain ⟨before, rest⟩ := p
      obtain ⟨before', rest'⟩ := e
      simp_all
  | succ n ih =>
    simp only [row_succ, ih, mem_ends_oneOf]
    constructor
    · rintro ⟨m, ⟨c, hrest, hbefore, hc⟩, passed, hlength, hrest', hbefore', hall⟩
      refine ⟨c :: passed, by simp [hlength], by simp [hrest, hrest'], ?_,
        List.forall_mem_cons.2 ⟨hc, hall⟩⟩
      rw [hbefore', hbefore, getLast?_cons_or]
    · rintro ⟨_ | ⟨c, passed⟩, hlength, hrest, hbefore, hall⟩
      · cases hlength
      · obtain ⟨hc, hall⟩ := List.forall_mem_cons.1 hall
        refine ⟨⟨some c, passed ++ e.rest⟩, ⟨c, hrest, rfl, hc⟩, passed, by simpa using hlength,
          rfl, ?_, hall⟩
        rw [hbefore, getLast?_cons_or]

/-- A repeated set of characters matches the texts of enough characters of the set. -/
theorem mem_ends_rep_oneOf {least : Nat} : e ∈ (rep (oneOf set) least none).ends p
    ↔ ∃ passed : Text, least ≤ passed.length ∧ p.rest = passed ++ e.rest
      ∧ e.before = passed.getLast?.or p.before ∧ ∀ c ∈ passed, set.mem c.toNat = true := by
  simp only [mem_ends_rep, row_oneOf]
  constructor
  · rintro ⟨n, hn, passed, rfl, hpassed⟩
    exact ⟨passed, hn, hpassed⟩
  · rintro ⟨passed, hlength, hpassed⟩
    exact ⟨passed.length, hlength, passed, rfl, hpassed⟩

end Regex

end AppBundle
