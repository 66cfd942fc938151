import AppBundle.Text
import Mathlib.Tactic.SplitIfs

/-!
# The order of texts in bytes

Where two texts part, the encodings of the characters there part as well, with the smaller byte in
that of the smaller character (`Text.separates_encode`). So texts come in the same order by their
code points and by their bytes (`Text.bytes_lt_bytes`), and so do lists of names.
-/

namespace AppBundle

namespace Text

/-- The first bytes in which the two differ are there in both, and the left one is smaller. -/
inductive Separates : List UInt8 → List UInt8 → Prop
  | here {x y : UInt8} {p q : List UInt8} (h : x < y) : Separates (x :: p) (y :: q)
  | later {x : UInt8} {p q : List UInt8} (h : Separates p q) : Separates (x :: p) (x :: q)

variable {x y : UInt8} {p q rest rest' : List UInt8} {c d : Char} {s t : Text}

theorem separates_cons : Separates (x :: p) (y :: q) ↔ x < y ∨ x = y ∧ Separates p q := by
  constructor
  · rintro (h | h)
    · exact .inl h
    · exact .inr ⟨rfl, h⟩
  · rintro (h | ⟨rfl, h⟩)
    · exact .here h
    · exact .later h

/-- Whatever follows the two does not matter to their order. -/
theorem Separates.append_lt (h : Separates p q) : p ++ rest < q ++ rest' := by
  induction h with
  | here h => exact List.cons_lt_cons_iff.2 (.inl h)
  | later _ ih => exact List.cons_lt_cons_iff.2 (.inr ⟨rfl, ih⟩)

theorem ofNat_lt_ofNat {m n : Nat} (hm : m < 256) (hn : n < 256) :
    UInt8.ofNat m < UInt8.ofNat n ↔ m < n := by
  rw [UInt8.lt_iff_toNat_lt, UInt8.toNat_ofNat', UInt8.toNat_ofNat', Nat.mod_eq_of_lt hm,
    Nat.mod_eq_of_lt hn]

theorem ofNat_eq_ofNat {m n : Nat} (hm : m < 256) (hn : n < 256) :
    UInt8.ofNat m = UInt8.ofNat n ↔ m = n := by
  rw [← UInt8.toNat_inj, UInt8.toNat_ofNat', UInt8.toNat_ofNat', Nat.mod_eq_of_lt hm,
    Nat.mod_eq_of_lt hn]

/-- The smaller of two characters has the smaller byte where their encodings part. -/
theorem separates_encode (h : c < d) :
    Separates (String.utf8EncodeChar c) (String.utf8EncodeChar d) := by
  have hlt : c.val.toNat < d.val.toNat := h
  have hmax : d.val.toNat < 1114112 := by
    rcases d.valid with hlow | ⟨-, hhigh⟩
    · exact Nat.lt_trans hlow (by decide)
    · exact hhigh
  unfold String.utf8EncodeChar
  dsimp only
  generalize c.val.toNat = m at *
  generalize d.val.toNat = n at *
  by_cases hlong : 65535 < m
  · rw [if_neg (by omega), if_neg (by omega), if_neg (by omega), if_neg (by omega),
      if_neg (by omega), if_neg (by omega)]
    simp (disch := omega) only [separates_cons, ofNat_lt_ofNat, ofNat_eq_ofNat]
    -- Four bytes each: the first two part, or the others do.
    rcases Nat.lt_or_eq_of_le (Nat.div_le_div_right (c := 4096) (Nat.le_of_lt hlt)) with
      hhigh | hhigh
    · omega
    · omega
  · split_ifs <;> simp (disch := omega) only [separates_cons, ofNat_lt_ofNat, ofNat_eq_ofNat] <;>
      omega

/-- Texts come in the same order by their bytes. -/
theorem bytes_lt_bytes : ∀ {s t : Text}, s < t → bytes s < bytes t
  | _, [], h => absurd h (List.not_lt_nil _)
  | [], d :: ds, _ => by
    obtain ⟨b, bs, hencode⟩ := List.exists_cons_of_ne_nil (String.utf8EncodeChar_ne_nil (c := d))
    rw [bytes, bytes, List.flatMap_nil, List.flatMap_cons, hencode]
    exact List.nil_lt_cons _ _
  | c :: cs, d :: ds, h => by
    rw [bytes, bytes, List.flatMap_cons, List.flatMap_cons]
    rcases List.cons_lt_cons_iff.1 h with hchar | ⟨rfl, hrest⟩
    · exact (separates_encode hchar).append_lt
    · exact List.append_left_lt (bytes_lt_bytes hrest)

theorem map_bytes_lt {names names' : List Text} (h : names < names') :
    names.map bytes < names'.map bytes := List.map_lt (fun _ _ => bytes_lt_bytes) h

end Text

end AppBundle
