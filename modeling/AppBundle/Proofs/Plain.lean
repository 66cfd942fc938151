import AppBundle.Proofs.Parts
import Mathlib.Data.List.TakeWhile

/-!
# What the reader takes at once

Escapes, names of properties, counts and flags are read in one step. Out of verbose mode none of
them takes a backslash, a parenthesis, a bar or an opening bracket, other than the character behind
the backslash of an escape (`skips_of_readEscape`).
-/

namespace AppBundle

namespace RegexSyntax

/-- The character opens no escape and no class, and is no parenthesis and no bar. -/
def isPlain (c : Char) : Bool := !(['\\', '(', ')', '|', '['].contains c)

theorem isPlain_eq_false {c : Char} :
    isPlain c = false ↔ c = '\\' ∨ c = '(' ∨ c = ')' ∨ c = '|' ∨ c = '[' := by
  rw [isPlain, Bool.not_eq_false', List.contains_iff_mem]
  simp

/-- What none of the characters that are not plain passes, only plain ones pass. -/
theorem isPlain_of (test : Char → Bool) (htest : ['\\', '(', ')', '|', '['].any test = false)
    {c : Char} (hc : test c = true) : isPlain c = true := by
  refine Bool.not_eq_false _ ▸ fun hplain => ?_
  have hmem : c ∈ ['\\', '(', ')', '|', '['] := by simpa using isPlain_eq_false.1 hplain
  exact List.any_eq_false.1 htest c hmem hc

/-- Between a text and the rest of it stand plain characters only. -/
def Skips (t rest : Text) : Prop := ∃ taken, t = taken ++ rest ∧ ∀ c ∈ taken, isPlain c = true

section Skips

variable {t u rest : Text}

theorem Skips.refl (t : Text) : Skips t t := ⟨[], rfl, by simp⟩

theorem Skips.cons {c : Char} (hc : isPlain c = true) (h : Skips t rest) : Skips (c :: t) rest := by
  obtain ⟨taken, rfl, htaken⟩ := h
  exact ⟨c :: taken, rfl, List.forall_mem_cons.2 ⟨hc, htaken⟩⟩

theorem Skips.trans (h : Skips t u) (h' : Skips u rest) : Skips t rest := by
  obtain ⟨taken, rfl, htaken⟩ := h
  obtain ⟨taken', rfl, htaken'⟩ := h'
  exact ⟨taken ++ taken', (List.append_assoc _ _ _).symm,
    List.forall_mem_append.2 ⟨htaken, htaken'⟩⟩

/-- A test that only plain characters pass skips nothing but plain characters. -/
theorem skips_dropWhile (test : Char → Bool)
    (htest : ['\\', '(', ')', '|', '['].any test = false) (t : Text) :
    Skips t (t.dropWhile test) :=
  ⟨t.takeWhile test, List.takeWhile_append_dropWhile.symm,
    fun _ hc => isPlain_of test htest (List.mem_takeWhile_imp hc)⟩

theorem skips_dropLazyMark (t : Text) : Skips t (dropLazyMark t) := by
  unfold dropLazyMark
  split
  · exact .cons rfl (.refl _)
  · exact .refl _

end Skips

/-! ## Names of properties -/

section Properties

variable {name : Text} {c : Char}

/-- No byte of the text is that of a character that is not plain. Names that are fixed are compared
by their bytes, which are at hand. -/
def hasPlainBytes (s : String) : Bool :=
  s.toByteArray.data.toList.all fun b => !([92, 40, 41, 124, 91].contains b)

/-- A character that is not plain is one of the bytes of its text. -/
theorem mem_utf8Encode (hc : c ∈ name) (hplain : isPlain c = false) :
    c.val.toUInt8 ∈ name.utf8Encode.data.toList := by
  induction name with
  | nil => cases hc
  | cons d name ih =>
    rw [List.utf8Encode_cons, ByteArray.data_append, Array.toList_append, List.mem_append]
    rcases List.mem_cons.1 hc with rfl | hc
    · left
      rw [List.utf8Encode_singleton, List.data_toByteArray]
      rcases isPlain_eq_false.1 hplain with rfl | rfl | rfl | rfl | rfl <;> decide
    · exact .inr (ih hc)

theorem ne_of_not_plain (hc : c ∈ name) (hplain : isPlain c = false) {s : String}
    (hs : hasPlainBytes s = true) : String.ofList name ≠ s := by
  rintro rfl
  have hbyte : c.val.toUInt8 ∈ (String.ofList name).toByteArray.data.toList := by
    rw [String.toByteArray_ofList]
    exact mem_utf8Encode hc hplain
  have hpass := List.all_eq_true.1 hs _ hbyte
  rcases isPlain_eq_false.1 hplain with rfl | rfl | rfl | rfl | rfl <;> cases hpass

theorem category?_of_not_plain (hc : c ∈ name) (hplain : isPlain c = false) :
    CharSet.category? name = none := by
  unfold CharSet.category?
  split
  all_goals first
    | rfl
    | (rename_i h; exact absurd h (ne_of_not_plain hc hplain rfl))

theorem binaryProperty?_of_not_plain (hc : c ∈ name) (hplain : isPlain c = false) :
    CharSet.binaryProperty? name = none := by
  unfold CharSet.binaryProperty?
  dsimp only
  split
  all_goals first
    | rfl
    | (rename_i h; exact absurd h (ne_of_not_plain hc hplain rfl))

theorem script_named_of_not_plain (hc : c ∈ name) (hplain : isPlain c = false) :
    Script.named? (String.ofList name) = none := by
  have hnames : ∀ s ∈ Script.all, ∀ n ∈ s.names, hasPlainBytes n = true := by
    decide +kernel
  refine List.find?_eq_none.2 fun s hs hn => ?_
  exact ne_of_not_plain hc hplain (hnames s hs _ (List.contains_iff_mem.1 hn)) rfl

/-- The normal form of a property name keeps what is not plain. -/
theorem mem_propertyName (hc : c ∈ name) (hplain : isPlain c = false) :
    c ∈ CharSet.propertyName name := by
  have hkept : ∀ {t : Text}, c ∈ t → c ∈ (t.filter fun c =>
      c ≠ ' ' && c ≠ '_' && c ≠ '-' && c.toNat < 128).map Char.toLower := by
    intro t ht
    have hsame : c.toLower = c ∧ (c ≠ ' ' && c ≠ '_' && c ≠ '-' && c.toNat < 128) = true := by
      rcases isPlain_eq_false.1 hplain with rfl | rfl | rfl | rfl | rfl <;> decide
    exact List.mem_map.2 ⟨c, List.mem_filter.2 ⟨ht, by simpa using hsame.2⟩, hsame.1⟩
  have hletter : c.toLower ≠ 'i' ∧ c.toLower ≠ 's' := by
    rcases isPlain_eq_false.1 hplain with rfl | rfl | rfl | rfl | rfl <;> decide
  unfold CharSet.propertyName
  dsimp only
  split
  · rename_i i s rest
    split
    · rename_i his
      have hrest : c ∈ rest := by
        rcases List.mem_cons.1 hc with rfl | hc
        · exact absurd his.1 hletter.1
        · rcases List.mem_cons.1 hc with rfl | hc
          · exact absurd his.2 hletter.2
          · exact hc
      split
      · rename_i hisc
        have hmem := hkept hrest
        rw [hisc, List.mem_singleton] at hmem
        rw [hmem] at hplain
        cases hplain
      · exact hkept hrest
    · exact hkept hc
  · exact hkept hc

/-- No property has a name with a character that is not plain. -/
theorem property?_of_not_plain (hc : c ∈ name) (hplain : isPlain c = false) :
    CharSet.property? name = none := by
  have hmem := mem_propertyName hc hplain
  unfold CharSet.property?
  simp [category?_of_not_plain hmem hplain, binaryProperty?_of_not_plain hmem hplain,
    script_named_of_not_plain hmem hplain]

theorem propertyValue?_of_not_plain {value : Text} (hc : c ∈ name ∨ c ∈ value)
    (hplain : isPlain c = false) : CharSet.propertyValue? name value = none := by
  unfold CharSet.propertyValue?
  dsimp only
  rcases hc with hc | hc
  · have hmem := mem_propertyName hc hplain
    split
    all_goals first
      | rfl
      | (rename_i h; exact absurd h (ne_of_not_plain hmem hplain rfl))
  · have hmem := mem_propertyName hc hplain
    split
    · exact category?_of_not_plain hmem hplain
    · exact category?_of_not_plain hmem hplain
    · exact category?_of_not_plain hmem hplain
    · simp [script_named_of_not_plain hmem hplain]
    · simp [script_named_of_not_plain hmem hplain]
    · rfl

theorem mem_of_cutUnequal? : ∀ {t before after : Text}, cutUnequal? t = some (before, after) →
    c ∈ t → c ∈ before ∨ c ∈ after ∨ isPlain c = true
  | [], _, _, h, _ => by cases h
  | d :: t, before, after, h, hc => by
    unfold cutUnequal? at h
    split at h
    · cases ‹_ = []›
    · rename_i after' heq
      cases heq
      cases h
      rcases List.mem_cons.1 hc with rfl | hc
      · exact .inr (.inr rfl)
      · rcases List.mem_cons.1 hc with rfl | hc
        · exact .inr (.inr rfl)
        · exact .inr (.inl hc)
    · rename_i heq
      cases heq
      obtain ⟨⟨before', after'⟩, hlater, heq⟩ := Option.map_eq_some_iff.1 h
      cases heq
      rcases List.mem_cons.1 hc with rfl | hc
      · exact .inl (List.mem_cons_self ..)
      · exact (mem_of_cutUnequal? hlater hc).imp_left (List.mem_cons_of_mem _)

theorem mem_of_cutFirst? {sep : Char} (hsep : isPlain sep = true) : ∀ {t before after : Text},
    t.cutFirst? sep = some (before, after) → c ∈ t → c ∈ before ∨ c ∈ after ∨ isPlain c = true
  | [], _, _, h, _ => by cases h
  | d :: t, before, after, h, hc => by
    unfold Text.cutFirst? at h
    split at h
    · rename_i hd
      cases h
      rcases List.mem_cons.1 hc with rfl | hc
      · exact .inr (.inr (hd ▸ hsep))
      · exact .inr (.inl hc)
    · split at h
      · rename_i before' after' hlater
        cases h
        rcases List.mem_cons.1 hc with rfl | hc
        · exact .inl (List.mem_cons_self ..)
        · exact (mem_of_cutFirst? hsep hlater hc).imp_left (List.mem_cons_of_mem _)
      · cases h

/-- A name with a character that is not plain names no set. -/
theorem isPlain_of_propertySet? {set : CharSet} (h : propertySet? name = some set)
    (hc : c ∈ name) : isPlain c = true := by
  refine Bool.not_eq_false _ ▸ fun hplain => ?_
  unfold propertySet? at h
  split at h
  · rename_i property value hcut
    have hparts : c ∈ property ∨ c ∈ value ∨ isPlain c = true := by
      rcases Option.or_eq_some_iff.1 hcut with hcut | ⟨-, hcut⟩
      · rcases Option.or_eq_some_iff.1 hcut with hcut | ⟨-, hcut⟩
        · exact mem_of_cutUnequal? hcut hc
        · exact mem_of_cutFirst? rfl hcut hc
      · exact mem_of_cutFirst? rfl hcut hc
    have hpart : c ∈ property ∨ c ∈ value := by simpa [hplain] using hparts
    rw [propertyValue?_of_not_plain hpart hplain] at h
    cases h
  · rw [property?_of_not_plain hc hplain] at h
    cases h

end Properties

/-! ## Flags -/

section Flags

variable {flags flags' : RegexFlags}

/-- What sets flags or stands between letters that do. -/
def isFlagLetter (c : Char) : Bool := "-imsuRxU".toList.contains c

theorem isPlain_of_isFlagLetter {c : Char} (h : isFlagLetter c = true) : isPlain c = true :=
  isPlain_of isFlagLetter (by decide) h

theorem of_setFlag {on : Bool} {c : Char} (h : setFlag flags on c = some flags') :
    isFlagLetter c = true ∧ (c ≠ 'x' → flags'.verbose = flags.verbose) := by
  unfold setFlag at h
  split at h
  · cases h
    exact ⟨rfl, fun _ => rfl⟩
  · cases h
    exact ⟨rfl, fun _ => rfl⟩
  · cases h
    exact ⟨rfl, fun _ => rfl⟩
  · cases h
    exact ⟨rfl, fun _ => rfl⟩
  · cases h
    exact ⟨rfl, fun _ => rfl⟩
  · exact ⟨rfl, fun hx => absurd rfl hx⟩
  · cases h
    exact ⟨rfl, fun _ => rfl⟩
  · cases h

/-- Only the `x` among the letters that set flags starts and ends verbose mode. -/
theorem of_setFlags : ∀ {letters seen : Text} {on : Bool} {flags : RegexFlags},
    setFlags on seen flags letters = .ok flags' →
      (∀ c ∈ letters, isFlagLetter c = true) ∧ ('x' ∉ letters → flags'.verbose = flags.verbose)
  | [], _, _, _, h => by
    cases h
    exact ⟨by simp, fun _ => rfl⟩
  | c :: cs, seen, on, flags, h => by
    unfold setFlags at h
    split at h
    · cases h
    · split at h
      · rename_i hc
        split at h
        · cases h
        · obtain ⟨hletters, hsame⟩ := of_setFlags h
          exact ⟨List.forall_mem_cons.2 ⟨hc ▸ rfl, hletters⟩,
            fun hx => hsame fun hmem => hx (List.mem_cons_of_mem _ hmem)⟩
      · split at h
        · rename_i flags'' hflag
          obtain ⟨hc, hfirst⟩ := of_setFlag hflag
          obtain ⟨hletters, hsame⟩ := of_setFlags h
          refine ⟨List.forall_mem_cons.2 ⟨hc, hletters⟩, fun hx => ?_⟩
          rw [List.mem_cons, not_or] at hx
          exact (hsame hx.2).trans (hfirst (Ne.symm hx.1))
        · cases h

end Flags

variable {flags : RegexFlags} (hverbose : flags.verbose = false)

include hverbose

/-! ## Escapes -/

section Escapes

theorem skips_of_readHexDigits : ∀ {count value n : Nat} {t rest : Text},
    readHexDigits flags count value t = some (n, rest) → Skips t rest
  | 0, value, n, t, rest, h => by
    cases h
    exact .refl _
  | count + 1, value, n, t, rest, h => by
    unfold readHexDigits at h
    rw [next_of_not_verbose hverbose] at h
    cases t with
    | nil => cases h
    | cons c cs =>
      dsimp only at h
      split at h
      · rename_i digit hdigit
        have hc : isPlain c = true :=
          isPlain_of (fun c => (Json.hexValue? c).isSome) (by decide) (by simp [hdigit])
        exact .cons hc (skips_of_readHexDigits h)
      · cases h

/-- Hexadecimal digits in braces are plain. -/
theorem skips_of_readBracedHex : ∀ {steps n : Nat} {digits : Option Nat} {t rest : Text},
    readBracedHex flags steps digits t = some (n, rest) → Skips t rest
  | 0, n, digits, t, rest, h => by cases h
  | steps + 1, n, digits, t, rest, h => by
    unfold readBracedHex at h
    rw [next_of_not_verbose hverbose] at h
    cases t with
    | nil => cases h
    | cons c cs =>
      dsimp only at h
      split at h
      · rename_i hc
        subst hc
        obtain ⟨m, -, heq⟩ := Option.map_eq_some_iff.1 h
        cases heq
        exact .cons rfl (.refl _)
      · split at h
        · rename_i digit hdigit
          have hc : isPlain c = true :=
            isPlain_of (fun c => (Json.hexValue? c).isSome) (by decide) (by simp [hdigit])
          exact .cons hc (skips_of_readBracedHex h)
        · cases h

theorem skips_of_readHexEscape {count : Nat} {t rest : Text} {p : RegexPrimitive}
    (h : readHexEscape flags count t = .ok (p, rest)) : Skips t rest := by
  unfold readHexEscape at h
  rw [next_of_not_verbose hverbose] at h
  split at h
  · split at h
    · rename_i n rest' hread
      split at h
      · cases h
        exact .cons rfl (skips_of_readBracedHex hverbose hread)
      · cases h
    · cases h
  · split at h
    · rename_i n rest' hread
      split at h
      · cases h
        exact skips_of_readHexDigits hverbose hread
      · cases h
    · cases h

theorem skips_of_readBoundaryName {t name rest : Text}
    (h : readBoundaryName flags t = .ok (some (name, rest))) : Skips t rest := by
  unfold readBoundaryName at h
  simp only [next_of_not_verbose hverbose] at h
  split at h
  · rename_i cs
    cases cs with
    | nil => cases h
    | cons c cs =>
      dsimp only at h
      split at h
      · split at h
        · rename_i rest' heq
          cases h
          have hname := skips_dropWhile (fun c => c.isAlpha || c = '-') (by decide) (c :: cs)
          rw [heq] at hname
          exact .cons rfl (hname.trans (.cons rfl (.refl _)))
        · cases h
      · cases h
  · cases h

theorem skips_of_readBoundary {t rest : Text} {p : RegexPrimitive}
    (h : readBoundary flags t = .ok (p, rest)) : Skips t rest := by
  obtain ⟨named, hnamed, h⟩ := bind_eq_ok.1 h
  rcases named with _ | ⟨name, rest'⟩
  · cases h
    exact .refl _
  · have hskips := skips_of_readBoundaryName hverbose hnamed
    dsimp only at h
    split at h
    · cases h
      exact hskips
    · cases h
      exact hskips
    · cases h
      exact hskips
    · cases h
      exact hskips
    · cases h

theorem of_readBracedName : ∀ {steps : Nat} {t name rest : Text},
    readBracedName flags steps t = some (name, rest) → t = name ++ '\x7d' :: rest
  | 0, _, _, _, h => by cases h
  | steps + 1, t, name, rest, h => by
    unfold readBracedName at h
    rw [next_of_not_verbose hverbose] at h
    split at h
    · cases h
    · cases h
      rfl
    · obtain ⟨⟨name', rest'⟩, hlater, heq⟩ := Option.map_eq_some_iff.1 h
      cases heq
      rw [of_readBracedName hlater]
      rfl

theorem skips_of_readProperty {negated : Bool} {t rest : Text} {p : RegexPrimitive}
    (h : readProperty flags negated t = .ok (p, rest)) : Skips t rest := by
  unfold readProperty at h
  rw [next_of_not_verbose hverbose] at h
  dsimp only at h
  split at h
  · cases h
  · cases h
  · split at h
    · rename_i name rest' hname
      obtain ⟨_, hset, h⟩ := bind_eq_ok.1 h
      cases hset
      split at h
      · cases h
      · split at h
        · rename_i s hs
          cases h
          refine .cons rfl ⟨name ++ ['\x7d'], ?_, ?_⟩
          · simp [of_readBracedName hverbose hname]
          · exact List.forall_mem_append.2
              ⟨fun c => isPlain_of_propertySet? hs, List.forall_mem_singleton.2 rfl⟩
        · cases h
    · cases h
  · rename_i c cs _ _
    obtain ⟨_, hset, h⟩ := bind_eq_ok.1 h
    cases hset
    split at h
    · cases h
    · split at h
      · rename_i s hs
        cases h
        refine .cons (Bool.not_eq_false _ ▸ fun hplain => ?_) (.refl _)
        rw [property?_of_not_plain (List.mem_singleton_self c) hplain] at hs
        cases hs
      · cases h

/-- An escape takes one character, whichever it is, and plain ones behind it. -/
theorem skips_of_readEscape {c : Char} {t rest : Text} {p : RegexPrimitive}
    (h : readEscape flags (c :: t) = .ok (p, rest)) : Skips t rest := by
  have halone : ∀ {q}, Except.ok (q, t) = (.ok (p, rest) : Except RegexFault _) → Skips t rest := by
    intro q h
    cases h
    exact .refl t
  unfold readEscape at h
  dsimp only at h
  split at h
  · exact skips_of_readHexEscape hverbose h
  · exact skips_of_readHexEscape hverbose h
  · exact skips_of_readHexEscape hverbose h
  · exact skips_of_readProperty hverbose h
  · exact skips_of_readProperty hverbose h
  · exact halone h
  · exact halone h
  · exact halone h
  · exact halone h
  · exact halone h
  · exact halone h
  · exact halone h
  · exact halone h
  · exact skips_of_readBoundary hverbose h
  · exact halone h
  · exact halone h
  · exact halone h
  · split at h
    · exact halone h
    · split at h
      · exact halone h
      · cases h
    · split at h
      · exact halone h
      · cases h

end Escapes

/-! ## Counts -/

section Counts

theorem skips_of_digits : ∀ {steps : Nat} {value : Option Nat} {t : Text},
    Skips t (readCount.digits flags value steps t).2
  | 0, value, t => .refl t
  | steps + 1, value, [] => .refl []
  | steps + 1, value, c :: cs => by
    unfold readCount.digits
    dsimp only
    split
    · rename_i hc
      rw [next_of_not_verbose hverbose]
      exact .cons (isPlain_of Char.isDigit (by decide) hc) skips_of_digits
    · exact .refl _

theorem skips_of_readCount {t rest : Text} {n : Option Nat}
    (h : readCount flags t = .ok (n, rest)) : Skips t rest := by
  have hblank : ['\\', '(', ')', '|', '['].any CharClass.isBlank = false := by decide
  unfold readCount at h
  simp only [next_of_not_verbose hverbose] at h
  split at h
  · cases h
  · cases h
    exact ((skips_dropWhile _ hblank t).trans (skips_of_digits hverbose)).trans
      (skips_dropWhile _ hblank _)

/-- The counts of a repetition are plain. -/
theorem skips_of_readCounts {t rest : Text} {least : Nat} {most : Option Nat}
    (h : readCounts flags t = .ok (least, most, rest)) : Skips t rest := by
  obtain ⟨⟨first, rest'⟩, hfirst, h⟩ := bind_eq_ok.1 h
  rw [next_of_not_verbose hverbose] at hfirst
  refine (skips_of_readCount hverbose hfirst).trans ?_
  dsimp only at h
  split at h
  · split at h
    · cases h
      exact .cons rfl (.refl _)
    · cases h
  · rw [next_of_not_verbose hverbose] at h
    refine .cons rfl ?_
    split at h
    · split at h
      · cases h
        exact .cons rfl (.refl _)
      · cases h
    · obtain ⟨⟨second, rest''⟩, hsecond, h⟩ := bind_eq_ok.1 h
      refine (skips_of_readCount hverbose hsecond).trans ?_
      split at h
      · cases ‹(second, rest'') = _›
        split at h
        · cases h
          exact .cons rfl (.refl _)
        · cases h
      · cases h
  · cases h

end Counts

end RegexSyntax

end AppBundle
