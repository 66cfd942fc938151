import AppBundle.Proofs.Plain

/-!
# Groups that parentheses count

In a text without classes and without verbose mode the groups can be told from the parentheses
alone, with a backslash hiding the next character (`Nested`). There a reader is inside as many
groups as parentheses are open (`Follows.reads`), so that a bar which stands inside of parentheses
never divides the outermost group (`begins_of_parse`). The one class that a text may hold is
the one of what belongs to a segment.
-/

namespace AppBundle

namespace RegexSyntax

/-- The flags behind an opening parenthesis, if there are any, start or end verbose mode. -/
def setsVerbose (t : Text) : Bool :=
  t.head? = some '?' && (t.takeWhile fun c => c ≠ ':' && c ≠ ')' && c ≠ '<').contains 'x'

/-- The parentheses of the text close as many groups as are open in front of it. Bars stand inside
of them, the only class is that of a segment, and there is no verbose mode. -/
inductive Nested : Nat → Text → Prop
  | done : Nested 0 []
  | hidden {depth : Nat} {c : Char} {t : Text} (h : Nested depth t) : Nested depth ('\\' :: c :: t)
  | opening {depth : Nat} {t : Text} (hflags : setsVerbose t = false) (h : Nested (depth + 1) t) :
      Nested depth ('(' :: t)
  | closing {depth : Nat} {t : Text} (h : Nested depth t) : Nested (depth + 1) (')' :: t)
  | bar {depth : Nat} {t : Text} (h : Nested (depth + 1) t) : Nested (depth + 1) ('|' :: t)
  | segment {depth : Nat} {t : Text} (h : Nested depth t) :
      Nested depth ('[' :: '^' :: '/' :: ']' :: t)
  | plain {depth : Nat} {c : Char} {t : Text} (hc : isPlain c = true) (h : Nested depth t) :
      Nested depth (c :: t)

namespace Nested

variable {depth : Nat} {c : Char} {t rest : Text}

theorem of_hidden (h : Nested depth ('\\' :: t)) : ∃ c t', t = c :: t' ∧ Nested depth t' := by
  cases h with
  | hidden h => exact ⟨_, _, rfl, h⟩
  | plain hc => cases hc

theorem of_opening (h : Nested depth ('(' :: t)) :
    setsVerbose t = false ∧ Nested (depth + 1) t := by
  cases h with
  | opening hflags h => exact ⟨hflags, h⟩
  | plain hc => cases hc

theorem of_closing (h : Nested (depth + 1) (')' :: t)) : Nested depth t := by
  cases h with
  | closing h => exact h
  | plain hc => cases hc

theorem of_bar (h : Nested depth ('|' :: t)) : depth ≠ 0 ∧ Nested depth t := by
  cases h with
  | bar h => exact ⟨Nat.succ_ne_zero _, h⟩
  | plain hc => cases hc

theorem of_bracket (h : Nested depth ('[' :: t)) :
    ∃ t', t = '^' :: '/' :: ']' :: t' ∧ Nested depth t' := by
  cases h with
  | segment h => exact ⟨_, rfl, h⟩
  | plain hc => cases hc

theorem of_plain (hc : isPlain c = true) (h : Nested depth (c :: t)) : Nested depth t := by
  cases h with
  | hidden => cases hc
  | opening => cases hc
  | closing => cases hc
  | bar => cases hc
  | segment => cases hc
  | plain _ h => exact h

theorem of_skips (hskips : Skips t rest) (h : Nested depth t) : Nested depth rest := by
  obtain ⟨taken, rfl, htaken⟩ := hskips
  induction taken with
  | nil => exact h
  | cons c taken ih =>
    obtain ⟨hc, htaken⟩ := List.forall_mem_cons.1 htaken
    exact ih htaken (of_plain hc h)

theorem isPlain_of_isNameChar (hc : isNameChar c = true) (hbracket : c ≠ '[') :
    isPlain c = true :=
  isPlain_of (fun c => isNameChar c && c ≠ '[') (by decide +kernel) (by simp [hc, hbracket])

/-- No class starts in the name of a group. -/
theorem of_name : ∀ {name : Text}, (∀ c ∈ name, isNameChar c = true) →
    Nested depth (name ++ '>' :: rest) → Nested depth rest
  | [], _, h => of_plain rfl h
  | c :: name, hname, h => by
    obtain ⟨hc, hlater⟩ := List.forall_mem_cons.1 hname
    by_cases hbracket : c = '['
    · subst hbracket
      obtain ⟨t', ht', -⟩ := of_bracket h
      cases name with
      | nil => cases ht'
      | cons d name =>
        obtain ⟨rfl, -⟩ := List.cons.inj ht'
        exact absurd (hlater '^' (by simp)) (by decide +kernel)
    · exact of_name hlater (of_plain (isPlain_of_isNameChar hc hbracket) h)

end Nested

/-! ## Groups and classes -/

section Groups

theorem of_dropWhile_eq_cons {test : Char → Bool} {t rest : Text} {c : Char}
    (h : t.dropWhile test = c :: rest) : t = t.takeWhile test ++ c :: rest ∧ test c = false := by
  constructor
  · rw [← h, List.takeWhile_append_dropWhile]
  · have hstop := List.head_dropWhile_not test (l := t) (by rw [h]; exact List.cons_ne_nil c rest)
    simpa [h] using hstop

/-- Behind the name of a group the depth is the same. -/
theorem leaves_of_readGroupName {depth : Nat} {t name rest : Text} (ht : Nested depth t)
    (h : readGroupName t = .ok (name, rest)) : Nested depth rest := by
  unfold readGroupName at h
  dsimp only at h
  split at h
  · cases h
  · rename_i c rest' hrest
    split at h
    · rename_i hname
      cases h
      obtain ⟨hsplit, hc⟩ := of_dropWhile_eq_cons hrest
      have hend : c = '>' := by simpa using hc
      rw [hsplit, hend] at ht
      exact ht.of_name (List.all_eq_true.1 hname.2)
    · cases h

theorem not_mem_letters {letters rest : Text} (hletters : ∀ c ∈ letters, isFlagLetter c = true)
    (h : setsVerbose ('?' :: letters ++ rest) = false) : 'x' ∉ letters := by
  have hpass : ∀ c ∈ letters, (c ≠ ':' && c ≠ ')' && c ≠ '<') = true := by
    intro c hc
    have hall : ("-imsuRxU".toList.all fun c => c ≠ ':' && c ≠ ')' && c ≠ '<') = true := by decide
    exact List.all_eq_true.1 hall c (List.contains_iff_mem.1 (hletters c hc))
  intro hx
  rw [setsVerbose, List.cons_append, List.takeWhile_cons_of_pos (by decide),
    List.takeWhile_append_of_pos hpass] at h
  simp [hx] at h

variable {flags : RegexFlags} (hverbose : flags.verbose = false)

include hverbose

/-- What opens in a text that is nested leaves nested text, inside of one more group or not. -/
def Opening.Leaves (depth : Nat) : Opening → Prop
  | .group flags _ rest => flags.verbose = false ∧ Nested (depth + 1) rest
  | .flags flags rest => flags.verbose = false ∧ Nested depth rest

/-- Behind the opening of a group the depth is one more, and behind flags the same. -/
theorem leaves_of_readGroup {depth : Nat} {t : Text} {opening : Opening}
    (ht : Nested depth ('(' :: t)) (h : readGroup flags t = .ok opening) :
    opening.Leaves depth := by
  obtain ⟨hsets, ht⟩ := ht.of_opening
  unfold readGroup at h
  rw [next_of_not_verbose hverbose] at h
  dsimp only at h
  split at h
  · cases h
  · cases h
  · cases h
  · cases h
  · obtain ⟨⟨name, rest⟩, hname, h⟩ := bind_eq_ok.1 h
    cases h
    have hbehind := Nested.of_plain rfl (Nested.of_plain rfl (Nested.of_plain rfl ht))
    exact ⟨hverbose, leaves_of_readGroupName hbehind hname⟩
  · obtain ⟨⟨name, rest⟩, hname, h⟩ := bind_eq_ok.1 h
    cases h
    have hbehind := Nested.of_plain rfl (Nested.of_plain rfl ht)
    exact ⟨hverbose, leaves_of_readGroupName hbehind hname⟩
  · split at h
    · cases h
    · rename_i closing rest hclosing
      obtain ⟨flags', hflags, h⟩ := bind_eq_ok.1 h
      obtain ⟨hletters, hsame⟩ := of_setFlags hflags
      obtain ⟨hsplit, hclosing⟩ := of_dropWhile_eq_cons hclosing
      rw [hsplit] at ht hsets
      have hverbose' := (hsame (not_mem_letters hletters hsets)).trans hverbose
      have hplain := fun c hc => isPlain_of_isFlagLetter (hletters c hc)
      have hrest := (Nested.of_plain rfl ht).of_skips ⟨_, rfl, hplain⟩
      split at h
      · rename_i hcolon
        cases h
        exact ⟨hverbose', (hcolon ▸ hrest).of_plain rfl⟩
      · rename_i hcolon
        split at h
        · cases h
        · cases h
          have hparenthesis : closing = ')' := by simpa [hcolon] using hclosing
          exact ⟨hverbose', (hparenthesis ▸ hrest).of_closing⟩
  · cases h
    exact ⟨hverbose, ht⟩

theorem readBracket_segment {t rest : Text} {set : CharSet} {depth : Nat}
    (h : readBracket flags ('^' :: '/' :: ']' :: t) = .ok (set, depth, rest)) : rest = t := by
  have hhyphens : ∀ (steps : Nat) (c : OpenClass) (u : Text),
      readHyphens flags steps c ('/' :: u) = (c, '/' :: u) := by
    intro steps c u
    cases steps <;> rfl
  have hopening : readOpening flags ('^' :: '/' :: ']' :: t)
      = ({ negated := true }, '/' :: ']' :: t) := by
    simp only [readOpening, next_of_not_verbose hverbose, hhyphens]
    rfl
  have hitem : ∀ {s rest'}, readClassRange flags ('/' :: ']' :: t) = .ok (s, rest') →
      rest' = ']' :: t := by
    intro s rest' h
    obtain ⟨lower, hlower, h⟩ := bind_eq_ok.1 h
    cases hlower
    simp only [next_of_not_verbose hverbose] at h
    obtain ⟨set, -, h⟩ := bind_eq_ok.1 h
    cases h
    rfl
  unfold readBracket at h
  rw [hopening] at h
  unfold readClasses at h
  simp only [next_of_not_verbose hverbose] at h
  obtain ⟨⟨s, rest'⟩, hread, h⟩ := bind_eq_ok.1 h
  dsimp only at h
  rw [hitem hread, List.length_cons] at h
  unfold readClasses at h
  simp only [next_of_not_verbose hverbose] at h
  obtain ⟨⟨set', depth'⟩, -, h⟩ := bind_eq_ok.1 h
  cases h
  rfl

end Groups

/-! ## Steps -/

/-- The outermost group has no branch but the one being read. -/
def Unbranched : List OpenGroup → OpenGroup → Prop
  | [], g => g.branches = []
  | parent :: outer, _ => Unbranched outer parent

/-- A reader out of verbose mode is inside as many groups as the text closes, and has divided
none but inner ones. -/
structure Follows (outer : List OpenGroup) (g : OpenGroup) (t : Text) : Prop where
  text : Nested outer.length t
  flags : ∀ o ∈ g :: outer, o.flags.verbose = false
  root : Unbranched outer g

section Follows

variable {outer outer' : List OpenGroup} {g g' : OpenGroup} {t t' : Text}

theorem Unbranched.replace (h : Unbranched outer g) (hbranches : g'.branches = g.branches) :
    Unbranched outer g' := by
  cases outer with
  | nil => exact hbranches.trans h
  | cons parent outer => exact h

theorem Follows.verbose (h : Follows outer g t) : g.flags.verbose = false :=
  h.flags g (List.mem_cons_self ..)

theorem Follows.next (h : Follows outer g t) {u : Text} (hu : next g.flags t = u) :
    Nested outer.length u := by
  rw [← hu, next_of_not_verbose h.verbose]
  exact h.text

theorem Follows.replace (h : Follows outer g t) (ht : Nested outer.length t')
    (hflags : g'.flags.verbose = false) (hbranches : g'.branches = g.branches) :
    Follows outer g' t' where
  text := ht
  flags := List.forall_mem_cons.2 ⟨hflags, (List.forall_mem_cons.1 h.flags).2⟩
  root := h.root.replace hbranches

/-- A repetition changes neither the flags nor the branches. -/
theorem OpenGroup.of_repeatLast {least : Nat} {most : Option Nat}
    (h : g.repeatLast least most = .ok g') : g'.flags = g.flags ∧ g'.branches = g.branches := by
  unfold OpenGroup.repeatLast at h
  split at h
  · cases h
    exact ⟨rfl, rfl⟩
  · cases h

theorem Follows.repeated (h : Follows outer g t) {least : Nat} {most : Option Nat}
    (ht : Nested outer.length t') (hrepeat : g.repeatLast least most = .ok g') :
    Follows outer g' t' := by
  obtain ⟨hflags, hbranches⟩ := OpenGroup.of_repeatLast hrepeat
  exact h.replace ht (by rw [hflags]; exact h.verbose) hbranches

/-- Behind a character or an escape the depth is the same. -/
theorem nested_of_readPrimitive {c : Char} {depth : Nat} {cs rest : Text} {p : RegexPrimitive}
    {flags : RegexFlags} (hverbose : flags.verbose = false) (ht : Nested depth (c :: cs))
    (hc : isStructure c = false) (h : readPrimitive flags (c :: cs) = .ok (p, rest)) :
    Nested depth rest := by
  by_cases hescape : c = '\\'
  · subst hescape
    obtain ⟨d, cs', rfl, hbehind⟩ := ht.of_hidden
    exact hbehind.of_skips (skips_of_readEscape hverbose h)
  · have hplain : isPlain c = true := by
      refine isPlain_of (fun c => !isStructure c && c ≠ '\\') (by decide) ?_
      simp [hc, hescape]
    have hrest : rest = cs := by
      unfold readPrimitive at h
      split at h
      · cases h
      · rename_i heq
        exact absurd (List.cons.inj heq).1 hescape
      all_goals
        rename_i heq
        rw [(List.cons.inj heq).2]
        cases h
        rfl
    rw [hrest]
    exact ht.of_plain hplain

/-- Every step of a reader goes on with nested text. -/
theorem Follows.reads (hreads : Reads outer g t outer' g' t') (h : Follows outer g t) :
    Follows outer' g' t' := by
  cases hreads with
  | flags ht hread =>
    obtain ⟨hflags, hrest⟩ := leaves_of_readGroup h.verbose (h.next ht) hread
    exact h.replace hrest hflags rfl
  | opened ht hread =>
    obtain ⟨hflags, hrest⟩ := leaves_of_readGroup h.verbose (h.next ht) hread
    exact ⟨hrest, List.forall_mem_cons.2 ⟨hflags, h.flags⟩, h.root⟩
  | closed ht =>
    obtain ⟨-, hflags⟩ := List.forall_mem_cons.1 h.flags
    obtain ⟨hparent, houter⟩ := List.forall_mem_cons.1 hflags
    have hroot : Unbranched outer' _ := h.root
    exact ⟨(h.next ht).of_closing, List.forall_mem_cons.2 ⟨hparent, houter⟩, hroot.replace rfl⟩
  | branch ht =>
    obtain ⟨hdepth, hrest⟩ := (h.next ht).of_bar
    obtain ⟨parent, outer, rfl⟩ := List.exists_cons_of_length_pos (Nat.pos_of_ne_zero hdepth)
    obtain ⟨hflags, houter⟩ := List.forall_mem_cons.1 h.flags
    exact ⟨hrest, List.forall_mem_cons.2 ⟨hflags, houter⟩, h.root⟩
  | bracket ht hread =>
    obtain ⟨t', rfl, hrest⟩ := (h.next ht).of_bracket
    rw [readBracket_segment h.verbose hread]
    exact h.replace hrest h.verbose rfl
  | repeated ht hc hrepeat =>
    have hplain := isPlain_of (fun c => ['?', '*', '+'].contains c) (by decide) (by simpa using hc)
    have hrest := ((h.next ht).of_plain hplain).of_skips (skips_dropLazyMark _)
    exact h.repeated hrest hrepeat
  | counted ht hcounts hrepeat =>
    have hbehind := ((h.next ht).of_plain rfl).of_skips (skips_of_readCounts h.verbose hcounts)
    rw [next_of_not_verbose h.verbose]
    exact h.repeated (hbehind.of_skips (skips_dropLazyMark _)) hrepeat
  | primitive ht hc hp =>
    exact h.replace (nested_of_readPrimitive h.verbose (h.next ht) hc hp) h.verbose rfl

end Follows

/-! ## Expressions -/

/-- An expression that asks for the start of a text and some characters, before it opens a group or
ends, is the one of a group that begins so. The group is undivided if what is behind is nested. -/
theorem begins_of_parse {opening tail : Text} {r : Regex}
    (htail : tail.head? = some '(' ∨ tail.head? = some '$')
    (h : Regex.parse ('^' :: (Regex.escape opening ++ tail)) = .ok r) :
    ∃ g, Begins (.look .textStart :: opening.map Regex.ofChar) g ∧ r = g.close.1
      ∧ (Nested 0 tail → g.branches = []) := by
  obtain ⟨⟨r', depth⟩, hread, h⟩ := bind_eq_ok.1 h
  obtain rfl : r' = r := by
    dsimp only at h
    split at h
    · cases h
      rfl
    · cases h
  rcases reads_of_readParts hread with ⟨hend, -⟩ | ⟨_, _, _, _, _, hsteps, hreads, hread⟩
  · cases hend
  obtain ⟨houter, hg, ht⟩ := Reads.of_caret rfl hreads
  rw [houter, hg, ht] at hread
  obtain ⟨_, _, g, hread, hflags, hbranches, hparts⟩ := exists_readParts_of_escape rfl hread
  have hwaits : Waits (.look .textStart :: opening.map Regex.ofChar) g := by
    constructor
    · rw [hparts]
      simp [OpenGroup.push, Part.regex, Function.comp_def]
    · exact hbranches
  have hnested : Nested 0 tail → Follows [] g tail := fun hnested =>
    ⟨hnested, by simp [hflags], hbranches⟩
  rcases reads_of_readParts hread with ⟨hend, -⟩ | ⟨_, _, _, _, _, hsteps, hreads, hread⟩
  · rw [next_of_not_verbose (by rw [hflags])] at hend
    rw [hend] at htail
    simp at htail
  have hstart := hwaits.reads hflags htail hreads
  obtain ⟨g', t', ⟨hrooted, hfollows⟩, -, hr⟩ := readParts_keeps
    (P := fun outer g t => Rooted (.look .textStart :: opening.map Regex.ofChar) outer g
      ∧ (Nested 0 tail → Follows outer g t))
    (fun hreads h => ⟨h.1.reads hreads, fun hnested => (h.2 hnested).reads hreads⟩) hread
    ⟨hstart, fun h => (hnested h).reads hreads⟩
  exact ⟨g', hrooted.begins, congrArg Prod.fst hr, fun h => (hfollows h).root⟩

end RegexSyntax

end AppBundle
