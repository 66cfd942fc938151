import AppBundle.Proofs.Matching
import AppBundle.Proofs.Reading

/-!
# Reading regular expressions part by part

`Reads` is one step of the reader, from the groups that are open and the text that is left to those
after it, and what every step keeps holds when the reading ends (`readParts_keeps`).

A group that begins with some expressions keeps them in front of its first branch, once there is
something behind them for a repetition to take (`Rooted.reads`). So an expression that is read from
there is a choice whose first branch begins with them (`Begins.close`).
-/

namespace AppBundle

namespace RegexSyntax

/-! ## Steps -/

/-- The characters that end a primitive or are none. -/
def isStructure (c : Char) : Bool := "()|[?*+\x7b".toList.contains c

theorem mem_structure {c : Char} : isStructure c = true ↔ c = '(' ∨ c = ')' ∨ c = '|' ∨ c = '['
    ∨ c = '?' ∨ c = '*' ∨ c = '+' ∨ c = '\x7b' := by
  simp [isStructure]

/-- One step of the reader. -/
inductive Reads : List OpenGroup → OpenGroup → Text → List OpenGroup → OpenGroup → Text → Prop
  | flags {outer : List OpenGroup} {g : OpenGroup} {t cs rest : Text} {flags : RegexFlags}
      (ht : next g.flags t = '(' :: cs) (h : readGroup g.flags cs = .ok (.flags flags rest)) :
      Reads outer g t outer { g with flags, parts := .flags :: g.parts } rest
  | opened {outer : List OpenGroup} {g : OpenGroup} {t cs rest : Text} {flags : RegexFlags}
      {name : Option Text} (ht : next g.flags t = '(' :: cs)
      (h : readGroup g.flags cs = .ok (.group flags name rest)) :
      Reads outer g t (g :: outer) { flags } rest
  | closed {outer : List OpenGroup} {parent g : OpenGroup} {t cs : Text}
      (ht : next g.flags t = ')' :: cs) :
      Reads (parent :: outer) g t outer (parent.push g.close.1 (g.close.2 + 1)) cs
  | branch {outer : List OpenGroup} {g : OpenGroup} {t cs : Text}
      (ht : next g.flags t = '|' :: cs) : Reads outer g t outer g.nextBranch cs
  | bracket {outer : List OpenGroup} {g : OpenGroup} {t cs rest : Text} {set : CharSet}
      {depth : Nat} (ht : next g.flags t = '[' :: cs)
      (h : readBracket g.flags cs = .ok (set, depth, rest)) :
      Reads outer g t outer (g.push (.oneOf set) depth) rest
  | repeated {outer : List OpenGroup} {g g' : OpenGroup} {t cs : Text} {c : Char} {least : Nat}
      {most : Option Nat} (ht : next g.flags t = c :: cs) (hc : c ∈ ['?', '*', '+'])
      (h : g.repeatLast least most = .ok g') : Reads outer g t outer g' (dropLazyMark cs)
  | counted {outer : List OpenGroup} {g g' : OpenGroup} {t cs rest : Text} {least : Nat}
      {most : Option Nat} (ht : next g.flags t = '\x7b' :: cs)
      (hcounts : readCounts g.flags cs = .ok (least, most, rest))
      (h : g.repeatLast least most = .ok g') :
      Reads outer g t outer g' (dropLazyMark (next g.flags rest))
  | primitive {outer : List OpenGroup} {g : OpenGroup} {t cs rest : Text} {c : Char}
      {p : RegexPrimitive} {r : Regex} (ht : next g.flags t = c :: cs) (hc : isStructure c = false)
      (hp : readPrimitive g.flags (c :: cs) = .ok (p, rest)) (h : ofPrimitive g.flags p = .ok r) :
      Reads outer g t outer (g.push r 0) rest

theorem OpenGroup.repeatLast_of_counted {g g' : OpenGroup} {least : Nat} {most : Option Nat}
    (h : g.repeatCounted least most = .ok g') : g.repeatLast least most = .ok g' := by
  obtain ⟨g₁, hg, h⟩ := bind_eq_ok.1 h
  split at h
  · cases h
    exact hg
  · cases h

/-- A reading that succeeds is at its end or makes a step. -/
theorem reads_of_readParts {steps : Nat} {names : List Text} {outer : List OpenGroup}
    {g : OpenGroup} {t : Text} {result : Regex × Nat}
    (h : readParts steps names outer g t = .ok result) :
    (next g.flags t = [] ∧ outer = [] ∧ result = g.close)
      ∨ ∃ steps' names' outer' g' t', steps = steps' + 1 ∧ Reads outer g t outer' g' t'
        ∧ readParts steps' names' outer' g' t' = .ok result := by
  cases steps with
  | zero => cases h
  | succ steps =>
    -- one step of the reader, up to what is left of the text
    conv at h =>
      lhs
      whnf
    split at h
    · rename_i hend
      split at h
      · rename_i houter
        cases h
        exact .inl ⟨hend, List.isEmpty_iff.1 houter, rfl⟩
      · cases h
    · rename_i cs ht
      obtain ⟨opening, hopening, h⟩ := bind_eq_ok.1 h
      cases opening with
      | flags flags rest => exact .inr ⟨_, _, _, _, _, rfl, .flags ht hopening, h⟩
      | group flags name rest =>
        cases name with
        | none => exact .inr ⟨_, _, _, _, _, rfl, .opened ht hopening, h⟩
        | some name =>
          dsimp only at h
          split at h
          · cases h
          · exact .inr ⟨_, _, _, _, _, rfl, .opened ht hopening, h⟩
    · rename_i cs ht
      cases outer with
      | nil => cases h
      | cons parent outer => exact .inr ⟨_, _, _, _, _, rfl, .closed ht, h⟩
    · rename_i cs ht
      exact .inr ⟨_, _, _, _, _, rfl, .branch ht, h⟩
    · rename_i cs ht
      obtain ⟨⟨set, depth, rest⟩, hbracket, h⟩ := bind_eq_ok.1 h
      exact .inr ⟨_, _, _, _, _, rfl, .bracket ht hbracket, h⟩
    · rename_i cs ht
      obtain ⟨g', hg', h⟩ := bind_eq_ok.1 h
      exact .inr ⟨_, _, _, _, _, rfl, .repeated ht (by simp) hg', h⟩
    · rename_i cs ht
      obtain ⟨g', hg', h⟩ := bind_eq_ok.1 h
      exact .inr ⟨_, _, _, _, _, rfl, .repeated ht (by simp) hg', h⟩
    · rename_i cs ht
      obtain ⟨g', hg', h⟩ := bind_eq_ok.1 h
      exact .inr ⟨_, _, _, _, _, rfl, .repeated ht (by simp) hg', h⟩
    · rename_i cs ht
      split at h
      · cases h
      · obtain ⟨⟨least, most, rest⟩, hcounts, h⟩ := bind_eq_ok.1 h
        obtain ⟨g', hg', h⟩ := bind_eq_ok.1 h
        exact .inr ⟨_, _, _, _, _, rfl,
          .counted ht hcounts (OpenGroup.repeatLast_of_counted hg'), h⟩
    · rename_i hnil hopen hclose hbar hbracket hquestion hstar hplus hbrace
      obtain ⟨⟨p, rest⟩, hp, h⟩ := bind_eq_ok.1 h
      obtain ⟨r, hr, h⟩ := bind_eq_ok.1 h
      obtain ⟨c, cs, ht⟩ := List.exists_cons_of_ne_nil hnil
      have hc : isStructure c = false := by
        refine Bool.eq_false_iff.2 fun hc => ?_
        rcases mem_structure.1 hc with rfl | rfl | rfl | rfl | rfl | rfl | rfl | rfl
        · exact hopen cs ht
        · exact hclose cs ht
        · exact hbar cs ht
        · exact hbracket cs ht
        · exact hquestion cs ht
        · exact hstar cs ht
        · exact hplus cs ht
        · exact hbrace cs ht
      rw [ht] at hp
      exact .inr ⟨_, _, _, _, _, rfl, .primitive ht hc hp hr, h⟩

/-- What every step keeps holds when a reading ends. -/
theorem readParts_keeps {P : List OpenGroup → OpenGroup → Text → Prop}
    (hstep : ∀ {outer g t outer' g' t'}, Reads outer g t outer' g' t' → P outer g t →
      P outer' g' t') {result : Regex × Nat} :
    ∀ {steps : Nat} {names : List Text} {outer : List OpenGroup} {g : OpenGroup} {t : Text},
      readParts steps names outer g t = .ok result → P outer g t →
        ∃ g' t', P [] g' t' ∧ next g'.flags t' = [] ∧ result = g'.close
  | steps, names, outer, g, t, h, hP => by
    rcases reads_of_readParts h with ⟨hend, rfl, rfl⟩
      | ⟨steps', names', outer', g', t', rfl, hreads, hlater⟩
    · exact ⟨g, t, hP, hend, rfl⟩
    · exact readParts_keeps hstep hlater (hstep hreads hP)

/-! ## What a group begins with -/

/-- A group begins with some expressions, in its first branch or in the only one, which is being
read and goes on behind them. -/
inductive Begins (opening : List Regex) (g : OpenGroup) : Prop
  | reading (later : List Part) {earlier : List Part} (hparts : g.parts = later ++ earlier)
      (hlater : later ≠ []) (hearlier : earlier.reverse.map Part.regex = opening)
      (hbranches : g.branches = [])
  | read (others : List (Regex × Nat)) {more : List Regex} {depth : Nat}
      (hbranches : g.branches = others ++ [(sequence (opening ++ more), depth)])

/-- A group has some expressions and nothing behind them. -/
structure Waits (opening : List Regex) (g : OpenGroup) : Prop where
  parts : g.parts.reverse.map Part.regex = opening
  branches : g.branches = []

section Begins

variable {opening : List Regex} {g g' : OpenGroup}

theorem Waits.add (h : Waits opening g) (flags : RegexFlags) (part : Part) :
    Begins opening { g with flags, parts := part :: g.parts } :=
  .reading [part] rfl (by simp) h.parts h.branches

theorem Begins.add (h : Begins opening g) (flags : RegexFlags) (part : Part) :
    Begins opening { g with flags, parts := part :: g.parts } := by
  cases h with
  | reading later hparts hlater hearlier hbranches =>
    exact .reading (part :: later) (by simp [hparts]) (by simp) hearlier hbranches
  | read others hbranches => exact .read others hbranches

theorem Begins.nextBranch (h : Begins opening g) : Begins opening g.nextBranch := by
  cases h with
  | reading later hparts hlater hearlier hbranches =>
    have hbranch : g.branch.1 = sequence (opening ++ later.reverse.map Part.regex) := by
      simp [OpenGroup.branch, hparts, ← hearlier]
    have hfinished : g.nextBranch.branches
        = [] ++ [(sequence (opening ++ later.reverse.map Part.regex), g.branch.2)] := by
      rw [← hbranch]
      simp [OpenGroup.nextBranch, hbranches]
    exact .read [] hfinished
  | @read others more depth hbranches =>
    have hfinished : g.nextBranch.branches
        = g.branch :: others ++ [(sequence (opening ++ more), depth)] := by
      simp [OpenGroup.nextBranch, hbranches]
    exact .read (g.branch :: others) hfinished

theorem Begins.repeatLast (h : Begins opening g) {least : Nat} {most : Option Nat}
    (hrepeat : g.repeatLast least most = .ok g') : Begins opening g' := by
  unfold OpenGroup.repeatLast at hrepeat
  split at hrepeat
  · rename_i r depth parts hlast
    cases hrepeat
    cases h with
    | reading later hparts hlater hearlier hbranches =>
      obtain ⟨part, later, rfl⟩ := List.exists_cons_of_ne_nil hlater
      obtain ⟨rfl, rfl⟩ := List.cons.inj (hlast.symm.trans hparts)
      exact .reading (_ :: later) rfl (by simp) hearlier hbranches
    | read others hbranches => exact .read others hbranches
  · cases hrepeat

/-- The expression of a group that begins with some expressions is a choice whose first branch
does, and which has others only where the group has been divided. -/
theorem Begins.close (h : Begins opening g) :
    ∃ more others, g.close.1 = choice (sequence (opening ++ more) :: others)
      ∧ (g.branches = [] → others = []) := by
  cases h with
  | reading later hparts hlater hearlier hbranches =>
    refine ⟨later.reverse.map Part.regex, [], ?_, fun _ => rfl⟩
    simp [OpenGroup.close, OpenGroup.branch, hbranches, hparts, ← hearlier]
  | @read others more depth hbranches =>
    refine ⟨more, ((g.branch :: others).reverse).map (·.1), ?_, fun h => ?_⟩
    · simp [OpenGroup.close, hbranches]
    · simp [h] at hbranches

end Begins

/-- Of the groups that are open the outermost one begins with some expressions; inside another one
it may still have nothing behind them. -/
inductive Rooted (opening : List Regex) : List OpenGroup → OpenGroup → Prop
  | bottom {g : OpenGroup} (h : Begins opening g) : Rooted opening [] g
  | inside (outer : List OpenGroup) {root g : OpenGroup}
      (h : Begins opening root ∨ Waits opening root) : Rooted opening (outer ++ [root]) g

section Rooted

variable {opening : List Regex} {outer outer' : List OpenGroup} {g g' : OpenGroup} {t t' : Text}

theorem Rooted.replace (h : Rooted opening outer g) (hg : Begins opening g → Begins opening g') :
    Rooted opening outer g' := by
  cases h with
  | bottom h => exact .bottom (hg h)
  | inside outer h => exact .inside outer h

theorem Rooted.begins (h : Rooted opening [] g) : Begins opening g := by
  generalize hstack : ([] : List OpenGroup) = stack at h
  cases h with
  | bottom h => exact h
  | inside outer h => simp at hstack

theorem Rooted.opened (h : Rooted opening outer g) : Rooted opening (g :: outer) g' := by
  cases h with
  | bottom h => exact .inside [] (.inl h)
  | inside outer h => exact .inside (g :: outer) h

theorem Rooted.closed {parent : OpenGroup} (h : Rooted opening (parent :: outer) g) (r : Regex)
    (depth : Nat) : Rooted opening outer (parent.push r depth) := by
  generalize hstack : parent :: outer = stack at h
  cases h with
  | bottom h => cases hstack
  | inside inner h =>
    cases inner with
    | nil =>
      cases hstack
      refine .bottom ?_
      rcases h with h | h
      · exact h.add _ _
      · exact h.add _ _
    | cons first inner =>
      cases hstack
      exact .inside inner h

/-- Every step keeps what the outermost group begins with. -/
theorem Rooted.reads (hreads : Reads outer g t outer' g' t') (h : Rooted opening outer g) :
    Rooted opening outer' g' := by
  cases hreads with
  | flags => exact h.replace fun hg => hg.add _ _
  | opened => exact h.opened
  | closed => exact h.closed _ _
  | branch => exact h.replace Begins.nextBranch
  | bracket => exact h.replace fun hg => hg.add _ _
  | repeated _ _ hrepeat => exact h.replace fun hg => hg.repeatLast hrepeat
  | counted _ _ hrepeat => exact h.replace fun hg => hg.repeatLast hrepeat
  | primitive => exact h.replace fun hg => hg.add _ _

end Rooted

/-! ## Characters that stand for themselves -/

section Characters

variable {outer outer' : List OpenGroup} {g g' : OpenGroup} {c : Char} {t t' : Text}

theorem next_of_not_verbose {flags : RegexFlags} (h : flags.verbose = false) (t : Text) :
    next flags t = t := by
  simp [next, h]

/-- What is no structure is read as a primitive. -/
theorem Reads.exists_primitive (hverbose : g.flags.verbose = false) (hc : isStructure c = false)
    (h : Reads outer g (c :: t) outer' g' t') :
    ∃ p r, readPrimitive g.flags (c :: t) = .ok (p, t') ∧ ofPrimitive g.flags p = .ok r
      ∧ outer' = outer ∧ g' = g.push r 0 := by
  have hnext := next_of_not_verbose hverbose (c :: t)
  have hne : ∀ {d cs}, next g.flags (c :: t) = d :: cs → isStructure d = true → False := by
    intro d cs ht hd
    obtain ⟨rfl, -⟩ := List.cons.inj (hnext.symm.trans ht)
    rw [hc] at hd
    cases hd
  cases h with
  | flags ht => exact (hne ht rfl).elim
  | opened ht => exact (hne ht rfl).elim
  | closed ht => exact (hne ht rfl).elim
  | branch ht => exact (hne ht rfl).elim
  | bracket ht => exact (hne ht rfl).elim
  | repeated ht hd =>
    refine (hne ht (mem_structure.2 ?_)).elim
    simp only [List.mem_cons, List.not_mem_nil, or_false] at hd
    rcases hd with rfl | rfl | rfl <;> simp
  | counted ht => exact (hne ht rfl).elim
  | primitive ht _ hp h =>
    obtain ⟨rfl, rfl⟩ := List.cons.inj (hnext.symm.trans ht)
    exact ⟨_, _, hp, h, rfl, rfl⟩

theorem isStructure_of_not_meta (h : isMeta c = false) : isStructure c = false := by
  refine Bool.eq_false_iff.2 fun hc => ?_
  rcases mem_structure.1 hc with rfl | rfl | rfl | rfl | rfl | rfl | rfl | rfl <;> cases h

theorem readPrimitive_escaped (h : isMeta c = true) :
    readPrimitive {} ('\\' :: c :: t) = .ok (.char c, t) := by
  have hread : ∀ d ∈ "\\.+*?()|[]\x7b\x7d^$#&-~".toList,
      readPrimitive {} ('\\' :: d :: t) = .ok (.char d, t) := by
    simp only [String.reduceToList, List.forall_mem_cons]
    refine ⟨rfl, rfl, rfl, rfl, rfl, rfl, rfl, rfl, rfl, rfl, rfl, rfl, rfl, rfl, rfl, rfl, rfl,
      rfl, by simp⟩
  exact hread c (List.contains_iff_mem.1 h)

theorem readPrimitive_plain (h : isMeta c = false) :
    readPrimitive {} (c :: t) = .ok (.char c, t) := by
  unfold readPrimitive
  split
  · rename_i heq
    cases heq
  · rename_i cs heq
    cases heq
    cases h
  · rename_i cs heq
    cases heq
    cases h
  · rename_i cs heq
    cases heq
    cases h
  · rename_i cs heq
    cases heq
    cases h
  · rename_i d cs _ _ _ _ heq
    cases heq
    rfl

theorem escape_cons (c : Char) (cs : Text) :
    Regex.escape (c :: cs) = Regex.escape [c] ++ Regex.escape cs := by
  simp [Regex.escape]

/-- A character behind a backslash, if it has a meaning of its own, is read as itself. -/
theorem Reads.of_escape (hflags : g.flags = {})
    (h : Reads outer g (Regex.escape [c] ++ t) outer' g' t') :
    outer' = outer ∧ g' = g.push (Regex.ofChar c) 0 ∧ t' = t := by
  have hread : ∃ d cs, Regex.escape [c] ++ t = d :: cs ∧ isStructure d = false
      ∧ readPrimitive {} (d :: cs) = .ok (.char c, t) := by
    rcases hc : isMeta c with _ | _
    · exact ⟨c, t, by simp [Regex.escape, hc], isStructure_of_not_meta hc, readPrimitive_plain hc⟩
    · exact ⟨'\\', c :: t, by simp [Regex.escape, hc], rfl, readPrimitive_escaped hc⟩
  obtain ⟨d, cs, heq, hd, hprimitive⟩ := hread
  rw [heq] at h
  obtain ⟨p, r, hp, hr, houter, hg⟩ := h.exists_primitive (by rw [hflags]) hd
  rw [hflags, hprimitive] at hp
  cases hp
  rw [hflags] at hr
  cases hr
  exact ⟨houter, hg, rfl⟩

theorem Reads.of_caret (hflags : g.flags = {}) (h : Reads outer g ('^' :: t) outer' g' t') :
    outer' = outer ∧ g' = g.push (.look .textStart) 0 ∧ t' = t := by
  obtain ⟨p, r, hp, hr, houter, hg⟩ := h.exists_primitive (by rw [hflags]) rfl
  rw [hflags] at hp hr
  cases hp
  cases hr
  exact ⟨houter, hg, rfl⟩

/-- A reading of an escaped text goes on with all of it read. -/
theorem exists_readParts_of_escape {result : Regex × Nat} : ∀ {opening : Text} {steps : Nat}
    {names : List Text} {g : OpenGroup}, g.flags = {} →
      readParts steps names outer g (Regex.escape opening ++ t) = .ok result →
        ∃ steps' names' g', readParts steps' names' outer g' t = .ok result ∧ g'.flags = {}
          ∧ g'.branches = g.branches
          ∧ g'.parts = (opening.map fun c => .expr (Regex.ofChar c) 0).reverse ++ g.parts
  | [], steps, names, g, hflags, h => ⟨steps, names, g, h, hflags, rfl, rfl⟩
  | c :: cs, steps, names, g, hflags, h => by
    rw [escape_cons, List.append_assoc] at h
    rcases reads_of_readParts h with ⟨hend, -⟩ | ⟨_, _, _, _, _, rfl, hreads, hlater⟩
    · rw [hflags, next_of_not_verbose rfl] at hend
      have hempty : Regex.escape [c] = [] := (List.append_eq_nil_iff.1 hend).1
      simp only [Regex.escape, List.flatMap_cons, List.flatMap_nil, List.append_nil] at hempty
      split at hempty <;> cases hempty
    · obtain ⟨houter, hg, ht⟩ := hreads.of_escape hflags
      rw [houter, hg, ht] at hlater
      obtain ⟨steps', names', g', hlater, hflags', hbranches, hparts⟩ :=
        exists_readParts_of_escape (show (g.push (Regex.ofChar c) 0).flags = {} from hflags) hlater
      refine ⟨steps', names', g', hlater, hflags', hbranches, ?_⟩
      simp [hparts, OpenGroup.push]

end Characters

/-! ## Expressions -/

section Expressions

variable {opening : List Regex} {g g' : OpenGroup} {outer' : List OpenGroup} {t t' : Text}

/-- Behind some expressions a group opens, or the end of the text is asked for. -/
theorem Waits.reads (h : Waits opening g) (hflags : g.flags = {})
    (ht : t.head? = some '(' ∨ t.head? = some '$') (hreads : Reads [] g t outer' g' t') :
    Rooted opening outer' g' := by
  have hnext : next g.flags t = t := next_of_not_verbose (by rw [hflags]) t
  have hhead : ∀ {d cs}, next g.flags t = d :: cs → d = '(' ∨ d = '$' := by
    intro d cs hd
    rw [hnext] at hd
    rw [hd] at ht
    exact ht.imp Option.some.inj Option.some.inj
  cases hreads with
  | flags => exact .bottom (h.add _ _)
  | opened => exact .inside [] (.inr h)
  | branch hd => exact absurd (hhead hd) (by decide)
  | bracket => exact .bottom (h.add _ _)
  | repeated hd hc =>
    rcases hhead hd with rfl | rfl
    · exact absurd hc (by decide)
    · exact absurd hc (by decide)
  | counted hd => exact absurd (hhead hd) (by decide)
  | primitive => exact .bottom (h.add _ _)

end Expressions

end RegexSyntax

end AppBundle
