import AppBundle.Proofs.Grammar
import AppBundle.Proofs.Nesting

/-!
# Anchored routes

The expression of a source asks for the start of the request and then for the literal part in front,
so its first branch matches only requests that start with that part. Bars divide groups of the
source, unless the expression reads a parenthesis otherwise than the count that finds the end of a
group: in a class or a comment it is no parenthesis, and then a bar may divide the whole expression
and get past both anchors (`anchored_iff`).
-/

namespace AppBundle

open RegexSyntax

/-- The branches of a choice behind the first one. -/
def Regex.later? : Regex → Option Regex
  | .alt _ later => some later
  | _ => none

theorem Regex.later?_choice {l : Look} {rs others : List Regex} :
    (choice (sequence (.look l :: rs) :: others)).later?
      = if others = [] then none else some (choice others) := by
  cases others with
  | nil => cases rs <;> rfl
  | cons r others => rfl

namespace Route

/-! ## Pieces -/

/-- What a source starts with, up to its first group or parameter. -/
def literalPrefix : Text → Text
  | [] => []
  | c :: cs =>
    if c = '(' ∨ c = ':' ∧ cs.head?.any isParamStart then [] else c :: literalPrefix cs

/-- The groups of a source. -/
def groups (source : Text) : List Text :=
  match pieces source with
  | .ok ps => ps.filterMap fun p => match p with
    | .group t => some t
    | _ => none
  | .error _ => []

/-- The parentheses of a group can be counted: it has no class and no verbose mode. -/
def isCountable : Text → Bool
  | [] => true
  | '\\' :: _ :: cs => isCountable cs
  | c :: cs => c ≠ '[' && (c ≠ '(' || !setsVerbose cs) && isCountable cs

section Pieces

variable {t u rest : Text} {ps : List RoutePiece}

/-- The expression of some pieces to the end of the request. -/
def tailSource (ps : List RoutePiece) : Text := ps.flatMap pieceSource ++ ['$']

theorem tailSource_cons {p : RoutePiece} : tailSource (p :: ps) = pieceSource p ++ tailSource ps :=
  List.append_assoc (pieceSource p) (ps.flatMap pieceSource) ['$']

/-- Behind the literal part in front there are no pieces, or a group or parameter comes first. -/
theorem exists_literals_of_parses (h : Parses t ps rest) (hrest : rest = []) :
    ∃ t' ps', Parses t' ps' rest ∧ ps = (literalPrefix t).map .literal ++ ps'
      ∧ ((tailSource ps').head? = some '(' ∨ (tailSource ps').head? = some '$') := by
  induction h with
  | done rest =>
    subst hrest
    exact ⟨[], [], .done [], rfl, .inr rfl⟩
  | @literal c t rest ps hopen hclose hparam h ih =>
    obtain ⟨t', ps', hparses, rfl, hhead⟩ := ih hrest
    have hnone : ¬(c = '(' ∨ c = ':' ∧ t.head?.any isParamStart) := by
      rw [head?_opensName]
      exact not_or.2 ⟨hopen, hparam⟩
    exact ⟨t', ps', hparses, by simp [literalPrefix, hnone], hhead⟩
  | @param name t rest ps hstart hname hlongest h ih =>
    have hnone : literalPrefix (':' :: (name ++ t)) = [] :=
      if_pos (.inr ⟨rfl, head?_opensName.2 (head?_append_of_name hstart)⟩)
    exact ⟨_, _, .param hstart hname hlongest h, by rw [hnone]; rfl, .inl rfl⟩
  | group hgroup h ih =>
    obtain ⟨inside, -, rfl⟩ := id hgroup
    exact ⟨_, _, .group hgroup h, rfl, .inl rfl⟩

theorem takeWhile_append_of_mem {test : Char → Bool} {c : Char} (hc : c ∈ t)
    (hstop : test c = false) : (t ++ u).takeWhile test = t.takeWhile test := by
  rw [List.takeWhile_append, if_neg fun hlength => ?_]
  have hall : t.takeWhile test = t := (List.takeWhile_prefix test).eq_of_length hlength
  have hpass : test c = true := List.mem_takeWhile_imp (hall.symm ▸ hc)
  simp [hpass] at hstop

theorem setsVerbose_append (h : ')' ∈ t) : setsVerbose (t ++ u) = setsVerbose t := by
  have hhead : (t ++ u).head? = t.head? := by
    obtain ⟨c, cs, rfl⟩ := List.exists_cons_of_ne_nil (List.ne_nil_of_mem h)
    rfl
  unfold setsVerbose
  rw [takeWhile_append_of_mem h (by decide), hhead]

theorem isCountable_cons {c : Char} {cs : Text} (hc : c ≠ '\\') : isCountable (c :: cs) = true
    ↔ c ≠ '[' ∧ (c = '(' → setsVerbose cs = false) ∧ isCountable cs = true := by
  rw [isCountable]
  · simp [imp_iff_not_or, and_assoc]
  · exact fun _ _ h => absurd h hc

theorem nested_of_opening {depth : Nat} (hclosed : ')' ∈ t) (hflags : setsVerbose t = false)
    (h : Nested (depth + 1) (t ++ u)) : Nested depth ('(' :: t ++ u) :=
  .opening ((setsVerbose_append hclosed).trans hflags) h

/-- In a group that can be counted, what follows balanced text can be counted too, and is nested
together with it. -/
theorem nested_of_balanced (h : Balanced t) : ∀ {depth : Nat} {v u : Text}, ')' ∈ v →
    isCountable (t ++ v) = true → isCountable v = true
      ∧ (Nested (depth + 1) (v ++ u) → Nested (depth + 1) (t ++ v ++ u)) := by
  induction h with
  | nil => exact fun _ hv => ⟨hv, id⟩
  | @plain c t hopen hclose hescape h ih =>
    intro depth v u hclosed hcountable
    obtain ⟨hbracket, -, hlater⟩ := (isCountable_cons hescape).1 hcountable
    obtain ⟨hv, hnested⟩ := ih hclosed hlater
    refine ⟨hv, fun hrest => ?_⟩
    by_cases hbar : c = '|'
    · subst hbar
      exact .bar (hnested hrest)
    · refine .plain (Bool.not_eq_false _ ▸ fun hplain => ?_) (hnested hrest)
      rcases isPlain_eq_false.1 hplain with h | h | h | h | h <;> contradiction
  | hidden h ih =>
    intro depth v u hclosed hcountable
    obtain ⟨hv, hnested⟩ := ih hclosed hcountable
    exact ⟨hv, fun hrest => .hidden (hnested hrest)⟩
  | @inner t w ht hw iht ihw =>
    intro depth v u hclosed hcountable
    have hsplit : '(' :: t ++ ')' :: w ++ v = '(' :: (t ++ ')' :: (w ++ v)) := by simp
    rw [hsplit] at hcountable ⊢
    obtain ⟨-, hflags, hinside⟩ := (isCountable_cons (by decide)).1 hcountable
    obtain ⟨hlater, hinner⟩ := iht (by simp) hinside
    obtain ⟨-, -, hlater⟩ := (isCountable_cons (by decide)).1 hlater
    obtain ⟨hv, hnested⟩ := ihw hclosed hlater
    refine ⟨hv, fun hrest => nested_of_opening (by simp) (hflags rfl) (hinner ?_)⟩
    exact .closing (hnested hrest)

theorem nested_of_group {group : Text} (h : IsGroup group) (hcountable : isCountable group = true)
    (hu : Nested 0 u) : Nested 0 (group ++ u) := by
  obtain ⟨inside, hinside, rfl⟩ := h
  obtain ⟨-, hflags, hcounted⟩ := (isCountable_cons (by decide)).1 hcountable
  obtain ⟨-, hnested⟩ := nested_of_balanced hinside (List.mem_singleton_self _) hcounted
  exact nested_of_opening (by simp) (hflags rfl) (hnested (.closing hu))

theorem nested_of_plain {depth : Nat} {taken : Text} (htaken : ∀ c ∈ taken, isPlain c = true)
    (hu : Nested depth u) : Nested depth (taken ++ u) := by
  induction taken with
  | nil => exact hu
  | cons c taken ih =>
    obtain ⟨hc, htaken⟩ := List.forall_mem_cons.1 htaken
    exact .plain hc (ih htaken)

theorem nested_of_literal {c : Char} (hu : Nested 0 u) :
    Nested 0 (pieceSource (.literal c) ++ u) := by
  rcases hc : isMeta c with _ | _
  · have hplain : isPlain c = true := isPlain_of (fun c => !isMeta c) (by decide) (by simp [hc])
    simpa [pieceSource, Regex.escape, hc] using Nested.plain hplain hu
  · simpa [pieceSource, Regex.escape, hc] using Nested.hidden hu

theorem nested_of_param {name : Text} (hname : ∀ c ∈ name, StandsInName c) (hu : Nested 0 u) :
    Nested 0 (pieceSource (.param name) ++ u) := by
  have hplain : ∀ c ∈ "?P<".toList ++ name ++ ['>'], isPlain c = true := by
    have hparam := fun c hc => isPlain_of isParamChar (by decide) (isParamChar_iff.2 (hname c hc))
    have hopening : ("?P<".toList.all isPlain) = true := by decide
    exact List.forall_mem_append.2
      ⟨List.forall_mem_append.2 ⟨List.all_eq_true.1 hopening, hparam⟩,
        List.forall_mem_singleton.2 rfl⟩
  have hsplit : pieceSource (.param name) ++ u
      = '(' :: ("?P<".toList ++ name ++ ['>'] ++ '[' :: '^' :: '/' :: ']' :: '+' :: ')' :: u) := by
    simp [pieceSource]
  rw [hsplit]
  exact .opening rfl (nested_of_plain hplain (.segment (.plain rfl (.closing hu))))

/-- The expression of pieces is nested where their groups can be counted. -/
theorem nested_of_parses (h : Parses t ps rest)
    (hgroups : ∀ group, .group group ∈ ps → isCountable group = true) :
    Nested 0 (tailSource ps) := by
  induction h with
  | done => exact .plain rfl .done
  | literal _ _ _ _ ih =>
    rw [tailSource_cons]
    exact nested_of_literal (ih fun group hg => hgroups group (List.mem_cons_of_mem _ hg))
  | param _ hname _ _ ih =>
    rw [tailSource_cons]
    exact nested_of_param hname (ih fun group hg => hgroups group (List.mem_cons_of_mem _ hg))
  | group hgroup _ ih =>
    rw [tailSource_cons]
    exact nested_of_group hgroup (hgroups _ List.mem_cons_self)
      (ih fun group hg => hgroups group (List.mem_cons_of_mem _ hg))

theorem mem_groups {source group : Text} (h : IsMadeOf source ps) (hgroup : .group group ∈ ps) :
    group ∈ groups source := by
  simp only [groups, pieces_eq_ok_iff.2 h]
  exact List.mem_filterMap.2 ⟨.group group, hgroup, rfl⟩

theorem tailSource_append {opening : Text} {rest : List RoutePiece} :
    tailSource (opening.map .literal ++ rest) = Regex.escape opening ++ tailSource rest := by
  induction opening with
  | nil => rfl
  | cons c cs ih =>
    rw [escape_cons, List.append_assoc, ← ih, List.map_cons, List.cons_append, tailSource_cons]
    rfl

end Pieces

/-! ## Rules -/

section Rules

variable {source destination src : Text} {regex : Regex}

/-- The expression of a source is a choice whose first branch asks for the literal part in front,
and which has no others if the groups of the source can be counted. -/
theorem choice_of_compile (h : compile source = .ok (src, regex)) :
    ['/'] <+: literalPrefix source ∧ ∃ more others,
      regex = choice (sequence
        (.look .textStart :: (literalPrefix source).map Regex.ofChar ++ more) :: others)
      ∧ ((∀ group ∈ groups source, isCountable group = true) → others = []) := by
  obtain ⟨ps, hmade, -, hparse⟩ := exists_isMadeOf_of_compile h
  obtain ⟨t, ps', hparses, hps, htail⟩ := exists_literals_of_parses hmade.2 rfl
  have hstarts : ['/'] <+: literalPrefix source := by
    obtain ⟨later, rfl⟩ := List.head?_eq_some_iff.1 hmade.1
    exact ⟨literalPrefix later, by simp [literalPrefix]⟩
  have hsource : regexSource ps
      = '^' :: (Regex.escape (literalPrefix source) ++ tailSource ps') := by
    rw [← tailSource_append, ← hps]
    rfl
  rw [hsource] at hparse
  obtain ⟨g, hbegins, hregex, hundivided⟩ := begins_of_parse htail hparse
  obtain ⟨more, others, hclose, hothers⟩ := hbegins.close
  refine ⟨hstarts, more, others, hregex.trans hclose, fun hgroups => ?_⟩
  have hcountable : ∀ group, .group group ∈ ps' → isCountable group = true := by
    intro group hmem
    have hgroup : .group group ∈ ps := hps ▸ List.mem_append_right _ hmem
    exact hgroups group (mem_groups hmade hgroup)
  exact hothers (hundivided (nested_of_parses hparses hcountable))

/-- The requests of a rule start with what its source starts with, up to the first group or
parameter, unless its expression has a branch behind the first one that matches another request.
There is no such branch where the parentheses of all groups can be counted. -/
theorem anchored_iff {cleanUrls trailingSlash : Bool} {rule : RouteRule}
    (h : ruleOf source destination cleanUrls trailingSlash = .ok rule) :
    ['/'] <+: literalPrefix source
      ∧ ((∀ request, rule.isMatch request = true → literalPrefix source <+: request)
        ↔ ∀ later, rule.regex.later? = some later →
          ∀ request, later.isMatch request = true → literalPrefix source <+: request)
      ∧ ((∀ group ∈ groups source, isCountable group = true) →
        ∀ request, rule.isMatch request = true → literalPrefix source <+: request) := by
  obtain ⟨hslash, more, others, hregex, hothers⟩ := choice_of_compile (compile_of_ruleOf h)
  have hmatch : ∀ {request}, rule.isMatch request = true →
      literalPrefix source <+: request ∨ ∃ r ∈ others, r.isMatch request = true := by
    intro request hrequest
    rw [RouteRule.isMatch, hregex, Regex.isMatch_choice (List.cons_ne_nil _ _)] at hrequest
    obtain ⟨r, hr, hrequest⟩ := hrequest
    obtain rfl | hr := List.mem_cons.1 hr
    · exact .inl (Regex.prefix_of_isMatch hrequest)
    · exact .inr ⟨r, hr, hrequest⟩
  refine ⟨hslash, ⟨?_, ?_⟩, ?_⟩
  · intro hanchored later hlater request hrequest
    rw [hregex, List.cons_append, Regex.later?_choice] at hlater
    split at hlater
    · cases hlater
    · rename_i hne
      cases hlater
      obtain ⟨r, hr, hrequest⟩ := (Regex.isMatch_choice hne).1 hrequest
      refine hanchored request ?_
      rw [RouteRule.isMatch, hregex, Regex.isMatch_choice (List.cons_ne_nil _ _)]
      exact ⟨r, List.mem_cons_of_mem _ hr, hrequest⟩
  · intro hlater request hrequest
    rcases hmatch hrequest with hstarts | ⟨r, hr, hrequest⟩
    · exact hstarts
    · have hne := List.ne_nil_of_mem hr
      refine hlater (choice others) ?_ request ((Regex.isMatch_choice hne).2 ⟨r, hr, hrequest⟩)
      rw [hregex, List.cons_append, Regex.later?_choice, if_neg hne]
  · intro hgroups request hrequest
    rcases hmatch hrequest with hstarts | ⟨r, hr, -⟩
    · exact hstarts
    · rw [hothers hgroups] at hr
      cases hr

/-- What the rule of a source says of a request, if there is such a rule. -/
def matches? (source destination request : Text) : Option Bool :=
  (ruleOf source destination true false).toOption.map fun rule => rule.isMatch request

theorem matches?_eq_some {request : Text} {matched : Bool} :
    matches? source destination request = some matched
      ↔ ∃ rule, ruleOf source destination true false = .ok rule
        ∧ rule.isMatch request = matched := by
  unfold matches?
  rcases ruleOf source destination true false with e | rule <;> simp [Except.toOption]

theorem anchored_iff_bar :
    ∃ rule, ruleOf "/a(b|\\)c)/:slug".toList "/x".toList true false = .ok rule
      ∧ rule.isMatch "/ab/d".toList = true
      ∧ ∀ request, rule.isMatch request = true → "/a".toList <+: request := by
  have hmatch : matches? "/a(b|\\)c)/:slug".toList "/x".toList "/ab/d".toList = some true := by
    decide +kernel
  obtain ⟨rule, hrule, hmatch⟩ := matches?_eq_some.1 hmatch
  have hliteral : literalPrefix "/a(b|\\)c)/:slug".toList = "/a".toList := by decide +kernel
  have hgroups : ∀ group ∈ groups "/a(b|\\)c)/:slug".toList, isCountable group = true := by
    decide +kernel
  obtain ⟨-, -, hanchored⟩ := anchored_iff hrule
  exact ⟨rule, hrule, hmatch, fun request hrequest => hliteral ▸ hanchored hgroups request hrequest⟩

/-- What stands behind the `a` counts as one group, with the parentheses inside of classes, but is
read as two groups and a bar between them. -/
theorem class_divides_source :
    ∃ rule, ruleOf "/a([(])|([)])".toList "/x".toList true false = .ok rule
      ∧ rule.isMatch ")".toList = true ∧ ¬ literalPrefix "/a([(])|([)])".toList <+: ")".toList := by
  have hmatch : matches? "/a([(])|([)])".toList "/x".toList ")".toList = some true := by
    decide +kernel
  obtain ⟨rule, hrule, hmatch⟩ := matches?_eq_some.1 hmatch
  exact ⟨rule, hrule, hmatch, by decide +kernel⟩

end Rules
end Route

end AppBundle
