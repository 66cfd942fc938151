import AppBundle.Proofs.Reading
import AppBundle.Route
import Mathlib.Data.List.Forall2
import Mathlib.Data.List.TakeWhile

/-!
# The grammar of sources

A source is a slash and then pieces: groups whose parentheses balance, parameters with the longest
name that stands there, and other characters, which are no parentheses (`Parses`). Reading finds the
pieces of a text exactly if the text has this form, and otherwise stops at the first parenthesis
that no piece can begin with (`readPieces_eq_ok_iff`, `readPieces_eq_error_iff`). The expression of
a source is put together from the expressions of the pieces in their order (`PieceText`,
`source_grammar`).
-/

namespace AppBundle

namespace Route

variable {t u rest group : Text} {ps : List RoutePiece} {fault : RouteFault}

/-! ## Groups -/

/-- Between the parentheses of a group parentheses balance, but for those behind a backslash, which
hides any character. -/
inductive Balanced : Text → Prop
  | nil : Balanced []
  | plain {c : Char} {t : Text} (hopen : c ≠ '(') (hclose : c ≠ ')') (hescape : c ≠ '\\')
      (h : Balanced t) : Balanced (c :: t)
  | hidden {c : Char} {t : Text} (h : Balanced t) : Balanced ('\\' :: c :: t)
  | inner {t u : Text} (ht : Balanced t) (hu : Balanced u) : Balanced ('(' :: t ++ ')' :: u)

/-- A group with its parentheses. -/
def IsGroup (group : Text) : Prop := ∃ t, Balanced t ∧ group = '(' :: (t ++ [')'])

/-- The text closes so many groups, the innermost first, and ends with the last of them. -/
def Closes : Nat → Text → Prop
  | 0, t => t = []
  | depth + 1, t =>
    ∃ inside later, Balanced inside ∧ Closes depth later ∧ t = inside ++ ')' :: later

theorem Closes.prepend {depth : Nat} (hdepth : depth ≠ 0) (before : Text)
    (hbefore : ∀ {inside}, Balanced inside → Balanced (before ++ inside)) (h : Closes depth t) :
    Closes depth (before ++ t) := by
  obtain ⟨depth, rfl⟩ := Nat.exists_eq_succ_of_ne_zero hdepth
  obtain ⟨inside, later, hinside, hlater, rfl⟩ := h
  exact ⟨before ++ inside, later, hbefore hinside, hlater, (List.append_assoc _ _ _).symm⟩

/-- A text that opens a group in front closes one group less. -/
theorem Closes.opened {depth : Nat} (hdepth : depth ≠ 0) (h : Closes (depth + 1) t) :
    Closes depth ('(' :: t) := by
  obtain ⟨depth, rfl⟩ := Nat.exists_eq_succ_of_ne_zero hdepth
  obtain ⟨inside, later, hinside, ⟨inside', later', hinside', hlater, rfl⟩, rfl⟩ := h
  exact ⟨'(' :: inside ++ ')' :: inside', later', .inner hinside hinside', hlater, by simp⟩

theorem Closes.closed {depth : Nat} (h : Closes depth t) : Closes (depth + 1) (')' :: t) :=
  ⟨[], t, .nil, h, rfl⟩

theorem readGroup_cons {depth : Nat} {c : Char} (hc : c ≠ '\\') :
    readGroup depth (c :: t) = if c = ')' ∧ depth ≤ 1 then some ([c], t)
      else (readGroup (depthAfter depth c) t).map fun (group, rest) => (c :: group, rest) := by
  rw [readGroup]
  · exact fun h => absurd h hc
  · exact fun _ _ h => absurd h hc

/-- Inside of a group, balanced text is read through. -/
theorem readGroup_balanced (h : Balanced t) : ∀ {depth : Nat} {rest : Text}, depth ≠ 0 →
    readGroup depth (t ++ rest)
      = (readGroup depth rest).map fun (group, later) => (t ++ group, later) := by
  induction h with
  | nil => simp
  | @plain c t hopen hclose hescape h ih =>
    intro depth rest hdepth
    have hsame : depthAfter depth c = depth := by simp [depthAfter, hopen, hclose]
    rw [List.cons_append, readGroup_cons hescape, if_neg (by simp [hclose]), hsame, ih hdepth]
    simp [Function.comp_def]
  | @hidden c t h ih =>
    intro depth rest hdepth
    rw [List.cons_append, List.cons_append, readGroup, ih hdepth]
    simp [Function.comp_def]
  | @inner t u ht hu iht ihu =>
    intro depth rest hdepth
    have hdeep : ¬(')' = ')' ∧ depth + 1 ≤ 1) := by simp [hdepth]
    rw [List.append_assoc, List.cons_append, List.cons_append, readGroup_cons (by decide),
      if_neg (by simp), show depthAfter depth '(' = depth + 1 from rfl, iht (Nat.succ_ne_zero _),
      readGroup_cons (by decide), if_neg hdeep, show depthAfter (depth + 1) ')' = depth from rfl,
      ihu hdepth]
    simp [Function.comp_def]

/-- What is read of groups closes as many as were open. -/
theorem closes_of_readGroup {depth : Nat} (hdepth : depth ≠ 0)
    (h : readGroup depth t = some (group, rest)) : Closes depth group ∧ t = group ++ rest := by
  fun_induction readGroup depth t generalizing group rest with
  | case1 => cases h
  | case2 => cases h
  | case3 depth c cs ih =>
    obtain ⟨⟨group', rest'⟩, hlater, heq⟩ := Option.map_eq_some_iff.1 h
    cases heq
    obtain ⟨hcloses, rfl⟩ := ih hdepth hlater
    exact ⟨hcloses.prepend hdepth ['\\', c] .hidden, rfl⟩
  | case4 depth c cs _ _ hend =>
    cases h
    obtain ⟨rfl, hlast⟩ := hend
    obtain rfl : depth = 1 := by omega
    exact ⟨.closed rfl, rfl⟩
  | case5 depth c cs hlast hescape hend ih =>
    obtain ⟨⟨group', rest'⟩, hlater, heq⟩ := Option.map_eq_some_iff.1 h
    cases heq
    by_cases hopen : c = '('
    · subst hopen
      obtain ⟨hcloses, rfl⟩ := ih (Nat.succ_ne_zero _) hlater
      exact ⟨hcloses.opened hdepth, rfl⟩
    by_cases hclose : c = ')'
    · subst hclose
      have hdeep : ¬depth ≤ 1 := fun h => hend ⟨rfl, h⟩
      obtain ⟨depth, rfl⟩ : ∃ d, depth = d + 2 := ⟨depth - 2, by omega⟩
      obtain ⟨hcloses, rfl⟩ := ih (by simp [depthAfter]) hlater
      exact ⟨hcloses.closed, rfl⟩
    have hc : c ≠ '\\' := by
      cases cs with
      | nil => exact fun hc => hlast hc rfl
      | cons d cs => exact fun hc => hescape d cs hc rfl
    have hsame : depthAfter depth c = depth := by simp [depthAfter, hopen, hclose]
    rw [hsame] at ih hlater
    obtain ⟨hcloses, rfl⟩ := ih hdepth hlater
    exact ⟨hcloses.prepend hdepth [c] (.plain hopen hclose hc), rfl⟩

/-- What is read behind an opening parenthesis is the rest of a group. -/
theorem readGroup_eq_some_iff :
    readGroup 1 t = some (group, rest) ↔ IsGroup ('(' :: group) ∧ t = group ++ rest := by
  constructor
  · intro h
    obtain ⟨⟨inside, later, hinside, rfl, rfl⟩, rfl⟩ := closes_of_readGroup Nat.one_ne_zero h
    exact ⟨⟨inside, hinside, rfl⟩, rfl⟩
  · rintro ⟨⟨inside, hinside, hgroup⟩, rfl⟩
    obtain rfl : group = inside ++ [')'] := (List.cons.inj hgroup).2
    have hend : readGroup 1 (')' :: rest) = some ([')'], rest) := by
      rw [readGroup_cons (by decide), if_pos ⟨rfl, Nat.le_refl 1⟩]
    rw [List.append_assoc, readGroup_balanced hinside Nat.one_ne_zero, List.singleton_append, hend,
      Option.map_some]

/-- No group is read where none begins. -/
theorem readGroup_eq_none_iff :
    readGroup 1 t = none ↔ ∀ group, IsGroup group → ¬ group <+: '(' :: t := by
  constructor
  · rintro h group hgroup ⟨rest, hrest⟩
    obtain ⟨inside, -, rfl⟩ := id hgroup
    obtain rfl : inside ++ [')'] ++ rest = t := (List.cons.inj hrest).2
    rw [readGroup_eq_some_iff.2 ⟨hgroup, rfl⟩] at h
    cases h
  · intro h
    rcases hread : readGroup 1 t with _ | ⟨group, rest⟩
    · rfl
    · obtain ⟨hgroup, rfl⟩ := readGroup_eq_some_iff.1 hread
      exact absurd (List.prefix_append ('(' :: group) rest) (h _ hgroup)

/-! ## Names -/

/-- A name opens with a letter or an underscore. -/
def OpensName (c : Char) : Prop := ('A' ≤ c ∧ c ≤ 'Z') ∨ ('a' ≤ c ∧ c ≤ 'z') ∨ c = '_'

/-- Letters, underscores and digits stand in a name. -/
def StandsInName (c : Char) : Prop := OpensName c ∨ ('0' ≤ c ∧ c ≤ '9')

theorem isParamStart_iff {c : Char} : isParamStart c = true ↔ OpensName c := by
  have hupper : c.isUpper = true ↔ 'A' ≤ c ∧ c ≤ 'Z' := decide_eq_true_iff
  have hlower : c.isLower = true ↔ 'a' ≤ c ∧ c ≤ 'z' :=
    Bool.and_eq_true_iff.trans (and_congr decide_eq_true_iff decide_eq_true_iff)
  have halpha : c.isAlpha = true ↔ c.isUpper = true ∨ c.isLower = true := Bool.or_eq_true_iff
  rw [isParamStart, Bool.or_eq_true, decide_eq_true_eq, halpha, hupper, hlower, or_assoc, OpensName]

theorem isParamChar_iff {c : Char} : isParamChar c = true ↔ StandsInName c := by
  have hdigit : c.isDigit = true ↔ '0' ≤ c ∧ c ≤ '9' :=
    Bool.and_eq_true_iff.trans (and_congr decide_eq_true_iff decide_eq_true_iff)
  have halpha : c.isAlphanum = true ↔ c.isAlpha = true ∨ c.isDigit = true := Bool.or_eq_true_iff
  rw [StandsInName, ← isParamStart_iff, ← hdigit, isParamChar, isParamStart, Bool.or_eq_true,
    Bool.or_eq_true, halpha]
  exact or_right_comm

theorem head?_opensName : t.head?.any isParamStart = true ↔ ∃ c ∈ t.head?, OpensName c := by
  simp only [Option.any_eq_true, isParamStart_iff, Option.mem_def]

theorem head?_not_standsInName :
    ¬t.head?.any isParamChar = true ↔ ∀ c ∈ t.head?, ¬StandsInName c := by
  simp only [Option.any_eq_true, isParamChar_iff, Option.mem_def, not_exists, not_and]

/-! ## Pieces -/

/-- The text begins with the pieces, up to a rest of it. A parameter has the longest name that
stands there, and a colon with no name behind it is a character like others. -/
inductive Parses : Text → List RoutePiece → Text → Prop
  | done (rest : Text) : Parses rest [] rest
  | literal {c : Char} {t rest : Text} {ps : List RoutePiece} (hopen : c ≠ '(') (hclose : c ≠ ')')
      (hparam : ¬(c = ':' ∧ ∃ d ∈ t.head?, OpensName d)) (h : Parses t ps rest) :
      Parses (c :: t) (.literal c :: ps) rest
  | param {name t rest : Text} {ps : List RoutePiece} (hstart : ∃ c ∈ name.head?, OpensName c)
      (hname : ∀ c ∈ name, StandsInName c) (hlongest : ∀ c ∈ t.head?, ¬StandsInName c)
      (h : Parses t ps rest) : Parses (':' :: (name ++ t)) (.param name :: ps) rest
  | group {group t rest : Text} {ps : List RoutePiece} (hgroup : IsGroup group)
      (h : Parses t ps rest) : Parses (group ++ t) (.group group :: ps) rest

/-- No piece can begin here. -/
inductive Stuck : Text → RouteFault → Prop
  | unopened (rest : Text) : Stuck (')' :: rest) .unopened
  | unclosed {rest : Text} (h : ∀ group, IsGroup group → ¬ group <+: '(' :: rest) :
      Stuck ('(' :: rest) .unclosed

theorem readPieces_literal {c : Char} (hopen : c ≠ '(') (hclose : c ≠ ')')
    (hparam : ¬(c = ':' ∧ ∃ d ∈ t.head?, OpensName d)) :
    readPieces (c :: t) = (readPieces t).map (.literal c :: ·) := by
  rw [← head?_opensName] at hparam
  rw [readPieces, if_neg hparam]
  · rcases readPieces t with e | ps <;> rfl
  · exact hopen
  · exact hclose

theorem head?_append_of_name {name : Text} (hstart : ∃ c ∈ name.head?, OpensName c) :
    ∃ c ∈ (name ++ t).head?, OpensName c := by
  cases name with
  | nil => simp at hstart
  | cons c name => exact hstart

theorem readPieces_param {name : Text} (hstart : ∃ c ∈ name.head?, OpensName c)
    (hname : ∀ c ∈ name, StandsInName c) (hlongest : ∀ c ∈ t.head?, ¬StandsInName c) :
    readPieces (':' :: (name ++ t)) = (readPieces t).map (.param name :: ·) := by
  obtain ⟨htake, hdrop⟩ := Text.takeWhile_of_longest (fun c hc => isParamChar_iff.2 (hname c hc))
    (head?_not_standsInName.2 hlongest)
  rw [readPieces, if_pos ⟨rfl, head?_opensName.2 (head?_append_of_name hstart)⟩]
  · rw [htake, hdrop]
    rcases readPieces t with e | ps <;> rfl
  · exact fun h => by cases h
  · exact fun h => by cases h

theorem readPieces_group (hgroup : IsGroup group) :
    readPieces (group ++ t) = (readPieces t).map (.group group :: ·) := by
  obtain ⟨inside, hinside, rfl⟩ := hgroup
  have hread : readGroup 1 (inside ++ [')'] ++ t) = some (inside ++ [')'], t) :=
    readGroup_eq_some_iff.2 ⟨⟨inside, hinside, rfl⟩, rfl⟩
  rw [List.cons_append, readPieces]
  split
  · rename_i hnone
    rw [hread] at hnone
    cases hnone
  · rename_i group' rest' hsome
    rw [hread] at hsome
    cases hsome
    rcases readPieces t with e | ps <;> rfl

theorem readPieces_stuck (h : Stuck t fault) : readPieces t = .error fault := by
  cases h with
  | unopened rest => rw [readPieces]
  | @unclosed rest h =>
    rw [readPieces]
    split
    · rfl
    · rename_i group' rest' hsome
      rw [readGroup_eq_none_iff.2 h] at hsome
      cases hsome

/-- Behind the pieces that a text begins with, reading goes on in the rest of it. -/
theorem readPieces_of_parses (h : Parses t ps rest) :
    readPieces t = (readPieces rest).map (ps ++ ·) := by
  have hmap : ∀ (p : RoutePiece) (ps : List RoutePiece) (result : Except RouteFault _),
      (result.map (ps ++ ·)).map (p :: ·) = result.map (p :: ps ++ ·) := by
    intro p ps result
    cases result <;> rfl
  induction h with
  | done rest => cases readPieces rest <;> rfl
  | literal hopen hclose hparam h ih => rw [readPieces_literal hopen hclose hparam, ih, hmap]
  | param hstart hname hlongest h ih => rw [readPieces_param hstart hname hlongest, ih, hmap]
  | group hgroup h ih => rw [readPieces_group hgroup, ih, hmap]

theorem head?_takeWhile_isParamChar (h : ∃ c ∈ t.head?, OpensName c) :
    ∃ c ∈ (t.takeWhile isParamChar).head?, OpensName c := by
  obtain ⟨c, hhead, hc⟩ := h
  obtain ⟨t, rfl⟩ := List.head?_eq_some_iff.1 hhead
  rw [List.takeWhile_cons_of_pos (isParamChar_iff.2 (.inl hc))]
  exact ⟨c, rfl, hc⟩

/-- Every text begins with pieces up to its end, or up to where no piece can begin. -/
theorem exists_parses (t : Text) : ∃ ps rest, Parses t ps rest
    ∧ (rest = [] ∨ ∃ fault, Stuck rest fault) := by
  fun_induction readPieces t with
  | case1 => exact ⟨[], [], .done [], .inl rfl⟩
  | case2 cs hnone =>
    exact ⟨[], _, .done _, .inr ⟨_, .unclosed (readGroup_eq_none_iff.1 hnone)⟩⟩
  | case3 cs group rest hsome hlength ih =>
    obtain ⟨hgroup, rfl⟩ := readGroup_eq_some_iff.1 hsome
    obtain ⟨ps, later, hparses, hend⟩ := ih
    exact ⟨_, later, .group hgroup hparses, hend⟩
  | case4 rest => exact ⟨[], _, .done _, .inr ⟨_, .unopened rest⟩⟩
  | case5 c cs hopen hclose hparam hlength ih =>
    obtain ⟨ps, later, hparses, hend⟩ := ih
    obtain ⟨rfl, hstart⟩ := hparam
    have hparam := Parses.param (head?_takeWhile_isParamChar (head?_opensName.1 hstart))
      (fun c hc => isParamChar_iff.1 (List.mem_takeWhile_imp hc))
      (head?_not_standsInName.1 (Text.not_head?_dropWhile isParamChar cs)) hparses
    rw [List.takeWhile_append_dropWhile] at hparam
    exact ⟨_, later, hparam, hend⟩
  | case6 c cs hopen hclose hparam ih =>
    obtain ⟨ps, later, hparses, hend⟩ := ih
    rw [head?_opensName] at hparam
    exact ⟨_, later, .literal hopen hclose hparam hparses, hend⟩

/-- The pieces that are read are those that the text consists of. -/
theorem readPieces_eq_ok_iff : readPieces t = .ok ps ↔ Parses t ps [] := by
  constructor
  · intro h
    obtain ⟨ps', rest, hparses, hend⟩ := exists_parses t
    rw [readPieces_of_parses hparses] at h
    rcases hend with rfl | ⟨fault, hstuck⟩
    · rw [readPieces] at h
      cases h
      simpa using hparses
    · rw [readPieces_stuck hstuck] at h
      cases h
  · intro h
    rw [readPieces_of_parses h, readPieces]
    exact congrArg Except.ok (List.append_nil ps)

/-- Reading stops where no piece can begin. -/
theorem readPieces_eq_error_iff :
    readPieces t = .error fault ↔ ∃ ps rest, Parses t ps rest ∧ Stuck rest fault := by
  constructor
  · intro h
    obtain ⟨ps, rest, hparses, hend⟩ := exists_parses t
    rw [readPieces_of_parses hparses] at h
    rcases hend with rfl | ⟨fault', hstuck⟩
    · rw [readPieces] at h
      cases h
    · rw [readPieces_stuck hstuck] at h
      cases h
      exact ⟨ps, rest, hparses, hstuck⟩
  · rintro ⟨ps, rest, hparses, hstuck⟩
    rw [readPieces_of_parses hparses, readPieces_stuck hstuck]
    rfl

/-! ## Sources -/

/-- The source is a slash and pieces behind it. -/
def IsMadeOf (source : Text) (ps : List RoutePiece) : Prop :=
  source.head? = some '/' ∧ Parses source ps []

/-- What first stands against the grammar in a source, from the left: it has no slash in front, or
behind some pieces no other can begin. -/
inductive Offends (source : Text) : RouteFault → Prop
  | noSlash (h : source.head? ≠ some '/') : Offends source .noSlash
  | stuck {ps : List RoutePiece} {rest : Text} {fault : RouteFault}
      (hslash : source.head? = some '/') (h : Parses source ps rest) (hstuck : Stuck rest fault) :
      Offends source fault

variable {source : Text}

theorem pieces_of_slash (h : source.head? = some '/') : pieces source = readPieces source := by
  cases source with
  | nil => cases h
  | cons c t =>
    obtain rfl : c = '/' := Option.some.inj h
    rw [readPieces_literal (by decide) (by decide) (by simp), pieces]
    rcases readPieces t with e | ps <;> rfl

theorem pieces_of_noSlash (h : source.head? ≠ some '/') : pieces source = .error .noSlash := by
  unfold pieces
  split
  · exact absurd rfl h
  · rfl

theorem pieces_eq_ok_iff : pieces source = .ok ps ↔ IsMadeOf source ps := by
  by_cases hslash : source.head? = some '/'
  · rw [pieces_of_slash hslash, readPieces_eq_ok_iff, IsMadeOf, and_iff_right hslash]
  · simp [pieces_of_noSlash hslash, IsMadeOf, hslash]

theorem pieces_eq_error_iff : pieces source = .error fault ↔ Offends source fault := by
  by_cases hslash : source.head? = some '/'
  · rw [pieces_of_slash hslash, readPieces_eq_error_iff]
    constructor
    · rintro ⟨ps, rest, hparses, hstuck⟩
      exact .stuck hslash hparses hstuck
    · rintro (hnone | ⟨-, hparses, hstuck⟩)
      · exact absurd hslash hnone
      · exact ⟨_, _, hparses, hstuck⟩
  · rw [pieces_of_noSlash hslash]
    constructor
    · rintro ⟨⟩
      exact .noSlash hslash
    · rintro (hnone | ⟨hslash', -, -⟩)
      · rfl
      · exact absurd hslash' hslash

theorem compile_of_offends (h : Offends source fault) : compile source = .error fault := by
  rw [compile, pieces_eq_error_iff.2 h]
  rfl

theorem compile_of_isMadeOf (h : IsMadeOf source ps) :
    compile source = match Regex.parse (regexSource ps) with
      | .ok regex => .ok (regexSource ps, regex)
      | .error fault => .error (.regex fault) := by
  rw [compile, pieces_eq_ok_iff.2 h]
  rfl

/-- What a source is compiled to is the expression of the pieces that it is made of. -/
theorem exists_isMadeOf_of_compile {src : Text} {regex : Regex}
    (h : compile source = .ok (src, regex)) :
    ∃ ps, IsMadeOf source ps ∧ src = regexSource ps ∧ Regex.parse (regexSource ps) = .ok regex := by
  obtain ⟨ps, hpieces, -⟩ := bind_eq_ok.1 h
  have hmade := pieces_eq_ok_iff.1 hpieces
  rw [compile_of_isMadeOf hmade] at h
  split at h
  · rename_i hparse
    cases h
    exact ⟨ps, hmade, rfl, hparse⟩
  · cases h

theorem compile_of_ruleOf {destination : Text} {cleanUrls trailingSlash : Bool} {rule : RouteRule}
    (h : ruleOf source destination cleanUrls trailingSlash = .ok rule) :
    compile source = .ok (rule.src, rule.regex) := by
  unfold ruleOf at h
  split at h
  · cases h
  · rename_i hcompile
    split at h
    · cases h
      exact hcompile
    · cases h

theorem compile_of_invalidPattern {destination pattern : Text} {cleanUrls trailingSlash : Bool}
    (h : ruleOf source destination cleanUrls trailingSlash
      = .error (.invalidPattern pattern fault)) : compile source = .error fault := by
  unfold ruleOf at h
  split at h
  · rename_i hcompile
    cases h
    exact hcompile
  · split at h <;> cases h

/-! ## Expressions -/

/-- How a piece is written in an expression: a character that means something else there has a
backslash in front, and others are written as they are, a parameter is a group of its name around
a segment, and a group is written as it stands. -/
inductive PieceText : RoutePiece → Text → Prop
  | escaped {c : Char} (h : c ∈ "\\.+*?()|[]\x7b\x7d^$#&-~".toList) :
      PieceText (.literal c) ['\\', c]
  | itself {c : Char} (h : c ∉ "\\.+*?()|[]\x7b\x7d^$#&-~".toList) : PieceText (.literal c) [c]
  | param (name : Text) : PieceText (.param name) ("(?P<".toList ++ name ++ ">[^/]+)".toList)
  | group (group : Text) : PieceText (.group group) group

theorem pieceText_pieceSource (p : RoutePiece) : PieceText p (pieceSource p) := by
  cases p with
  | literal c =>
    rcases hc : RegexSyntax.isMeta c with _ | _
    · have hplain : pieceSource (.literal c) = [c] := by simp [pieceSource, Regex.escape, hc]
      rw [hplain]
      exact .itself fun hmem => Bool.eq_false_iff.1 hc (List.contains_iff_mem.2 hmem)
    · have hescaped : pieceSource (.literal c) = ['\\', c] := by
        simp [pieceSource, Regex.escape, hc]
      rw [hescaped]
      exact .escaped (List.contains_iff_mem.1 hc)
  | param name => exact .param name
  | group group => exact .group group

/-- The expression of a source is put together from those of its pieces. -/
theorem exists_texts (ps : List RoutePiece) : ∃ texts, List.Forall₂ PieceText ps texts
    ∧ regexSource ps = ['^'] ++ texts.flatten ++ ['$'] := by
  refine ⟨ps.map pieceSource, ?_, rfl⟩
  rw [List.forall₂_map_right_iff]
  exact List.forall₂_same.2 fun p _ => pieceText_pieceSource p

/-- The pieces that a source is made of are found, and a source that is made of none is refused,
whatever the destination, for what first stands in it against the grammar; a source that is made of
pieces is refused for its expression at most. The expression of a rule has a caret, the expressions
of the pieces in their order, and a dollar sign. -/
theorem source_grammar (source : Text) :
    (∀ ps, pieces source = .ok ps ↔ IsMadeOf source ps)
      ∧ (∀ fault, pieces source = .error fault ↔ Offends source fault)
      ∧ (∀ destination cleanUrls trailingSlash,
        (∀ fault, Offends source fault → ruleOf source destination cleanUrls trailingSlash
            = .error (.invalidPattern source fault))
          ∧ (∀ ps pattern fault, IsMadeOf source ps →
            ruleOf source destination cleanUrls trailingSlash
              = .error (.invalidPattern pattern fault) → ∃ cause, fault = .regex cause)
          ∧ ∀ rule, ruleOf source destination cleanUrls trailingSlash = .ok rule →
            ∃ ps texts, IsMadeOf source ps ∧ List.Forall₂ PieceText ps texts
              ∧ rule.src = ['^'] ++ texts.flatten ++ ['$'])
      ∧ RouteFault.noSlash.message = "must start with '/'".toList
      ∧ RouteFault.unopened.message = "unbalanced ')'".toList
      ∧ RouteFault.unclosed.message = "unbalanced '('".toList := by
  refine ⟨fun ps => pieces_eq_ok_iff, fun fault => pieces_eq_error_iff, ?_, rfl, rfl, rfl⟩
  intro destination cleanUrls trailingSlash
  refine ⟨?offends, ?made, ?rule⟩
  case offends =>
    intro fault hoffends
    rw [ruleOf, compile_of_offends hoffends]
  case made =>
    intro ps pattern fault hmade hrefused
    have hcompile := compile_of_invalidPattern hrefused
    rw [compile_of_isMadeOf hmade] at hcompile
    split at hcompile
    · cases hcompile
    · cases hcompile
      exact ⟨_, rfl⟩
  case rule =>
    intro rule hrule
    obtain ⟨ps, hmade, hsrc, -⟩ := exists_isMadeOf_of_compile (compile_of_ruleOf hrule)
    obtain ⟨texts, htexts, hflat⟩ := exists_texts ps
    exact ⟨ps, texts, hmade, htexts, hsrc.trans hflat⟩

theorem source_grammar_groupAndName :
    IsMadeOf "/(a\\)(b))::id-".toList
        [.literal '/', .group "(a\\)(b))".toList, .literal ':', .param "id".toList, .literal '-']
      ∧ (∃ rule, ruleOf "/(a\\)(b))::id-".toList "/".toList true false = .ok rule
        ∧ rule.src = "^/(a\\)(b)):(?P<id>[^/]+)\\-$".toList
        ∧ ∃ ps texts, IsMadeOf "/(a\\)(b))::id-".toList ps ∧ List.Forall₂ PieceText ps texts
          ∧ rule.src = ['^'] ++ texts.flatten ++ ['$'])
      ∧ ruleOf "/a)(".toList "/".toList true false
        = .error (.invalidPattern "/a)(".toList .unopened) := by
  have hlook : (ruleOf "/(a\\)(b))::id-".toList "/".toList true false).map RouteRule.src
      = .ok "^/(a\\)(b)):(?P<id>[^/]+)\\-$".toList := by
    decide +kernel
  obtain ⟨rule, hrule, hsrc⟩ := map_eq_ok.1 hlook
  have hnoName : ∀ {c : Char} {t : Text}, c ≠ ':' → ¬(c = ':' ∧ ∃ d ∈ t.head?, OpensName d) :=
    fun hc h => hc h.1
  have hparses : Parses "/a)(".toList ("/a".toList.map .literal) ")(".toList :=
    .literal (by decide) (by decide) (hnoName (by decide))
      (.literal (by decide) (by decide) (hnoName (by decide)) (.done _))
  refine ⟨((source_grammar _).1 _).1 (by decide +kernel), ⟨rule, hrule, hsrc, ?_⟩, ?_⟩
  · exact ((source_grammar _).2.2.1 _ _ _).2.2 rule hrule
  · exact ((source_grammar _).2.2.1 _ _ _).1 _ (.stuck rfl hparses (.unopened _))

end Route

end AppBundle
