import AppBundle.Proofs.Anchored
import AppBundle.Proofs.Repeated
import Mathlib.Data.List.Nodup

/-!
# Routes of literals and parameters

A source without parentheses has no groups, and its expression is read piece by piece: a literal
stands for itself and a parameter for a segment that is not empty, unless its name stood in front of
it already, which refuses the whole source (`readParts_pieces`, `readParts_repeated`). What such a
rule matches is therefore the source with a segment in place of each parameter (`params_match`).
-/

namespace AppBundle

namespace RegexSyntax

/-! ## Reading -/

section Reading

variable {steps : Nat} {names : List Text} {outer : List OpenGroup} {g : OpenGroup} {c : Char}
  {t rest name : Text}

/-- The characters of a segment. -/
def segmentChars : CharSet := .compl (.single '/')

/-- A segment that is not empty. -/
def segmentRegex : Regex := .rep (.oneOf segmentChars) 1 none

theorem readParts_primitive {p : RegexPrimitive} {r : Regex} (hflags : g.flags = {})
    (hc : isStructure c = false) (hp : readPrimitive {} (c :: t) = .ok (p, rest))
    (hr : ofPrimitive {} p = .ok r) :
    readParts (steps + 1) names outer g (c :: t)
      = readParts steps names outer (g.push r 0) rest := by
  have hnext : next g.flags (c :: t) = c :: t := by rw [hflags, next_of_not_verbose rfl]
  have hne : ∀ {d cs}, c :: t = d :: cs → isStructure d = true → False := by
    intro d cs h hd
    rw [← (List.cons.inj h).1, hc] at hd
    cases hd
  conv =>
    lhs
    whnf
  rw [hnext]
  split
  case h_10 =>
    rw [hflags, hp]
    change (do readParts steps names outer (g.push (← ofPrimitive {} p) 0) rest) = _
    rw [hr]
    rfl
  all_goals first
    | exact (hne ‹_› rfl).elim
    | cases ‹c :: t = []›

theorem readParts_escape (hflags : g.flags = {}) :
    readParts (steps + 1) names outer g (Regex.escape [c] ++ t)
      = readParts steps names outer (g.push (Regex.ofChar c) 0) t := by
  rcases hc : isMeta c with _ | _
  · have hescape : Regex.escape [c] ++ t = c :: t := by simp [Regex.escape, hc]
    rw [hescape]
    exact readParts_primitive hflags (isStructure_of_not_meta hc) (readPrimitive_plain hc) rfl
  · have hescape : Regex.escape [c] ++ t = '\\' :: c :: t := by simp [Regex.escape, hc]
    rw [hescape]
    exact readParts_primitive hflags rfl (readPrimitive_escaped hc) rfl

theorem readGroup_named (hname : readGroupName t = .ok (name, rest)) :
    readGroup {} ('?' :: 'P' :: '<' :: t) = .ok (.group {} (some name) rest) := by
  have hbind : readGroup {} ('?' :: 'P' :: '<' :: t) = readGroupName t >>= _ := rfl
  rw [hbind, hname]
  rfl

/-- The expression of a parameter is read as a group of its name. -/
theorem readParts_param (hflags : g.flags = {})
    (hname : readGroupName (name ++ '>' :: '[' :: '^' :: '/' :: ']' :: '+' :: ')' :: t)
      = .ok (name, '[' :: '^' :: '/' :: ']' :: '+' :: ')' :: t)) :
    readParts (steps + 4) names outer g ('(' :: '?' :: 'P' :: '<' ::
        (name ++ '>' :: '[' :: '^' :: '/' :: ']' :: '+' :: ')' :: t))
      = if name ∈ names then .error (.repeatedGroupName name)
        else readParts steps (name :: names) outer (g.push segmentRegex 3) t := by
  obtain ⟨flags, branches, parts⟩ := g
  obtain rfl : flags = {} := hflags
  have hopened : readParts (steps + 4) names outer ⟨{}, branches, parts⟩
      ('(' :: '?' :: 'P' :: '<' :: (name ++ '>' :: '[' :: '^' :: '/' :: ']' :: '+' :: ')' :: t))
        = readGroup {} _ >>= _ := rfl
  rw [hopened, readGroup_named hname]
  change (if name ∈ names then _ else _) = _
  split
  · rfl
  · rfl

theorem OpenGroup.close_of_branch (h : g.branches = []) : g.close = g.branch := by
  simp [OpenGroup.close, h, choice]

end Reading

end RegexSyntax

namespace Route

open RegexSyntax

/-! ## Names -/

theorem lt_of_standsInName {c : Char} (h : StandsInName c) : c.toNat < 128 := by
  have hbelow : ∀ {z : Char}, z.toNat < 128 → c ≤ z → c.toNat < 128 := fun hz hle =>
    Nat.lt_of_le_of_lt (UInt32.le_iff_toNat_le.1 hle) hz
  rcases h with (hupper | hlower | rfl) | hdigit
  · exact hbelow (by decide) hupper.2
  · exact hbelow (by decide) hlower.2
  · decide
  · exact hbelow (by decide) hdigit.2

/-- The names of parameters may be names of groups. -/
theorem isNameChar_of_standsInName {c : Char} (h : StandsInName c) : isNameChar c = true
    ∧ (OpensName c → isNameStart c = true) ∧ c ≠ '>' := by
  have hall : ∀ n < 128, isParamChar (Char.ofNat n) = true → isNameChar (Char.ofNat n) = true
      ∧ (isParamStart (Char.ofNat n) = true → isNameStart (Char.ofNat n) = true)
      ∧ Char.ofNat n ≠ '>' := by
    decide +kernel
  have hascii := hall c.toNat (lt_of_standsInName h)
  rw [Char.ofNat_toNat, isParamChar_iff, isParamStart_iff] at hascii
  exact hascii h

theorem readGroupName_param {name rest : Text} (hstart : ∃ c ∈ name.head?, OpensName c)
    (hname : ∀ c ∈ name, StandsInName c) :
    readGroupName (name ++ '>' :: rest) = .ok (name, rest) := by
  have hplain : ∀ c ∈ name, decide (c ≠ '>') = true := fun c hc =>
    decide_eq_true (isNameChar_of_standsInName (hname c hc)).2.2
  have hnameStart : name.head?.any isNameStart = true := by
    obtain ⟨c, hhead, hc⟩ := hstart
    obtain ⟨name, rfl⟩ := List.head?_eq_some_iff.1 hhead
    exact (isNameChar_of_standsInName (hname c List.mem_cons_self)).2.1 hc
  have hall : name.all isNameChar = true :=
    List.all_eq_true.2 fun c hc => (isNameChar_of_standsInName (hname c hc)).1
  have hend : ¬('>' :: rest).head?.any (· ≠ '>') := by simp
  obtain ⟨htake, hdrop⟩ := Text.takeWhile_of_longest hplain hend
  unfold readGroupName
  rw [htake, hdrop]
  exact if_pos ⟨hnameStart, hall⟩

/-! ## Expressions of pieces -/

section Expressions

variable {steps : Nat} {names : List Text} {outer : List OpenGroup} {g : OpenGroup} {t : Text}
  {p : RoutePiece} {ps : List RoutePiece}

def paramName? : RoutePiece → Option Text
  | .param name => some name
  | .literal _ | .group _ => none

/-- The names of the parameters among some pieces. -/
def paramNames (ps : List RoutePiece) : List Text := ps.filterMap paramName?

theorem mem_paramNames {name : Text} (h : .param name ∈ ps) : name ∈ paramNames ps :=
  List.mem_filterMap.2 ⟨_, h, rfl⟩

/-- A piece of a source without parentheses, which has no groups. -/
inductive IsPlainPiece : RoutePiece → Prop
  | literal (c : Char) : IsPlainPiece (.literal c)
  | param {name : Text} (hstart : ∃ c ∈ name.head?, OpensName c)
      (hname : ∀ c ∈ name, StandsInName c) : IsPlainPiece (.param name)

/-- What such a piece is read as. -/
def partOf : RoutePiece → Part
  | .literal c => .expr (Regex.ofChar c) 0
  | .param _ => .expr segmentRegex 3
  | .group _ => .flags

theorem pieceSource_param (name t : Text) : pieceSource (.param name) ++ t
    = '(' :: '?' :: 'P' :: '<' :: (name ++ '>' :: '[' :: '^' :: '/' :: ']' :: '+' :: ')' :: t) := by
  simp [pieceSource]

/-- A piece is read as one part, and a name that is new is remembered. -/
theorem readParts_piece (hp : IsPlainPiece p) (hflags : g.flags = {})
    (hfresh : ∀ name ∈ paramName? p, name ∉ names) (hsteps : (pieceSource p ++ t).length < steps) :
    ∃ later, t.length < later ∧ readParts steps names outer g (pieceSource p ++ t)
      = readParts later ((paramName? p).toList ++ names) outer
        { g with parts := partOf p :: g.parts } t := by
  cases hp with
  | literal c =>
    have hlength : 1 ≤ (Regex.escape [c]).length := by
      rcases hc : isMeta c with _ | _ <;> simp [Regex.escape, hc]
    rw [List.length_append, show pieceSource (.literal c) = Regex.escape [c] from rfl] at hsteps
    obtain ⟨steps, rfl⟩ : ∃ n, steps = n + 1 := ⟨steps - 1, by omega⟩
    exact ⟨steps, by omega, readParts_escape hflags⟩
  | @param name hstart hname =>
    rw [pieceSource_param] at hsteps ⊢
    simp only [List.length_cons, List.length_append] at hsteps
    obtain ⟨steps, rfl⟩ : ∃ n, steps = n + 4 := ⟨steps - 4, by omega⟩
    refine ⟨steps, by omega, ?_⟩
    rw [readParts_param hflags (readGroupName_param hstart hname), if_neg (hfresh name rfl)]
    rfl

theorem readParts_taken {name : Text} (hp : IsPlainPiece (.param name)) (hflags : g.flags = {})
    (hname : name ∈ names) (hsteps : (pieceSource (.param name) ++ t).length < steps) :
    readParts steps names outer g (pieceSource (.param name) ++ t)
      = .error (.repeatedGroupName name) := by
  cases hp with
  | param hstart hchars =>
    rw [pieceSource_param] at hsteps ⊢
    simp only [List.length_cons, List.length_append] at hsteps
    obtain ⟨steps, rfl⟩ : ∃ n, steps = n + 4 := ⟨steps - 4, by omega⟩
    rw [readParts_param hflags (readGroupName_param hstart hchars), if_pos hname]

/-- The names of some pieces behind those that were there, last one first. -/
def namesAfter (names : List Text) (ps : List RoutePiece) : List Text :=
  (paramNames ps).reverse ++ names

theorem namesAfter_cons :
    namesAfter names (p :: ps) = namesAfter ((paramName? p).toList ++ names) ps := by
  unfold namesAfter paramNames
  rcases h : paramName? p with _ | name <;> simp [h]

theorem readParts_nil (hflags : g.flags = {}) :
    readParts (steps + 1) names [] g [] = .ok g.close := by
  obtain ⟨flags, branches, parts⟩ := g
  obtain rfl : flags = {} := hflags
  rfl

theorem readParts_end (hflags : g.flags = {}) (hsteps : (tailSource []).length < steps) :
    readParts steps names [] g (tailSource [])
      = .ok (OpenGroup.close { g with parts := .expr (.look .textEnd) 0 :: g.parts }) := by
  obtain ⟨steps, rfl⟩ : ∃ n, steps = n + 2 := ⟨steps - 2, by simp [tailSource] at hsteps; omega⟩
  have hlook : ofPrimitive {} (.look .textEnd) = .ok (.look .textEnd) := rfl
  exact (readParts_primitive hflags rfl rfl hlook).trans (readParts_nil hflags)

/-- Pieces whose names differ, also from those in front, are read to the end. -/
theorem readParts_pieces : ∀ {ps : List RoutePiece} {names : List Text} {g : OpenGroup}
    {steps : Nat}, (∀ p ∈ ps, IsPlainPiece p) → (namesAfter names ps).Nodup → g.flags = {} →
      (tailSource ps).length < steps → readParts steps names [] g (tailSource ps)
        = .ok (OpenGroup.close
          { g with parts := .expr (.look .textEnd) 0 :: ((ps.map partOf).reverse ++ g.parts) })
  | [], names, g, steps, _, _, hflags, hsteps => readParts_end hflags hsteps
  | p :: ps, names, g, steps, hplain, hnodup, hflags, hsteps => by
    obtain ⟨hp, hplain⟩ := List.forall_mem_cons.1 hplain
    rw [namesAfter_cons] at hnodup
    have hfresh : ∀ name ∈ paramName? p, name ∉ names := by
      intro name hname
      have hnames := (List.nodup_append.1 hnodup).2.1
      rw [Option.mem_def.1 hname] at hnames
      exact (List.nodup_cons.1 hnames).1
    rw [tailSource_cons] at hsteps ⊢
    obtain ⟨later, hlater, hread⟩ := readParts_piece hp hflags hfresh hsteps
    have hrest := readParts_pieces (g := { g with parts := partOf p :: g.parts }) hplain hnodup
      hflags hlater
    rw [hread, hrest]
    simp

/-- Pieces that repeat a name are refused. -/
theorem readParts_repeated : ∀ {ps : List RoutePiece} {names : List Text} {g : OpenGroup}
    {steps : Nat}, (∀ p ∈ ps, IsPlainPiece p) → names.Nodup → ¬(namesAfter names ps).Nodup →
      g.flags = {} → (tailSource ps).length < steps →
        ∃ name, readParts steps names [] g (tailSource ps) = .error (.repeatedGroupName name)
  | [], names, g, steps, _, hnames, hrepeated, _, _ => absurd hnames hrepeated
  | p :: ps, names, g, steps, hplain, hnames, hrepeated, hflags, hsteps => by
    obtain ⟨hp, hplain⟩ := List.forall_mem_cons.1 hplain
    rw [namesAfter_cons] at hrepeated
    rw [tailSource_cons] at hsteps ⊢
    by_cases htaken : ∃ name ∈ paramName? p, name ∈ names
    · obtain ⟨name, hname, hmem⟩ := htaken
      cases p with
      | param name' =>
        cases hname
        exact ⟨name, readParts_taken hp hflags hmem hsteps⟩
      | literal c => cases hname
      | group t => cases hname
    · have hfresh : ∀ name ∈ paramName? p, name ∉ names := fun name hname hmem =>
        htaken ⟨name, hname, hmem⟩
      have hnames' : ((paramName? p).toList ++ names).Nodup := by
        rcases h : paramName? p with _ | name
        · exact hnames
        · exact List.nodup_cons.2 ⟨hfresh name h, hnames⟩
      obtain ⟨later, hlater, hread⟩ := readParts_piece hp hflags hfresh hsteps
      rw [hread]
      exact readParts_repeated hplain hnames' hrepeated hflags hlater

theorem foldl_depth_le : ∀ {parts : List Part} {depth most : Nat}, depth ≤ most →
    (∀ part ∈ parts, part.depth ≤ most) →
      parts.foldl (fun depth part => max depth part.depth) depth ≤ most
  | [], _, _, hdepth, _ => hdepth
  | part :: parts, depth, most, hdepth, hparts => by
    obtain ⟨hpart, hparts⟩ := List.forall_mem_cons.1 hparts
    have hmax : max depth part.depth ≤ most := Nat.max_le.2 ⟨hdepth, hpart⟩
    rw [List.foldl_cons]
    exact foldl_depth_le hmax hparts

/-- The expression of a source without groups. -/
def plainRegex (ps : List RoutePiece) : Regex :=
  RegexSyntax.sequence
    (.look .textStart :: (ps.map (fun p => (partOf p).regex) ++ [.look .textEnd]))

theorem depth_partOf (p : RoutePiece) : (partOf p).depth ≤ 3 := by
  cases p <;> simp [partOf, Part.depth]

/-- The group that is open when the pieces of a source are read. -/
def readGroupOf (ps : List RoutePiece) : OpenGroup where
  parts := .expr (.look .textEnd) 0 :: ((ps.map partOf).reverse ++ [.expr (.look .textStart) 0])

/-- The expression of a source without groups is nowhere nested deep. -/
theorem close_readGroupOf (ps : List RoutePiece) : ∃ depth ≤ depthLimit,
    (readGroupOf ps).close = (plainRegex ps, depth) := by
  have hparts : ∀ part ∈ (readGroupOf ps).parts, part.depth ≤ 3 := by
    intro part hpart
    simp only [readGroupOf, List.mem_cons, List.mem_append, List.mem_reverse, List.mem_map,
      List.not_mem_nil, or_false] at hpart
    rcases hpart with rfl | ⟨p, -, rfl⟩ | rfl
    · exact Nat.zero_le 3
    · exact depth_partOf p
    · exact Nat.zero_le 3
  have hdepth := foldl_depth_le (Nat.zero_le 3) hparts
  have hregex : (readGroupOf ps).branch.1 = plainRegex ps := by
    simp [OpenGroup.branch, readGroupOf, plainRegex, Part.regex, Function.comp_def]
  have hbranch : (readGroupOf ps).branch.2 ≤ 4 := by
    unfold OpenGroup.branch
    dsimp only
    split <;> omega
  refine ⟨(readGroupOf ps).branch.2, Nat.le_trans hbranch (by decide), ?_⟩
  rw [OpenGroup.close_of_branch rfl, ← hregex]

theorem parse_regexSource : Regex.parse (regexSource ps) = (do
    let (r, depth) ← readParts ((tailSource ps).length + 1) [] []
      (OpenGroup.push {} (.look .textStart) 0) (tailSource ps)
    if depth ≤ depthLimit then return r else .error .nestedTooDeep) := by
  have hcaret : ofPrimitive {} (.look .textStart) = .ok (.look .textStart) := rfl
  have hread : readParts ((tailSource ps).length + 2) [] [] {} ('^' :: tailSource ps) = _ :=
    readParts_primitive rfl rfl rfl hcaret
  rw [← hread]
  rfl

theorem parse_plain (hplain : ∀ p ∈ ps, IsPlainPiece p) (hnodup : (paramNames ps).Nodup) :
    Regex.parse (regexSource ps) = .ok (plainRegex ps) := by
  have hnames : (namesAfter [] ps).Nodup := by
    simpa [namesAfter, List.nodup_reverse] using hnodup
  have hread : readParts _ [] [] _ (tailSource ps) = .ok (readGroupOf ps).close :=
    readParts_pieces (g := OpenGroup.push {} (.look .textStart) 0) hplain hnames rfl
      (Nat.lt_succ_self _)
  obtain ⟨depth, hdepth, hclose⟩ := close_readGroupOf ps
  rw [parse_regexSource, hread, hclose]
  exact if_pos hdepth

theorem parse_repeated (hplain : ∀ p ∈ ps, IsPlainPiece p) (hrepeated : ¬(paramNames ps).Nodup) :
    ∃ name, Regex.parse (regexSource ps) = .error (.repeatedGroupName name) := by
  have hnames : ¬(namesAfter [] ps).Nodup := by
    simpa [namesAfter, List.nodup_reverse] using hrepeated
  obtain ⟨name, hread⟩ := readParts_repeated (g := OpenGroup.push {} (.look .textStart) 0) hplain
    List.nodup_nil hnames rfl (Nat.lt_succ_self _)
  rw [parse_regexSource, hread]
  exact ⟨name, rfl⟩

end Expressions

/-! ## Requests -/

section Requests

variable {ps : List RoutePiece} {request t : Text} {value : Text → Text}

/-- The text is the pieces in their order, with a segment that is not empty in place of each
parameter. -/
inductive Fits : List RoutePiece → Text → Prop
  | nil : Fits [] []
  | literal (c : Char) {ps : List RoutePiece} {t : Text} (h : Fits ps t) :
      Fits (.literal c :: ps) (c :: t)
  | param (name : Text) {value t : Text} {ps : List RoutePiece} (hvalue : value ≠ [])
      (hslash : '/' ∉ value) (h : Fits ps t) : Fits (.param name :: ps) (value ++ t)

theorem fits_nil : Fits [] t ↔ t = [] := by
  constructor
  · rintro ⟨⟩
    rfl
  · rintro rfl
    exact .nil

theorem fits_literal {c : Char} : Fits (.literal c :: ps) t ↔ ∃ u, t = c :: u ∧ Fits ps u := by
  constructor
  · rintro (_ | ⟨c, h⟩)
    exact ⟨_, rfl, h⟩
  · rintro ⟨u, rfl, h⟩
    exact .literal c h

theorem fits_param {name : Text} : Fits (.param name :: ps) t
    ↔ ∃ value u, value ≠ [] ∧ '/' ∉ value ∧ t = value ++ u ∧ Fits ps u := by
  constructor
  · rintro (_ | _ | ⟨name, hvalue, hslash, h⟩)
    exact ⟨_, _, hvalue, hslash, rfl, h⟩
  · rintro ⟨value, u, hvalue, hslash, rfl, h⟩
    exact .param name hvalue hslash h

theorem mem_segmentChars {c : Char} : segmentChars.mem c.toNat = true ↔ c ≠ '/' := by
  rw [segmentChars, CharSet.mem, Bool.not_eq_true', ← Bool.not_eq_true]
  exact not_congr CharSet.mem_single

theorem mem_ends_segment {p e : Spot} : e ∈ segmentRegex.ends p ↔ ∃ value, value ≠ [] ∧ '/' ∉ value
    ∧ p.rest = value ++ e.rest ∧ e.before = value.getLast?.or p.before := by
  rw [segmentRegex, Regex.mem_ends_rep_oneOf]
  simp only [mem_segmentChars]
  constructor
  · rintro ⟨value, hlength, hrest, hbefore, hall⟩
    exact ⟨value, List.ne_nil_of_length_pos hlength, fun h => hall _ h rfl, hrest, hbefore⟩
  · rintro ⟨value, hne, hslash, hrest, hbefore⟩
    exact ⟨value, List.length_pos_iff.2 hne, hrest, hbefore, fun c hc h => hslash (h ▸ hc)⟩

theorem exists_ends_iff : ∀ {ps : List RoutePiece} {p : Spot}, (∀ q ∈ ps, IsPlainPiece q) →
    ((∃ e, e ∈ (RegexSyntax.sequence
        (ps.map (fun q => (partOf q).regex) ++ [.look .textEnd])).ends p) ↔ Fits ps p.rest)
  | [], p, _ => by
    have hend : Look.textEnd.holds p = true ↔ p.rest = [] := by simp [Look.holds]
    simp only [List.map_nil, List.nil_append, RegexSyntax.sequence, Regex.mem_ends_look,
      exists_eq_left, hend, fits_nil]
  | .literal c :: ps, p, hplain => by
    obtain ⟨-, hplain⟩ := List.forall_mem_cons.1 hplain
    simp only [List.map_cons, List.cons_append, Regex.mem_ends_sequence, fits_literal]
    constructor
    · rintro ⟨e, m, hm, he⟩
      obtain ⟨d, hrest, -, hd⟩ := Regex.mem_ends_oneOf.1 hm
      rw [CharSet.mem_single] at hd
      exact ⟨m.rest, hd ▸ hrest, (exists_ends_iff hplain).1 ⟨e, he⟩⟩
    · rintro ⟨u, hrest, hfits⟩
      obtain ⟨e, he⟩ := (exists_ends_iff (p := ⟨some c, u⟩) hplain).2 hfits
      exact ⟨e, ⟨some c, u⟩, Regex.mem_ends_oneOf.2 ⟨c, hrest, rfl, CharSet.mem_single.2 rfl⟩, he⟩
  | .param name :: ps, p, hplain => by
    obtain ⟨-, hplain⟩ := List.forall_mem_cons.1 hplain
    simp only [List.map_cons, List.cons_append, Regex.mem_ends_sequence, fits_param]
    constructor
    · rintro ⟨e, m, hm, he⟩
      obtain ⟨value, hne, hslash, hrest, -⟩ := mem_ends_segment.1 hm
      exact ⟨value, m.rest, hne, hslash, hrest, (exists_ends_iff hplain).1 ⟨e, he⟩⟩
    · rintro ⟨value, u, hne, hslash, hrest, hfits⟩
      obtain ⟨e, he⟩ := (exists_ends_iff (p := ⟨value.getLast?.or p.before, u⟩) hplain).2 hfits
      exact ⟨e, _, mem_ends_segment.2 ⟨value, hne, hslash, hrest, rfl⟩, he⟩
  | .group t :: ps, p, hplain => by
    cases hplain _ List.mem_cons_self

theorem isMatch_plainRegex (hplain : ∀ p ∈ ps, IsPlainPiece p) :
    (plainRegex ps).isMatch request = true ↔ Fits ps request := by
  rw [← exists_ends_iff (p := ⟨none, request⟩) hplain, ← Regex.isMatch_textStart, plainRegex]
  cases ps <;> rfl

/-- The piece with a value in place of a parameter. -/
def filled (value : Text → Text) : RoutePiece → Text
  | .literal c => [c]
  | .param name => value name
  | .group t => t

/-- Where names differ, the segments in place of the parameters may be told by their names. -/
theorem fits_iff : ∀ {ps : List RoutePiece} {t : Text}, (∀ p ∈ ps, IsPlainPiece p) →
    (paramNames ps).Nodup → (Fits ps t ↔ ∃ value : Text → Text,
      (∀ name ∈ paramNames ps, value name ≠ [] ∧ '/' ∉ value name) ∧ t = ps.flatMap (filled value))
  | [], t, _, _ => by simp [fits_nil, paramNames]
  | .literal c :: ps, t, hplain, hnodup => by
    obtain ⟨-, hplain⟩ := List.forall_mem_cons.1 hplain
    simp only [fits_literal, fits_iff hplain hnodup]
    constructor
    · rintro ⟨u, rfl, value, hvalue, rfl⟩
      exact ⟨value, hvalue, rfl⟩
    · rintro ⟨value, hvalue, rfl⟩
      exact ⟨_, rfl, value, hvalue, rfl⟩
  | .param name :: ps, t, hplain, hnodup => by
    obtain ⟨-, hplain⟩ := List.forall_mem_cons.1 hplain
    obtain ⟨hfresh, hnodup⟩ := List.nodup_cons.1 (show (name :: paramNames ps).Nodup from hnodup)
    simp only [fits_param, fits_iff hplain hnodup]
    constructor
    · rintro ⟨segment, u, hne, hslash, rfl, value, hvalue, rfl⟩
      have hsame : ∀ n ∈ paramNames ps, Function.update value name segment n = value n :=
        fun n hn => Function.update_of_ne (fun h => hfresh (by rwa [← h])) _ _
      refine ⟨Function.update value name segment, List.forall_mem_cons.2 ⟨?_, ?_⟩, ?_⟩
      · simpa using ⟨hne, hslash⟩
      · intro n hn
        rw [hsame n hn]
        exact hvalue n hn
      · rw [List.flatMap_cons, filled, Function.update_self]
        refine congrArg (segment ++ ·) (List.flatMap_congr fun q hq => ?_)
        cases q with
        | param n => exact (hsame n (mem_paramNames hq)).symm
        | literal c => rfl
        | group t => rfl
    · rintro ⟨value, hvalue, rfl⟩
      obtain ⟨hhead, hvalue⟩ := List.forall_mem_cons.1
        (show ∀ n ∈ name :: paramNames ps, value n ≠ [] ∧ '/' ∉ value n from hvalue)
      exact ⟨_, _, hhead.1, hhead.2, rfl, value, hvalue, rfl⟩
  | .group t :: ps, _, hplain, _ => by
    cases hplain _ List.mem_cons_self

end Requests

/-! ## Sources -/

section Sources

variable {source destination t rest : Text} {ps : List RoutePiece}

theorem not_mem_of_parses {c : Char} (h : Parses t ps rest) (hc : c ∉ t) : c ∉ rest := by
  induction h with
  | done => exact hc
  | literal _ _ _ _ ih => exact ih fun h => hc (List.mem_cons_of_mem _ h)
  | param _ _ _ _ ih => exact ih fun h => hc (List.mem_cons_of_mem _ (List.mem_append_right _ h))
  | group _ _ ih => exact ih fun h => hc (List.mem_append_right _ h)

theorem isPlainPiece_of_parses (h : Parses t ps rest) (hopen : '(' ∉ t) :
    ∀ p ∈ ps, IsPlainPiece p := by
  induction h with
  | done => simp
  | @literal c _ _ _ _ _ _ _ ih =>
    have hlater := ih fun h => hopen (List.mem_cons_of_mem _ h)
    exact List.forall_mem_cons.2 ⟨.literal c, hlater⟩
  | param hstart hname _ _ ih =>
    have hlater := ih fun h => hopen (List.mem_cons_of_mem _ (List.mem_append_right _ h))
    exact List.forall_mem_cons.2 ⟨.param hstart hname, hlater⟩
  | group hgroup =>
    obtain ⟨inside, -, rfl⟩ := hgroup
    simp at hopen

/-- Only a parenthesis stands against the grammar behind a slash. -/
theorem exists_isMadeOf (hslash : source.head? = some '/') (hopen : '(' ∉ source)
    (hclose : ')' ∉ source) : ∃ ps, IsMadeOf source ps := by
  obtain ⟨ps, rest, hparses, hend⟩ := exists_parses source
  rcases hend with rfl | ⟨fault, hstuck⟩
  · exact ⟨ps, hslash, hparses⟩
  · cases hstuck with
    | unopened => exact absurd List.mem_cons_self (not_mem_of_parses hparses hclose)
    | unclosed => exact absurd List.mem_cons_self (not_mem_of_parses hparses hopen)

/-- A source without parentheses that starts with a slash has a rule exactly if its parameters have
different names. The rule matches the requests that are the source with any segment that is not
empty in place of each parameter, and no others. -/
theorem params_match {cleanUrls trailingSlash : Bool} (hslash : source.head? = some '/')
    (hopen : '(' ∉ source) (hclose : ')' ∉ source) (hdestination : isDestination destination) :
    ∃ ps, IsMadeOf source ps
      ∧ ((∃ rule, ruleOf source destination cleanUrls trailingSlash = .ok rule)
        ↔ (paramNames ps).Nodup)
      ∧ ∀ rule, ruleOf source destination cleanUrls trailingSlash = .ok rule →
        ∀ request, rule.isMatch request ↔ ∃ value : Text → Text,
          (∀ name ∈ paramNames ps, value name ≠ [] ∧ '/' ∉ value name)
            ∧ request = ps.flatMap (filled value) := by
  obtain ⟨ps, hmade⟩ := exists_isMadeOf hslash hopen hclose
  have hplain := isPlainPiece_of_parses hmade.2 hopen
  refine ⟨ps, hmade, ?_⟩
  by_cases hnodup : (paramNames ps).Nodup
  · have hcompile := compile_of_isMadeOf hmade
    rw [parse_plain hplain hnodup] at hcompile
    refine ⟨⟨fun _ => hnodup, fun _ => ?_⟩, ?_⟩
    · rw [ruleOf, hcompile]
      exact ⟨_, if_pos hdestination⟩
    · intro rule hrule request
      have hsame := (compile_of_ruleOf hrule).symm.trans hcompile
      have hregex : rule.regex = plainRegex ps := (Prod.mk.inj (Except.ok.inj hsame)).2
      rw [RouteRule.isMatch, hregex, isMatch_plainRegex hplain, fits_iff hplain hnodup]
  · have hnone : ∀ rule, ruleOf source destination cleanUrls trailingSlash ≠ .ok rule := by
      obtain ⟨name, hparse⟩ := parse_repeated hplain hnodup
      intro rule hrule
      have hcompile := compile_of_isMadeOf hmade
      rw [compile_of_ruleOf hrule, hparse] at hcompile
      cases hcompile
    exact ⟨iff_of_false (not_exists.2 hnone) hnodup, fun rule hrule => absurd hrule (hnone rule)⟩

theorem params_match_adjacent :
    ∃ rule, ruleOf "/v1.0/:user:id/:".toList "/x".toList true false = .ok rule
      ∧ ∀ request, rule.isMatch request ↔ ∃ user id : Text, (user ≠ [] ∧ '/' ∉ user)
        ∧ (id ≠ [] ∧ '/' ∉ id) ∧ request = "/v1.0/".toList ++ user ++ id ++ "/:".toList := by
  have hpieces : pieces "/v1.0/:user:id/:".toList = .ok ("/v1.0/".toList.map .literal
      ++ [.param "user".toList, .param "id".toList] ++ "/:".toList.map .literal) := by
    decide +kernel
  obtain ⟨ps, hmade, hrule, hmatch⟩ := @params_match "/v1.0/:user:id/:".toList "/x".toList true
    false (by decide) (by decide) (by decide) (by decide)
  cases (pieces_eq_ok_iff.2 hmade).symm.trans hpieces
  obtain ⟨rule, hrule⟩ := hrule.2 (by decide)
  refine ⟨rule, hrule, fun request => (hmatch rule hrule request).trans ⟨?_, ?_⟩⟩
  · rintro ⟨value, hvalue, rfl⟩
    refine ⟨value "user".toList, value "id".toList, hvalue _ ?_, hvalue _ ?_, ?_⟩
    · decide
    · decide
    · simp [filled]
  · rintro ⟨user, id, huser, hid, rfl⟩
    refine ⟨fun name => if name = "user".toList then user else id, ?_, ?_⟩
    · intro name hname
      dsimp only
      split
      · exact huser
      · exact hid
    · simp [filled]

end Sources

end Route

end AppBundle
