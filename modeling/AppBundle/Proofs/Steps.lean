import AppBundle.Proofs.Following
import AppBundle.Proofs.NormalPath
import Mathlib.Data.List.Basic

/-!
# Steps of a path

What a walk of a path does is told by its steps, the names between its slashes but for dots
(`undotted_walkNames`). A path that is read from a directory takes the steps of the directory and
then its own, and a path that lies below a directory, does not go up from there and has no
backslash takes the steps of the directory and then those of its normal form
(`steps_of_relativeTo?`).
-/

namespace AppBundle

namespace Path

open AppBundle.Tree (walkNames undotted)

variable {p dir rel : Path}

/-- The names of a path that have an effect on a walk from a directory. -/
def steps (p : Path) : List Text := (p.splitBy (· = '/')).filter fun s => s ≠ [] ∧ s ≠ ['.']

theorem undotted_walkNames (p : Path) : undotted (walkNames p) = steps p := by
  have hslash : undotted (if p.endsWith ['/'] then [['.']] else []) = [] := by
    split <;> rfl
  unfold walkNames
  unfold undotted at hslash ⊢
  rw [List.filter_append, hslash, List.append_nil, List.filter_filter]
  refine List.filter_congr fun s _ => ?_
  rw [Bool.and_comm]
  simp

theorem steps_slash (p q : Path) : steps (p ++ '/' :: q) = steps p ++ steps q := by
  unfold steps
  rw [Text.splitBy_at_sep (by simp), List.filter_append]

theorem exists_of_endsWith_slash (h : p.endsWith ['/'] = true) : ∃ init, p = init ++ ['/'] := by
  obtain ⟨init, hinit⟩ := List.isSuffixOf_iff_suffix.1 h
  exact ⟨init, hinit.symm⟩

/-- A path read from a directory stands behind a slash, or alone. -/
theorem resolveFrom_eq (dir : Path) (hp : p.head? ≠ some '/') :
    dir = [] ∧ dir.resolveFrom p = p
      ∨ ∃ d, (dir = d ∧ d ≠ [] ∨ dir = d ++ ['/']) ∧ dir.resolveFrom p = d ++ '/' :: p := by
  unfold resolveFrom
  split
  · exact absurd rfl hp
  · split
    · rename_i hdir
      rcases hdir with hdir | rfl
      · obtain ⟨init, rfl⟩ := exists_of_endsWith_slash hdir
        exact .inr ⟨init, .inr rfl, by simp⟩
      · exact .inl ⟨rfl, rfl⟩
    · rename_i hdir
      exact .inr ⟨dir, .inl ⟨rfl, fun hnil => hdir (.inr hnil)⟩, rfl⟩

theorem steps_resolveFrom (dir : Path) (hp : p.head? ≠ some '/') :
    steps (dir.resolveFrom p) = steps dir ++ steps p := by
  rcases resolveFrom_eq dir hp with ⟨rfl, h⟩ | ⟨d, ⟨rfl, -⟩ | rfl, h⟩
  · rw [h]
    rfl
  · rw [h, steps_slash]
  · rw [h, steps_slash, steps_slash]
    rw [show steps [] = [] from rfl, List.append_nil]

theorem splitBy_joinBy_names {names : List Text} (hne : names ≠ []) (h : ∀ s ∈ names, IsName s) :
    (Text.joinBy '/' names : Path).splitBy (· = '/') = names :=
  Text.splitBy_joinBy (by simp) hne fun s hs => (h s hs).noSlash

theorem steps_joinBy {names : List Text} (h : ∀ s ∈ names, IsName s) :
    steps (Text.joinBy '/' names) = names := by
  by_cases hne : names = []
  · subst hne
    rfl
  · unfold steps
    rw [splitBy_joinBy_names hne h]
    refine List.filter_eq_self.2 fun s hs => ?_
    simp [(h s hs).not_nil, (h s hs).not_current]

/-! ## Components -/

/-- The step that a component of a path takes. -/
def Component.step? : Component → Option Text
  | .root | .current => none
  | .up => some ['.', '.']
  | .name s => some s

theorem step?_ofSegment? (s : Text) :
    (Component.ofSegment? s).bind Component.step?
      = if s ≠ [] ∧ s ≠ ['.'] then some s else none := by
  unfold Component.ofSegment?
  by_cases hskip : s = [] ∨ s = ['.']
  · rw [if_pos hskip, if_neg fun h => hskip.elim h.1 h.2]
    rfl
  · have hkeep : s ≠ [] ∧ s ≠ ['.'] := not_or.1 hskip
    by_cases hup : s = ['.', '.']
    · rw [if_neg hskip, if_pos hup, if_pos hkeep, hup]
      rfl
    · rw [if_neg hskip, if_neg hup, if_pos hkeep]
      rfl

theorem ofSegment?_eq_name {segment s : Text}
    (h : Component.ofSegment? segment = some (.name s)) :
    segment = s ∧ s ≠ [] ∧ s ≠ ['.'] ∧ s ≠ ['.', '.'] := by
  unfold Component.ofSegment? at h
  split at h
  · cases h
  · rename_i hskip
    split at h
    · cases h
    · rename_i hup
      cases h
      exact ⟨rfl, fun hnil => hskip (.inl hnil), fun hdot => hskip (.inr hdot), hup⟩

/-- After a root or a current directory the components of a path are those of its segments. -/
theorem components_eq (p : Path) : ∃ head, (∀ c ∈ head, c = .root ∨ c = .current)
    ∧ p.components = head ++ (p.splitBy (· = '/')).filterMap Component.ofSegment? := by
  unfold components
  rcases hp : p.splitBy (· = '/') with _ | ⟨first, rest⟩
  · exact ⟨[], by simp, rfl⟩
  · dsimp only
    split
    · rename_i hfirst
      split
      · rename_i hnil
        subst hnil
        cases hp
        exact ⟨[], by simp, rfl⟩
      · exact ⟨[.root], by simp, by simp [hfirst, Component.ofSegment?]⟩
    · split
      · rename_i hfirst
        exact ⟨[.current], by simp, by simp [hfirst, Component.ofSegment?]⟩
      · refine ⟨[], by simp, ?_⟩
        rw [List.nil_append, List.filterMap_cons]
        cases Component.ofSegment? first <;> rfl

/-- The components of a path take the steps of the path. -/
theorem steps_eq_components (p : Path) : steps p = p.components.filterMap Component.step? := by
  obtain ⟨head, hhead, hp⟩ := components_eq p
  have hnone : head.filterMap Component.step? = [] := by
    refine List.filterMap_eq_nil_iff.2 fun c hc => ?_
    rcases hhead c hc with rfl | rfl <;> rfl
  rw [hp, List.filterMap_append, hnone, List.nil_append, List.filterMap_filterMap]
  unfold steps
  rw [← List.filterMap_eq_filter]
  refine List.filterMap_congr fun s _ => ?_
  rw [step?_ofSegment?]
  simp [Option.guard]

/-- The names among the components of a path can stand between its slashes. -/
theorem name_of_mem_components {s : Text} (h : .name s ∈ p.components) :
    s ≠ [] ∧ s ≠ ['.'] ∧ s ≠ ['.', '.'] ∧ ∀ c ∈ s, decide (c = '/') = false := by
  obtain ⟨head, hhead, hp⟩ := components_eq p
  rw [hp] at h
  rcases List.mem_append.1 h with h | h
  · rcases hhead _ h with h | h <;> cases h
  · obtain ⟨segment, hsegment, hname⟩ := List.mem_filterMap.1 h
    obtain ⟨rfl, hnil, hdot, hup⟩ := ofSegment?_eq_name hname
    exact ⟨hnil, hdot, hup, Text.splitBy_noSep hsegment⟩

/-! ## Paths below a directory -/

theorem strip_eq_some : ∀ {outer inner rest : List Component},
    below?.strip outer inner = some rest → inner = outer ++ rest
  | [], inner, rest, h => Option.some.inj h
  | d :: outer, [], rest, h => by cases h
  | d :: outer, c :: inner, rest, h => by
    unfold below?.strip at h
    split at h
    · rename_i hdc
      rw [hdc, strip_eq_some h]
      rfl
    · cases h

theorem components_of_below? {rest : List Component} (h : below? dir p = some rest) :
    p.components = dir.components ++ rest := strip_eq_some h

/-- Components that do not go up enter the names that they step to. -/
theorem enterComponents_eq : ∀ {cs : List Component} (entered : List Text), .up ∉ cs →
    enterComponents entered cs = some ((cs.filterMap Component.step?).reverse ++ entered)
  | [], entered, _ => by simp [enterComponents]
  | c :: cs, entered, h => by
    have hcs : .up ∉ cs := fun hmem => h (List.mem_cons_of_mem _ hmem)
    cases c with
    | root | current =>
      have ih := enterComponents_eq entered hcs
      exact ih
    | up => exact absurd List.mem_cons_self h
    | name s =>
      have ih := enterComponents_eq (s :: entered) hcs
      simp [enterComponents, ih, Component.step?]

/-- A path below the directory that does not go up and has no backslash is spelled by the steps
that it takes from there. -/
theorem steps_of_relativeTo? (h : relativeTo? dir p = some rel)
    (hup : ∀ rest ∈ below? dir p, .up ∉ rest) (hslash : '\\' ∉ rel) :
    rel.Normal ∧ steps p = steps dir ++ steps rel := by
  obtain ⟨rest, hrest, h⟩ := Option.bind_eq_some_iff.1 h
  have hcomponents := components_of_below? hrest
  rw [enterComponents_eq [] (hup rest hrest)] at h
  obtain rfl : Text.joinBy '/' (rest.filterMap Component.step?) = rel := by
    simpa [ofEntered] using h
  have hnames : ∀ s ∈ rest.filterMap Component.step?, IsName s := by
    intro s hs
    obtain ⟨c, hc, hstep⟩ := List.mem_filterMap.1 hs
    cases c with
    | root | current => cases hstep
    | up => exact absurd hc (hup rest hrest)
    | name s' =>
      cases hstep
      obtain ⟨hnil, hdot, hdots, hnoSlash⟩ :=
        name_of_mem_components (p := p) (hcomponents ▸ List.mem_append_right _ hc)
      refine ⟨hnil, hdot, hdots, fun c hc => ?_⟩
      have hback : c ≠ '\\' := by
        rintro rfl
        exact hslash (Text.mem_joinBy hc hs)
      simp [isSeparator, hback, of_decide_eq_false (hnoSlash c hc)]
  refine ⟨normal_joinBy hnames, ?_⟩
  rw [steps_joinBy hnames, steps_eq_components p, hcomponents, List.filterMap_append,
    ← steps_eq_components]

theorem Normal.not_endsWith_slash (h : p.Normal) (hne : p ≠ []) (before : Text) :
    Text.endsWith (before ++ p) ['/'] = false := by
  by_contra hends
  obtain ⟨init, hinit⟩ := exists_of_endsWith_slash (Bool.not_eq_false _ ▸ hends)
  obtain ⟨init', rfl⟩ : ∃ init', p = init' ++ ['/'] := by
    obtain ⟨init', last, rfl⟩ := (List.eq_nil_or_concat p).resolve_left hne
    rw [List.concat_eq_append, ← List.append_assoc] at hinit
    obtain ⟨-, hlast⟩ := List.append_inj' hinit rfl
    cases hlast
    exact ⟨init', List.concat_eq_append⟩
  have hpieces := (normal_iff_pieces hne).1 h
  rw [Text.splitBy_at_sep (by simp)] at hpieces
  exact (hpieces [] (by simp [Text.splitBy])).not_nil rfl

/-- The walk of a normal path, from whatever directory it is read, ends with its names. -/
theorem Normal.exists_walkNames (h : p.Normal) (hne : p ≠ []) (dir : Path) :
    ∃ before, walkNames (dir.resolveFrom p) = before ++ p.splitBy (· = '/') := by
  have hnames : (p.splitBy (· = '/')).filter (· ≠ []) = p.splitBy (· = '/') :=
    List.filter_eq_self.2 fun s hs => by simp [((normal_iff_pieces hne).1 h s hs).not_nil]
  unfold walkNames
  rcases resolveFrom_eq dir h.head?_ne with ⟨-, hresolve⟩ | ⟨d, -, hresolve⟩
  · have hslash := h.not_endsWith_slash hne []
    rw [List.nil_append] at hslash
    exact ⟨[], by simp only [hresolve, hslash, hnames]; simp⟩
  · have hslash := h.not_endsWith_slash hne (d ++ ['/'])
    rw [List.append_assoc, List.singleton_append] at hslash
    refine ⟨(d.splitBy (· = '/')).filter (· ≠ []), ?_⟩
    rw [hresolve, hslash, Text.splitBy_at_sep (by simp), List.filter_append, hnames]
    simp

theorem Normal.getLast?_walkNames (h : p.Normal) (hne : p ≠ []) (dir : Path) :
    (walkNames (dir.resolveFrom p)).getLast? ≠ some ['.'] := by
  obtain ⟨before, hwalk⟩ := h.exists_walkNames hne dir
  rw [hwalk, List.getLast?_append_of_ne_nil _ (Text.splitBy_ne_nil _ p)]
  intro hlast
  exact ((normal_iff_pieces hne).1 h _ (List.mem_of_getLast? hlast)).not_current rfl

end Path

end AppBundle
