import AppBundle.Proofs.Fallback
import AppBundle.Proofs.FileNames

/-!
# Spellings of a directory

A directory can be given by many paths. If such a path crosses no link, its names alone lead from
the working directory to the place of the directory, and what is read below it is read from that
place (`Tree.LeadsStraight.status_eq_ok_iff`). Directories with proper names lead down to the place
then, so that the path of the place is one of these spellings (`Tree.LeadsStraight.canonical`).

What the spelling does change is the length of the paths below the directory, and a path that is too
long cannot be opened. So two spellings find the same at such a path exactly if it fits both or
neither, or nothing is there (`Tree.sameFit_iff`).
-/

namespace AppBundle

open AppBundle.Path

namespace Text

theorem noSep_of_mem_splitBy {sep : Char} {t piece : Text} (h : piece ∈ t.splitBy (· = sep)) :
    sep ∉ piece := by
  intro hmem
  simpa using splitBy_noSep h sep hmem

theorem length_bytes_append (a b : Text) :
    (a ++ b).bytes.length = a.bytes.length + b.bytes.length := by
  simp [bytes]

end Text

namespace Path

variable {dir p : Path}

theorem resolveFrom_ne_nil (h : dir ≠ [] ∨ p ≠ []) : dir.resolveFrom p ≠ [] := by
  unfold resolveFrom
  split
  · simp
  · split
    · rw [ne_eq, List.append_eq_nil_iff, not_and_or]
      exact h
    · simp

theorem mem_resolveFrom {c : Char} (hc : c ≠ '/') (hdir : c ∉ dir) :
    c ∈ dir.resolveFrom p ↔ c ∈ p := by
  unfold resolveFrom
  split
  · rfl
  · split
    · rw [List.mem_append, or_iff_right hdir]
    · rw [List.mem_append, or_iff_right hdir, List.mem_cons, or_iff_right hc]

theorem length_add_le_resolveFrom (dir : Path) (hhead : p.head? ≠ some '/') :
    dir.bytes.length + p.bytes.length ≤ (dir.resolveFrom p).bytes.length := by
  rw [resolveFrom_relative dir hhead]
  split
  · rw [Text.length_bytes_append]
  · rw [List.append_cons, Text.length_bytes_append, Text.length_bytes_append]
    omega

theorem length_le_resolveFrom (dir p : Path) :
    p.bytes.length ≤ (dir.resolveFrom p).bytes.length := by
  by_cases hhead : p.head? = some '/'
  · obtain ⟨cs, rfl⟩ := List.head?_eq_some_iff.1 hhead
    exact le_refl _
  · exact (Nat.le_add_left _ _).trans (length_add_le_resolveFrom dir hhead)

theorem resolveFrom_assoc (dir : Path) (hp : p ≠ []) (hhead : p.head? ≠ some '/') (q : Path) :
    (dir.resolveFrom p).resolveFrom q = dir.resolveFrom (p.resolveFrom q) := by
  by_cases hq : q.head? = some '/'
  · obtain ⟨cs, rfl⟩ := List.head?_eq_some_iff.1 hq
    rfl
  · exact resolveFrom_resolveFrom dir hp hhead hq

end Path

namespace Tree

variable {t : Tree} {cwd place q : Place} {dir p : Path} {e : Entry}

/-! ## Straight ways -/

/-- A walk of the path meets no link. -/
def CrossesNoLink (t : Tree) (cwd : Place) (p : Path) : Prop :=
  ∀ dir target rest, t.advance true (startOf cwd p) (walkNames p) ≠ .link dir target rest

/-- The names of the path lead to the place without a link. -/
structure LeadsStraight (t : Tree) (cwd : Place) (p : Path) (place : Place) : Prop where
  noNul : '\x00' ∉ p
  arrives : t.advance true (startOf cwd p) (walkNames p) = .arrived place

theorem CrossesNoLink.leadsStraight (h : t.CrossesNoLink cwd p)
    (hplace : t.locate true cwd p = .ok place) : t.LeadsStraight cwd p place := by
  obtain ⟨-, hnul, -⟩ := openable_of_locate hplace
  obtain ⟨n, -, hends⟩ := ends_of_locate hplace
  cases hends with
  | arrived harrives => exact ⟨hnul, harrives⟩
  | link hlink => exact absurd hlink (h _ _ _)

theorem LeadsStraight.crossesNoLink (h : t.LeadsStraight cwd p place) : t.CrossesNoLink cwd p := by
  intro dir target rest hlink
  cases h.arrives.symm.trans hlink

theorem walkNames_at_slash (d : Path) (hp : p ≠ []) :
    walkNames (d ++ '/' :: p) = (d.splitBy (· = '/')).filter (· ≠ []) ++ walkNames p := by
  have hends : Text.endsWith (d ++ '/' :: p) ['/'] = p.endsWith ['/'] := by
    rw [List.append_cons]
    exact endsWith_slash_append _ hp
  rw [walkNames, walkNames, hends, Text.splitBy_at_sep (by simp), List.filter_append,
    List.append_assoc]

/-- A path read from a directory walks the names of the directory, a dot at their end apart, and
then its own. -/
theorem exists_walkNames (dir : Path) (hp : p ≠ []) (hhead : p.head? ≠ some '/') :
    ∃ before, (walkNames dir = before ∨ walkNames dir = before ++ [['.']])
      ∧ walkNames (dir.resolveFrom p) = before ++ walkNames p := by
  rcases resolveFrom_eq dir hhead with ⟨rfl, h⟩ | ⟨d, ⟨rfl, -⟩ | rfl, h⟩
  · exact ⟨[], .inl rfl, by rw [h, List.nil_append]⟩
  · refine ⟨_, ?_, by rw [h, walkNames_at_slash _ hp]⟩
    unfold walkNames
    split <;> simp
  · refine ⟨_, .inr ?_, by rw [h, walkNames_at_slash _ hp]⟩
    have hends : Text.endsWith (d ++ ['/']) ['/'] = true :=
      List.isSuffixOf_iff_suffix.2 (List.suffix_append d ['/'])
    rw [walkNames, hends, Text.splitBy_at_sep (by simp), List.filter_append]
    simp [Text.splitBy]

theorem walkNames_ne_nil_of_head (hp : p ≠ []) (hhead : p.head? ≠ some '/') : walkNames p ≠ [] := by
  obtain ⟨c, cs, rfl⟩ := List.exists_cons_of_ne_nil hp
  have hc : c ≠ '/' := by simpa using hhead
  unfold walkNames Text.splitBy
  rw [decide_eq_false hc]
  rcases Text.splitBy (· = '/') cs with _ | ⟨piece, rest⟩
  · simp
  · simp

theorem startOf_eq (cwd : Place) (p : Path) :
    startOf cwd p = if p.head? = some '/' then [] else cwd := by
  unfold startOf
  split
  · rfl
  · rename_i hslash
    rw [if_neg]
    intro hhead
    obtain ⟨cs, rfl⟩ := List.head?_eq_some_iff.1 hhead
    exact hslash cs rfl

theorem startOf_resolveFrom (cwd : Place) (dir : Path) (hhead : p.head? ≠ some '/') :
    startOf cwd (dir.resolveFrom p) = startOf cwd dir := by
  rw [startOf_eq, startOf_eq, resolveFrom_relative dir hhead]
  by_cases hdir : dir = []
  · subst hdir
    simp [hhead]
  · split <;> rw [List.head?_append_of_ne_nil _ hdir]

theorem follow_congr {followLast : Bool} {names names' : List Text}
    (h : t.advance followLast place names = t.advance followLast q names') (links : Nat) :
    t.follow followLast links place names = t.follow followLast links q names' := by
  rw [follow, follow, h]

/-- Names that lead straight to a place go on from there. -/
theorem LeadsStraight.follow_resolveFrom (h : t.LeadsStraight cwd dir place) (hp : p ≠ []) :
    t.follow true linkLimit (startOf cwd (dir.resolveFrom p)) (walkNames (dir.resolveFrom p))
      = t.follow true linkLimit (startOf place p) (walkNames p) := by
  by_cases hhead : p.head? = some '/'
  · obtain ⟨cs, rfl⟩ := List.head?_eq_some_iff.1 hhead
    rfl
  obtain ⟨before, hbefore, hwalk⟩ := exists_walkNames dir hp hhead
  have hends : Ends t true 0 (startOf cwd dir) before (.ok place) :=
    (Ends.arrived h.arrives).drop_last_dot hbefore
  rw [startOf_resolveFrom cwd dir hhead, startOf_eq place p, if_neg hhead, hwalk]
  cases hends with
  | arrived harrives =>
    have hrest := walkNames_ne_nil_of_head hp hhead
    exact follow_congr ((advance_append true hrest before _).1 place harrives) _

theorem locate_eq_ok_iff {followLast : Bool} : t.locate followLast cwd p = .ok q
    ↔ p ≠ [] ∧ '\x00' ∉ p ∧ p.bytes.length ≤ pathLimit
      ∧ t.follow followLast linkLimit (startOf cwd p) (walkNames p) = .ok q := by
  constructor
  · intro h
    obtain ⟨hne, hnul, hshort⟩ := openable_of_locate h
    exact ⟨hne, hnul, hshort, (locate_eq_follow h followLast).symm.trans h⟩
  · rintro ⟨hne, hnul, hshort, hfollow⟩
    rw [locate, if_neg hne, if_neg hnul, if_neg (Nat.not_lt.2 hshort), hfollow]

/-- What is read below a directory that a path leads straight to is read from the place of the
directory, as long as its path can be opened. -/
theorem LeadsStraight.status_eq_ok_iff (h : t.LeadsStraight cwd dir place) (hp : p ≠ []) :
    t.status cwd (dir.resolveFrom p) = .ok e
      ↔ (dir.resolveFrom p).bytes.length ≤ pathLimit ∧ t.status place p = .ok e := by
  have hlocate : ∀ q, t.locate true cwd (dir.resolveFrom p) = .ok q
      ↔ (dir.resolveFrom p).bytes.length ≤ pathLimit ∧ t.locate true place p = .ok q := by
    intro q
    have hle := length_le_resolveFrom dir p
    rw [locate_eq_ok_iff, locate_eq_ok_iff, h.follow_resolveFrom hp,
      mem_resolveFrom (by decide) h.noNul]
    constructor
    · rintro ⟨-, hnul, hshort, hfollow⟩
      exact ⟨hshort, hp, hnul, hle.trans hshort, hfollow⟩
    · rintro ⟨hshort, -, hnul, -, hfollow⟩
      exact ⟨resolveFrom_ne_nil (.inr hp), hnul, hshort, hfollow⟩
  rw [status_eq_entryAt, status_eq_entryAt, entryAt_eq_ok, entryAt_eq_ok]
  simp only [hlocate, and_assoc, exists_and_left]

/-! ## The path of a place -/

/-- Directories lead down to the place, by names that a path can spell. -/
inductive Upright (t : Tree) : Place → Prop
  | top : Upright t []
  | down {dir : Place} {name : Text} {e : Entry} (h : Upright t dir)
      (hdir : t.get? dir = some .dir) (hname : IsFileName name) (hnul : '\x00' ∉ name)
      (hshort : name.bytes.length ≤ nameLimit) (he : t.get? (dir ++ [name]) = some e)
      (hlink : ∀ target, e ≠ .link target) : Upright t (dir ++ [name])

theorem Upright.dropLast (h : t.Upright place) : t.Upright place.dropLast := by
  cases h with
  | top => exact .top
  | down h => rwa [List.dropLast_concat]

/-- A walk without links from an upright place comes to an upright one. -/
theorem Upright.advance : ∀ {names : List Text} {place : Place}, t.Upright place →
    (∀ s ∈ names, s ≠ [] ∧ '/' ∉ s ∧ '\x00' ∉ s) → t.advance true place names = .arrived q →
      t.Upright q
  | [], place, h, _, harrives => by
    cases harrives
    exact h
  | name :: names, place, h, hnames, harrives => by
    obtain ⟨⟨hne, hslash, hnul⟩, hrest⟩ := List.forall_mem_cons.1 hnames
    rw [Tree.advance] at harrives
    split at harrives
    · rename_i hdir
      split at harrives
      · exact h.advance hrest harrives
      rename_i hdot
      split at harrives
      -- two dots take the last name away, and the rest of the way down is as it was
      · exact h.dropLast.advance hrest harrives
      rename_i hup
      split at harrives
      · cases harrives
      rename_i hshort
      split at harrives
      · cases harrives
      · simp at harrives
      · rename_i e hlink he
        have hpassed : ∀ target, e ≠ .link target := by
          rintro target rfl
          exact hlink target rfl
        have hnext := h.down hdir ⟨hne, hdot, hup, hslash⟩ hnul (Nat.not_lt.1 hshort) he hpassed
        exact hnext.advance hrest harrives
    · cases harrives

theorem Upright.proper (h : t.Upright place) : ∀ s ∈ place, IsFileName s ∧ '\x00' ∉ s := by
  induction h with
  | top => simp
  | down _ _ hname hnul _ _ _ ih =>
    rw [List.forall_mem_append, List.forall_mem_singleton]
    exact ⟨ih, hname, hnul⟩

/-- The names of an upright place lead down to it. -/
theorem Upright.arrives (h : t.Upright place) : t.advance true [] place = .arrived place := by
  induction h with
  | top => rfl
  | @down dir name e _ hdir hname _ hshort he hlink ih =>
    rw [(advance_append true (List.cons_ne_nil _ _) _ _).1 _ ih, Tree.advance, hdir]
    simp only
    rw [if_neg hname.not_current, if_neg hname.not_up, if_neg (Nat.not_lt.2 hshort), he]
    cases e with
    | link target => exact absurd rfl (hlink target)
    | dir => rfl
    | file content permissions => rfl

theorem walkNames_pathOf (hne : place ≠ []) (hnames : ∀ s ∈ place, IsFileName s) :
    walkNames (pathOf place) = place := by
  have hsplit : (pathOf place).splitBy (· = '/') = [] :: place := by
    rw [pathOf, Text.splitBy, splitBy_joinBy_of_noSlash hne fun s hs => (hnames s hs).noSlash]
    rfl
  have hends : Text.endsWith (pathOf place) ['/'] = false := by
    by_contra hends
    obtain ⟨init, hinit⟩ := exists_of_endsWith_slash (Bool.not_eq_false _ ▸ hends)
    rw [hinit, Text.splitBy_at_sep (by simp)] at hsplit
    -- a slash at the end would leave an empty last name
    have hlast := congrArg List.getLast? hsplit
    rw [List.getLast?_append_of_ne_nil _ (Text.splitBy_ne_nil _ _), List.getLast?_cons,
      List.getLast?_eq_some_getLast hne] at hlast
    exact (hnames _ (List.getLast_mem hne)).not_nil (Option.some.inj hlast).symm
  have hkept : place.filter (· ≠ []) = place :=
    List.filter_eq_self.2 fun s hs => by simp [(hnames s hs).not_nil]
  rw [walkNames, hsplit, hends, List.filter_cons_of_neg (by simp), hkept]
  exact List.append_nil place

theorem Upright.leadsStraight (h : t.Upright place) (cwd : Place) :
    t.LeadsStraight cwd (pathOf place) place where
  noNul := by
    intro hmem
    rcases List.mem_cons.1 hmem with hmem | hmem
    · cases hmem
    · rcases Text.of_mem_joinBy hmem with hmem | ⟨s, hs, hmem⟩
      · cases hmem
      · exact (h.proper s hs).2 hmem
  arrives := by
    rw [show startOf cwd (pathOf place) = [] from rfl]
    by_cases hne : place = []
    · subst hne
      rw [show walkNames (pathOf []) = [['.']] from rfl, Tree.advance, get?_nil]
      rfl
    · rw [walkNames_pathOf hne fun s hs => (h.proper s hs).1]
      exact h.arrives

theorem chars_of_walkNames (hnul : '\x00' ∉ p) {s : Text} (hs : s ∈ walkNames p) :
    '/' ∉ s ∧ '\x00' ∉ s := by
  rcases List.mem_append.1 hs with hs | hs
  · have hpiece := List.mem_of_mem_filter hs
    exact ⟨Text.noSep_of_mem_splitBy hpiece,
      fun hmem => hnul ((Text.mem_iff_splitBy (by decide)).2 ⟨s, hpiece, hmem⟩)⟩
  · split at hs
    · cases List.mem_singleton.1 hs
      exact ⟨by decide, by decide⟩
    · cases hs

theorem LeadsStraight.upright (h : t.LeadsStraight cwd p place)
    (hcwd : t.Upright cwd) : t.Upright place := by
  have hstart : t.Upright (startOf cwd p) := by
    rw [startOf_eq]
    split
    · exact .top
    · exact hcwd
  exact hstart.advance (fun s hs => ⟨walkNames_ne_nil hs, chars_of_walkNames h.noNul hs⟩) h.arrives

/-- Where the working directory is led to without links by its own path, so is the place of every
directory that is given without links. -/
theorem LeadsStraight.canonical (hcwd : t.LeadsStraight [] (pathOf cwd) cwd)
    (h : t.LeadsStraight cwd p place) (cwd' : Place) : t.LeadsStraight cwd' (pathOf place) place :=
  (h.upright (hcwd.upright .top)).leadsStraight cwd'

/-! ## Two spellings -/

section Spellings

variable {cwd' : Place} {dir' : Path}

/-- If something stands at a path below a directory, then under both spellings of the directory the
path can be opened, or under neither. -/
def SameFit (t : Tree) (place : Place) (dir dir' p : Path) : Prop :=
  t.isThere place p = true →
    ((dir.resolveFrom p).bytes.length ≤ pathLimit ↔ (dir'.resolveFrom p).bytes.length ≤ pathLimit)

/-- Two spellings that lead straight to a directory find the same at a path below it exactly if the
path fits them alike. -/
theorem sameFit_iff (h : t.LeadsStraight cwd dir place) (h' : t.LeadsStraight cwd' dir' place)
    (hp : p ≠ []) : t.SameFit place dir dir' p
      ↔ ∀ e, t.status cwd (dir.resolveFrom p) = .ok e
        ↔ t.status cwd' (dir'.resolveFrom p) = .ok e := by
  unfold SameFit
  simp only [h.status_eq_ok_iff hp, h'.status_eq_ok_iff hp]
  constructor
  · intro hfit e
    exact and_congr_left fun he => hfit (isThere_iff.2 ⟨e, he⟩)
  · intro hsame hthere
    obtain ⟨e, he⟩ := isThere_iff.1 hthere
    have hfit := hsame e
    rwa [and_iff_left he, and_iff_left he] at hfit

end Spellings

end Tree

end AppBundle
