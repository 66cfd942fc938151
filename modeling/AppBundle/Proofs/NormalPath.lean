import AppBundle.Path

/-!
# Normal paths

A path is normal if it is its own normal form, which is to say that it is made of names between
slashes (`normal_iff`). Normal forms are normal, and so is what is read from a directory.

A normal path stays normal when the end of its last name is replaced (`Normal.replaceEnd`) or a
name is put below it (`Normal.child`), but for the root, below which there is no slash.
-/

namespace AppBundle

namespace Text

variable {isSep : Char → Bool} {sep : Char}

theorem splitBy_noSep : ∀ {t piece : Text}, piece ∈ splitBy isSep t → ∀ c ∈ piece, isSep c = false
  | [], piece, h => by
    cases List.mem_singleton.1 h
    simp
  | c :: cs, piece, h => by
    unfold splitBy at h
    split at h
    · rcases List.mem_cons.1 h with rfl | h
      · simp
      · exact splitBy_noSep h
    · rename_i hc
      split at h
      · rename_i hcs
        exact absurd hcs (splitBy_ne_nil _ _)
      · rename_i first rest hcs
        rcases List.mem_cons.1 h with rfl | h
        · intro d hd
          rcases List.mem_cons.1 hd with rfl | hd
          · simpa using hc
          · exact splitBy_noSep (hcs ▸ List.mem_cons_self) d hd
        · exact splitBy_noSep (hcs ▸ List.mem_cons_of_mem _ h)

theorem splitBy_of_noSep : ∀ {t : Text}, (∀ c ∈ t, isSep c = false) → splitBy isSep t = [t]
  | [], _ => rfl
  | c :: cs, h => by
    have hc : isSep c = false := h c List.mem_cons_self
    simp only [splitBy, hc, splitBy_of_noSep fun d hd => h d (List.mem_cons_of_mem _ hd)]
    rfl

/-- A separator cuts a text into what stands before and after it. -/
theorem splitBy_at_sep (hsep : isSep sep = true) (rest : Text) : ∀ t : Text,
    splitBy isSep (t ++ sep :: rest) = splitBy isSep t ++ splitBy isSep rest
  | [] => by simp [splitBy, hsep]
  | c :: cs => by
    rw [List.cons_append, splitBy, splitBy, splitBy_at_sep hsep rest cs]
    split
    · rfl
    · obtain ⟨piece, pieces, hcs⟩ := List.exists_cons_of_ne_nil (splitBy_ne_nil isSep cs)
      rw [hcs]
      rfl

theorem splitBy_append_sep (hsep : isSep sep = true) (rest : Text) {t : Text}
    (h : ∀ c ∈ t, isSep c = false) :
    splitBy isSep (t ++ sep :: rest) = t :: splitBy isSep rest := by
  rw [splitBy_at_sep hsep, splitBy_of_noSep h]
  rfl

/-- Pieces without separators are what their join is cut into. -/
theorem splitBy_joinBy (hsep : isSep sep = true) : ∀ {ts : List Text}, ts ≠ [] →
    (∀ t ∈ ts, ∀ c ∈ t, isSep c = false) → splitBy isSep (joinBy sep ts) = ts
  | [], hne, _ => absurd rfl hne
  | [t], _, h => splitBy_of_noSep (h t List.mem_cons_self)
  | t :: u :: ts, _, h => by
    rw [joinBy_cons (by simp), splitBy_append_sep hsep _ (h t List.mem_cons_self),
      splitBy_joinBy hsep (by simp) fun v hv => h v (List.mem_cons_of_mem _ hv)]

theorem joinBy_concat (t : Text) : ∀ {ts : List Text}, ts ≠ [] →
    joinBy sep (ts ++ [t]) = joinBy sep ts ++ sep :: t
  | [], hne => absurd rfl hne
  | [u], _ => rfl
  | u :: v :: ts, _ => by
    rw [List.cons_append, joinBy_cons (by simp), joinBy_cons (by simp),
      joinBy_concat t (by simp), List.append_assoc, List.cons_append]

theorem joinBy_concat_append (t e : Text) : ∀ ts : List Text,
    joinBy sep (ts ++ [t]) ++ e = joinBy sep (ts ++ [t ++ e])
  | [] => rfl
  | u :: ts => by
    rw [List.cons_append, List.cons_append, joinBy_cons (by simp), joinBy_cons (by simp),
      ← joinBy_concat_append t e ts, List.append_assoc, List.cons_append]

/-- What is put at the end of a text belongs to its last piece. -/
theorem splitBy_append {t e last : Text} {init : List Text}
    (h : splitBy (· = sep) t = init ++ [last]) (he : sep ∉ e) :
    splitBy (· = sep) (t ++ e) = init ++ [last ++ e] := by
  have ht : t = joinBy sep (init ++ [last]) := by rw [← h, joinBy_splitBy]
  have hnoSep : ∀ piece ∈ init ++ [last], ∀ c ∈ piece, decide (c = sep) = false :=
    fun piece hpiece => splitBy_noSep (h ▸ hpiece)
  rw [ht, joinBy_concat_append]
  refine splitBy_joinBy (by simp) (by simp) fun piece hpiece c hc => ?_
  rcases List.mem_append.1 hpiece with hpiece | hpiece
  · exact hnoSep piece (List.mem_append_left _ hpiece) c hc
  · cases List.mem_singleton.1 hpiece
    rcases List.mem_append.1 hc with hc | hc
    · exact hnoSep last (List.mem_append_right _ (List.mem_singleton_self _)) c hc
    · simp only [decide_eq_false_iff_not]
      rintro rfl
      exact he hc

theorem mem_joinBy {c : Char} {s : Text} (hc : c ∈ s) : ∀ {ts : List Text}, s ∈ ts →
    c ∈ joinBy sep ts
  | [t], hs => by
    cases List.mem_singleton.1 hs
    exact hc
  | t :: u :: ts, hs => by
    rw [joinBy_cons (by simp), List.mem_append]
    rcases List.mem_cons.1 hs with rfl | hs
    · exact .inl hc
    · exact .inr (List.mem_cons_of_mem _ (mem_joinBy hc hs))

theorem head?_joinBy {t : Text} (ht : t ≠ []) : ∀ ts : List Text,
    (joinBy sep (t :: ts)).head? = t.head?
  | [] => rfl
  | u :: ts => by
    obtain ⟨c, cs, rfl⟩ := List.exists_cons_of_ne_nil ht
    rw [joinBy_cons (by simp)]
    rfl

end Text

namespace Path

/-- A text that can stand between two slashes of a normal path. -/
structure IsName (s : Text) : Prop where
  not_nil : s ≠ []
  not_current : s ≠ ['.']
  not_up : s ≠ ['.', '.']
  noSeparator : ∀ c ∈ s, isSeparator c = false

/-- The path is its own normal form. -/
def Normal (p : Path) : Prop := p.normalize = some p

theorem noSeparator_of_any {s : Text} (h : s.any isSeparator = false) :
    ∀ c ∈ s, isSeparator c = false := by
  simpa using h

theorem IsName.of_length {s : Text} (h : 3 ≤ s.length) (hs : ∀ c ∈ s, isSeparator c = false) :
    IsName s := by
  refine ⟨?_, ?_, ?_, hs⟩ <;> rintro rfl <;> simp at h

theorem IsName.noSlash {s : Text} (h : IsName s) : ∀ c ∈ s, decide (c = '/') = false := by
  intro c hc
  have hsep := h.noSeparator c hc
  simp only [isSeparator, Bool.or_eq_false_iff] at hsep
  exact hsep.1

section Enter

/-- Names are entered one by one. -/
theorem enter_names : ∀ {names : List Text} (entered : List Text),
    (∀ s ∈ names, IsName s) → enter entered names = some (names.reverse ++ entered)
  | [], entered, _ => rfl
  | s :: names, entered, h => by
    have hs := h s List.mem_cons_self
    have hstep : step entered s = some (s :: entered) := by
      unfold step
      rw [if_neg (by simp [hs.not_nil, hs.not_current]), if_neg hs.not_up]
    rw [enter, hstep, Option.bind_some,
      enter_names _ fun t ht => h t (List.mem_cons_of_mem _ ht)]
    simp

theorem step_isName {entered entered' : List Text} {segment : Text}
    (h : step entered segment = some entered') (hs : ∀ c ∈ segment, isSeparator c = false)
    (hentered : ∀ s ∈ entered, IsName s) : ∀ s ∈ entered', IsName s := by
  unfold step at h
  split at h
  · cases h
    exact hentered
  · rename_i hne
    rw [not_or] at hne
    split at h
    · cases entered with
      | nil => cases h
      | cons inner outer =>
        cases h
        exact fun s hs => hentered s (List.mem_cons_of_mem _ hs)
    · rename_i hup
      cases h
      exact List.forall_mem_cons.2 ⟨⟨hne.1, hne.2, hup, hs⟩, hentered⟩

theorem enter_isName : ∀ {segments entered entered' : List Text},
    enter entered segments = some entered' → (∀ s ∈ segments, ∀ c ∈ s, isSeparator c = false) →
      (∀ s ∈ entered, IsName s) → ∀ s ∈ entered', IsName s
  | [], entered, entered', h, _, hentered => by
    cases h
    exact hentered
  | segment :: rest, entered, entered', h, hs, hentered => by
    unfold enter at h
    rcases hstep : step entered segment with _ | next
    · rw [hstep] at h
      cases h
    · rw [hstep] at h
      obtain ⟨hsegment, hrest⟩ := List.forall_mem_cons.1 hs
      exact enter_isName h hrest (step_isName hstep hsegment hentered)

end Enter

variable {p q : Path}

/-- Names with slashes between them are a normal path. -/
theorem normal_joinBy {names : List Text} (h : ∀ s ∈ names, IsName s) :
    Normal (Text.joinBy '/' names) := by
  cases names with
  | nil => rfl
  | cons s names =>
    have hsplit : segments (Text.joinBy '/' (s :: names)) = s :: names :=
      Text.splitBy_joinBy rfl (by simp) fun t ht => (h t ht).noSeparator
    unfold Normal normalize
    rw [hsplit, enter_names _ h]
    simp [ofEntered]

theorem exists_names_of_normalize (h : p.normalize = some q) :
    ∃ names, (∀ s ∈ names, IsName s) ∧ q = Text.joinBy '/' names := by
  obtain ⟨entered, hentered, rfl⟩ := Option.map_eq_some_iff.1 h
  refine ⟨entered.reverse, fun s hs => ?_, rfl⟩
  exact enter_isName hentered (fun t ht => Text.splitBy_noSep ht) (by simp) s
    (List.mem_reverse.1 hs)

theorem normal_iff : Normal p ↔ ∃ names, (∀ s ∈ names, IsName s) ∧ p = Text.joinBy '/' names := by
  constructor
  · exact exists_names_of_normalize
  · rintro ⟨names, hnames, rfl⟩
    exact normal_joinBy hnames

theorem normal_of_normalize (h : p.normalize = some q) : Normal q :=
  normal_iff.2 (exists_names_of_normalize h)

theorem normal_of_join {dir relative : Path} (h : dir.join relative = some q) : Normal q := by
  unfold join at h
  split at h <;> exact normal_of_normalize h

theorem Normal.head?_ne (h : Normal p) : p.head? ≠ some '/' := by
  obtain ⟨_ | ⟨s, names⟩, hnames, rfl⟩ := normal_iff.1 h
  · simp [Text.joinBy]
  · have hs := hnames s List.mem_cons_self
    rw [Text.head?_joinBy hs.not_nil]
    intro hhead
    have := hs.noSeparator '/' (List.mem_of_head? hhead)
    simp [isSeparator] at this

theorem not_normal_slash (p : Path) : ¬ Normal ('/' :: p) := fun h => h.head?_ne rfl

/-- A path that is not empty is normal exactly if its slashes cut it into names. -/
theorem normal_iff_pieces (hp : p ≠ []) :
    Normal p ↔ ∀ s ∈ p.splitBy (· = '/'), IsName s := by
  constructor
  · intro h
    obtain ⟨names, hnames, rfl⟩ := normal_iff.1 h
    rw [Text.splitBy_joinBy (by simp)]
    · exact hnames
    · rintro rfl
      exact hp rfl
    · exact fun s hs => (hnames s hs).noSlash
  · intro h
    rw [← Text.joinBy_splitBy '/' p]
    exact normal_joinBy h

/-- The end of the last name can be replaced by one that is long enough to be a name alone. -/
theorem Normal.replaceEnd {stem e e' : Text} (h : Normal (stem ++ e)) (he : '/' ∉ e)
    (hlength : 3 ≤ e'.length) (he' : ∀ c ∈ e', isSeparator c = false) : Normal (stem ++ e') := by
  have hslash : '/' ∉ e' := fun hc => by simpa [isSeparator] using he' '/' hc
  have hne' : stem ++ e' ≠ [] := by
    rw [Ne, List.append_eq_nil_iff]
    rintro ⟨-, rfl⟩
    simp at hlength
  rcases List.eq_nil_or_concat (stem.splitBy (· = '/')) with hnil | ⟨init, last, hinit⟩
  · exact absurd hnil (Text.splitBy_ne_nil _ _)
  rw [List.concat_eq_append] at hinit
  have hpieces : (∀ s ∈ init, IsName s) ∧ ∀ c ∈ last, isSeparator c = false := by
    by_cases hne : stem ++ e = []
    · obtain ⟨rfl, -⟩ := List.append_eq_nil_iff.1 hne
      obtain ⟨rfl, hlast⟩ := List.append_inj' (show [] ++ [[]] = init ++ [last] from hinit) rfl
      obtain rfl : [] = last := by simpa using hlast
      exact ⟨by simp, by simp⟩
    · rw [normal_iff_pieces hne, Text.splitBy_append hinit he] at h
      exact ⟨fun s hs => h s (List.mem_append_left _ hs), fun c hc =>
        (h (last ++ e) (by simp)).noSeparator c (List.mem_append_left _ hc)⟩
  rw [normal_iff_pieces hne', Text.splitBy_append hinit hslash]
  intro s hs
  rcases List.mem_append.1 hs with hs | hs
  · exact hpieces.1 s hs
  · cases List.mem_singleton.1 hs
    refine IsName.of_length (by rw [List.length_append]; omega) fun c hc => ?_
    rcases List.mem_append.1 hc with hc | hc
    · exact hpieces.2 c hc
    · exact he' c hc

/-- A name can be put below a directory other than the root. -/
theorem Normal.child (h : Normal p) (hp : p ≠ []) {s : Text} (hs : IsName s) :
    Normal (p ++ '/' :: s) := by
  obtain ⟨names, hnames, rfl⟩ := normal_iff.1 h
  rw [← Text.joinBy_concat s (by rintro rfl; exact hp rfl)]
  refine normal_joinBy fun t ht => ?_
  rcases List.mem_append.1 ht with ht | ht
  · exact hnames t ht
  · cases List.mem_singleton.1 ht
    exact hs

end Path

end AppBundle
