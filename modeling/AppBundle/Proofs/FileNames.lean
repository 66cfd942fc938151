import AppBundle.Proofs.Located

/-!
# The last segment of a path

A text is cut at its last separator if no separator comes after the cut (`Text.cutLast?_eq_some`).
So the file name of a path is what follows its last slash, and an extension is what follows the last
dot of the file name, unless that dot opens it (`Path.extension_eq_some`).

A file system takes any text for a name that is not empty, no dot and no two dots, and has no
slash. Such names make a normal path exactly if none of them has a backslash, unless the last one
has lost its extension and all that is left of it is dots (`Path.normal_iff_of_fileNames`).
-/

namespace AppBundle

namespace Text

variable {sep : Char} {t before after : Text}

theorem cutLast?_eq_none : ∀ {t : Text}, t.cutLast? sep = none ↔ sep ∉ t
  | [] => by simp [cutLast?]
  | c :: cs => by
    rw [cutLast?, List.mem_cons, not_or, ← cutLast?_eq_none (t := cs)]
    rcases cutLast? sep cs with _ | cut
    · by_cases hc : c = sep
      · simp [hc]
      · simp [hc, Ne.symm hc]
    · simp

theorem cutLast?_append (h : sep ∉ after) : ∀ before : Text,
    cutLast? sep (before ++ sep :: after) = some (before, after)
  | [] => by rw [List.nil_append, cutLast?, cutLast?_eq_none.2 h]; exact if_pos rfl
  | c :: before => by rw [List.cons_append, cutLast?, cutLast?_append h before]

theorem not_mem_of_cutLast? : ∀ {t before : Text}, t.cutLast? sep = some (before, after) →
    sep ∉ after
  | c :: cs, before, h => by
    rw [cutLast?] at h
    rcases hcs : cutLast? sep cs with _ | ⟨before', after'⟩
    · simp only [hcs] at h
      split at h
      · cases h
        exact cutLast?_eq_none.1 hcs
      · cases h
    · simp only [hcs] at h
      cases h
      exact not_mem_of_cutLast? hcs

/-- A text is cut at the last separator, behind which no other stands. -/
theorem cutLast?_eq_some :
    t.cutLast? sep = some (before, after) ↔ t = before ++ sep :: after ∧ sep ∉ after := by
  constructor
  · exact fun h => ⟨eq_of_cutLast? h, not_mem_of_cutLast? h⟩
  · rintro ⟨rfl, hafter⟩
    exact cutLast?_append hafter before

theorem mem_iff_splitBy {c : Char} (hc : c ≠ sep) :
    c ∈ t ↔ ∃ piece ∈ t.splitBy (· = sep), c ∈ piece := by
  constructor
  · intro h
    rw [← joinBy_splitBy sep t] at h
    exact (of_mem_joinBy h).resolve_left hc
  · rintro ⟨piece, hpiece, h⟩
    rw [← joinBy_splitBy sep t]
    exact mem_joinBy h hpiece

end Text

namespace Path

variable {p stem dir : Path} {name ext e : Text}

/-! ## File names -/

theorem fileName_of_noSlash (h : '/' ∉ name) : fileName name = name := by
  rw [fileName, Text.cutLast?_eq_none.2 h]

theorem fileName_slash (h : '/' ∉ name) : fileName (dir ++ '/' :: name) = name := by
  rw [fileName, Text.cutLast?_append h]

/-- A path is its file name, or ends with it behind a slash. -/
theorem exists_fileName (p : Path) : ∃ name, '/' ∉ name ∧ p.fileName = name
    ∧ (p = name ∨ ∃ dir, p = dir ++ '/' :: name) := by
  unfold fileName
  rcases hcut : p.cutLast? '/' with _ | ⟨dir, name⟩
  · exact ⟨p, Text.cutLast?_eq_none.1 hcut, rfl, .inl rfl⟩
  · obtain ⟨hp, hname⟩ := Text.cutLast?_eq_some.1 hcut
    exact ⟨name, hname, rfl, .inr ⟨dir, hp⟩⟩

theorem fileName_joinBy_concat (h : '/' ∉ name) (names : List Text) :
    fileName (Text.joinBy '/' (names ++ [name])) = name := by
  by_cases hnames : names = []
  · subst hnames
    exact fileName_of_noSlash h
  · rw [Text.joinBy_concat name hnames, fileName_slash h]

theorem parent_joinBy_concat (h : '/' ∉ name) (names : List Text) :
    parent (Text.joinBy '/' (names ++ [name])) = Text.joinBy '/' names := by
  by_cases hnames : names = []
  · subst hnames
    show parent name = []
    rw [parent, Text.cutLast?_eq_none.2 h]
  · rw [Text.joinBy_concat name hnames, parent, Text.cutLast?_append h]

/-- Names without slashes are what their path is cut into. -/
theorem splitBy_joinBy_of_noSlash {names : List Text} (hne : names ≠ [])
    (h : ∀ s ∈ names, '/' ∉ s) : Text.splitBy (· = '/') (Text.joinBy '/' names) = names := by
  refine Text.splitBy_joinBy (by simp) hne fun s hs c hc => ?_
  simp only [decide_eq_false_iff_not]
  rintro rfl
  exact h s hs hc

theorem noSlash_fileName (p : Path) : '/' ∉ p.fileName := by
  obtain ⟨name, hname, hp, -⟩ := exists_fileName p
  rwa [hp]

/-- The segments of a path before the last one. -/
def dirs (p : Path) : List Text := (p.splitBy (· = '/')).dropLast

theorem splitBy_eq (p : Path) : p.splitBy (· = '/') = p.dirs ++ [p.fileName] := by
  obtain ⟨name, hname, hp, h⟩ := exists_fileName p
  have hsplit : Text.splitBy (· = '/') name = [name] := by
    refine Text.splitBy_of_noSep fun c hc => ?_
    simp only [decide_eq_false_iff_not]
    rintro rfl
    exact hname hc
  rw [hp, dirs]
  rcases h with rfl | ⟨dir, rfl⟩
  · rw [hsplit]
    rfl
  · rw [Text.splitBy_at_sep (by simp), hsplit, List.dropLast_concat]

theorem splitBy_append (he : '/' ∉ e) (p : Path) :
    (p ++ e).splitBy (· = '/') = p.dirs ++ [p.fileName ++ e] :=
  Text.splitBy_append (splitBy_eq p) he

theorem dirs_append (he : '/' ∉ e) (p : Path) : dirs (p ++ e) = p.dirs := by
  rw [dirs, splitBy_append he, List.dropLast_concat]

theorem fileName_append (he : '/' ∉ e) (p : Path) : fileName (p ++ e) = p.fileName ++ e := by
  have h := splitBy_append he p
  rw [splitBy_eq] at h
  obtain ⟨-, hname⟩ := List.append_inj' h rfl
  exact List.singleton_inj.1 hname

/-! ## Extensions -/

theorem extension_append (hstem : stem.fileName ≠ []) (hdot : '.' ∉ ext) (hslash : '/' ∉ ext) :
    extension (stem ++ '.' :: ext) = some ext := by
  have hname := fileName_append (e := '.' :: ext) (by simp [hslash]) stem
  rw [extension, hname, Text.cutLast?_append hdot]
  obtain ⟨c, cs, hcons⟩ := List.exists_cons_of_ne_nil hstem
  rw [hcons]

/-- The extension stands behind the last dot of the last segment, unless that dot opens the segment.
-/
theorem extension_eq_some : p.extension = some ext ↔
    ∃ stem : Path, p = stem ++ '.' :: ext ∧ stem.fileName ≠ [] ∧ '.' ∉ ext ∧ '/' ∉ ext := by
  constructor
  · intro h
    obtain ⟨name, hname, hp, hcases⟩ := exists_fileName p
    rw [extension, hp] at h
    rcases hcut : Text.cutLast? '.' name with _ | ⟨before, after⟩
    · simp [hcut] at h
    · obtain ⟨rfl, hafter⟩ := Text.cutLast?_eq_some.1 hcut
      rw [List.mem_append, List.mem_cons, not_or, not_or] at hname
      obtain ⟨hbefore, -, hslash⟩ := hname
      cases before with
      | nil =>
        rw [hcut] at h
        cases h
      | cons c before =>
        simp only [hcut, Option.some.injEq] at h
        subst h
        rcases hcases with rfl | ⟨dir, rfl⟩
        · exact ⟨c :: before, rfl, by simp [fileName_of_noSlash hbefore], hafter, hslash⟩
        · refine ⟨dir ++ '/' :: c :: before, by simp, ?_, hafter, hslash⟩
          simp [fileName_slash hbefore]
  · rintro ⟨stem, rfl, hstem, hdot, hslash⟩
    exact extension_append hstem hdot hslash

theorem stripExtension_append (hstem : stem.fileName ≠ []) (hdot : '.' ∉ ext)
    (hslash : '/' ∉ ext) : stripExtension (stem ++ '.' :: ext) = stem := by
  have hlength : (stem ++ '.' :: ext).length - ext.length - 1 = stem.length := by
    rw [List.length_append, List.length_cons]
    omega
  rw [stripExtension, extension_append hstem hdot hslash]
  dsimp only
  rw [hlength, List.take_left]

/-! ## Names of files -/

/-- A text that a file system takes for the name of a file. -/
structure IsFileName (s : Text) : Prop where
  not_nil : s ≠ []
  not_current : s ≠ ['.']
  not_up : s ≠ ['.', '.']
  noSlash : '/' ∉ s

instance (s : Text) : Decidable (IsFileName s) :=
  decidable_of_iff (s ≠ [] ∧ s ≠ ['.'] ∧ s ≠ ['.', '.'] ∧ '/' ∉ s)
    ⟨fun ⟨hnil, hcurrent, hup, hslash⟩ => ⟨hnil, hcurrent, hup, hslash⟩,
      fun h => ⟨h.not_nil, h.not_current, h.not_up, h.noSlash⟩⟩

/-- A name of a normal path is a name of a file without backslashes. -/
theorem isName_iff {s : Text} : IsName s ↔ IsFileName s ∧ '\\' ∉ s := by
  constructor
  · intro h
    have hsep : ∀ c, isSeparator c = true → c ∉ s := by
      intro c hc hmem
      rw [h.noSeparator c hmem] at hc
      cases hc
    exact ⟨⟨h.not_nil, h.not_current, h.not_up, hsep '/' rfl⟩, hsep '\\' rfl⟩
  · rintro ⟨h, hback⟩
    refine ⟨h.not_nil, h.not_current, h.not_up, fun c hc => ?_⟩
    have hslash : c ≠ '/' := fun heq => h.noSlash (heq ▸ hc)
    have hbackslash : c ≠ '\\' := fun heq => hback (heq ▸ hc)
    simp [isSeparator, hslash, hbackslash]

/-- Names of files that lead to a name make a normal path with it if none of them has a backslash
and the name is neither a dot nor two dots. -/
theorem normal_iff_of_dirs (hdirs : ∀ s ∈ p.dirs, IsFileName s) (hname : p.fileName ≠ []) :
    p.Normal ↔ '\\' ∉ p ∧ p.fileName ≠ ['.'] ∧ p.fileName ≠ ['.', '.'] := by
  have hp : p ≠ [] := by
    rintro rfl
    exact hname rfl
  have hback : '\\' ∉ p ↔ ∀ s ∈ p.splitBy (· = '/'), '\\' ∉ s := by
    rw [← not_iff_not, not_not, Text.mem_iff_splitBy (show '\\' ≠ '/' by decide)]
    simp
  rw [normal_iff_pieces hp, hback, splitBy_eq]
  simp only [isName_iff, List.forall_mem_append, List.forall_mem_singleton]
  constructor
  · rintro ⟨h, ⟨hfile, hlast⟩⟩
    exact ⟨⟨fun s hs => (h s hs).2, hlast⟩, hfile.not_current, hfile.not_up⟩
  · rintro ⟨⟨h, hlast⟩, hcurrent, hup⟩
    exact ⟨fun s hs => ⟨hdirs s hs, h s hs⟩, ⟨hname, hcurrent, hup, noSlash_fileName p⟩, hlast⟩

theorem isFileName_of_joinBy {names : List Text} (hne : names ≠ [])
    (h : ∀ s ∈ names, IsFileName s) :
    (∀ s ∈ dirs (Text.joinBy '/' names), IsFileName s)
      ∧ IsFileName (fileName (Text.joinBy '/' names)) := by
  have hsplit := splitBy_joinBy_of_noSlash hne fun s hs => (h s hs).noSlash
  rw [splitBy_eq] at hsplit
  rw [← hsplit] at h
  exact ⟨fun s hs => h s (List.mem_append_left _ hs), h _ (by simp)⟩

/-- Without some ending of its file name the path of a file is normal as long as there is no
backslash in it and what is left of the file name is no dot and no two dots. -/
theorem normal_iff_of_fileNames {names : List Text} {kept : Path} (hne : names ≠ [])
    (h : ∀ s ∈ names, IsFileName s) (hkept : Text.joinBy '/' names = kept ++ e) (he : '/' ∉ e)
    (hname : kept.fileName ≠ []) :
    kept.Normal ↔ '\\' ∉ kept ∧ kept.fileName ≠ ['.'] ∧ kept.fileName ≠ ['.', '.'] := by
  obtain ⟨hdirs, -⟩ := isFileName_of_joinBy hne h
  rw [hkept, dirs_append he] at hdirs
  exact normal_iff_of_dirs hdirs hname

/-- Below a name a path is normal exactly if it is so without it. -/
theorem normal_below_iff {s : Text} (hs : IsName s) (hp : p ≠ []) :
    Normal (s ++ '/' :: p) ↔ p.Normal := by
  rw [normal_iff_pieces (by simp), normal_iff_pieces hp,
    Text.splitBy_append_sep (by simp) p hs.noSlash, List.forall_mem_cons, and_iff_right hs]

end Path

end AppBundle
