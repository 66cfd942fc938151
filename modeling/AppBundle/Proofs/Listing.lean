import AppBundle.Proofs.Accounts
import AppBundle.Proofs.FileNames

/-!
# Listings of directories

The files below a directory are told by the names that lead to them from where the directory is
(`Tree.mem_listing`), each once, in the order of these names (`Tree.pairwise_listing`). Where the
places of a tree are made of the names that a file system takes, so are these
(`Tree.ProperlyNamed.of_mem_listing`).
-/

namespace AppBundle

namespace Tree

variable {t : Tree} {dir : Place} {names : List Text} {e : Entry} {cwd : Place} {p : Path}
  {files : List (List Text)}

theorem mem_entries_iff (h : names ≠ []) :
    (dir ++ names, e) ∈ t.entries.entries ↔ t.get? (dir ++ names) = some e := by
  have hne : dir ++ names ≠ [] := by simp [h]
  rw [← Catalog.find?_eq_some_iff_mem, get?, if_neg hne]

theorem mem_below : (names, e) ∈ t.below dir ↔ names ≠ [] ∧ t.get? (dir ++ names) = some e := by
  unfold below
  rw [List.mem_filterMap]
  constructor
  · rintro ⟨⟨place, e'⟩, hmem, h⟩
    dsimp only at h
    split at h
    · rename_i hbelow
      cases h
      rw [Bool.and_eq_true, List.isPrefixOf_iff_prefix] at hbelow
      obtain ⟨⟨rest, rfl⟩, hne⟩ := hbelow
      have hrest : rest ≠ [] := by
        rintro rfl
        simp at hne
      rw [List.drop_left]
      exact ⟨hrest, (mem_entries_iff hrest).1 hmem⟩
    · cases h
  · rintro ⟨hne, h⟩
    refine ⟨(dir ++ names, e), (mem_entries_iff hne).2 h, ?_⟩
    simp [hne]

/-- A directory that can be listed is somewhere, and what is listed is what stands below it and is
no directory. -/
theorem exists_place_of_filesBelow? (h : t.filesBelow? cwd p = some files) :
    ∃ place, t.locate true cwd p = .ok place ∧ t.get? place = some .dir
      ∧ ∀ names, names ∈ files ↔ names ≠ [] ∧ ∃ e, t.get? (place ++ names) = some e
        ∧ e.isDir = false := by
  unfold filesBelow? at h
  split at h
  · cases h
  · rename_i place hplace
    split at h
    · rename_i hdir
      cases h
      refine ⟨place, hplace, ?_, fun names => ?_⟩
      · obtain ⟨e, he, hisDir⟩ := (Option.any_eq_true _ _).1 hdir
        cases e with
        | dir => exact he
        | file | link => cases hisDir
      · rw [List.mem_filterMap]
        constructor
        · rintro ⟨⟨names', e⟩, hmem, hkeep⟩
          dsimp only at hkeep
          split at hkeep
          · cases hkeep
          · rename_i hfile
            cases hkeep
            obtain ⟨hne, he⟩ := mem_below.1 hmem
            exact ⟨hne, e, he, by simpa using hfile⟩
        · rintro ⟨hne, e, he, hfile⟩
          exact ⟨(names, e), mem_below.2 ⟨hne, he⟩, by simp [hfile]⟩
    · cases h

/-- The names lead to a file or a link from the directory that a path leads to. -/
def FileBelow (t : Tree) (cwd : Place) (p : Path) (names : List Text) : Prop :=
  ∃ place e, t.locate true cwd p = .ok place ∧ t.get? place = some .dir ∧ names ≠ []
    ∧ t.get? (place ++ names) = some e ∧ e.isDir = false

/-- The files and links below the directory that a path leads to; none if there is no directory. -/
def listing (t : Tree) (cwd : Place) (p : Path) : List (List Text) := (t.filesBelow? cwd p).getD []

theorem mem_listing : names ∈ t.listing cwd p ↔ t.FileBelow cwd p names := by
  unfold listing
  rcases hfiles : t.filesBelow? cwd p with _ | files
  · refine iff_of_false (List.not_mem_nil) ?_
    rintro ⟨place, e, hplace, hdir, -⟩
    unfold filesBelow? at hfiles
    simp [hplace, hdir, Entry.isDir] at hfiles
  · obtain ⟨place, hplace, hdir, hmem⟩ := exists_place_of_filesBelow? hfiles
    rw [Option.getD_some, hmem]
    constructor
    · rintro ⟨hne, e, he, hleaf⟩
      exact ⟨place, e, hplace, hdir, hne, he, hleaf⟩
    · rintro ⟨place', e, hplace', -, hne, he, hleaf⟩
      cases hplace.symm.trans hplace'
      exact ⟨hne, e, he, hleaf⟩

/-! ## Order -/

theorem lt_of_append_lt {dir a b : Place} (h : dir ++ a < dir ++ b) : a < b := by
  induction dir with
  | nil => exact h
  | cons name dir ih =>
    rw [List.cons_append, List.cons_append, List.cons_lt_cons_self] at h
    exact ih h

/-- What is below a directory comes in the order of its names. -/
theorem pairwise_below (t : Tree) (dir : Place) :
    (t.below dir).Pairwise fun a b => a.1 < b.1 := by
  have hplaces := t.entries.ascending
  rw [List.pairwise_map] at hplaces
  refine List.pairwise_filterMap.2 (hplaces.imp ?_)
  rintro ⟨place, e⟩ ⟨place', e'⟩ hlt ⟨names, f⟩ h ⟨names', f'⟩ h'
  dsimp only at hlt h h'
  split at h
  · rename_i hbelow
    split at h'
    · rename_i hbelow'
      cases h
      cases h'
      rw [Bool.and_eq_true, List.isPrefixOf_iff_prefix] at hbelow hbelow'
      obtain ⟨⟨rest, rfl⟩, -⟩ := hbelow
      obtain ⟨⟨rest', rfl⟩, -⟩ := hbelow'
      rw [List.drop_left, List.drop_left]
      exact lt_of_append_lt hlt
    · cases h'
  · cases h

theorem pairwise_filesBelow? (h : t.filesBelow? cwd p = some files) :
    files.Pairwise (· < ·) := by
  unfold filesBelow? at h
  split at h
  · cases h
  · split at h
    · cases h
      refine List.pairwise_filterMap.2 ((pairwise_below t _).imp ?_)
      rintro ⟨names, e⟩ ⟨names', e'⟩ hlt b hb b' hb'
      dsimp only at hlt hb hb'
      split at hb
      · cases hb
      · split at hb'
        · cases hb'
        · cases hb
          cases hb'
          exact hlt
    · cases h

/-- The files below a directory are listed in the order of their names, each once. -/
theorem pairwise_listing (t : Tree) (cwd : Place) (p : Path) :
    (t.listing cwd p).Pairwise (· < ·) := by
  unfold listing
  rcases hfiles : t.filesBelow? cwd p with _ | files
  · exact List.Pairwise.nil
  · exact pairwise_filesBelow? hfiles

/-! ## Names -/

/-- The places of the tree are made of names that a file system takes. -/
def ProperlyNamed (t : Tree) : Prop := ∀ place ∈ t.entries.keys, ∀ s ∈ place, Path.IsFileName s

instance (t : Tree) : Decidable t.ProperlyNamed :=
  inferInstanceAs (Decidable (∀ place ∈ t.entries.keys, ∀ s ∈ place, Path.IsFileName s))

theorem ProperlyNamed.filesBelow? (ht : t.ProperlyNamed) (h : t.filesBelow? cwd p = some files)
    (hnames : names ∈ files) : names ≠ [] ∧ ∀ s ∈ names, Path.IsFileName s := by
  obtain ⟨place, -, -, hfiles⟩ := exists_place_of_filesBelow? h
  obtain ⟨hne, e, he, -⟩ := (hfiles names).1 hnames
  have hkey : place ++ names ∈ t.entries.keys := by
    rw [get?, if_neg (by simp [hne])] at he
    exact Catalog.mem_keys_iff.2 ⟨e, he⟩
  exact ⟨hne, fun s hs => ht _ hkey s (List.mem_append_right _ hs)⟩

theorem ProperlyNamed.of_mem_listing (ht : t.ProperlyNamed) (h : names ∈ t.listing cwd p) :
    names ≠ [] ∧ ∀ s ∈ names, Path.IsFileName s := by
  unfold listing at h
  rcases hfiles : t.filesBelow? cwd p with _ | files
  · rw [hfiles] at h
    cases h
  · rw [hfiles] at h
    exact ht.filesBelow? hfiles h

end Tree

end AppBundle
