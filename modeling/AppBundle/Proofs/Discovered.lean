import AppBundle.Proofs.ByteOrder
import AppBundle.Proofs.Listing

/-!
# What is discovered

What a file is depends on the names that lead to it from the functions directory: how many there
are, how the last one ends, and in a directory there whether the rest of it is `index` or the name
of that directory (`roleOf_eq_function_iff`, `roleOf_eq_nestedTooDeep_iff`).

The functions found are the files that are functions, in their order, and the directories too far
down are in order and each told once (`discovered_iff`).
-/

namespace AppBundle

open AppBundle.Path Reading

namespace Discovery

variable {t : Tree} {project root : Path} {layout : Layout} {d : Discovery} {name stem ext : Text}
  {names dir : List Text}

/-! ## Roles -/

section Roles

/-- The file name is a name and the extension of a function. -/
def BuiltAs (stem name : Text) : Prop :=
  stem ≠ [] ∧ ∃ ext ∈ ["js", "mjs", "cjs"].map String.toList, name = stem ++ '.' :: ext

/-- The names lead to a function: a file with the extension of one that lies directly in the
functions directory, or one directory down under the name of that directory or as `index`. -/
inductive IsFunction : List Text → Prop
  | direct {stem name : Text} (h : BuiltAs stem name) : IsFunction [name]
  | named {dir name : Text} (h : BuiltAs dir name) : IsFunction [dir, name]
  | index {dir name : Text} (h : BuiltAs "index".toList name) : IsFunction [dir, name]

/-- The names lead to a file with the extension of a function in a directory too far down. -/
def IsTooDeep (dir names : List Text) : Prop :=
  2 ≤ dir.length ∧ ∃ stem name, BuiltAs stem name ∧ names = dir ++ [name]

theorem not_mem_of_functionExtension (h : ext ∈ functionExtensions) : '.' ∉ ext ∧ '/' ∉ ext := by
  have hall : ∀ ext ∈ functionExtensions, '.' ∉ ext ∧ '/' ∉ ext := by decide
  exact hall ext h

/-- A name has the stem exactly if it has the extension of a function and the stem is what remains
without it. -/
theorem builtAs_iff (hname : '/' ∉ name) : BuiltAs stem name
    ↔ (extension name).any functionExtensions.contains = true ∧ stripExtension name = stem := by
  simp only [Option.any_eq_true, List.contains_iff_mem, extension_eq_some]
  constructor
  · rintro ⟨hstem, ext, hext, rfl⟩
    obtain ⟨hdot, hslash⟩ := not_mem_of_functionExtension hext
    rw [List.mem_append, not_or] at hname
    have hfile : fileName stem ≠ [] := by rwa [fileName_of_noSlash hname.1]
    exact ⟨⟨ext, ⟨stem, rfl, hfile, hdot, hslash⟩, hext⟩, stripExtension_append hfile hdot hslash⟩
  · rintro ⟨⟨ext, ⟨stem', rfl, hfile, hdot, hslash⟩, hext⟩, rfl⟩
    rw [stripExtension_append hfile hdot hslash]
    refine ⟨?_, ext, hext, rfl⟩
    rintro rfl
    exact hfile rfl

theorem exists_builtAs_iff (hname : '/' ∉ name) :
    (∃ stem, BuiltAs stem name) ↔ (extension name).any functionExtensions.contains = true := by
  simp only [builtAs_iff hname, exists_and_left, exists_eq', and_true]

theorem isFunction_singleton : IsFunction [name] ↔ ∃ stem, BuiltAs stem name := by
  constructor
  · rintro ⟨h⟩
    exact ⟨_, h⟩
  · rintro ⟨stem, h⟩
    exact .direct h

theorem isFunction_pair {dir : Text} :
    IsFunction [dir, name] ↔ BuiltAs "index".toList name ∨ BuiltAs dir name := by
  constructor
  · rintro (- | h | h)
    · exact .inr h
    · exact .inl h
  · rintro (h | h)
    · exact .index h
    · exact .named h

theorem IsFunction.length_le (h : IsFunction names) : names.length ≤ 2 := by
  cases h <;> simp

theorem extension_joinBy_concat (hname : '/' ∉ name) (dir : List Text) :
    extension (Text.joinBy '/' (dir ++ [name])) = extension name := by
  rw [extension, fileName_joinBy_concat hname, extension, fileName_of_noSlash hname]

theorem roleOf_direct (hname : '/' ∉ name) : roleOf [name]
    = if (extension name).any functionExtensions.contains then .function else .other := by
  have hext := extension_joinBy_concat hname []
  rw [List.nil_append] at hext
  unfold roleOf
  dsimp only
  rw [hext]
  rfl

/-- One directory down a function is named `index` or like the directory. -/
theorem roleOf_within {dir : Text} (hname : '/' ∉ name) (hdir : '/' ∉ dir) : roleOf [dir, name]
    = if (extension name).any functionExtensions.contains then
        if stripExtension name = "index".toList ∨ stripExtension name = dir then .function
        else .helper
      else .other := by
  have hext := extension_joinBy_concat hname [dir]
  have hfile := fileName_joinBy_concat hname [dir]
  have hparent : parent (Text.joinBy '/' [dir, name]) = dir := parent_joinBy_concat hname [dir]
  rw [List.singleton_append] at hext hfile
  unfold roleOf
  dsimp only
  rw [hext]
  simp only [isDirectoryFunction, hfile, hparent, fileName_of_noSlash hdir, Bool.or_eq_true,
    decide_eq_true_eq]
  rfl

theorem roleOf_deep (hname : '/' ∉ name) (hdir : 2 ≤ dir.length) : roleOf (dir ++ [name])
    = if (extension name).any functionExtensions.contains then .nestedTooDeep else .other := by
  obtain ⟨n, hlength⟩ := Nat.exists_eq_add_of_le' hdir
  unfold roleOf
  dsimp only
  rw [extension_joinBy_concat hname, List.length_append, hlength]
  rfl

/-- A file lies directly in a directory, one directory down, or farther down. -/
theorem shape_of_ne_nil (hne : names ≠ []) : (∃ name, names = [name])
    ∨ (∃ dir name, names = [dir, name]) ∨ ∃ dir name, 2 ≤ dir.length ∧ names = dir ++ [name] := by
  obtain ⟨dir, name, rfl⟩ := (List.eq_nil_or_concat' names).resolve_left hne
  rcases dir with _ | ⟨d, _ | ⟨d', dir⟩⟩
  · exact .inl ⟨name, rfl⟩
  · exact .inr (.inl ⟨d, name, rfl⟩)
  · exact .inr (.inr ⟨d :: d' :: dir, name, by simp, rfl⟩)

/-- A file is a function by its role exactly if its names make it one. -/
theorem roleOf_eq_function_iff (hne : names ≠ []) (hnames : ∀ s ∈ names, IsFileName s) :
    roleOf names = .function ↔ IsFunction names := by
  rcases shape_of_ne_nil hne with ⟨name, rfl⟩ | ⟨dir, name, rfl⟩ | ⟨dir, name, hdir, rfl⟩ <;>
    have hname := (hnames name (by simp)).noSlash
  · rw [roleOf_direct hname, isFunction_singleton, exists_builtAs_iff hname]
    split <;> simp [*]
  · rw [roleOf_within hname (hnames dir (by simp)).noSlash, isFunction_pair, builtAs_iff hname,
      builtAs_iff hname, ← and_or_left]
    split_ifs with hext hnamed
    · exact iff_of_true rfl ⟨hext, hnamed⟩
    · exact iff_of_false (by simp) fun h => hnamed h.2
    · exact iff_of_false (by simp) fun h => hext h.1
  · rw [roleOf_deep hname hdir]
    refine iff_of_false (by split <;> simp) fun h => ?_
    have hlength := h.length_le
    rw [List.length_append, List.length_singleton] at hlength
    omega

theorem isTooDeep_concat (dir : List Text) {dir' : List Text} : IsTooDeep dir' (dir ++ [name])
    ↔ dir' = dir ∧ 2 ≤ dir.length ∧ ∃ stem, BuiltAs stem name := by
  constructor
  · rintro ⟨hdir, stem, name', hbuilt, heq⟩
    obtain ⟨rfl, hsame⟩ := List.append_inj' heq rfl
    cases List.singleton_inj.1 hsame
    exact ⟨rfl, hdir, stem, hbuilt⟩
  · rintro ⟨rfl, hdir, stem, hbuilt⟩
    exact ⟨hdir, stem, name, hbuilt, rfl⟩

/-- A file lies too far down by its role exactly if its names lead there. -/
theorem roleOf_eq_nestedTooDeep_iff (hne : names ≠ []) (hnames : ∀ s ∈ names, IsFileName s) :
    roleOf names = .nestedTooDeep ↔ ∃ dir, IsTooDeep dir names := by
  rcases shape_of_ne_nil hne with ⟨name, rfl⟩ | ⟨dir, name, rfl⟩ | ⟨dir, name, hdir, rfl⟩ <;>
    have hname := (hnames name (by simp)).noSlash
  · rw [roleOf_direct hname]
    refine iff_of_false (by split <;> simp) ?_
    rintro ⟨dir, h⟩
    obtain ⟨-, hdir, -⟩ := (isTooDeep_concat []).1 h
    simp at hdir
  · rw [roleOf_within hname (hnames dir (by simp)).noSlash]
    refine iff_of_false (by split_ifs <;> simp) ?_
    rintro ⟨dir', h⟩
    obtain ⟨-, hdir, -⟩ := (isTooDeep_concat [dir]).1 h
    simp at hdir
  · rw [roleOf_deep hname hdir]
    simp only [isTooDeep_concat, exists_eq_left, hdir, true_and, exists_builtAs_iff hname]
    split <;> simp [*]

theorem parent_of_isTooDeep (h : IsTooDeep dir names) (hnames : ∀ s ∈ names, IsFileName s) :
    parent (Text.joinBy '/' names) = Text.joinBy '/' dir := by
  obtain ⟨-, stem, name, -, rfl⟩ := h
  exact parent_joinBy_concat (hnames name (by simp)).noSlash dir

end Roles

/-! ## Runs -/

theorem run_eq (t : Tree) (project : Path) (layout : Layout) :
    run t project layout = amongFiles project layout (project.resolveFrom layout.functionsDir)
      (t.listing [] (project.resolveFrom layout.functionsDir)) := by
  unfold run Tree.listing
  dsimp only
  rcases t.filesBelow? [] (project.resolveFrom layout.functionsDir) with _ | files <;> rfl

/-- The directories too far down, each by the names that lead to it. -/
def tooDeepDirs (d : Discovery) : List (List Text) := d.tooDeep.map (Text.splitBy (· = '/'))

theorem joinBy_tooDeepDirs (d : Discovery) : d.tooDeepDirs.map (Text.joinBy '/') = d.tooDeep := by
  rw [tooDeepDirs, List.map_map]
  exact (List.map_congr_left fun p _ => Text.joinBy_splitBy '/' p).trans (List.map_id _)

/-- The directories too far down are those that hold a file with the extension of a function. -/
theorem mem_tooDeepDirs {files : List (List Text)}
    (hfiles : ∀ names ∈ files, names ≠ [] ∧ ∀ s ∈ names, IsFileName s)
    (h : d.tooDeep = Ascending.ofList ((files.filter fun names => roleOf names = .nestedTooDeep).map
      fun names => parent (Text.joinBy '/' names))) :
    dir ∈ d.tooDeepDirs ↔ ∃ names ∈ files, IsTooDeep dir names := by
  have hrole : ∀ names ∈ files, roleOf names = .nestedTooDeep ↔ ∃ dir, IsTooDeep dir names :=
    fun names hmem => roleOf_eq_nestedTooDeep_iff (hfiles names hmem).1 (hfiles names hmem).2
  -- A path of names without slashes is cut into these names again.
  have hsplit : ∀ {dir names}, names ∈ files → IsTooDeep dir names →
      (parent (Text.joinBy '/' names)).splitBy (· = '/') = dir := by
    intro dir names hmem hdeep
    have hnames := (hfiles names hmem).2
    rw [parent_of_isTooDeep hdeep hnames]
    obtain ⟨hdir, stem, name, -, rfl⟩ := hdeep
    have hne : dir ≠ [] := by
      rintro rfl
      simp at hdir
    exact splitBy_joinBy_of_noSlash hne fun s hs => (hnames s (by simp [hs])).noSlash
  rw [tooDeepDirs, h, List.mem_map]
  simp only [Ascending.mem_ofList, List.mem_map, List.mem_filter, decide_eq_true_eq]
  constructor
  · rintro ⟨-, ⟨names, ⟨hmem, hdeep⟩, rfl⟩, rfl⟩
    obtain ⟨dir, hdir⟩ := (hrole names hmem).1 hdeep
    exact ⟨names, hmem, (hsplit hmem hdir).symm ▸ hdir⟩
  · rintro ⟨names, hmem, hdeep⟩
    exact ⟨_, ⟨names, ⟨hmem, (hrole names hmem).2 ⟨dir, hdeep⟩⟩, rfl⟩, hsplit hmem hdeep⟩

/-- The functions that are discovered are the files of the functions directory with the extension
of a function that lie directly in it, or one directory down under the name of that directory or as
`index`, in the order of their names in bytes, each once. The warnings are about the directories at
least two directories down in which such a file lies, in the order of their paths in bytes, one for
each. -/
theorem discovered_iff (ht : t.ProperlyNamed) {snapshot : Snapshot}
    (h : (snapshot.run t (run t project layout).run).1 = .ok (.ok d)) :
    ∃ found dirs : List (List Text),
      found.Pairwise (fun names names' => names.map Text.bytes < names'.map Text.bytes)
        ∧ (∀ names, names ∈ found
          ↔ t.FileBelow [] (project.resolveFrom layout.functionsDir) names ∧ IsFunction names)
        ∧ List.Forall₂ (fun names entry =>
            entry.entrypoint
                = (project.resolveFrom layout.functionsDir).resolveFrom (Text.joinBy '/' names)
              ∧ relativeTo? project entry.entrypoint = some entry.relativeEntrypoint
              ∧ entry.outputName
                = layout.apiPrefix ++ '/' :: stripExtension (Text.joinBy '/' names))
          found d.entries
        ∧ (dirs.map (Text.joinBy '/')).Pairwise (fun p q => Text.bytes p < Text.bytes q)
        ∧ (∀ dir, dir ∈ dirs ↔ ∃ names,
          t.FileBelow [] (project.resolveFrom layout.functionsDir) names ∧ IsTooDeep dir names)
        ∧ d.warnings layout
          = dirs.map (fun dir => .nestedTooDeep layout.functionsDir (Text.joinBy '/' dir))
        ∧ ∀ dir name, ¬ IsFunction [dir, name] →
          [dir, name] ∉ found ∧ ∀ deep, ¬ IsTooDeep deep [dir, name] := by
  have hyields : Yields (snapshot.answers t) (run t project layout) d := by
    rw [Snapshot.run_eq_answer] at h
    exact h
  rw [run_eq] at hyields
  obtain ⟨hentries, htooDeep⟩ := amongFiles_spec hyields
  have hfiles : ∀ names ∈ t.listing [] (project.resolveFrom layout.functionsDir),
      names ≠ [] ∧ ∀ s ∈ names, IsFileName s := fun names => ht.of_mem_listing
  refine ⟨(t.listing [] (project.resolveFrom layout.functionsDir)).filter fun names =>
    roleOf names = .function, d.tooDeepDirs, ?order, fun names => ?found, ?entries, ?dirs,
    fun dir => ?tooDeep, ?warnings, fun dir name hother => ⟨?notFound, fun deep hdeep => ?notDeep⟩⟩
  case entries =>
    refine hentries.imp fun names entry hentry => ?_
    obtain ⟨hrelative, hentrypoint, hname, -⟩ := entryAt_eq hentry
    exact ⟨hentrypoint, hentrypoint ▸ hrelative, hname⟩
  case order =>
    exact ((t.pairwise_listing [] _).filter _).imp Text.map_bytes_lt
  case found =>
    rw [List.mem_filter, decide_eq_true_eq, ← Tree.mem_listing]
    exact and_congr_right fun hmem =>
      roleOf_eq_function_iff (hfiles names hmem).1 (hfiles names hmem).2
  case dirs =>
    rw [joinBy_tooDeepDirs, htooDeep]
    exact (Ascending.pairwise_ofList _).imp Text.bytes_lt_bytes
  case tooDeep =>
    simp only [mem_tooDeepDirs hfiles htooDeep, Tree.mem_listing]
  case warnings =>
    rw [warnings, ← joinBy_tooDeepDirs, List.map_map]
    rfl
  case notFound =>
    rw [List.mem_filter, decide_eq_true_eq]
    rintro ⟨hmem, hrole⟩
    obtain ⟨hne, hnames⟩ := hfiles _ hmem
    exact hother ((roleOf_eq_function_iff hne hnames).1 hrole)
  case notDeep =>
    obtain ⟨-, hlength, -⟩ := (isTooDeep_concat [dir]).1 hdeep
    simp at hlength

/-- Functions in a directory, with a helper there and a file in a directory too far down. -/
def functionsInDirectories : Tree :=
  Import.projectWith [(["api"], .dir), (["api", "dist"], .dir),
    (["api", "dist", "functions"], .dir), (["api", "dist", "functions", "auth"], .dir),
    (["api", "dist", "functions", "auth", "auth.js"], .file ByteArray.empty 0o644),
    (["api", "dist", "functions", "auth", "helper.js"], .file ByteArray.empty 0o644),
    (["api", "dist", "functions", "auth", "index.mjs"], .file ByteArray.empty 0o644),
    (["api", "dist", "functions", "auth", "lib"], .dir),
    (["api", "dist", "functions", "auth", "lib", "x.js"], .file ByteArray.empty 0o644),
    (["api", "dist", "functions", "auth.js"], .file ByteArray.empty 0o644)]

theorem discovered_iff_functionsInDirectories :
    functionsInDirectories.ProperlyNamed
      ∧ ∃ d, ((Snapshot.new "/p".toList).run functionsInDirectories
          (run functionsInDirectories "/p".toList {}).run).1 = .ok (.ok d)
        ∧ d.entries.map FunctionEntry.outputName
          = ["api/auth/auth".toList, "api/auth/index".toList, "api/auth".toList]
        ∧ d.tooDeep = ["auth/lib".toList]
        ∧ ∃ found, List.length found = 3 ∧ ∀ names, names ∈ found
          ↔ functionsInDirectories.FileBelow []
              (resolveFrom "/p".toList (Layout.functionsDir {})) names ∧ IsFunction names := by
  have ht : functionsInDirectories.ProperlyNamed := by decide +kernel
  obtain ⟨d, hd, hlook⟩ := Pipeline.exists_of_look
    (fun d : Discovery => (d.entries.map FunctionEntry.outputName, d.tooDeep))
    (show ((((Snapshot.new "/p".toList).run functionsInDirectories
        (run functionsInDirectories "/p".toList {}).run).1.toOption.bind Except.toOption).map _)
      = some (["api/auth/auth".toList, "api/auth/index".toList, "api/auth".toList],
        ["auth/lib".toList]) by decide +kernel)
  obtain ⟨hentries, htooDeep⟩ := Prod.mk.inj hlook
  obtain ⟨found, dirs, -, hfound, hall, -⟩ := discovered_iff ht hd
  refine ⟨ht, d, hd, hentries, htooDeep, found, ?_, hfound⟩
  rw [hall.length_eq, ← List.length_map (f := FunctionEntry.outputName), hentries]
  rfl

end Discovery

end AppBundle
