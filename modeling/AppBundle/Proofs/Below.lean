import AppBundle.Discovery
import AppBundle.FunctionUnit
import AppBundle.Proofs.NormalPath
import AppBundle.Proofs.Reading
import Mathlib.Data.List.Forall2

/-!
# Paths that exclusions can speak of

Below an absolute root an exclusion list judges every path without a slash in front
(`Ignore.check_relative`). One with a slash in front it cannot judge, unless the list has no rules
or the text of the root happens to open the path (`Ignore.check_slash`).

A valid layout puts a name in place of a name, so that the source of a function has no slash in
front (`Discovery.yields_run`) and its limits can be told (`LimitTable.resolve_isOk`).
-/

namespace AppBundle

open AppBundle.Path

theorem Text.after?_eq_none_iff {t opening : Text} : t.after? opening = none ↔ ¬ opening <+: t := by
  rcases h : t.after? opening with _ | rest
  · refine iff_of_true rfl ?_
    rintro ⟨rest, rfl⟩
    rw [after?_append] at h
    cases h
  · refine iff_of_false (by simp) ?_
    exact fun hne => hne ⟨rest, (eq_append_of_after? h).symm⟩

namespace Ignore

section Check

variable {l : Ignore} {root p q : Path}

theorem dropHere_slash (p : Path) : dropHere ('/' :: p) = '/' :: p := rfl

theorem components_slash (p : Path) : components ('/' :: p) ≠ [.current] := by
  have hsplit : Text.splitBy (· = '/') ('/' :: p) = [] :: Text.splitBy (· = '/') p := by
    simp [Text.splitBy]
  unfold components
  rw [hsplit]
  simp

/-- The root comes off a path as a text. -/
theorem stripRoot_slash (root p : Path) :
    stripRoot ('/' :: root) ('/' :: p)
      = match Text.after? ('/' :: p) ('/' :: root) with
        | some rest => (rest.after? ['/']).getD rest
        | none => '/' :: p := by
  unfold stripRoot
  dsimp only
  split
  · rename_i h
    rw [dropHere_slash, dropHere_slash] at h
    rcases h with h | h
    · exact absurd h (components_slash root)
    · simp at h
  · rfl

theorem after?_slash_getD (h : p.head? ≠ some '/') :
    (p.after? ['/']).getD p = p := by
  rw [Text.after?_eq_none_iff.2]
  · rfl
  · rintro ⟨rest, rfl⟩
    exact h rfl

theorem stripRoot_relative (root : Path) (h : p.head? ≠ some '/') :
    stripRoot ('/' :: root) (resolveFrom ('/' :: root) p) = p := by
  have hresolve : resolveFrom ('/' :: root) p
      = if Text.endsWith ('/' :: root) ['/'] then ('/' :: root) ++ p
        else ('/' :: root) ++ '/' :: p := by
    unfold resolveFrom
    split
    · exact absurd rfl h
    · simp
  rw [hresolve]
  split
  · rw [List.cons_append, stripRoot_slash, ← List.cons_append, Text.after?_append]
    exact after?_slash_getD h
  · have hslash : Text.after? ('/' :: p) ['/'] = some p := Text.after?_append ['/'] p
    rw [List.cons_append, stripRoot_slash, ← List.cons_append, Text.after?_append]
    dsimp only
    rw [hslash]
    rfl

/-- A path without a slash in front can be judged. -/
theorem check_relative (hroot : l.root.head? = some '/') (h : p.head? ≠ some '/') :
    ∃ b, l.check p = .ok b := by
  obtain ⟨root, hroot⟩ := List.head?_eq_some_iff.1 hroot
  unfold check
  split
  · exact ⟨false, rfl⟩
  · dsimp only
    rw [hroot, stripRoot_relative root h]
    split
    · exact absurd rfl h
    · exact ⟨_, rfl⟩

/-- A path with a slash in front and no other cannot be judged by rules, unless the root opens it
as a text. -/
theorem check_slash (hroot : l.root.head? = some '/') (hq : '/' ∉ q) :
    (∃ stray, l.check ('/' :: q) = .error stray) ↔ l.rules ≠ [] ∧ ¬ l.root <+: '/' :: q := by
  obtain ⟨root, hroot⟩ := List.head?_eq_some_iff.1 hroot
  unfold check
  rw [hroot]
  have hresolve : resolveFrom ('/' :: root) ('/' :: q) = '/' :: q := rfl
  by_cases hrules : l.rules = []
  · simp [hrules]
  · rw [if_neg (by simpa using hrules), hresolve, stripRoot_slash,
      ← Text.after?_eq_none_iff (t := '/' :: q)]
    rcases hafter : Text.after? ('/' :: q) ('/' :: root) with _ | rest
    · simp [hrules]
    · have hrest : rest.head? ≠ some '/' := by
        intro hhead
        have heq := Text.eq_append_of_after? hafter
        rw [List.cons_append] at heq
        cases heq
        exact hq (List.mem_append_right _ (List.mem_of_head? hhead))
      simp only [after?_slash_getD hrest]
      split
      · exact absurd rfl hrest
      · simp

end Check

theorem build_root {root : Path} {patterns : List Text} {l : Ignore}
    (h : build root patterns = .ok l) : l.root = root := by
  obtain ⟨rules, -, h⟩ := bind_eq_ok.1 h
  cases h
  rfl

end Ignore

/-! ## Limits -/

namespace LimitTable

theorem compile_root {root : Path} : ∀ {overrides : List LimitOverride}
    {compiled : List (Ignore × LimitOverride)}, compile root overrides = .ok compiled →
      ∀ m ∈ compiled, m.1.root = root
  | [], compiled, h => by
    cases h
    simp
  | o :: rest, compiled, h => by
    obtain ⟨matcher, hbuild, h⟩ := bind_eq_ok.1 h
    obtain ⟨later, hrest, h⟩ := bind_eq_ok.1 h
    cases h
    exact List.forall_mem_cons.2 ⟨Ignore.build_root hbuild, compile_root hrest⟩

theorem firstMatch_isOk {p : Path} : ∀ {overrides : List (Ignore × LimitOverride)},
    (∀ m ∈ overrides, ∃ b, m.1.check p = .ok b) → ∃ o, firstMatch p overrides = .ok o
  | [], _ => ⟨none, rfl⟩
  | (matcher, o) :: rest, h => by
    obtain ⟨⟨b, hb⟩, hrest⟩ := List.forall_mem_cons.1 h
    obtain ⟨o', ho'⟩ := firstMatch_isOk hrest
    unfold firstMatch
    rw [hb]
    cases b with
    | true => exact ⟨some o, rfl⟩
    | false => exact ⟨o', ho'⟩

/-- The limits of a source without a slash in front can be told. -/
theorem resolve_isOk {root : Path} {settings : FunctionSettings} {table : LimitTable}
    (h : build root settings = .ok table) (hroot : root.head? = some '/') {source : Path}
    (hsource : source.head? ≠ some '/') : ∃ limits, table.resolve (some source) = .ok limits := by
  obtain ⟨compiled, hcompile, h⟩ := bind_eq_ok.1 h
  cases h
  obtain ⟨o, ho⟩ : ∃ o, firstMatch source compiled = .ok o := firstMatch_isOk fun m hm =>
    Ignore.check_relative (by rwa [compile_root hcompile m hm]) hsource
  unfold resolve
  dsimp only
  rw [ho]
  cases o with
  | none => exact ⟨_, rfl⟩
  | some o => exact ⟨_, rfl⟩

end LimitTable

/-! ## Sources of functions -/

namespace Layout

theorem isName_of_isSegment {value : Text} (h : isSegment value = true) : IsName value := by
  simp only [isSegment, Bool.and_eq_true, decide_eq_true_eq, Bool.not_eq_true',
    List.any_eq_false, Bool.not_eq_true] at h
  obtain ⟨⟨⟨hnil, hsep⟩, hcurrent⟩, hup⟩ := h
  exact ⟨hnil, hcurrent, hup, hsep⟩

theorem checkSegment_eq_ok {field : String} {value : Text}
    (h : checkSegment field value = .ok ()) : isSegment value = true := by
  unfold checkSegment at h
  split at h
  · assumption
  · cases h

theorem validate_segments {l : Layout} (h : l.validate = .ok ()) :
    isSegment l.buildSegment = true ∧ isSegment l.sourceSegment = true
      ∧ isSegment l.apiPrefix = true := by
  obtain ⟨⟨⟩, -, h⟩ := bind_eq_ok.1 h
  obtain ⟨⟨⟩, -, h⟩ := bind_eq_ok.1 h
  obtain ⟨⟨⟩, hbuild, h⟩ := bind_eq_ok.1 h
  obtain ⟨⟨⟩, hsource, hprefix⟩ := bind_eq_ok.1 h
  exact ⟨checkSegment_eq_ok hbuild, checkSegment_eq_ok hsource, checkSegment_eq_ok hprefix⟩

/-- With a valid layout the source of a built file is normal. -/
theorem sourcePath?_normal {l : Layout} (h : l.validate = .ok ()) {built derived : Path}
    (hderived : l.sourcePath? built = some derived) : derived.Normal := by
  obtain ⟨hbuild, hsource, -⟩ := validate_segments h
  unfold sourcePath? at hderived
  obtain ⟨normal, hnormal, hderived⟩ := Option.bind_eq_some_iff.1 hderived
  obtain ⟨segments, hsegments, hderived⟩ := Option.bind_eq_some_iff.1 hderived
  cases hderived
  unfold replaceOnly? at hsegments
  split at hsegments
  · rename_i hcount
    cases hsegments
    have hne : normal ≠ [] := by
      rintro rfl
      have hmem := List.count_pos_iff.1 (by rw [hcount]; exact Nat.one_pos)
      rw [Text.splitBy, List.mem_singleton] at hmem
      exact (isName_of_isSegment hbuild).not_nil hmem
    have hpieces := (normal_iff_pieces hne).1 (normal_of_normalize hnormal)
    refine normal_joinBy fun s hs => ?_
    obtain ⟨piece, hpiece, rfl⟩ := List.mem_map.1 hs
    split
    · exact isName_of_isSegment hsource
    · exact hpieces piece hpiece
  · cases hsegments

theorem sourceCandidates_head? {derived c : Path} (h : derived.head? ≠ some '/')
    (hc : c ∈ sourceCandidates derived) : c.head? ≠ some '/' := by
  obtain ⟨ext, -, rfl⟩ := List.mem_map.1 hc
  unfold stripExtension
  split
  · rcases derived with _ | ⟨d, derived⟩
    · simp
    · rename_i e he
      rcases (d :: derived).length - e.length - 1 with _ | n
      · simp
      · exact h
  · rcases derived with _ | ⟨d, derived⟩
    · simp
    · exact h

end Layout

namespace Discovery

open Reading

variable {source : Path → Answer} {project : Path} {layout : Layout}

theorem yields_firstFile {default : Path} : ∀ {cs : List Path} {p : Path},
    Yields source (firstFile default cs) p → p = default ∨ p ∈ cs
  | [], p, h => .inl (yields_pure.1 h).symm
  | c :: cs, p, h => by
    obtain ⟨found, -, h⟩ := yields_bind.1 h
    cases found with
    | some file =>
      cases yields_pure.1 h
      exact .inr List.mem_cons_self
    | none => exact (yields_firstFile h).imp_right (List.mem_cons_of_mem _)

theorem not_strays_firstFile {default : Path} : ∀ {cs : List Path},
    ¬ Strays source (firstFile default cs)
  | [] => not_strays_pure
  | c :: cs => by
    unfold firstFile
    rw [strays_bind]
    rintro (h | ⟨found, -, h⟩)
    · exact not_strays_file h
    · cases found with
      | some file => exact not_strays_pure h
      | none => exact not_strays_firstFile h

/-- The source is told exactly if the layout derives one. -/
theorem yields_sourceOf {built : Path} {found : Option Path} :
    Yields source (sourceOf layout built) found ↔
      (layout.sourcePath? built = none ∧ found = none)
        ∨ ∃ derived p, layout.sourcePath? built = some derived
          ∧ Yields source (firstFile derived (Layout.sourceCandidates derived)) p
          ∧ found = some p := by
  unfold sourceOf
  split
  · rename_i hnone
    simp [hnone, eq_comm]
  · rename_i derived hderived
    simp [hderived, yields_bind, eq_comm]

theorem entryAt_eq {path within : Path} {entry : FunctionEntry}
    (h : Yields source (entryAt project layout path within) entry) :
    relativeTo? project path = some entry.relativeEntrypoint ∧ entry.entrypoint = path
      ∧ entry.outputName = layout.apiPrefix ++ '/' :: within.stripExtension
      ∧ Yields source (sourceOf layout entry.relativeEntrypoint) entry.sourcePath := by
  unfold entryAt at h
  split at h
  · exact absurd h not_yields_throw
  · rename_i relative hrelative
    obtain ⟨sourcePath, hsource, h⟩ := yields_bind.1 h
    cases yields_pure.1 h
    exact ⟨hrelative, rfl, rfl, yields_adapt.1 hsource⟩

/-- The entry of a function tells its path below the project, and a source without a slash in
front. -/
theorem yields_entryAt (hlayout : layout.validate = .ok ()) {path within : Path}
    {entry : FunctionEntry} (h : Yields source (entryAt project layout path within) entry) :
    relativeTo? project entry.entrypoint = some entry.relativeEntrypoint
      ∧ ∀ p, entry.sourcePath = some p → p.head? ≠ some '/' := by
  obtain ⟨hrelative, rfl, -, hsource⟩ := entryAt_eq h
  refine ⟨hrelative, fun p hp => ?_⟩
  rw [hp] at hsource
  rcases yields_sourceOf.1 hsource with ⟨-, hnone⟩ | ⟨derived, p', hderived, hfirst, hsome⟩
  · cases hnone
  · cases hsome
    have hhead := (Layout.sourcePath?_normal hlayout hderived).head?_ne
    rcases yields_firstFile hfirst with rfl | hmem
    · exact hhead
    · exact Layout.sourceCandidates_head? hhead hmem

theorem not_strays_entryAt {path within : Path} :
    ¬ Strays source (entryAt project layout path within) := by
  unfold entryAt
  split
  · exact not_strays_throw
  · rw [strays_bind, strays_adapt]
    rintro (h | ⟨_, -, h⟩)
    · unfold sourceOf at h
      split at h
      · exact not_strays_pure h
      · rcases strays_bind.1 h with h | ⟨_, -, h⟩
        · exact not_strays_firstFile h
        · exact not_strays_pure h
    · exact not_strays_pure h

/-- The functions found are the entries of the files that are functions, in their order, and the
directories too far down are those of the files that are. -/
theorem amongFiles_spec {root : Path} : ∀ {files : List (List Text)} {d : Discovery},
    Yields source (amongFiles project layout root files) d →
      List.Forall₂ (fun names entry => Yields source (entryAt project layout
          (root.resolveFrom (Text.joinBy '/' names)) (Text.joinBy '/' names)) entry)
        (files.filter fun names => roleOf names = .function) d.entries
      ∧ d.tooDeep = Ascending.ofList ((files.filter fun names => roleOf names = .nestedTooDeep).map
        fun names => parent (Text.joinBy '/' names))
  | [], d, h => by
    cases yields_pure.1 h
    exact ⟨.nil, rfl⟩
  | names :: rest, d, h => by
    unfold amongFiles at h
    rcases hrole : roleOf names with _ | _ | _ | _ <;> simp only [hrole] at h
    case function =>
      obtain ⟨entry, hentry, h⟩ := yields_bind.1 h
      obtain ⟨later, hlater, h⟩ := yields_bind.1 h
      cases yields_pure.1 h
      obtain ⟨hentries, htooDeep⟩ := amongFiles_spec hlater
      rw [List.filter_cons_of_pos (by simp [hrole]), List.filter_cons_of_neg (by simp [hrole])]
      exact ⟨.cons hentry hentries, htooDeep⟩
    case nestedTooDeep =>
      obtain ⟨later, hlater, h⟩ := yields_bind.1 h
      cases yields_pure.1 h
      obtain ⟨hentries, htooDeep⟩ := amongFiles_spec hlater
      rw [List.filter_cons_of_neg (by simp [hrole]), List.filter_cons_of_pos (by simp [hrole])]
      exact ⟨hentries, congrArg (Ascending.insert _) htooDeep⟩
    all_goals
      obtain ⟨hentries, htooDeep⟩ := amongFiles_spec h
      rw [List.filter_cons_of_neg (by simp [hrole]), List.filter_cons_of_neg (by simp [hrole])]
      exact ⟨hentries, htooDeep⟩

/-- Every function found is the entry of a file that is a function. -/
theorem yields_amongFiles {root : Path} {files : List (List Text)} {d : Discovery}
    (h : Yields source (amongFiles project layout root files) d) : ∀ entry ∈ d.entries,
      ∃ names ∈ files, roleOf names = .function ∧ Yields source
        (entryAt project layout (root.resolveFrom (Text.joinBy '/' names)) (Text.joinBy '/' names))
        entry := by
  intro entry hentry
  obtain ⟨hentries, -⟩ := amongFiles_spec h
  rw [← List.map_snd_zip (Nat.le_of_eq hentries.length_eq.symm)] at hentry
  obtain ⟨⟨names, entry⟩, hzip, rfl⟩ := List.mem_map.1 hentry
  have hnames := List.mem_filter.1 (List.of_mem_zip hzip).1
  exact ⟨names, hnames.1, by simpa using hnames.2, List.forall₂_zip hentries hzip⟩

theorem not_strays_amongFiles {root : Path} : ∀ {files : List (List Text)},
    ¬ Strays source (amongFiles project layout root files)
  | [] => not_strays_pure
  | names :: rest => by
    unfold amongFiles
    split
    · rw [strays_bind]
      rintro (h | ⟨_, -, h⟩)
      · exact not_strays_entryAt h
      · rcases strays_bind.1 h with h | ⟨_, -, h⟩
        · exact not_strays_amongFiles h
        · exact not_strays_pure h
    · rw [strays_bind]
      rintro (h | ⟨_, -, h⟩)
      · exact not_strays_amongFiles h
      · exact not_strays_pure h
    · exact not_strays_amongFiles
    · exact not_strays_amongFiles

theorem not_strays_run {t : Tree} : ¬ Strays source (run t project layout) := by
  unfold run
  dsimp only
  split
  · exact not_strays_pure
  · exact not_strays_amongFiles

/-- A discovery lists the files of the functions directory, and every function that it found is
the entry of one of them. -/
theorem exists_file_of_run {t : Tree} {d : Discovery} (h : Yields source (run t project layout) d)
    {entry : FunctionEntry} (hentry : entry ∈ d.entries) :
    ∃ files, t.filesBelow? [] (project.resolveFrom layout.functionsDir) = some files
      ∧ ∃ names ∈ files, roleOf names = .function ∧ Yields source (entryAt project layout
        ((project.resolveFrom layout.functionsDir).resolveFrom (Text.joinBy '/' names))
        (Text.joinBy '/' names)) entry := by
  unfold run at h
  dsimp only at h
  split at h
  · cases yields_pure.1 h
    cases hentry
  · rename_i files hfiles
    exact ⟨files, hfiles, yields_amongFiles h entry hentry⟩

/-- A function found tells its path below the project, and a source without a slash in front. -/
theorem yields_run {t : Tree} (hlayout : layout.validate = .ok ()) {d : Discovery}
    (h : Yields source (run t project layout) d) : ∀ entry ∈ d.entries,
      relativeTo? project entry.entrypoint = some entry.relativeEntrypoint
        ∧ ∀ p, entry.sourcePath = some p → p.head? ≠ some '/' := by
  intro entry hentry
  obtain ⟨files, -, names, -, -, hyields⟩ := exists_file_of_run h hentry
  exact yields_entryAt hlayout hyields

end Discovery

end AppBundle
