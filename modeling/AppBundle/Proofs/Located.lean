import AppBundle.FunctionUnit
import AppBundle.Proofs.Below
import AppBundle.Proofs.Steps

/-!
# Where built functions lie

A path that is read from a directory and taken off it again comes back in its normal form, as long
as it has no backslash (`Path.relativeTo?_resolveFrom`). So a function whose names have none lies,
as it is discovered, below the functions directory at these names (`Discovery.located`).
-/

namespace AppBundle

open AppBundle.Path

theorem Text.joinBy_append {sep : Char} {us : List Text} (hus : us ≠ []) : ∀ {ts : List Text},
    ts ≠ [] → joinBy sep (ts ++ us) = joinBy sep ts ++ sep :: joinBy sep us
  | [], hts => absurd rfl hts
  | [t], _ => joinBy_cons hus
  | t :: u :: ts, _ => by
    rw [List.cons_append, joinBy_cons (by simp), joinBy_cons (by simp), joinBy_append hus (by simp),
      List.append_assoc, List.cons_append]

theorem Text.of_mem_joinBy {sep c : Char} : ∀ {ts : List Text}, c ∈ joinBy sep ts →
    c = sep ∨ ∃ t ∈ ts, c ∈ t
  | [t], h => .inr ⟨t, List.mem_singleton_self t, h⟩
  | t :: u :: ts, h => by
    rw [joinBy_cons (by simp)] at h
    rcases List.mem_append.1 h with h | h
    · exact .inr ⟨t, List.mem_cons_self, h⟩
    · rcases List.mem_cons.1 h with rfl | h
      · exact .inl rfl
      · exact (of_mem_joinBy h).imp_right fun ⟨v, hv, hc⟩ => ⟨v, List.mem_cons_of_mem _ hv, hc⟩

namespace Path

variable {dir p q : Path}

theorem segments_of_noBackslash (h : '\\' ∉ p) : segments p = p.splitBy (· = '/') := by
  have hsep : ∀ c ∈ p, isSeparator c = decide (c = '/') := by
    intro c hc
    have hne : c ≠ '\\' := fun heq => h (heq ▸ hc)
    simp [isSeparator, hne]
  unfold segments
  clear h
  induction p with
  | nil => rfl
  | cons c cs ih =>
    obtain ⟨hc, hcs⟩ := List.forall_mem_cons.1 hsep
    simp only [Text.splitBy, hc, ih hcs]

theorem enter_append : ∀ (entered before after : List Text),
    enter entered (before ++ after) = (enter entered before).bind (enter · after)
  | entered, [], after => rfl
  | entered, segment :: before, after => by
    rw [List.cons_append, enter, enter]
    cases step entered segment with
    | none => rfl
    | some next => exact enter_append next before after

/-- Segments that stay where they are may be left out. -/
theorem enter_filter (test : Text → Bool) : ∀ {segments : List Text} (entered : List Text),
    (∀ s ∈ segments, test s = false → s = [] ∨ s = ['.']) →
      enter entered (segments.filter test) = enter entered segments
  | [], _, _ => rfl
  | s :: rest, entered, h => by
    obtain ⟨hs, hrest⟩ := List.forall_mem_cons.1 h
    rcases htest : test s with _ | _
    · have hstep : step entered s = some entered := if_pos (hs htest)
      rw [List.filter_cons_of_neg (by simp [htest]), enter, hstep]
      exact enter_filter test entered hrest
    · rw [List.filter_cons_of_pos htest, enter, enter]
      exact Option.bind_congr fun next _ => enter_filter test next hrest

theorem enterComponents_append (entered : List Text) (rest : List Component) :
    ∀ {head : List Component}, (∀ c ∈ head, c = .root ∨ c = .current) →
      enterComponents entered (head ++ rest) = enterComponents entered rest
  | [], _ => rfl
  | c :: head, h => by
    have hhead : ∀ c ∈ head, c = .root ∨ c = .current :=
      fun c hc => h c (List.mem_cons_of_mem _ hc)
    have ih := enterComponents_append entered rest hhead
    rcases h c List.mem_cons_self with rfl | rfl
    · exact ih
    · exact ih

theorem enterComponents_ofSegment : ∀ entered segments : List Text,
    enterComponents entered (segments.filterMap Component.ofSegment?) = enter entered segments
  | entered, [] => rfl
  | entered, s :: rest => by
    rw [List.filterMap_cons, enter]
    unfold step Component.ofSegment?
    by_cases hskip : s = [] ∨ s = ['.']
    · rw [if_pos hskip, if_pos hskip]
      exact enterComponents_ofSegment entered rest
    · rw [if_neg hskip, if_neg hskip]
      by_cases hup : s = ['.', '.']
      · rw [if_pos hup, if_pos hup]
        cases entered with
        | nil => rfl
        | cons inner outer => exact enterComponents_ofSegment outer rest
      · rw [if_neg hup, if_neg hup]
        exact enterComponents_ofSegment (s :: entered) rest

theorem strip_append : ∀ outer rest : List Component,
    below?.strip outer (outer ++ rest) = some rest
  | [], rest => rfl
  | d :: outer, rest => by
    rw [List.cons_append, below?.strip, if_pos rfl, strip_append outer rest]

theorem components_at_slash (hd : dir ≠ []) (p : Path) : components (dir ++ '/' :: p)
    = components dir ++ (p.splitBy (· = '/')).filterMap Component.ofSegment? := by
  obtain ⟨first, rest, hsplit⟩ := List.exists_cons_of_ne_nil (Text.splitBy_ne_nil (· = '/') dir)
  unfold components
  rw [Text.splitBy_at_sep (by simp), hsplit]
  simp only [List.cons_append, List.filterMap_append]
  split
  · simp [hd]
  · split
    · simp
    · simp

theorem components_slash_append (p : Path) :
    components ('/' :: p) = .root :: (p.splitBy (· = '/')).filterMap Component.ofSegment? := by
  unfold components
  simp [Text.splitBy]

/-- A path read from a directory has the components of the directory and then its own. -/
theorem components_resolveFrom (dir : Path) (hp : p.head? ≠ some '/') :
    ∃ head, (∀ c ∈ head, c = .root ∨ c = .current) ∧ components (dir.resolveFrom p)
      = components dir ++ (head ++ (p.splitBy (· = '/')).filterMap Component.ofSegment?) := by
  rcases resolveFrom_eq dir hp with ⟨rfl, h⟩ | ⟨d, ⟨rfl, hd⟩ | rfl, h⟩
  · obtain ⟨head, hhead, heq⟩ := components_eq p
    exact ⟨head, hhead, by rw [h, heq]; rfl⟩
  · exact ⟨[], by simp, by rw [h, components_at_slash hd]; rfl⟩
  · refine ⟨[], by simp, ?_⟩
    by_cases hd : d = []
    · subst hd
      rw [h, List.nil_append, List.nil_append, components_slash_append]
      rfl
    · rw [h, components_at_slash hd, components_at_slash hd]
      simp [Text.splitBy, Component.ofSegment?]

/-- A path read from a directory lies below it at its normal form. -/
theorem relativeTo?_resolveFrom (dir : Path) (hp : p.head? ≠ some '/') (hslash : '\\' ∉ p) :
    relativeTo? dir (dir.resolveFrom p) = p.normalize := by
  obtain ⟨head, hhead, hcomponents⟩ := components_resolveFrom dir hp
  have hbelow : below? dir (dir.resolveFrom p)
      = some (head ++ (p.splitBy (· = '/')).filterMap Component.ofSegment?) := by
    unfold below?
    rw [hcomponents, strip_append]
  unfold relativeTo? normalize
  rw [hbelow, Option.bind_some, enterComponents_append [] _ hhead, enterComponents_ofSegment,
    segments_of_noBackslash hslash]

theorem endsWith_slash_append (before : Text) (hp : p ≠ []) :
    Text.endsWith (before ++ p) ['/'] = Text.endsWith p ['/'] := by
  have hlast : ∀ q : Path, Text.endsWith q ['/'] = true ↔ q.getLast? = some '/' := by
    intro q
    rw [Text.endsWith, List.isSuffixOf_iff_suffix, List.singleton_suffix_iff_getLast?_eq_some]
  rw [Bool.eq_iff_iff, hlast, hlast, List.getLast?_append_of_ne_nil _ hp]

theorem resolveFrom_relative (dir : Path) (hp : p.head? ≠ some '/') : dir.resolveFrom p
    = if dir.endsWith ['/'] ∨ dir = [] then dir ++ p else dir ++ '/' :: p := by
  unfold resolveFrom
  split
  · exact absurd rfl hp
  · rfl

theorem head?_resolveFrom (hp : p ≠ []) (hhead : p.head? ≠ some '/') (hq : q.head? ≠ some '/') :
    (p.resolveFrom q).head? ≠ some '/' := by
  rw [resolveFrom_relative p hq]
  split
  · rwa [List.head?_append_of_ne_nil _ hp]
  · rwa [List.head?_append_of_ne_nil _ hp]

theorem noBackslash_resolveFrom (hp : '\\' ∉ p) (hq : '\\' ∉ q) (hhead : q.head? ≠ some '/') :
    '\\' ∉ p.resolveFrom q := by
  rw [resolveFrom_relative p hhead]
  split
  · simp [hp, hq]
  · simp [hp, hq]

/-- Relative paths may be read one after the other or put together first. -/
theorem resolveFrom_resolveFrom (dir : Path) (hp : p ≠ []) (hhead : p.head? ≠ some '/')
    (hq : q.head? ≠ some '/') :
    (dir.resolveFrom p).resolveFrom q = dir.resolveFrom (p.resolveFrom q) := by
  have hinner := head?_resolveFrom hp hhead hq
  have hends : (dir.resolveFrom p).endsWith ['/'] = p.endsWith ['/'] := by
    rw [resolveFrom_relative dir hhead]
    split
    · exact endsWith_slash_append dir hp
    · rw [List.append_cons]
      exact endsWith_slash_append _ hp
  have hne : dir.resolveFrom p ≠ [] := by
    rw [resolveFrom_relative dir hhead]
    split
    · simp [hp]
    · simp
  rw [resolveFrom_relative _ hq, hends, resolveFrom_relative dir hinner, resolveFrom_relative p hq]
  simp only [hne, hp, or_false]
  rw [resolveFrom_relative dir hhead]
  split_ifs <;> simp

theorem segments_slash (p q : Path) : segments (p ++ '/' :: q) = segments p ++ segments q :=
  Text.splitBy_at_sep rfl q p

theorem enter_resolveFrom {entered : List Text} (hp : p ≠ []) (hq : q.head? ≠ some '/')
    (h : enter [] (segments p) = some entered) :
    enter [] (segments (p.resolveFrom q)) = enter entered (segments q) := by
  rcases resolveFrom_eq p hq with ⟨rfl, -⟩ | ⟨d, ⟨rfl, -⟩ | rfl, hresolve⟩
  · exact absurd rfl hp
  · rw [hresolve, segments_slash, enter_append, h, Option.bind_some]
  · rw [segments_slash, enter_append] at h
    obtain ⟨entered', hd, hslash⟩ := Option.bind_eq_some_iff.1 h
    cases (show some entered' = some entered from hslash)
    rw [hresolve, segments_slash, enter_append, hd, Option.bind_some]

theorem noBackslash_joinBy {names : List Text} (hnames : ∀ s ∈ names, IsName s) :
    '\\' ∉ Text.joinBy '/' names := by
  intro hc
  rcases Text.of_mem_joinBy hc with hc | ⟨s, hs, hc⟩
  · cases hc
  · have hsep := (hnames s hs).noSeparator _ hc
    simp [isSeparator] at hsep

theorem enter_joinBy {names : List Text} (entered : List Text) (hne : names ≠ [])
    (hnames : ∀ s ∈ names, IsName s) :
    enter entered (segments (Text.joinBy '/' names)) = some (names.reverse ++ entered) := by
  unfold segments
  rw [Text.splitBy_joinBy rfl hne fun s hs => (hnames s hs).noSeparator, enter_names entered hnames]

end Path

namespace FunctionUnit

/-- An entrypoint at some names below the functions directory has a handler, which keeps these names
and drops the extension. -/
theorem handler?_joinBy {layout : Layout} (handlerExport : Text) {dirs names : List Text}
    (hdir : normalize layout.functionsDir = some (Text.joinBy '/' dirs)) (hdirs : dirs ≠ [])
    (hall : ∀ s ∈ dirs ++ names, IsName s) (hne : names ≠ []) :
    handler? layout handlerExport (Text.joinBy '/' (dirs ++ names))
      = some (stripExtension (Text.joinBy '/' names) ++ '.' :: handlerExport) := by
  have hnames : ∀ s ∈ names, IsName s := fun s hs => hall s (List.mem_append_right _ hs)
  have hjoined : (Text.joinBy '/' (dirs ++ names) : Path)
      = Text.joinBy '/' dirs ++ '/' :: Text.joinBy '/' names := Text.joinBy_append hne hdirs
  have hinside : Text.joinBy '/' names ≠ [] := by
    intro hnil
    have hsplit := splitBy_joinBy_names hne hnames
    rw [hnil] at hsplit
    exact (hnames [] (hsplit ▸ List.mem_singleton_self [])).not_nil rfl
  have hwithin : within? layout.functionsDir (Text.joinBy '/' (dirs ++ names))
      = some (Text.joinBy '/' names) := by
    unfold within?
    rw [hdir, show normalize _ = some _ from normal_joinBy hall]
    simp only [Option.bind_eq_bind, Option.bind_some, hjoined, Text.after?_append]
    have hafter := Text.after?_append ['/'] (Text.joinBy '/' names)
    rw [List.singleton_append] at hafter
    rw [hafter, Option.bind_some]
    split
    · rename_i hnil
      exact absurd hnil hinside
    · rfl
  rw [handler?, hwithin, Option.map_some]

end FunctionUnit

namespace Layout

/-- A file has a source exactly if its path has the segment of built files once. -/
theorem sourcePath?_eq_none {l : Layout} {built : Path} (h : built.Normal) :
    l.sourcePath? built = none ↔ (built.splitBy (· = '/')).count l.buildSegment ≠ 1 := by
  unfold sourcePath?
  rw [show built.normalize = some built from h]
  simp only [Option.bind_eq_bind, Option.bind_some, Option.pure_def, Option.bind_eq_none_iff]
  unfold replaceOnly?
  split
  · simp_all
  · simp_all

theorem of_checkPath {field : String} {p : Path} (h : checkPath field p = .ok ()) :
    p.head? ≠ some '/' ∧ ∃ dir ≠ [], normalize p = some dir := by
  unfold checkPath at h
  split at h
  · cases h
  · rename_i hfault
    unfold pathFault? at hfault
    split at hfault
    · cases hfault
    · split at hfault
      · cases hfault
      · rename_i hhead
        refine ⟨hhead, ?_⟩
        split at hfault
        · cases hfault
        · cases hfault
        · rename_i dir hnil hdir
          refine ⟨dir, ?_, hdir⟩
          rintro rfl
          exact hnil rfl

theorem validate_functionsDir {l : Layout} (h : l.validate = .ok ()) :
    l.functionsDir.head? ≠ some '/' ∧ ∃ dir ≠ [], normalize l.functionsDir = some dir := by
  obtain ⟨⟨⟩, hpath, -⟩ := bind_eq_ok.1 h
  exact of_checkPath hpath

/-- A valid layout has the site in a directory below the root. -/
theorem validate_staticDir {l : Layout} (h : l.validate = .ok ()) :
    l.staticDir.head? ≠ some '/' ∧ ∃ dir ≠ [], normalize l.staticDir = some dir := by
  obtain ⟨⟨⟩, -, h⟩ := bind_eq_ok.1 h
  obtain ⟨⟨⟩, hpath, -⟩ := bind_eq_ok.1 h
  exact of_checkPath hpath

end Layout

namespace Discovery

open Reading

variable {t : Tree} {project : Path} {layout : Layout}

/-- The functions directory is spelled without a backslash, and the names of what lies below it can
stand between slashes and have none either. -/
structure PlainlyNamed (t : Tree) (project : Path) (layout : Layout) : Prop where
  dir : '\\' ∉ layout.functionsDir
  files : ∀ files ∈ t.filesBelow? [] (project.resolveFrom layout.functionsDir),
    ∀ names ∈ files, ∀ s ∈ names, IsName s

instance (s : Text) : Decidable (IsName s) :=
  decidable_of_iff (s ≠ [] ∧ s ≠ ['.'] ∧ s ≠ ['.', '.'] ∧ s.any isSeparator = false)
    ⟨fun ⟨hnil, hcurrent, hup, hsep⟩ => ⟨hnil, hcurrent, hup, noSeparator_of_any hsep⟩,
      fun h => ⟨h.not_nil, h.not_current, h.not_up,
        List.any_eq_false.2 fun c hc => by simp [h.noSeparator c hc]⟩⟩

instance (t : Tree) (project : Path) (layout : Layout) :
    Decidable (PlainlyNamed t project layout) :=
  decidable_of_iff ('\\' ∉ layout.functionsDir
      ∧ ∀ files ∈ t.filesBelow? [] (project.resolveFrom layout.functionsDir),
        ∀ names ∈ files, ∀ s ∈ names, IsName s)
    ⟨fun ⟨hdir, hfiles⟩ => ⟨hdir, hfiles⟩, fun h => ⟨h.dir, h.files⟩⟩

/-- The function lies at some names below the functions directory, and its source is what the
layout tells of them. -/
structure Located (layout : Layout) (dirs names : List Text) (entry : FunctionEntry) : Prop where
  dir : normalize layout.functionsDir = some (Text.joinBy '/' dirs)
  dirs_ne : dirs ≠ []
  names_ne : names ≠ []
  isName : ∀ s ∈ dirs ++ names, IsName s
  relative : entry.relativeEntrypoint = Text.joinBy '/' (dirs ++ names)
  source : entry.sourcePath = none ↔ layout.sourcePath? entry.relativeEntrypoint = none

theorem roleOf_nil : roleOf [] = .other := rfl

theorem sourceOf_eq_none {source : Path → Answer} {built : Path} {found : Option Path}
    (h : Yields source (sourceOf layout built) found) :
    found = none ↔ layout.sourcePath? built = none := by
  rcases yields_sourceOf.1 h with ⟨hnone, rfl⟩ | ⟨derived, p, hderived, -, rfl⟩
  · exact iff_of_true rfl hnone
  · exact iff_of_false (by simp) (by simp [hderived])

/-- The entry that is made for a file with plain names lies at these names. -/
theorem located_of_file {source : Path → Answer} (hlayout : layout.validate = .ok ())
    (hplain : PlainlyNamed t project layout) {files : List (List Text)}
    (hfiles : t.filesBelow? [] (project.resolveFrom layout.functionsDir) = some files)
    {names : List Text} (hmem : names ∈ files) (hrole : roleOf names = .function)
    {entry : FunctionEntry} (hyields : Yields source (entryAt project layout
      ((project.resolveFrom layout.functionsDir).resolveFrom (Text.joinBy '/' names))
      (Text.joinBy '/' names)) entry) : ∃ dirs, Located layout dirs names entry := by
  obtain ⟨hrelative, -, -, hsource⟩ := entryAt_eq hyields
  obtain ⟨hhead, dir, hdir, hnormalize⟩ := Layout.validate_functionsDir hlayout
  obtain ⟨entered, hentered, rfl⟩ := Option.map_eq_some_iff.1 hnormalize
  have hnames := hplain.files files hfiles names hmem
  have hne : names ≠ [] := by
    rintro rfl
    rw [roleOf_nil] at hrole
    cases hrole
  have hjoined : (Text.joinBy '/' names : Path).head? ≠ some '/' :=
    (normal_joinBy hnames).head?_ne
  have hfunctions : layout.functionsDir ≠ [] := by
    intro hnil
    rw [hnil, normalize_nil] at hnormalize
    exact hdir (Option.some.inj hnormalize).symm
  have hentered' : ∀ s ∈ entered, IsName s :=
    enter_isName hentered (fun s hs => Text.splitBy_noSep hs) (by simp)
  refine ⟨entered.reverse, hnormalize, ?_, hne, ?_, ?_, sourceOf_eq_none hsource⟩
  · intro hnil
    exact hdir (by rw [ofEntered, hnil]; rfl)
  · intro s hs
    rcases List.mem_append.1 hs with hs | hs
    · exact hentered' s (List.mem_reverse.1 hs)
    · exact hnames s hs
  · rw [resolveFrom_resolveFrom project hfunctions hhead hjoined, relativeTo?_resolveFrom project
      (head?_resolveFrom hfunctions hhead hjoined)
      (noBackslash_resolveFrom hplain.dir (noBackslash_joinBy hnames) hjoined)] at hrelative
    unfold Path.normalize at hrelative
    rw [enter_resolveFrom hfunctions hjoined hentered, enter_joinBy entered hne hnames]
      at hrelative
    rw [← Option.some.inj hrelative, ofEntered]
    simp

/-- In a plainly named project every function that is discovered is located. -/
theorem located {source : Path → Answer} (hlayout : layout.validate = .ok ())
    (hplain : PlainlyNamed t project layout) {d : Discovery}
    (h : Yields source (run t project layout) d) {entry : FunctionEntry}
    (hentry : entry ∈ d.entries) : ∃ dirs names, Located layout dirs names entry := by
  obtain ⟨files, hfiles, names, hmem, hrole, hyields⟩ := exists_file_of_run h hentry
  obtain ⟨dirs, hlocated⟩ := located_of_file hlayout hplain hfiles hmem hrole hyields
  exact ⟨dirs, names, hlocated⟩

end Discovery

end AppBundle
