import AppBundle.Proofs.Accounts
import AppBundle.Proofs.Bounded
import AppBundle.Proofs.FileNames
import AppBundle.Proofs.Lookup

/-!
# Sources of built files

A layout derives a source from a path if exactly one name of the path's normal form is the segment
of built files, and puts the segment of sources in the place of that name alone
(`sourcePath?_eq_some`). With the two segments exchanged it derives the normal form again, unless
the path had the segment of sources already (`sourcePath?_exchanged`).

What a discovery records is the first file with the stem of the derived source and one of four
extensions, or else the derived source (`Recorded`), so it lies in the same directory and has the
same stem (`Recorded.beside`).
-/

namespace AppBundle

open AppBundle.Path

namespace Path

variable {p stem : Path} {names : List Text}

theorem names_joinBy (h : ∀ s ∈ names, IsName s) : Path.names (Text.joinBy '/' names) = names := by
  cases names with
  | nil => rfl
  | cons s rest =>
    have hhead : (Text.joinBy '/' (s :: rest)).head? = s.head? :=
      Text.head?_joinBy (h s List.mem_cons_self).not_nil rest
    have hne : Text.joinBy '/' (s :: rest) ≠ [] := by
      intro hnil
      rw [hnil] at hhead
      exact (h s List.mem_cons_self).not_nil (List.head?_eq_none_iff.1 hhead.symm)
    rw [Path.names, if_neg hne]
    exact splitBy_joinBy_of_noSlash (by simp) fun t ht => (isName_iff.1 (h t ht)).1.noSlash

/-- The directory of a path is told by its segments before the last one. -/
theorem parent_eq (p : Path) : p.parent = Text.joinBy '/' p.dirs := by
  have hparent := parent_joinBy_concat (noSlash_fileName p) p.dirs
  rwa [← splitBy_eq, Text.joinBy_splitBy] at hparent

theorem parent_append {e : Text} (he : '/' ∉ e) (p : Path) : parent (p ++ e) = p.parent := by
  rw [parent_eq, parent_eq, dirs_append he]

/-- A path is its stem, with an extension behind it or without one. -/
theorem stem_spec (hname : p.fileName ≠ []) :
    p.stripExtension.fileName ≠ [] ∧ ∃ e, '/' ∉ e ∧ p = p.stripExtension ++ e := by
  rcases hext : p.extension with _ | ext
  · have hstem : p.stripExtension = p := by rw [stripExtension, hext]
    rw [hstem]
    exact ⟨hname, [], by simp, by simp⟩
  · obtain ⟨stem, rfl, hstem, hdot, hslash⟩ := extension_eq_some.1 hext
    rw [stripExtension_append hstem hdot hslash]
    exact ⟨hstem, '.' :: ext, by simp [hslash], rfl⟩

/-- A path has a last segment unless it is empty or ends with a slash. -/
theorem fileName_ne_nil_iff (p : Path) : p.fileName ≠ [] ↔ p ≠ [] ∧ p.getLast? ≠ some '/' := by
  obtain ⟨name, hname, hp, hcases⟩ := exists_fileName p
  rw [hp]
  rcases List.eq_nil_or_concat name with rfl | ⟨front, c, rfl⟩
  · rcases hcases with rfl | ⟨dir, rfl⟩ <;> simp
  · have hc : c ≠ '/' := by
      rintro rfl
      exact hname (by simp)
    rcases hcases with rfl | ⟨dir, rfl⟩ <;> simp [hc, List.getLast?_cons]

/-- The stem of a path is what stands before the dot of its extension, which is the last dot of the
last segment unless that segment starts with it, or else the whole path. -/
inductive StemOf : Path → Path → Prop
  | dot {stem : Path} {ext : Text} (hne : stem ≠ []) (hslash : stem.getLast? ≠ some '/')
      (hext : '.' ∉ ext ∧ '/' ∉ ext) : StemOf (stem ++ '.' :: ext) stem
  | whole {p : Path} (h : ∀ stem ext, p = stem ++ '.' :: ext → '.' ∉ ext → '/' ∉ ext →
      stem = [] ∨ stem.getLast? = some '/') : StemOf p p

theorem stemOf_iff : StemOf p stem ↔ p.stripExtension = stem := by
  constructor
  · rintro (⟨hne, hslash, hext⟩ | h)
    · exact stripExtension_append ((fileName_ne_nil_iff stem).2 ⟨hne, hslash⟩) hext.1 hext.2
    · rcases hext : p.extension with _ | ext
      · rw [stripExtension, hext]
      · obtain ⟨stem, hp, hstem, hdot, hslash⟩ := extension_eq_some.1 hext
        obtain ⟨hne, hlast⟩ := (fileName_ne_nil_iff stem).1 hstem
        exact absurd (h stem ext hp hdot hslash) (not_or.2 ⟨hne, hlast⟩)
  · rintro rfl
    rcases hext : p.extension with _ | ext
    · rw [stripExtension, hext]
      refine .whole fun stem ext hp hdot hslash => ?_
      by_contra hstem
      rw [not_or, ← ne_eq, ← ne_eq, ← fileName_ne_nil_iff] at hstem
      rw [extension_eq_some.2 ⟨stem, hp, hstem, hdot, hslash⟩] at hext
      cases hext
    · obtain ⟨stem, rfl, hstem, hdot, hslash⟩ := extension_eq_some.1 hext
      rw [stripExtension_append hstem hdot hslash]
      obtain ⟨hne, hlast⟩ := (fileName_ne_nil_iff stem).1 hstem
      exact .dot hne hlast ⟨hdot, hslash⟩

end Path

namespace Layout

variable {l : Layout} {p derived normal : Path}

/-! ## Deriving -/

theorem replaceOnly?_eq_some {old new : Text} {segments result : List Text} :
    replaceOnly? old new segments = some result ↔ ∃ before after,
      segments = before ++ old :: after ∧ old ∉ before ++ after
        ∧ result = before ++ new :: after := by
  have hkept : ∀ {ts : List Text}, old ∉ ts →
      (ts.map fun s => if s = old then new else s) = ts := by
    intro ts hts
    refine (List.map_congr_left fun s hs => if_neg ?_).trans (List.map_id ts)
    rintro rfl
    exact hts hs
  have hreplaced : ∀ {before after : List Text}, old ∉ before ++ after →
      ((before ++ old :: after).map fun s => if s = old then new else s)
        = before ++ new :: after := by
    intro before after h
    rw [List.mem_append, not_or] at h
    rw [List.map_append, List.map_cons, if_pos rfl, hkept h.1, hkept h.2]
  have honce (before after : List Text) :
      (before ++ old :: after).count old = 1 ↔ old ∉ before ++ after := by
    rw [List.count_append, List.count_cons_self, ← Nat.add_assoc, ← List.count_append,
      Nat.add_eq_right, List.count_eq_zero]
  unfold replaceOnly?
  constructor
  · intro h
    split at h
    · rename_i hcount
      cases h
      have hmem : old ∈ segments := List.count_pos_iff.1 (by rw [hcount]; exact Nat.one_pos)
      obtain ⟨before, after, rfl⟩ := List.append_of_mem hmem
      have hnot := (honce before after).1 hcount
      exact ⟨before, after, rfl, hnot, hreplaced hnot⟩
    · cases h
  · rintro ⟨before, after, rfl, hnot, rfl⟩
    rw [if_pos ((honce before after).2 hnot), hreplaced hnot]

/-- The path has a normal form, of whose names exactly one is the segment of built files, and with
the segment of sources in the place of that name it is the derived source. -/
def Derives (l : Layout) (p derived : Path) : Prop :=
  ∃ normal before after, p.normalize = some normal
    ∧ Path.names normal = before ++ l.buildSegment :: after ∧ l.buildSegment ∉ before ++ after
    ∧ derived = Text.joinBy '/' (before ++ l.sourceSegment :: after)

theorem sourcePath?_eq_some (hbuild : IsName l.buildSegment) :
    l.sourcePath? p = some derived ↔ l.Derives p derived := by
  unfold sourcePath? Derives
  rcases hnormal : p.normalize with _ | normal
  · simp
  · have hnames {before after : List Text} :
        normal.splitBy (· = '/') = before ++ l.buildSegment :: after
          ↔ Path.names normal = before ++ l.buildSegment :: after := by
      unfold Path.names
      split
      · rename_i hnil
        have hbuild := hbuild.not_nil
        rw [hnil, Text.splitBy]
        refine iff_of_false (fun h => ?_) (by simp)
        exact hbuild (List.mem_singleton.1 (h ▸ List.mem_append_right _ List.mem_cons_self))
      · rfl
    simp only [Option.bind_eq_bind, Option.bind_some, Option.pure_def,
      Option.bind_eq_some_iff, replaceOnly?_eq_some, hnames, Option.some.injEq]
    constructor
    · rintro ⟨_, ⟨before, after, hsplit, hnot, rfl⟩, rfl⟩
      exact ⟨normal, before, after, rfl, hsplit, hnot, rfl⟩
    · rintro ⟨_, before, after, rfl, hsplit, hnot, rfl⟩
      exact ⟨_, ⟨before, after, hsplit, hnot, rfl⟩, rfl⟩

/-- The layout with built files for sources and sources for built files. -/
def exchanged (l : Layout) : Layout :=
  { l with buildSegment := l.sourceSegment, sourceSegment := l.buildSegment }

/-- Built files and their sources are told apart by the names of the path. -/
theorem sourcePath?_exchanged (h : l.validate = .ok ()) (hnormal : p.normalize = some normal)
    (hderived : l.sourcePath? p = some derived) (hnew : l.sourceSegment ∉ Path.names normal) :
    l.exchanged.sourcePath? derived = some normal := by
  obtain ⟨hbuild, hsource, -⟩ := validate_segments h
  obtain ⟨_, before, after, hnormal', hnames, -, rfl⟩ :=
    (sourcePath?_eq_some (isName_of_isSegment hbuild)).1 hderived
  obtain rfl := Option.some.inj (hnormal'.symm.trans hnormal)
  have hisName := (normal_of_normalize hnormal).isName_of_mem_names
  rw [hnames] at hisName hnew
  have hderivedNames : ∀ s ∈ before ++ l.sourceSegment :: after, IsName s := by
    intro s hs
    rcases List.mem_append.1 hs with hs | hs
    · exact hisName s (List.mem_append_left _ hs)
    · rcases List.mem_cons.1 hs with rfl | hs
      · exact isName_of_isSegment hsource
      · exact hisName s (List.mem_append_right _ (List.mem_cons_of_mem _ hs))
  refine (sourcePath?_eq_some (l := l.exchanged) (isName_of_isSegment hsource)).2
    ⟨_, before, after, normal_joinBy hderivedNames, names_joinBy hderivedNames, ?_, ?_⟩
  · intro hmem
    refine hnew ?_
    rcases List.mem_append.1 hmem with hmem | hmem
    · exact List.mem_append_left _ hmem
    · exact List.mem_append_right _ (List.mem_cons_of_mem _ hmem)
  · exact (joinBy_names _).symm.trans (congrArg _ hnames)

/-- A derived source has a name at its end. -/
theorem fileName_derived (h : l.validate = .ok ()) (hderived : l.sourcePath? p = some derived) :
    derived.fileName ≠ [] := by
  obtain ⟨hbuild, hsource, -⟩ := validate_segments h
  obtain ⟨c, hc⟩ := List.exists_mem_of_ne_nil _ (isName_of_isSegment hsource).not_nil
  have hne : derived ≠ [] := by
    obtain ⟨_, before, after, -, -, -, rfl⟩ :=
      (sourcePath?_eq_some (isName_of_isSegment hbuild)).1 hderived
    exact List.ne_nil_of_mem (Text.mem_joinBy hc (List.mem_append_right _ List.mem_cons_self))
  have hpieces := (normal_iff_pieces hne).1 (sourcePath?_normal h hderived)
  rw [splitBy_eq] at hpieces
  exact (hpieces derived.fileName (by simp)).not_nil

theorem sourceCandidate_spec {c : Path} (hname : derived.fileName ≠ [])
    (hc : c ∈ sourceCandidates derived) :
    c.parent = derived.parent ∧ c.stripExtension = derived.stripExtension
      ∧ (derived.Normal → c.Normal) := by
  obtain ⟨ext, hext, rfl⟩ := List.mem_map.1 hc
  have hplain : ∀ ext ∈ ["ts", "tsx", "js", "jsx"], '.' ∉ ext.toList ∧ '/' ∉ ext.toList
      ∧ 3 ≤ ('.' :: ext.toList).length ∧ ('.' :: ext.toList).any isSeparator = false := by
    decide
  obtain ⟨hdot, hslash, hlength, hsep⟩ := hplain ext hext
  obtain ⟨hstem, e, he, hderived⟩ := stem_spec hname
  refine ⟨?_, stripExtension_append hstem hdot hslash, fun hnormal => ?_⟩
  · calc parent (derived.stripExtension ++ '.' :: ext.toList)
        = derived.stripExtension.parent := parent_append (by simp [hslash]) _
      _ = derived.parent := by rw [← parent_append he, ← hderived]
  · rw [hderived] at hnormal
    exact hnormal.replaceEnd he hlength (noSeparator_of_any hsep)

end Layout

namespace Discovery

open Reading Import

variable {source : Path → Answer} {derived p : Path} {cs : List Path}

/-! ## Recording -/

/-- The paths of a stem with each of the extensions of sources, typed ones first. -/
def siblings (stem : Path) : List Path :=
  [stem ++ ".ts".toList, stem ++ ".tsx".toList, stem ++ ".js".toList, stem ++ ".jsx".toList]

/-- The path is the first of the derived path's siblings that is there, or the derived path if none
is. -/
def Recorded (source : Path → Answer) (derived p : Path) : Prop :=
  ∃ stem, StemOf derived stem ∧
    (FirstWhere (fun c => source c = .ok none)
        (fun c => c = p ∧ ∃ file, source c = .ok (some file)) (siblings stem)
      ∨ p = derived ∧ ∀ c ∈ siblings stem, source c = .ok none)

theorem sourceCandidates_eq (derived : Path) :
    Layout.sourceCandidates derived = siblings derived.stripExtension := rfl

theorem yields_firstFile_iff : ∀ {cs : List Path}, Yields source (firstFile derived cs) p ↔
    FirstWhere (fun c => source c = .ok none)
        (fun c => c = p ∧ ∃ file, source c = .ok (some file)) cs
      ∨ p = derived ∧ ∀ c ∈ cs, source c = .ok none
  | [] => by simp [firstFile, eq_comm]
  | c :: cs => by
    have hstep : Yields source (firstFile derived (c :: cs)) p ↔
        (c = p ∧ ∃ file, source c = .ok (some file))
          ∨ source c = .ok none ∧ Yields source (firstFile derived cs) p := by
      rw [firstFile, yields_bind]
      constructor
      · rintro ⟨found, hfound, h⟩
        cases found with
        | none => exact .inr ⟨yields_file.1 hfound, h⟩
        | some file => exact .inl ⟨yields_pure.1 h, file, yields_file.1 hfound⟩
      · rintro (⟨rfl, file, hfile⟩ | ⟨hnone, h⟩)
        · exact ⟨some file, yields_file.2 hfile, yields_pure.2 rfl⟩
        · exact ⟨none, yields_file.2 hnone, h⟩
    rw [hstep, yields_firstFile_iff, firstWhere_cons, List.forall_mem_cons, and_or_left, or_assoc,
      and_left_comm]

/-- What is recorded lies in the directory of the derived source and has its stem. -/
theorem Recorded.beside (h : Recorded source derived p) (hname : derived.fileName ≠ []) :
    p.parent = derived.parent ∧ p.stripExtension = derived.stripExtension
      ∧ (derived.Normal → p.Normal) := by
  obtain ⟨stem, hstem, h | ⟨rfl, -⟩⟩ := h
  · obtain ⟨c, hc, rfl, -⟩ := h.exists_mem
    obtain rfl := stemOf_iff.1 hstem
    exact Layout.sourceCandidate_spec hname hc
  · exact ⟨rfl, rfl, id⟩

section Run

variable {t : Tree} {project : Path} {layout : Layout} {d : Discovery} {entry : FunctionEntry}

theorem exists_recorded (hd : Yields source (run t project layout) d) (hentry : entry ∈ d.entries) :
    (layout.sourcePath? entry.relativeEntrypoint = none ∧ entry.sourcePath = none)
      ∨ ∃ derived p, layout.sourcePath? entry.relativeEntrypoint = some derived
        ∧ entry.sourcePath = some p ∧ Recorded source derived p := by
  obtain ⟨files, -, names, -, -, hyields⟩ := exists_file_of_run hd hentry
  obtain ⟨-, -, -, hsource⟩ := entryAt_eq hyields
  refine (yields_sourceOf.1 hsource).imp_right ?_
  rintro ⟨derived, p, hderived, hfirst, hp⟩
  have hrecorded := yields_firstFile_iff.1 hfirst
  rw [sourceCandidates_eq] at hrecorded
  exact ⟨derived, p, hderived, hp, _, stemOf_iff.2 rfl, hrecorded⟩

/-- With a valid layout the sources of functions are normal paths. -/
theorem sourcePath_normal (h : layout.validate = .ok ())
    (hd : Yields source (run t project layout) d) (hentry : entry ∈ d.entries)
    (hp : entry.sourcePath = some p) : p.Normal := by
  rcases exists_recorded hd hentry with ⟨-, hnone⟩ | ⟨derived, p', hderived, hp', hrecorded⟩
  · cases hnone.symm.trans hp
  · cases hp'.symm.trans hp
    obtain ⟨-, -, hnormal⟩ := hrecorded.beside (Layout.fileName_derived h hderived)
    exact hnormal (Layout.sourcePath?_normal h hderived)

end Run

/-- With a valid layout a source is derived from exactly the paths of whose normal form one name,
and no other, is the segment of built files, and it is that normal form with the segment of sources
for that name. If this was not yet a name there, exchanging the segments leads back, so that the
source tells the normal form. A discovery records for each function the first sibling of the derived
source that the snapshot has, or else the derived source, always in the same directory and with the
same stem. -/
theorem source_of_built {layout : Layout} (h : layout.validate = .ok ()) :
    (∀ p derived, layout.sourcePath? p = some derived ↔ layout.Derives p derived)
      ∧ (∀ p normal derived, p.normalize = some normal → layout.sourcePath? p = some derived →
        layout.sourceSegment ∉ Path.names normal →
        layout.exchanged.sourcePath? derived = some normal)
      ∧ (∀ p normal p' normal' derived, p.normalize = some normal → p'.normalize = some normal' →
        layout.sourcePath? p = some derived → layout.sourcePath? p' = some derived →
        layout.sourceSegment ∉ Path.names normal → layout.sourceSegment ∉ Path.names normal' →
        normal = normal')
      ∧ ∀ (t : Tree) (project : Path) (snapshot : Snapshot) (d : Discovery),
        (snapshot.run t (run t project layout).run).1 = .ok (.ok d) → ∀ entry ∈ d.entries,
          (layout.sourcePath? entry.relativeEntrypoint = none ∧ entry.sourcePath = none)
            ∨ ∃ derived p, layout.sourcePath? entry.relativeEntrypoint = some derived
              ∧ entry.sourcePath = some p ∧ Recorded (snapshot.answers t) derived p
              ∧ p.parent = derived.parent ∧ p.stripExtension = derived.stripExtension
              ∧ ∀ stem, StemOf p stem ↔ StemOf derived stem := by
  have hbuild := Layout.isName_of_isSegment (Layout.validate_segments h).1
  refine ⟨fun p derived => Layout.sourcePath?_eq_some hbuild, fun p normal derived =>
    Layout.sourcePath?_exchanged h, ?told, fun t project snapshot d hd entry hentry => ?recorded⟩
  case told =>
    intro p normal p' normal' derived hp hp' hderived hderived' hnew hnew'
    have hback := Layout.sourcePath?_exchanged h hp hderived hnew
    exact Option.some.inj (hback.symm.trans (Layout.sourcePath?_exchanged h hp' hderived' hnew'))
  case recorded =>
    rw [Snapshot.run_eq_answer] at hd
    refine (exists_recorded hd hentry).imp_right ?_
    rintro ⟨derived, p, hderived, hp, hrecorded⟩
    obtain ⟨hparent, hstem, -⟩ := hrecorded.beside (Layout.fileName_derived h hderived)
    exact ⟨derived, p, hderived, hp, hrecorded, hparent, hstem, fun stem => by
      rw [stemOf_iff, stemOf_iff, hstem]⟩

/-- A built file whose source may be any of three files. -/
def typedFunction : Tree :=
  Import.projectWith [(["api"], .dir), (["api", "dist"], .dir),
    (["api", "dist", "functions"], .dir),
    (["api", "dist", "functions", "a.js"], .file ByteArray.empty 0o644),
    (["api", "src"], .dir), (["api", "src", "functions"], .dir),
    (["api", "src", "functions", "a.js"], .file ByteArray.empty 0o644),
    (["api", "src", "functions", "a.ts"], .file ByteArray.empty 0o644),
    (["api", "src", "functions", "a.tsx"], .file ByteArray.empty 0o644)]

theorem source_of_built_typedFunction :
    Layout.validate {} = .ok ()
      ∧ Layout.sourcePath? {} "api\\dist/./a.js".toList = some "api/src/a.js".toList
      ∧ (Layout.exchanged {}).sourcePath? "api/src/a.js".toList = some "api/dist/a.js".toList
      ∧ ∃ d, ((Snapshot.new "/p".toList).run typedFunction
          (run typedFunction "/p".toList {}).run).1 = .ok (.ok d)
        ∧ d.entries.map (fun entry => (entry.relativeEntrypoint, entry.sourcePath))
          = [("api/dist/functions/a.js".toList, some "api/src/functions/a.ts".toList)]
        ∧ Recorded ((Snapshot.new "/p".toList).answers typedFunction)
          "api/src/functions/a.js".toList "api/src/functions/a.ts".toList
        ∧ StemOf "api/src/functions/a.ts".toList "api/src/functions/a".toList := by
  obtain ⟨hderives, hback, -, hrecorded⟩ :=
    source_of_built (show Layout.validate {} = .ok () from rfl)
  have hderived : Layout.sourcePath? {} "api\\dist/./a.js".toList = some "api/src/a.js".toList :=
    (hderives _ _).2 ⟨"api/dist/a.js".toList, ["api".toList], ["a.js".toList], by decide, by decide,
      by decide, by decide⟩
  have hfunction : Layout.sourcePath? {} "api/dist/functions/a.js".toList
      = some "api/src/functions/a.js".toList := by
    decide
  have hstem : StemOf "api/src/functions/a.js".toList "api/src/functions/a".toList :=
    stemOf_iff.2 (by decide)
  obtain ⟨d, hd, hlook⟩ := Pipeline.exists_of_look
    (fun d : Discovery => d.entries.map fun entry => (entry.relativeEntrypoint, entry.sourcePath))
    (show ((((Snapshot.new "/p".toList).run typedFunction
        (run typedFunction "/p".toList {}).run).1.toOption.bind Except.toOption).map _)
      = some [("api/dist/functions/a.js".toList, some "api/src/functions/a.ts".toList)] by
        decide +kernel)
  obtain ⟨entry, hentries, hpaths⟩ := List.map_eq_singleton_iff.1 hlook
  obtain ⟨hrelative, hsource⟩ := Prod.mk.inj hpaths
  have hentry : entry ∈ d.entries := hentries ▸ List.mem_singleton_self entry
  refine ⟨rfl, hderived, hback _ _ _ (by decide) hderived (by decide), d, hd, hlook, ?_⟩
  rcases hrecorded _ _ _ d hd entry hentry with
    ⟨hnone, -⟩ | ⟨derived, p, h, hp, hrecorded, -, -, hstems⟩
  · rw [hrelative, hfunction] at hnone
    cases hnone
  · rw [hrelative, hfunction] at h
    rw [hsource] at hp
    cases h
    cases hp
    exact ⟨hrecorded, (hstems _).2 hstem⟩

end Discovery

end AppBundle
