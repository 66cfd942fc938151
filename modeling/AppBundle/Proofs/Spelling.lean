import AppBundle.FunctionUnit
import AppBundle.Proofs.NormalPath
import AppBundle.Proofs.Snapshot
import AppBundle.Proofs.Walk

/-!
# How shipped paths are spelled

A lookup puts endings to normal paths, and what it comes to is normal but for one place: below
the project root, whose path is empty, an index and a package manifest get a slash in front
(`candidate_normal`, `MeetsRoot`).

A file is read under its normal path however it is asked for. So exactly where no lookup of a walk
meets the root, every path of the resolution is that of the file read there, and so is every path
of the unit packaged from it if the entrypoint has a normal path (`normal_paths_iff`).
-/

namespace AppBundle

open AppBundle.Path Reading

/-- The tree gives every file the path that it was asked for. -/
theorem Snapshot.path_of_load {t : Tree} {root key : Path} {f : ProjectFile}
    (h : load t root key = .ok (some f)) : f.path = key := by
  unfold load at h
  dsimp only at h
  split at h
  · split at h <;> cases h
  · cases h
  · cases h
    rfl
  · split at h
    · cases h
      rfl
    · cases h
    · split at h
      · cases h
        rfl
      · cases h

theorem Snapshot.path_of_source {t : Tree} {root p : Path} {f : ProjectFile}
    (h : source t root p = .ok (some f)) : p.normalize = some f.path := by
  rcases hp : p.normalize with _ | key
  · rw [source_of_none hp] at h
    cases h
  · rw [source_of_some hp] at h
    rw [path_of_load h]

namespace Import

/-! ## Lookups -/

section Lookups

theorem triedExtensions_spec (typescript : Bool) : ∀ ext ∈ triedExtensions typescript,
    2 ≤ ext.length ∧ ∀ c ∈ ext, isSeparator c = false := by
  have htried : ∀ ext ∈ triedExtensions typescript,
      2 ≤ ext.length ∧ ext.any isSeparator = false := by
    cases typescript <;> decide
  intro ext hext
  exact (htried ext hext).imp_right noSeparator_of_any

theorem isName_index {typescript : Bool} {ext : Text} (hext : ext ∈ triedExtensions typescript) :
    IsName ("index.".toList ++ ext) := by
  obtain ⟨-, hsep⟩ := triedExtensions_spec typescript ext hext
  have hindex : ∀ c ∈ "index.".toList, isSeparator c = false := noSeparator_of_any rfl
  refine IsName.of_length (by simp) fun c hc => ?_
  rcases List.mem_append.1 hc with hc | hc
  · exact hindex c hc
  · exact hsep c hc

/-- The path of an index of the project root. -/
def rootIndex (ext : Text) : Path := "/index.".toList ++ ext

/-- What a normal path may stand for is normal, unless it is an index of the project root. -/
theorem candidate_normal {typescript : Bool} {base c : Path} (hbase : base.Normal)
    (hc : c ∈ candidates typescript base) :
    c.Normal ∨ base = [] ∧ ∃ ext ∈ triedExtensions typescript, c = rootIndex ext := by
  unfold candidates at hc
  simp only [List.mem_append, List.mem_cons, List.mem_map, or_assoc] at hc
  rcases hc with rfl | ⟨ext, hext, rfl⟩ | htyped | ⟨ext, hext, rfl⟩
  · exact .inl hbase
  · obtain ⟨hlength, hsep⟩ := triedExtensions_spec typescript ext hext
    refine .inl (Normal.replaceEnd (e := []) (by rwa [List.append_nil]) (by simp) ?_ ?_)
    · rw [List.length_cons]
      omega
    · exact List.forall_mem_cons.2 ⟨rfl, hsep⟩
  · split at htyped
    · rename_i hjs
      obtain ⟨stem, rfl⟩ := List.isSuffixOf_iff_suffix.1 hjs.2
      have hstem : (stem ++ ".js".toList).take ((stem ++ ".js".toList).length - 3) = stem := by
        simp
      rw [hstem] at htyped
      simp only [List.mem_cons, List.not_mem_nil, or_false] at htyped
      rcases htyped with rfl | rfl
      · exact .inl (hbase.replaceEnd (by decide) (by decide) (noSeparator_of_any rfl))
      · exact .inl (hbase.replaceEnd (by decide) (by decide) (noSeparator_of_any rfl))
    · cases htyped
  · by_cases hne : base = []
    · subst hne
      exact .inr ⟨rfl, ext, hext, rfl⟩
    · have hchild := hbase.child hne (isName_index hext)
      refine .inl ?_
      rwa [List.append_assoc]

theorem isName_manifest : IsName "package.json".toList :=
  IsName.of_length (by decide) (noSeparator_of_any rfl)

theorem packageDir?_normal {name : Text} {base package : Path}
    (h : packageDir? name base = some package) : package.Normal := by
  unfold packageDir? at h
  split at h
  · cases h
  · exact normal_of_join h

theorem insideOf_normal {subpath : Option Text} {package target : Path} (hpackage : package.Normal)
    (h : insideOf subpath package = some target) : target.Normal := by
  cases subpath with
  | none =>
    cases h
    exact hpackage
  | some inside => exact normal_of_join h

theorem targetOf_normal {dialect : Dialect} {subpath : Option Text} {package target : Path}
    {m : ProjectFile} (hpackage : package.Normal)
    (h : targetOf dialect subpath package m = some target) : target.Normal := by
  unfold targetOf at h
  split at h
  · exact normal_of_join h
  · exact insideOf_normal hpackage h

variable {source : Path → Answer} {options : ScanOptions} {dialect : Dialect} {dir : Path}

theorem packageTarget_normal {name : Text} {subpath : Option Text} {bases : List Path}
    {consulted : Option (Path × ProjectFile)} {target : Option Path}
    (h : PackageTarget source options dialect name subpath bases consulted target) :
    ∀ base, target = some base → base.Normal := by
  intro base htarget
  cases h with
  | manifest h =>
    obtain ⟨_, -, hdir, -⟩ := FirstWhere.exists_mem h
    exact targetOf_normal (packageDir?_normal hdir) htarget
  | bare h =>
    obtain ⟨_, -, hdir, -, hin, -⟩ := FirstWhere.exists_mem h
    exact insideOf_normal (packageDir?_normal hdir) (hin.trans htarget)
  | nowhere h => cases htarget

theorem Target.normal {request : Request} {consulted : Option (Path × ProjectFile)}
    {target : Option Path} (h : Target source options dialect dir request consulted target) :
    ∀ base, target = some base → base.Normal := by
  intro base htarget
  cases h with
  | relative path => exact normal_of_join htarget
  | absolute => cases htarget
  | package h => exact packageTarget_normal h base htarget

variable (source options dialect dir) in
/-- A request comes down to the project root and is answered by an index there, or it consults a
manifest there. -/
inductive MeetsRoot (request : Request) : Prop
  | index {consulted : Option (Path × ProjectFile)} {ext : Text} {g : ProjectFile}
      (htarget : Target source options dialect dir request consulted (some []))
      (hext : ext ∈ triedExtensions options.typescript)
      (hfound : Probed source options.exclude (candidates options.typescript [])
        (.found (rootIndex ext) g))
  | manifest {probe : Probe} {m : ProjectFile}
      (h : Lookup source options dialect dir request (some (manifestOf [], m)) probe)

theorem Lookup.found_normal {request : Request} {consulted : Option (Path × ProjectFile)}
    {q : Path} {g : ProjectFile}
    (h : Lookup source options dialect dir request consulted (.found q g)) :
    q.Normal ∨ MeetsRoot source options dialect dir request := by
  obtain ⟨_ | base, htarget, hprobe⟩ := h
  · cases (hprobe : Probe.found q g = .missing)
  · rcases candidate_normal (htarget.normal base rfl) (Probed.available hprobe).1 with hq
      | ⟨rfl, ext, hext, rfl⟩
    · exact .inl hq
    · exact .inr (.index htarget hext hprobe)

theorem Lookup.consulted_normal {request : Request} {probe : Probe} {q : Path} {m : ProjectFile}
    (h : Lookup source options dialect dir request (some (q, m)) probe) :
    q.Normal ∨ MeetsRoot source options dialect dir request := by
  obtain ⟨target, htarget, hprobe⟩ := id h
  obtain ⟨name, subpath, base, package, -, -, hdir, rfl, -⟩ := htarget.consulted_available
  by_cases hne : package = []
  · subst hne
    exact .inr (.manifest h)
  · exact .inl ((packageDir?_normal hdir).child hne isName_manifest)

/-- The path of an index or of a package manifest of the project root. -/
def RootSpelled (typescript : Bool) (c : Path) : Prop :=
  c = manifestOf [] ∨ ∃ ext ∈ triedExtensions typescript, c = rootIndex ext

theorem RootSpelled.slash {typescript : Bool} {c : Path} (h : RootSpelled typescript c) :
    ∃ q, c = '/' :: q ∧ '/' ∉ q := by
  rcases h with rfl | ⟨ext, hext, rfl⟩
  · exact ⟨"package.json".toList, rfl, by decide⟩
  · obtain ⟨-, hsep⟩ := triedExtensions_spec typescript ext hext
    refine ⟨"index.".toList ++ ext, rfl, fun hmem => ?_⟩
    rcases List.mem_append.1 hmem with hmem | hmem
    · simp at hmem
    · cases hsep '/' hmem

/-- The path is normal, or that of an index or of a package manifest of the project root. -/
def Spelled (typescript : Bool) (c : Path) : Prop := c.Normal ∨ RootSpelled typescript c

theorem candidate_spelled {base c : Path} (hbase : base.Normal)
    (hc : c ∈ candidates options.typescript base) :
    Spelled options.typescript c :=
  (candidate_normal hbase hc).imp_right fun ⟨_, hext⟩ => .inr hext

theorem manifestOf_spelled {typescript : Bool} {package : Path} (h : package.Normal) :
    Spelled typescript (manifestOf package) := by
  by_cases hne : package = []
  · subst hne
    exact .inr (.inl rfl)
  · exact .inl (h.child hne isName_manifest)

theorem normal_of_linkTarget {p target q : Path} (h : linkTarget p target = some q) : q.Normal := by
  unfold linkTarget at h
  split at h
  · cases h
  · exact Path.normal_of_join h

/-- Where a file leads is spelled normally, or as a file of the project root. -/
theorem Finding.spelled {p q : Path} {file g : ProjectFile}
    (h : Finding source options p file q g) : Spelled options.typescript q := by
  cases h with
  | link hkind htarget hq => exact .inl (normal_of_linkTarget htarget)
  | answer hkind hs h =>
    obtain ⟨base, htarget, hq, -⟩ := h.found_available
    exact candidate_spelled (htarget.normal base rfl) hq
  | manifest hkind hs h =>
    obtain ⟨_, htarget, -⟩ := h
    obtain ⟨_, _, _, package, -, -, hdir, rfl, -⟩ := htarget.consulted_available
    exact manifestOf_spelled (packageDir?_normal hdir)

end Lookups

/-! ## Resolutions -/

section Resolutions

variable (source : Path → Answer) (options : ScanOptions)

/-- No specifier of some files meets the project root. -/
def AvoidsRoot (files : List Path) : Prop :=
  ∀ p ∈ files, ∀ f, source p = .ok (some f) → f.kind = .regular → ∀ s ∈ specifiersOf p f,
    ¬ MeetsRoot source options (dialectOf options p f) p.parent (requestOf s)

variable {source options}

/-- What a file leads to is normal, unless a specifier meets the project root. -/
theorem Finding.normal {p q : Path} {file g : ProjectFile}
    (h : Finding source options p file q g) :
    q.Normal ∨ file.kind = .regular ∧ ∃ s ∈ specifiersOf p file,
      MeetsRoot source options (dialectOf options p file) p.parent (requestOf s) := by
  cases h with
  | link hkind htarget hq =>
    exact .inl (normal_of_linkTarget htarget)
  | answer hkind hs h => exact h.found_normal.imp_right fun hroot => ⟨hkind, _, hs, hroot⟩
  | manifest hkind hs h => exact h.consulted_normal.imp_right fun hroot => ⟨hkind, _, hs, hroot⟩

/-- A specifier that meets the project root leads to a path with a slash in front. -/
theorem MeetsRoot.finding {p : Path} {file : ProjectFile} {s : Text}
    (h : MeetsRoot source options (dialectOf options p file) p.parent (requestOf s))
    (hkind : file.kind = .regular) (hs : s ∈ specifiersOf p file) :
    ∃ q g, Finding source options p file q g ∧ ¬ q.Normal := by
  cases h with
  | index htarget hext hfound =>
    exact ⟨_, _, .answer hkind hs ⟨_, htarget, hfound⟩, not_normal_slash _⟩
  | manifest h => exact ⟨_, _, .manifest hkind hs h, not_normal_slash _⟩

variable {limit : Nat} {entrypoint : Path} {r : Resolution}

/-- A specifier that meets the project root adds a path that is not normal. -/
theorem MeetsRoot.exists_mem_files (h : Yields source (resolver limit options entrypoint) r)
    {p : Path} (hp : p ∈ r.files) {f : ProjectFile} (hf : source p = .ok (some f))
    (hkind : f.kind = .regular) {s : Text} (hs : s ∈ specifiersOf p f)
    (hroot : MeetsRoot source options (dialectOf options p f) p.parent (requestOf s)) :
    ∃ q ∈ r.files, (∃ g, Available source options.exclude q g) ∧ ¬ q.Normal := by
  obtain ⟨entry, -, hreached⟩ := mem_files_iff_reached h
  obtain ⟨q, g, hq, hslash⟩ := hroot.finding hkind hs
  exact ⟨q, (hreached q).2 (((hreached p).1 hp).tail ⟨f, hf, g, hq⟩), ⟨g, hq.available⟩, hslash⟩

theorem normal_files_iff (h : Yields source (resolver limit options entrypoint) r) :
    (∀ p ∈ r.files, p.Normal) ↔ AvoidsRoot source options r.files := by
  constructor
  · intro hnormal p hp f hf hkind s hs hroot
    obtain ⟨q, hq, -, hslash⟩ := hroot.exists_mem_files h hp hf hkind hs
    exact hslash (hnormal q hq)
  · intro havoids p hp
    obtain ⟨entry, hentry, hreached⟩ := mem_files_iff_reached h
    cases (hreached p).1 hp with
    | refl => exact normal_of_normalize hentry
    | tail hbefore hlead =>
      obtain ⟨f, hf, g, hq⟩ := hlead
      rcases hq.normal with hq | ⟨hkind, s, hs, hroot⟩
      · exact hq
      · exact absurd hroot (havoids _ ((hreached _).2 hbefore) f hf hkind s hs)

theorem available_of_mem_files (h : Yields source (resolver limit options entrypoint) r) {p : Path}
    (hp : p ∈ r.files) :
    entrypoint.normalize = some p ∧ (∃ f, source p = .ok (some f))
      ∨ ∃ f, Available source options.exclude p f := by
  obtain ⟨entry, file, hentry, hfile, -⟩ := yields_resolver.1 h
  obtain ⟨entry', hentry', hreached⟩ := mem_files_iff_reached h
  cases hentry.symm.trans hentry'
  cases (hreached p).1 hp with
  | refl => exact .inl ⟨hentry, file, hfile⟩
  | tail _ hlead =>
    obtain ⟨_, -, g, hq⟩ := hlead
    exact .inr ⟨g, hq.available⟩

end Resolutions

end Import

/-! ## Traces and units -/

section Units

variable {source : Path → Answer} {exclude : Ignore}

theorem Trace.mem_keep : ∀ {paths kept : List Path}, Trace.keep exclude paths = .ok kept →
    ∀ {p : Path}, p ∈ kept ↔ p ∈ paths ∧ exclude.check p = .ok false
  | [], kept, h, p => by
    cases h
    simp
  | q :: paths, kept, h, p => by
    obtain ⟨b, hq, h⟩ := bind_eq_ok.1 h
    obtain ⟨later, hlater, h⟩ := bind_eq_ok.1 h
    have ih := mem_keep hlater (p := p)
    cases b with
    | true =>
      cases h
      rw [if_pos rfl, ih, List.mem_cons, or_and_right]
      refine (or_iff_right ?_).symm
      rintro ⟨rfl, hp⟩
      cases hq.symm.trans hp
    | false =>
      cases h
      rw [if_neg Bool.false_ne_true, List.mem_cons, ih, List.mem_cons, or_and_right]
      refine or_congr_left ⟨?_, And.left⟩
      rintro rfl
      exact ⟨rfl, hq⟩

/-- A trace has the paths of its resolution that are not excluded. -/
theorem Trace.mem_ofResolution {r : Resolution} {trace : Trace}
    (h : Trace.ofResolution exclude r = .ok trace) {p : Path} :
    p ∈ trace.files ↔ p ∈ r.files ∧ exclude.check p = .ok false := by
  obtain ⟨sourceFiles, hsource, h⟩ := bind_eq_ok.1 h
  obtain ⟨moduleFiles, hmodule, h⟩ := bind_eq_ok.1 h
  cases h
  rw [Resolution.mem_files, Resolution.mem_files, or_and_right]
  exact or_congr (mem_keep hsource) (mem_keep hmodule)

namespace FunctionUnit

theorem yields_addFiles : ∀ {paths : List Path} {files files' : Catalog Path ProjectFile},
    Yields source (addFiles files paths) files' → ∀ p f,
      files'.find? p = some f
        ↔ files.find? p = some f ∨ files.find? p = none ∧ p ∈ paths ∧ source p = .ok (some f)
  | [], files, files', h, p, f => by
    cases yields_pure.1 h
    simp
  | q :: paths, files, files', h, p, f => by
    unfold addFiles at h
    split at h
    · rename_i hthere
      rw [yields_addFiles h, List.mem_cons]
      refine or_congr_right (and_congr_right fun hnone => ?_)
      rw [or_iff_right]
      rintro rfl
      simp [Catalog.contains, hnone] at hthere
    · rename_i hnew
      have hnone : files.find? q = none := by simpa [Catalog.contains] using hnew
      obtain ⟨found, hfound, h⟩ := yields_bind.1 h
      rw [yields_adapt, yields_file] at hfound
      cases found with
      | none => exact absurd h not_yields_throw
      | some file =>
        rw [yields_addFiles h, Catalog.find?_insert]
        by_cases hpq : p = q
        · subst hpq
          simp [hnone, hfound]
        · simp [hpq]

variable {layout : Layout} {handlerExport : Text} {limits : LimitTable} {entry : FunctionEntry}
  {trace : Trace} {unit : FunctionUnit}

/-- A unit has the entrypoint and the files of its trace, each as it is there. -/
theorem yields_package (h : Yields source (package layout handlerExport limits entry trace) unit) :
    (∃ f, source entry.relativeEntrypoint = .ok (some f))
      ∧ ∀ p f, unit.files.find? p = some f
        ↔ (p = entry.relativeEntrypoint ∨ p ∈ trace.files) ∧ source p = .ok (some f) := by
  unfold package at h
  split at h
  · exact absurd h not_yields_throw
  · split at h
    · exact absurd h not_yields_throw
    · obtain ⟨found, hfound, h⟩ := yields_bind.1 h
      rw [yields_adapt, yields_file] at hfound
      cases found with
      | none => exact absurd h not_yields_throw
      | some file =>
        obtain ⟨files, hfiles, h⟩ := yields_bind.1 h
        split at h
        · cases yields_pure.1 h
          refine ⟨⟨file, hfound⟩, fun p f => ?_⟩
          rw [yields_addFiles hfiles, Catalog.find?_insert, Catalog.find?_empty]
          by_cases hp : p = entry.relativeEntrypoint
          · subst hp
            simp [hfound]
          · simp [hp]
        · exact absurd h not_yields_stray

end FunctionUnit

end Units

namespace Import

variable {t : Tree} {root : Path} {options : ScanOptions} {limit : Nat} {entrypoint : Path}
  {r : Resolution}

/-- Where no lookup meets the project root, and only there, the paths of a resolution are those of
the files read there, and so are the paths of a unit packaged from it if that of its entrypoint
is. No file is then there under two paths. -/
theorem normal_paths_iff
    (h : ((Snapshot.new root).run t (resolver limit options entrypoint).run).1 = .ok (.ok r)) :
    ((∀ p ∈ r.files, p.Normal ∧ ∃ f, Snapshot.source t root p = .ok (some f) ∧ f.path = p)
        ↔ AvoidsRoot (Snapshot.source t root) options r.files)
      ∧ ∀ (layout : Layout) (handlerExport : Text) (limits : LimitTable) (entry : FunctionEntry)
          (trace : Trace) (unit : FunctionUnit),
        Trace.ofResolution options.exclude r = .ok trace →
        ((Snapshot.new root).run t
          (FunctionUnit.package layout handlerExport limits entry trace).run).1 = .ok (.ok unit) →
        ((∀ p f, unit.files.find? p = some f → p.Normal ∧ f.path = p)
            ↔ entry.relativeEntrypoint.Normal
              ∧ AvoidsRoot (Snapshot.source t root) options r.files)
          ∧ (entry.relativeEntrypoint.Normal →
            AvoidsRoot (Snapshot.source t root) options r.files →
            ∀ p q f g, unit.files.find? p = some f → unit.files.find? q = some g →
              f.path = g.path → p = q) := by
  rw [Snapshot.run_new] at h
  have hyields : Yields (Snapshot.source t root) (resolver limit options entrypoint) r := h
  have hpath : ∀ {p : Path} {f : ProjectFile}, p.Normal →
      Snapshot.source t root p = .ok (some f) → f.path = p := fun hp hf =>
    Option.some.inj ((Snapshot.path_of_source hf).symm.trans hp)
  have hthere : ∀ p ∈ r.files, ∃ f, Snapshot.source t root p = .ok (some f) := by
    intro p hp
    rcases available_of_mem_files hyields hp with ⟨-, hf⟩ | ⟨f, hf⟩
    · exact hf
    · exact ⟨f, hf.2⟩
  refine ⟨?resolution, fun layout handlerExport limits entry trace unit htrace hunit => ?unit⟩
  case resolution =>
    rw [← normal_files_iff hyields]
    refine ⟨fun hall p hp => (hall p hp).1, fun hall p hp => ?_⟩
    obtain ⟨f, hf⟩ := hthere p hp
    exact ⟨hall p hp, f, hf, hpath (hall p hp) hf⟩
  case unit =>
    rw [Snapshot.run_new] at hunit
    obtain ⟨⟨file, hfile⟩, hfind⟩ := FunctionUnit.yields_package hunit
    have hkeyed : entry.relativeEntrypoint.Normal →
        AvoidsRoot (Snapshot.source t root) options r.files →
        ∀ p f, unit.files.find? p = some f → p.Normal ∧ f.path = p := by
      intro hentry havoids p f hf
      obtain ⟨hp, hf⟩ := (hfind p f).1 hf
      have hnormal : p.Normal := by
        rcases hp with rfl | hp
        · exact hentry
        · exact (normal_files_iff hyields).2 havoids p ((Trace.mem_ofResolution htrace).1 hp).1
      exact ⟨hnormal, hpath hnormal hf⟩
    refine ⟨⟨fun hall => ⟨?_, ?_⟩, fun ⟨hentry, havoids⟩ => hkeyed hentry havoids⟩, ?_⟩
    · exact (hall _ file ((hfind _ file).2 ⟨.inl rfl, hfile⟩)).1
    · intro p hp f hf hkind s hs hroot
      obtain ⟨q, hq, ⟨g, hg⟩, hslash⟩ := hroot.exists_mem_files hyields hp hf hkind hs
      have hkept := (Trace.mem_ofResolution htrace).2 ⟨hq, hg.1⟩
      exact hslash (hall q g ((hfind q g).2 ⟨.inr hkept, hg.2⟩)).1
    · intro hentry havoids p q f g hf hg heq
      rw [← (hkeyed hentry havoids p f hf).2, ← (hkeyed hentry havoids q g hg).2, heq]

/-- A project at `/p` with an entrypoint that has a text, and one empty file. -/
def projectOf (text : String) (place : Place) : Tree :=
  ((Tree.empty.put ["p".toList] .dir).put ["p".toList, "a.js".toList]
    (.file text.toUTF8 0o644)).put ("p".toList :: place) (.file ByteArray.empty 0o644)

/-- The path of the file that is read at a path. -/
def readAs? (t : Tree) (root p : Path) : Option Path :=
  match Snapshot.source t root p with
  | .ok (some f) => some f.path
  | _ => none

theorem readAs?_eq_some {p q : Path} :
    readAs? t root p = some q ↔ ∃ f, Snapshot.source t root p = .ok (some f) ∧ f.path = q := by
  unfold readAs?
  rcases Snapshot.source t root p with e | _ | f <;> simp

theorem normal_paths_iff_sibling :
    ∃ r, ((Snapshot.new "/p".toList).run (projectOf "require('./b')" ["b.js".toList])
          (resolver 2 {} "a.js".toList).run).1 = .ok (.ok r)
      ∧ r.files = ["a.js".toList, "b.js".toList]
      ∧ AvoidsRoot (Snapshot.source (projectOf "require('./b')" ["b.js".toList]) "/p".toList) {}
          r.files := by
  have hrun : (yield? (Snapshot.source (projectOf "require('./b')" ["b.js".toList]) "/p".toList)
      (resolver 2 {} "a.js".toList)).map Resolution.files
        = some ["a.js".toList, "b.js".toList] := by
    decide +kernel
  have hnormal : ∀ p ∈ ["a.js".toList, "b.js".toList], Path.normalize p = some p
      ∧ readAs? (projectOf "require('./b')" ["b.js".toList]) "/p".toList p = some p := by
    decide +kernel
  obtain ⟨r, hr, hfiles⟩ := Option.map_eq_some_iff.1 hrun
  have h : ((Snapshot.new "/p".toList).run (projectOf "require('./b')" ["b.js".toList])
      (resolver 2 {} "a.js".toList).run).1 = .ok (.ok r) :=
    (Snapshot.run_new _ _ _).trans ((yield?_eq_some _).1 hr)
  refine ⟨r, h, hfiles, (normal_paths_iff h).1.1 fun p hp => ?_⟩
  rw [hfiles] at hp
  exact ⟨(hnormal p hp).1, readAs?_eq_some.1 (hnormal p hp).2⟩

/-- An index of the project root is shipped under a path with a slash in front, and once more
under its own if that is asked for too. -/
theorem root_index_two_paths :
    ∃ r, ((Snapshot.new "/p".toList).run
          (projectOf "require('.'); require('./index')" ["index.js".toList])
          (resolver 3 {} "a.js".toList).run).1 = .ok (.ok r)
      ∧ r.files = ["/index.js".toList, "a.js".toList, "index.js".toList]
      ∧ Path.normalize "/index.js".toList = some "index.js".toList
      ∧ readAs? (projectOf "require('.'); require('./index')" ["index.js".toList]) "/p".toList
          "/index.js".toList = some "index.js".toList := by
  have hrun : (yield? (Snapshot.source
      (projectOf "require('.'); require('./index')" ["index.js".toList]) "/p".toList)
        (resolver 3 {} "a.js".toList)).map Resolution.files
        = some ["/index.js".toList, "a.js".toList, "index.js".toList] := by
    decide +kernel
  obtain ⟨r, hr, hfiles⟩ := Option.map_eq_some_iff.1 hrun
  exact ⟨r, (Snapshot.run_new _ _ _).trans ((yield?_eq_some _).1 hr), hfiles, by decide,
    by decide +kernel⟩

end Import

end AppBundle
