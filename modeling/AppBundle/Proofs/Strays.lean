import AppBundle.Proofs.Below
import AppBundle.Proofs.Pooled
import AppBundle.Proofs.Spelling

/-!
# Runs that stray

In a project at an absolute path an exclusion is asked about nothing but normal paths, and about
those below the project root that have a slash in front: an index there, or a package manifest
(`requestComesTo_spelled`). Rules cannot judge the latter.

So a run strays exactly where there are rules and the scan of a function comes to such a path
(`run_strays_iff`). Neither a link, nor the trace of what was found, nor the limits of a function
make it stray.
-/

namespace AppBundle

open AppBundle.Path Reading

namespace Import

/-! ## Scans -/

section Scans

/-- An exclusion list below an absolute root fails to judge a path spelled below the root exactly
if it has rules and the root does not open the path as a text. -/
theorem check_spelled {l : Ignore} {typescript : Bool} {c : Path}
    (hroot : l.root.head? = some '/') (hc : Spelled typescript c) :
    (∃ stray, l.check c = .error stray)
      ↔ RootSpelled typescript c ∧ l.rules ≠ [] ∧ ¬ l.root <+: c := by
  rcases hc with hc | hc
  · obtain ⟨b, hb⟩ := Ignore.check_relative (l := l) hroot hc.head?_ne
    refine iff_of_false (by simp [hb]) ?_
    rintro ⟨hspelled, -⟩
    obtain ⟨q, rfl, -⟩ := hspelled.slash
    exact not_normal_slash q hc
  · obtain ⟨q, heq, hq⟩ := hc.slash
    rw [heq] at hc ⊢
    exact (Ignore.check_slash hroot hq).trans (and_iff_right hc).symm

variable {source : Path → Answer} {options : ScanOptions} {dialect : Dialect} {dir : Path}

/-- What a request asks the exclusions about is normal, or an index or a manifest of the project
root. -/
theorem requestComesTo_spelled {request : Request} {c : Path}
    (h : RequestComesTo source options dialect dir request c) :
    Spelled options.typescript c := by
  cases h with
  | relative hbase hc => exact candidate_spelled (normal_of_join hbase) hc.mem
  | package h =>
    cases h with
    | manifest h =>
      obtain ⟨base, -, hdir⟩ := FirstWhere.exists_mem h
      exact manifestOf_spelled (packageDir?_normal hdir)
    | candidate h hc => exact candidate_spelled (packageTarget_normal h _ rfl) hc.mem

variable (source options) in
/-- The visit of a file comes to a path: the lookups of the specifiers before end, and the next
one asks the exclusions about the path. -/
def VisitComesTo (p : Path) (file : ProjectFile) (c : Path) : Prop :=
  file.kind = .regular ∧ FirstWhere
    (fun s => Settled source options (dialectOf options p file) p.parent (requestOf s))
    (fun s => RequestComesTo source options (dialectOf options p file) p.parent (requestOf s) c)
    (specifiersOf p file)

variable (source options) in
/-- The scan of an entrypoint comes to a path: the visits before do not fail, and the next one,
within the limit, comes to it. -/
def ScanComesTo (limit : Nat) (entrypoint c : Path) : Prop :=
  ∃ entry start, entrypoint.normalize = some entry ∧ source entry = .ok (some start)
    ∧ ∃ n < limit, ∃ w, Walk.Visits source options n (startOf entry start) w
      ∧ ∃ p file queue, w.queue = (p, file) :: queue ∧ VisitComesTo source options p file c

theorem ScanComesTo.spelled {limit : Nat} {entrypoint c : Path}
    (h : ScanComesTo source options limit entrypoint c) :
    Spelled options.typescript c := by
  obtain ⟨_, _, -, -, _, -, _, -, _, _, _, -, -, hvisit⟩ := h
  obtain ⟨_, -, hc⟩ := FirstWhere.exists_mem hvisit
  exact requestComesTo_spelled hc

theorem strays_visit_iff (hroot : options.exclude.root.head? = some '/') {p : Path}
    {file : ProjectFile} :
    Strays source (visit options p file)
      ↔ ∃ c, VisitComesTo source options p file c
        ∧ ∃ stray, options.exclude.check c = .error stray := by
  rw [strays_visit, firstWhere_exists, ← exists_and_left]
  simp only [VisitComesTo, ← and_assoc]
  refine or_iff_right ?_
  rintro ⟨target, q, ⟨-, htarget⟩, s, hs⟩
  have hnormal := normal_of_linkTarget htarget
  obtain ⟨b, hb⟩ := Ignore.check_relative (l := options.exclude) hroot hnormal.head?_ne
  rw [hb] at hs
  cases hs

/-- A scan strays exactly where it comes to a path that the exclusions cannot judge. -/
theorem strays_resolver_iff (hroot : options.exclude.root.head? = some '/') {limit : Nat}
    {entrypoint : Path} :
    Strays source (resolver limit options entrypoint)
      ↔ ∃ c, ScanComesTo source options limit entrypoint c
        ∧ RootSpelled options.typescript c ∧ options.exclude.rules ≠ []
        ∧ ¬ options.exclude.root <+: c := by
  rw [strays_resolver]
  constructor
  · rintro ⟨entry, start, hentry, hstart, hrun⟩
    obtain ⟨n, hn, w, hvisits, p, file, queue, hqueue, hvisit⟩ := Walk.strays_run.1 hrun
    obtain ⟨c, hc, hs⟩ := (strays_visit_iff hroot).1 hvisit
    have hscan : ScanComesTo source options limit entrypoint c :=
      ⟨entry, start, hentry, hstart, n, hn, w, hvisits, p, file, queue, hqueue, hc⟩
    exact ⟨c, hscan, (check_spelled hroot hscan.spelled).1 hs⟩
  · rintro ⟨c, hscan, hc⟩
    have hs := (check_spelled hroot hscan.spelled).2 hc
    obtain ⟨entry, start, hentry, hstart, n, hn, w, hvisits, p, file, queue, hqueue, hvisit⟩ :=
      hscan
    exact ⟨entry, start, hentry, hstart, Walk.strays_run.2
      ⟨n, hn, w, hvisits, p, file, queue, hqueue, (strays_visit_iff hroot).2 ⟨c, hvisit, hs⟩⟩⟩

end Scans

end Import

/-! ## Traces and units -/

section Units

variable {source : Path → Answer} {exclude : Ignore} {project : Path}

theorem Trace.keep_isOk : ∀ {paths : List Path}, (∀ p ∈ paths, ∃ b, exclude.check p = .ok b) →
    ∃ kept, keep exclude paths = .ok kept
  | [], _ => ⟨[], rfl⟩
  | p :: paths, h => by
    obtain ⟨⟨b, hb⟩, hpaths⟩ := List.forall_mem_cons.1 h
    obtain ⟨kept, hkept⟩ := keep_isOk hpaths
    refine ⟨if b then kept else p :: kept, ?_⟩
    unfold keep
    rw [hb, hkept]
    rfl

/-- The exclusions can judge what a scan found, so that only the scan itself makes a trace
stray. -/
theorem Trace.strays_entrypoint {limit : Nat} (hroot : exclude.root.head? = some '/')
    {path relative : Path} (hrelative : relativeTo? project path = some relative) :
    Strays source (Trace.entrypoint (Import.resolver limit) project exclude path)
      ↔ Strays source (Import.resolver limit { exclude } relative) := by
  unfold Trace.entrypoint
  rw [hrelative]
  dsimp only
  rw [strays_bind, strays_adapt]
  refine or_iff_left ?_
  rintro ⟨r, hr, h⟩
  rw [yields_adapt] at hr
  have hjudged : ∀ p ∈ r.files, ∃ b, exclude.check p = .ok b := by
    intro p hp
    rcases Import.available_of_mem_files hr hp with ⟨hnormal, -⟩ | ⟨f, hf⟩
    · exact Ignore.check_relative hroot (normal_of_normalize hnormal).head?_ne
    · exact ⟨false, hf.1⟩
  obtain ⟨sourceFiles, hsource⟩ : ∃ kept, keep exclude r.sourceFiles = .ok kept :=
    keep_isOk fun p hp => hjudged p (Resolution.mem_files.2 (.inl hp))
  obtain ⟨moduleFiles, hmodule⟩ : ∃ kept, keep exclude r.moduleFiles = .ok kept :=
    keep_isOk fun p hp => hjudged p (Resolution.mem_files.2 (.inr hp))
  have htrace : ofResolution exclude r
      = .ok { sourceFiles, moduleFiles, warnings := r.warnings } := by
    unfold ofResolution
    rw [hsource, hmodule]
    rfl
  rw [htrace] at h
  exact not_strays_pure h

namespace FunctionUnit

theorem not_strays_addFiles : ∀ {paths : List Path} {files : Catalog Path ProjectFile},
    ¬ Strays source (addFiles files paths)
  | [], files => not_strays_pure
  | p :: paths, files => by
    unfold addFiles
    split
    · exact not_strays_addFiles
    · rw [strays_bind, strays_adapt]
      rintro (h | ⟨found, -, h⟩)
      · exact not_strays_file h
      · cases found with
        | none => exact not_strays_throw h
        | some file => exact not_strays_addFiles h

/-- Packaging strays only where the limits of the function cannot be told. -/
theorem not_strays_package {layout : Layout} {handlerExport : Text} {limits : LimitTable}
    {entry : FunctionEntry} {trace : Trace}
    (h : ∀ p, entry.sourcePath = some p → ∃ l, limits.resolve (some p) = .ok l) :
    ¬ Strays source (package layout handlerExport limits entry trace) := by
  unfold package
  split
  · exact not_strays_throw
  · rename_i p hp
    obtain ⟨l, hl⟩ := h p hp
    split
    · exact not_strays_throw
    · rw [strays_bind, strays_adapt]
      rintro (h | ⟨found, -, h⟩)
      · exact not_strays_file h
      · cases found with
        | none => exact not_strays_throw h
        | some file =>
          dsimp only at h
          rw [hl] at h
          rcases strays_bind.1 h with h | ⟨files, -, h⟩
          · exact not_strays_addFiles h
          · exact not_strays_pure h

end FunctionUnit

end Units

/-! ## Runs -/

namespace Pipeline

section Runs

variable {t : Tree} {project : Path} {config : Config} {limit : Nat} {s : Setting}

theorem gather_strays : ∀ entries : List FunctionEntry,
    (∃ stray, gather entries (entries.map (alone t s)) = .error stray)
      ↔ ∃ entry ∈ entries, ∃ stray, alone t s entry = .error stray
  | [] => by simp [gather]
  | entry :: entries => by
    rw [List.map_cons, gather]
    rcases hentry : alone t s entry with stray | result
    · exact iff_of_true ⟨stray, rfl⟩ ⟨entry, by simp, stray, hentry⟩
    · have ih := gather_strays entries
      simp only [List.mem_cons, exists_eq_or_imp, hentry, reduceCtorEq, exists_false, false_or]
      rw [← ih]
      rcases gather entries (entries.map (alone t s)) with stray | later
      · exact iff_of_true ⟨stray, rfl⟩ ⟨stray, rfl⟩
      · constructor
        · rintro ⟨stray, h⟩
          cases h
        · rintro ⟨stray, h⟩
          cases h

theorem strays_process {entry : FunctionEntry}
    (hpackage : ∀ source trace, ¬ Strays source (FunctionUnit.package s.config.layout
      s.config.functions.handlerExport s.limits entry trace)) {source : Path → Answer} :
    Strays source (process s entry)
      ↔ Strays source (Trace.entrypoint s.resolver s.project s.exclude entry.entrypoint) := by
  unfold process
  rw [strays_bind, strays_adapt]
  refine or_iff_left ?_
  rintro ⟨trace, -, h⟩
  rcases strays_bind.1 h with h | ⟨outcome, -, h⟩
  · exact hpackage source trace (strays_lift.1 h)
  · cases outcome with
    | ok unit => exact not_strays_pure h
    | error e =>
      dsimp only at h
      split at h
      · exact not_strays_throw h
      · exact not_strays_pure h

/-- A function that was discovered strays exactly where its scan comes to a path that the
exclusions cannot judge. -/
theorem alone_strays_iff (hvalid : config.validate = .ok ()) (habsolute : project.head? = some '/')
    (hs : prepare project config (Import.resolver limit) = .ok s) {d : Discovery}
    (hd : Yields (Snapshot.source t project) (Discovery.run t project config.layout) d)
    {entry : FunctionEntry} (hentry : entry ∈ d.entries) :
    (∃ stray, alone t s entry = .error stray)
      ↔ ∃ c, Import.ScanComesTo (Snapshot.source t project) { exclude := s.exclude } limit
          entry.relativeEntrypoint c
        ∧ Import.RootSpelled true c ∧ s.exclude.rules ≠ [] ∧ ¬ project <+: c := by
  obtain ⟨exclude, limits, hexclude, hlimits, rfl⟩ := prepare_eq_ok hs
  have hroot : exclude.root = project := Ignore.build_root hexclude
  obtain ⟨hrelative, hsource⟩ := Discovery.yields_run (validate_layout hvalid) hd entry hentry
  rw [alone_eq]
  refine (strays_process fun source trace => FunctionUnit.not_strays_package fun p hp =>
    LimitTable.resolve_isOk hlimits habsolute (hsource p hp)).trans ?_
  rw [Trace.strays_entrypoint (by rwa [hroot]) hrelative,
    Import.strays_resolver_iff (by rwa [hroot]), hroot]

/-- With a valid configuration and an absolute project directory, a run strays exactly where there
are exclusion rules and the scan of some function comes to the index or the package manifest of
the project root, in front of which it has a slash. -/
theorem run_strays_iff (hvalid : config.validate = .ok ()) (habsolute : project.head? = some '/') :
    (∃ stray, ((Snapshot.new project).run t
        (run t project config (Import.resolver limit)).run).1 = .error stray)
      ↔ ∃ s d, prepare project config (Import.resolver limit) = .ok s
        ∧ ((Snapshot.new project).run t (Discovery.run t project config.layout).run).1
          = .ok (.ok d)
        ∧ s.exclude.rules ≠ []
        ∧ ∃ entry ∈ d.entries, ∃ c, Import.RootSpelled true c ∧ ¬ project <+: c
          ∧ Import.ScanComesTo (Snapshot.source t project) { exclude := s.exclude } limit
              entry.relativeEntrypoint c := by
  show (∃ stray, sequential t project config (Import.resolver limit) = .error stray) ↔ _
  rw [sequential_eq]
  rcases hs : prepare project config (Import.resolver limit) with e | s
  · simp
  · simp only [Snapshot.run_new]
    rcases hd : (Discovery.run t project config.layout).run.answer (Snapshot.source t project)
      with stray | e | d
    · exact absurd ⟨stray, hd⟩ Discovery.not_strays_run
    · simp
    · simp only [map_eq_error, gather_strays, Except.ok.injEq, exists_eq_left', exists_and_left]
      constructor
      · rintro ⟨entry, hentry, hstray⟩
        obtain ⟨c, hcomes, hspelled, hrules, hprefix⟩ :=
          (alone_strays_iff hvalid habsolute hs hd hentry).1 hstray
        exact ⟨hrules, entry, hentry, c, hspelled, hprefix, hcomes⟩
      · rintro ⟨hrules, entry, hentry, c, hspelled, hprefix, hcomes⟩
        exact ⟨entry, hentry, (alone_strays_iff hvalid habsolute hs hd hentry).2
          ⟨c, hcomes, hspelled, hrules, hprefix⟩⟩

end Runs

/-- A project at `/p` with one function that has a text. -/
def oneFunction (text : String) : Tree :=
  (((((Tree.empty.put ["p".toList] .dir).put ["p".toList, "api".toList] .dir).put
    ["p".toList, "api".toList, "dist".toList] .dir).put
      ["p".toList, "api".toList, "dist".toList, "functions".toList] .dir).put
        ["p".toList, "api".toList, "dist".toList, "functions".toList, "a.js".toList]
          (.file text.toUTF8 0o644))

/-- A configuration with one exclusion rule. -/
def excluding : Config := { functions := { exclude := ["x".toList] } }

theorem excluding_valid : excluding.validate = .ok () := rfl

theorem stray_of_isOk {α : Type} {o : Except Stray α} (h : o.isOk = false) :
    ∃ stray, o = .error stray := by
  cases o with
  | error stray => exact ⟨stray, rfl⟩
  | ok a => cases h

theorem run_strays_iff_directory :
    ∃ s d, prepare "/p".toList excluding (Import.resolver 1) = .ok s
      ∧ ((Snapshot.new "/p".toList).run (oneFunction "require('../../../')")
          (Discovery.run (oneFunction "require('../../../')") "/p".toList excluding.layout).run).1
        = .ok (.ok d)
      ∧ s.exclude.rules ≠ []
      ∧ ∃ entry ∈ d.entries, ∃ c, Import.RootSpelled true c ∧ ¬ "/p".toList <+: c
        ∧ Import.ScanComesTo
            (Snapshot.source (oneFunction "require('../../../')") "/p".toList)
            { exclude := s.exclude } 1 entry.relativeEntrypoint c :=
  (run_strays_iff excluding_valid rfl).1 (stray_of_isOk (by decide +kernel))

/-- A function that asks for the project directory makes a run with an exclusion rule stray. -/
theorem root_directory_strays :
    excluding.validate = .ok () ∧ ∃ stray, ((Snapshot.new "/p".toList).run
      (oneFunction "require('../../..')") (run (oneFunction "require('../../..')") "/p".toList
        excluding (Import.resolver 1)).run).1 = .error stray :=
  ⟨rfl, stray_of_isOk (by decide +kernel)⟩

end Pipeline

end AppBundle
