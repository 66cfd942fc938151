import AppBundle.Proofs.Accounts
import AppBundle.Proofs.Entrypoints
import AppBundle.Proofs.Located

/-!
# What is shipped with a function

Where the functions are named plainly, nothing is lost between the scan of an entrypoint and the
unit. The path of the entrypoint below the project is normal, so that it is the path the scan
starts from; all else that the scan found was tested against the exclusions before, so that the
trace keeps it, and was there, so that packaging finds it again.

The files of a unit are therefore those of the resolution (`files_of_unit`), and a function is left
out for want of a source path and for no other reason (`omitted_without_source`).
-/

namespace AppBundle

open Reading

variable {source : Path → Answer}

/-! ## Traces -/

namespace Trace

variable {resolver : Resolver} {project path relative : Path} {exclude : Ignore} {trace : Trace}

theorem exists_resolution (hrelative : Path.relativeTo? project path = some relative)
    (h : Yields source (entrypoint resolver project exclude path) trace) :
    ∃ r, Yields source (resolver { exclude } relative) r ∧ ofResolution exclude r = .ok trace := by
  unfold entrypoint at h
  rw [hrelative] at h
  obtain ⟨r, hr, h⟩ := yields_bind.1 h
  refine ⟨r, yields_adapt.1 hr, ?_⟩
  split at h
  · rename_i trace' htrace
    cases yields_pure.1 h
    exact htrace
  · exact absurd h not_yields_stray

/-- Of a scan that starts at a normal path the trace leaves out that path at most. -/
theorem mem_files_iff {limit : Nat} {r : Resolution} (hnormal : relative.Normal)
    (hr : Yields source (Import.resolver limit { exclude } relative) r)
    (htrace : ofResolution exclude r = .ok trace) {p : Path} :
    p = relative ∨ p ∈ trace.files ↔ p ∈ r.files := by
  rw [mem_ofResolution htrace]
  constructor
  · rintro (rfl | ⟨hp, -⟩)
    · obtain ⟨entry, hentry, hreached⟩ := Import.mem_files_iff_reached hr
      cases hentry.symm.trans hnormal
      exact (hreached _).2 .refl
    · exact hp
  · intro hp
    rcases Import.available_of_mem_files hr hp with ⟨hentry, -⟩ | ⟨f, hf⟩
    · exact .inl (Option.some.inj (hentry.symm.trans hnormal))
    · exact .inr ⟨hp, hf.1⟩

theorem there_of_mem_files {limit : Nat} {r : Resolution}
    (hr : Yields source (Import.resolver limit { exclude } relative) r)
    (htrace : ofResolution exclude r = .ok trace) :
    ∀ p ∈ trace.files, ∃ f, source p = .ok (some f) := by
  intro p hp
  rcases Import.available_of_mem_files hr ((mem_ofResolution htrace).1 hp).1 with ⟨-, hf⟩ | ⟨f, hf⟩
  · exact hf
  · exact ⟨f, hf.2⟩

end Trace

/-! ## Units -/

namespace FunctionUnit

variable {layout : Layout} {handlerExport : Text} {limits : LimitTable} {entry : FunctionEntry}
  {trace : Trace} {unit : FunctionUnit}

theorem not_fails_addFiles : ∀ {paths : List Path} {files : Catalog Path ProjectFile}
    {e : PackageError}, (∀ p ∈ paths, ∃ f, source p = .ok (some f)) →
      ¬ Fails source (addFiles files paths) e
  | [], files, e, _ => not_fails_pure
  | p :: paths, files, e, hthere => by
    obtain ⟨⟨f, hf⟩, hpaths⟩ := List.forall_mem_cons.1 hthere
    unfold addFiles
    split
    · exact not_fails_addFiles hpaths
    · rw [fails_bind]
      rintro (h | ⟨found, hfound, h⟩)
      · obtain ⟨e', he, -⟩ := fails_adapt.1 h
        rw [fails_file, hf] at he
        cases he
      · rw [yields_adapt, yields_file, hf] at hfound
        cases hfound
        exact not_fails_addFiles hpaths h

/-- With a handler, an entrypoint and traced files that are there, packaging fails only for want of
a source path. -/
theorem fails_package {e : PackageError}
    (hhandler : ∃ handler, handler? layout handlerExport entry.relativeEntrypoint = some handler)
    (hentry : ∃ f, source entry.relativeEntrypoint = .ok (some f))
    (hthere : ∀ p ∈ trace.files, ∃ f, source p = .ok (some f))
    (h : Fails source (package layout handlerExport limits entry trace) e) :
    entry.sourcePath = none ∧ e = .noSourcePath entry.entrypoint := by
  obtain ⟨handler, hhandler⟩ := hhandler
  obtain ⟨f, hf⟩ := hentry
  unfold package at h
  split at h
  · rename_i hsource
    exact ⟨hsource, (fails_throw.1 h).symm⟩
  · rw [hhandler] at h
    rcases fails_bind.1 h with h | ⟨found, hfound, h⟩
    · obtain ⟨e', he, -⟩ := fails_adapt.1 h
      rw [fails_file, hf] at he
      cases he
    · rw [yields_adapt, yields_file, hf] at hfound
      cases hfound
      rcases fails_bind.1 h with h | ⟨files, -, h⟩
      · exact absurd h (not_fails_addFiles hthere)
      · split at h
        · exact absurd h not_fails_pure
        · exact absurd h not_fails_stray

theorem sourcePath_ne_none
    (h : Yields source (package layout handlerExport limits entry trace) unit) :
    entry.sourcePath ≠ none := by
  intro hnone
  unfold package at h
  rw [hnone] at h
  exact not_yields_throw h

theorem mem_requests_addFiles : ∀ {paths : List Path} {files files' : Catalog Path ProjectFile},
    Yields source (addFiles files paths) files' → ∀ {p : Path}, p ∈ paths → files.find? p = none →
      p ∈ (addFiles files paths).run.requests source
  | q :: paths, files, files', h, p, hp, hnew => by
    unfold addFiles at h ⊢
    split at h
    · rename_i hthere
      rw [if_pos hthere]
      rcases List.mem_cons.1 hp with rfl | hp
      · simp [Catalog.contains, hnew] at hthere
      · exact mem_requests_addFiles h hp hnew
    · rename_i hfree
      rw [if_neg hfree]
      obtain ⟨found, hfound, h⟩ := yields_bind.1 h
      rw [requests_run_bind hfound, requests_run_adapt]
      refine List.mem_append.2 ?_
      by_cases hpq : p = q
      · subst hpq
        exact .inl (List.mem_singleton_self p)
      · refine .inr ?_
        have hlater : p ∈ paths := (List.mem_cons.1 hp).resolve_left hpq
        cases found with
        | none => exact absurd h not_yields_throw
        | some file => exact mem_requests_addFiles h hlater (by simp [hpq, hnew])

theorem mem_requests_package
    (h : Yields source (package layout handlerExport limits entry trace) unit) {p : Path}
    {f : ProjectFile} (hp : unit.files.find? p = some f) :
    p ∈ (package layout handlerExport limits entry trace).run.requests source := by
  obtain ⟨hmem, -⟩ := ((yields_package h).2 p f).1 hp
  unfold package at h ⊢
  split at h
  · exact absurd h not_yields_throw
  · split at h
    · exact absurd h not_yields_throw
    · obtain ⟨found, hfound, h⟩ := yields_bind.1 h
      rw [requests_run_bind hfound, requests_run_adapt]
      refine List.mem_append.2 ?_
      by_cases hrel : p = entry.relativeEntrypoint
      · subst hrel
        exact .inl (List.mem_singleton_self _)
      · refine .inr ?_
        cases found with
        | none => exact absurd h not_yields_throw
        | some file =>
          obtain ⟨files, hfiles, -⟩ := yields_bind.1 h
          rw [requests_run_bind hfiles]
          exact List.mem_append_left _
            (mem_requests_addFiles hfiles (hmem.resolve_left hrel) (by simp [hrel]))

end FunctionUnit

/-! ## Runs -/

namespace Pipeline

variable {t : Tree} {project : Path} {config : Config} {limit : Nat} {s : Setting} {d : Discovery}

/-- With plain names every function of a run lies below the functions directory, and its trace is
what the resolution of its path leaves. -/
theorem exists_resolution_of_holds (hvalid : config.validate = .ok ())
    (hplain : Discovery.PlainlyNamed t project config.layout)
    (hs : prepare project config (Import.resolver limit) = .ok s)
    (hd : Yields (Snapshot.source t project) (Discovery.run t project config.layout) d)
    {a : Account} (ha : a.Holds t s) (hentry : a.entry ∈ d.entries) :
    ∃ dirs names r, Discovery.Located config.layout dirs names a.entry
      ∧ Yields (Snapshot.source t project)
        (Import.resolver limit { exclude := s.exclude } a.entry.relativeEntrypoint) r
      ∧ Trace.ofResolution s.exclude r = .ok a.trace := by
  have hlayout := validate_layout hvalid
  obtain ⟨dirs, names, hlocated⟩ := Discovery.located hlayout hplain hd hentry
  obtain ⟨hrelative, -⟩ := Discovery.yields_run hlayout hd a.entry hentry
  obtain ⟨exclude, limits, -, -, rfl⟩ := prepare_eq_ok hs
  have htraced := ha.traced
  rw [Snapshot.run_new] at htraced
  obtain ⟨r, hr, htrace⟩ := Trace.exists_resolution hrelative htraced
  exact ⟨dirs, names, r, hlocated, hr, htrace⟩

theorem Account.Holds.package {a : Account} (ha : a.Holds t s) :
    (FunctionUnit.package s.config.layout s.config.functions.handlerExport s.limits a.entry
      a.trace).run.answer (Snapshot.source t s.project) = .ok a.outcome.packaging :=
  (Snapshot.run_new t s.project _).symm.trans ha.ended

theorem sourcePath_of_packaged {a : Account} {unit : FunctionUnit} (ha : a.Holds t s)
    (h : a.outcome = .packaged unit) : a.entry.sourcePath ≠ none := by
  have hpackage := ha.package
  rw [h] at hpackage
  exact FunctionUnit.sourcePath_ne_none hpackage

theorem omitted_for_sourcePath (hvalid : config.validate = .ok ())
    (hplain : Discovery.PlainlyNamed t project config.layout)
    (hs : prepare project config (Import.resolver limit) = .ok s)
    (hd : Yields (Snapshot.source t project) (Discovery.run t project config.layout) d)
    {a : Account} (ha : a.Holds t s) (hentry : a.entry ∈ d.entries) {reason : PackageError}
    (h : a.outcome = .omitted reason) :
    a.entry.sourcePath = none ∧ reason = .noSourcePath a.entry.entrypoint := by
  obtain ⟨dirs, names, r, hlocated, hr, htrace⟩ :=
    exists_resolution_of_holds hvalid hplain hs hd ha hentry
  have hpackage := ha.package
  rw [h] at hpackage
  obtain ⟨exclude, limits, -, -, rfl⟩ := prepare_eq_ok hs
  have hhandler := FunctionUnit.handler?_joinBy config.functions.handlerExport hlocated.dir
    hlocated.dirs_ne hlocated.isName hlocated.names_ne
  rw [← hlocated.relative] at hhandler
  obtain ⟨entry, f, hnormal, hf, -⟩ := Import.yields_resolver.1 hr
  have hrelative : a.entry.relativeEntrypoint.Normal := by
    rw [hlocated.relative]
    exact Path.normal_joinBy hlocated.isName
  cases hnormal.symm.trans hrelative
  exact FunctionUnit.fails_package ⟨_, hhandler⟩ ⟨f, hf⟩
    (Trace.there_of_mem_files hr htrace) hpackage

/-- The omission of a function that has no source path. -/
def omissionFor? (entry : FunctionEntry) : Option Omission :=
  if entry.sourcePath = none then
    some ⟨entry.outputName, entry.entrypoint, .noSourcePath entry.entrypoint⟩
  else none

theorem omission?_eq (hvalid : config.validate = .ok ())
    (hplain : Discovery.PlainlyNamed t project config.layout)
    (hs : prepare project config (Import.resolver limit) = .ok s)
    (hd : Yields (Snapshot.source t project) (Discovery.run t project config.layout) d)
    {a : Account} (ha : a.Holds t s) (hentry : a.entry ∈ d.entries) :
    a.omission? = omissionFor? a.entry := by
  unfold Account.omission? omissionFor?
  rcases houtcome : a.outcome with unit | reason
  · rw [if_neg (sourcePath_of_packaged ha houtcome)]
  · obtain ⟨hnone, rfl⟩ := omitted_for_sourcePath hvalid hplain hs hd ha hentry houtcome
    rw [if_pos hnone]

/-- With plain names the functions that a run leaves out are those without a source path, which
are those in whose path the segment of built files does not stand once, and each is left out for
that reason. -/
theorem omitted_without_source {m : Manifest} {left : Snapshot} (hvalid : config.validate = .ok ())
    (hplain : Discovery.PlainlyNamed t project config.layout)
    (h : Ends t project config (Import.resolver limit) m left) :
    ∃ d, ((Snapshot.new project).run t (Discovery.run t project config.layout).run).1 = .ok (.ok d)
      ∧ m.omitted = (d.entries.filter fun entry => entry.sourcePath = none).map
        (fun entry => ⟨entry.outputName, entry.entrypoint, .noSourcePath entry.entrypoint⟩)
      ∧ ∀ entry ∈ d.entries, entry.sourcePath = none
        ↔ (entry.relativeEntrypoint.splitBy (· = '/')).count config.layout.buildSegment ≠ 1 := by
  obtain ⟨s, d, assets, accounts, hs, hd, -, hentries, hall, -, -, homitted, -⟩ :=
    exists_accounts h.sequential
  have hyields : Yields (Snapshot.source t project) (Discovery.run t project config.layout) d :=
    (Snapshot.run_new t project _).symm.trans hd
  refine ⟨d, hd, ?omitted, fun entry hentry => ?source⟩
  case omitted =>
    have hmem : ∀ a ∈ accounts, a.entry ∈ d.entries := by
      intro a ha
      rw [← hentries]
      exact List.mem_map_of_mem ha
    have hentry : accounts.filterMap Account.omission? = d.entries.filterMap omissionFor? := by
      rw [← hentries, List.filterMap_map]
      exact List.filterMap_congr fun a ha =>
        omission?_eq hvalid hplain hs hyields (hall a ha) (hmem a ha)
    rw [homitted, hentry, ← List.filterMap_eq_map, ← List.filterMap_eq_filter,
      List.filterMap_filterMap]
    refine List.filterMap_congr fun entry _ => ?_
    by_cases hnone : entry.sourcePath = none
    · simp [omissionFor?, Option.guard, hnone]
    · simp [omissionFor?, Option.guard, hnone]
  case source =>
    obtain ⟨dirs, names, hlocated⟩ :=
      Discovery.located (validate_layout hvalid) hplain hyields hentry
    have hrelative : entry.relativeEntrypoint.Normal := by
      rw [hlocated.relative]
      exact Path.normal_joinBy hlocated.isName
    rw [hlocated.source, Layout.sourcePath?_eq_none hrelative]

theorem omitted_without_source_functionsAndSite :
    ({} : Config).validate = .ok ()
      ∧ Discovery.PlainlyNamed functionsAndSite "/p".toList {}
      ∧ ∃ m left, Ends functionsAndSite "/p".toList {} (Import.resolver 1) m left
        ∧ m.omitted.map Omission.outputName = ["api/dist/index".toList]
        ∧ ∀ omission ∈ m.omitted, omission.reason = .noSourcePath omission.entrypoint := by
  have hplain : Discovery.PlainlyNamed functionsAndSite "/p".toList {} := by decide +kernel
  obtain ⟨m, hm, hlook⟩ := exists_manifest functionsAndSite "/p".toList {} (Import.resolver 1)
    (fun m => m.omitted.map Omission.outputName)
    (show _ = some ["api/dist/index".toList] by decide +kernel)
  obtain ⟨left, hends⟩ := exists_ends hm
  obtain ⟨d, -, homitted, -⟩ := omitted_without_source rfl hplain hends
  refine ⟨rfl, hplain, m, left, hends, hlook, fun omission homission => ?_⟩
  rw [homitted] at homission
  obtain ⟨entry, -, rfl⟩ := List.mem_map.1 homission
  rfl

/-! ## The files of a unit -/

theorem mem_requests_process {entry : FunctionEntry} {unit : FunctionUnit}
    {warnings : List Warning} (h : Yields source (process s entry) (.packaged unit, warnings))
    {p : Path} {f : ProjectFile} (hp : unit.files.find? p = some f) :
    p ∈ (process s entry).run.requests source := by
  obtain ⟨trace, htrace, h⟩ := yields_bind.1 h
  obtain ⟨result, hresult, h⟩ := yields_bind.1 h
  unfold process
  rw [requests_run_bind htrace, requests_run_bind hresult, requests_run_lift]
  refine List.mem_append_right _ (List.mem_append_left _ ?_)
  cases result with
  | ok unit' =>
    cases yields_pure.1 h
    exact FunctionUnit.mem_requests_package (yields_lift.1 hresult) hp
  | error e =>
    dsimp only at h
    split at h
    · exact absurd h not_yields_throw
    · cases yields_pure.1 h

theorem mem_requests_processAll {entry : FunctionEntry} {p : Path}
    (hp : p ∈ (process s entry).run.requests (Snapshot.source t s.project)) :
    ∀ {entries : List FunctionEntry} {results : List Result},
      (processAll s entries).answer (Snapshot.source t s.project) = .ok results →
      entry ∈ entries → p ∈ (processAll s entries).requests (Snapshot.source t s.project)
  | entry' :: entries, results, h, hmem => by
    unfold processAll at h ⊢
    rw [answer_bind] at h
    rw [requests_bind]
    rcases halone : (process s entry').run.answer (Snapshot.source t s.project) with stray | result
    · rw [halone] at h
      cases h
    · simp only [halone, Except.bind] at h ⊢
      rcases List.mem_cons.1 hmem with rfl | hmem
      · exact List.mem_append_left _ hp
      · refine List.mem_append_right _ ?_
        rw [answer_bind] at h
        rw [requests_bind]
        rcases hlater : (processAll s entries).answer (Snapshot.source t s.project)
          with stray | later
        · rw [hlater] at h
          cases h
        · exact List.mem_append_left _ (mem_requests_processAll hp hlater hmem)

/-- What a function asks for, whatever its turn, the snapshot that the run leaves remembers. -/
theorem remembered_of_requested {resolver : Resolver} {m : Manifest} {left : Snapshot}
    (h : Ends t project config resolver m left) (hs : prepare project config resolver = .ok s)
    (hd : Yields (Snapshot.source t project) (Discovery.run t project config.layout) d)
    {entry : FunctionEntry} (hentry : entry ∈ d.entries) {p key : Path} {f : ProjectFile}
    (hp : p ∈ (process s entry).run.requests (Snapshot.source t project))
    (hkey : p.normalize = some key) (hload : Snapshot.load t project key = .ok (some f)) :
    left.entries.find? key = some (some f) := by
  have hproject := prepare_project hs
  cases h with
  | oneByOne _ hrun =>
    -- The run asks for all that its functions ask for, and remembers what it was told.
    obtain ⟨s', d', results, hs', hd', hgather, -⟩ := sequential_eq_ok (congrArg Prod.fst hrun)
    rw [Snapshot.run_new] at hd'
    cases hs.symm.trans hs'
    cases hd.unique hd'
    have hanswer : (processAll s d.entries).answer (Snapshot.source t s.project) = .ok results :=
      (answer_processAll t s d.entries).trans hgather
    rw [← hproject] at hp
    have hrequest := mem_requests_processAll hp hanswer hentry
    rw [hproject] at hrequest hanswer
    have hprepare : Yields (Snapshot.source t project)
        (ExceptT.mk (.done (prepare project config resolver))) s := by
      rw [hs]
      rfl
    have hasked : p ∈ (run t project config resolver).run.requests (Snapshot.source t project) := by
      unfold run
      rw [requests_run_bind hprepare, requests_run_bind (yields_adapt.2 hd),
        requests_run_bind (yields_lift.2 hanswer), requests_run_lift]
      exact List.mem_append_right _ (List.mem_append_right _ (List.mem_append_left _ hrequest))
    have hleft := (Snapshot.coherent_new t project).find?_run_requests hkey hload _ hasked
    rw [hrun] at hleft
    exact hleft
  | sideBySide _ hrun =>
    -- The pool starts at what discovery left, and no worker that has ended waits for an answer.
    obtain ⟨s', d', first, outcomes, hs', hfirst, houtcomes, hleft⟩ := pool_of_runPooled hrun
    obtain ⟨-, hcoherent, hroot⟩ := (Snapshot.coherent_new t project).run
      (Discovery.run t project config.layout).run
    have hd' : Yields (Snapshot.source t project) (Discovery.run t project config.layout) d' :=
      (Snapshot.run_new t project _).symm.trans (congrArg Prod.fst hfirst)
    cases hs.symm.trans hs'
    cases hd.unique hd'
    rw [hfirst] at hcoherent hroot
    have hroot : first.root = project := hroot
    rw [hleft]
    rw [← hroot] at hp hload
    exact Pool.find?_of_results? hcoherent houtcomes (List.mem_map_of_mem hentry) hp hkey hload

/-- The snapshot that a run leaves remembers every file of every unit. -/
theorem remembered_of_packaged {resolver : Resolver} {m : Manifest} {left : Snapshot}
    (h : Ends t project config resolver m left) (hs : prepare project config resolver = .ok s)
    (hd : Yields (Snapshot.source t project) (Discovery.run t project config.layout) d)
    {entry : FunctionEntry} (hentry : entry ∈ d.entries) {unit : FunctionUnit}
    {warnings : List Warning} (hunit : alone t s entry = .ok (.ok (.packaged unit, warnings)))
    {p : Path} {f : ProjectFile} (hp : unit.files.find? p = some f) :
    p.normalize = some f.path ∧ left.entries.find? f.path = some (some f) := by
  have hproject := prepare_project hs
  obtain ⟨trace, -, hpackage, -⟩ := exists_trace_of_packaged hunit
  obtain ⟨-, hf⟩ := ((FunctionUnit.yields_package hpackage).2 p f).1 hp
  rw [alone_eq] at hunit
  have hasked := mem_requests_process hunit hp
  rw [hproject] at hf hasked
  have hkey := Snapshot.path_of_source hf
  have hload : Snapshot.load t project f.path = .ok (some f) :=
    (Snapshot.source_of_some hkey).symm.trans hf
  exact ⟨hkey, remembered_of_requested h hs hd hentry hasked hkey hload⟩

/-- With plain names the files of every unit are those of the resolution of its entrypoint, an
excluded entrypoint included, and each is the file that the snapshot of the run has under the
normal form of its path. -/
theorem files_of_unit {m : Manifest} {left : Snapshot} (hvalid : config.validate = .ok ())
    (hplain : Discovery.PlainlyNamed t project config.layout)
    (h : Ends t project config (Import.resolver limit) m left) :
    ∃ s d, prepare project config (Import.resolver limit) = .ok s
      ∧ ((Snapshot.new project).run t (Discovery.run t project config.layout).run).1 = .ok (.ok d)
      ∧ ∀ name unit, m.outputs.find? name = some (.function unit) →
        ∃ entry ∈ d.entries, entry.outputName = name
          ∧ ∃ r, ((Snapshot.new project).run t (Import.resolver limit { exclude := s.exclude }
              entry.relativeEntrypoint).run).1 = .ok (.ok r)
            ∧ (∀ p, p ∈ unit.files.keys ↔ p ∈ r.sourceFiles ∨ p ∈ r.moduleFiles)
            ∧ ∀ p f, unit.files.find? p = some f → p.normalize = some f.path
              ∧ left.entries.find? f.path = some (some f) := by
  obtain ⟨s, d, assets, accounts, hs, hd, -, hentries, hall, hgather, houtputs, -, -⟩ :=
    exists_accounts h.sequential
  have hyields : Yields (Snapshot.source t project) (Discovery.run t project config.layout) d :=
    (Snapshot.run_new t project _).symm.trans hd
  refine ⟨s, d, hs, hd, fun name unit hunit => ?_⟩
  obtain ⟨a, ha, hname, houtcome⟩ : ∃ a ∈ accounts, a.entry.outputName = name
      ∧ a.outcome = .packaged unit := by
    rcases (find?_iff_of_perm houtputs).1 hunit with ⟨a, ha, hout⟩ | ⟨asset, -, hstatic⟩
    · unfold Account.output? at hout
      rcases houtcome : a.outcome with unit' | reason
      · rw [houtcome] at hout
        cases hout
        exact ⟨a, ha, rfl, houtcome⟩
      · rw [houtcome] at hout
        cases hout
    · cases hstatic
  have hentry : a.entry ∈ d.entries := by
    rw [← hentries]
    exact List.mem_map_of_mem ha
  obtain ⟨dirs, names, r, hlocated, hr, htrace⟩ :=
    exists_resolution_of_holds hvalid hplain hs hyields (hall a ha) hentry
  have hrelative : a.entry.relativeEntrypoint.Normal := by
    rw [hlocated.relative]
    exact Path.normal_joinBy hlocated.isName
  have halone : alone t s a.entry = .ok (.ok (.packaged unit, a.trace.warnings)) := by
    have hresult := (gather_eq_ok hgather).2 _ (List.mem_map_of_mem ha)
    rw [Account.result, houtcome] at hresult
    exact hresult
  have hpackage := (hall a ha).package
  rw [houtcome, prepare_project hs] at hpackage
  refine ⟨a.entry, hentry, hname, r, (Snapshot.run_new t project _).trans hr, fun p => ?_,
    fun p f => remembered_of_packaged h hs hyields hentry halone⟩
  have hfind := (FunctionUnit.yields_package hpackage).2 p
  rw [Catalog.mem_keys_iff, ← Resolution.mem_files, ← Trace.mem_files_iff hrelative hr htrace]
  constructor
  · rintro ⟨f, hf⟩
    exact ((hfind f).1 hf).1
  · intro hp
    obtain ⟨f, hf⟩ : ∃ f, Snapshot.source t project p = .ok (some f) := by
      rcases hp with rfl | hp
      · exact (FunctionUnit.yields_package hpackage).1
      · exact Trace.there_of_mem_files hr htrace p hp
    exact ⟨f, (hfind f).2 ⟨hp, hf⟩⟩

/-- A function that asks for a helper. -/
def withHelper : Tree :=
  ((oneFunction "require('./lib/b.js')").put
    ["p".toList, "api".toList, "dist".toList, "functions".toList, "lib".toList] .dir).put
      ["p".toList, "api".toList, "dist".toList, "functions".toList, "lib".toList, "b.js".toList]
      (.file ByteArray.empty 0o644)

/-- A configuration that excludes the function and packages side by side. -/
def excludingFunction : Config :=
  { functions := { exclude := ["a.js".toList] }, parallel := true }

theorem files_of_unit_withHelper :
    excludingFunction.validate = .ok ()
      ∧ Discovery.PlainlyNamed withHelper "/p".toList excludingFunction.layout
      ∧ ∃ m left unit, Ends withHelper "/p".toList excludingFunction (Import.resolver 2) m left
        ∧ m.outputs.find? "api/a".toList = some (.function unit)
        ∧ unit.files.keys
          = ["api/dist/functions/a.js".toList, "api/dist/functions/lib/b.js".toList]
        ∧ ∃ s, prepare "/p".toList excludingFunction (Import.resolver 2) = .ok s
          ∧ s.exclude.check "api/dist/functions/a.js".toList = .ok true
          ∧ ∃ entrypoint r, ((Snapshot.new "/p".toList).run withHelper
              (Import.resolver 2 { exclude := s.exclude } entrypoint).run).1 = .ok (.ok r)
            ∧ ∀ p, p ∈ unit.files.keys ↔ p ∈ r.sourceFiles ∨ p ∈ r.moduleFiles := by
  have hplain : Discovery.PlainlyNamed withHelper "/p".toList excludingFunction.layout := by
    decide +kernel
  obtain ⟨m, hm, hlook⟩ := exists_manifest withHelper "/p".toList excludingFunction
    (Import.resolver 2)
    (fun m => ((m.outputs.find? "api/a".toList).bind Output.function?).map (·.files.keys))
    (show _ = some (some
        ["api/dist/functions/a.js".toList, "api/dist/functions/lib/b.js".toList]) by
      decide +kernel)
  obtain ⟨unit, hunit, hkeys⟩ := Option.map_eq_some_iff.1 hlook
  obtain ⟨output, houtput, hunit⟩ := Option.bind_eq_some_iff.1 hunit
  obtain ⟨left, hends⟩ := exists_ends hm
  obtain ⟨s, d, hs, -, hall⟩ := files_of_unit rfl hplain hends
  have hexcluded : (prepare "/p".toList excludingFunction (Import.resolver 2)).toOption.map
      (fun s => s.exclude.check "api/dist/functions/a.js".toList) = some (.ok true) := by
    decide +kernel
  rw [hs] at hexcluded
  cases output with
  | static asset => cases hunit
  | function unit' =>
    cases hunit
    obtain ⟨entry, -, -, r, hr, hfiles, -⟩ := hall _ _ houtput
    exact ⟨rfl, hplain, m, left, unit, hends, houtput, hkeys, s, hs, Option.some.inj hexcluded,
      entry.relativeEntrypoint, r, hr, hfiles⟩

end Pipeline

end AppBundle
