import AppBundle.Proofs.Pooled

/-!
# What a run puts into its manifest

The merge adds to a manifest and takes nothing out of it: what is filed under a name stays there
(`find?_mergeFunctions`, `find?_mergeStatics`). So a run that ends with a manifest has in it every
function that was packaged, under its own name (`find?_of_packaged`).
-/

namespace AppBundle

namespace Pipeline

open Reading

variable {t : Tree} {project : Path} {config : Config} {resolver : Resolver} {s : Setting}

theorem find?_insert_fresh {m : Manifest} {name other : Text} {o o' : Output}
    (hfresh : ∀ taken ∈ m.outputs.keys, Text.foldCase taken ≠ Text.foldCase name)
    (h : m.outputs.find? other = some o) : (m.outputs.insert name o').find? other = some o := by
  rw [Catalog.find?_insert, if_neg, h]
  rintro rfl
  exact hfresh other (Catalog.mem_keys_iff.2 ⟨o, h⟩) rfl

theorem mergeFunctions_omitted (m : Manifest) (entry : FunctionEntry) (reason : PackageError)
    (warnings : List Warning) (rest : List Result) :
    mergeFunctions m ((entry, .ok (.omitted reason, warnings)) :: rest)
      = mergeFunctions { m with
          warnings := m.warnings ++ warnings
          omitted := m.omitted ++ [⟨entry.outputName, entry.entrypoint, reason⟩] } rest := rfl

theorem find?_mergeFunctions : ∀ {results : List Result} {m m' : Manifest},
    mergeFunctions m results = .ok m' → ∀ {name : Text} {o : Output},
      m.outputs.find? name = some o → m'.outputs.find? name = some o
  | [], m, m', h, name, o, ho => by
    cases h
    exact ho
  | (entry, result) :: rest, m, m', h, name, o, ho => by
    rcases result with e | ⟨unit | reason, warnings⟩
    · cases h
    · rcases hex : existing? { m with warnings := m.warnings ++ warnings } entry.outputName
        with _ | existing
      · rw [mergeFunctions_fresh rest hex] at h
        exact find?_mergeFunctions h (find?_insert_fresh (existing?_eq_none hex) ho)
      · rw [mergeFunctions_taken rest hex] at h
        cases h
    · rw [mergeFunctions_omitted] at h
      exact find?_mergeFunctions h ho

/-- A function that was packaged is filed under its name. -/
theorem find?_of_mem_results {entry : FunctionEntry} {unit : FunctionUnit}
    {warnings : List Warning} : ∀ {results : List Result} {m m' : Manifest},
    mergeFunctions m results = .ok m' → (entry, .ok (.packaged unit, warnings)) ∈ results →
      m'.outputs.find? entry.outputName = some (.function unit)
  | (entry', result) :: rest, m, m', h, hmem => by
    rcases result with e | ⟨unit' | reason, warnings'⟩
    · cases h
    · rcases hex : existing? { m with warnings := m.warnings ++ warnings' } entry'.outputName
        with _ | existing
      · rw [mergeFunctions_fresh rest hex] at h
        rcases List.mem_cons.1 hmem with heq | hmem
        · cases heq
          exact find?_mergeFunctions h (by simp)
        · exact find?_of_mem_results h hmem
      · rw [mergeFunctions_taken rest hex] at h
        cases h
    · rw [mergeFunctions_omitted] at h
      rcases List.mem_cons.1 hmem with heq | hmem
      · cases heq
      · exact find?_of_mem_results h hmem

theorem find?_mergeStatics : ∀ {assets : List (Text × StaticAsset)} {m m' : Manifest},
    mergeStatics m assets = .ok m' → ∀ {name : Text} {o : Output},
      m.outputs.find? name = some o → m'.outputs.find? name = some o
  | [], m, m', h, name, o, ho => by
    cases h
    exact ho
  | (other, asset) :: rest, m, m', h, name, o, ho => by
    unfold mergeStatics at h
    split at h
    · cases h
    · rename_i hfree
      refine find?_mergeStatics h ?_
      rw [Catalog.find?_insert, if_neg, ho]
      rintro rfl
      simp [Catalog.contains, ho] at hfree

theorem mem_of_gather {entry : FunctionEntry} {result : Processed}
    (hresult : alone t s entry = .ok result) : ∀ {entries : List FunctionEntry}
      {results : List Result}, gather entries (entries.map (alone t s)) = .ok results →
      entry ∈ entries → (entry, result) ∈ results
  | entry' :: entries, results, h, hmem => by
    rw [List.map_cons, gather] at h
    obtain ⟨result', hresult', h⟩ := bind_eq_ok.1 h
    obtain ⟨later, hlater, h⟩ := bind_eq_ok.1 h
    cases h
    rcases List.mem_cons.1 hmem with rfl | hmem
    · cases hresult.symm.trans hresult'
      exact List.mem_cons_self
    · exact List.mem_cons_of_mem _ (mem_of_gather hresult hlater hmem)

/-- A run that ends with a manifest discovered functions and merged what each comes to alone. -/
theorem sequential_eq_ok {m : Manifest} (h : sequential t project config resolver = .ok (.ok m)) :
    ∃ s d results, prepare project config resolver = .ok s
      ∧ ((Snapshot.new project).run t (Discovery.run t project config.layout).run).1 = .ok (.ok d)
      ∧ gather d.entries (d.entries.map (alone t s)) = .ok results
      ∧ assemble t s d results = .ok m := by
  rw [sequential_eq] at h
  rcases hs : prepare project config resolver with e | s
  · simp [hs] at h
  · rcases hd : ((Snapshot.new project).run t (Discovery.run t project config.layout).run).1
      with stray | e | d
    · simp [hs, hd] at h
    · simp [hs, hd] at h
    · simp only [hs, hd] at h
      rcases hg : gather d.entries (d.entries.map (alone t s)) with stray | results
      · rw [hg] at h
        cases h
      · rw [hg] at h
        exact ⟨s, d, results, rfl, rfl, hg, Except.ok.inj h⟩

theorem assemble_eq_ok {d : Discovery} {results : List Result} {m : Manifest}
    (h : assemble t s d results = .ok m) :
    ∃ functions assets all routes,
      mergeFunctions { warnings := d.warnings s.config.layout } results = .ok functions
      ∧ StaticAsset.classify t (s.project.resolveFrom s.config.layout.staticDir) = .ok assets
      ∧ mergeStatics functions assets.entries = .ok all
      ∧ Route.synthesize t [] (s.project.resolveFrom s.config.layout.staticDir) s.config.routes
        = .ok routes
      ∧ m = { all with routes } := by
  obtain ⟨functions, hfunctions, h⟩ := bind_eq_ok.1 h
  obtain ⟨assets, hassets, h⟩ := bind_eq_ok.1 h
  obtain ⟨all, hall, h⟩ := bind_eq_ok.1 h
  obtain ⟨routes, hroutes, h⟩ := bind_eq_ok.1 h
  cases h
  exact ⟨functions, assets, all, routes, hfunctions, mapError_eq_ok.1 hassets, hall,
    mapError_eq_ok.1 hroutes, rfl⟩

/-- What packaging a function came to. -/
def Outcome.packaging : Outcome → Except PackageError FunctionUnit
  | packaged unit => .ok unit
  | omitted reason => .error reason

/-- A function that ends alone was traced and then packaged with that trace, without a fatal
error. -/
theorem exists_trace_of_ended {entry : FunctionEntry} {outcome : Outcome}
    {warnings : List Warning} (h : alone t s entry = .ok (.ok (outcome, warnings))) :
    ∃ trace, Yields (Snapshot.source t s.project)
        (Trace.entrypoint s.resolver s.project s.exclude entry.entrypoint) trace
      ∧ (FunctionUnit.package s.config.layout s.config.functions.handlerExport s.limits entry
        trace).run.answer (Snapshot.source t s.project) = .ok outcome.packaging
      ∧ (∀ reason, outcome = .omitted reason → reason.isFatal = false)
      ∧ warnings = trace.warnings := by
  rw [alone_eq] at h
  have hprocess : Yields (Snapshot.source t s.project) (process s entry) (outcome, warnings) := h
  obtain ⟨trace, htrace, hprocess⟩ := yields_bind.1 hprocess
  obtain ⟨result, hresult, hprocess⟩ := yields_bind.1 hprocess
  have hpackage := yields_lift.1 hresult
  refine ⟨trace, yields_adapt.1 htrace, ?_⟩
  cases result with
  | ok unit =>
    cases yields_pure.1 hprocess
    exact ⟨hpackage, by simp, rfl⟩
  | error e =>
    dsimp only at hprocess
    split at hprocess
    · exact absurd hprocess not_yields_throw
    · rename_i hspared
      cases yields_pure.1 hprocess
      exact ⟨hpackage, by simpa using hspared, rfl⟩

/-- A function that is packaged alone was traced, and its unit is packaged with that trace. -/
theorem exists_trace_of_packaged {entry : FunctionEntry} {unit : FunctionUnit}
    {warnings : List Warning} (h : alone t s entry = .ok (.ok (.packaged unit, warnings))) :
    ∃ trace, Yields (Snapshot.source t s.project)
        (Trace.entrypoint s.resolver s.project s.exclude entry.entrypoint) trace
      ∧ Yields (Snapshot.source t s.project) (FunctionUnit.package s.config.layout
        s.config.functions.handlerExport s.limits entry trace) unit
      ∧ warnings = trace.warnings := by
  obtain ⟨trace, htrace, hpackage, -, hwarnings⟩ := exists_trace_of_ended h
  exact ⟨trace, htrace, hpackage, hwarnings⟩

/-- Each function that is packaged is in the manifest, under its own name. -/
theorem find?_of_packaged {m : Manifest} {d : Discovery} {entry : FunctionEntry}
    {unit : FunctionUnit} {warnings : List Warning}
    (h : sequential t project config resolver = .ok (.ok m))
    (hs : prepare project config resolver = .ok s)
    (hd : ((Snapshot.new project).run t (Discovery.run t project config.layout).run).1
      = .ok (.ok d))
    (hentry : entry ∈ d.entries) (hunit : alone t s entry = .ok (.ok (.packaged unit, warnings))) :
    m.outputs.find? entry.outputName = some (.function unit) := by
  obtain ⟨s', d', results, hs', hd', hgather, hm⟩ := sequential_eq_ok h
  cases hs.symm.trans hs'
  cases hd.symm.trans hd'
  obtain ⟨functions, assets, all, routes, hfunctions, -, hall, -, rfl⟩ := assemble_eq_ok hm
  have hmem := mem_of_gather hunit hgather hentry
  exact find?_mergeStatics hall (find?_of_mem_results hfunctions hmem)

end Pipeline

end AppBundle
