import AppBundle.Proofs.Assembly
import AppBundle.Proofs.Links

/-!
# What a manifest accounts for

The merge goes through the functions in the order of discovery. Of each it takes one thing, a unit
or an omission, and the warnings of its trace (`mergeFunctions_accounts`). It stops before a name
that is taken, so that no output replaces another: the outputs of a manifest are, in some order,
all that were put in (`outputs_account`).
-/

namespace AppBundle

namespace Catalog

variable {κ β : Type} [LT κ] [DecidableLT κ] [DecidableEq κ]

theorem perm_insertEntry {k : κ} {v : β} : ∀ {es : List (κ × β)}, es.lookup k = none →
    (insertEntry k v es).Perm ((k, v) :: es)
  | [], _ => .refl _
  | (k', v') :: rest, h => by
    have hall : ∀ e ∈ (k', v') :: rest, ¬ k = e.1 := by simpa using List.lookup_eq_none_iff.1 h
    have hne : ¬ k = k' := hall _ List.mem_cons_self
    have hrest : rest.lookup k = none :=
      List.lookup_eq_none_iff.2 fun e he => by simpa using hall e (List.mem_cons_of_mem _ he)
    simp only [insertEntry, if_neg hne]
    split
    · exact .refl _
    · exact ((perm_insertEntry hrest).cons _).trans (.swap _ _ _)

theorem perm_insert [KeyOrder κ] {c : Catalog κ β} {k : κ} (v : β) (h : c.find? k = none) :
    (c.insert k v).entries.Perm ((k, v) :: c.entries) := perm_insertEntry h

omit [DecidableLT κ] [DecidableEq κ] in
theorem nodup_keys [Std.Irrefl fun a b : κ => a < b] (c : Catalog κ β) : c.keys.Nodup := by
  refine c.ascending.imp fun {a b} hlt => ?_
  rintro rfl
  exact Std.Irrefl.irrefl (r := fun a b : κ => a < b) a hlt

omit [DecidableLT κ] in
theorem find?_eq_some_iff_mem [Std.Irrefl fun a b : κ => a < b] {c : Catalog κ β} {k : κ} {v : β} :
    c.find? k = some v ↔ (k, v) ∈ c.entries := by
  have hmem : ∀ {w : β}, c.find? k = some w → (k, w) ∈ c.entries := by
    intro w hw
    obtain ⟨before, after, heq, -⟩ := List.lookup_eq_some_iff.1 hw
    simp [heq]
  refine ⟨hmem, fun h => ?_⟩
  obtain ⟨w, hw⟩ := mem_keys_iff.1 (List.mem_map_of_mem h : k ∈ c.keys)
  have hsame : (k, v) = (k, w) := List.inj_on_of_nodup_map c.nodup_keys h (hmem hw) rfl
  cases hsame
  exact hw

end Catalog

namespace Pipeline

open Reading

/-! ## Runs that end with a manifest -/

section Ends

variable {t : Tree} {project : Path} {config : Config} {resolver : Resolver} {m : Manifest}
  {left : Snapshot} {schedule : List Turn}

/-- The snapshot that a run leaves which processes its functions side by side. -/
def leftPooled (t : Tree) (project : Path) (config : Config) (resolver : Resolver)
    (schedule : List Turn) : Snapshot :=
  match prepare project config resolver with
  | .error _ => Snapshot.new project
  | .ok s =>
    match (Snapshot.new project).run t (Discovery.run t project config.layout).run with
    | (.ok (.ok d), snapshot) => (pool t s d snapshot schedule).snapshot
    | (_, snapshot) => snapshot

/-- The run ends with a manifest and leaves a snapshot in the way that its configuration asks for:
one function after the other, or side by side with turns in some order. -/
inductive Ends (t : Tree) (project : Path) (config : Config) (resolver : Resolver) :
    Manifest → Snapshot → Prop
  | oneByOne {m : Manifest} {left : Snapshot} (hparallel : config.parallel = false)
      (h : (Snapshot.new project).run t (run t project config resolver).run
        = (.ok (.ok m), left)) : Ends t project config resolver m left
  | sideBySide {m : Manifest} {schedule : List Turn} (hparallel : config.parallel = true)
      (h : runPooled t project config resolver schedule = some (.ok (.ok m))) :
      Ends t project config resolver m (leftPooled t project config resolver schedule)

theorem Ends.sequential (h : Ends t project config resolver m left) :
    sequential t project config resolver = .ok (.ok m) := by
  cases h with
  | oneByOne _ h => exact congrArg Prod.fst h
  | sideBySide _ h => exact (runPooled_eq h).symm

/-- Side by side a run ends as it does one after the other once every function had its turns. -/
theorem exists_runPooled (t : Tree) (project : Path) (config : Config) (resolver : Resolver) :
    ∃ schedule, runPooled t project config resolver schedule
      = some (sequential t project config resolver) := by
  obtain ⟨functions, turns, hturns⟩ := exists_turns t project config resolver
  -- The turns are dealt out one function after the other.
  have hcount : ∀ i < functions, turns ≤ ((List.range functions).flatMap fun i =>
      List.replicate turns (Turn.worker i)).count (.worker i) := by
    intro i hi
    have hsublist := List.sublist_flatten_of_mem
      (List.mem_map_of_mem (f := fun i => List.replicate turns (Turn.worker i))
        (List.mem_range.2 hi))
    have hle := hsublist.count_le (.worker i)
    rwa [List.count_replicate_self] at hle
  obtain ⟨o, ho⟩ := Option.isSome_iff_exists.1 (hturns _ hcount)
  exact ⟨_, ho.trans (congrArg some (runPooled_eq ho))⟩

theorem exists_ends (h : sequential t project config resolver = .ok (.ok m)) :
    ∃ left, Ends t project config resolver m left := by
  rcases hparallel : config.parallel with _ | _
  · exact ⟨_, .oneByOne hparallel (Prod.ext h rfl)⟩
  · obtain ⟨schedule, hschedule⟩ := exists_runPooled t project config resolver
    exact ⟨_, .sideBySide hparallel (hschedule.trans (congrArg some h))⟩

/-- A run that ended side by side ended at a pool whose functions have all ended. -/
theorem pool_of_runPooled (h : runPooled t project config resolver schedule = some (.ok (.ok m))) :
    ∃ s d first outcomes, prepare project config resolver = .ok s
      ∧ (Snapshot.new project).run t (Discovery.run t project config.layout).run
        = (.ok (.ok d), first)
      ∧ (pool t s d first schedule).results? = some outcomes
      ∧ leftPooled t project config resolver schedule = (pool t s d first schedule).snapshot := by
  unfold runPooled at h
  unfold leftPooled
  rcases hs : prepare project config resolver with e | s
  · rw [hs] at h
    cases h
  · rw [hs] at h
    rcases hd : (Snapshot.new project).run t (Discovery.run t project config.layout).run
      with ⟨stray | e | d, first⟩
    · rw [hd] at h
      cases h
    · rw [hd] at h
      cases h
    · rw [hd] at h
      obtain ⟨outcomes, ho, -⟩ := Option.map_eq_some_iff.1 h
      exact ⟨s, d, first, outcomes, rfl, rfl, ho, rfl⟩

end Ends

/-! ## Accounts -/

/-- A function with the trace it was packaged with and what became of it. -/
structure Account where
  entry : FunctionEntry
  trace : Trace
  outcome : Outcome

namespace Account

/-- The output that the function becomes, under its name. -/
def output? (a : Account) : Option (Text × Output) :=
  match a.outcome with
  | .packaged unit => some (a.entry.outputName, .function unit)
  | .omitted _ => none

def omission? (a : Account) : Option Omission :=
  match a.outcome with
  | .packaged _ => none
  | .omitted reason => some ⟨a.entry.outputName, a.entry.entrypoint, reason⟩

def result (a : Account) : Result := (a.entry, .ok (a.outcome, a.trace.warnings))

/-- Through snapshots that have seen nothing the function has this trace, and packaging it with
this trace comes to this. -/
structure Holds (t : Tree) (s : Setting) (a : Account) : Prop where
  traced : ((Snapshot.new s.project).run t
    (Trace.entrypoint s.resolver s.project s.exclude a.entry.entrypoint).run).1 = .ok (.ok a.trace)
  ended : ((Snapshot.new s.project).run t (FunctionUnit.package s.config.layout
    s.config.functions.handlerExport s.limits a.entry a.trace).run).1 = .ok a.outcome.packaging
  spared : ∀ reason, a.outcome = .omitted reason → reason.isFatal = false

end Account

/-- A static asset as an output under its name. -/
def staticOutput (asset : Text × StaticAsset) : Text × Output := (asset.1, .static asset.2)

variable {t : Tree} {project : Path} {config : Config} {resolver : Resolver} {s : Setting}

theorem exists_account {entry : FunctionEntry} {outcome : Outcome} {warnings : List Warning}
    (h : alone t s entry = .ok (.ok (outcome, warnings))) :
    ∃ a : Account, a.Holds t s ∧ a.result = (entry, .ok (outcome, warnings)) := by
  obtain ⟨trace, htrace, hpackage, hspared, rfl⟩ := exists_trace_of_ended h
  refine ⟨⟨entry, trace, outcome⟩, ⟨?_, ?_, hspared⟩, rfl⟩
  · rw [Snapshot.run_new]
    exact htrace
  · rw [Snapshot.run_new]
    exact hpackage

theorem gather_eq_ok : ∀ {entries : List FunctionEntry} {results : List Result},
    gather entries (entries.map (alone t s)) = .ok results →
      results.map Prod.fst = entries ∧ ∀ r ∈ results, alone t s r.1 = .ok r.2
  | [], results, h => by
    cases h
    simp
  | entry :: entries, results, h => by
    rw [List.map_cons, gather] at h
    obtain ⟨result, hresult, h⟩ := bind_eq_ok.1 h
    obtain ⟨later, hlater, h⟩ := bind_eq_ok.1 h
    cases h
    obtain ⟨hentries, hall⟩ := gather_eq_ok hlater
    exact ⟨by simp [hentries], List.forall_mem_cons.2 ⟨hresult, hall⟩⟩

theorem ended_of_mergeFunctions : ∀ {results : List Result} {m m' : Manifest},
    mergeFunctions m results = .ok m' → ∀ r ∈ results, ∃ o, r.2 = .ok o
  | [], _, _, _ => by simp
  | (entry, result) :: rest, m, m', h => by
    rcases result with e | ⟨unit | reason, warnings⟩
    · cases h
    · rcases hex : existing? { m with warnings := m.warnings ++ warnings } entry.outputName
        with _ | existing
      · rw [mergeFunctions_fresh rest hex] at h
        exact List.forall_mem_cons.2 ⟨⟨_, rfl⟩, ended_of_mergeFunctions h⟩
      · rw [mergeFunctions_taken rest hex] at h
        cases h
    · rw [mergeFunctions_omitted] at h
      exact List.forall_mem_cons.2 ⟨⟨_, rfl⟩, ended_of_mergeFunctions h⟩

theorem exists_accounts_of_ended : ∀ {results : List Result},
    (∀ r ∈ results, alone t s r.1 = .ok r.2) → (∀ r ∈ results, ∃ o, r.2 = .ok o) →
      ∃ accounts : List Account, accounts.map Account.result = results
        ∧ ∀ a ∈ accounts, a.Holds t s
  | [], _, _ => ⟨[], rfl, by simp⟩
  | (entry, result) :: rest, halone, hended => by
    obtain ⟨hfirst, hrest⟩ := List.forall_mem_cons.1 halone
    obtain ⟨⟨⟨outcome, warnings⟩, rfl⟩, hlater⟩ := List.forall_mem_cons.1 hended
    obtain ⟨a, ha, hresult⟩ := exists_account hfirst
    obtain ⟨accounts, hresults, hall⟩ := exists_accounts_of_ended hrest hlater
    exact ⟨a :: accounts, by simp [hresult, hresults], List.forall_mem_cons.2 ⟨ha, hall⟩⟩

theorem find?_none_of_fresh {m : Manifest} {name : Text}
    (h : ∀ taken ∈ m.outputs.keys, Text.foldCase taken ≠ Text.foldCase name) :
    m.outputs.find? name = none := by
  rcases hfind : m.outputs.find? name with _ | o
  · rfl
  · exact absurd rfl (h name (Catalog.mem_keys_iff.2 ⟨o, hfind⟩))

/-- The merge adds the output, the omission and the warnings of each function, and nothing else. -/
theorem mergeFunctions_accounts : ∀ {accounts : List Account} {m m' : Manifest},
    mergeFunctions m (accounts.map Account.result) = .ok m' →
      m'.outputs.entries.Perm (m.outputs.entries ++ accounts.filterMap Account.output?)
        ∧ m'.omitted = m.omitted ++ accounts.filterMap Account.omission?
        ∧ m'.warnings = m.warnings ++ accounts.flatMap fun a => a.trace.warnings
  | [], m, m', h => by
    cases h
    simp
  | ⟨entry, trace, .omitted reason⟩ :: rest, m, m', h => by
    rw [List.map_cons, Account.result, mergeFunctions_omitted] at h
    obtain ⟨houtputs, homitted, hwarnings⟩ := mergeFunctions_accounts h
    simp only [List.filterMap_cons, List.flatMap_cons, Account.output?, Account.omission?]
    exact ⟨houtputs, by simp [homitted], by simp [hwarnings]⟩
  | ⟨entry, trace, .packaged unit⟩ :: rest, m, m', h => by
    rw [List.map_cons, Account.result] at h
    rcases hex : existing? { m with warnings := m.warnings ++ trace.warnings } entry.outputName
      with _ | existing
    · rw [mergeFunctions_fresh _ hex] at h
      obtain ⟨houtputs, homitted, hwarnings⟩ := mergeFunctions_accounts h
      have hinsert := Catalog.perm_insert (.function unit)
        (find?_none_of_fresh (existing?_eq_none hex))
      simp only [List.filterMap_cons, List.flatMap_cons, Account.output?, Account.omission?]
      refine ⟨?_, homitted, by simp [hwarnings]⟩
      exact houtputs.trans ((hinsert.append_right _).trans List.perm_middle.symm)
    · rw [mergeFunctions_taken _ hex] at h
      cases h

theorem mergeStatics_accounts : ∀ {assets : List (Text × StaticAsset)} {m m' : Manifest},
    mergeStatics m assets = .ok m' →
      m'.outputs.entries.Perm (m.outputs.entries ++ assets.map staticOutput)
        ∧ m'.omitted = m.omitted ∧ m'.warnings = m.warnings
  | [], m, m', h => by
    cases h
    simp
  | (name, asset) :: rest, m, m', h => by
    unfold mergeStatics at h
    split at h
    · cases h
    · rename_i hfree
      have hnone : m.outputs.find? name = none := by simpa [Catalog.contains] using hfree
      have hinsert := Catalog.perm_insert (Output.static asset) hnone
      obtain ⟨houtputs, homitted, hwarnings⟩ := mergeStatics_accounts h
      refine ⟨?_, homitted, hwarnings⟩
      exact houtputs.trans ((hinsert.append_right _).trans List.perm_middle.symm)

/-- A run that ends with a manifest has an account of every function in the order of discovery, and
of these and of the site the manifest is made. -/
theorem exists_accounts {m : Manifest} (h : sequential t project config resolver = .ok (.ok m)) :
    ∃ s d assets, ∃ accounts : List Account, prepare project config resolver = .ok s
      ∧ ((Snapshot.new project).run t (Discovery.run t project config.layout).run).1 = .ok (.ok d)
      ∧ StaticAsset.classify t (project.resolveFrom config.layout.staticDir) = .ok assets
      ∧ accounts.map Account.entry = d.entries ∧ (∀ a ∈ accounts, a.Holds t s)
      ∧ gather d.entries (d.entries.map (alone t s)) = .ok (accounts.map Account.result)
      ∧ m.outputs.entries.Perm
        (accounts.filterMap Account.output? ++ assets.entries.map staticOutput)
      ∧ m.omitted = accounts.filterMap Account.omission?
      ∧ m.warnings = d.warnings config.layout ++ accounts.flatMap fun a => a.trace.warnings := by
  obtain ⟨s, d, results, hs, hd, hgather, hm⟩ := sequential_eq_ok h
  obtain ⟨functions, assets, all, routes, hfunctions, hassets, hall, -, rfl⟩ := assemble_eq_ok hm
  obtain ⟨hentries, halone⟩ := gather_eq_ok hgather
  obtain ⟨accounts, rfl, haccounts⟩ :=
    exists_accounts_of_ended halone (ended_of_mergeFunctions hfunctions)
  obtain ⟨houtputs, homitted, hwarnings⟩ := mergeFunctions_accounts hfunctions
  obtain ⟨hstatics, hnone, hsilent⟩ := mergeStatics_accounts hall
  obtain ⟨exclude, limits, -, -, rfl⟩ := prepare_eq_ok hs
  refine ⟨_, d, assets, accounts, hs, hd, hassets, ?_, haccounts, hgather, ?_, ?_, ?_⟩
  · rw [← hentries, List.map_map]
    rfl
  · exact hstatics.trans (houtputs.append_right _)
  · exact hnone.trans homitted
  · exact hsilent.trans hwarnings

theorem find?_iff_of_perm {m : Manifest} {accounts : List Account}
    {assets : Catalog Text StaticAsset}
    (h : m.outputs.entries.Perm
      (accounts.filterMap Account.output? ++ assets.entries.map staticOutput))
    {name : Text} {output : Output} : m.outputs.find? name = some output
      ↔ (∃ a ∈ accounts, a.output? = some (name, output))
        ∨ ∃ asset, assets.find? name = some asset ∧ output = .static asset := by
  have hstatic : (name, output) ∈ assets.entries.map staticOutput
      ↔ ∃ asset, assets.find? name = some asset ∧ output = .static asset := by
    simp only [Catalog.find?_eq_some_iff_mem]
    simp [staticOutput, eq_comm]
  rw [Catalog.find?_eq_some_iff_mem, h.mem_iff, List.mem_append, List.mem_filterMap, hstatic]

/-- A function of a manifest is one that was discovered, and its unit is the one that it comes to
alone. -/
theorem exists_account_of_function {m : Manifest} {left : Snapshot}
    (h : Ends t project config resolver m left) {name : Text} {unit : FunctionUnit}
    (hunit : m.outputs.find? name = some (.function unit)) :
    ∃ s d, ∃ a : Account, prepare project config resolver = .ok s
      ∧ ((Snapshot.new project).run t (Discovery.run t project config.layout).run).1 = .ok (.ok d)
      ∧ a.entry ∈ d.entries ∧ a.Holds t s ∧ a.entry.outputName = name
      ∧ a.outcome = .packaged unit
      ∧ alone t s a.entry = .ok (.ok (.packaged unit, a.trace.warnings)) := by
  obtain ⟨s, d, assets, accounts, hs, hd, -, hentries, hall, hgather, houtputs, -, -⟩ :=
    exists_accounts h.sequential
  rcases (find?_iff_of_perm houtputs).1 hunit with ⟨a, ha, hout⟩ | ⟨asset, -, hstatic⟩
  · have hentry : a.entry ∈ d.entries := hentries ▸ List.mem_map_of_mem ha
    have hresult := (gather_eq_ok hgather).2 _ (List.mem_map_of_mem ha)
    unfold Account.output? at hout
    split at hout
    · rename_i houtcome
      cases hout
      rw [Account.result, houtcome] at hresult
      exact ⟨s, d, a, hs, hd, hentry, hall a ha, rfl, houtcome, hresult⟩
    · cases hout
  · cases hstatic

/-- The snapshot that discovery left is one that is true to the tree, so that the functions of a
run come to the same through it as each through a snapshot of its own. -/
theorem processAll_after_discovery {d : Discovery} (hproject : s.project = project)
    (results : List Result) (h : gather d.entries (d.entries.map (alone t s)) = .ok results) :
    (((Snapshot.new project).run t (Discovery.run t project config.layout).run).2.run t
      (processAll s d.entries)).1 = .ok results := by
  obtain ⟨-, hcoherent, hroot⟩ := (Snapshot.coherent_new t project).run
    (Discovery.run t project config.layout).run
  obtain ⟨hanswer, -, -⟩ := hcoherent.run (processAll s d.entries)
  rw [hanswer, hroot, ← h, ← answer_processAll, hproject]
  rfl

/-- A run that ends with a manifest, with its functions one after the other or side by side,
accounts for every function once, in the order of discovery: it has a trace and came to a unit or
an omission, through the one snapshot of the run as through one of its own. The outputs are the
units under the names of their functions and the assets of the site under theirs, no two under one
name and no others; the omissions and the warnings stand in the order of discovery. -/
theorem outputs_account {m : Manifest} {left : Snapshot}
    (h : Ends t project config resolver m left) :
    ∃ s d assets, ∃ accounts : List Account, prepare project config resolver = .ok s
      ∧ ((Snapshot.new project).run t (Discovery.run t project config.layout).run).1 = .ok (.ok d)
      ∧ StaticAsset.classify t (project.resolveFrom config.layout.staticDir) = .ok assets
      ∧ accounts.map Account.entry = d.entries ∧ (∀ a ∈ accounts, a.Holds t s)
      ∧ (((Snapshot.new project).run t (Discovery.run t project config.layout).run).2.run t
        (processAll s d.entries)).1 = .ok (accounts.map Account.result)
      ∧ m.outputs.entries.Perm
        (accounts.filterMap Account.output? ++ assets.entries.map staticOutput)
      ∧ (∀ name output, m.outputs.find? name = some output
        ↔ (∃ a ∈ accounts, a.output? = some (name, output))
          ∨ ∃ asset, assets.find? name = some asset ∧ output = .static asset)
      ∧ m.omitted = accounts.filterMap Account.omission?
      ∧ m.warnings = d.warnings config.layout ++ accounts.flatMap fun a => a.trace.warnings := by
  obtain ⟨s, d, assets, accounts, hs, hd, hassets, hentries, hall, hgather, houtputs, homitted,
    hwarnings⟩ := exists_accounts h.sequential
  exact ⟨s, d, assets, accounts, hs, hd, hassets, hentries, hall,
    processAll_after_discovery (prepare_project hs) _ hgather, houtputs,
    fun name output => find?_iff_of_perm houtputs, homitted, hwarnings⟩

/-- A function in the functions directory, one below a second `dist` directory there, and a file of
the site. -/
def functionsAndSite : Tree :=
  Import.projectWith [(["api"], .dir), (["api", "dist"], .dir),
    (["api", "dist", "functions"], .dir),
    (["api", "dist", "functions", "a.js"], .file (ByteArray.mk #[0x31]) 0o644),
    (["api", "dist", "functions", "dist"], .dir),
    (["api", "dist", "functions", "dist", "index.js"], .file (ByteArray.mk #[0x32]) 0o644),
    (["web"], .dir), (["web", "dist"], .dir),
    (["web", "dist", "x.txt"], .file (ByteArray.mk #[0x33]) 0o644)]

/-- Where something can be read off the end of a run, the run came to such an end. -/
theorem exists_of_look {ε α β : Type} {o : Except Stray (Except ε α)} (look : α → β) {seen : β}
    (h : (o.toOption.bind Except.toOption).map look = some seen) :
    ∃ a, o = .ok (.ok a) ∧ look a = seen := by
  rcases o with stray | e | a
  · cases h
  · cases h
  · exact ⟨a, rfl, Option.some.inj h⟩

theorem exists_manifest {β : Type} (t : Tree) (project : Path) (config : Config)
    (resolver : Resolver) (look : Manifest → β) {seen : β}
    (h : ((sequential t project config resolver).toOption.bind Except.toOption).map look
      = some seen) :
    ∃ m, sequential t project config resolver = .ok (.ok m) ∧ look m = seen :=
  exists_of_look look h

theorem outputs_account_functionsAndSite :
    ∃ m left, Ends functionsAndSite "/p".toList {} (Import.resolver 1) m left
      ∧ m.outputs.keys = ["api/a".toList, "x.txt".toList]
      ∧ ∃ accounts : List Account,
        m.omitted = accounts.filterMap Account.omission?
        ∧ m.omitted.map Omission.outputName = ["api/dist/index".toList]
        ∧ ∃ a ∈ accounts, ∃ unit, a.output? = some ("api/a".toList, .function unit) := by
  obtain ⟨m, hm, hlook⟩ := exists_manifest functionsAndSite "/p".toList {} (Import.resolver 1)
    (fun m => (m.outputs.keys, m.omitted.map Omission.outputName,
      ((m.outputs.find? "api/a".toList).bind Output.function?).isSome))
    (show _ = some (["api/a".toList, "x.txt".toList], ["api/dist/index".toList], true) by
      decide +kernel)
  simp only [Prod.mk.injEq] at hlook
  obtain ⟨hkeys, homissions, hfunction⟩ := hlook
  obtain ⟨unit, hunit⟩ := Option.isSome_iff_exists.1 hfunction
  obtain ⟨output, houtput, hunit⟩ := Option.bind_eq_some_iff.1 hunit
  obtain ⟨left, hends⟩ := exists_ends hm
  obtain ⟨s, d, assets, accounts, -, -, -, -, -, -, -, hfind, homitted, -⟩ := outputs_account hends
  cases output with
  | static asset => cases hunit
  | function unit =>
    rcases (hfind _ _).1 houtput with ⟨a, ha, hout⟩ | ⟨asset, -, hstatic⟩
    · exact ⟨m, left, hends, hkeys, accounts, homitted, homissions, a, ha, unit, hout⟩
    · cases hstatic

end Pipeline

end AppBundle
