import AppBundle.Pipeline
import AppBundle.Proofs.Pool
import AppBundle.Proofs.Reading
import Mathlib.Algebra.Order.BigOperators.Group.List
import Mathlib.Algebra.Order.Ring.Nat

/-!
# Functions packaged side by side

A run may process its functions one after the other or side by side against the one snapshot.
Each function comes to what it comes to alone (`answer_processAll`), and the merge, which goes in
the order of discovery, sees no more than that.

The merge stops at the first function that failed, unless two functions before it were packaged
under names that differ in case at most (`mergeFunctions_spec`).
-/

namespace AppBundle

namespace Pipeline

/-- What processing a function comes to. -/
abbrev Processed := Except PipelineError (Outcome × List Warning)

/-- What a function comes to that is traced and packaged alone, through a snapshot that has seen
nothing. -/
def alone (t : Tree) (s : Setting) (entry : FunctionEntry) : Except Stray Processed :=
  ((Snapshot.new s.project).run t (process s entry).run).1

/-- What a run comes to that processes the functions one after the other. -/
def sequential (t : Tree) (project : Path) (config : Config) (resolver : Resolver) :
    Except Stray (Except PipelineError Manifest) :=
  ((Snapshot.new project).run t (run t project config resolver).run).1

/-- The functions of a run, side by side at the snapshot that discovery left, after turns in the
given order. -/
def pool (t : Tree) (s : Setting) (d : Discovery) (snapshot : Snapshot) (schedule : List Turn) :
    Pool Processed :=
  (Pool.start snapshot (d.entries.map fun entry => (process s entry).run)).run t schedule

/-- The results of functions in the order of discovery. -/
def gather : List FunctionEntry → List (Except Stray Processed) → Except Stray (List Result)
  | entry :: entries, outcome :: outcomes => do
    let result ← outcome
    let later ← gather entries outcomes
    return (entry, result) :: later
  | _, _ => .ok []

/-- What a run comes to that processes the functions side by side, with turns in the given order;
nothing as long as one of them has not ended. -/
def runPooled (t : Tree) (project : Path) (config : Config) (resolver : Resolver)
    (schedule : List Turn) : Option (Except Stray (Except PipelineError Manifest)) :=
  match prepare project config resolver with
  | .error e => some (.ok (.error e))
  | .ok s =>
    match (Snapshot.new project).run t (Discovery.run t project config.layout).run with
    | (.error stray, _) => some (.error stray)
    | (.ok (.error e), _) => some (.ok (.error (.discovery e)))
    | (.ok (.ok d), snapshot) =>
      (pool t s d snapshot schedule).results?.map fun outcomes =>
        (gather d.entries outcomes).map (assemble t s d)

variable {t : Tree} {project : Path} {config : Config} {resolver : Resolver} {s : Setting}

theorem validate_layout (h : config.validate = .ok ()) : config.layout.validate = .ok () := by
  obtain ⟨⟨⟩, hlayout, -⟩ := bind_eq_ok.1 h
  exact hlayout

theorem prepare_eq_ok (h : prepare project config resolver = .ok s) :
    ∃ exclude limits, Ignore.build project config.functions.exclude = .ok exclude
      ∧ LimitTable.build project config.functions = .ok limits
      ∧ s = { project, config, resolver, exclude, limits } := by
  obtain ⟨exclude, hexclude, h⟩ := bind_eq_ok.1 h
  obtain ⟨limits, hlimits, h⟩ := bind_eq_ok.1 h
  cases h
  exact ⟨exclude, limits, mapError_eq_ok.1 hexclude, mapError_eq_ok.1 hlimits, rfl⟩

theorem prepare_project (h : prepare project config resolver = .ok s) : s.project = project := by
  obtain ⟨exclude, limits, -, -, rfl⟩ := prepare_eq_ok h
  rfl

/-! ## Each function -/

section Functions

theorem alone_eq (t : Tree) (s : Setting) (entry : FunctionEntry) :
    alone t s entry = (process s entry).run.answer (Snapshot.source t s.project) :=
  Snapshot.run_new t s.project _

theorem answer_processAll (t : Tree) (s : Setting) : ∀ entries : List FunctionEntry,
    (processAll s entries).answer (Snapshot.source t s.project)
      = gather entries (entries.map (alone t s))
  | [] => rfl
  | entry :: entries => by
    have ih := answer_processAll t s entries
    simp only [processAll, Reading.answer_bind, List.map_cons, gather, ih, ← alone_eq]
    rcases alone t s entry with stray | result
    · rfl
    · show Except.bind _ _ = Except.bind _ _
      rcases gather entries (entries.map (alone t s)) with stray | later <;> rfl

/-- A run that processes the functions one after the other merges what each comes to alone. -/
theorem sequential_eq (t : Tree) (project : Path) (config : Config) (resolver : Resolver) :
    sequential t project config resolver
      = match prepare project config resolver with
        | .error e => .ok (.error e)
        | .ok s =>
          match ((Snapshot.new project).run t (Discovery.run t project config.layout).run).1 with
          | .error stray => .error stray
          | .ok (.error e) => .ok (.error (.discovery e))
          | .ok (.ok d) =>
            (gather d.entries (d.entries.map (alone t s))).map (assemble t s d) := by
  unfold sequential run
  rw [Snapshot.run_new, Snapshot.run_new, Reading.answer_run_bind]
  rcases hs : prepare project config resolver with e | s
  · rfl
  · simp only [ExceptT.run_mk, Reading.answer_done, Except.bind]
    rw [Reading.answer_run_bind, Reading.answer_run_adapt]
    rcases (Discovery.run t project config.layout).run.answer (Snapshot.source t project)
      with stray | e | d
    · rfl
    · rfl
    · simp only [Except.map, Reading.mapError_ok, Except.bind]
      rw [Reading.answer_run_bind, Reading.answer_run_lift, ← prepare_project hs, answer_processAll]
      rcases gather d.entries (d.entries.map (alone t s)) with stray | results <;> rfl

/-- The pool of a run, however far it has come. -/
theorem pool_tracks (t : Tree) (s : Setting) (d : Discovery) {snapshot : Snapshot}
    (hroot : snapshot.root = s.project) (hcoh : snapshot.Coherent t) (schedule : List Turn) :
    Pool.Tracks t s.project (d.entries.map fun entry => (process s entry).run)
      (fun i => schedule.count (.worker i)) (pool t s d snapshot schedule) := by
  have h := Pool.run_tracks schedule
    (Pool.start_tracks hcoh (d.entries.map fun entry => (process s entry).run))
  rw [hroot] at h
  simp only [Nat.zero_add] at h
  exact h

theorem outcomes_eq (t : Tree) (s : Setting) (entries : List FunctionEntry) :
    (entries.map fun entry => (process s entry).run).map (·.answer (Snapshot.source t s.project))
      = entries.map (alone t s) := by
  rw [List.map_map]
  exact List.map_congr_left fun entry _ => (alone_eq t s entry).symm

/-- Side by side, in whatever order of turns, a run comes to what it comes to one after the
other. -/
theorem runPooled_eq {schedule : List Turn} {o : Except Stray (Except PipelineError Manifest)}
    (h : runPooled t project config resolver schedule = some o) :
    o = sequential t project config resolver := by
  rw [sequential_eq]
  unfold runPooled at h
  rcases hs : prepare project config resolver with e | s
  · rw [hs] at h
    cases h
    rfl
  · rw [hs] at h
    have hproject := prepare_project hs
    have hrun := (Snapshot.coherent_new t project).run (Discovery.run t project config.layout).run
    rcases hd : (Snapshot.new project).run t (Discovery.run t project config.layout).run
      with ⟨stray | e | d, snapshot⟩
    · rw [hd] at h
      cases h
      rfl
    · rw [hd] at h
      cases h
      rfl
    · rw [hd] at h hrun
      obtain ⟨outcomes, ho, rfl⟩ := Option.map_eq_some_iff.1 h
      rw [(pool_tracks t s d (hrun.2.2.trans hproject.symm) hrun.2.1 schedule).of_results? ho,
        outcomes_eq]

/-- Side by side a run ends once each function had three turns for each file it asks for. -/
theorem runPooled_isSome {schedule : List Turn}
    (h : ∀ s d, prepare project config resolver = .ok s →
      ((Snapshot.new project).run t (Discovery.run t project config.layout).run).1 = .ok (.ok d) →
      ∀ i entry, d.entries[i]? = some entry →
        3 * ((process s entry).run.requests (Snapshot.source t project)).length
          ≤ schedule.count (.worker i)) :
    (runPooled t project config resolver schedule).isSome := by
  unfold runPooled
  rcases hs : prepare project config resolver with e | s
  · rfl
  · have hproject := prepare_project hs
    have hrun := (Snapshot.coherent_new t project).run (Discovery.run t project config.layout).run
    rcases hd : (Snapshot.new project).run t (Discovery.run t project config.layout).run
      with ⟨stray | e | d, snapshot⟩
    · rfl
    · rfl
    · rw [hd] at hrun
      have htracks := pool_tracks t s d (hrun.2.2.trans hproject.symm) hrun.2.1 schedule
      simp only [Option.isSome_map]
      rw [htracks.results? fun i r hr => ?_]
      · rfl
      · rw [List.getElem?_map] at hr
        obtain ⟨entry, hentry, rfl⟩ := Option.map_eq_some_iff.1 hr
        rw [hproject]
        exact h s d hs (by rw [hd]) i entry hentry

/-- Among any functions that start at a snapshot that has seen nothing, each ends as it does
alone. -/
theorem worker_of_start (t : Tree) (s : Setting) {entries : List FunctionEntry}
    (schedule : List Turn) {i : Nat} {entry : FunctionEntry} (hentry : entries[i]? = some entry) :
    ∃ worker, ((Pool.start (Snapshot.new s.project)
          (entries.map fun entry => (process s entry).run)).run t schedule).workers[i]?
        = some worker
      ∧ (∀ o, worker.result? = some o → o = alone t s entry)
      ∧ (3 * ((process s entry).run.requests (Snapshot.source t s.project)).length
            ≤ schedule.count (.worker i) →
          worker.result? = some (alone t s entry)) := by
  have h := Pool.run_tracks schedule (Pool.start_tracks (Snapshot.coherent_new t s.project)
    (entries.map fun entry => (process s entry).run))
  have hr : (entries.map fun entry => (process s entry).run)[i]? = some (process s entry).run := by
    rw [List.getElem?_map, hentry]
    rfl
  have hlt : i < ((Pool.start (Snapshot.new s.project)
      (entries.map fun entry => (process s entry).run)).run t schedule).workers.length := by
    rw [h.length_eq]
    exact (List.getElem?_eq_some_iff.1 hr).1
  have hworker := List.getElem?_eq_getElem hlt
  obtain ⟨h1, h2⟩ := h.result hworker hr
  rw [alone_eq]
  refine ⟨_, hworker, h1, fun hturns => h2 ?_⟩
  rw [Nat.zero_add]
  exact hturns

/-- So many turns for so many functions are enough for a run. -/
theorem exists_turns (t : Tree) (project : Path) (config : Config) (resolver : Resolver) :
    ∃ functions turns, ∀ schedule : List Turn,
      (∀ i < functions, turns ≤ schedule.count (.worker i)) →
        (runPooled t project config resolver schedule).isSome := by
  rcases hs : prepare project config resolver with e | s
  · refine ⟨0, 0, fun schedule _ => runPooled_isSome fun s d hs' => ?_⟩
    rw [hs] at hs'
    cases hs'
  · rcases hd : ((Snapshot.new project).run t (Discovery.run t project config.layout).run).1
      with stray | e | d
    · refine ⟨0, 0, fun schedule _ => runPooled_isSome fun s d _ hd' => ?_⟩
      rw [hd] at hd'
      cases hd'
    · refine ⟨0, 0, fun schedule _ => runPooled_isSome fun s d _ hd' => ?_⟩
      rw [hd] at hd'
      cases hd'
    · let turns (entry : FunctionEntry) : Nat :=
        3 * ((process s entry).run.requests (Snapshot.source t project)).length
      refine ⟨d.entries.length, (d.entries.map turns).sum, fun schedule h =>
        runPooled_isSome fun s' d' hs' hd' i entry hentry => ?_⟩
      rw [hs] at hs'
      rw [hd] at hd'
      cases hs'
      cases hd'
      have hle : turns entry ≤ (d.entries.map turns).sum :=
        List.single_le_sum (fun _ _ => Nat.zero_le _) _
          (List.mem_map_of_mem (List.mem_of_getElem? hentry))
      exact hle.trans (h i (List.getElem?_eq_some_iff.1 hentry).1)

end Functions

/-! ## The merge -/

section Merge

/-- The name under which a function was packaged. -/
def packagedName? : Result → Option Text
  | (entry, .ok (.packaged _, _)) => some entry.outputName
  | (_, .ok (.omitted _, _)) | (_, .error _) => none

/-- No two names differ in the case of ASCII letters at most. -/
def Distinct (names : List Text) : Prop :=
  names.Pairwise fun a b => Text.foldCase a ≠ Text.foldCase b

theorem existing?_eq_some {m : Manifest} {name existing : Text}
    (h : existing? m name = some existing) :
    existing ∈ m.outputs.keys ∧ Text.foldCase existing = Text.foldCase name :=
  ⟨List.mem_of_find?_eq_some h, by simpa using List.find?_some h⟩

theorem existing?_eq_none {m : Manifest} {name : Text} (h : existing? m name = none) :
    ∀ other ∈ m.outputs.keys, Text.foldCase other ≠ Text.foldCase name := by
  intro other hother
  simpa using List.find?_eq_none.1 h other hother

theorem mem_keys_insert {c : Catalog Text Output} {k l : Text} {v : Output} :
    l ∈ (c.insert k v).keys ↔ l = k ∨ l ∈ c.keys := by
  simp only [Catalog.keys, Catalog.insert, Catalog.keys_insertEntry, Ascending.mem_insert]

theorem mergeFunctions_fresh {m : Manifest} {entry : FunctionEntry} {unit : FunctionUnit}
    {warnings : List Warning} (rest : List Result)
    (h : existing? { m with warnings := m.warnings ++ warnings } entry.outputName = none) :
    mergeFunctions m ((entry, .ok (.packaged unit, warnings)) :: rest)
      = mergeFunctions { m with
          warnings := m.warnings ++ warnings
          outputs := m.outputs.insert entry.outputName (.function unit) } rest := by
  rw [mergeFunctions]
  simp only [bind, Except.bind]
  rw [h]

theorem mergeFunctions_taken {m : Manifest} {entry : FunctionEntry} {unit : FunctionUnit}
    {warnings : List Warning} {existing : Text} (rest : List Result)
    (h : existing? { m with warnings := m.warnings ++ warnings } entry.outputName
      = some existing) :
    mergeFunctions m ((entry, .ok (.packaged unit, warnings)) :: rest)
      = .error (.collision entry.outputName existing) := by
  rw [mergeFunctions]
  simp only [bind, Except.bind]
  rw [h]

/-- Functions that all ended are merged unless two are packaged under names that differ in case at
most; of those the later one is told, and the earlier one that it collides with. -/
theorem mergeFunctions_spec : ∀ (results : List Result) (m : Manifest) (taken : List Text),
    (∀ name, name ∈ m.outputs.keys ↔ name ∈ taken) → Distinct taken →
    (∀ r ∈ results, ∃ o, r.2 = .ok o) →
      (Distinct (taken ++ results.filterMap packagedName?)
          ∧ ∃ m', mergeFunctions m results = .ok m')
        ∨ ∃ existing name, [existing, name].Sublist (taken ++ results.filterMap packagedName?)
            ∧ Text.foldCase existing = Text.foldCase name
            ∧ mergeFunctions m results = .error (.collision name existing)
  | [], m, taken, _, htaken, _ => .inl ⟨by simpa using htaken, m, rfl⟩
  | (entry, result) :: rest, m, taken, hkeys, htaken, hok => by
    obtain ⟨⟨outcome, warnings⟩, hresult⟩ := hok _ List.mem_cons_self
    simp only at hresult
    subst hresult
    have hrest : ∀ r ∈ rest, ∃ o, r.2 = .ok o := fun r hr => hok r (List.mem_cons_of_mem _ hr)
    cases outcome with
    | omitted reason =>
      exact mergeFunctions_spec rest _ taken hkeys htaken hrest
    | packaged unit =>
      have hnames : ((entry, .ok (.packaged unit, warnings)) :: rest).filterMap packagedName?
          = entry.outputName :: rest.filterMap packagedName? := rfl
      rw [hnames]
      rcases hex : existing? { m with warnings := m.warnings ++ warnings } entry.outputName
        with _ | existing
      · have hfresh := existing?_eq_none hex
        rw [mergeFunctions_fresh rest hex, List.append_cons]
        refine mergeFunctions_spec rest _ (taken ++ [entry.outputName]) (fun name => ?_) ?_ hrest
        · rw [mem_keys_insert, hkeys, List.mem_append, List.mem_singleton, or_comm]
        · refine List.pairwise_append.2 ⟨htaken, List.pairwise_singleton _ _, ?_⟩
          intro a ha b hb
          rw [List.mem_singleton] at hb
          subst hb
          exact hfresh a ((hkeys a).2 ha)
      · obtain ⟨hmem, hfold⟩ := existing?_eq_some hex
        refine .inr ⟨existing, entry.outputName, ?_, hfold, mergeFunctions_taken rest hex⟩
        exact (List.singleton_sublist.2 ((hkeys existing).1 hmem)).append
          ((List.nil_sublist _).cons_cons _)

/-- The merge stops at a function that failed unless it stopped before. -/
theorem mergeFunctions_append_error (entry : FunctionEntry) (e : PipelineError)
    (rest : List Result) : ∀ (results : List Result) (m : Manifest),
      mergeFunctions m (results ++ (entry, .error e) :: rest)
        = (mergeFunctions m results).bind fun _ => .error e
  | [], _ => rfl
  | (entry', result) :: results, m => by
    rcases result with e' | ⟨unit | reason, warnings⟩
    · rfl
    · rcases hex : existing? { m with warnings := m.warnings ++ warnings } entry'.outputName
        with _ | existing
      · rw [List.cons_append, mergeFunctions_fresh _ hex, mergeFunctions_fresh _ hex]
        exact mergeFunctions_append_error entry e rest results _
      · rw [List.cons_append, mergeFunctions_taken _ hex, mergeFunctions_taken _ hex]
        rfl
    · exact mergeFunctions_append_error entry e rest results _

/-- The names under which functions are packaged that are processed alone. -/
def packagedNames (t : Tree) (s : Setting) (entries : List FunctionEntry) : List Text :=
  entries.filterMap fun entry =>
    match alone t s entry with
    | .ok result => packagedName? (entry, result)
    | .error _ => none

theorem gather_append {t : Tree} {s : Setting} {entry : FunctionEntry} {result : Processed} :
    ∀ before : List FunctionEntry, (∀ b ∈ before, ∃ o, alone t s b = .ok (.ok o)) →
      alone t s entry = .ok result → ∀ {after : List FunctionEntry},
      (∀ a ∈ after, ∀ stray, alone t s a ≠ .error stray) →
      ∃ earlier later,
        gather (before ++ entry :: after) ((before ++ entry :: after).map (alone t s))
          = .ok (earlier ++ (entry, result) :: later)
        ∧ (∀ r ∈ earlier, ∃ o, r.2 = .ok o)
        ∧ earlier.filterMap packagedName? = packagedNames t s before
  | [], _, hentry, [], _ => by
    refine ⟨[], [], ?_, by simp, rfl⟩
    simp only [List.nil_append, List.map_cons, List.map_nil, gather, hentry]
    rfl
  | [], hbefore, hentry, a :: after, hafter => by
    rcases ha : alone t s a with stray | r
    · exact absurd ha (hafter a List.mem_cons_self stray)
    · obtain ⟨earlier, later, hg, -, -⟩ := gather_append [] (by simp) ha
        fun b hb => hafter b (List.mem_cons_of_mem _ hb)
      refine ⟨[], earlier ++ (a, r) :: later, ?_, by simp, rfl⟩
      simp only [List.nil_append] at hg ⊢
      rw [List.map_cons, gather, hentry, hg]
      rfl
  | b :: before, hbefore, hentry, after, hafter => by
    obtain ⟨o, ho⟩ := hbefore b List.mem_cons_self
    obtain ⟨earlier, later, hg, hok, hnames⟩ := gather_append before
      (fun c hc => hbefore c (List.mem_cons_of_mem _ hc)) hentry hafter
    refine ⟨(b, .ok o) :: earlier, later, ?_, ?_, ?_⟩
    · rw [List.cons_append, List.map_cons, gather, ho, hg]
      rfl
    · rintro r hr
      rcases List.mem_cons.1 hr with rfl | hr
      · exact ⟨o, rfl⟩
      · exact hok r hr
    · simp only [packagedNames, List.filterMap_cons, ho]
      rw [hnames]
      rfl

/-- The error of a run is that of the first function that failed, unless two functions before it
collide. -/
theorem sequential_of_failure {d : Discovery} {before after : List FunctionEntry}
    {entry : FunctionEntry} {e : PipelineError} (hs : prepare project config resolver = .ok s)
    (hd : ((Snapshot.new project).run t (Discovery.run t project config.layout).run).1
      = .ok (.ok d))
    (hentries : d.entries = before ++ entry :: after)
    (hbefore : ∀ b ∈ before, ∃ o, alone t s b = .ok (.ok o))
    (hentry : alone t s entry = .ok (.error e))
    (hafter : ∀ a ∈ after, ∀ stray, alone t s a ≠ .error stray) :
    (Distinct (packagedNames t s before) ∧ sequential t project config resolver = .ok (.error e))
      ∨ ∃ existing name, [existing, name].Sublist (packagedNames t s before)
          ∧ Text.foldCase existing = Text.foldCase name
          ∧ sequential t project config resolver = .ok (.error (.collision name existing)) := by
  obtain ⟨earlier, later, hg, hok, hnames⟩ := gather_append before hbefore hentry hafter
  have hseq : sequential t project config resolver
      = .ok (assemble t s d (earlier ++ (entry, .error e) :: later)) := by
    rw [sequential_eq, hs]
    simp only [hd]
    rw [hentries, hg]
    rfl
  rw [hseq]
  unfold assemble
  rw [mergeFunctions_append_error, ← hnames]
  rcases mergeFunctions_spec earlier { warnings := d.warnings s.config.layout } [] (fun name => by
    simp [Catalog.keys, Catalog.empty]) List.Pairwise.nil hok with
    ⟨hdistinct, m', hm⟩ | ⟨existing, name, hsub, hfold, hm⟩
  · refine .inl ⟨hdistinct, ?_⟩
    rw [hm]
    rfl
  · refine .inr ⟨existing, name, hsub, hfold, ?_⟩
    rw [hm]
    rfl

end Merge

/-! ## The setting that asks for it -/

theorem prepare_parallel (b : Bool) :
    prepare project { config with parallel := b } resolver
      = (prepare project config resolver).map fun s =>
          { s with config := { config with parallel := b } } := by
  unfold prepare
  rcases (Ignore.build project config.functions.exclude).mapError PipelineError.exclude
    with e | exclude
  · rfl
  · rcases (LimitTable.build project config.functions).mapError PipelineError.limits
      with e | limits <;> rfl

/-- One after the other a run comes to the same whether or not the functions are to be packaged
in parallel. -/
theorem sequential_parallel (t : Tree) (project : Path) (config : Config) (resolver : Resolver)
    (b : Bool) :
    sequential t project { config with parallel := b } resolver
      = sequential t project config resolver := by
  rw [sequential_eq, sequential_eq, prepare_parallel]
  rcases hs : prepare project config resolver with e | s
  · rfl
  · obtain ⟨exclude, limits, -, -, rfl⟩ := prepare_eq_ok hs
    rfl

/-- A function comes to what it comes to alone, whatever other functions and other reads take
turns with it at the snapshot, and it has ended once it had three turns for each file it asks for.
So a run comes to the same side by side and one after the other: side by side it ends once each
function had its turns, and either way the error is that of the first function in the order of
discovery that failed, unless two functions before it collide. -/
theorem side_by_side_eq_one_by_one (t : Tree) (project : Path) (config : Config)
    (resolver : Resolver) :
    (∀ (s : Setting) (entries : List FunctionEntry) (schedule : List Turn) (i : Nat)
        (entry : FunctionEntry), entries[i]? = some entry →
      ∃ worker, ((Pool.start (Snapshot.new s.project)
            (entries.map fun entry => (process s entry).run)).run t schedule).workers[i]?
          = some worker
        ∧ (∀ o, worker.result? = some o → o = alone t s entry)
        ∧ (3 * ((process s entry).run.requests (Snapshot.source t s.project)).length
              ≤ schedule.count (.worker i) →
            worker.result? = some (alone t s entry)))
      ∧ (∀ schedule o,
          runPooled t project { config with parallel := true } resolver schedule = some o →
            o = sequential t project { config with parallel := false } resolver)
      ∧ (∃ functions turns, ∀ schedule : List Turn,
          (∀ i < functions, turns ≤ schedule.count (.worker i)) →
            (runPooled t project { config with parallel := true } resolver schedule).isSome)
      ∧ ∀ (s : Setting) (d : Discovery) (before after : List FunctionEntry) (entry : FunctionEntry)
          (e : PipelineError), prepare project config resolver = .ok s →
        ((Snapshot.new project).run t (Discovery.run t project config.layout).run).1
          = .ok (.ok d) →
        d.entries = before ++ entry :: after →
        (∀ b ∈ before, ∃ o, alone t s b = .ok (.ok o)) → alone t s entry = .ok (.error e) →
        (∀ a ∈ after, ∀ stray, alone t s a ≠ .error stray) →
          (Distinct (packagedNames t s before)
              ∧ sequential t project config resolver = .ok (.error e))
            ∨ ∃ existing name, [existing, name].Sublist (packagedNames t s before)
                ∧ Text.foldCase existing = Text.foldCase name
                ∧ sequential t project config resolver
                  = .ok (.error (.collision name existing)) := by
  refine ⟨fun s entries schedule i entry hentry => ?_, fun schedule o h => ?_, ?_, ?_⟩
  · exact worker_of_start t s schedule hentry
  · rw [runPooled_eq h, sequential_parallel, sequential_parallel t project config resolver false]
  · exact exists_turns t project { config with parallel := true } resolver
  · intro s d before after entry e hs hd hentries hbefore hfailed hafter
    exact sequential_of_failure hs hd hentries hbefore hfailed hafter

end Pipeline

end AppBundle
