import AppBundle.Proofs.Collisions
import AppBundle.Proofs.Located
import AppBundle.Proofs.Sources

/-!
# Limits of functions

An override holds for a source that its pattern matches (`Matches`), which is what the list compiled
of that pattern alone excludes (`Ignore.check_of_build`). Of the overrides that hold the first
decides, so that those behind it have no influence (`FunctionSettings.limitsFor_before`): the limits
of a unit come in last, and with other limits a run makes the same of the functions
(`Pipeline.sequential_withOverrides`).
-/

namespace AppBundle

open AppBundle.Path

/-! ## Patterns -/

namespace IgnoreRule

/-- The rule matches a path by itself, unless it is for directories only, or by a directory above
it. -/
def Holds (r : IgnoreRule) (p : Path) : Prop :=
  r.takesBack = false ∧ (r.dirsOnly = false ∧ Glob.isMatch r.glob p = true
    ∨ ∃ dir ∈ Ignore.parents p, Glob.isMatch r.glob dir = true)

instance (r : IgnoreRule) (p : Path) : Decidable (r.Holds p) :=
  inferInstanceAs (Decidable (_ ∧ (_ ∧ _ ∨ ∃ dir ∈ Ignore.parents p, _)))

end IgnoreRule

/-- The pattern is a rule that matches the path. -/
def Matches (pattern : Text) (p : Path) : Prop :=
  ∃ r, IgnoreRule.parse pattern = .ok (some r) ∧ r.Holds p

instance (pattern : Text) (p : Path) : Decidable (Matches pattern p) :=
  match h : IgnoreRule.parse pattern with
  | .ok (some r) => decidable_of_iff (r.Holds p)
      ⟨fun hr => ⟨r, h, hr⟩, fun ⟨_, hr', hr⟩ => by cases h.symm.trans hr'; exact hr⟩
  | .ok none => isFalse fun ⟨_, hr, _⟩ => by cases h.symm.trans hr
  | .error _ => isFalse fun ⟨_, hr, _⟩ => by cases h.symm.trans hr

namespace Ignore

theorem verdictOfParents_singleton (r : IgnoreRule) : ∀ dirs : List Path,
    verdictOfParents [r] dirs
      = (!r.takesBack && dirs.any fun dir => Glob.isMatch r.glob dir)
  | [] => by simp [verdictOfParents]
  | dir :: above => by
    have ih := verdictOfParents_singleton r above
    rcases hmatch : Glob.isMatch r.glob dir with _ | _ <;>
      simp [verdictOfParents, verdict, hmatch, ih]

theorem excludes_singleton (r : IgnoreRule) (p : Path) :
    excludes [r] p = decide (r.Holds p) := by
  rw [Bool.eq_iff_iff, decide_eq_true_iff]
  unfold excludes IgnoreRule.Holds
  rw [verdictOfParents_singleton]
  rcases hback : r.takesBack with _ | _ <;> rcases hdirs : r.dirsOnly with _ | _ <;>
    rcases hmatch : Glob.isMatch r.glob p with _ | _ <;>
    simp [verdict, hback, hdirs, hmatch]

variable {root p : Path}

theorem ofSegment?_ne_current (segment : Text) :
    Component.ofSegment? segment ≠ some .current := by
  intro h
  unfold Component.ofSegment? at h
  split at h
  · cases h
  · split at h <;> cases h

/-- A path whose components are the current directory alone begins with a dot. -/
theorem head?_of_components (h : components p = [.current]) : p.head? = some '.' := by
  unfold components at h
  rcases hsplit : p.splitBy (· = '/') with _ | ⟨first, rest⟩
  · simp [hsplit] at h
  · simp only [hsplit] at h
    split at h
    · split at h
      · cases h
      · cases h
    · split at h
      · rename_i hfirst
        rw [← Text.joinBy_splitBy '/' p, hsplit, hfirst]
        exact Text.head?_joinBy (by simp) rest
      · -- The other components come of segments, which make none of these.
        have hcurrent : Component.current ∈ (Component.ofSegment? first).toList
            ++ rest.filterMap Component.ofSegment? := h ▸ List.mem_singleton_self _
        rcases List.mem_append.1 hcurrent with hmem | hmem
        · exact absurd (Option.mem_toList.1 hmem) (ofSegment?_ne_current first)
        · obtain ⟨segment, -, hc⟩ := List.mem_filterMap.1 hmem
          exact absurd hc (ofSegment?_ne_current segment)

theorem not_here_of_normal (hp : p.Normal) : p.after? ['.', '/'] = none := by
  rw [Text.after?_eq_none_iff]
  rintro ⟨rest, rfl⟩
  have hpieces := (normal_iff_pieces (by simp)).1 hp
  have hsplit : Text.splitBy (· = '/') (['.', '/'] ++ rest)
      = ['.'] :: Text.splitBy (· = '/') rest :=
    Text.splitBy_append_sep rfl rest (t := ['.']) (by simp)
  rw [hsplit] at hpieces
  exact (hpieces ['.'] List.mem_cons_self).not_current rfl

/-- The spelling `./` comes off a path below a root as it comes off the root. -/
theorem dropHere_resolveFrom (root : Path) (hp : p.Normal) :
    (∃ sep, (sep = [] ∨ sep = ['/'])
        ∧ dropHere (root.resolveFrom p) = dropHere root ++ (sep ++ p))
      ∨ dropHere root = ['.'] ∧ dropHere (root.resolveFrom p) = p := by
  have hnil : root = [] → root.resolveFrom p = p := by
    rintro rfl
    rw [resolveFrom_relative _ hp.head?_ne, if_pos (.inr rfl), List.nil_append]
  obtain ⟨sep, hsep, hresolve⟩ : ∃ sep : Path, (sep = [] ∨ sep = ['/'])
      ∧ root.resolveFrom p = root ++ (sep ++ p) := by
    rw [resolveFrom_relative _ hp.head?_ne]
    split
    · exact ⟨[], .inl rfl, rfl⟩
    · exact ⟨['/'], .inr rfl, rfl⟩
  unfold dropHere
  rcases hhere : root.after? ['.', '/'] with _ | r
  · rcases hfull : (root.resolveFrom p).after? ['.', '/'] with _ | rest
    · exact .inl ⟨sep, hsep, hresolve⟩
    · -- The spelling comes off the path but not off the root, which is then no longer than a dot.
      have heq := Text.eq_append_of_after? hfull
      rcases root with _ | ⟨c, _ | ⟨d, root⟩⟩
      · rw [hnil rfl, not_here_of_normal hp] at hfull
        cases hfull
      · rw [hresolve, List.singleton_append] at heq
        obtain ⟨rfl, hrest⟩ := List.cons.inj heq
        rcases hsep with rfl | rfl
        · rw [List.nil_append] at hrest
          rw [hrest] at hp
          exact absurd rfl hp.head?_ne
        · obtain rfl := (List.cons.inj hrest).2
          exact .inr ⟨rfl, rfl⟩
      · rw [hresolve] at heq
        cases heq
        rw [show ('.' :: '/' :: root) = ['.', '/'] ++ root from rfl, Text.after?_append] at hhere
        cases hhere
  · obtain rfl := Text.eq_append_of_after? hhere
    rw [hresolve, List.append_assoc, Text.after?_append]
    exact .inl ⟨sep, hsep, rfl⟩

/-- A normal path has no slash in front once the root comes off it again. -/
theorem head?_stripRoot (root : Path) (hp : p.Normal) :
    (stripRoot root (root.resolveFrom p)).head? ≠ some '/' := by
  have hfull := dropHere_resolveFrom root hp
  unfold stripRoot
  dsimp only
  split
  · rename_i hwhole
    rcases hwhole with hcurrent | hflat
    · rcases hfull with ⟨sep, -, heq⟩ | ⟨-, heq⟩
      · have hhead := head?_of_components hcurrent
        rw [heq, List.head?_append, hhead]
        simp
      · rw [heq]
        exact hp.head?_ne
    · intro hhead
      rw [List.contains_iff_mem.2 (List.mem_of_head? hhead)] at hflat
      cases hflat
  · rename_i hpart
    rcases hfull with ⟨sep, hsep, heq⟩ | ⟨hdot, -⟩
    · rw [heq, Text.after?_append]
      rcases hsep with rfl | rfl
      · rw [List.nil_append]
        dsimp only
        rw [after?_slash_getD hp.head?_ne]
        exact hp.head?_ne
      · dsimp only
        rw [Text.after?_append]
        exact hp.head?_ne
    · exact absurd (.inl (by rw [hdot]; rfl)) hpart

/-- The list of one pattern excludes what the pattern matches. -/
theorem check_of_build {pattern : Text} {l : Ignore} (h : build root [pattern] = .ok l)
    (hp : p.Normal) :
    l.check p = .ok (decide (Matches pattern (stripRoot root (root.resolveFrom p)))) := by
  obtain ⟨rules, hrules, h⟩ := bind_eq_ok.1 h
  obtain ⟨r, hr, hrules⟩ := bind_eq_ok.1 hrules
  cases h
  cases hrules
  unfold check
  cases r with
  | none =>
    have hnot : ¬ Matches pattern (stripRoot root (root.resolveFrom p)) := by
      rintro ⟨r, hr', -⟩
      cases hr.symm.trans hr'
    rw [decide_eq_false hnot]
    rfl
  | some r =>
    have hiff : r.Holds (stripRoot root (root.resolveFrom p))
        ↔ Matches pattern (stripRoot root (root.resolveFrom p)) := by
      refine ⟨fun hholds => ⟨r, hr, hholds⟩, ?_⟩
      rintro ⟨r', hr', hholds⟩
      cases hr.symm.trans hr'
      exact hholds
    have hhead := head?_stripRoot root hp
    rw [if_neg (by simp)]
    dsimp only
    split
    · rename_i hrest
      rw [hrest] at hhead
      exact absurd rfl hhead
    · rw [← decide_eq_decide.2 hiff]
      exact congrArg Except.ok (excludes_singleton r _)

end Ignore

/-! ## Limits -/

namespace FunctionSettings

/-- The limits for a source: what the first override sets whose pattern matches it, and what is set
for all functions where there is no such override or it sets nothing. -/
def limitsFor (f : FunctionSettings) (p : Path) : Limits :=
  let first := f.overrides.find? fun o => Matches o.source p
  { runtime := (first.bind LimitOverride.runtime).getD f.runtime
    memory := (first.bind LimitOverride.memory).getD f.memory
    maxDuration := (first.bind LimitOverride.maxDuration).getD f.maxDuration }

variable {f : FunctionSettings} {p : Path}

theorem checkLimit_eq_ok {field : String} {value : Nat} {scope : LimitScope}
    (h : checkLimit field value scope = .ok ()) : 0 < value := by
  unfold checkLimit at h
  split at h
  · cases h
  · omega

theorem checkLimitIfSet_eq_ok {field : String} {value : Option Nat} {scope : LimitScope}
    (h : checkLimitIfSet field value scope = .ok ()) : ∀ v ∈ value, 0 < v := by
  rintro v rfl
  exact checkLimit_eq_ok h

theorem checkOverrides_eq_ok : ∀ {overrides : List LimitOverride},
    checkOverrides overrides = .ok () → ∀ o ∈ overrides,
      (∀ v ∈ o.memory, 0 < v) ∧ ∀ v ∈ o.maxDuration, 0 < v
  | [], _ => by simp
  | o :: rest, h => by
    obtain ⟨⟨⟩, hmemory, h⟩ := bind_eq_ok.1 h
    obtain ⟨⟨⟩, hduration, h⟩ := bind_eq_ok.1 h
    exact List.forall_mem_cons.2
      ⟨⟨checkLimitIfSet_eq_ok hmemory, checkLimitIfSet_eq_ok hduration⟩, checkOverrides_eq_ok h⟩

theorem getD_bind_pos {α : Type} {first : Option α} {value : α → Option Nat} {general : Nat}
    (hgeneral : 0 < general) (h : ∀ o ∈ first, ∀ v ∈ value o, 0 < v) :
    0 < (first.bind value).getD general := by
  cases first with
  | none => exact hgeneral
  | some o =>
    rcases hvalue : value o with _ | v
    · simpa [hvalue] using hgeneral
    · simpa [hvalue] using h o rfl v hvalue

/-- Valid settings give no limit of nothing. -/
theorem limitsFor_pos (h : f.validate = .ok ()) (p : Path) :
    0 < (f.limitsFor p).memory ∧ 0 < (f.limitsFor p).maxDuration := by
  obtain ⟨⟨⟩, hmemory, h⟩ := bind_eq_ok.1 h
  obtain ⟨⟨⟩, hduration, h⟩ := bind_eq_ok.1 h
  have hset := checkOverrides_eq_ok h
  exact ⟨getD_bind_pos (checkLimit_eq_ok hmemory) fun o ho =>
      (hset o (List.mem_of_find?_eq_some ho)).1,
    getD_bind_pos (checkLimit_eq_ok hduration) fun o ho =>
      (hset o (List.mem_of_find?_eq_some ho)).2⟩

/-- Overrides behind one that matches have no influence. -/
theorem limitsFor_before {before after after' : List LimitOverride} {o : LimitOverride}
    (h : f.overrides = before ++ o :: after) (hmatches : Matches o.source p) :
    limitsFor { f with overrides := before ++ o :: after' } p = f.limitsFor p := by
  have hfind (later : List LimitOverride) :
      (before ++ o :: later).find? (fun o => Matches o.source p)
        = (before.find? fun o => Matches o.source p).or (some o) := by
    rw [List.find?_append, List.find?_cons_of_pos (by simpa using hmatches)]
  simp only [limitsFor, h, hfind]

end FunctionSettings

def Config.withOverrides (c : Config) (overrides : List LimitOverride) : Config :=
  { c with functions := { c.functions with overrides } }

namespace LimitTable

variable {root p : Path} {overrides : List LimitOverride} {f : FunctionSettings}
  {table : LimitTable}

theorem firstMatch_of_compile (hp : p.Normal) : ∀ {overrides : List LimitOverride}
    {compiled : List (Ignore × LimitOverride)}, compile root overrides = .ok compiled →
      firstMatch p compiled = .ok (overrides.find? fun o =>
        Matches o.source (Ignore.stripRoot root (root.resolveFrom p)))
  | [], _, h => by
    cases h
    rfl
  | o :: rest, _, h => by
    obtain ⟨matcher, hbuild, h⟩ := bind_eq_ok.1 h
    obtain ⟨later, hrest, h⟩ := bind_eq_ok.1 h
    cases h
    rw [firstMatch, Ignore.check_of_build hbuild hp, List.find?_cons]
    by_cases hmatches : Matches o.source (Ignore.stripRoot root (root.resolveFrom p))
    · simp only [hmatches, decide_true]
      rfl
    · simp only [hmatches, decide_false]
      exact firstMatch_of_compile hp hrest

theorem resolve_of_build (h : build root f = .ok table) (hp : p.Normal) :
    table.resolve (some p)
      = .ok (f.limitsFor (Ignore.stripRoot root (root.resolveFrom p))) := by
  obtain ⟨compiled, hcompile, h⟩ := bind_eq_ok.1 h
  cases h
  unfold resolve FunctionSettings.limitsFor
  simp only [firstMatch_of_compile hp hcompile]
  cases f.overrides.find? fun o => Matches o.source (Ignore.stripRoot root (root.resolveFrom p))
    with
  | none => rfl
  | some o => rfl

theorem exists_build_of_compile : ∀ {overrides : List LimitOverride}
    {compiled : List (Ignore × LimitOverride)}, compile root overrides = .ok compiled →
      ∀ o ∈ overrides, ∃ l, Ignore.build root [o.source] = .ok l
  | [], _, _ => by simp
  | o :: rest, _, h => by
    obtain ⟨matcher, hbuild, h⟩ := bind_eq_ok.1 h
    obtain ⟨later, hrest, -⟩ := bind_eq_ok.1 h
    exact List.forall_mem_cons.2 ⟨⟨matcher, hbuild⟩, exists_build_of_compile hrest⟩

theorem compile_isOk : ∀ {overrides : List LimitOverride},
    (∀ o ∈ overrides, ∃ l, Ignore.build root [o.source] = .ok l) →
      ∃ compiled, compile root overrides = .ok compiled
  | [], _ => ⟨[], rfl⟩
  | o :: rest, h => by
    obtain ⟨⟨matcher, hbuild⟩, hrest⟩ := List.forall_mem_cons.1 h
    obtain ⟨later, hlater⟩ := compile_isOk hrest
    exact ⟨(matcher, o) :: later,
      bind_eq_ok.2 ⟨matcher, hbuild, bind_eq_ok.2 ⟨later, hlater, rfl⟩⟩⟩

/-- What is compiled with some overrides is compiled with fewer, or in another order. -/
theorem build_of_subset (h : build root f = .ok table) (hsubset : overrides ⊆ f.overrides) :
    ∃ table', build root { f with overrides } = .ok table' := by
  obtain ⟨compiled, hcompile, -⟩ := bind_eq_ok.1 h
  obtain ⟨compiled', hcompile'⟩ := compile_isOk fun o ho =>
    exists_build_of_compile hcompile o (hsubset ho)
  exact ⟨_, bind_eq_ok.2 ⟨compiled', hcompile', rfl⟩⟩

end LimitTable

/-! ## Packaging -/

namespace FunctionUnit

open Reading

variable {source : Path → Answer} {layout : Layout} {handlerExport : Text}
  {limits limits' : LimitTable} {entry : FunctionEntry} {trace : Trace} {unit : FunctionUnit}
  {l : Limits}

theorem limits_of_package
    (h : Yields source (package layout handlerExport limits entry trace) unit) :
    ∃ p, entry.sourcePath = some p ∧ limits.resolve (some p) = .ok unit.limits := by
  unfold package at h
  split at h
  · exact absurd h not_yields_throw
  · rename_i p hp
    split at h
    · exact absurd h not_yields_throw
    · obtain ⟨found, -, h⟩ := yields_bind.1 h
      cases found with
      | none => exact absurd h not_yields_throw
      | some file =>
        obtain ⟨files, -, h⟩ := yields_bind.1 h
        split at h
        · rename_i hresolve
          cases yields_pure.1 h
          exact ⟨p, hp, hresolve⟩
        · exact absurd h not_yields_stray

/-- A unit owes nothing but its limits to the table that they come from. -/
theorem answer_package (h : ∀ p, entry.sourcePath = some p →
      (∃ l, limits.resolve (some p) = .ok l) ∧ limits'.resolve (some p) = .ok l) :
    (package layout handlerExport limits' entry trace).run.answer source
      = ((package layout handlerExport limits entry trace).run.answer source).map
          (Except.map fun unit => { unit with limits := l }) := by
  unfold package
  split
  · rfl
  · rename_i p hp
    obtain ⟨⟨l₀, hl₀⟩, hl⟩ := h p hp
    split
    · rfl
    · rw [answer_run_bind, answer_run_bind]
      rcases ((ExceptT.mk (file entry.relativeEntrypoint)).adapt PackageError.access).run.answer
        source with stray | e | _ | f
      · rfl
      · rfl
      · rfl
      · simp only [Except.bind]
        rw [answer_run_bind, answer_run_bind, hl₀, hl]
        rcases (addFiles _ trace.files).run.answer source with stray | e | files <;> rfl

end FunctionUnit

namespace Pipeline

open Reading

variable {t : Tree} {project : Path} {config : Config} {resolver : Resolver} {s : Setting}

theorem validate_functions (h : config.validate = .ok ()) :
    config.functions.validate = .ok () := by
  obtain ⟨⟨⟩, -, hfunctions⟩ := bind_eq_ok.1 h
  exact hfunctions

/-- A packaged unit with other limits. -/
def Outcome.withLimits (l : Limits) : Outcome → Outcome
  | packaged unit => packaged { unit with limits := l }
  | omitted reason => omitted reason

/-- The same settings but for the overrides and the limits compiled of them. -/
def Setting.withOverrides (s : Setting) (overrides : List LimitOverride) (limits : LimitTable) :
    Setting :=
  { s with config := s.config.withOverrides overrides, limits }

theorem alone_withOverrides {entry : FunctionEntry} {overrides : List LimitOverride}
    {limits : LimitTable} {l : Limits} (h : ∀ p, entry.sourcePath = some p →
      (∃ l, s.limits.resolve (some p) = .ok l) ∧ limits.resolve (some p) = .ok l) :
    alone t (s.withOverrides overrides limits) entry
      = (alone t s entry).map (Except.map fun r => (r.1.withLimits l, r.2)) := by
  rw [alone_eq, alone_eq]
  unfold process Setting.withOverrides Config.withOverrides
  dsimp only
  rw [answer_run_bind, answer_run_bind]
  rcases ((Trace.entrypoint s.resolver s.project s.exclude entry.entrypoint).adapt
    PipelineError.trace).run.answer (Snapshot.source t s.project) with stray | e | trace
  · rfl
  · rfl
  · simp only [Except.bind]
    rw [answer_run_bind, answer_run_bind, answer_run_lift, answer_run_lift,
      FunctionUnit.answer_package h]
    rcases (FunctionUnit.package s.config.layout s.config.functions.handlerExport s.limits entry
      trace).run.answer (Snapshot.source t s.project) with stray | e | unit
    · rfl
    · simp only [Except.map, Except.bind]
      split <;> rfl
    · rfl

section Runs

variable {m : Manifest} {d : Discovery} {overrides : List LimitOverride} {limits : LimitTable}

/-- All of a run that ended with a manifest had succeeded. -/
theorem settles_of_sequential (h : sequential t project config resolver = .ok (.ok m)) :
    ∃ s d assets routes, Settles t project config resolver s d assets routes := by
  obtain ⟨s, d, results, hs, hd, hgather, hm⟩ := sequential_eq_ok h
  obtain ⟨functions, assets, all, routes, hfunctions, hassets, -, hroutes, -⟩ := assemble_eq_ok hm
  obtain ⟨hentries, halone⟩ := gather_eq_ok hgather
  obtain ⟨exclude, limits, -, -, rfl⟩ := prepare_eq_ok hs
  refine ⟨_, d, assets, routes, hs, hd, fun entry hentry => ?_, hassets, hroutes⟩
  rw [← hentries] at hentry
  obtain ⟨r, hr, rfl⟩ := List.mem_map.1 hentry
  obtain ⟨o, ho⟩ := ended_of_mergeFunctions hfunctions r hr
  exact ⟨o, (halone r hr).trans (congrArg _ ho)⟩

theorem packaged_of_withOverrides {entry : FunctionEntry} {l : Limits}
    (h : ∀ p, entry.sourcePath = some p →
      (∃ l, s.limits.resolve (some p) = .ok l) ∧ limits.resolve (some p) = .ok l)
    (hpackaged : Packaged t (s.withOverrides overrides limits) entry) : Packaged t s entry := by
  obtain ⟨unit, warnings, hunit⟩ := hpackaged
  rw [alone_withOverrides h] at hunit
  rcases halone : alone t s entry with stray | e | ⟨unit' | reason, warnings'⟩
  · rw [halone] at hunit
    cases hunit
  · rw [halone] at hunit
    cases hunit
  · exact ⟨unit', warnings', halone⟩
  · rw [halone] at hunit
    cases hunit

/-- Where a run settles it does so with fewer overrides too, or with the same in another order, and
the limits of every source can be told with them. -/
theorem Settles.withOverrides {assets : Catalog Text StaticAsset} {routes : List RouteRule}
    (hvalid : config.validate = .ok ()) (h : Settles t project config resolver s d assets routes)
    (hsubset : overrides ⊆ config.functions.overrides) :
    ∃ limits, Settles t project (config.withOverrides overrides) resolver
        (s.withOverrides overrides limits) d assets routes
      ∧ ∀ entry ∈ d.entries, ∀ p, entry.sourcePath = some p →
        (∃ l, s.limits.resolve (some p) = .ok l) ∧ limits.resolve (some p)
          = .ok ((config.withOverrides overrides).functions.limitsFor
            (Ignore.stripRoot project (project.resolveFrom (entry.sourcePath.getD [])))) := by
  obtain ⟨hs, hd, hended, hassets, hroutes⟩ := h
  obtain ⟨exclude, before, hexclude, hbefore, rfl⟩ := prepare_eq_ok hs
  obtain ⟨limits, hlimits⟩ := LimitTable.build_of_subset hbefore hsubset
  have hyields : Yields (Snapshot.source t project) (Discovery.run t project config.layout) d :=
    (Snapshot.run_new t project _).symm.trans hd
  have hresolve : ∀ entry ∈ d.entries, ∀ p, entry.sourcePath = some p →
      (∃ l, before.resolve (some p) = .ok l) ∧ limits.resolve (some p)
        = .ok ((config.withOverrides overrides).functions.limitsFor
          (Ignore.stripRoot project (project.resolveFrom (entry.sourcePath.getD [])))) := by
    intro entry hentry p hp
    have hnormal := Discovery.sourcePath_normal (validate_layout hvalid) hyields hentry hp
    rw [hp]
    exact ⟨⟨_, LimitTable.resolve_of_build hbefore hnormal⟩,
      LimitTable.resolve_of_build hlimits hnormal⟩
  refine ⟨limits, ⟨?prepared, hd, fun entry hentry => ?ended, hassets, hroutes⟩, hresolve⟩
  case prepared =>
    exact bind_eq_ok.2 ⟨exclude, mapError_eq_ok.2 hexclude,
      bind_eq_ok.2 ⟨limits, mapError_eq_ok.2 hlimits, rfl⟩⟩
  case ended =>
    obtain ⟨o, ho⟩ := hended entry hentry
    rw [alone_withOverrides (hresolve entry hentry), ho]
    exact ⟨_, rfl⟩

/-- A run that ended with a manifest also does with fewer overrides, or with the same in another
order, and each unit is the same but for its limits. -/
theorem sequential_withOverrides (hvalid : config.validate = .ok ())
    (h : sequential t project config resolver = .ok (.ok m))
    (hs : prepare project config resolver = .ok s)
    (hd : ((Snapshot.new project).run t (Discovery.run t project config.layout).run).1
      = .ok (.ok d)) (hsubset : overrides ⊆ config.functions.overrides) :
    ∃ m', sequential t project (config.withOverrides overrides) resolver = .ok (.ok m')
      ∧ ∀ entry ∈ d.entries, ∀ unit warnings p, entry.sourcePath = some p →
        alone t s entry = .ok (.ok (.packaged unit, warnings)) →
        m'.outputs.find? entry.outputName = some (.function { unit with
          limits := (config.withOverrides overrides).functions.limitsFor
            (Ignore.stripRoot project (project.resolveFrom p)) }) := by
  obtain ⟨s', d', assets, routes, hsettles⟩ := settles_of_sequential h
  cases hs.symm.trans hsettles.prepared
  cases hd.symm.trans hsettles.discovered
  obtain ⟨limits, hsettles', hresolve⟩ := hsettles.withOverrides hvalid hsubset
  have hnone : ∀ name existing, ¬ Collides t s d assets name existing := by
    rcases sequential_spec hsettles with ⟨hnone, -⟩ | ⟨_, _, -, herror⟩
    · exact hnone
    · cases h.symm.trans herror
  have hnone' : ∀ name existing,
      ¬ Collides t (s.withOverrides overrides limits) d assets name existing := by
    rintro _ _ (⟨hsub, hfirst, hsecond, hfold⟩ | ⟨hentry, hpackaged, hasset⟩)
    · have hmem := hsub.subset
      exact hnone _ _ (.functions hsub
        (packaged_of_withOverrides (hresolve _ (hmem (by simp))) hfirst)
        (packaged_of_withOverrides (hresolve _ (hmem (by simp))) hsecond) hfold)
    · exact hnone _ _
        (.asset hentry (packaged_of_withOverrides (hresolve _ hentry) hpackaged) hasset)
  rcases sequential_spec hsettles' with ⟨-, -, m', hm', -⟩ | ⟨_, _, hcollides, -⟩
  · refine ⟨m', hm', fun entry hentry unit warnings p hp hunit => ?_⟩
    have halone : alone t (s.withOverrides overrides limits) entry = _ :=
      alone_withOverrides (hresolve entry hentry)
    rw [hunit, hp] at halone
    exact find?_of_packaged hm' hsettles'.prepared hsettles'.discovered hentry halone
  · exact absurd hcollides (hnone' _ _)

/-- Every function of a run that ended with a manifest has of each limit what the first override
sets whose pattern matches its source, or a directory above it, and what is set for all functions
if there is no such override or it sets nothing. Hence no limit is zero, and a run without some of
the overrides behind the first one, or with these in another order, ends too and has the same
unit. -/
theorem first_override_decides {left : Snapshot} (hvalid : config.validate = .ok ())
    (h : Ends t project config resolver m left) {name : Text} {unit : FunctionUnit}
    (hunit : m.outputs.find? name = some (.function unit)) :
    ∃ d, ((Snapshot.new project).run t (Discovery.run t project config.layout).run).1 = .ok (.ok d)
      ∧ ∃ entry ∈ d.entries, entry.outputName = name
      ∧ ∃ source p, entry.sourcePath = some source
        ∧ p = Ignore.stripRoot project (project.resolveFrom source)
        ∧ (project.head? = some '/' → p = source)
        ∧ unit.limits = config.functions.limitsFor p
        ∧ 0 < unit.limits.memory ∧ 0 < unit.limits.maxDuration
        ∧ ∀ before o after after', config.functions.overrides = before ++ o :: after →
          Matches o.source p → after' ⊆ after →
          (∃ m' left',
              Ends t project (config.withOverrides (before ++ o :: after')) resolver m' left')
            ∧ ∀ m' left',
              Ends t project (config.withOverrides (before ++ o :: after')) resolver m' left' →
                m'.outputs.find? name = some (.function unit) := by
  obtain ⟨s, d, a, hs, hd, hentry, -, hname, -, halone⟩ := exists_account_of_function h hunit
  obtain ⟨trace, -, hpackage, -⟩ := exists_trace_of_packaged halone
  obtain ⟨exclude, limits, -, hlimits, rfl⟩ := prepare_eq_ok hs
  obtain ⟨source, hsource, hresolve⟩ := FunctionUnit.limits_of_package hpackage
  have hnormal : Normal source := Discovery.sourcePath_normal (validate_layout hvalid)
    ((Snapshot.run_new t project _).symm.trans hd) hentry hsource
  rw [LimitTable.resolve_of_build hlimits hnormal] at hresolve
  have hlimits := Except.ok.inj hresolve
  obtain ⟨hmemory, hduration⟩ := FunctionSettings.limitsFor_pos (validate_functions hvalid)
    (Ignore.stripRoot project (project.resolveFrom source))
  rw [hlimits] at hmemory hduration
  refine ⟨d, hd, a.entry, hentry, hname, source, _, hsource, rfl, ?absolute, hlimits.symm, hmemory,
    hduration, fun before o after after' hsplit hmatches hsubset => ?later⟩
  case absolute =>
    intro habsolute
    obtain ⟨root, rfl⟩ := List.head?_eq_some_iff.1 habsolute
    exact Ignore.stripRoot_relative root hnormal.head?_ne
  case later =>
    have hfewer : before ++ o :: after' ⊆ config.functions.overrides := by
      rw [hsplit]
      exact List.append_subset.2 ⟨List.subset_append_left _ _,
        List.Subset.trans (List.cons_subset_cons _ hsubset) (List.subset_append_right _ _)⟩
    obtain ⟨m', hm', hunits⟩ := sequential_withOverrides hvalid h.sequential hs hd hfewer
    have hsame : (config.withOverrides (before ++ o :: after')).functions.limitsFor
        (Ignore.stripRoot project (project.resolveFrom source)) = unit.limits :=
      (FunctionSettings.limitsFor_before hsplit hmatches).trans hlimits
    have hunit' := hunits a.entry hentry unit _ source hsource halone
    rw [hsame, hname] at hunit'
    obtain ⟨left', hends⟩ := exists_ends hm'
    refine ⟨⟨m', left', hends⟩, fun m'' left'' hends' => ?_⟩
    cases hm'.symm.trans hends'.sequential
    exact hunit'

/-- A source that two overrides match. -/
def overlapping : Config where
  functions :=
    { memory := 512
      overrides := [
        { source := "api/lib".toList, memory := some 64 },
        { source := "api/src".toList, memory := some 128 },
        { source := "*.js".toList, memory := some 256, maxDuration := some 60 }] }

theorem first_override_decides_overlapping :
    overlapping.validate = .ok ()
      ∧ ∃ m left, Ends functionsAndSite "/p".toList overlapping (Import.resolver 1) m left
      ∧ ∃ unit, m.outputs.find? "api/a".toList = some (.function unit)
        ∧ unit.limits = ⟨"nodejs20.x".toList, 128, 10⟩
        ∧ ∃ m' left', Ends functionsAndSite "/p".toList
            (overlapping.withOverrides (overlapping.functions.overrides.take 2))
            (Import.resolver 1) m' left'
          ∧ m'.outputs.find? "api/a".toList = some (.function unit) := by
  obtain ⟨m, hm, hlook⟩ := exists_manifest functionsAndSite "/p".toList overlapping
    (Import.resolver 1) (fun m => ((m.outputs.find? "api/a".toList).bind Output.function?).map
      FunctionUnit.limits)
    (show _ = some (some ⟨"nodejs20.x".toList, 128, 10⟩) by decide +kernel)
  obtain ⟨unit, hfunction, hlimits⟩ := Option.map_eq_some_iff.1 hlook
  obtain ⟨output, houtput, hfunction⟩ := Option.bind_eq_some_iff.1 hfunction
  obtain ⟨left, hends⟩ := exists_ends hm
  obtain ⟨d', hd', hentries⟩ := exists_of_look
    (fun d : Discovery => d.entries.map fun entry => (entry.outputName, entry.sourcePath))
    (show ((((Snapshot.new "/p".toList).run functionsAndSite (Discovery.run functionsAndSite
        "/p".toList overlapping.layout).run).1.toOption.bind Except.toOption).map _)
      = some [("api/a".toList, some "api/src/functions/a.js".toList),
        ("api/dist/index".toList, none)] by decide +kernel)
  cases output with
  | static asset => cases hfunction
  | function unit' =>
    cases hfunction
    obtain ⟨d, hd, entry, hentry, hname, source, p, hsource, -, habsolute, -, -, -, hlater⟩ :=
      first_override_decides (show overlapping.validate = .ok () from rfl) hends houtput
    cases hd.symm.trans hd'
    have hmem := List.mem_map_of_mem
      (f := fun entry : FunctionEntry => (entry.outputName, entry.sourcePath)) hentry
    rw [hentries, hname, hsource] at hmem
    obtain rfl : source = "api/src/functions/a.js".toList := by simpa using hmem
    obtain rfl := habsolute rfl
    obtain ⟨⟨m', left', hends'⟩, hunits⟩ := hlater (overlapping.functions.overrides.take 1) _ _ []
      rfl (by decide +kernel) (List.nil_subset _)
    exact ⟨rfl, m, left, hends, unit, houtput, hlimits, m', left', hends', hunits m' left' hends'⟩

end Runs

end Pipeline

end AppBundle
