import AppBundle.Proofs.Accounts
import AppBundle.Proofs.Strays

/-!
# Names that collide

A run whose functions all end merges the functions and then the site. The functions are merged
unless two are packaged under names that differ in case at most (`mergeFunctions_spec`), the site
unless one of its names is that of an output, letter by letter (`mergeStatics_spec`).

So a run ends with a collision exactly if there is one, whether its functions are processed one
after the other or side by side, and with a manifest if not (`collision_iff`). What was omitted
does not collide with anything.
-/

namespace AppBundle

namespace Pipeline

variable {t : Tree} {project : Path} {config : Config} {resolver : Resolver} {s : Setting}

/-! ## What a run comes to -/

/-- The run comes to this in the way that its configuration asks for: one function after the other,
or side by side with turns in some order. -/
inductive ComesTo (t : Tree) (project : Path) (config : Config) (resolver : Resolver) :
    Except Stray (Except PipelineError Manifest) → Prop
  | oneByOne (hparallel : config.parallel = false) :
      ComesTo t project config resolver (sequential t project config resolver)
  | sideBySide {schedule : List Turn} {o : Except Stray (Except PipelineError Manifest)}
      (hparallel : config.parallel = true)
      (h : runPooled t project config resolver schedule = some o) :
      ComesTo t project config resolver o

theorem comesTo_iff {o : Except Stray (Except PipelineError Manifest)} :
    ComesTo t project config resolver o ↔ o = sequential t project config resolver := by
  constructor
  · rintro (⟨-⟩ | ⟨-, h⟩)
    · rfl
    · exact runPooled_eq h
  · rintro rfl
    rcases hparallel : config.parallel with _ | _
    · exact .oneByOne hparallel
    · obtain ⟨schedule, hschedule⟩ := exists_runPooled t project config resolver
      exact .sideBySide hparallel hschedule

/-! ## Functions -/

section Functions

variable {entries : List FunctionEntry} {entry : FunctionEntry} {existing name : Text}

/-- The function is packaged when it is processed alone. -/
def Packaged (t : Tree) (s : Setting) (entry : FunctionEntry) : Prop :=
  ∃ unit warnings, alone t s entry = .ok (.ok (.packaged unit, warnings))

theorem packaged_iff :
    (match alone t s entry with
      | .ok result => packagedName? (entry, result)
      | .error _ => none) = some name ↔ Packaged t s entry ∧ entry.outputName = name := by
  unfold Packaged
  rcases alone t s entry with stray | e | ⟨unit | reason, warnings⟩ <;> simp [packagedName?]

theorem mem_packagedNames : name ∈ packagedNames t s entries
    ↔ ∃ entry ∈ entries, Packaged t s entry ∧ entry.outputName = name :=
  List.mem_filterMap.trans (exists_congr fun _ => and_congr_right fun _ => packaged_iff)

/-- Names of packaged functions come in the order of the functions. -/
theorem sublist_packagedNames (h : [existing, name].Sublist (packagedNames t s entries)) :
    ∃ first second, [first, second].Sublist entries ∧ Packaged t s first ∧ Packaged t s second
      ∧ first.outputName = existing ∧ second.outputName = name := by
  by_contra hnone
  have hpairwise : (packagedNames t s entries).Pairwise
      fun a b => ¬ (a = existing ∧ b = name) := by
    rw [packagedNames, List.pairwise_filterMap, List.pairwise_iff_forall_sublist]
    intro first second hsub a ha b hb
    rintro ⟨rfl, rfl⟩
    obtain ⟨hfirst, hexisting⟩ := packaged_iff.1 ha
    obtain ⟨hsecond, hname⟩ := packaged_iff.1 hb
    exact hnone ⟨first, second, hsub, hfirst, hsecond, hexisting, hname⟩
  exact List.pairwise_iff_forall_sublist.1 hpairwise h ⟨rfl, rfl⟩

theorem fold_ne_of_distinct (h : Distinct (packagedNames t s entries))
    {first second : FunctionEntry} (hsub : [first, second].Sublist entries)
    (hfirst : Packaged t s first) (hsecond : Packaged t s second) :
    Text.foldCase first.outputName ≠ Text.foldCase second.outputName := by
  rw [Distinct, packagedNames, List.pairwise_filterMap] at h
  exact List.pairwise_iff_forall_sublist.1 h hsub _ (packaged_iff.2 ⟨hfirst, rfl⟩) _
    (packaged_iff.2 ⟨hsecond, rfl⟩)

/-- Functions that all end have results. -/
theorem exists_results (h : ∀ entry ∈ entries, ∃ o, alone t s entry = .ok (.ok o)) :
    ∃ results, gather entries (entries.map (alone t s)) = .ok results
      ∧ (∀ r ∈ results, alone t s r.1 = .ok r.2) ∧ (∀ r ∈ results, ∃ o, r.2 = .ok o)
      ∧ results.filterMap packagedName? = packagedNames t s entries := by
  rcases hg : gather entries (entries.map (alone t s)) with stray | results
  · obtain ⟨entry, hentry, stray', hstray⟩ := (gather_strays entries).1 ⟨stray, hg⟩
    obtain ⟨o, ho⟩ := h entry hentry
    cases hstray.symm.trans ho
  · obtain ⟨rfl, halone⟩ := gather_eq_ok hg
    refine ⟨results, rfl, halone, fun r hr => ?_, ?_⟩
    · obtain ⟨o, ho⟩ := h r.1 (List.mem_map_of_mem hr)
      exact ⟨o, Except.ok.inj ((halone r hr).symm.trans ho)⟩
    · rw [packagedNames, List.filterMap_map]
      exact List.filterMap_congr fun r hr => by simp only [Function.comp_apply, halone r hr]

end Functions

/-! ## Static assets -/

theorem contains_iff {outputs : Catalog Text Output} {name : Text} :
    outputs.contains name = true ↔ name ∈ outputs.keys := by
  rw [Catalog.contains, Option.isSome_iff_exists, Catalog.mem_keys_iff]

/-- The assets are merged unless one has the name of an output. -/
theorem mergeStatics_spec : ∀ {assets : List (Text × StaticAsset)} {m : Manifest},
    (assets.map Prod.fst).Nodup →
      ((∀ asset ∈ assets, asset.1 ∉ m.outputs.keys) ∧ ∃ all, mergeStatics m assets = .ok all)
        ∨ ∃ asset ∈ assets, asset.1 ∈ m.outputs.keys
            ∧ mergeStatics m assets = .error (.collision asset.1 asset.1)
  | [], m, _ => .inl ⟨by simp, m, rfl⟩
  | (name, asset) :: rest, m, hnodup => by
    obtain ⟨hnew, hrest⟩ := List.nodup_cons.1 hnodup
    unfold mergeStatics
    by_cases htaken : name ∈ m.outputs.keys
    · rw [if_pos (contains_iff.2 htaken)]
      exact .inr ⟨(name, asset), List.mem_cons_self, htaken, rfl⟩
    · rw [if_neg fun h => htaken (contains_iff.1 h)]
      -- What is put in under the name takes none of the later ones, which are others.
      have hkept : ∀ later ∈ rest, later.1 ∈ (m.outputs.insert name (.static asset)).keys
          ↔ later.1 ∈ m.outputs.keys := by
        intro later hlater
        rw [mem_keys_insert, or_iff_right]
        rintro rfl
        exact hnew (List.mem_map.2 ⟨later, hlater, rfl⟩)
      rcases mergeStatics_spec (m := { m with outputs := m.outputs.insert name (.static asset) })
        hrest with ⟨hfree, hall⟩ | ⟨later, hlater, hlaterTaken, herror⟩
      · exact .inl ⟨List.forall_mem_cons.2 ⟨htaken, fun later hlater h =>
          hfree later hlater ((hkept later hlater).2 h)⟩, hall⟩
      · refine .inr ⟨later, List.mem_cons_of_mem _ hlater, ?_, herror⟩
        exact (hkept later hlater).1 hlaterTaken

/-! ## Collisions -/

/-- A packaged function has a name that differs from the name of one before it in case at most, or
it has the name of a static asset. -/
inductive Collides (t : Tree) (s : Setting) (d : Discovery) (assets : Catalog Text StaticAsset) :
    Text → Text → Prop
  | functions {first second : FunctionEntry} (hsub : [first, second].Sublist d.entries)
      (hfirst : Packaged t s first) (hsecond : Packaged t s second)
      (hfold : Text.foldCase first.outputName = Text.foldCase second.outputName) :
      Collides t s d assets second.outputName first.outputName
  | asset {entry : FunctionEntry} {asset : StaticAsset} (hentry : entry ∈ d.entries)
      (hpackaged : Packaged t s entry) (hasset : assets.find? entry.outputName = some asset) :
      Collides t s d assets entry.outputName entry.outputName

/-- All that a run does but the merge succeeds: the patterns are compiled, the functions are
discovered, each is packaged or omitted, the site is classified and the routes are made. -/
structure Settles (t : Tree) (project : Path) (config : Config) (resolver : Resolver) (s : Setting)
    (d : Discovery) (assets : Catalog Text StaticAsset) (routes : List RouteRule) : Prop where
  prepared : prepare project config resolver = .ok s
  discovered : ((Snapshot.new project).run t (Discovery.run t project config.layout).run).1
    = .ok (.ok d)
  ended : ∀ entry ∈ d.entries, ∃ o, alone t s entry = .ok (.ok o)
  classified : StaticAsset.classify t (project.resolveFrom config.layout.staticDir) = .ok assets
  routed : Route.synthesize t [] (project.resolveFrom config.layout.staticDir) config.routes
    = .ok routes

section Settles

variable {d : Discovery} {assets : Catalog Text StaticAsset} {routes : List RouteRule}

/-- The outputs that functions become have the names of those that were packaged. -/
theorem names_outputs (accounts : List Account) :
    (accounts.filterMap Account.output?).map Prod.fst
      = (accounts.map Account.result).filterMap packagedName? := by
  rw [List.map_filterMap, List.filterMap_map]
  refine List.filterMap_congr fun a _ => ?_
  obtain ⟨entry, trace, unit | reason⟩ := a <;> rfl

/-- The functions of a manifest are those that were packaged. -/
theorem perm_functions {m : Manifest} {accounts : List Account}
    {statics : List (Text × StaticAsset)}
    (h : m.outputs.entries.Perm (accounts.filterMap Account.output? ++ statics.map staticOutput)) :
    (m.functions.map Prod.fst).Perm ((accounts.map Account.result).filterMap packagedName?) := by
  have hfunctions := (h.filterMap fun e => e.2.function?.map (e.1, ·)).map Prod.fst
  have hnone : (statics.map staticOutput).filterMap (fun e => e.2.function?.map (e.1, ·)) = [] := by
    rw [List.filterMap_map, List.filterMap_eq_nil_iff]
    exact fun _ _ => rfl
  rw [List.filterMap_append, hnone, List.append_nil, List.filterMap_filterMap] at hfunctions
  rw [← names_outputs]
  refine hfunctions.trans (.of_eq ?_)
  rw [List.map_filterMap, List.map_filterMap]
  refine List.filterMap_congr fun a _ => ?_
  obtain ⟨entry, trace, unit | reason⟩ := a <;> rfl

theorem not_collides (hdistinct : Distinct (packagedNames t s d.entries))
    (hfree : ∀ asset ∈ assets.entries, asset.1 ∉ packagedNames t s d.entries)
    (name existing : Text) : ¬ Collides t s d assets name existing := by
  rintro (⟨hsub, hfirst, hsecond, hfold⟩ | ⟨hentry, hpackaged, hasset⟩)
  · exact fold_ne_of_distinct hdistinct hsub hfirst hsecond hfold
  · exact hfree _ (Catalog.find?_eq_some_iff_mem.1 hasset)
      (mem_packagedNames.2 ⟨_, hentry, hpackaged, rfl⟩)

/-- Functions that all ended are merged with the site unless names collide. -/
theorem assemble_spec {results : List Result} (halone : ∀ r ∈ results, alone t s r.1 = .ok r.2)
    (hended : ∀ r ∈ results, ∃ o, r.2 = .ok o)
    (hnames : results.filterMap packagedName? = packagedNames t s d.entries)
    (hassets : StaticAsset.classify t (s.project.resolveFrom s.config.layout.staticDir)
      = .ok assets)
    (hroutes : Route.synthesize t [] (s.project.resolveFrom s.config.layout.staticDir)
      s.config.routes = .ok routes) :
    ((∀ name existing, ¬ Collides t s d assets name existing)
        ∧ Distinct (packagedNames t s d.entries) ∧ ∃ m, assemble t s d results = .ok m
          ∧ (m.functions.map Prod.fst).Perm (packagedNames t s d.entries))
      ∨ ∃ name existing, Collides t s d assets name existing
        ∧ assemble t s d results = .error (.collision name existing) := by
  unfold assemble
  dsimp only
  rcases mergeFunctions_spec results { warnings := d.warnings s.config.layout } [] (fun name => by
    simp [Catalog.keys, Catalog.empty]) List.Pairwise.nil hended with
    ⟨hdistinct, functions, hfunctions⟩ | ⟨existing, name, hsub, hfold, herror⟩
  · rw [List.nil_append, hnames] at hdistinct
    obtain ⟨accounts, rfl, -⟩ := exists_accounts_of_ended halone hended
    obtain ⟨houtputs, -, -⟩ := mergeFunctions_accounts hfunctions
    have hkeys : ∀ name, name ∈ functions.outputs.keys ↔ name ∈ packagedNames t s d.entries := by
      intro name
      rw [← hnames, ← names_outputs]
      exact (houtputs.map Prod.fst).mem_iff
    rw [hfunctions, hassets, hroutes]
    rcases mergeStatics_spec (m := functions) assets.nodup_keys with
      ⟨hfree, all, hall⟩ | ⟨⟨name, asset⟩, hasset, htaken, herror⟩
    · obtain ⟨hstatics, -, -⟩ := mergeStatics_accounts hall
      refine .inl ⟨not_collides hdistinct fun asset hasset hmem =>
        hfree asset hasset ((hkeys _).2 hmem), hdistinct, { all with routes }, ?_, ?_⟩
      · show Except.bind (mergeStatics functions assets.entries) _ = _
        rw [hall]
        rfl
      · rw [← hnames]
        exact perm_functions (hstatics.trans (houtputs.append_right _))
    · obtain ⟨entry, hentry, hpackaged, rfl⟩ := mem_packagedNames.1 ((hkeys _).1 htaken)
      refine .inr ⟨_, _, .asset hentry hpackaged (Catalog.find?_eq_some_iff_mem.2 hasset), ?_⟩
      show Except.bind (mergeStatics functions assets.entries) _ = _
      rw [herror]
      rfl
  · rw [List.nil_append, hnames] at hsub
    obtain ⟨first, second, hentries, hfirst, hsecond, rfl, rfl⟩ := sublist_packagedNames hsub
    rw [herror]
    exact .inr ⟨_, _, .functions hentries hfirst hsecond hfold, rfl⟩

theorem sequential_spec (h : Settles t project config resolver s d assets routes) :
    ((∀ name existing, ¬ Collides t s d assets name existing)
        ∧ Distinct (packagedNames t s d.entries)
        ∧ ∃ m, sequential t project config resolver = .ok (.ok m)
          ∧ (m.functions.map Prod.fst).Perm (packagedNames t s d.entries))
      ∨ ∃ name existing, Collides t s d assets name existing
        ∧ sequential t project config resolver = .ok (.error (.collision name existing)) := by
  obtain ⟨hs, hd, hended, hassets, hroutes⟩ := h
  obtain ⟨results, hresults, halone, hok, hnames⟩ := exists_results hended
  have hrun : sequential t project config resolver = .ok (assemble t s d results) := by
    rw [sequential_eq, hs]
    simp only [hd]
    rw [hresults]
    rfl
  obtain ⟨exclude, limits, -, -, rfl⟩ := prepare_eq_ok hs
  simp only [hrun, Except.ok.injEq]
  exact assemble_spec halone hok hnames hassets hroutes

/-- Where every function of a run is packaged or omitted, the site is classified and the routes are
made, the run ends with a collision exactly if two functions are packaged under names that differ
in case at most or one under the name of a static asset, and the error tells such names.
Otherwise it ends with a manifest, whose functions are those that were packaged and no two of them
under names that differ in case at most. -/
theorem collision_iff (h : Settles t project config resolver s d assets routes) :
    (∃ o, ComesTo t project config resolver o)
      ∧ ∀ o, ComesTo t project config resolver o →
        ((∃ name existing, o = .ok (.error (.collision name existing)))
            ↔ ∃ name existing, Collides t s d assets name existing)
          ∧ (∀ name existing, o = .ok (.error (.collision name existing)) →
            Collides t s d assets name existing)
          ∧ ((∀ name existing, ¬ Collides t s d assets name existing) →
            ∃ m, o = .ok (.ok m)
              ∧ (m.functions.map Prod.fst).Perm (packagedNames t s d.entries)
              ∧ Distinct (m.functions.map Prod.fst)) := by
  refine ⟨⟨_, comesTo_iff.2 rfl⟩, fun o ho => ?_⟩
  obtain rfl := comesTo_iff.1 ho
  rcases sequential_spec h with
    ⟨hnone, hdistinct, m, hm, hperm⟩ | ⟨name, existing, hcollides, herror⟩
  · rw [hm]
    refine ⟨iff_of_false (by simp) (by simpa using hnone), by simp, fun _ => ⟨m, rfl, hperm, ?_⟩⟩
    exact (hperm.pairwise_iff fun h => Ne.symm h).2 hdistinct
  · rw [herror]
    refine ⟨iff_of_true ⟨name, existing, rfl⟩ ⟨name, existing, hcollides⟩, ?_, fun hnone =>
      absurd hcollides (hnone _ _)⟩
    intro name' existing' heq
    cases heq
    exact hcollides

end Settles

/-- A run settles, as a check. -/
def settles (t : Tree) (project : Path) (config : Config) (resolver : Resolver) : Bool :=
  match prepare project config resolver,
    ((Snapshot.new project).run t (Discovery.run t project config.layout).run).1,
    StaticAsset.classify t (project.resolveFrom config.layout.staticDir),
    Route.synthesize t [] (project.resolveFrom config.layout.staticDir) config.routes with
  | .ok s, .ok (.ok d), .ok _, .ok _ => d.entries.all fun entry =>
    ((alone t s entry).toOption.bind Except.toOption).isSome
  | _, _, _, _ => false

theorem exists_settles (h : settles t project config resolver = true) :
    ∃ s d assets routes, Settles t project config resolver s d assets routes := by
  unfold settles at h
  split at h
  · rename_i s d assets routes hs hd hassets hroutes
    refine ⟨s, d, assets, routes, hs, hd, fun entry hentry => ?_, hassets, hroutes⟩
    have hended := List.all_eq_true.1 h entry hentry
    rcases hentry : alone t s entry with stray | e | o
    · simp [hentry, Except.toOption] at hended
    · simp [hentry, Except.toOption] at hended
    · exact ⟨o, rfl⟩
  · cases h

/-- The names that a collision tells. -/
def collision? : Except Stray (Except PipelineError Manifest) → Option (Text × Text)
  | .ok (.error (.collision name existing)) => some (name, existing)
  | _ => none

theorem eq_of_collision? {o : Except Stray (Except PipelineError Manifest)} {name existing : Text}
    (h : collision? o = some (name, existing)) : o = .ok (.error (.collision name existing)) := by
  unfold collision? at h
  split at h
  · cases h
    rfl
  · cases h

/-- Two functions whose names differ in case. -/
def functionsInTwoCases : Tree :=
  Import.projectWith [(["api"], .dir), (["api", "dist"], .dir),
    (["api", "dist", "functions"], .dir),
    (["api", "dist", "functions", "A.js"], .file (ByteArray.mk #[0x31]) 0o644),
    (["api", "dist", "functions", "a.js"], .file (ByteArray.mk #[0x32]) 0o644)]

theorem collision_iff_functionsInTwoCases :
    ∃ s d assets routes,
      Settles functionsInTwoCases "/p".toList {} (Import.resolver 1) s d assets routes
        ∧ Collides functionsInTwoCases s d assets "api/a".toList "api/A".toList := by
  obtain ⟨s, d, assets, routes, h⟩ := exists_settles
    (show settles functionsInTwoCases "/p".toList {} (Import.resolver 1) = true by decide +kernel)
  have hcollision := eq_of_collision?
    (show collision? (sequential functionsInTwoCases "/p".toList {} (Import.resolver 1))
      = some ("api/a".toList, "api/A".toList) by decide +kernel)
  obtain ⟨-, hruns⟩ := collision_iff h
  obtain ⟨-, htells, -⟩ := hruns _ (.oneByOne rfl)
  exact ⟨s, d, assets, routes, h, htells _ _ hcollision⟩

end Pipeline

end AppBundle
