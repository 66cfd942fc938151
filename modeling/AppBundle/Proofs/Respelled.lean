import AppBundle.Proofs.Shipped
import AppBundle.Proofs.Strays

/-!
# Exclusions and the spelling of a path

A trace tests the paths that a resolver reports as they are spelled, while packaging reads each of
them at its normal form. A unit has therefore no file that is excluded under its own path, other
than the entrypoint's, exactly where no reported path is excluded under its normal form only
(`nothing_excluded_iff`).

This holds of every report of normal paths, and of what a scan reports in an absolute project
(`judgedAlike_of_scan`).
-/

namespace AppBundle

open Reading

/-! ## Snapshots -/

namespace Snapshot

variable {α : Type} {s : Snapshot}

/-- Every file that the snapshot remembers has the path that it is remembered under. -/
def Filed (s : Snapshot) : Prop :=
  ∀ key f, s.entries.find? key = some (some f) → f.path = key

theorem filed_new (root : Path) : (new root).Filed := by
  intro key f h
  simp [new] at h

theorem Filed.read (h : s.Filed) (t : Tree) (p : Path) : (s.read t p).2.Filed := by
  rcases hp : p.normalize with _ | key
  · rw [read_outside hp]
    exact h
  · rcases hk : s.entries.find? key with _ | known
    · rcases hl : load t s.root key with e | found
      · rw [read_failed hp hk hl]
        exact h
      · rw [read_loaded hp hk hl]
        intro key' f hf
        rw [Catalog.find?_insert] at hf
        split at hf
        · rename_i heq
          cases hf
          exact (path_of_load hl).trans heq.symm
        · exact h key' f hf
    · rw [read_known hp hk]
      exact h

/-- What was read of any trees before, files are remembered under their paths. -/
theorem Filed.run (t : Tree) : ∀ {s : Snapshot}, s.Filed → ∀ r : Reading α, (s.run t r).2.Filed
  | _, h, .done _ => h
  | _, h, .stray _ => h
  | s, h, .ask p next => Filed.run t (h.read t p) (next (s.read t p).1)

theorem Filed.path_of_answers {t : Tree} {p : Path} {f : ProjectFile} (h : s.Filed)
    (hf : s.answers t p = .ok (some f)) : p.normalize = some f.path := by
  rcases hp : p.normalize with _ | key
  · simp only [answers, hp] at hf
    cases hf
  · rcases hk : s.entries.find? key with _ | known
    · rw [answers_unknown hp hk] at hf
      rw [path_of_load hf]
    · rw [answers_known hp hk] at hf
      cases hf
      rw [h key f hk]

end Snapshot

/-! ## Units -/

namespace FunctionUnit

variable {source : Path → Answer} {layout : Layout} {handlerExport : Text} {limits : LimitTable}
  {entry : FunctionEntry} {trace : Trace} {unit : FunctionUnit}

theorem there_of_addFiles : ∀ {paths : List Path} {files files' : Catalog Path ProjectFile},
    Yields source (addFiles files paths) files' → ∀ p ∈ paths,
      (∃ f, files.find? p = some f) ∨ ∃ f, source p = .ok (some f)
  | q :: paths, files, files', h, p, hp => by
    unfold addFiles at h
    split at h
    · rename_i hthere
      rcases List.mem_cons.1 hp with rfl | hp
      · exact .inl (Option.isSome_iff_exists.1 hthere)
      · exact there_of_addFiles h p hp
    · obtain ⟨found, hfound, h⟩ := yields_bind.1 h
      rw [yields_adapt, yields_file] at hfound
      cases found with
      | none => exact absurd h not_yields_throw
      | some file =>
        rcases List.mem_cons.1 hp with rfl | hp
        · exact .inr ⟨file, hfound⟩
        · have hrest := there_of_addFiles h p hp
          rw [Catalog.find?_insert] at hrest
          split at hrest
          · rename_i heq
            exact .inr ⟨file, heq ▸ hfound⟩
          · exact hrest

/-- Packaging leaves out no file of the trace. -/
theorem exists_of_mem_trace
    (h : Yields source (package layout handlerExport limits entry trace) unit) {p : Path}
    (hp : p ∈ trace.files) : ∃ f, unit.files.find? p = some f := by
  have hthere : ∃ f, source p = .ok (some f) := by
    have hpackage := h
    unfold package at hpackage
    split at hpackage
    · exact absurd hpackage not_yields_throw
    · split at hpackage
      · exact absurd hpackage not_yields_throw
      · obtain ⟨found, hfound, hpackage⟩ := yields_bind.1 hpackage
        rw [yields_adapt, yields_file] at hfound
        cases found with
        | none => exact absurd hpackage not_yields_throw
        | some file =>
          obtain ⟨files, hfiles, -⟩ := yields_bind.1 hpackage
          have hlisted := there_of_addFiles hfiles p hp
          rw [Catalog.find?_insert, Catalog.find?_empty] at hlisted
          split at hlisted
          · rename_i heq
            exact ⟨file, heq ▸ hfound⟩
          · exact hlisted.resolve_left (by simp)
  obtain ⟨f, hf⟩ := hthere
  exact ⟨f, ((yields_package h).2 p f).2 ⟨.inr hp, hf⟩⟩

end FunctionUnit

/-! ## Traces -/

namespace Trace

variable {exclude : Ignore} {entrypoint : Path}

/-- No path of a list is excluded under its normal form only, those of the entrypoint apart. -/
def JudgedAlike (exclude : Ignore) (entrypoint : Path) (paths : List Path) : Prop :=
  ∀ p ∈ paths, exclude.check p = .ok false → ∀ key ∈ p.normalize,
    entrypoint.normalize ≠ some key → exclude.check key = .ok false

instance (exclude : Ignore) (entrypoint : Path) (paths : List Path) :
    Decidable (JudgedAlike exclude entrypoint paths) :=
  inferInstanceAs (Decidable (∀ p ∈ paths, exclude.check p = .ok false → ∀ key ∈ p.normalize,
    entrypoint.normalize ≠ some key → exclude.check key = .ok false))

theorem judgedAlike_of_normal {paths : List Path} (h : ∀ p ∈ paths, p.Normal) :
    JudgedAlike exclude entrypoint paths := by
  intro p hp hcheck key hkey _
  have hnormal : p.normalize = some p := h p hp
  cases hkey.symm.trans hnormal
  exact hcheck

/-- In an absolute project whose path does not open those of an index and of a manifest of the root
as a text, a scan reports no path that is excluded under its normal form only. -/
theorem judgedAlike_of_scan {source : Path → Answer} {limit : Nat} {options : ScanOptions}
    {scanned : Path} {r : Resolution} (hroot : options.exclude.root.head? = some '/')
    (hopens : ∀ c, Import.RootSpelled options.typescript c → ¬ options.exclude.root <+: c)
    (h : Yields source (Import.resolver limit options scanned) r) :
    JudgedAlike options.exclude entrypoint r.files := by
  intro p hp hcheck key hkey _
  have hspelled : Import.Spelled options.typescript p := by
    obtain ⟨entry, hentry, hreached⟩ := Import.mem_files_iff_reached h
    cases (hreached p).1 hp with
    | refl => exact .inl (Path.normal_of_normalize hentry)
    | tail _ hlead =>
      obtain ⟨_, -, _, hfinding⟩ := hlead
      exact hfinding.spelled
  rcases hspelled with hnormal | hslash
  · cases hkey.symm.trans hnormal
    exact hcheck
  · -- Rules could not have judged such a path, so that there are none.
    have hjudged := (Import.check_spelled hroot (.inr hslash)).not.1 (by simp [hcheck])
    have hrules : options.exclude.rules = [] := by
      by_contra hrules
      exact hjudged ⟨hslash, hrules, hopens p hslash⟩
    simp [Ignore.check, hrules]

theorem exists_relative {source : Path → Answer} {resolver : Resolver} {root path : Path}
    {trace : Trace} (h : Yields source (Trace.entrypoint resolver root exclude path) trace) :
    ∃ relative, Path.relativeTo? root path = some relative := by
  unfold Trace.entrypoint at h
  split at h
  · exact absurd h not_yields_throw
  · rename_i relative hrelative
    exact ⟨relative, hrelative⟩

end Trace

namespace FunctionUnit

variable {layout : Layout} {handlerExport : Text} {limits : LimitTable} {entry : FunctionEntry}
  {trace : Trace} {unit : FunctionUnit}

/-- Whatever resolver an entrypoint is traced with, and whatever the tree has become when it is
packaged, the unit has no excluded file but the entrypoint's exactly where no path that the
resolver reported is excluded under its normal form only. -/
theorem nothing_excluded_iff {resolver : Resolver} {root path : Path} {exclude : Ignore}
    {s s' : Snapshot} {t t' : Tree} (hfiled : s.Filed)
    (htrace : s.run t (Trace.entrypoint resolver root exclude path).run = (.ok (.ok trace), s'))
    (hunit : (s'.run t' (package layout handlerExport limits entry trace).run).1
      = .ok (.ok unit)) :
    ∃ relative r, Path.relativeTo? root path = some relative
      ∧ (s.run t (resolver { exclude } relative).run).1 = .ok (.ok r)
      ∧ ((∀ p f, unit.files.find? p = some f →
            entry.relativeEntrypoint.normalize ≠ some f.path → exclude.check f.path = .ok false)
          ↔ Trace.JudgedAlike exclude entry.relativeEntrypoint r.files)
      ∧ ((∀ p ∈ r.files, p.Normal) → ∀ p f, unit.files.find? p = some f →
            entry.relativeEntrypoint.normalize ≠ some f.path →
              exclude.check f.path = .ok false) := by
  have htraced : Yields (s.answers t) (Trace.entrypoint resolver root exclude path) trace :=
    (Snapshot.run_eq_answer t s _).symm.trans (congrArg Prod.fst htrace)
  have hpackaged :
      Yields (s'.answers t') (package layout handlerExport limits entry trace) unit :=
    (Snapshot.run_eq_answer t' s' _).symm.trans hunit
  have hfiled' : s'.Filed := by
    have hrun := hfiled.run t (Trace.entrypoint resolver root exclude path).run
    rw [htrace] at hrun
    exact hrun
  obtain ⟨relative, hrelative⟩ := Trace.exists_relative htraced
  obtain ⟨r, hr, hkept⟩ := Trace.exists_resolution hrelative htraced
  have hpath : ∀ {p f}, unit.files.find? p = some f → p.normalize = some f.path := fun hp =>
    hfiled'.path_of_answers (((yields_package hpackaged).2 _ _).1 hp).2
  have hiff : (∀ p f, unit.files.find? p = some f →
        entry.relativeEntrypoint.normalize ≠ some f.path → exclude.check f.path = .ok false)
      ↔ Trace.JudgedAlike exclude entry.relativeEntrypoint r.files := by
    constructor
    · intro hall p hp hcheck key hkey hne
      obtain ⟨f, hf⟩ :=
        exists_of_mem_trace hpackaged ((Trace.mem_ofResolution hkept).2 ⟨hp, hcheck⟩)
      cases hkey.symm.trans (hpath hf)
      exact hall p f hf hne
    · intro halike p f hp hne
      rcases (((yields_package hpackaged).2 p f).1 hp).1 with rfl | hmem
      · exact absurd (hpath hp) hne
      · obtain ⟨hreported, hcheck⟩ := (Trace.mem_ofResolution hkept).1 hmem
        exact halike p hreported hcheck f.path (hpath hp) hne
  exact ⟨relative, r, hrelative, (Snapshot.run_eq_answer t s _).trans hr, hiff,
    fun hnormal => hiff.2 (Trace.judgedAlike_of_normal hnormal)⟩

/-- A function, and two more files beside it. -/
def withLibrary : Tree :=
  Pipeline.functionsOnly [(["a.js"], .file ByteArray.empty 0o644), (["lib"], .dir),
    (["lib", "b.js"], .file ByteArray.empty 0o644), (["lib", "c.js"], .file ByteArray.empty 0o644)]

/-- The function of that project. -/
def functionA : FunctionEntry where
  outputName := "api/a".toList
  entrypoint := "/p/api/dist/functions/a.js".toList
  relativeEntrypoint := "api/dist/functions/a.js".toList
  sourcePath := some "api/src/functions/a.js".toList

/-- A list that excludes one of the files beside it. -/
def excludingLibB : Ignore :=
  match Ignore.build "/p".toList ["api/dist/functions/lib/b.js".toList] with
  | .ok exclude => exclude
  | .error _ => .empty

/-- An entrypoint and other paths as they are spelled. -/
def reported (entrypoint : Path) (paths : List String) : Resolution where
  sourceFiles := Ascending.ofList (entrypoint :: paths.map String.toList)

/-- A resolver that reports the same paths with every entrypoint. -/
def reporting (paths : List String) : Resolver := fun _ entrypoint =>
  return reported entrypoint paths

/-- No override, and no resources. -/
def noLimits : LimitTable := { defaults := ⟨[], 0, 0⟩, overrides := [] }

/-- The function traced with such a resolver and packaged after it. -/
def packagedWith? (paths : List String) : Option FunctionUnit :=
  match (Snapshot.new "/p".toList).run withLibrary
    (Trace.entrypoint (reporting paths) "/p".toList excludingLibB functionA.entrypoint).run with
  | (.ok (.ok trace), s) =>
    match (s.run withLibrary (package {} "handler".toList noLimits functionA trace).run).1 with
    | .ok (.ok unit) => some unit
    | _ => none
  | _ => none

theorem packagedWith?_eq_some {paths : List String} {unit : FunctionUnit}
    (h : packagedWith? paths = some unit) :
    ∃ trace s, (Snapshot.new "/p".toList).run withLibrary
        (Trace.entrypoint (reporting paths) "/p".toList excludingLibB functionA.entrypoint).run
          = (.ok (.ok trace), s)
      ∧ (s.run withLibrary (package {} "handler".toList noLimits functionA trace).run).1
        = .ok (.ok unit) := by
  unfold packagedWith? at h
  split at h
  · rename_i trace s htrace
    split at h
    · rename_i unit' hunit
      cases h
      exact ⟨trace, s, htrace, hunit⟩
    · cases h
  · cases h

theorem nothing_excluded_iff_reported :
    ∃ trace s unit, (Snapshot.new "/p".toList).run withLibrary
        (Trace.entrypoint
          (reporting ["api/dist/functions/lib/b.js", "api/dist/functions/lib/./c.js"]) "/p".toList
          excludingLibB functionA.entrypoint).run = (.ok (.ok trace), s)
      ∧ (s.run withLibrary (package {} "handler".toList noLimits functionA trace).run).1
        = .ok (.ok unit)
      ∧ unit.files.keys
        = ["api/dist/functions/a.js".toList, "api/dist/functions/lib/./c.js".toList]
      ∧ ∀ p f, unit.files.find? p = some f →
          Path.normalize functionA.relativeEntrypoint ≠ some f.path →
            excludingLibB.check f.path = .ok false := by
  have hrun : (packagedWith? ["api/dist/functions/lib/b.js", "api/dist/functions/lib/./c.js"]).map
      (fun unit => unit.files.keys)
        = some ["api/dist/functions/a.js".toList, "api/dist/functions/lib/./c.js".toList] := by
    decide +kernel
  have hrelative : Path.relativeTo? "/p".toList functionA.entrypoint
      = some functionA.relativeEntrypoint := by
    decide +kernel
  have halike : Trace.JudgedAlike excludingLibB functionA.relativeEntrypoint
      (reported functionA.relativeEntrypoint
        ["api/dist/functions/lib/b.js", "api/dist/functions/lib/./c.js"]).files := by
    decide +kernel
  obtain ⟨unit, hunit, hkeys⟩ := Option.map_eq_some_iff.1 hrun
  obtain ⟨trace, s, htrace, hpackage⟩ := packagedWith?_eq_some hunit
  obtain ⟨relative, r, hrelative', hr, hiff, -⟩ :=
    nothing_excluded_iff (Snapshot.filed_new _) htrace hpackage
  cases hrelative.symm.trans hrelative'
  obtain rfl : reported functionA.relativeEntrypoint _ = r := Except.ok.inj (Except.ok.inj hr)
  exact ⟨trace, s, unit, htrace, hpackage, hkeys, hiff.2 halike⟩

/-- A file that is reported under a path with a dot in it is shipped although it is excluded. -/
theorem dotted_path_ships_excluded :
    ∃ trace s unit f, (Snapshot.new "/p".toList).run withLibrary
        (Trace.entrypoint (reporting ["api/dist/functions/lib/./b.js"]) "/p".toList excludingLibB
          functionA.entrypoint).run = (.ok (.ok trace), s)
      ∧ (s.run withLibrary (package {} "handler".toList noLimits functionA trace).run).1
        = .ok (.ok unit)
      ∧ unit.files.find? "api/dist/functions/lib/./b.js".toList = some f
      ∧ f.path = "api/dist/functions/lib/b.js".toList
      ∧ Path.normalize functionA.relativeEntrypoint ≠ some f.path
      ∧ excludingLibB.check f.path = .ok true := by
  have hrun : ((packagedWith? ["api/dist/functions/lib/./b.js"]).bind fun unit =>
      unit.files.find? "api/dist/functions/lib/./b.js".toList).map ProjectFile.path
        = some "api/dist/functions/lib/b.js".toList := by
    decide +kernel
  have hexcluded : Path.normalize functionA.relativeEntrypoint
        ≠ some "api/dist/functions/lib/b.js".toList
      ∧ excludingLibB.check "api/dist/functions/lib/b.js".toList = .ok true := by
    decide +kernel
  obtain ⟨f, hf, hpath⟩ := Option.map_eq_some_iff.1 hrun
  obtain ⟨unit, hunit, hfile⟩ := Option.bind_eq_some_iff.1 hf
  obtain ⟨trace, s, htrace, hpackage⟩ := packagedWith?_eq_some hunit
  exact ⟨trace, s, unit, f, htrace, hpackage, hfile, hpath, hpath ▸ hexcluded⟩

end FunctionUnit

end AppBundle
