import AppBundle.Proofs.Assembly
import AppBundle.Proofs.Links
import AppBundle.Proofs.Steps
import AppBundle.Proofs.Strays

/-!
# Entrypoints in their units

A unit has its entrypoint under the path of the file below the project, read at the normal form of
that path. The file that discovery found is at an absolute path, read as it is spelled. They are
the same where the path below the project has no backslash, which the normal form takes for a
slash, and does not go up, which the normal form undoes without a look at the tree
(`entrypoint_shipped`).
-/

namespace AppBundle

open Reading

namespace FunctionUnit

variable {source : Path → Answer} {layout : Layout} {handlerExport : Text} {limits : LimitTable}
  {entry : FunctionEntry} {trace : Trace} {unit : FunctionUnit}

theorem handler?_nil (layout : Layout) (handlerExport : Text) :
    handler? layout handlerExport [] = none := by
  unfold handler? within?
  rcases Path.normalize layout.functionsDir with _ | dir
  · rfl
  · cases dir <;> rfl

/-- A function is packaged only with a handler, so that its entrypoint is not the project root. -/
theorem relative_ne_nil (h : Yields source (package layout handlerExport limits entry trace) unit) :
    entry.relativeEntrypoint ≠ [] := by
  intro hnil
  unfold package at h
  rw [hnil, handler?_nil] at h
  split at h <;> exact not_yields_throw h

end FunctionUnit

namespace Pipeline

variable {t : Tree} {project : Path} {config : Config} {resolver : Resolver}

/-- The path of the entrypoint below the project has no backslash and does not go up. -/
def SpelledPlainly (project : Path) (entry : FunctionEntry) : Prop :=
  '\\' ∉ entry.relativeEntrypoint
    ∧ ∀ below ∈ Path.below? project entry.entrypoint, Path.Component.up ∉ below

instance (project : Path) (entry : FunctionEntry) : Decidable (SpelledPlainly project entry) :=
  inferInstanceAs (Decidable ('\\' ∉ entry.relativeEntrypoint
    ∧ ∀ below ∈ Path.below? project entry.entrypoint, Path.Component.up ∉ below))

/-- A file at an absolute path that is spelled plainly is the one that is read at its path below
the project. -/
theorem content_of_spelledPlainly {entry : FunctionEntry} {f : ProjectFile} {content : ByteArray}
    {permissions : Nat}
    (hrelative : Path.relativeTo? project entry.entrypoint = some entry.relativeEntrypoint)
    (hplain : SpelledPlainly project entry) (hne : entry.relativeEntrypoint ≠ [])
    (hf : Snapshot.source t project entry.relativeEntrypoint = .ok (some f))
    (hfile : t.status [] entry.entrypoint = .ok (.file content permissions)) :
    f.content = content := by
  obtain ⟨hnormal, hsteps⟩ := Path.steps_of_relativeTo? hrelative hplain.2 hplain.1
  have hload : Snapshot.load t project entry.relativeEntrypoint = .ok (some f) :=
    (Snapshot.source_of_some hnormal).symm.trans hf
  have hnames : Tree.undotted (Tree.walkNames (project.resolveFrom entry.relativeEntrypoint))
      = Tree.undotted (Tree.walkNames entry.entrypoint) := by
    rw [Path.undotted_walkNames, Path.undotted_walkNames, hsteps,
      Path.steps_resolveFrom _ hnormal.head?_ne]
  obtain ⟨place, hplace, -⟩ := Snapshot.load_eq_some hload
  obtain ⟨found, hfound, hentry⟩ := Tree.entryAt_eq_ok.1 hfile
  have hlocated : t.locate true [] (project.resolveFrom entry.relativeEntrypoint) = .ok found :=
    Tree.locate_of_undotted hnames (hnormal.getLast?_walkNames hne project) hfound hplace
  have hstatus : t.status [] (project.resolveFrom entry.relativeEntrypoint)
      = .ok (.file content permissions) := Tree.entryAt_eq_ok.2 ⟨found, hlocated, hentry⟩
  have hcontent := Snapshot.content_of_load hload
  rw [hstatus] at hcontent
  exact (Option.some.inj hcontent).symm

/-- Every function that is packaged is in the manifest under its name, and its unit has, under the
path of the entrypoint below the project, what is read at the normal form of that path. These are
the bytes of the file that discovery found at the absolute path exactly where both paths lead to
the same bytes, and so they are where the path is spelled plainly. -/
theorem entrypoint_shipped {m : Manifest} (hvalid : config.validate = .ok ())
    (h : ((Snapshot.new project).run t (run t project config resolver).run).1 = .ok (.ok m)) :
    ∃ s d, prepare project config resolver = .ok s
      ∧ ((Snapshot.new project).run t (Discovery.run t project config.layout).run).1 = .ok (.ok d)
      ∧ ∀ entry ∈ d.entries, ∀ unit warnings,
        alone t s entry = .ok (.ok (.packaged unit, warnings)) →
        m.outputs.find? entry.outputName = some (.function unit)
          ∧ ∃ key f, entry.relativeEntrypoint.normalize = some key
            ∧ Snapshot.load t project key = .ok (some f)
            ∧ unit.files.find? entry.relativeEntrypoint = some f
            ∧ ∀ content permissions,
              t.status [] entry.entrypoint = .ok (.file content permissions) →
              (f.content = content ↔ Snapshot.contentOf? (t.status [] (project.resolveFrom key))
                  = Snapshot.contentOf? (t.status [] entry.entrypoint))
                ∧ (SpelledPlainly project entry → f.content = content) := by
  obtain ⟨s, d, results, hs, hd, -, -⟩ := sequential_eq_ok h
  refine ⟨s, d, hs, hd, fun entry hentry unit warnings hunit => ?_⟩
  refine ⟨find?_of_packaged h hs hd hentry hunit, ?_⟩
  rw [Snapshot.run_new] at hd
  obtain ⟨hrelative, -⟩ := Discovery.yields_run (validate_layout hvalid) hd entry hentry
  obtain ⟨trace, -, hpackage, -⟩ := exists_trace_of_packaged hunit
  rw [prepare_project hs] at hpackage
  have hne := FunctionUnit.relative_ne_nil hpackage
  obtain ⟨⟨f, hf⟩, hfind⟩ := FunctionUnit.yields_package hpackage
  have hkey := Snapshot.path_of_source hf
  have hload : Snapshot.load t project f.path = .ok (some f) :=
    (Snapshot.source_of_some hkey).symm.trans hf
  have hcontent := Snapshot.content_of_load hload
  refine ⟨f.path, f, hkey, hload, (hfind _ f).2 ⟨.inl rfl, hf⟩, fun content permissions hfile => ?_⟩
  refine ⟨?same, ?plain⟩
  case same =>
    rw [hcontent, hfile]
    exact ⟨fun heq => congrArg some heq, Option.some.inj⟩
  case plain => exact fun hplain => content_of_spelledPlainly hrelative hplain hne hf hfile

/-- The unit of a function that is packaged alone. -/
def packaged? (t : Tree) (s : Setting) (entry : FunctionEntry) : Option FunctionUnit :=
  match alone t s entry with
  | .ok (.ok (.packaged unit, _)) => some unit
  | _ => none

theorem packaged?_eq_some {s : Setting} {entry : FunctionEntry} {unit : FunctionUnit} :
    packaged? t s entry = some unit
      ↔ ∃ warnings, alone t s entry = .ok (.ok (.packaged unit, warnings)) := by
  unfold packaged?
  rcases alone t s entry with stray | e | ⟨unit' | reason, warnings⟩ <;> simp

/-- The bytes that a unit has under a path. -/
def bytesAt? (unit : FunctionUnit) (p : Path) : Option (List UInt8) :=
  (unit.files.find? p).map fun f => f.content.toList

/-- A run that is known to end, with the one function that it discovers and packages. -/
theorem exists_run (t : Tree) (project : Path) (config : Config) (resolver : Resolver)
    (entry : FunctionEntry) (bytes : List UInt8)
    (hrun : ((sequential t project config resolver).toOption.bind Except.toOption).isSome = true)
    (hentries : (yield? (Snapshot.source t project)
      (Discovery.run t project config.layout)).map Discovery.entries = some [entry])
    (hunit : ((prepare project config resolver).toOption.bind fun s =>
      (packaged? t s entry).bind fun unit => bytesAt? unit entry.relativeEntrypoint)
        = some bytes) :
    ∃ m s d unit warnings f,
      ((Snapshot.new project).run t (run t project config resolver).run).1 = .ok (.ok m)
        ∧ prepare project config resolver = .ok s
        ∧ ((Snapshot.new project).run t (Discovery.run t project config.layout).run).1
          = .ok (.ok d)
        ∧ entry ∈ d.entries ∧ alone t s entry = .ok (.ok (.packaged unit, warnings))
        ∧ unit.files.find? entry.relativeEntrypoint = some f ∧ f.content.toList = bytes := by
  rcases h : sequential t project config resolver with stray | e | m
  · rw [h] at hrun
    cases hrun
  · rw [h] at hrun
    cases hrun
  · obtain ⟨s, d, results, hs, hd, -, -⟩ := sequential_eq_ok h
    have hyields : Yields (Snapshot.source t project) (Discovery.run t project config.layout) d :=
      (Snapshot.run_new t project _).symm.trans hd
    rw [(yield?_eq_some _).2 hyields] at hentries
    have hmem : entry ∈ d.entries := by
      rw [Option.some.inj hentries]
      exact List.mem_singleton_self entry
    rw [hs] at hunit
    change (packaged? t s entry).bind _ = some bytes at hunit
    obtain ⟨unit, hpackaged, hbytes⟩ := Option.bind_eq_some_iff.1 hunit
    obtain ⟨warnings, halone⟩ := packaged?_eq_some.1 hpackaged
    obtain ⟨f, hf, hcontent⟩ := Option.map_eq_some_iff.1 hbytes
    exact ⟨m, s, d, unit, warnings, f, h, hs, hd, hmem, halone, hf, hcontent⟩

/-- A project at `/p` with these entries in its functions directory. -/
def functionsOnly (entries : List (List String × Entry)) : Tree :=
  Import.projectWith ([(["api"], .dir), (["api", "dist"], .dir),
    (["api", "dist", "functions"], .dir)]
      ++ entries.map fun e => (["api", "dist", "functions"] ++ e.1, e.2))

/-- A function in the functions directory. -/
def plainName : Tree := functionsOnly [(["a.js"], .file (ByteArray.mk #[0x31]) 0o644)]

/-- A layout that spells the functions directory with a dot and two slashes. -/
def dotted : Config := { layout := { functionsDir := "./api//dist/functions".toList } }

/-- The function as it is found under that layout. -/
def plainEntry : FunctionEntry where
  outputName := "api/a".toList
  entrypoint := "/p/./api//dist/functions/a.js".toList
  relativeEntrypoint := "api/dist/functions/a.js".toList
  sourcePath := some "api/src/functions/a.js".toList

theorem entrypoint_shipped_dotted :
    dotted.validate = .ok () ∧ SpelledPlainly "/p".toList plainEntry
      ∧ plainName.status [] plainEntry.entrypoint = .ok (.file (ByteArray.mk #[0x31]) 0o644)
      ∧ ∃ m unit f, ((Snapshot.new "/p".toList).run plainName
            (run plainName "/p".toList dotted (Import.resolver 1)).run).1 = .ok (.ok m)
        ∧ m.outputs.find? "api/a".toList = some (.function unit)
        ∧ unit.files.find? "api/dist/functions/a.js".toList = some f
        ∧ f.content = ByteArray.mk #[0x31] := by
  have hplain : SpelledPlainly "/p".toList plainEntry := by decide +kernel
  have hfile : plainName.status [] plainEntry.entrypoint
      = .ok (.file (ByteArray.mk #[0x31]) 0o644) := rfl
  obtain ⟨m, s, d, unit, warnings, -, hm, hs, hd, hentry, hunit, -⟩ :=
    exists_run plainName "/p".toList dotted (Import.resolver 1) plainEntry [0x31]
      (by decide +kernel) (by decide +kernel) (by decide +kernel)
  obtain ⟨s', d', hs', hd', hall⟩ := entrypoint_shipped rfl hm
  cases hs.symm.trans hs'
  cases hd.symm.trans hd'
  obtain ⟨houtput, key, f, -, -, hf, hcontent⟩ := hall plainEntry hentry unit warnings hunit
  exact ⟨rfl, hplain, hfile, m, unit, f, hm, houtput, hf, (hcontent _ _ hfile).2 hplain⟩

/-- Two files whose paths differ in a slash and a backslash; only the first is a function. -/
def slashed : Tree :=
  functionsOnly [(["a\\b.js"], .file (ByteArray.mk #[0x31]) 0o644), (["a"], .dir),
    (["a", "b.js"], .file (ByteArray.mk #[0x32]) 0o644)]

/-- The function as it is found. -/
def backslashEntry : FunctionEntry where
  outputName := "api/a\\b".toList
  entrypoint := "/p/api/dist/functions/a\\b.js".toList
  relativeEntrypoint := "api/dist/functions/a\\b.js".toList
  sourcePath := some "api/src/functions/a/b.js".toList

/-- The unit of a function with a backslash in its name has the bytes of another file under the
path of the function. -/
theorem backslash_ships_another_file :
    ∃ m s d unit warnings f,
      ((Snapshot.new "/p".toList).run slashed
          (run slashed "/p".toList {} (Import.resolver 1)).run).1 = .ok (.ok m)
        ∧ prepare "/p".toList {} (Import.resolver 1) = .ok s
        ∧ ((Snapshot.new "/p".toList).run slashed
          (Discovery.run slashed "/p".toList {}).run).1 = .ok (.ok d)
        ∧ backslashEntry ∈ d.entries
        ∧ alone slashed s backslashEntry = .ok (.ok (.packaged unit, warnings))
        ∧ m.outputs.find? backslashEntry.outputName = some (.function unit)
        ∧ unit.files.find? backslashEntry.relativeEntrypoint = some f
        ∧ slashed.status [] backslashEntry.entrypoint = .ok (.file (ByteArray.mk #[0x31]) 0o644)
        ∧ f.content ≠ ByteArray.mk #[0x31] := by
  obtain ⟨m, s, d, unit, warnings, f, hm, hs, hd, hentry, hunit, hf, hbytes⟩ :=
    exists_run slashed "/p".toList {} (Import.resolver 1) backslashEntry [0x32]
      (by decide +kernel) (by decide +kernel) (by decide +kernel)
  refine ⟨m, s, d, unit, warnings, f, hm, hs, hd, hentry, hunit,
    find?_of_packaged hm hs hd hentry hunit, hf, rfl, fun hcontent => ?_⟩
  rw [hcontent] at hbytes
  exact absurd hbytes (by decide +kernel)

end Pipeline

end AppBundle
