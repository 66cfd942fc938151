import AppBundle.Proofs.Accounts
import AppBundle.Proofs.Discovered

/-!
# Handlers

The name of a function and its handler are cut from different spellings of the path of its file:
the name from the path as it was walked, the handler from the normal forms of that path below the
project and of the functions directory. Without backslashes both come to the names of the file
below the functions directory, without the extension (`handlers_agree`), however the directory is
spelled. So two functions of a manifest never share a handler.
-/

namespace AppBundle

open Reading

namespace FunctionUnit

variable {source : Path → Answer} {layout : Layout} {handlerExport : Text} {limits : LimitTable}
  {entry : FunctionEntry} {trace : Trace} {unit : FunctionUnit}

theorem handler_of_package
    (h : Yields source (package layout handlerExport limits entry trace) unit) :
    handler? layout handlerExport entry.relativeEntrypoint = some unit.handler := by
  unfold package at h
  split at h
  · exact absurd h not_yields_throw
  · split at h
    · exact absurd h not_yields_throw
    · rename_i handler hhandler
      obtain ⟨found, -, h⟩ := yields_bind.1 h
      split at h
      · exact absurd h not_yields_throw
      · obtain ⟨files, -, h⟩ := yields_bind.1 h
        split at h
        · cases yields_pure.1 h
          exact hhandler
        · exact absurd h not_yields_stray

end FunctionUnit

namespace Pipeline

variable {t : Tree} {project : Path} {config : Config} {resolver : Resolver}

/-- The function is named by the path of its file below the functions directory, and its handler is
that path too, both without the extension. -/
def NamedAlike (project : Path) (config : Config) (entry : FunctionEntry) (unit : FunctionUnit) :
    Prop :=
  ∃ within, Path.relativeTo? (project.resolveFrom config.layout.functionsDir) entry.entrypoint
      = some within
    ∧ entry.outputName = config.layout.apiPrefix ++ '/' :: within.stripExtension
    ∧ unit.handler = within.stripExtension ++ '.' :: config.functions.handlerExport

theorem namedAlike_of_packaged {s : Setting} {d : Discovery} (hvalid : config.validate = .ok ())
    (hplain : Discovery.PlainlyNamed t project config.layout)
    (hs : prepare project config resolver = .ok s)
    (hd : Yields (Snapshot.source t project) (Discovery.run t project config.layout) d)
    {entry : FunctionEntry} (hentry : entry ∈ d.entries) {unit : FunctionUnit}
    {warnings : List Warning} (hunit : alone t s entry = .ok (.ok (.packaged unit, warnings))) :
    NamedAlike project config entry unit := by
  obtain ⟨files, hfiles, names, hmem, hrole, hyields⟩ := Discovery.exists_file_of_run hd hentry
  obtain ⟨-, hentrypoint, hname, -⟩ := Discovery.entryAt_eq hyields
  obtain ⟨dirs, hlocated⟩ :=
    Discovery.located_of_file (validate_layout hvalid) hplain hfiles hmem hrole hyields
  have hnames := hplain.files files hfiles names hmem
  have hwithin : Path.Normal (Text.joinBy '/' names) := Path.normal_joinBy hnames
  obtain ⟨trace, -, hpackage, -⟩ := exists_trace_of_packaged hunit
  obtain ⟨exclude, limits, -, -, rfl⟩ := prepare_eq_ok hs
  have hhandler := FunctionUnit.handler_of_package hpackage
  rw [hlocated.relative, FunctionUnit.handler?_joinBy _ hlocated.dir hlocated.dirs_ne
    hlocated.isName hlocated.names_ne] at hhandler
  refine ⟨Text.joinBy '/' names, ?_, hname, (Option.some.inj hhandler).symm⟩
  rw [hentrypoint, Path.relativeTo?_resolveFrom _ hwithin.head?_ne (Path.noBackslash_joinBy hnames)]
  exact hwithin

/-- Where no name and no spelling of the functions directory has a backslash, every function of a
manifest is named by the path of its file below the functions directory without the extension,
behind the prefix, and its handler is the same path in front of the exported name. Functions of
different names have different handlers. -/
theorem handlers_agree {m : Manifest} {left : Snapshot} (hvalid : config.validate = .ok ())
    (hplain : Discovery.PlainlyNamed t project config.layout)
    (h : Ends t project config resolver m left) :
    (∀ name unit, m.outputs.find? name = some (.function unit) →
      ∃ s d, prepare project config resolver = .ok s
        ∧ ((Snapshot.new project).run t (Discovery.run t project config.layout).run).1 = .ok (.ok d)
        ∧ ∃ entry ∈ d.entries, entry.outputName = name
          ∧ (∃ warnings, alone t s entry = .ok (.ok (.packaged unit, warnings)))
          ∧ NamedAlike project config entry unit)
      ∧ ∀ name name' unit unit', m.outputs.find? name = some (.function unit) →
        m.outputs.find? name' = some (.function unit') → unit.handler = unit'.handler →
          name = name' := by
  have hnamed : ∀ name unit, m.outputs.find? name = some (.function unit) →
      ∃ s d, prepare project config resolver = .ok s
        ∧ ((Snapshot.new project).run t (Discovery.run t project config.layout).run).1 = .ok (.ok d)
        ∧ ∃ entry ∈ d.entries, entry.outputName = name
          ∧ (∃ warnings, alone t s entry = .ok (.ok (.packaged unit, warnings)))
          ∧ NamedAlike project config entry unit := by
    intro name unit hunit
    obtain ⟨s, d, a, hs, hd, hentry, -, hname, -, halone⟩ := exists_account_of_function h hunit
    have hyields : Yields (Snapshot.source t project) (Discovery.run t project config.layout) d :=
      (Snapshot.run_new t project _).symm.trans hd
    exact ⟨s, d, hs, hd, a.entry, hentry, hname, ⟨_, halone⟩,
      namedAlike_of_packaged hvalid hplain hs hyields hentry halone⟩
  refine ⟨hnamed, fun name name' unit unit' hunit hunit' hsame => ?_⟩
  obtain ⟨-, -, -, -, entry, -, rfl, -, within, -, hname, hhandler⟩ := hnamed name unit hunit
  obtain ⟨-, -, -, -, entry', -, rfl, -, within', -, hname', hhandler'⟩ := hnamed name' unit' hunit'
  have hstem : within.stripExtension = within'.stripExtension := by
    rw [hhandler, hhandler'] at hsame
    exact List.append_cancel_right hsame
  rw [hname, hname', hstem]

/-- A layout that spells the functions directory with dots, a way back and slashes. -/
def roundabout : Config := { layout := { functionsDir := "./api//dist/../dist/functions/".toList } }

theorem handlers_agree_roundabout :
    roundabout.validate = .ok ()
      ∧ Discovery.PlainlyNamed Discovery.functionsInDirectories "/p".toList roundabout.layout
      ∧ ∃ m left unit unit',
        Ends Discovery.functionsInDirectories "/p".toList roundabout (Import.resolver 1) m left
        ∧ m.outputs.find? "api/auth/auth".toList = some (.function unit)
        ∧ m.outputs.find? "api/auth".toList = some (.function unit')
        ∧ unit.handler = "auth/auth.handler".toList ∧ unit'.handler ≠ unit.handler := by
  have hvalid : roundabout.validate = .ok () := rfl
  have hplain : Discovery.PlainlyNamed Discovery.functionsInDirectories "/p".toList
      roundabout.layout := by decide +kernel
  obtain ⟨m, hm, hlook⟩ := exists_manifest Discovery.functionsInDirectories "/p".toList roundabout
    (Import.resolver 1)
    (fun m => (((m.outputs.find? "api/auth/auth".toList).bind Output.function?).isSome,
      ((m.outputs.find? "api/auth".toList).bind Output.function?).isSome))
    (show _ = some (true, true) by decide +kernel)
  simp only [Prod.mk.injEq, Option.isSome_iff_exists, Option.bind_eq_some_iff] at hlook
  obtain ⟨⟨unit, output, hfirst, hunit⟩, unit', output', hsecond, hunit'⟩ := hlook
  obtain ⟨left, hends⟩ := exists_ends hm
  obtain ⟨hnamed, hdistinct⟩ := handlers_agree hvalid hplain hends
  cases output with
  | static asset => cases hunit
  | function unit =>
    cases output' with
    | static asset => cases hunit'
    | function unit' =>
      obtain ⟨-, -, -, -, entry, -, hname, -, within, -, hstem, hhandler⟩ := hnamed _ _ hfirst
      have hbehind : "api/".toList ++ within.stripExtension = "api/".toList ++ "auth/auth".toList :=
        hstem.symm.trans hname
      have hwithin : within.stripExtension = "auth/auth".toList := List.append_cancel_left hbehind
      refine ⟨hvalid, hplain, m, left, unit, unit', hends, hfirst, hsecond, ?_, fun hsame => ?_⟩
      · rw [hhandler, hwithin]
        rfl
      · exact absurd (hdistinct _ _ _ _ hsecond hfirst hsame) (by decide +kernel)

end Pipeline

end AppBundle
