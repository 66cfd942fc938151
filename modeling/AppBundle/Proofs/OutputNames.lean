import AppBundle.Proofs.CleanUrls
import AppBundle.Proofs.Listing

/-!
# Names of outputs

An output is named by the path of a file below the functions directory or below the site, mostly
without its extension (`Pipeline.NamedFrom`). The names that a file system takes are those that a
normal path is made of, but for backslashes. What is left of a file name without its extension is
not always a name: it may be dots. So the name of an output is normal exactly if there are no
backslashes and no such dots in it (`Pipeline.normal_names_iff`).
-/

namespace AppBundle

open AppBundle.Path

namespace Path

variable {p : Path}

/-- A path is what is left of it without its extension and then the extension. -/
theorem exists_end_of_stripExtension (h : p.fileName ≠ []) :
    ∃ e, '/' ∉ e ∧ p = p.stripExtension ++ e ∧ p.stripExtension.fileName ≠ [] := by
  rcases hext : p.extension with _ | ext
  · have hsame : p.stripExtension = p := by rw [stripExtension, hext]
    exact ⟨[], by simp, by rw [hsame, List.append_nil], by rwa [hsame]⟩
  · obtain ⟨stem, rfl, hstem, hdot, hslash⟩ := extension_eq_some.1 hext
    rw [stripExtension_append hstem hdot hslash]
    exact ⟨'.' :: ext, by simp [hslash], rfl, hstem⟩

theorem exists_end_of_nameOf (h : p.fileName ≠ []) : ∃ e, '/' ∉ e
    ∧ p = (StaticAsset.nameOf p).1 ++ e ∧ fileName (StaticAsset.nameOf p).1 ≠ [] := by
  unfold StaticAsset.nameOf
  rcases hstem : Document.stem? p with _ | s
  · exact ⟨[], by simp, (List.append_nil p).symm, h⟩
  · obtain ⟨ext, rfl, hs, hext⟩ := Document.stem?_eq_some.1 hstem
    obtain ⟨-, hslash⟩ := Document.not_mem_of_foldCase hext
    exact ⟨'.' :: ext, by simp [hslash], rfl, hs⟩

end Path

namespace Pipeline

variable {t : Tree} {project : Path} {config : Config} {resolver : Resolver} {m : Manifest}
  {left : Snapshot} {name : Text} {output : Output}

/-- An output is named by what is kept of the path of a file: a function by its path below the
functions directory without the extension, a static asset by its path below the site, without the
extension if it is a document. -/
inductive NamedFrom (t : Tree) (project : Path) (layout : Layout) : Text → Output → Path → Prop
  | function {files : List (List Text)} {names : List Text} (unit : FunctionUnit)
      (hfiles : t.filesBelow? [] (project.resolveFrom layout.functionsDir) = some files)
      (hnames : names ∈ files) (hrole : Discovery.roleOf names = .function) :
      NamedFrom t project layout
        (layout.apiPrefix ++ '/' :: stripExtension (Text.joinBy '/' names)) (.function unit)
        (stripExtension (Text.joinBy '/' names))
  | static {files : List (List Text)} {names : List Text}
      (hfiles : t.filesBelow? [] (project.resolveFrom layout.staticDir) = some files)
      (hnames : names ∈ files) :
      NamedFrom t project layout (StaticAsset.nameOf (Text.joinBy '/' names)).1
        (.static (.ofFile (project.resolveFrom layout.staticDir) (Text.joinBy '/' names)))
        (StaticAsset.nameOf (Text.joinBy '/' names)).1

theorem NamedFrom.kept_static {layout : Layout} {asset : StaticAsset} {kept : Path}
    (h : NamedFrom t project layout name (.static asset) kept) : kept = name := by
  cases h
  rfl

/-- A function of a manifest is named by the file that discovery found. -/
theorem exists_file_of_function (h : Ends t project config resolver m left) {unit : FunctionUnit}
    (hunit : m.outputs.find? name = some (.function unit)) :
    ∃ files, t.filesBelow? [] (project.resolveFrom config.layout.functionsDir) = some files
      ∧ ∃ names ∈ files, Discovery.roleOf names = .function
        ∧ name = config.layout.apiPrefix ++ '/' :: stripExtension (Text.joinBy '/' names) := by
  obtain ⟨s, d, a, -, hd, hentry, -, hname, -, -⟩ := exists_account_of_function h hunit
  rw [Snapshot.run_new] at hd
  obtain ⟨files, hfiles, names, hnames, hrole, hyields⟩ := Discovery.exists_file_of_run hd hentry
  obtain ⟨-, -, houtput, -⟩ := Discovery.entryAt_eq hyields
  exact ⟨files, hfiles, names, hnames, hrole, hname.symm.trans houtput⟩

/-- The static assets of a manifest are the files of the site under their names. -/
theorem find?_static_iff (h : Ends t project config resolver m left) {asset : StaticAsset} :
    m.outputs.find? name = some (.static asset)
      ↔ ∃ files, t.filesBelow? [] (project.resolveFrom config.layout.staticDir) = some files
        ∧ ∃ names ∈ files, (StaticAsset.nameOf (Text.joinBy '/' names)).1 = name ∧ asset
          = .ofFile (project.resolveFrom config.layout.staticDir) (Text.joinBy '/' names) := by
  obtain ⟨s, d, assets, accounts, -, -, hassets, -, -, -, hperm, -, -⟩ :=
    exists_accounts h.sequential
  rw [find?_iff_of_perm hperm, ← StaticAsset.find?_classify hassets]
  constructor
  · rintro (⟨a, -, hout⟩ | ⟨asset', hfound, hsame⟩)
    · unfold Account.output? at hout
      split at hout <;> cases hout
    · cases hsame
      exact hfound
  · exact fun hfound => .inr ⟨asset, hfound, rfl⟩

theorem exists_namedFrom (h : Ends t project config resolver m left)
    (houtput : m.outputs.find? name = some output) :
    ∃ kept, NamedFrom t project config.layout name output kept := by
  cases output with
  | function unit =>
    obtain ⟨files, hfiles, names, hnames, hrole, rfl⟩ := exists_file_of_function h houtput
    exact ⟨_, .function unit hfiles hnames hrole⟩
  | static asset =>
    obtain ⟨files, hfiles, names, hnames, rfl, rfl⟩ := (find?_static_iff h).1 houtput
    exact ⟨_, .static hfiles hnames⟩

theorem NamedFrom.spec {layout : Layout} {kept : Path} (ht : t.ProperlyNamed)
    (hlayout : layout.validate = .ok ()) (h : NamedFrom t project layout name output kept) :
    name ≠ [] ∧ (∀ asset, output = .static asset → asset.requestPath = '/' :: name)
      ∧ (Path.Normal name ↔ '\\' ∉ kept ∧ kept.fileName ≠ ['.'] ∧ kept.fileName ≠ ['.', '.']) := by
  have hne : ∀ {q : Path}, q.fileName ≠ [] → q ≠ [] := by
    rintro q hq rfl
    exact hq rfl
  cases h with
  | @function files names unit hfiles hnames hrole =>
    obtain ⟨hnil, hfileNames⟩ := ht.filesBelow? hfiles hnames
    obtain ⟨-, hfile⟩ := isFileName_of_joinBy hnil hfileNames
    obtain ⟨e, he, hkept, hname⟩ := exists_end_of_stripExtension hfile.not_nil
    obtain ⟨-, -, hprefix⟩ := Layout.validate_segments hlayout
    refine ⟨by simp, by simp, ?_⟩
    rw [normal_below_iff (Layout.isName_of_isSegment hprefix) (hne hname)]
    exact normal_iff_of_fileNames hnil hfileNames hkept he hname
  | @static files names hfiles hnames =>
    obtain ⟨hnil, hfileNames⟩ := ht.filesBelow? hfiles hnames
    obtain ⟨-, hfile⟩ := isFileName_of_joinBy hnil hfileNames
    obtain ⟨e, he, hkept, hname⟩ := exists_end_of_nameOf hfile.not_nil
    refine ⟨hne hname, ?_, normal_iff_of_fileNames hnil hfileNames hkept he hname⟩
    rintro asset ⟨⟩
    rfl

/-- In a tree whose files are named as a file system names them, every output of a run has a name
that is not empty, and a static asset is served under a slash and that name. The name is normal
exactly if what it keeps of the path of a file has no backslash and does not end in dots alone. -/
theorem normal_names_iff (ht : t.ProperlyNamed) (hvalid : config.validate = .ok ())
    (h : Ends t project config resolver m left) (houtput : m.outputs.find? name = some output) :
    name ≠ [] ∧ (∀ asset, output = .static asset → asset.requestPath = '/' :: name)
      ∧ ∃ kept, NamedFrom t project config.layout name output kept
        ∧ (Path.Normal name
          ↔ '\\' ∉ kept ∧ kept.fileName ≠ ['.'] ∧ kept.fileName ≠ ['.', '.']) := by
  obtain ⟨kept, hnamed⟩ := exists_namedFrom h houtput
  obtain ⟨hne, hstatic, hnormal⟩ := hnamed.spec ht (validate_layout hvalid)
  exact ⟨hne, hstatic, kept, hnamed, hnormal⟩

theorem normal_names_iff_functionsAndSite :
    functionsAndSite.ProperlyNamed ∧ Config.validate {} = .ok ()
      ∧ ∃ m left asset, Ends functionsAndSite "/p".toList {} (Import.resolver 1) m left
        ∧ m.outputs.find? "x.txt".toList = some (.static asset)
        ∧ asset.requestPath = "/x.txt".toList
        ∧ NamedFrom functionsAndSite "/p".toList {} "x.txt".toList (.static asset) "x.txt".toList
        ∧ (Path.Normal "x.txt".toList ↔ '\\' ∉ "x.txt".toList
          ∧ fileName "x.txt".toList ≠ ['.'] ∧ fileName "x.txt".toList ≠ ['.', '.'])
        ∧ Path.Normal "x.txt".toList := by
  have ht : functionsAndSite.ProperlyNamed := by decide +kernel
  have hvalid : Config.validate {} = .ok () := rfl
  obtain ⟨m, hm, hlook⟩ := exists_manifest functionsAndSite "/p".toList {} (Import.resolver 1)
    (fun m => ((m.outputs.find? "x.txt".toList).bind Output.static?).map StaticAsset.requestPath)
    (show _ = some (some "/x.txt".toList) by decide +kernel)
  obtain ⟨asset, hasset, -⟩ := Option.map_eq_some_iff.1 hlook
  obtain ⟨output, houtput, hstatic⟩ := Option.bind_eq_some_iff.1 hasset
  cases output with
  | function unit => cases hstatic
  | static asset =>
    obtain ⟨left, hends⟩ := exists_ends hm
    obtain ⟨-, hpath, kept, hnamed, hnormal⟩ := normal_names_iff ht hvalid hends houtput
    obtain rfl : kept = "x.txt".toList := hnamed.kept_static
    exact ⟨ht, hvalid, m, left, asset, hends, houtput, hpath asset rfl, hnamed, hnormal,
      hnormal.2 (by decide)⟩

/-- A site with a document of which a dot is left without its extension. -/
def dotDocument : Tree :=
  Import.projectWith [(["web"], .dir), (["web", "dist"], .dir),
    (["web", "dist", "..html"], .file ByteArray.empty 0o644)]

theorem dot_is_a_name :
    dotDocument.ProperlyNamed ∧ Config.validate {} = .ok ()
      ∧ ∃ m left asset, Ends dotDocument "/p".toList {} (Import.resolver 1) m left
        ∧ m.outputs.find? ".".toList = some (.static asset) ∧ asset.requestPath = "/.".toList
        ∧ ¬ Path.Normal ".".toList := by
  obtain ⟨m, hm, hlook⟩ := exists_manifest dotDocument "/p".toList {} (Import.resolver 1)
    (fun m => ((m.outputs.find? ".".toList).bind Output.static?).map StaticAsset.requestPath)
    (show _ = some (some "/.".toList) by decide +kernel)
  obtain ⟨asset, hasset, hpath⟩ := Option.map_eq_some_iff.1 hlook
  obtain ⟨output, houtput, hstatic⟩ := Option.bind_eq_some_iff.1 hasset
  obtain ⟨left, hends⟩ := exists_ends hm
  cases output with
  | function unit => cases hstatic
  | static asset' =>
    cases hstatic
    refine ⟨by decide +kernel, rfl, m, left, asset, hends, houtput, hpath, ?_⟩
    rintro ⟨⟩

end Pipeline

end AppBundle
