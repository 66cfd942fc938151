import AppBundle.Proofs.CatchAll
import AppBundle.Proofs.Linkless
import AppBundle.Proofs.OutputNames

/-!
# Where the fallback leads

The fallback leads to the address of a document, which is made of the text by which a configuration
names the document. The site serves the file at an address that is made of the names by which the
file was listed. From a directory, a path that meets no link before its last name walks the names
of its normal form (`Tree.led_of_enter`). So if the document is named without a backslash and meets
no such link, both addresses are the same (`Pipeline.fallback_served_iff`).
-/

namespace AppBundle

open AppBundle.Path

namespace Tree

variable {t : Tree} {place q : Place} {names : List Text} {d root : Path}

theorem enter_walkNames (entered : List Text) (p : Path) :
    enter entered (walkNames p) = enter entered (p.splitBy (· = '/')) := by
  have hend : ∀ final : List Text,
      enter final (if Text.endsWith p ['/'] then [['.']] else []) = some final := by
    intro final
    split <;> rfl
  have hempty : ∀ s ∈ p.splitBy (· = '/'), decide (s ≠ []) = false → s = [] ∨ s = ['.'] :=
    fun s _ h => .inl (by simpa using h)
  rw [walkNames, enter_append, enter_filter _ _ hempty, Option.bind_congr fun final _ => hend final,
    Option.bind_fun_some]

theorem walkNames_ne_nil {s : Text} (h : s ∈ walkNames d) : s ≠ [] := by
  unfold walkNames at h
  rcases List.mem_append.1 h with h | h
  · simpa using (List.mem_filter.1 h).2
  · split at h
    · cases List.mem_singleton.1 h
      simp
    · cases h

/-- The path is relative, has no backslash, does not go up from the site, and meets no link there
before its last name. -/
structure SpelledDirectly (t : Tree) (site d : Path) : Prop where
  relative : d.head? ≠ some '/'
  noBackslash : '\\' ∉ d
  inside : ∃ normal, d.normalize = some normal
  direct : ∃ place, t.locate true [] site = .ok place ∧ t.get? place = some .dir
    ∧ ∃ q, t.advance false place (walkNames d) = .arrived q

/-- A file that a path walks to without a link stands where that walk ends. -/
theorem exists_entry_of_arrived (hd : d.head? ≠ some '/') (hfile : t.isFile [] (root.resolveFrom d))
    (hplace : t.locate true [] root = .ok place)
    (h : t.advance false place (walkNames d) = .arrived q) :
    ∃ e, t.get? q = some e ∧ e.isDir = false := by
  rcases advance_last t place (walkNames d) with hsame | ⟨q', target, harrived, hlink, -⟩
  · obtain ⟨content, permissions, hstatus⟩ := isFile_iff.1 hfile
    obtain ⟨found, hfound, hentry⟩ := entryAt_eq_ok.1 hstatus
    obtain ⟨n, hends⟩ := ends_of_steps hplace
    obtain ⟨m, hall⟩ := ends_of_steps hfound
    have hlater : Ends t true 0 place ([] ++ undotted (walkNames d)) (.ok q) :=
      Ends.drop_dots (.arrived (hsame.trans h))
    rw [List.nil_append, undotted_walkNames] at hlater
    rw [steps_resolveFrom root hd] at hall
    -- the file was found by following links, and the walk went without: a lookup has one end
    obtain ⟨-, hsameEnd⟩ := (hends.append_through hlater).unique hall
    cases hsameEnd
    exact ⟨_, hentry, rfl⟩
  · cases h.symm.trans harrived
    exact ⟨_, hlink, rfl⟩

/-- A file that is spelled directly is listed by the names of its normal form. -/
theorem SpelledDirectly.listed (h : t.SpelledDirectly root d)
    (hfile : t.isFile [] (root.resolveFrom d)) :
    ∃ files, t.filesBelow? [] root = some files
      ∧ ∃ names ∈ files, d.normalize = some (Text.joinBy '/' names) := by
  obtain ⟨place, hplace, hdir, q, hq⟩ := h.direct
  obtain ⟨normal, hnormal⟩ := h.inside
  obtain ⟨entered, hentered, -⟩ := Option.map_eq_some_iff.1 hnormal
  obtain ⟨files, hfiles⟩ : ∃ files, t.filesBelow? [] root = some files := by
    unfold filesBelow?
    simp [hplace, hdir, Entry.isDir]
  obtain ⟨e, he, hleaf⟩ := exists_entry_of_arrived h.relative hfile hplace hq
  have hnames : enter [] (walkNames d) = some entered := by
    rw [enter_walkNames, ← segments_of_noBackslash h.noBackslash]
    exact hentered
  have harrived : q = place ++ entered.reverse := by
    have hled := led_of_enter place (fun s hs => walkNames_ne_nil hs) hnames
    rw [List.reverse_nil, List.append_nil] at hled
    exact (led_of_advance hq).trans hled
  have hne : entered.reverse ≠ [] := by
    intro hnil
    rw [harrived, hnil, List.append_nil, hdir] at he
    cases he
    cases hleaf
  obtain ⟨place', hplace', -, hmem⟩ := exists_place_of_filesBelow? hfiles
  cases hplace.symm.trans hplace'
  rw [harrived] at he
  refine ⟨files, hfiles, entered.reverse, (hmem _).2 ⟨hne, e, he, hleaf⟩, ?_⟩
  rw [Path.normalize, hentered]
  rfl

end Tree

namespace Route

variable {t : Tree} {cwd : Place} {staticRoot : Path} {settings : RouteSettings}

/-- The document that the fallback leads to. -/
def chosenDocument (t : Tree) (cwd : Place) (staticRoot : Path) (settings : RouteSettings) : Path :=
  if t.isFile cwd (staticRoot.resolveFrom settings.fallbackDocument) then settings.fallbackDocument
  else settings.indexDocument

theorem fallbackDestination_eq : fallbackDestination t cwd staticRoot settings
    = Document.cleanUrl (chosenDocument t cwd staticRoot settings) := by
  unfold fallbackDestination chosenDocument
  split <;> rfl

end Route

theorem Document.cleanUrl_of_normalize {d p : Path} (h : d.normalize = some p) :
    Document.cleanUrl d = '/' :: (StaticAsset.nameOf p).1 := by
  rw [Document.cleanUrl, h, StaticAsset.nameOf, Option.getD_some]
  rcases Document.stem? p with _ | s <;> rfl

/-- A static asset is served at the request path. -/
def Manifest.Serves (m : Manifest) (request : Text) : Prop :=
  ∃ name asset, m.outputs.find? name = some (.static asset) ∧ asset.requestPath = request

namespace Pipeline

variable {t : Tree} {project : Path} {config : Config} {resolver : Resolver} {m : Manifest}
  {left : Snapshot} {request : Text}

/-- The directory of the static site. -/
def siteOf (project : Path) (config : Config) : Path := project.resolveFrom config.layout.staticDir

/-- The document that the fallback of a project leads to. -/
def documentOf (t : Tree) (project : Path) (config : Config) : Path :=
  Route.chosenDocument t [] (siteOf project config) config.routes

theorem serves_iff (h : Ends t project config resolver m left) :
    m.Serves request ↔ ∃ files, t.filesBelow? [] (siteOf project config) = some files
      ∧ ∃ names ∈ files, '/' :: (StaticAsset.nameOf (Text.joinBy '/' names)).1 = request := by
  constructor
  · rintro ⟨name, asset, hasset, rfl⟩
    obtain ⟨files, hfiles, names, hnames, -, rfl⟩ := (find?_static_iff h).1 hasset
    exact ⟨files, hfiles, names, hnames, rfl⟩
  · rintro ⟨files, hfiles, names, hnames, rfl⟩
    exact ⟨_, _, (find?_static_iff h).2 ⟨files, hfiles, names, hnames, rfl, rfl⟩, rfl⟩

/-- The fallback leads to the address of the document that was chosen. If that is a file of the
site, a static asset is served there exactly if the clean name of a listed file is that address; and
so it is if the document is spelled directly. -/
theorem fallback_served_iff (h : Ends t project config resolver m left)
    (hfile : t.isFile [] ((siteOf project config).resolveFrom (documentOf t project config))) :
    ∃ rule, m.fallback? = some rule
      ∧ rule.destination = Document.cleanUrl (documentOf t project config)
      ∧ (m.Serves rule.destination
        ↔ ∃ files, t.filesBelow? [] (siteOf project config) = some files
          ∧ ∃ names ∈ files,
            '/' :: (StaticAsset.nameOf (Text.joinBy '/' names)).1 = rule.destination)
      ∧ (t.SpelledDirectly (siteOf project config) (documentOf t project config) →
        m.Serves rule.destination) := by
  refine ⟨Route.fallbackRule (Route.fallbackDestination t [] (siteOf project config) config.routes),
    ?_, Route.fallbackDestination_eq, serves_iff h, fun hdirect => (serves_iff h).2 ?_⟩
  · rw [Manifest.fallback?, Route.synthesize_eq_ok h.routes]
    rfl
  · obtain ⟨files, hfiles, names, hnames, hnormal⟩ := hdirect.listed hfile
    refine ⟨files, hfiles, names, hnames, ?_⟩
    exact (Document.cleanUrl_of_normalize hnormal).symm.trans Route.fallbackDestination_eq.symm

/-- A site with a fallback document in a directory. -/
def pagesSite : Tree :=
  Import.projectWith [(["web"], .dir), (["web", "dist"], .dir), (["web", "dist", "pages"], .dir),
    (["web", "dist", "pages", "200.html"], .file ByteArray.empty 0o644)]

/-- Settings that spell that document with a dot and two slashes. -/
def pagesFallback : Config := { routes := { fallbackDocument := "./pages//200.html".toList } }

theorem fallback_served_pagesSite :
    pagesSite.isFile [] ((siteOf "/p".toList pagesFallback).resolveFrom
        (documentOf pagesSite "/p".toList pagesFallback)) = true
      ∧ pagesSite.SpelledDirectly (siteOf "/p".toList pagesFallback)
        (documentOf pagesSite "/p".toList pagesFallback)
      ∧ ∃ m left rule, Ends pagesSite "/p".toList pagesFallback (Import.resolver 1) m left
        ∧ m.fallback? = some rule ∧ m.Serves rule.destination := by
  have hfile : pagesSite.isFile [] ((siteOf "/p".toList pagesFallback).resolveFrom
      (documentOf pagesSite "/p".toList pagesFallback)) = true := by decide +kernel
  have hdocument : documentOf pagesSite "/p".toList pagesFallback = "./pages//200.html".toList := by
    decide +kernel
  have hdirect : pagesSite.SpelledDirectly (siteOf "/p".toList pagesFallback)
      (documentOf pagesSite "/p".toList pagesFallback) := by
    rw [hdocument]
    refine ⟨by decide, by decide, ⟨"pages/200.html".toList, by decide⟩, ?_⟩
    exact ⟨["p", "web", "dist"].map String.toList, rfl, rfl,
      ["p", "web", "dist", "pages", "200.html"].map String.toList, rfl⟩
  obtain ⟨m, hm, -⟩ := exists_manifest pagesSite "/p".toList pagesFallback (Import.resolver 1)
    (fun m => m.outputs.keys) (show _ = some ["pages/200".toList] by decide +kernel)
  obtain ⟨left, hends⟩ := exists_ends hm
  obtain ⟨rule, hrule, -, -, hserves⟩ := fallback_served_iff hends hfile
  exact ⟨hfile, hdirect, m, left, rule, hends, hrule, hserves hdirect⟩

/-- A site with a document that has a backslash in its name. -/
def backslashSite : Tree :=
  Import.projectWith [(["web"], .dir), (["web", "dist"], .dir),
    (["web", "dist", "a\\b.html"], .file ByteArray.empty 0o644)]

def backslashFallback : Config := { routes := { fallbackDocument := "a\\b.html".toList } }

/-- The fallback takes a backslash in the name of its document for a slash, and the site does
not. -/
theorem backslash_document_not_served :
    backslashFallback.validate = .ok ()
      ∧ backslashSite.isFile [] ((siteOf "/p".toList backslashFallback).resolveFrom
        (documentOf backslashSite "/p".toList backslashFallback)) = true
      ∧ ∃ m left rule, Ends backslashSite "/p".toList backslashFallback (Import.resolver 1) m left
        ∧ m.fallback? = some rule ∧ rule.destination = "/a/b".toList
        ∧ ¬ m.Serves rule.destination := by
  obtain ⟨m, hm, hlook⟩ := exists_manifest backslashSite "/p".toList backslashFallback
    (Import.resolver 1) (fun m => (m.fallback?.map RouteRule.destination,
      m.statics.map fun asset => asset.2.requestPath))
    (show _ = some (some "/a/b".toList, ["/a\\b".toList]) by decide +kernel)
  obtain ⟨left, hends⟩ := exists_ends hm
  obtain ⟨hfallback, hstatics⟩ := Prod.mk.inj hlook
  obtain ⟨rule, hrule, hdestination⟩ := Option.map_eq_some_iff.1 hfallback
  refine ⟨rfl, by decide +kernel, m, left, rule, hends, hrule, hdestination, ?_⟩
  rintro ⟨name, asset, hasset, hpath⟩
  have hmem : (name, asset) ∈ m.statics :=
    List.mem_filterMap.2 ⟨_, Catalog.find?_eq_some_iff_mem.1 hasset, rfl⟩
  have hrequest := List.mem_map_of_mem (f := fun asset => asset.2.requestPath) hmem
  rw [hstatics, List.mem_singleton, hpath, hdestination] at hrequest
  cases hrequest

end Pipeline

end AppBundle
