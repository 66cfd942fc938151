import AppBundle.Proofs.FileNames
import AppBundle.Proofs.Links
import AppBundle.StaticAsset

/-!
# Clean addresses of documents

A document is a file whose name has something in front of the extension `.html`
(`Document.stem?_eq_some`), and it is served without that extension. A site serves each of its files
under one name and nothing else (`StaticAsset.find?_classify`).

So of the names and request paths of a site only two kinds end in `.html`: those of files that are
named `.html` and no more, which have no extension and are no documents, and those of documents
that have the extension twice (`StaticAsset.documents_at_clean_urls`).
-/

namespace AppBundle

open AppBundle.Path

namespace Text

theorem foldCase_append (t u : Text) : foldCase (t ++ u) = foldCase t ++ foldCase u :=
  List.map_append

theorem eq_dot_of_toLower {c : Char} (h : c.toLower = '.') : c = '.' := by
  unfold Char.toLower at h
  split at h
  · rename_i hupper
    have hval : (c.val + 32).toNat = 46 := congrArg Char.toNat h
    have hge : 65 ≤ c.val.toNat := hupper.1
    have hle : c.val.toNat ≤ 90 := hupper.2
    rw [UInt32.toNat_add] at hval
    simp only [UInt32.reduceToNat] at hval
    omega
  · exact h

end Text

namespace Document

variable {p s : Path} {t ext : Text}

theorem not_mem_of_foldCase (h : Text.foldCase ext = "html".toList) : '.' ∉ ext ∧ '/' ∉ ext := by
  have hall : ∀ c ∈ ext, c.toLower ∈ "html".toList := fun c hc => h ▸ List.mem_map_of_mem hc
  exact ⟨fun hmem => absurd (hall _ hmem) (by decide), fun hmem => absurd (hall _ hmem) (by decide)⟩

/-- A path is that of a document if its file name has the extension `.html` behind something. -/
theorem stem?_eq_some : stem? p = some s
    ↔ ∃ ext, p = s ++ '.' :: ext ∧ s.fileName ≠ [] ∧ Text.foldCase ext = "html".toList := by
  constructor
  · intro h
    unfold stem? at h
    split at h
    · rename_i ext hext
      split at h
      · rename_i hhtml
        cases h
        obtain ⟨stem, rfl, hstem, hdot, hslash⟩ := extension_eq_some.1 hext
        rw [stripExtension_append hstem hdot hslash]
        exact ⟨ext, rfl, hstem, hhtml⟩
      · cases h
    · cases h
  · rintro ⟨ext, rfl, hs, hhtml⟩
    obtain ⟨hdot, hslash⟩ := not_mem_of_foldCase hhtml
    unfold stem?
    rw [extension_append hs hdot hslash, stripExtension_append hs hdot hslash]
    exact if_pos hhtml

theorem foldCase_dot (h : Text.foldCase ext = "html".toList) :
    Text.foldCase ('.' :: ext) = ".html".toList := congrArg ('.' :: ·) h

/-- The text ends in `.html` in any letter case. -/
def EndsInHtml (t : Text) : Prop := ".html".toList <:+ Text.foldCase t

instance (t : Text) : Decidable (EndsInHtml t) :=
  inferInstanceAs (Decidable (".html".toList <:+ Text.foldCase t))

theorem endsInHtml_iff :
    EndsInHtml t ↔ ∃ s ext, t = s ++ '.' :: ext ∧ Text.foldCase ext = "html".toList := by
  constructor
  · rintro ⟨init, hinit⟩
    obtain ⟨s, e, rfl, -, he⟩ := List.map_eq_append_iff.1 hinit.symm
    obtain ⟨c, ext, rfl, hc, hext⟩ := List.map_eq_cons_iff.1 he
    rw [Text.eq_dot_of_toLower hc]
    exact ⟨s, ext, rfl, hext⟩
  · rintro ⟨s, ext, rfl, hext⟩
    refine ⟨Text.foldCase s, ?_⟩
    rw [Text.foldCase_append, foldCase_dot hext]

theorem endsInHtml_slash : EndsInHtml ('/' :: t) ↔ EndsInHtml t := by
  have hfold : Text.foldCase ('/' :: t) = '/' :: Text.foldCase t := rfl
  have hne : ".html".toList ≠ '/' :: Text.foldCase t := by
    intro h
    cases (List.cons.inj h).1
  rw [EndsInHtml, hfold, List.suffix_cons_iff, or_iff_right hne, EndsInHtml]

/-- The file name is `.html` in any letter case, with nothing in front. -/
def NamedHtml (p : Path) : Prop := Text.foldCase p.fileName = ".html".toList

/-- The file name has the extension `.html` twice. -/
def NamedHtmlTwice (p : Path) : Prop := ".html.html".toList <:+ Text.foldCase p.fileName

instance (p : Path) : Decidable (NamedHtml p) :=
  inferInstanceAs (Decidable (Text.foldCase p.fileName = ".html".toList))

instance (p : Path) : Decidable (NamedHtmlTwice p) :=
  inferInstanceAs (Decidable (".html.html".toList <:+ Text.foldCase p.fileName))

theorem fileName_document (hext : Text.foldCase ext = "html".toList) (s : Path) :
    Text.foldCase (fileName (s ++ '.' :: ext)) = Text.foldCase s.fileName ++ ".html".toList := by
  obtain ⟨-, hslash⟩ := not_mem_of_foldCase hext
  rw [fileName_append (by simp [hslash]), Text.foldCase_append, foldCase_dot hext]

theorem NamedHtml.stem?_eq_none (h : NamedHtml p) : stem? p = none := by
  rcases hstem : stem? p with _ | s
  · rfl
  · obtain ⟨ext, rfl, hs, hext⟩ := stem?_eq_some.1 hstem
    rw [NamedHtml, fileName_document hext] at h
    have hnil : Text.foldCase s.fileName = [] := by simpa using h
    exact absurd (List.map_eq_nil_iff.1 hnil) hs

theorem NamedHtml.endsInHtml (h : NamedHtml p) : EndsInHtml p := by
  obtain ⟨name, -, hname, rfl | ⟨dir, rfl⟩⟩ := exists_fileName p
  · rw [NamedHtml, hname] at h
    rw [EndsInHtml, h]
  · rw [NamedHtml, hname] at h
    refine ⟨Text.foldCase (dir ++ ['/']), ?_⟩
    rw [← h, ← Text.foldCase_append, List.append_assoc, List.singleton_append]

/-- What is no document but ends in `.html` has nothing in front of that in its file name. -/
theorem namedHtml_of_endsInHtml (hstem : stem? p = none) (h : EndsInHtml p) : NamedHtml p := by
  obtain ⟨s, ext, rfl, hext⟩ := endsInHtml_iff.1 h
  have hs : fileName s = [] := by
    by_contra hne
    rw [stem?_eq_some.2 ⟨ext, rfl, hne, hext⟩] at hstem
    cases hstem
  rw [NamedHtml, fileName_document hext, hs]
  rfl

theorem namedHtmlTwice_of_endsInHtml (hstem : stem? p = some s) (h : EndsInHtml s) :
    NamedHtmlTwice p := by
  obtain ⟨ext, rfl, -, hext⟩ := stem?_eq_some.1 hstem
  obtain ⟨s', ext', rfl, hext'⟩ := endsInHtml_iff.1 h
  rw [NamedHtmlTwice, fileName_document hext, fileName_document hext']
  exact ⟨Text.foldCase (fileName s'), by rw [List.append_assoc]; rfl⟩

/-- Without its extension a document does not end in `.html` unless it has that extension twice,
and a file that is no document does only if that is all of its name. -/
theorem endsInHtml_nameOf (h : ¬ NamedHtmlTwice p) :
    EndsInHtml (StaticAsset.nameOf p).1 ↔ NamedHtml p := by
  unfold StaticAsset.nameOf
  rcases hstem : stem? p with _ | s
  · exact ⟨namedHtml_of_endsInHtml hstem, NamedHtml.endsInHtml⟩
  · refine iff_of_false (fun hends => h (namedHtmlTwice_of_endsInHtml hstem hends)) fun hnamed => ?_
    rw [hnamed.stem?_eq_none] at hstem
    cases hstem

end Document

namespace StaticAsset

open Document

variable {t : Tree} {staticRoot root : Path} {within : Path}

/-- What a file at a path below the site is served as. -/
def ofFile (staticRoot within : Path) : StaticAsset where
  requestPath := '/' :: (nameOf within).1
  file := staticRoot.resolveFrom within
  contentType := (nameOf within).2

/-- Each file is filed under its name, beside what was filed before. -/
theorem find?_addFiles {name : Text} {asset : StaticAsset} :
    ∀ {files : List (List Text)} {assets all : Catalog Text StaticAsset},
      addFiles staticRoot assets files = .ok all →
        (all.find? name = some asset ↔ assets.find? name = some asset
          ∨ ∃ names ∈ files, (nameOf (Text.joinBy '/' names)).1 = name
            ∧ asset = ofFile staticRoot (Text.joinBy '/' names))
  | [], assets, all, h => by
    cases h
    simp
  | names :: rest, assets, all, h => by
    unfold addFiles at h
    dsimp only at h
    split at h
    · cases h
    · rename_i hfree
      rw [find?_addFiles h, Catalog.find?_insert]
      by_cases hname : name = (nameOf (Text.joinBy '/' names)).1
      · subst hname
        rw [if_pos rfl, hfree, List.exists_mem_cons_iff]
        simp [ofFile, eq_comm]
      · rw [if_neg hname, List.exists_mem_cons_iff]
        simp [Ne.symm hname]

/-- A site serves each of its files under the name of the file, and nothing else. -/
theorem find?_classify {assets : Catalog Text StaticAsset} {name : Text} {asset : StaticAsset}
    (h : classify t root = .ok assets) : assets.find? name = some asset
      ↔ ∃ files, t.filesBelow? [] root = some files ∧ ∃ names ∈ files,
        (nameOf (Text.joinBy '/' names)).1 = name
          ∧ asset = ofFile root (Text.joinBy '/' names) := by
  unfold classify at h
  split at h
  · rename_i hnone
    cases h
    simp [hnone]
  · rename_i files hfiles
    rw [find?_addFiles h, hfiles]
    simp

/-- What a site serves comes each from a file, under a slash and its name. Unless that file has the
extension `.html` twice, the name and the request path end in `.html` exactly if the file is named
so with nothing in front, which is no document: it keeps its name and gets no type. -/
theorem documents_at_clean_urls {assets : Catalog Text StaticAsset} {name : Text}
    {asset : StaticAsset} (h : classify t root = .ok assets)
    (hasset : assets.find? name = some asset) :
    asset.requestPath = '/' :: name
      ∧ ∃ files, t.filesBelow? [] root = some files ∧ ∃ names ∈ files, ∃ within : Path,
        within = Text.joinBy '/' names ∧ asset.file = root.resolveFrom within
          ∧ (¬ NamedHtmlTwice within → (EndsInHtml name ↔ NamedHtml within)
            ∧ (EndsInHtml asset.requestPath ↔ NamedHtml within))
          ∧ (NamedHtml within → name = within ∧ asset.contentType = none) := by
  obtain ⟨files, hfiles, names, hmem, rfl, rfl⟩ := (find?_classify h).1 hasset
  refine ⟨rfl, files, hfiles, names, hmem, _, rfl, rfl, fun htwice => ?_, fun hnamed => ?_⟩
  · have hname := endsInHtml_nameOf htwice
    exact ⟨hname, endsInHtml_slash.trans hname⟩
  · rw [ofFile, nameOf, hnamed.stem?_eq_none]
    exact ⟨rfl, rfl⟩

/-- A site with a document and a file that is named by the extension alone. -/
def extensionAlone : Tree :=
  Import.projectWith [(["web"], .dir), (["web", "dist"], .dir),
    (["web", "dist", ".html"], .file ByteArray.empty 0o644),
    (["web", "dist", "a.HTML"], .file ByteArray.empty 0o644)]

theorem exists_asset {β : Type} (t : Tree) (root : Path) (name : Text) (look : StaticAsset → β)
    {seen : β} (h : ((classify t root).toOption.bind fun assets => assets.find? name).map look
      = some seen) : ∃ assets asset, classify t root = .ok assets
        ∧ assets.find? name = some asset ∧ look asset = seen := by
  obtain ⟨asset, hfound, hseen⟩ := Option.map_eq_some_iff.1 h
  obtain ⟨assets, hassets, hasset⟩ := Option.bind_eq_some_iff.1 hfound
  rcases hclassify : classify t root with e | assets'
  · rw [hclassify] at hassets
    cases hassets
  · rw [hclassify] at hassets
    cases hassets
    exact ⟨_, asset, rfl, hasset, hseen⟩

theorem documents_at_clean_urls_extensionAlone :
    ∃ assets document dotfile, classify extensionAlone "/p/web/dist".toList = .ok assets
      ∧ assets.find? "a".toList = some document
      ∧ document.file = "/p/web/dist/a.HTML".toList ∧ document.requestPath = "/a".toList
      ∧ ¬ NamedHtmlTwice "a.HTML".toList
      ∧ (EndsInHtml "a".toList ↔ NamedHtml "a.HTML".toList)
      ∧ (EndsInHtml document.requestPath ↔ NamedHtml "a.HTML".toList)
      ∧ assets.find? ".html".toList = some dotfile
      ∧ dotfile.file = "/p/web/dist/.html".toList ∧ NamedHtml ".html".toList
      ∧ (EndsInHtml ".html".toList ↔ NamedHtml ".html".toList)
      ∧ (EndsInHtml dotfile.requestPath ↔ NamedHtml ".html".toList)
      ∧ dotfile.contentType = none := by
  have hsite : extensionAlone.filesBelow? [] "/p/web/dist".toList
      = some [[".html".toList], ["a.HTML".toList]] := by
    decide +kernel
  obtain ⟨assets, document, hassets, hdocument, hfile⟩ := exists_asset extensionAlone
    "/p/web/dist".toList "a".toList StaticAsset.file
    (show _ = some "/p/web/dist/a.HTML".toList by decide +kernel)
  obtain ⟨_, dotfile, hassets', hdotfile, hfile'⟩ := exists_asset extensionAlone
    "/p/web/dist".toList ".html".toList StaticAsset.file
    (show _ = some "/p/web/dist/.html".toList by decide +kernel)
  cases hassets.symm.trans hassets'
  have hplaces : ∀ names ∈ [[".html".toList], ["a.HTML".toList]],
      Path.resolveFrom "/p/web/dist".toList (Text.joinBy '/' names)
        = "/p/web/dist/".toList ++ Text.joinBy '/' names := by
    decide
  have hspec : ∀ {name : Text} {asset : StaticAsset} {within : Path},
      assets.find? name = some asset → asset.file = "/p/web/dist/".toList ++ within →
        ¬ NamedHtmlTwice within → (EndsInHtml name ↔ NamedHtml within)
          ∧ (EndsInHtml asset.requestPath ↔ NamedHtml within)
          ∧ (NamedHtml within → asset.contentType = none) := by
    intro name asset within hasset hfile htwice
    obtain ⟨-, files, hfiles, names, hnames, _, rfl, hplace, hends, hkept⟩ :=
      documents_at_clean_urls hassets hasset
    cases hsite.symm.trans hfiles
    rw [hplaces names hnames, hfile] at hplace
    obtain rfl := List.append_cancel_left hplace
    exact ⟨(hends htwice).1, (hends htwice).2, fun hnamed => (hkept hnamed).2⟩
  have htwice : ¬ NamedHtmlTwice "a.HTML".toList := by decide
  obtain ⟨hname, hrequest, -⟩ := hspec hdocument hfile htwice
  obtain ⟨hname', hrequest', htype⟩ := hspec hdotfile hfile' (by decide)
  obtain ⟨hpath, -⟩ := documents_at_clean_urls hassets hdocument
  exact ⟨assets, document, dotfile, hassets, hdocument, hfile, hpath, htwice, hname, hrequest,
    hdotfile, hfile', by decide, hname', hrequest', htype (by decide)⟩

/-- A name by the extension alone is kept. -/
theorem extension_alone_kept :
    ∃ assets asset, classify extensionAlone "/p/web/dist".toList = .ok assets
      ∧ assets.find? ".html".toList = some asset ∧ EndsInHtml ".html".toList
      ∧ EndsInHtml asset.requestPath := by
  obtain ⟨assets, asset, hassets, hasset, hpath⟩ := exists_asset extensionAlone
    "/p/web/dist".toList ".html".toList StaticAsset.requestPath
    (show _ = some "/.html".toList by decide +kernel)
  exact ⟨assets, asset, hassets, hasset, by decide, by rw [hpath]; decide⟩

end StaticAsset

end AppBundle
