import AppBundle.Proofs.CleanUrls
import AppBundle.Proofs.Listing
import Mathlib.Data.List.Forall2

/-!
# What a site serves

A site is classified by filing its files one after the other under their names (`addFiles_fresh`).
As long as no two names are the same each file gets an asset of its own (`addFiles_of_nodup`), and
at the first name that is taken the classification ends (`addFiles_taken`).

So a site can be classified exactly if its files have names of their own, and then its assets are
its files; if not, the error tells the first file in the order of the listing that came too late,
and the one that has its name (`served_one_to_one`).
-/

namespace AppBundle

open AppBundle.Path

/-- A list in which two members have the same image has a first one whose image came before. -/
theorem exists_first_repeated {α β : Type} {f : α → β} {l : List α} (h : ¬ (l.map f).Nodup) :
    ∃ before earlier between later after, l = before ++ earlier :: between ++ later :: after
      ∧ f earlier = f later ∧ ((before ++ earlier :: between).map f).Nodup := by
  induction l using List.reverseRecOn with
  | nil => simp at h
  | append_singleton init last ih =>
    by_cases hinit : (init.map f).Nodup
    · have hmem : f last ∈ init.map f := by
        by_contra hnew
        refine h ?_
        rw [List.map_append, List.map_singleton]
        exact List.nodup_append.2 ⟨hinit, List.nodup_singleton _, by simpa using hnew⟩
      obtain ⟨earlier, hearlier, hsame⟩ := List.mem_map.1 hmem
      obtain ⟨before, between, rfl⟩ := List.append_of_mem hearlier
      exact ⟨before, earlier, between, last, [], rfl, hsame, hinit⟩
    · obtain ⟨before, earlier, between, later, after, rfl, hsame, hnodup⟩ := ih hinit
      exact ⟨before, earlier, between, later, after ++ [last], by simp, hsame, hnodup⟩

namespace StaticAsset

open Document

variable {t : Tree} {root within : Path} {names : List Text} {name : Text} {asset : StaticAsset}
  {assets all : Catalog Text StaticAsset} {done rest : List (List Text)} {e : AssetError}

/-! ## Clean names -/

/-- A file at a path below the site is served under a name: a document, whose file name has the
extension `.html` in any letter case behind something, without that extension and with the type of
documents, and any other file under its path. -/
inductive ServedAs (root : Path) : Path → Text → StaticAsset → Prop
  | document {stem : Path} {ext : Text} (hstem : stem.fileName ≠ [])
      (hext : Text.foldCase ext = "html".toList) :
      ServedAs root (stem ++ '.' :: ext) stem
        ⟨'/' :: stem, root.resolveFrom (stem ++ '.' :: ext), some documentType⟩
  | other {within : Path} (h : ∀ stem ext : Text, within = stem ++ '.' :: ext →
        Text.foldCase ext = "html".toList → fileName stem = []) :
      ServedAs root within within ⟨'/' :: within, root.resolveFrom within, none⟩

theorem servedAs_iff :
    ServedAs root within name asset ↔ (nameOf within).1 = name ∧ asset = ofFile root within := by
  constructor
  · rintro (⟨hstem, hext⟩ | h)
    · have hdocument := stem?_eq_some.2 ⟨_, rfl, hstem, hext⟩
      simp only [ofFile, nameOf, hdocument, and_self]
    · have hother : stem? within = none := by
        rcases hstem : stem? within with _ | stem
        · rfl
        · obtain ⟨ext, hwithin, hname, hext⟩ := stem?_eq_some.1 hstem
          exact absurd (h stem ext hwithin hext) hname
      simp only [ofFile, nameOf, hother, and_self]
  · rintro ⟨rfl, rfl⟩
    unfold ofFile nameOf
    rcases hstem : stem? within with _ | stem
    · refine .other fun stem ext hwithin hext => ?_
      by_contra hname
      rw [stem?_eq_some.2 ⟨ext, hwithin, hname, hext⟩] at hstem
      cases hstem
    · obtain ⟨ext, rfl, hname, hext⟩ := stem?_eq_some.1 hstem
      exact .document hname hext

/-- The name of a file that is listed by names. -/
def cleanName (names : List Text) : Text := (nameOf (Text.joinBy '/' names)).1

/-- A file as it is filed. -/
def filed (root : Path) (names : List Text) : Text × StaticAsset :=
  (cleanName names, ofFile root (Text.joinBy '/' names))

/-- Two files come to the same name. -/
def SameName (root : Path) (names names' : List Text) : Prop :=
  ∃ name asset asset', ServedAs root (Text.joinBy '/' names) name asset
    ∧ ServedAs root (Text.joinBy '/' names') name asset'

theorem sameName_iff {names' : List Text} :
    SameName root names names' ↔ cleanName names = cleanName names' := by
  simp only [SameName, servedAs_iff]
  constructor
  · rintro ⟨name, asset, asset', ⟨hname, -⟩, hname', -⟩
    exact hname.trans hname'.symm
  · exact fun h => ⟨_, _, _, ⟨h, rfl⟩, rfl, rfl⟩

/-! ## Filing -/

theorem addFiles_fresh (h : assets.find? (cleanName names) = none) :
    addFiles root assets (names :: rest)
      = addFiles root (assets.insert (cleanName names) (filed root names).2) rest := by
  rw [addFiles]
  dsimp only
  rw [show assets.find? (nameOf (Text.joinBy '/' names)).1 = none from h]
  rfl

/-- The error tells the file that has the name and the one that came too late. -/
theorem addFiles_taken {earlier : StaticAsset} (h : assets.find? (cleanName names) = some earlier) :
    addFiles root assets (names :: rest)
      = .error (.collision earlier.requestPath earlier.file (filed root names).2.file) := by
  rw [addFiles]
  dsimp only
  rw [show assets.find? (nameOf (Text.joinBy '/' names)).1 = some earlier from h]
  rfl

theorem find?_of_perm (h : assets.entries.Perm (done.map (filed root))) :
    assets.find? name = some asset ↔ ∃ names ∈ done, filed root names = (name, asset) := by
  rw [Catalog.find?_eq_some_iff_mem, h.mem_iff, List.mem_map]

theorem find?_eq_none_of_perm (h : assets.entries.Perm (done.map (filed root)))
    (hnew : name ∉ done.map cleanName) : assets.find? name = none := by
  rcases hfind : assets.find? name with _ | asset
  · rfl
  · obtain ⟨names, hnames, hfiled⟩ := (find?_of_perm h).1 hfind
    exact absurd (List.mem_map.2 ⟨names, hnames, congrArg Prod.fst hfiled⟩) hnew

/-- Files whose names are new and all different are filed, each under its own. -/
theorem addFiles_of_nodup (root : Path) : ∀ (done rest : List (List Text))
    {assets : Catalog Text StaticAsset}, assets.entries.Perm (done.map (filed root)) →
      ((done ++ rest).map cleanName).Nodup → ∃ all, addFiles root assets rest = .ok all
        ∧ all.entries.Perm ((done ++ rest).map (filed root))
  | done, [], assets, hdone, _ => ⟨assets, rfl, by rwa [List.append_nil]⟩
  | done, names :: rest, assets, hdone, hnodup => by
    have hnew : cleanName names ∉ done.map cleanName := by
      rw [List.map_append, List.map_cons] at hnodup
      exact fun hmem => List.disjoint_of_nodup_append hnodup hmem List.mem_cons_self
    have hfree := find?_eq_none_of_perm hdone hnew
    have hinsert := (Catalog.perm_insert (filed root names).2 hfree).trans (hdone.cons _)
    rw [addFiles_fresh hfree]
    rw [List.append_cons] at hnodup ⊢
    refine addFiles_of_nodup root (done ++ [names]) rest (hinsert.trans ?_) hnodup
    rw [List.map_append]
    exact (List.perm_append_singleton _ _).symm

theorem addFiles_empty (root : Path) {files : List (List Text)}
    (h : (files.map cleanName).Nodup) : ∃ all, addFiles root Catalog.empty files = .ok all
      ∧ all.entries.Perm (files.map (filed root)) :=
  addFiles_of_nodup root [] files (.refl _) h

theorem addFiles_append : ∀ {before after : List (List Text)} {assets : Catalog Text StaticAsset},
    addFiles root assets before = .ok all →
      addFiles root assets (before ++ after) = addFiles root all after
  | [], after, assets, h => by
    cases h
    rfl
  | names :: before, after, assets, h => by
    rcases hfind : assets.find? (cleanName names) with _ | earlier
    · rw [addFiles_fresh hfind] at h
      rw [List.cons_append, addFiles_fresh hfind]
      exact addFiles_append h
    · rw [addFiles_taken hfind] at h
      cases h

/-- Filing stops at the first file whose name is taken. -/
theorem addFiles_of_repeated {before between after : List (List Text)} {earlier later : List Text}
    (hsame : cleanName earlier = cleanName later)
    (hnodup : ((before ++ earlier :: between).map cleanName).Nodup) :
    addFiles root Catalog.empty (before ++ earlier :: between ++ later :: after)
      = .error (.collision ('/' :: cleanName later) (root.resolveFrom (Text.joinBy '/' earlier))
          (root.resolveFrom (Text.joinBy '/' later))) := by
  obtain ⟨all, hall, hperm⟩ := addFiles_empty root hnodup
  have hfind : all.find? (cleanName later) = some (filed root earlier).2 :=
    (find?_of_perm hperm).2 ⟨earlier, by simp, by rw [← hsame]; rfl⟩
  rw [addFiles_append hall, addFiles_taken hfind, ← hsame]
  rfl

theorem classify_eq (t : Tree) (root : Path) :
    classify t root = addFiles root Catalog.empty (t.listing [] root) := by
  unfold classify Tree.listing
  rcases t.filesBelow? [] root with _ | files <;> rfl

theorem classify_isOk_iff : (∃ assets, classify t root = .ok assets)
    ↔ ((t.listing [] root).map cleanName).Nodup := by
  rw [classify_eq]
  constructor
  · rintro ⟨assets, hassets⟩
    by_contra hrepeated
    obtain ⟨before, earlier, between, later, after, hfiles, hsame, hnodup⟩ :=
      exists_first_repeated hrepeated
    rw [hfiles, addFiles_of_repeated hsame hnodup] at hassets
    cases hassets
  · intro hnodup
    obtain ⟨assets, hassets, -⟩ := addFiles_empty root hnodup
    exact ⟨assets, hassets⟩

theorem perm_classify (h : classify t root = .ok assets) :
    assets.entries.Perm ((t.listing [] root).map (filed root)) := by
  have hnodup := classify_isOk_iff.1 ⟨assets, h⟩
  obtain ⟨assets', hassets', hperm⟩ := addFiles_empty root hnodup
  rw [classify_eq, hassets'] at h
  cases h
  exact hperm

theorem classify_eq_error_iff : classify t root = .error e
    ↔ ∃ before earlier between later after,
      t.listing [] root = before ++ earlier :: between ++ later :: after
        ∧ cleanName earlier = cleanName later
        ∧ ((before ++ earlier :: between).map cleanName).Nodup
        ∧ e = .collision ('/' :: cleanName later) (root.resolveFrom (Text.joinBy '/' earlier))
          (root.resolveFrom (Text.joinBy '/' later)) := by
  constructor
  · intro h
    have hrepeated : ¬ ((t.listing [] root).map cleanName).Nodup := by
      rw [← classify_isOk_iff, h]
      rintro ⟨assets, ⟨⟩⟩
    obtain ⟨before, earlier, between, later, after, hfiles, hsame, hnodup⟩ :=
      exists_first_repeated hrepeated
    rw [classify_eq, hfiles, addFiles_of_repeated hsame hnodup] at h
    cases h
    exact ⟨before, earlier, between, later, after, hfiles, hsame, hnodup, rfl⟩
  · rintro ⟨before, earlier, between, later, after, hfiles, hsame, hnodup, rfl⟩
    rw [classify_eq, hfiles, addFiles_of_repeated hsame hnodup]

theorem pairwise_sameName_iff {files : List (List Text)} :
    files.Pairwise (fun names names' => ¬ SameName root names names')
      ↔ (files.map cleanName).Nodup := by
  simp only [sameName_iff, List.Nodup, List.pairwise_map, ne_eq]

/-- The files below a site are listed in the order of their names. The site can be classified
exactly if no two of them come to the same name, and then each has an asset of its own and there are
no others. If two do, the error tells the first one in that order whose name an earlier one has,
behind that one and with the request path of both. -/
theorem served_one_to_one (t : Tree) (root : Path) :
    ∃ files : List (List Text), files.Pairwise (· < ·)
      ∧ (∀ names, names ∈ files ↔ t.FileBelow [] root names)
      ∧ ((∃ assets, classify t root = .ok assets)
        ↔ ∀ names names', t.FileBelow [] root names → t.FileBelow [] root names' →
          SameName root names names' → names = names')
      ∧ (∀ assets, classify t root = .ok assets → ∃ served : List (Text × StaticAsset),
        assets.entries.Perm served
          ∧ List.Forall₂ (fun names (name, asset) =>
              ServedAs root (Text.joinBy '/' names) name asset) files served)
      ∧ ∀ e, classify t root = .error e
        ↔ ∃ before earlier between later after name asset asset',
          files = before ++ earlier :: between ++ later :: after
            ∧ ServedAs root (Text.joinBy '/' earlier) name asset
            ∧ ServedAs root (Text.joinBy '/' later) name asset'
            ∧ (before ++ earlier :: between).Pairwise
              (fun names names' => ¬ SameName root names names')
            ∧ e = .collision ('/' :: name) asset.file asset'.file := by
  have horder := t.pairwise_listing [] root
  refine ⟨t.listing [] root, horder, fun names => Tree.mem_listing, ?ok, ?assets, ?error⟩
  case ok =>
    have hnodup : (t.listing [] root).Nodup := horder.imp fun h heq => by
      subst heq
      exact Std.Irrefl.irrefl _ h
    simp only [classify_isOk_iff, ← Tree.mem_listing, sameName_iff]
    exact ⟨fun h names names' hnames hnames' => List.inj_on_of_nodup_map h hnames hnames',
      fun h => hnodup.map_on fun names hnames names' hnames' => h names names' hnames hnames'⟩
  case assets =>
    intro assets hassets
    refine ⟨_, perm_classify hassets, ?_⟩
    rw [List.forall₂_map_right_iff]
    exact List.forall₂_same.2 fun names _ => servedAs_iff.2 ⟨rfl, rfl⟩
  case error =>
    intro e
    simp only [classify_eq_error_iff, servedAs_iff, pairwise_sameName_iff]
    constructor
    · rintro ⟨before, earlier, between, later, after, hfiles, hsame, hnodup, rfl⟩
      exact ⟨before, earlier, between, later, after, _, _, _, hfiles, ⟨hsame, rfl⟩, ⟨rfl, rfl⟩,
        hnodup, rfl⟩
    · rintro ⟨before, earlier, between, later, after, name, asset, asset', hfiles, ⟨hsame, rfl⟩,
        ⟨rfl, rfl⟩, hnodup, rfl⟩
      exact ⟨before, earlier, between, later, after, hfiles, hsame, hnodup, rfl⟩

end StaticAsset

end AppBundle
