import AppBundle.Proofs.Following
import AppBundle.Proofs.Spelling
import Mathlib.Order.WellFoundedSet

/-!
# Links in a resolution

A link is shipped as it is. In the unit its target is read from the path of the link by its
spelling alone, while its content was read from the tree, where the directories on the way may be
links themselves. So the two can part: in a resolution without warnings every link of the unit
comes to a file with the content that the link has exactly where no link comes back to itself as
spelled and each has the content of the file that its target is spelled to. That is so where each
target leads to the place that its spelling names (`links_keep_content_iff`).

A lookup of a link meets more links than one of the next link in the chain (`Reads.next`), so that
a chain whose targets lead where they are spelled comes to an end.
-/

namespace AppBundle

namespace Snapshot

variable {t : Tree} {root key : Path} {f : ProjectFile}

/-- The content of what a link leads to; a link that leads nowhere has none. -/
def contentOf? : Except LookupError Entry → Option ByteArray
  | .ok (.file content _) => some content
  | .ok _ => none
  | .error e => if e.isAbsence then some ByteArray.empty else none

theorem load_eq_some (h : load t root key = .ok (some f)) :
    ∃ place, t.locate false [] (root.resolveFrom key) = .ok place
      ∧ ((f.kind = .regular ∧ ∃ permissions, t.get? place = some (.file f.content permissions))
        ∨ ∃ target, f.kind = .symlink target ∧ t.get? place = some (.link target)
          ∧ contentOf? (t.status [] (root.resolveFrom key)) = some f.content) := by
  simp only [load] at h
  rcases hname : t.statusOfName [] (root.resolveFrom key) with e | e
  · rw [hname] at h
    cases he : e.isAbsence <;> simp [he] at h
  · obtain ⟨place, hplace, hentry⟩ := Tree.entryAt_eq_ok.1 hname
    refine ⟨place, hplace, ?_⟩
    rw [hname] at h
    cases e with
    | dir => simp at h
    | file content permissions =>
      simp only [Except.ok.injEq, Option.some.injEq] at h
      subst h
      exact .inl ⟨rfl, permissions, hentry⟩
    | link target =>
      rcases hstatus : t.status [] (root.resolveFrom key) with e | e
      · rw [hstatus] at h
        cases he : e.isAbsence <;> simp [he] at h
        subst h
        exact .inr ⟨target, rfl, hentry, by simp [contentOf?, he]⟩
      · rw [hstatus] at h
        cases e with
        | file content permissions =>
          simp only [Except.ok.injEq, Option.some.injEq] at h
          subst h
          exact .inr ⟨target, rfl, hentry, rfl⟩
        | dir => simp at h
        | link target' => simp at h

/-- A file has the content of what its path leads to. -/
theorem content_of_load (h : load t root key = .ok (some f)) :
    contentOf? (t.status [] (root.resolveFrom key)) = some f.content := by
  obtain ⟨place, hplace, ⟨-, permissions, hfile⟩ | ⟨-, -, -, hcontent⟩⟩ := load_eq_some h
  · have hthrough := Tree.locate_through hplace (by simp [hfile])
    have hstatus : t.status [] (root.resolveFrom key) = .ok (.file f.content permissions) :=
      Tree.entryAt_eq_ok.2 ⟨place, hthrough, hfile⟩
    rw [hstatus]
    rfl
  · exact hcontent

/-- A link is read link by link: it stands at a place, and what it holds is looked up from there,
through so many links, to where its content is. -/
structure Reads (t : Tree) (root key : Path) (f : ProjectFile) (target : Path) (place : Place)
    (links : Nat) (r : Except LookupError Place) : Prop where
  named : t.locate false [] (root.resolveFrom key) = .ok place
  link : t.get? place = some (.link target)
  ends : t.Ends true links (Tree.startOf place.dropLast target) (Tree.walkNames target) r
  content : contentOf? (t.entryAt r) = some f.content

theorem exists_reads {target : Path} (h : load t root key = .ok (some f))
    (hkind : f.kind = .symlink target) :
    ∃ place links r, Reads t root key f target place links r := by
  obtain ⟨place, hplace, ⟨hregular, -⟩ | ⟨target', hkind', hlink, hcontent⟩⟩ := load_eq_some h
  · cases hregular.symm.trans hkind
  · cases hkind'.symm.trans hkind
    have hstill : t.status [] (root.resolveFrom key) ≠ .ok (.link target) := by
      intro hs
      rw [hs] at hcontent
      cases hcontent
    have hmany : t.status [] (root.resolveFrom key) ≠ .error .tooManyLinks := by
      intro hs
      rw [hs] at hcontent
      cases hcontent
    obtain ⟨links, r, hends, hstatus⟩ := Tree.status_beyond_link hplace hlink hstill hmany
    exact ⟨place, links, r, hplace, hlink, hends, hstatus ▸ hcontent⟩

/-- A link whose target leads where a path does has the content of the file at that path, and if
this is a link again, then its lookup is a part of the first one's. -/
theorem Reads.next {target q : Path} {place place' : Place} {links : Nat}
    {r : Except LookupError Place} {g : ProjectFile} (h : Reads t root key f target place links r)
    (htarget : t.locate false place.dropLast target = .ok place')
    (hnamed : t.locate false [] (root.resolveFrom q) = .ok place')
    (hg : load t root q = .ok (some g)) :
    g.content = f.content ∧ (g.kind = .regular
      ∨ ∃ target' links', g.kind = .symlink target' ∧ links' < links
        ∧ Reads t root q g target' place' links' r) := by
  obtain ⟨n, -, hends⟩ := Tree.ends_of_locate htarget
  obtain ⟨place'', hplace, hentry⟩ := load_eq_some hg
  cases hplace.symm.trans hnamed
  rcases hentry with ⟨hregular, permissions, hfile⟩ | ⟨target', hkind, hlink, -⟩
  · obtain ⟨-, rfl⟩ := h.ends.unique (hends.through (by simp [hfile]))
    have hcontent := h.content
    rw [Tree.entryAt_ok, hfile] at hcontent
    exact ⟨Option.some.inj hcontent, .inl hregular⟩
  · have hne : r ≠ .ok place' := by
      rintro rfl
      have hcontent := h.content
      rw [Tree.entryAt_ok, hlink] at hcontent
      cases hcontent
    obtain ⟨links', hlinks, hlater⟩ := Tree.Ends.beyond_link hlink hne hends h.ends
    obtain ⟨_, _, r', hreads⟩ := exists_reads hg hkind
    cases hreads.named.symm.trans hnamed
    obtain ⟨rfl, rfl⟩ := hreads.ends.unique hlater
    exact ⟨Option.some.inj (hreads.content.symm.trans h.content),
      .inr ⟨target', _, hkind, by omega, hreads⟩⟩

end Snapshot

namespace Import

open Reading

/-! ## Chains of links -/

section Chains

variable (source : Path → Answer) (files : List Path)

/-- One of the files is a link, and the other path is its target as spelled. -/
def PointsTo (p q : Path) : Prop :=
  p ∈ files ∧ ∃ f target, source p = .ok (some f) ∧ f.kind = .symlink target
    ∧ linkTarget p target = some q

/-- Each of the files is regular, or a link that points to one of them. -/
def Linked : Prop :=
  ∀ p ∈ files, (∃ g, source p = .ok (some g) ∧ g.kind = .regular)
    ∨ ∃ q ∈ files, PointsTo source files p q

/-- From link to link, by their targets as spelled, a path comes to a regular file. -/
inductive ComesToFile : Path → Path → ProjectFile → Prop
  | file {p : Path} {g : ProjectFile} (hp : p ∈ files) (hg : source p = .ok (some g))
      (hkind : g.kind = .regular) : ComesToFile p p g
  | link {p q e : Path} {g : ProjectFile} (hpoints : PointsTo source files p q)
      (hlater : ComesToFile q e g) : ComesToFile p e g

/-- Every link comes to a regular file with the content that the link has. -/
def LinksKeepContent : Prop :=
  ∀ p ∈ files, ∀ f, source p = .ok (some f) → f.kind ≠ .regular →
    ∃ e g, ComesToFile source files p e g ∧ g.content = f.content

variable {source files}

theorem PointsTo.unique {p q q' : Path} (h : PointsTo source files p q)
    (h' : PointsTo source files p q') : q = q' := by
  obtain ⟨-, f, target, hf, hkind, htarget⟩ := h
  obtain ⟨-, f', target', hf', hkind', htarget'⟩ := h'
  cases hf.symm.trans hf'
  cases hkind.symm.trans hkind'
  exact Option.some.inj (htarget.symm.trans htarget')

theorem PointsTo.not_regular {p q : Path} {f : ProjectFile} (h : PointsTo source files p q)
    (hf : source p = .ok (some f)) : f.kind ≠ .regular := by
  obtain ⟨-, f', target, hf', hkind, -⟩ := h
  cases hf.symm.trans hf'
  simp [hkind]

theorem Linked.exists_file {p : Path} (h : Linked source files) (hp : p ∈ files) :
    ∃ f, source p = .ok (some f) := by
  rcases h p hp with ⟨f, hf, -⟩ | ⟨-, -, -, f, -, hf, -⟩
  · exact ⟨f, hf⟩
  · exact ⟨f, hf⟩

theorem ComesToFile.unique {p e e' : Path} {g g' : ProjectFile}
    (h : ComesToFile source files p e g) (h' : ComesToFile source files p e' g') :
    e = e' ∧ g = g' := by
  induction h with
  | file _ hg hkind =>
    cases h' with
    | file _ hg' _ => cases hg.symm.trans hg'; exact ⟨rfl, rfl⟩
    | link hpoints _ => exact absurd hkind (hpoints.not_regular hg)
  | link hpoints _ ih =>
    cases h' with
    | file _ hg hkind => exact absurd hkind (hpoints.not_regular hg)
    | link hpoints' hlater =>
      cases hpoints.unique hpoints'
      exact ih hlater

theorem ComesToFile.not_circle {p e : Path} {g : ProjectFile}
    (h : ComesToFile source files p e g) : ¬ Relation.TransGen (PointsTo source files) p p := by
  induction h with
  | file _ hg hkind =>
    intro hcircle
    obtain ⟨q, hpoints, -⟩ := Relation.TransGen.head'_iff.1 hcircle
    exact hpoints.not_regular hg hkind
  | link hpoints _ ih =>
    intro hcircle
    obtain ⟨q, hpoints', hback⟩ := Relation.TransGen.head'_iff.1 hcircle
    cases hpoints.unique hpoints'
    exact ih (.tail' hback hpoints)

/-- Among finitely many files links that never come back come to a file. -/
theorem exists_comesToFile (hcircle : ∀ p, ¬ Relation.TransGen (PointsTo source files) p p)
    (hlinked : Linked source files) {p : Path} (hp : p ∈ files) :
    ∃ e g, ComesToFile source files p e g := by
  have hstrict : IsStrictOrder Path (flip (Relation.TransGen (PointsTo source files))) :=
    { irrefl := hcircle
      trans := fun _ _ _ h h' => h'.trans h }
  have hfounded := files.finite_toSet.wellFoundedOn
    (r := flip (Relation.TransGen (PointsTo source files)))
  refine hfounded.induction hp (P := fun p => ∃ e g, ComesToFile source files p e g)
    fun p hp ih => ?_
  rcases hlinked p hp with ⟨g, hg, hkind⟩ | ⟨q, hq, hpoints⟩
  · exact ⟨p, g, .file hp hg hkind⟩
  · obtain ⟨e, g, hlater⟩ := ih q hq (.single hpoints)
    exact ⟨e, g, .link hpoints hlater⟩

theorem ComesToFile.exists_file {p e : Path} {g : ProjectFile}
    (h : ComesToFile source files p e g) : ∃ f, source p = .ok (some f) := by
  cases h with
  | file _ hg _ => exact ⟨g, hg⟩
  | link hpoints _ =>
    obtain ⟨-, f, -, hf, -⟩ := hpoints
    exact ⟨f, hf⟩

theorem ComesToFile.content_eq
    (hsame : ∀ p q f g, PointsTo source files p q → source p = .ok (some f) →
      source q = .ok (some g) → g.content = f.content)
    {p e : Path} {f g : ProjectFile} (h : ComesToFile source files p e g)
    (hf : source p = .ok (some f)) : g.content = f.content := by
  induction h generalizing f with
  | file _ hg _ =>
    cases hg.symm.trans hf
    rfl
  | link hpoints hlater ih =>
    obtain ⟨f', hf'⟩ := hlater.exists_file
    exact (ih hf').trans (hsame _ _ f f' hpoints hf hf')

/-- Every link keeps its content where no link comes back to itself and each has the content of
the file that it points to, and nowhere else. -/
theorem linksKeepContent_iff
    (hlinked : Linked source files) :
    LinksKeepContent source files
      ↔ (∀ p, ¬ Relation.TransGen (PointsTo source files) p p)
        ∧ ∀ p q f g, PointsTo source files p q → source p = .ok (some f) →
            source q = .ok (some g) → g.content = f.content := by
  constructor
  · intro hkeep
    have hcomes : ∀ p q, PointsTo source files p q → ∀ f, source p = .ok (some f) →
        ∃ e h, ComesToFile source files q e h ∧ h.content = f.content := by
      intro p q hpoints f hf
      obtain ⟨e, h, hcomes, hcontent⟩ := hkeep p hpoints.1 f hf (hpoints.not_regular hf)
      cases hcomes with
      | file _ hg hkind => exact absurd hkind (hpoints.not_regular hg)
      | link hpoints' hlater =>
        cases hpoints.unique hpoints'
        exact ⟨e, h, hlater, hcontent⟩
    refine ⟨fun p hcircle => ?_, fun p q f g hpoints hf hg => ?_⟩
    · obtain ⟨q, hpoints, hback⟩ := Relation.TransGen.head'_iff.1 hcircle
      obtain ⟨-, f, -, hf, -⟩ := id hpoints
      obtain ⟨e, h, hlater, -⟩ := hcomes p q hpoints f hf
      exact hlater.not_circle (.tail' hback hpoints)
    · obtain ⟨e, h, hlater, hcontent⟩ := hcomes p q hpoints f hf
      cases hlater with
      | file _ hg' _ =>
        cases hg.symm.trans hg'
        exact hcontent
      | link hpoints' hlater' =>
        obtain ⟨e', h', hcomes', hcontent'⟩ :=
          hkeep q hpoints'.1 g hg (hpoints'.not_regular hg)
        obtain ⟨-, rfl⟩ := hcomes'.unique (.link hpoints' hlater')
        exact hcontent'.symm.trans hcontent
  · rintro ⟨hcircle, hsame⟩ p hp f hf -
    obtain ⟨e, g, hcomes⟩ := exists_comesToFile hcircle hlinked hp
    exact ⟨e, g, hcomes, hcomes.content_eq hsame hf⟩

end Chains

/-! ## Links as spelled -/

section Spelled

variable {t : Tree} {root : Path} {options : ScanOptions} {limit : Nat} {entrypoint : Path}
  {r : Resolution}

/-- If the path is a link, then its target, looked up from the directory that really holds the
link, names the same place as its spelling does. -/
def PointsAsSpelled (t : Tree) (root p : Path) : Prop :=
  ∀ link ∈ p.normalize.bind fun key => t.linkAt? (root.resolveFrom key),
    ∀ q ∈ linkTarget p link.2,
      t.locate false link.1.dropLast link.2 = t.locate false [] (root.resolveFrom q)

instance (t : Tree) (root p : Path) : Decidable (PointsAsSpelled t root p) :=
  inferInstanceAs (Decidable (∀ link ∈ p.normalize.bind fun key => t.linkAt? (root.resolveFrom key),
    ∀ q ∈ linkTarget p link.2,
      t.locate false link.1.dropLast link.2 = t.locate false [] (root.resolveFrom q)))

/-- A link whose target leads where it is spelled comes to a file with its content, if all that it
comes to are such links. -/
theorem comesToFile_of_reads {files : List Path}
    (hlinked : Linked (Snapshot.source t root) files)
    (hspelled : ∀ p ∈ files, PointsAsSpelled t root p) {links : Nat} :
    ∀ {p key target : Path} {f : ProjectFile} {place : Place} {r : Except LookupError Place},
      p ∈ files → p.normalize = some key → f.kind = .symlink target →
      Snapshot.source t root p = .ok (some f) →
      Snapshot.Reads t root key f target place links r →
      ∃ e g, ComesToFile (Snapshot.source t root) files p e g ∧ g.content = f.content := by
  -- The lookup of the next link's target is a part of this one's, with fewer links in it.
  induction links using Nat.strong_induction_on with
  | h links ih =>
    intro p key target f place r hp hkey hkind hf hreads
    rcases hlinked p hp with ⟨g, hg, hregular⟩ | ⟨q, hq, hpoints⟩
    · cases hf.symm.trans hg
      cases hkind.symm.trans hregular
    · obtain ⟨-, f', target', hf', hkind', htarget⟩ := id hpoints
      cases hf.symm.trans hf'
      cases hkind.symm.trans hkind'
      have hnormal : q.normalize = some q := normal_of_linkTarget htarget
      obtain ⟨g, hg⟩ := hlinked.exists_file hq
      have hload : Snapshot.load t root q = .ok (some g) :=
        (Snapshot.source_of_some hnormal).symm.trans hg
      obtain ⟨place', hnamed, -⟩ := Snapshot.load_eq_some hload
      have hat :
          (place, target) ∈ p.normalize.bind fun key => t.linkAt? (root.resolveFrom key) := by
        rw [hkey]
        exact Tree.linkAt?_eq_some.2 ⟨hreads.named, hreads.link⟩
      have hplace' : t.locate false place.dropLast target = .ok place' :=
        (hspelled p hp _ hat q htarget).trans hnamed
      obtain ⟨hcontent, hregular | ⟨target', links', hkind', hless, hreads'⟩⟩ :=
        hreads.next hplace' hnamed hload
      · exact ⟨q, g, .link hpoints (.file hq hg hregular), hcontent⟩
      · obtain ⟨e, h, hcomes, heq⟩ := ih links' hless hq hnormal hkind' hg hreads'
        exact ⟨e, h, .link hpoints hcomes, heq.trans hcontent⟩

/-- In a resolution without exclusions and without warnings every file is regular or a link to
one of them. -/
theorem linked_of_resolver {source : Path → Answer}
    (h : Yields source (resolver limit options entrypoint) r)
    (hexclude : options.exclude.rules = []) (hwarnings : r.warnings = []) :
    Linked source r.files := by
  intro p hp
  obtain ⟨entry, -, hreached⟩ := mem_files_iff_reached h
  obtain ⟨f, finds, hf, hvisit, hnoted⟩ := reported_of_resolver h hp
  have hsilent : finds.warnings = [] := by
    rw [hwarnings] at hnoted
    exact List.eq_nil_iff_forall_not_mem.2 fun x hx => List.not_mem_nil (hnoted x hx)
  cases hkind : f.kind with
  | regular => exact .inl ⟨f, hf, hkind⟩
  | symlink target =>
    unfold visit at hvisit
    rw [hkind] at hvisit
    obtain ⟨q, g, htarget, hq⟩ := exists_target_of_silent hexclude hvisit hsilent
    have hlead : Leads source options p q := ⟨f, hf, g, .link hkind htarget hq⟩
    have hnext := (hreached q).2 (((hreached p).1 hp).tail hlead)
    exact .inr ⟨q, hnext, hp, f, target, hf, hkind, htarget⟩

/-- In a resolution without exclusions and without warnings every link comes, as spelled, to a
regular file with the content of the link exactly where no link comes back to itself and each has
the content of the file that it points to. That is so if all links point as they are spelled. -/
theorem links_keep_content_iff
    (h : ((Snapshot.new root).run t (resolver limit options entrypoint).run).1 = .ok (.ok r))
    (hexclude : options.exclude.rules = []) (hwarnings : r.warnings = []) :
    (LinksKeepContent (Snapshot.source t root) r.files
        ↔ (∀ p, ¬ Relation.TransGen (PointsTo (Snapshot.source t root) r.files) p p)
          ∧ ∀ p q f g, PointsTo (Snapshot.source t root) r.files p q →
              Snapshot.source t root p = .ok (some f) → Snapshot.source t root q = .ok (some g) →
              g.content = f.content)
      ∧ ((∀ p ∈ r.files, PointsAsSpelled t root p) →
          LinksKeepContent (Snapshot.source t root) r.files) := by
  rw [Snapshot.run_new] at h
  have hlinked : Linked (Snapshot.source t root) r.files :=
    linked_of_resolver h hexclude hwarnings
  refine ⟨linksKeepContent_iff hlinked, fun hspelled p hp f hf hlink => ?_⟩
  cases hkind : f.kind with
  | regular => exact absurd hkind hlink
  | symlink target =>
    have hkey : p.normalize = some f.path := Snapshot.path_of_source hf
    have hload : Snapshot.load t root f.path = .ok (some f) :=
      (Snapshot.source_of_some hkey).symm.trans hf
    obtain ⟨place, links, r', hreads⟩ := Snapshot.exists_reads hload hkind
    exact comesToFile_of_reads hlinked hspelled hp hkey hkind hf hreads

/-- A project at `/p` with these entries, each after the directory that it stands in. -/
def projectWith (entries : List (List String × Entry)) : Tree :=
  entries.foldl (fun t e => t.put (("p" :: e.1).map String.toList) e.2)
    (Tree.empty.put ["p".toList] .dir)

/-- A link through a linked directory to another link there, which leads out again to a file. -/
def linkedTwice : Tree :=
  projectWith [(["lib"], .dir), (["lib", "l.js"], .link "../b.js".toList),
    (["b.js"], .file (ByteArray.mk #[0x31]) 0o644), (["d"], .link "lib".toList),
    (["a.js"], .link "d/l.js".toList)]

theorem links_keep_content_iff_linkedTwice :
    ∃ r, ((Snapshot.new "/p".toList).run linkedTwice (resolver 3 {} "a.js".toList).run).1
        = .ok (.ok r)
      ∧ r.files = ["a.js".toList, "b.js".toList, "d/l.js".toList] ∧ r.warnings = []
      ∧ (∀ p ∈ r.files, PointsAsSpelled linkedTwice "/p".toList p)
      ∧ LinksKeepContent (Snapshot.source linkedTwice "/p".toList) r.files := by
  have hrun : (yield? (Snapshot.source linkedTwice "/p".toList)
      (resolver 3 {} "a.js".toList)).map (fun r => (r.files, r.warnings))
        = some (["a.js".toList, "b.js".toList, "d/l.js".toList], []) := by
    decide +kernel
  have hspelled : ∀ p ∈ ["a.js".toList, "b.js".toList, "d/l.js".toList],
      PointsAsSpelled linkedTwice "/p".toList p := by
    decide +kernel
  obtain ⟨r, hr, hparts⟩ := Option.map_eq_some_iff.1 hrun
  obtain ⟨hfiles, hwarnings⟩ := Prod.mk.inj hparts
  have h := (Snapshot.run_new linkedTwice "/p".toList _).trans ((yield?_eq_some _).1 hr)
  rw [← hfiles] at hspelled
  exact ⟨r, h, hfiles, hwarnings, hspelled, (links_keep_content_iff h rfl hwarnings).2 hspelled⟩

/-- A link in a linked directory, whose target leads up to one file from where the link is and to
another from where it is spelled. -/
def linkedDirectory : Tree :=
  projectWith [(["real"], .dir), (["real", "deep"], .dir),
    (["real", "deep", "l.js"], .link "../x.js".toList),
    (["real", "x.js"], .file (ByteArray.mk #[0x31]) 0o644),
    (["x.js"], .file (ByteArray.mk #[0x32]) 0o644), (["d"], .link "real/deep".toList)]

/-- What is shipped at a path: with its kind, its bytes. -/
def shippedAs? (source : Path → Answer) (p : Path) : Option (FileKind × List UInt8) :=
  match source p with
  | .ok (some f) => some (f.kind, f.content.toList)
  | _ => none

theorem shippedAs?_eq_some {source : Path → Answer} {p : Path} {kind : FileKind}
    {bytes : List UInt8} : shippedAs? source p = some (kind, bytes)
      ↔ ∃ f, source p = .ok (some f) ∧ f.kind = kind ∧ f.content.toList = bytes := by
  unfold shippedAs?
  rcases source p with e | _ | f <;> simp

/-- The link is shipped with the bytes of the one file and points to the other. -/
theorem linked_directory_misleads :
    ∃ r, ((Snapshot.new "/p".toList).run linkedDirectory (resolver 2 {} "d/l.js".toList).run).1
        = .ok (.ok r)
      ∧ r.files = ["d/l.js".toList, "x.js".toList] ∧ r.warnings = []
      ∧ shippedAs? (Snapshot.source linkedDirectory "/p".toList) "d/l.js".toList
        = some (.symlink "../x.js".toList, [0x31])
      ∧ shippedAs? (Snapshot.source linkedDirectory "/p".toList) "x.js".toList
        = some (.regular, [0x32])
      ∧ ¬ LinksKeepContent (Snapshot.source linkedDirectory "/p".toList) r.files := by
  have hrun : (yield? (Snapshot.source linkedDirectory "/p".toList)
      (resolver 2 {} "d/l.js".toList)).map (fun r => (r.files, r.warnings))
        = some (["d/l.js".toList, "x.js".toList], []) := by
    decide +kernel
  have hlink : shippedAs? (Snapshot.source linkedDirectory "/p".toList) "d/l.js".toList
      = some (.symlink "../x.js".toList, [0x31]) := by
    decide +kernel
  have htarget : shippedAs? (Snapshot.source linkedDirectory "/p".toList) "x.js".toList
      = some (.regular, [0x32]) := by
    decide +kernel
  obtain ⟨r, hr, hparts⟩ := Option.map_eq_some_iff.1 hrun
  obtain ⟨hfiles, hwarnings⟩ := Prod.mk.inj hparts
  have h := (yield?_eq_some (Snapshot.source linkedDirectory "/p".toList)).1 hr
  refine ⟨r, (Snapshot.run_new _ _ _).trans h, hfiles, hwarnings, hlink, htarget, fun hkeep => ?_⟩
  obtain ⟨f, hf, hkind, hone⟩ := shippedAs?_eq_some.1 hlink
  obtain ⟨g, hg, -, htwo⟩ := shippedAs?_eq_some.1 htarget
  have hpoints : PointsTo (Snapshot.source linkedDirectory "/p".toList) r.files "d/l.js".toList
      "x.js".toList :=
    ⟨by simp [hfiles], f, _, hf, hkind, by decide⟩
  have hsame : g.content = f.content :=
    ((linksKeepContent_iff (linked_of_resolver h rfl hwarnings)).1 hkeep).2 _ _ f g hpoints hf hg
  rw [hsame, hone] at htwo
  exact absurd htwo (by decide)

end Spelled

end Import

end AppBundle
