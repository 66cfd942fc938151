import AppBundle.Proofs.Excluded
import AppBundle.Proofs.FileNames
import AppBundle.Proofs.Requests
import AppBundle.Proofs.Strays

/-!
# The nearest package

A package lookup asks in one directory after the other, from the deepest up, and goes on only where
nothing is there of the package (`requests_passed`). Where something is, what it asks for does not
depend on the directories farther up (`requests_gives`).

So the lookup ends at the deepest directory that decides, and what would be answered farther up has
no influence (`nearest_package_decides`). Only where the lookup comes down to the project root it
may have no end at all: exclusion rules cannot judge an index or a manifest there.
-/

namespace AppBundle

open AppBundle.Path

namespace Reading

variable {α ε : Type} {source source' : Path → Answer}

/-- What a reading comes to depends on no path that it does not ask for. -/
theorem answer_of_agree : ∀ {r : Reading α}, (∀ p ∈ r.requests source, source' p = source p) →
    r.answer source' = r.answer source
  | done _, _ => rfl
  | stray _, _ => rfl
  | ask p next, h => by
    obtain ⟨hp, hnext⟩ := List.forall_mem_cons.1 h
    rw [answer, answer, hp]
    exact answer_of_agree hnext

theorem exists_yields {r : ExceptT ε Reading α} (hstray : ¬ Strays source r)
    (hfail : ∀ e, ¬ Fails source r e) : ∃ a, Yields source r a := by
  rcases hr : r.run.answer source with s | e | a
  · exact absurd ⟨s, hr⟩ hstray
  · exact absurd hr (hfail e)
  · exact ⟨a, hr⟩

end Reading

namespace Import

open Reading

/-! ## Directories -/

/-- What stands in front of a slash ends at the last slash or before it. -/
theorem eq_or_extends_of_append {a before rest last : Path} (hlast : '/' ∉ last)
    (h : before ++ '/' :: last = a ++ '/' :: rest) :
    a = before ∨ ∃ rest, before = a ++ '/' :: rest := by
  rcases List.append_eq_append_iff.1 h with ⟨as, ha, has⟩ | ⟨as, ha, has⟩
  · cases as with
    | nil => exact .inl (by simpa using ha)
    | cons c as => exact absurd (by cases has; simp) hlast
  · cases as with
    | nil => exact .inl (by simpa using ha.symm)
    | cons c as =>
      cases has
      exact .inr ⟨as, ha⟩

/-- A directory is at another one or above it: it is the other or the project root, or it stands in
front of a slash of the other. -/
def Above (dir a : Path) : Prop := a = dir ∨ a = [] ∨ ∃ rest, dir = a ++ '/' :: rest

theorem mem_ancestors {a dir : Path} : a ∈ ancestors dir ↔ Above dir a := by
  unfold Above
  induction dir using ancestors.induct with
  | case1 => simp [ancestors]
  | case2 dir hdir ih =>
    rw [ancestors, if_neg hdir, List.mem_cons, ih]
    refine or_congr_right ?_
    rcases hcut : dir.cutLast? '/' with _ | ⟨before, last⟩
    · have hslash : '/' ∉ dir := Text.cutLast?_eq_none.1 hcut
      have hparent : dir.parent = [] := by rw [parent, hcut]
      have hno : ∀ rest, dir ≠ a ++ '/' :: rest := fun rest h => hslash (by simp [h])
      simp [hparent, hno]
    · obtain ⟨hsplit, hlast⟩ := Text.cutLast?_eq_some.1 hcut
      have hparent : dir.parent = before := by rw [parent, hcut]
      rw [hparent]
      constructor
      · rintro (rfl | rfl | ⟨rest, rfl⟩)
        · exact .inr ⟨last, hsplit⟩
        · exact .inl rfl
        · exact .inr ⟨rest ++ '/' :: last, by simp [hsplit]⟩
      · rintro (rfl | ⟨rest, h⟩)
        · exact .inr (.inl rfl)
        · exact (eq_or_extends_of_append hlast (hsplit ▸ h)).imp_right .inr

/-- The ancestors of a directory come deepest first. -/
theorem pairwise_ancestors (dir : Path) :
    (ancestors dir).Pairwise fun a b => b.length < a.length := by
  induction dir using ancestors.induct with
  | case1 => simp [ancestors]
  | case2 dir hdir ih =>
    rw [ancestors, if_neg hdir, List.pairwise_cons]
    refine ⟨fun a ha => ?_, ih⟩
    have hlt := length_parent_lt hdir
    rcases mem_ancestors.1 ha with rfl | rfl | ⟨rest, h⟩
    · exact hlt
    · exact List.length_pos_iff.2 hdir
    · have hlength : dir.parent.length = a.length + (rest.length + 1) := by simp [h]
      omega

/-! ## What a directory gives -/

section Directory

variable (source : Path → Answer)

variable (options : ScanOptions) (dialect : Dialect) (name : Text) (subpath : Option Text)

/-- A directory has the package: its manifest is there, or what stands for the package is there or
excluded. -/
def Decides (base : Path) : Prop :=
  ∃ package, packageDir? name base = some package
    ∧ ((∃ m, Available source options.exclude (manifestOf package) m)
      ∨ ∃ target, insideOf subpath package = some target
        ∧ ∃ c ∈ candidates options.typescript target,
          (∃ file, Available source options.exclude c file) ∨ options.exclude.check c = .ok true)

/-- What a directory gives that has the package: with a manifest, where a lookup of the path ends
that the manifest leads to, and the manifest for a find; without one, the first file there is where
the package is, or that something is excluded there. -/
inductive Gives (base : Path) : Probe → Finds → Prop
  | manifest {package : Path} {m : ProjectFile} {probe : Probe}
      (hdir : packageDir? name base = some package)
      (hm : Available source options.exclude (manifestOf package) m)
      (hprobe : ProbedAt source options (targetOf dialect subpath package m) probe) :
      Gives base probe (consultedFinds dialect subpath (some (manifestOf package, m)))
  | bare {package target : Path} {probe : Probe} (hdir : packageDir? name base = some package)
      (hm : Passed source options.exclude (manifestOf package))
      (htarget : insideOf subpath package = some target)
      (hprobe : Probed source options.exclude (candidates options.typescript target) probe)
      (hthere : probe ≠ .missing) : Gives base probe {}

variable {source options dialect name subpath} {base : Path}

theorem PassedBase.not_decides (h : PassedBase source options name subpath base) :
    ¬ Decides source options name subpath base := by
  rintro ⟨package, hdir, ⟨m, hm⟩ | ⟨target, htarget, c, hc, hthere⟩⟩
  · exact hm.not_passed (h package hdir).1
  · have habsent := (h package hdir).2 target htarget c hc
    rcases hthere with ⟨file, hfile⟩ | hexcluded
    · exact hfile.not_passed (.inr habsent)
    · cases habsent.1.symm.trans hexcluded

theorem Gives.decides {probe : Probe} {finds : Finds}
    (h : Gives source options dialect name subpath base probe finds) :
    Decides source options name subpath base := by
  cases h with
  | manifest hdir hm hprobe => exact ⟨_, hdir, .inl ⟨_, hm⟩⟩
  | bare hdir hm htarget hprobe hthere =>
    refine ⟨_, hdir, .inr ⟨_, htarget, ?_⟩⟩
    cases probe with
    | missing => exact absurd rfl hthere
    | found p file =>
      obtain ⟨c, hc, rfl, hfile⟩ := FirstWhere.exists_mem hprobe
      exact ⟨c, hc, .inl ⟨file, hfile⟩⟩
    | excluded =>
      obtain ⟨c, hc, hexcluded⟩ := hprobe.2.resolve_left Bool.false_ne_true
      exact ⟨c, hc, .inr hexcluded⟩

/-- A package lookup yields what the first directory gives behind which it does not go on. -/
theorem yields_probePackage_iff {bases : List Path} {probe : Probe} {finds : Finds} :
    Yields source (probePackage options dialect name subpath bases) (probe, finds)
      ↔ FirstWhere (PassedBase source options name subpath)
          (fun base => Gives source options dialect name subpath base probe finds) bases
        ∨ (∀ base ∈ bases, PassedBase source options name subpath base)
          ∧ probe = .missing ∧ finds = {} := by
  rw [yields_probePackage]
  constructor
  · rintro ⟨consulted, target, h, hprobe, rfl⟩
    cases h with
    | manifest h =>
      obtain ⟨before, base, after, rfl, hbefore, hdir, hm⟩ := h
      exact .inl ⟨before, base, after, rfl, hbefore, .manifest hdir hm hprobe⟩
    | bare h =>
      obtain ⟨before, base, after, rfl, hbefore, hdir, hm, htarget, hthere⟩ := h
      refine .inl ⟨before, base, after, rfl, hbefore, .bare hdir hm htarget hprobe ?_⟩
      rintro rfl
      exact hthere (probed_missing.1 hprobe)
    | nowhere h => exact .inr ⟨h, hprobe, rfl⟩
  · rintro (⟨before, base, after, rfl, hbefore, h⟩ | ⟨h, rfl, rfl⟩)
    · cases h with
      | manifest hdir hm hprobe =>
        exact ⟨_, _, .manifest ⟨before, base, after, rfl, hbefore, hdir, hm⟩, hprobe, rfl⟩
      | bare hdir hm htarget hprobe hthere =>
        refine ⟨none, _, .bare ⟨before, base, after, rfl, hbefore, hdir, hm, htarget, ?_⟩,
          hprobe, rfl⟩
        exact fun habsent => hthere (hprobe.unique (probed_missing.2 habsent))
    · exact ⟨none, none, .nowhere h, rfl, rfl⟩

/-! ## What it asks for -/

theorem requests_unlessExcluded {exclude : Ignore} {p : Path} {found : Option ProjectFile}
    (h : Consulted source exclude p found) :
    ∃ asked, ∀ {γ : Type} (next : Option ProjectFile → Scan γ),
      (do
        if ← isExcluded exclude p then
          let m ← pure none
          next m
        else
          let m ← askFile p
          next m : Scan γ).run.requests source = asked ++ (next found).run.requests source := by
  have hcheck : (exclude.check p = .ok true ∧ found = none)
      ∨ exclude.check p = .ok false ∧ source p = .ok found := by
    cases found with
    | none => exact h.imp (⟨·, rfl⟩) id
    | some m => exact .inr h
  rcases hcheck with ⟨hp, rfl⟩ | ⟨hp, hfound⟩
  · refine ⟨[], fun next => ?_⟩
    rw [requests_run_bind (yields_isExcluded.2 hp), if_pos rfl,
      requests_run_bind (yields_pure.2 rfl)]
    unfold isExcluded
    rw [hp]
    rfl
  · refine ⟨[p], fun next => ?_⟩
    rw [requests_run_bind (yields_isExcluded.2 hp), if_neg Bool.false_ne_true,
      requests_run_bind (yields_askFile.2 hfound)]
    unfold isExcluded
    rw [hp]
    rfl

/-- Where nothing is there of the package, a lookup asks for the same whatever lies farther up, and
goes on. -/
theorem requests_passed (dialect : Dialect) (h : PassedBase source options name subpath base) :
    ∃ asked, ∀ bases,
      (probePackage options dialect name subpath (base :: bases)).run.requests source
        = asked ++ (probePackage options dialect name subpath bases).run.requests source := by
  rcases hdir : packageDir? name base with _ | package
  · refine ⟨[], fun bases => ?_⟩
    rw [probePackage_cons, hdir]
    rfl
  · obtain ⟨hm, habsent⟩ := (passedBase_iff hdir).1 h
    obtain ⟨asked, hasked⟩ := requests_unlessExcluded
      (show Consulted source options.exclude (manifestOf package) none from hm)
    rcases htarget : insideOf subpath package with _ | target
    · refine ⟨asked, fun bases => ?_⟩
      rw [probePackage_cons, hdir]
      dsimp only
      rw [hasked, probeIn, htarget]
    · have hprobe : Yields source (probeModule options target) .missing :=
        yields_probeModule.2 (probed_missing.2 (habsent target htarget))
      refine ⟨asked ++ (probeModule options target).run.requests source, fun bases => ?_⟩
      rw [probePackage_cons, hdir]
      dsimp only
      rw [hasked, probeIn, htarget]
      dsimp only
      rw [requests_run_bind hprobe, List.append_assoc]

/-- Where a directory gives something, a lookup asks for the same whatever lies farther up. -/
theorem requests_gives {probe : Probe} {finds : Finds}
    (h : Gives source options dialect name subpath base probe finds) (bases bases' : List Path) :
    (probePackage options dialect name subpath (base :: bases)).run.requests source
      = (probePackage options dialect name subpath (base :: bases')).run.requests source := by
  cases h with
  | @manifest package m _ hdir hm hprobe =>
    obtain ⟨asked, hasked⟩ := requests_unlessExcluded
      (show Consulted source options.exclude (manifestOf package) (some m) from hm)
    rw [probePackage_cons, probePackage_cons, hdir]
    dsimp only
    rw [hasked, hasked]
    rfl
  | @bare package target _ hdir hm htarget hprobe hthere =>
    obtain ⟨asked, hasked⟩ := requests_unlessExcluded
      (show Consulted source options.exclude (manifestOf package) none from hm)
    rw [probePackage_cons, probePackage_cons, hdir]
    dsimp only
    rw [hasked, hasked, probeIn, probeIn, htarget]
    dsimp only
    rw [requests_run_bind (yields_probeModule.2 hprobe),
      requests_run_bind (yields_probeModule.2 hprobe)]
    cases probe with
    | missing => exact absurd rfl hthere
    | found p file => rfl
    | excluded => rfl

theorem requests_farther {probe : Probe} {finds : Finds}
    (h : Gives source options dialect name subpath base probe finds) (after after' : List Path) :
    ∀ {before : List Path}, (∀ b ∈ before, PassedBase source options name subpath b) →
      (probePackage options dialect name subpath (before ++ base :: after)).run.requests source
        = (probePackage options dialect name subpath (before ++ base :: after')).run.requests source
  | [], _ => requests_gives h after after'
  | b :: before, hbefore => by
    obtain ⟨hb, hbefore⟩ := List.forall_mem_cons.1 hbefore
    obtain ⟨asked, hasked⟩ := requests_passed dialect hb
    rw [List.cons_append, List.cons_append, hasked, hasked, requests_farther h after after' hbefore]

/-- A package lookup ends at the deepest directory that has the package, with what that directory
gives, and asks for the same whatever lies farther up. Where none has it, it ends with nothing. It
may have no end only where it comes to a path that the exclusions cannot judge: below an absolute
root an index or a manifest of the project root, if there are rules. -/
theorem nearest_package_decides {dir : Path}
    (hreads : ∀ p ∈ (probePackage options dialect name subpath (ancestors dir)).run.requests source,
      ∃ found, source p = .ok found) :
    (∀ a, a ∈ ancestors dir ↔ Above dir a)
      ∧ (ancestors dir).Pairwise (fun a b => b.length < a.length)
      ∧ (Strays source (probePackage options dialect name subpath (ancestors dir))
        ↔ ∃ c, PackageComesTo source options dialect name subpath (ancestors dir) c
          ∧ ∃ stray, options.exclude.check c = .error stray)
      ∧ (options.exclude.root.head? = some '/' →
        ∀ c, PackageComesTo source options dialect name subpath (ancestors dir) c →
          ((∃ stray, options.exclude.check c = .error stray)
            ↔ RootSpelled options.typescript c ∧ options.exclude.rules ≠ []
              ∧ ¬ options.exclude.root <+: c))
      ∧ (¬ Strays source (probePackage options dialect name subpath (ancestors dir)) →
        (∃ before b after probe finds, ancestors dir = before ++ b :: after
            ∧ Decides source options name subpath b
            ∧ (∀ a ∈ before, ¬ Decides source options name subpath a)
            ∧ Gives source options dialect name subpath b probe finds
            ∧ Yields source (probePackage options dialect name subpath (ancestors dir))
                (probe, finds)
            ∧ ∀ source', (∀ p ∈ (probePackage options dialect name subpath
                (before ++ [b])).run.requests source, source' p = source p) →
              Yields source' (probePackage options dialect name subpath (ancestors dir))
                (probe, finds))
          ∨ (∀ a ∈ ancestors dir, ¬ Decides source options name subpath a)
            ∧ Yields source (probePackage options dialect name subpath (ancestors dir))
                (.missing, {})) := by
  refine ⟨fun a => mem_ancestors, pairwise_ancestors dir, strays_probePackage,
    fun hroot c hc => check_spelled hroot (requestComesTo_spelled (.package hc)), fun hstray => ?_⟩
  have hfail : ∀ e, ¬ Fails source
      (probePackage options dialect name subpath (ancestors dir)) e := by
    intro e h
    have hcomposed : Composed (fun _ => True) options.exclude
        (probePackage options dialect name subpath (ancestors dir)) :=
      composed_probePackage fun _ _ _ => trivial
    obtain ⟨p, hp, he⟩ := (hcomposed.fails_iff e).1 h
    obtain ⟨found, hfound⟩ := hreads p hp
    cases hfound.symm.trans he
  obtain ⟨⟨probe, finds⟩, hyields⟩ := exists_yields hstray hfail
  rcases yields_probePackage_iff.1 hyields with ⟨before, b, after, hsplit, hbefore, hgives⟩
    | ⟨hnone, rfl, rfl⟩
  · refine .inl ⟨before, b, after, probe, finds, hsplit, hgives.decides,
      fun a ha => (hbefore a ha).not_decides, hgives, hyields, fun source' hagree => ?_⟩
    -- The whole lookup asks for nothing beyond `b`, so the answers agree on all that it asks for.
    rw [← requests_farther hgives after [] hbefore, ← hsplit] at hagree
    exact (answer_of_agree hagree).trans hyields
  · exact .inr ⟨fun a ha => (hnone a ha).not_decides, hyields⟩

end Directory

/-- Some paths lead to empty files, and all others to nothing. -/
def emptyFiles (paths : List Path) (p : Path) : Answer :=
  .ok (if paths.contains p then
    some { path := p, kind := .regular, mode := 0o644, content := .empty } else none)

/-- The nearer package is found by its index though the farther one has a manifest. -/
theorem nearest_package_decides_nested :
    let source := emptyFiles ["a/node_modules/x/index.js".toList,
      "node_modules/x/package.json".toList]
    (∀ p ∈ (probePackage {} .commonJs "x".toList none (ancestors "a/b".toList)).run.requests source,
        ∃ found, source p = .ok found)
      ∧ ∃ before b after file, ancestors "a/b".toList = before ++ b :: after
        ∧ Decides source {} "x".toList none b
        ∧ (∀ a ∈ before, ¬ Decides source {} "x".toList none a)
        ∧ Gives source {} .commonJs "x".toList none b
            (.found "a/node_modules/x/index.js".toList file) {} := by
  intro source
  have hreads : ∀ p ∈ (probePackage {} .commonJs "x".toList none
      (ancestors "a/b".toList)).run.requests source, ∃ found, source p = .ok found :=
    fun p _ => ⟨_, rfl⟩
  have hfound : ∃ file, Yields source
      (probePackage {} .commonJs "x".toList none (ancestors "a/b".toList))
        (.found "a/node_modules/x/index.js".toList file, {}) := by
    have hbases : ancestors "a/b".toList = ["a/b".toList, "a".toList, []] := by
      simp [ancestors, parent, Text.cutLast?]
    rw [hbases]
    exact ⟨_, rfl⟩
  obtain ⟨file, hfile⟩ := hfound
  obtain ⟨-, -, -, -, h⟩ := nearest_package_decides hreads
  rcases h hfile.not_strays with
    ⟨before, b, after, probe, finds, hsplit, hb, hbefore, hgives, hyields, -⟩ | ⟨-, hyields⟩
  · cases hyields.unique hfile
    exact ⟨hreads, before, b, after, file, hsplit, hb, hbefore, hgives⟩
  · cases hyields.unique hfile

/-- No directory has the package `p` and every request is answered, but with a rule the lookup of
`p/../..` has no end: it comes down to the project root and to an index there. -/
theorem root_package_strays :
    requestOf "p/../..".toList = .package "p".toList (some "../..".toList)
      ∧ Ignore.build "/p".toList ["b.js".toList] = .ok excludingB
      ∧ (∀ a ∈ ancestors [], ¬ Decides (emptyFiles []) { exclude := excludingB } "p".toList
          (some "../..".toList) a)
      ∧ ¬ Yields (emptyFiles []) (probePackage { exclude := excludingB } .commonJs
          "p".toList (some "../..".toList) (ancestors [])) (.missing, {}) := by
  have hbases : ancestors [] = [[]] := by simp [ancestors]
  refine ⟨by decide, build_excludingB, fun a ha => ?_, fun h => ?_⟩
  · rw [hbases, List.mem_singleton] at ha
    subst ha
    rintro ⟨package, hdir, ⟨m, -, hm⟩ | ⟨target, htarget, c, hc, ⟨file, -, hfile⟩ | hexcluded⟩⟩
    · cases hm
    · cases hfile
    · have hpackage : packageDir? "p".toList [] = some "node_modules/p".toList := by decide
      cases hpackage.symm.trans hdir
      have hinside : insideOf (some "../..".toList) "node_modules/p".toList = some [] := by decide
      cases hinside.symm.trans htarget
      have hkept : ∀ c ∈ candidates true [], (excludingB.check c).toOption ≠ some true := by
        decide +kernel
      exact hkept c hc (congrArg Except.toOption hexcluded)
  · rw [hbases] at h
    exact h.not_strays (Pipeline.stray_of_isOk (by decide +kernel))

end Import

end AppBundle
