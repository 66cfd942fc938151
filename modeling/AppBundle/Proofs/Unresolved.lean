import AppBundle.Proofs.Linkless
import AppBundle.Proofs.Requests

/-!
# Scans that fail

A scan has no error of its own, and all paths that it asks for lie in the project. In a project
without links it therefore ends with a resolution, in which what could not be resolved is a warning,
unless the system refuses one of these paths (`resolution_unless_refused`): a specifier or a package
manifest can hold a name that is too long for any file, and this is told apart from a file that is
not there.
-/

namespace AppBundle

open AppBundle.Path Reading

theorem Tree.visitLimit_pos (t : Tree) : 0 < t.visitLimit :=
  Nat.mul_pos Nat.two_pos (Nat.pow_pos (Nat.succ_pos _))

namespace Snapshot

variable {t : Tree} {root key : Path} {place : Place}

/-- What is a file as far as links are followed is a file. -/
theorem exists_load_of_status (hplace : t.locate true [] root = .ok place)
    (hlinks : t.Linkless place) (hkey : key.Normal) {content : ByteArray} {permissions : Nat}
    (h : t.status [] (root.resolveFrom key) = .ok (.file content permissions)) :
    ∃ f, load t root key = .ok (some f) := by
  obtain ⟨q, hq, hentry⟩ := Tree.entryAt_eq_ok.1 h
  obtain ⟨-, hnul, hshort⟩ := Tree.openable_of_locate hq
  obtain ⟨r, hlocate, -⟩ := Tree.exists_locate_below hplace hlinks hkey hnul hshort
  have hname : t.statusOfName [] (root.resolveFrom key) = .ok (.file content permissions) :=
    Tree.entryAt_eq_ok.2 ⟨q, by rw [hlocate false, ← hlocate true, hq], hentry⟩
  unfold load
  simp only [hname]
  exact ⟨_, rfl⟩

end Snapshot

namespace Import

section Scans

variable {options : ScanOptions} {limit : Nat} {entrypoint entry : Path} {file : ProjectFile}

section Source

variable {source : Path → Answer} {e : ResolveError}

/-- A scan asks for its entrypoint and then for what the walk from there asks for. -/
theorem mem_requests_resolver (hentry : entrypoint.normalize = some entry)
    (hfile : source entry = .ok (some file)) {p : Path} :
    p ∈ (resolver limit options entrypoint).run.requests source
      ↔ p = entry ∨ p ∈ (Walk.run options limit (startOf entry file)).run.requests source := by
  have hask : (askFile entry).run.requests source = [entry] := rfl
  unfold resolver
  rw [hentry]
  simp only [mem_requests_run_bind, requests_run_adapt, yields_adapt, yields_askFile, hask, hfile,
    List.mem_singleton, Except.ok.injEq, exists_eq_left']
  refine or_congr_right (or_iff_left ?_)
  rintro ⟨r, -, hp⟩
  cases r <;> cases hp

/-- With an entrypoint that is there a scan fails where its walk does or is given up. -/
theorem fails_resolver (hentry : entrypoint.normalize = some entry)
    (hfile : source entry = .ok (some file)) :
    Fails source (resolver limit options entrypoint) e
      ↔ (∃ cause, Fails source (Walk.run options limit (startOf entry file)) cause
          ∧ ResolveError.access cause = e)
        ∨ Yields source (Walk.run options limit (startOf entry file)) none
          ∧ ResolveError.unfinished entrypoint = e := by
  have hask : ∀ cause, ¬ Fails source (askFile entry) cause := by
    intro cause h
    cases hfile.symm.trans (fails_file.1 h)
  unfold resolver
  rw [hentry]
  simp only [fails_bind, fails_adapt, yields_adapt, yields_askFile, hask, hfile, false_and,
    exists_false, false_or, Except.ok.injEq, exists_eq_left']
  refine or_congr_right ?_
  constructor
  · rintro ⟨_ | r, h, he⟩
    · exact ⟨h, fails_throw.1 he⟩
    · exact absurd he not_fails_pure
  · rintro ⟨h, he⟩
    exact ⟨none, h, fails_throw.2 he⟩

theorem fails_of_visit (hentry : entrypoint.normalize = some entry)
    (hfile : source entry = .ok (some file)) {cause : AccessError}
    (h : Fails source (visit options entry file) cause) (hlimit : 0 < limit) :
    Fails source (resolver limit options entrypoint) (.access cause) := by
  obtain ⟨n, rfl⟩ := Nat.exists_eq_succ_of_ne_zero hlimit.ne'
  have hqueue : (startOf entry file).queue = [(entry, file)] := rfl
  have hwalk : Fails source (Walk.run options (n + 1) (startOf entry file)) cause := by
    rw [Walk.run_succ hqueue]
    exact fails_bind.2 (.inl h)
  exact (fails_resolver hentry hfile).2 (.inl ⟨cause, hwalk, rfl⟩)

end Source

variable {t : Tree} {root : Path} {place : Place}

/-- All that a scan asks for is spelled normally, or as a file of the project root. -/
theorem requests_spelled {source : Path → Answer} (hentry : entrypoint.normalize = some entry)
    (hfile : source entry = .ok (some file)) :
    ∀ p ∈ (resolver limit options entrypoint).run.requests source,
      Spelled options.typescript p := by
  have hwalk : Composed (Spelled options.typescript) options.exclude
      (Walk.run options limit (startOf entry file)) := composed_run fun _ hp _ => hp
  intro p hp
  rcases (mem_requests_resolver hentry hfile).1 hp with rfl | hp
  · exact .inl (normal_of_normalize hentry)
  · exact hwalk.asksIn.requests p hp

/-- A scan of a tree fails exactly where a request of it does, if it may visit as many files as
the tree can show it. -/
theorem fails_iff_request_fails (hentry : entrypoint.normalize = some entry)
    (hfile : Snapshot.source t root entry = .ok (some file)) (hlimit : t.visitLimit ≤ limit)
    {e : ResolveError} :
    Fails (Snapshot.source t root) (resolver limit options entrypoint) e
      ↔ ∃ p ∈ (resolver limit options entrypoint).run.requests (Snapshot.source t root),
          ∃ cause, Snapshot.source t root p = .error cause ∧ ResolveError.access cause = e := by
  have hwalk : Composed (Spelled options.typescript) options.exclude
      (Walk.run options limit (startOf entry file)) := composed_run fun _ hp _ => hp
  have hends : ¬ Yields (Snapshot.source t root)
      (Walk.run options limit (startOf entry file)) none := by
    rw [← visitLimit_new t root] at hlimit
    rw [← Snapshot.answers_new] at hfile ⊢
    exact Walk.not_givenUp (normal_of_normalize hentry) hfile hlimit
  rw [fails_resolver hentry hfile, or_iff_left fun h => hends h.1]
  simp only [hwalk.fails_iff, mem_requests_resolver hentry hfile]
  constructor
  · rintro ⟨cause, ⟨p, hp, hcause⟩, he⟩
    exact ⟨p, .inr hp, cause, hcause, he⟩
  · rintro ⟨p, rfl | hp, cause, hcause, he⟩
    · cases hfile.symm.trans hcause
    · exact ⟨cause, ⟨p, hp, hcause⟩, he⟩

/-- The system refuses to look up what the path normalizes to. -/
def RefusedAt (t : Tree) (root : Path) (place : Place) (p : Path) : Prop :=
  ∃ key, p.normalize = some key ∧ Snapshot.Refused t root place key

theorem source_eq_error_iff (hplace : t.locate true [] root = .ok place)
    (hlinks : t.Linkless place) {p : Path} (hp : Spelled options.typescript p)
    {cause : AccessError} :
    Snapshot.source t root p = .error cause
      ↔ ∃ key, p.normalize = some key ∧ Snapshot.Refused t root place key
          ∧ cause = .unreadable (root.resolveFrom key) := by
  obtain ⟨key, hkey, -⟩ := hp.normalize
  have hrefused := Snapshot.load_eq_error_iff hplace hlinks (normal_of_normalize hkey)
  rw [Snapshot.source_of_some hkey]
  constructor
  · intro h
    exact ⟨key, hkey, hrefused.1 ⟨cause, h⟩, Snapshot.load_eq_error h⟩
  · rintro ⟨key', hkey', h, rfl⟩
    cases hkey.symm.trans hkey'
    obtain ⟨e, he⟩ := hrefused.2 h
    rw [he, Snapshot.load_eq_error he]

/-- A scan in a project without links, from an entrypoint that is there, through whatever snapshot
was made of the project before: it ends with a resolution exactly if the system refuses none of the
paths that it asks for, and else with the refusal of one of them. In a resolution there is a warning
of every specifier that stays without an answer. -/
theorem resolution_unless_refused {s : Snapshot} (hs : s.Coherent t)
    (hplace : t.locate true [] s.root = .ok place) (hlinks : t.Linkless place)
    (hentry : entrypoint.normalize = some entry) {content : ByteArray} {permissions : Nat}
    (hthere : t.status [] (s.root.resolveFrom entry) = .ok (.file content permissions))
    (hlimit : t.visitLimit ≤ limit)
    (hexclude : ∀ stray, (s.run t (resolver limit options entrypoint).run).1 ≠ .error stray) :
    ((∃ r, (s.run t (resolver limit options entrypoint).run).1 = .ok (.ok r))
        ↔ ∀ p ∈ (resolver limit options entrypoint).run.requests (Snapshot.source t s.root),
            ¬ RefusedAt t s.root place p)
      ∧ (∀ e, (s.run t (resolver limit options entrypoint).run).1 = .ok (.error e) →
          ∃ p ∈ (resolver limit options entrypoint).run.requests (Snapshot.source t s.root),
            ∃ key, p.normalize = some key ∧ Snapshot.Refused t s.root place key
              ∧ e = .access (.unreadable (s.root.resolveFrom key)))
      ∧ ∀ r, (s.run t (resolver limit options entrypoint).run).1 = .ok (.ok r) →
          ∀ p ∈ r.files, ∀ f, Snapshot.source t s.root p = .ok (some f) →
            ∀ specifier, Unanswered (Snapshot.source t s.root) options p f specifier →
              .unresolved specifier p ∈ r.warnings := by
  obtain ⟨file, hload⟩ :=
    Snapshot.exists_load_of_status hplace hlinks (normal_of_normalize hentry) hthere
  have hfile : Snapshot.source t s.root entry = .ok (some file) :=
    (Snapshot.source_of_some (normal_of_normalize hentry)).trans hload
  rw [(hs.run _).1] at hexclude ⊢
  have hfails : ∀ e, Fails (Snapshot.source t s.root) (resolver limit options entrypoint) e
      ↔ ∃ p ∈ (resolver limit options entrypoint).run.requests (Snapshot.source t s.root),
          ∃ key, p.normalize = some key ∧ Snapshot.Refused t s.root place key
            ∧ e = .access (.unreadable (s.root.resolveFrom key)) := by
    intro e
    rw [fails_iff_request_fails hentry hfile hlimit]
    refine exists_congr fun p => and_congr_right fun hp => ?_
    simp only [source_eq_error_iff hplace hlinks (requests_spelled hentry hfile p hp)]
    constructor
    · rintro ⟨_, ⟨key, hkey, hrefused, rfl⟩, rfl⟩
      exact ⟨key, hkey, hrefused, rfl⟩
    · rintro ⟨key, hkey, hrefused, rfl⟩
      exact ⟨_, ⟨key, hkey, hrefused, rfl⟩, rfl⟩
  refine ⟨?resolved, fun e => (hfails e).1, ?warned⟩
  case resolved =>
    constructor
    · rintro ⟨r, hr⟩ p hp ⟨key, hkey, hrefused⟩
      have hfailed : Fails _ _ _ := (hfails _).2 ⟨p, hp, key, hkey, hrefused, rfl⟩
      cases hr.symm.trans hfailed
    · intro hnone
      rcases hanswer : (resolver limit options entrypoint).run.answer
        (Snapshot.source t s.root) with stray | e | r
      · exact absurd hanswer (hexclude stray)
      · obtain ⟨p, hp, key, hkey, hrefused, -⟩ := (hfails e).1 hanswer
        exact absurd ⟨key, hkey, hrefused⟩ (hnone p hp)
      · exact ⟨r, rfl⟩
  case warned =>
    intro r hr p hp f hf specifier hspecifier
    obtain ⟨entry', w, -, hinv, -, rfl⟩ := walk_of_resolver hr
    exact hinv.warned p (Resolution.mem_files.1 hp) f hf specifier hspecifier

/-- A request for a name next to the file. -/
def requestFor (name : Text) : String := "require('./" ++ String.ofList name ++ "')"

/-- A project of an entrypoint that asks for a name next to it, and of another file. -/
def requiring (name : Text) : Tree := projectOf (requestFor name) ["b.js".toList]

theorem linkless_requiring (name : Text) (place : Place) : (requiring name).Linkless place :=
  (((Tree.linkless_empty place).put (by simp) _).put (by simp) _).put (by simp) _

theorem status_requiring (name : Text) : (requiring name).status [] "/p/a.js".toList
    = .ok (.file (requestFor name).toUTF8 0o644) := rfl

/-- A scan from the entrypoint that may visit as many files as the tree can show it. -/
def fullScan (t : Tree) : ExceptT ResolveError Reading Resolution :=
  resolver t.visitLimit {} "a.js".toList

/-- A specifier of a name that no file has is warned of. -/
theorem resolution_unless_refused_missing :
    ∃ r, ((Snapshot.new "/p".toList).run (requiring ['c']) (fullScan (requiring ['c'])).run).1
        = .ok (.ok r)
      ∧ r.warnings = [.unresolved "./c".toList "a.js".toList]
      ∧ ∀ p ∈ (fullScan (requiring ['c'])).run.requests
          (Snapshot.source (requiring ['c']) "/p".toList),
        ¬ RefusedAt (requiring ['c']) "/p".toList ["p".toList] p := by
  have hrun : (yield? (Snapshot.source (requiring ['c']) "/p".toList)
      (fullScan (requiring ['c']))).map Resolution.warnings
        = some [.unresolved "./c".toList "a.js".toList] := by
    decide +kernel
  obtain ⟨r, hr, hwarnings⟩ := Option.map_eq_some_iff.1 hrun
  have h : ((Snapshot.new "/p".toList).run (requiring ['c'])
      (fullScan (requiring ['c'])).run).1 = .ok (.ok r) :=
    (Snapshot.run_new _ _ _).trans ((yield?_eq_some _).1 hr)
  have hplace : (requiring ['c']).locate true [] (Snapshot.new "/p".toList).root
      = .ok ["p".toList] := rfl
  have hentry : Path.normalize "a.js".toList = some "a.js".toList := by decide
  obtain ⟨hresolved, -, -⟩ := resolution_unless_refused (Snapshot.coherent_new _ _) hplace
    (linkless_requiring _ _) hentry (status_requiring _) (Nat.le_refl _) fun stray hstray => by
      cases h.symm.trans hstray
  exact ⟨r, h, hwarnings, hresolved.1 ⟨r, h⟩⟩

theorem text?_textFile (p : Path) (text : String) : (textFile p text).text? = some text.toList := by
  have hdecoded : String.fromUTF8? text.toUTF8 = some text := dif_pos text.isValidUTF8
  unfold ProjectFile.text? textFile
  rw [hdecoded, Option.map_some]

theorem specifiersOf_textFile {p : Path} {ext : Text} (hext : p.extension = some ext)
    (hcode : codeExtensions.contains ext = true) (text : String) :
    specifiersOf p (textFile p text) = Source.specifiers text.toList := by
  simp only [specifiersOf, hext, text?_textFile, hcode, if_true]

/-- A name of more bytes than any file has. -/
def longName : Text := List.replicate 256 'x'

/-- A specifier of a name that is too long for any file ends the scan. -/
theorem long_name_ends_scan :
    (requiring longName).Linkless ["p".toList]
      ∧ (requiring longName).status [] "/p/a.js".toList
        = .ok (.file (requestFor longName).toUTF8 0o644)
      ∧ (∀ p, ({} : ScanOptions).exclude.check p = .ok false)
      ∧ ((Snapshot.new "/p".toList).run (requiring longName) (fullScan (requiring longName)).run).1
        = .ok (.error (.access (.unreadable ("/p/".toList ++ longName)))) := by
  refine ⟨linkless_requiring _ _, status_requiring _, fun p => rfl, ?_⟩
  have htext : (requestFor longName).toList = "require('./".toList ++ longName ++ "')".toList := by
    simp only [requestFor, String.toList_append, String.toList_ofList]
  have hspecifiers : specifiersOf "a.js".toList (textFile "a.js".toList (requestFor longName))
      = ["./".toList ++ longName] := by
    have hext : Path.extension "a.js".toList = some "js".toList := by decide
    rw [specifiersOf_textFile hext (by decide), htext]
    decide +kernel
  have hfollowed : ∀ dialect, Fails (Snapshot.source (requiring longName) "/p".toList)
      (followSpecifiers {} "a.js".toList dialect ["./".toList ++ longName])
      (.unreadable ("/p/".toList ++ longName)) := by
    intro dialect
    cases dialect <;> exact failure?_eq_some.1 (by decide +kernel)
  have hvisit : Fails (Snapshot.source (requiring longName) "/p".toList)
      (visit {} "a.js".toList (textFile "a.js".toList (requestFor longName)))
      (.unreadable ("/p/".toList ++ longName)) := by
    show Fails _ (followSpecifiers {} _ (dialectOf {} _ _) (specifiersOf _ _)) _
    rw [hspecifiers]
    exact hfollowed _
  have hentry : Path.normalize "a.js".toList = some "a.js".toList := by decide
  exact (Snapshot.run_new _ _ _).trans (fails_of_visit hentry rfl hvisit (Tree.visitLimit_pos _))

end Scans

end Import

end AppBundle
