import AppBundle.Proofs.Bounded
import Mathlib.Data.Set.Finite.Basic
import Mathlib.Data.Set.Finite.List

/-!
# Scans end

A walk has no need of a limit. Each path is visited at most once (`Walk.Trail.nodup`), since it is
queued only when it is first met, and what can be met is finite: a file answers only at a path
whose names stand in the tree, and between two links a lookup goes down one level with each of
them, so that a path of too many names meets more links than a lookup follows. Past the number of
these paths the limit makes no difference (`scan_ends`), although a link to a directory above it
gives the files there names without end.
-/

namespace AppBundle

open AppBundle.Path Reading

namespace Import

namespace Walk

section Trail

variable (source : Path → Answer) (options : ScanOptions)

/-- The visits of a walk, none of which fails, told by the paths visited in order. -/
inductive Trail : List Path → Walk → Walk → Prop
  | refl (w : Walk) : Trail [] w w
  | visit {ps : List Path} {w w' : Walk} {p : Path} {f : ProjectFile}
      {queue : List (Path × ProjectFile)} {finds : Finds} (hqueue : w.queue = (p, f) :: queue)
      (h : Yields source (visit options p f) finds)
      (hlater : Trail ps (w.after options p f queue finds) w') : Trail (p :: ps) w w'

variable {source options} {ps : List Path} {w w' : Walk}

theorem Trail.visits (h : Trail source options ps w w') :
    Visits source options ps.length w w' := by
  induction h with
  | refl w => exact .refl w
  | visit hqueue hvisit _ ih => exact .visit hqueue hvisit ih

theorem exists_trail {n : Nat} (h : Visits source options n w w') :
    ∃ ps, ps.length = n ∧ Trail source options ps w w' := by
  induction h with
  | refl w => exact ⟨[], rfl, .refl w⟩
  | @visit n w w' p f queue finds hqueue hvisit _ ih =>
    obtain ⟨ps, rfl, htrail⟩ := ih
    exact ⟨p :: ps, rfl, .visit hqueue hvisit htrail⟩

theorem Trail.visited_iff (h : Trail source options ps w w') (p : Path) :
    w'.Visited p ↔ p ∈ ps ∨ w.Visited p := by
  induction h with
  | refl w => simp
  | visit _ _ _ ih => rw [ih, visited_after, List.mem_cons, or_assoc, or_left_comm]

/-- No path is visited twice: what was met is visited or waits, and visited and waiting paths
together are not more than what was met. -/
theorem Trail.nodup {entry : Path} {file : ProjectFile} (hfile : source entry = .ok (some file))
    (h : Trail source options ps (startOf entry file) w) : ps.Nodup := by
  have hinv := (Invariant.start hfile).visits h.visits
  have hcounted := (Counted.start entry file).visits h.visits
  have hstart : ∀ p, ¬ (startOf entry file).Visited p := by simp [Visited, resolution_enqueue]
  have hcover : w.seen ⊆ ps ++ w.queue.map (·.1) := by
    intro p hp
    rcases hinv.seen p hp with hvisited | ⟨f, hqueued⟩
    · exact List.mem_append_left _ (((h.visited_iff p).1 hvisited).resolve_right (hstart p))
    · exact List.mem_append_right _ (List.mem_map_of_mem hqueued)
  have hlength : (ps ++ w.queue.map (·.1)).length ≤ w.seen.length := by
    have := hcounted.length
    simp
    omega
  have hperm := (List.subperm_of_subset hcounted.nodup hcover).perm_of_length_le hlength
  exact (List.nodup_append.1 (hperm.nodup_iff.1 hcounted.nodup)).1

end Trail

section Limits

variable {source : Path → Answer} {options : ScanOptions}

/-- A walk that is not given up comes to the same under any larger limit. -/
theorem answer_run_of_le : ∀ {limit limit' : Nat} {w : Walk}, limit ≤ limit' →
    ¬ Yields source (run options limit w) none →
      (run options limit' w).run.answer source = (run options limit w).run.answer source
  | limit, limit', w, hle, h => by
    rcases hq : w.queue with _ | ⟨⟨p, f⟩, queue⟩
    · rw [run_nil hq, run_nil hq]
    · cases limit with
      | zero =>
        rw [run_zero hq] at h
        exact absurd (yields_pure.2 rfl) h
      | succ limit =>
        obtain ⟨k, rfl⟩ := Nat.exists_eq_add_of_lt (Nat.lt_of_succ_le hle)
        rw [run_succ hq] at h ⊢
        rw [run_succ hq, answer_run_bind, answer_run_bind]
        rcases hv : (visit options p f).run.answer source with stray | e | finds
        · rfl
        · rfl
        · exact answer_run_of_le (Nat.le_add_right limit k) fun hnone =>
            h (yields_bind.2 ⟨finds, hv, hnone⟩)

end Limits

end Walk

section Resolver

variable {source : Path → Answer} {options : ScanOptions} {limit : Nat} {entrypoint : Path}

/-- What a scan makes of the end of its walk. -/
def endOfWalk (entrypoint : Path) :
    Except AccessError (Option Resolution) → Except ResolveError Resolution
  | .ok (some r) => .ok r
  | .ok none => .error (.unfinished entrypoint)
  | .error e => .error (.access e)

/-- A scan is decided by its entrypoint, unless a file is there: then by the walk from it. -/
theorem answer_resolver :
    (resolver limit options entrypoint).run.answer source
      = match entrypoint.normalize with
        | none => .ok (.error (.missing entrypoint))
        | some entry =>
          match source entry with
          | .error e => .ok (.error (.access e))
          | .ok none => .ok (.error (.missing entrypoint))
          | .ok (some file) => ((Walk.run options limit (startOf entry file)).run.answer source).map
              (endOfWalk entrypoint) := by
  unfold resolver
  rcases entrypoint.normalize with _ | entry
  · rfl
  · have hask : (askFile entry).run.answer source = .ok (source entry) := rfl
    simp only [answer_run_bind, answer_run_adapt, hask]
    rcases source entry with e | _ | file
    · rfl
    · rfl
    · simp only [Except.map, mapError_ok, Except.bind, answer_run_bind, answer_run_adapt]
      rcases (Walk.run options limit (startOf entry file)).run.answer source with s | e | _ | r
      all_goals rfl

/-- A scan that comes to its limit has made so many visits, with something still queued. -/
theorem visits_of_unfinished
    (h : Fails source (resolver limit options entrypoint) (.unfinished entrypoint)) :
    ∃ entry file w, entrypoint.normalize = some entry ∧ source entry = .ok (some file)
      ∧ Walk.Visits source options limit (startOf entry file) w ∧ w.queue ≠ [] := by
  unfold Fails at h
  rw [answer_resolver] at h
  rcases hentry : entrypoint.normalize with _ | entry
  · simp [hentry] at h
  · rcases hfile : source entry with e | _ | file
    · simp [hentry, hfile] at h
    · simp [hentry, hfile] at h
    · rcases hrun : (Walk.run options limit (startOf entry file)).run.answer source
        with stray | e | _ | r
      · simp [hentry, hfile, hrun, Except.map] at h
      · simp [hentry, hfile, hrun, Except.map, endOfWalk] at h
      · obtain ⟨w, hvisits, hqueue⟩ := Walk.visits_of_givenUp hrun
        exact ⟨entry, file, w, rfl, hfile, hvisits, hqueue⟩
      · simp [hentry, hfile, hrun, Except.map, endOfWalk] at h

/-- Through whatever snapshot and whatever the exclusions, a scan comes to an end that no further
visits would change, and not to its limit. The visits of its walk are of different paths and not
more than the tree and the snapshot have names for, the paths that it can meet are finitely many,
and each is remembered or made of so many names of the tree as a lookup passes that follows no more
links than it may. -/
theorem scan_ends (t : Tree) (s : Snapshot) (options : ScanOptions) (entrypoint : Path) :
    (∀ limit, s.visitLimit t ≤ limit →
        (s.run t (resolver limit options entrypoint).run).1
            = (s.run t (resolver (s.visitLimit t) options entrypoint).run).1
          ∧ (s.run t (resolver limit options entrypoint).run).1
            ≠ .ok (.error (.unfinished entrypoint)))
      ∧ ∀ entry file, entrypoint.normalize = some entry → s.answers t entry = .ok (some file) →
        (∀ ps w, Walk.Trail (s.answers t) options ps (startOf entry file) w →
            ps.Nodup ∧ ps.length + w.queue.length ≤ s.visitLimit t)
          ∧ {p | ∃ ps w, Walk.Trail (s.answers t) options ps (startOf entry file) w
              ∧ p ∈ w.seen}.Finite
          ∧ ∀ ps w, Walk.Trail (s.answers t) options ps (startOf entry file) w → ∀ p ∈ w.seen,
            ∃ key, p.normalize = some key ∧ (p = key ∨ p = '/' :: key)
              ∧ (key ∈ s.entries.keys ∨ (∀ name ∈ key.names, name ∈ t.lastNames)
                  ∧ key.names.length ≤ (Tree.linkLimit + 1) * (t.depth + 1)) := by
  simp only [Snapshot.run_eq_answer]
  refine ⟨fun limit hlimit => ?ends, fun entry file hentry hfile => ?walk⟩
  case ends =>
    simp only [answer_resolver]
    rcases hentry : entrypoint.normalize with _ | entry
    · simp
    · rcases hfile : s.answers t entry with e | _ | file
      · simp [hfile]
      · simp [hfile]
      · have hnormal := normal_of_normalize hentry
        have hends : ¬ Yields (s.answers t)
            (Walk.run options (s.visitLimit t) (startOf entry file)) none :=
          Walk.not_givenUp hnormal hfile (Nat.le_refl _)
        simp only [hfile, Walk.answer_run_of_le hlimit hends, true_and]
        rcases hrun : (Walk.run options (s.visitLimit t) (startOf entry file)).run.answer
          (s.answers t) with stray | e | _ | r
        · simp [Except.map]
        · simp [Except.map, endOfWalk]
        · exact absurd hrun hends
        · simp [Except.map, endOfWalk]
  case walk =>
    have hnormal := normal_of_normalize hentry
    have hmet : ∀ ps w, Walk.Trail (s.answers t) options ps (startOf entry file) w →
        ∀ p ∈ w.seen, Spelled options.typescript p ∧ ∃ f, s.answers t p = .ok (some f) :=
      fun ps w h => ((Walk.Invariant.start hfile).visits h.visits).met hnormal hfile
    refine ⟨fun ps w h => ⟨h.nodup hfile, ?_⟩, ?finite, fun ps w h p hp => ?_⟩
    · obtain ⟨hlength, hseen⟩ := Walk.length_seen_le hnormal hfile h.visits
      omega
    case finite =>
      have hmarks : {m | m ∈ [false, true] ×ˢ namesShown s t}.Finite := List.finite_toSet _
      refine Set.Finite.of_finite_image (f := mark) (hmarks.subset ?_) ?_
      · rintro _ ⟨p, ⟨ps, w, h, hp⟩, rfl⟩
        obtain ⟨hspelled, f, hf⟩ := hmet ps w h p hp
        exact mark_mem_namesShown hspelled hf
      · rintro p ⟨ps, w, h, hp⟩ q ⟨qs, w', h', hq⟩ heq
        exact mark_injective (hmet ps w h p hp).1 (hmet qs w' h' q hq).1 heq
    · obtain ⟨hspelled, f, hf⟩ := hmet ps w h p hp
      obtain ⟨key, hkey, hform⟩ := hspelled.normalize
      exact ⟨key, hkey, hform, Snapshot.names_of_answers hkey hf⟩

/-- A project with a link to the directory that holds it. The path to a file behind the link may
pass it any number of times, each of which takes twenty links. -/
def looped : Tree :=
  (((Tree.empty.put ["p".toList] .dir).put ["p".toList, "a.js".toList]
      (.file "require('./d/a.js')".toUTF8 0o644)).put ["p".toList, "d".toList]
    (.link "e/e/e/e/e/e/e/e/e/e/e/e/e/e/e/e/e/e/e".toList)).put ["p".toList, "e".toList]
    (.link ".".toList)

/-- The one file asks for itself behind the link, under ever longer names, until a name meets too
many links. -/
theorem scan_ends_looped :
    ∃ file ps w, Path.normalize "a.js".toList = some "a.js".toList
      ∧ (Snapshot.new "/p".toList).answers looped "a.js".toList = .ok (some file)
      ∧ Walk.Trail ((Snapshot.new "/p".toList).answers looped) {} ps
          (startOf "a.js".toList file) w
      ∧ ps.length = 2 ∧ w.queue ≠ [] ∧ ps.Nodup
      ∧ ∀ limit, looped.visitLimit ≤ limit →
        ((Snapshot.new "/p".toList).run looped (resolver limit {} "a.js".toList).run).1
          = .ok (.error (.access (.unreadable "/p/d/d/d/a.js".toList))) := by
  have hlimited : failure? (Snapshot.source looped "/p".toList) (resolver 2 {} "a.js".toList)
      = some (.unfinished "a.js".toList) := by
    decide +kernel
  have hfails : failure? (Snapshot.source looped "/p".toList)
      (resolver looped.visitLimit {} "a.js".toList)
        = some (.access (.unreadable "/p/d/d/d/a.js".toList)) := by
    decide +kernel
  have hnormal : Path.normalize "a.js".toList = some "a.js".toList := by decide
  rw [← Snapshot.answers_new] at hlimited hfails
  obtain ⟨entry, file, w, hentry, hfile, hvisits, hqueue⟩ :=
    visits_of_unfinished (failure?_eq_some.1 hlimited)
  obtain rfl : "a.js".toList = entry := Option.some.inj (hnormal.symm.trans hentry)
  obtain ⟨ps, hlength, htrail⟩ := Walk.exists_trail hvisits
  obtain ⟨hends, hwalk⟩ := scan_ends looped (Snapshot.new "/p".toList) {} "a.js".toList
  obtain ⟨htrails, -, -⟩ := hwalk _ file hentry hfile
  refine ⟨file, ps, w, hentry, hfile, htrail, hlength, hqueue, (htrails ps w htrail).1, ?_⟩
  intro limit hlimit
  rw [visitLimit_new] at hends
  rw [(hends limit hlimit).1, Snapshot.run_eq_answer]
  exact failure?_eq_some.1 hfails

end Resolver

end Import

end AppBundle
