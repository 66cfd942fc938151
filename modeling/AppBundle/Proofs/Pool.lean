import AppBundle.Proofs.Snapshot
import Mathlib.Data.List.Basic
import Mathlib.Logic.Function.Iterate

/-!
# Readings that share a snapshot

Several readings take turns at one snapshot in any order, with other reads through it in between.
A turn is less than a read: between looking a path up, reading the tree and filing the answer
others may do the same, and of two answers about one path the first that is filed is everyone's.

No turn changes what a reading will come to (`Pool.run_tracks`), so each ends as it does alone,
and it has ended once it has had three turns for every file that it asks for.
-/

namespace AppBundle

variable {α : Type}

/-- A reading under way at a snapshot. -/
inductive Worker (α : Type) where
  | asking (rest : Reading α)
  /-- The snapshot did not know the path; the tree is to be read. -/
  | missed (key : Path) (next : Answer → Reading α)
  /-- The tree was read; the answer is to be filed. -/
  | loaded (key : Path) (found : Option ProjectFile) (next : Answer → Reading α)

namespace Worker

/-- One turn of a reading. -/
def step (t : Tree) (s : Snapshot) : Worker α → Worker α × Snapshot
  | asking (.done a) => (asking (.done a), s)
  | asking (.stray p) => (asking (.stray p), s)
  | asking (.ask p next) =>
    match p.normalize with
    | none => (asking (next (.error (.outsideRoot p))), s)
    | some key =>
      let s := { s with lookups := s.lookups + 1 }
      match s.entries.find? key with
      | some known => (asking (next (.ok known)), s)
      | none => (missed key next, s)
  | missed key next =>
    let s := { s with treeReads := s.treeReads + 1 }
    match Snapshot.load t s.root key with
    | .error e => (asking (next (.error e)), s)
    | .ok found => (loaded key found next, s)
  | loaded key found next =>
    match s.entries.find? key with
    | some known => (asking (next (.ok known)), s)
    | none => (asking (next (.ok found)), { s with entries := s.entries.insert key found })

/-- What a reading that has ended came to. -/
def result? : Worker α → Option (Except Stray α)
  | asking (.done a) => some (.ok a)
  | asking (.stray p) => some (.error p)
  | asking (.ask ..) | missed .. | loaded .. => none

/-- What a reading under way will come to. -/
def outcome (t : Tree) (root : Path) : Worker α → Except Stray α
  | asking rest => rest.answer (Snapshot.source t root)
  | missed key next => (next (Snapshot.load t root key)).answer (Snapshot.source t root)
  | loaded _ found next => (next (.ok found)).answer (Snapshot.source t root)

/-- An answer still to be filed is what the tree says. -/
def Sound (t : Tree) (root : Path) : Worker α → Prop
  | loaded key found _ => Snapshot.load t root key = .ok found
  | asking _ | missed .. => True

/-- The most turns that a reading has left. -/
def turnsLeft (t : Tree) (root : Path) : Worker α → Nat
  | asking rest => 3 * (rest.requests (Snapshot.source t root)).length
  | missed key next =>
    3 * ((next (Snapshot.load t root key)).requests (Snapshot.source t root)).length + 2
  | loaded _ found next =>
    3 * ((next (.ok found)).requests (Snapshot.source t root)).length + 1

variable {t : Tree} {s : Snapshot} {root : Path}

theorem outcome_of_result? {worker : Worker α} {o : Except Stray α} (h : worker.result? = some o) :
    worker.outcome t root = o := by
  unfold result? at h
  split at h
  · cases h
    rfl
  · cases h
    rfl
  all_goals cases h

theorem result?_of_turnsLeft {worker : Worker α} (h : worker.turnsLeft t root = 0) :
    worker.result? = some (worker.outcome t root) := by
  unfold turnsLeft at h
  split at h
  · rename_i rest
    cases rest with
    | done a => rfl
    | stray p => rfl
    | ask p next => simp [Reading.requests] at h
  · omega
  · omega

theorem step_outside {p : Path} (hp : p.normalize = none) (next : Answer → Reading α) :
    (asking (.ask p next)).step t s = (asking (next (.error (.outsideRoot p))), s) := by
  simp only [step, hp]

theorem step_known {p key : Path} {known : Option ProjectFile} (hp : p.normalize = some key)
    (hk : s.entries.find? key = some known) (next : Answer → Reading α) :
    (asking (.ask p next)).step t s
      = (asking (next (.ok known)), { s with lookups := s.lookups + 1 }) := by
  simp only [step, hp, hk]

theorem step_unknown {p key : Path} (hp : p.normalize = some key)
    (hk : s.entries.find? key = none) (next : Answer → Reading α) :
    (asking (.ask p next)).step t s
      = (missed key next, { s with lookups := s.lookups + 1 }) := by
  simp only [step, hp, hk]

theorem step_missed_error {key : Path} {e : AccessError}
    (hl : Snapshot.load t s.root key = .error e) (next : Answer → Reading α) :
    (missed key next).step t s
      = (asking (next (.error e)), { s with treeReads := s.treeReads + 1 }) := by
  simp only [step, hl]

theorem step_missed_ok {key : Path} {found : Option ProjectFile}
    (hl : Snapshot.load t s.root key = .ok found) (next : Answer → Reading α) :
    (missed key next).step t s
      = (loaded key found next, { s with treeReads := s.treeReads + 1 }) := by
  simp only [step, hl]

theorem step_loaded_known {key : Path} {known : Option ProjectFile}
    (hk : s.entries.find? key = some known) (found : Option ProjectFile)
    (next : Answer → Reading α) :
    (loaded key found next).step t s = (asking (next (.ok known)), s) := by
  simp only [step, hk]

theorem step_loaded_unknown {key : Path} (hk : s.entries.find? key = none)
    (found : Option ProjectFile) (next : Answer → Reading α) :
    (loaded key found next).step t s
      = (asking (next (.ok found)), { s with entries := s.entries.insert key found }) := by
  simp only [step, hk]

/-- The turns of one request, with nobody else's in between, are one read. -/
theorem read_of_steps (t : Tree) (s : Snapshot) (p : Path) (next : Answer → Reading α) :
    ∃ n ≤ 3, (fun x : Worker α × Snapshot => x.1.step t x.2)^[n] (asking (.ask p next), s)
      = (asking (next (s.read t p).1), (s.read t p).2) := by
  rcases hp : p.normalize with _ | key
  · refine ⟨1, by omega, ?_⟩
    simp only [Function.iterate_one, step_outside hp, Snapshot.read, hp]
  · rcases hk : s.entries.find? key with _ | known
    · rcases hl : Snapshot.load t s.root key with e | found
      · refine ⟨2, by omega, ?_⟩
        simp only [Function.iterate_succ, Function.iterate_zero, Function.comp_apply, id,
          step, Snapshot.read, hp, hk, hl]
      · refine ⟨3, by omega, ?_⟩
        simp only [Function.iterate_succ, Function.iterate_zero, Function.comp_apply, id,
          step, Snapshot.read, hp, hk, hl]
    · refine ⟨1, by omega, ?_⟩
      simp only [Function.iterate_one, step_known hp hk, Snapshot.read, hp, hk]

/-- What a turn preserves: the snapshot stays true to the tree, what the reading will come to
stays the same, and one turn less is left. -/
theorem step_spec (hs : s.Coherent t) (worker : Worker α) (hsound : worker.Sound t s.root) :
    (worker.step t s).2.Coherent t ∧ (worker.step t s).2.root = s.root
      ∧ (worker.step t s).1.Sound t s.root
      ∧ (worker.step t s).1.outcome t s.root = worker.outcome t s.root
      ∧ (worker.step t s).1.turnsLeft t s.root ≤ worker.turnsLeft t s.root - 1 := by
  match worker with
  | asking (.done a) => exact ⟨hs, rfl, trivial, rfl, by simp [step, turnsLeft, Reading.requests]⟩
  | asking (.stray p) => exact ⟨hs, rfl, trivial, rfl, by simp [step, turnsLeft, Reading.requests]⟩
  | asking (.ask p next) =>
    have hleft : (asking (.ask p next)).turnsLeft t s.root
        = 3 * ((next (Snapshot.source t s.root p)).requests
            (Snapshot.source t s.root)).length + 3 := by
      simp only [turnsLeft, Reading.requests, List.length_cons]
      omega
    have hout : (asking (.ask p next)).outcome t s.root
        = (next (Snapshot.source t s.root p)).answer (Snapshot.source t s.root) := rfl
    rw [hleft, hout]
    rcases hp : p.normalize with _ | key
    · rw [step_outside hp, Snapshot.source_of_none hp]
      exact ⟨hs, rfl, trivial, rfl, by simp only [turnsLeft]; omega⟩
    · rw [Snapshot.source_of_some hp]
      rcases hk : s.entries.find? key with _ | known
      · rw [step_unknown hp hk]
        exact ⟨hs, rfl, trivial, rfl, by simp only [turnsLeft]; omega⟩
      · rw [step_known hp hk, hs key known hk]
        exact ⟨hs, rfl, trivial, rfl, by simp only [turnsLeft]; omega⟩
  | missed key next =>
    simp only [outcome, turnsLeft]
    rcases hl : Snapshot.load t s.root key with e | found
    · rw [step_missed_error hl]
      exact ⟨hs, rfl, trivial, rfl, by simp only; omega⟩
    · rw [step_missed_ok hl]
      exact ⟨hs, rfl, hl, rfl, by simp only; omega⟩
  | loaded key found next =>
    have hload : Snapshot.load t s.root key = .ok found := hsound
    simp only [outcome, turnsLeft]
    rcases hk : s.entries.find? key with _ | known
    · rw [step_loaded_unknown hk]
      exact ⟨hs.insert hload, rfl, trivial, rfl, by simp only; omega⟩
    · -- Another reading filed the answer first, and it is the same.
      have hknown := hs key known hk
      rw [hload] at hknown
      cases hknown
      rw [step_loaded_known hk]
      exact ⟨hs, rfl, trivial, rfl, by simp only; omega⟩

/-- The normal forms that a reading has still to hear about. -/
def awaited (t : Tree) (root : Path) : Worker α → List Path
  | asking rest => (rest.requests (Snapshot.source t root)).filterMap Path.normalize
  | missed key next => key ::
    ((next (Snapshot.load t root key)).requests (Snapshot.source t root)).filterMap Path.normalize
  | loaded key found next => key ::
    ((next (.ok found)).requests (Snapshot.source t root)).filterMap Path.normalize

theorem awaited_of_result? {worker : Worker α} {o : Except Stray α} (h : worker.result? = some o) :
    worker.awaited t root = [] := by
  unfold result? at h
  split at h
  · rfl
  · rfl
  all_goals cases h

/-- A turn keeps what the snapshot remembers. -/
theorem find?_step {key : Path} {known : Option ProjectFile}
    (h : s.entries.find? key = some known) (worker : Worker α) :
    (worker.step t s).2.entries.find? key = some known := by
  match worker with
  | asking (.done a) => exact h
  | asking (.stray p) => exact h
  | asking (.ask p next) =>
    rcases hp : p.normalize with _ | key'
    · rw [step_outside hp]
      exact h
    · rcases hk : s.entries.find? key' with _ | known'
      · rw [step_unknown hp hk]
        exact h
      · rw [step_known hp hk]
        exact h
  | missed key' next =>
    rcases hl : Snapshot.load t s.root key' with e | found
    · rw [step_missed_error hl]
      exact h
    · rw [step_missed_ok hl]
      exact h
  | loaded key' found next =>
    rcases hk : s.entries.find? key' with _ | known'
    · have hne : key ≠ key' := by
        rintro rfl
        simp [hk] at h
      rw [step_loaded_unknown hk, Catalog.find?_insert, if_neg hne]
      exact h
    · rw [step_loaded_known hk]
      exact h

/-- What a reading has still to hear about it still has after a turn, or it was filed. -/
theorem awaited_step (hs : s.Coherent t) {worker : Worker α} (hsound : worker.Sound t s.root)
    {key : Path} {found : Option ProjectFile} (hload : Snapshot.load t s.root key = .ok found)
    (h : key ∈ worker.awaited t s.root) :
    (worker.step t s).2.entries.find? key = some found
      ∨ key ∈ (worker.step t s).1.awaited t s.root := by
  have hfiled : ∀ {known}, s.entries.find? key = some known →
      s.entries.find? key = some found := by
    intro known hknown
    cases hload.symm.trans (hs key known hknown)
    exact hknown
  match worker with
  | asking (.done a) => cases h
  | asking (.stray p) => cases h
  | asking (.ask p next) =>
    have hleft : (asking (.ask p next)).awaited t s.root
        = (p :: (next (Snapshot.source t s.root p)).requests
            (Snapshot.source t s.root)).filterMap Path.normalize := rfl
    rw [hleft] at h
    rcases hp : p.normalize with _ | key'
    · rw [List.filterMap_cons_none hp, Snapshot.source_of_none hp] at h
      rw [step_outside hp]
      exact .inr h
    · rw [List.filterMap_cons_some hp, Snapshot.source_of_some hp] at h
      rcases hk : s.entries.find? key' with _ | known
      · rw [step_unknown hp hk]
        exact .inr h
      · rw [step_known hp hk]
        rcases List.mem_cons.1 h with rfl | h
        · exact .inl (hfiled hk)
        · rw [hs key' known hk] at h
          exact .inr h
  | missed key' next =>
    rcases hl : Snapshot.load t s.root key' with e | found'
    · rw [step_missed_error hl]
      rcases List.mem_cons.1 h with rfl | h
      · cases hload.symm.trans hl
      · rw [hl] at h
        exact .inr h
    · rw [step_missed_ok hl]
      simp only [awaited, hl] at h
      exact .inr h
  | loaded key' found' next =>
    have hsame : Snapshot.load t s.root key' = .ok found' := hsound
    rcases hk : s.entries.find? key' with _ | known
    · rw [step_loaded_unknown hk]
      rcases List.mem_cons.1 h with rfl | h
      · cases hload.symm.trans hsame
        exact .inl (by rw [Catalog.find?_insert, if_pos rfl])
      · exact .inr h
    · rw [step_loaded_known hk]
      rcases List.mem_cons.1 h with rfl | h
      · exact .inl (hfiled hk)
      · cases hsame.symm.trans (hs key' known hk)
        exact .inr h

end Worker

/-- Readings in progress and the snapshot that they share. -/
structure Pool (α : Type) where
  workers : List (Worker α)
  snapshot : Snapshot

/-- Whose turn it is: a reading of the pool, or someone else's read through the snapshot. -/
inductive Turn where
  | worker (i : Nat)
  | other (p : Path)
deriving DecidableEq

namespace Pool

def start (s : Snapshot) (readings : List (Reading α)) : Pool α :=
  { workers := readings.map .asking, snapshot := s }

def turn (t : Tree) (pool : Pool α) : Turn → Pool α
  | .worker i =>
    match pool.workers[i]? with
    | none => pool
    | some worker =>
      let (worker, snapshot) := worker.step t pool.snapshot
      { workers := pool.workers.set i worker, snapshot }
  | .other p => { pool with snapshot := (pool.snapshot.read t p).2 }

/-- The pool after turns in the given order. -/
def run (t : Tree) : Pool α → List Turn → Pool α
  | pool, [] => pool
  | pool, next :: schedule => run t (pool.turn t next) schedule

/-- The pool holds the given readings, each on its way to what it comes to alone, and each has had
some number of turns. -/
structure Tracks (t : Tree) (root : Path) (readings : List (Reading α)) (turns : Nat → Nat)
    (pool : Pool α) : Prop where
  root_eq : pool.snapshot.root = root
  coherent : pool.snapshot.Coherent t
  length_eq : pool.workers.length = readings.length
  worker : ∀ i worker r, pool.workers[i]? = some worker → readings[i]? = some r →
    worker.Sound t root ∧ worker.outcome t root = r.answer (Snapshot.source t root)
      ∧ worker.turnsLeft t root ≤ 3 * (r.requests (Snapshot.source t root)).length - turns i

/-- What the readings came to, if all have ended. -/
def results? (pool : Pool α) : Option (List (Except Stray α)) := pool.workers.mapM Worker.result?

variable {t : Tree} {root : Path} {readings : List (Reading α)} {turns : Nat → Nat}
  {pool : Pool α}

theorem start_tracks {s : Snapshot} (hs : s.Coherent t) (readings : List (Reading α)) :
    Tracks t s.root readings (fun _ => 0) (start s readings) where
  root_eq := rfl
  coherent := hs
  length_eq := by simp [start]
  worker := by
    intro i worker r hworker hr
    simp only [start, List.getElem?_map, hr, Option.map_some, Option.some.injEq] at hworker
    subst hworker
    exact ⟨trivial, rfl, by simp [Worker.turnsLeft]⟩

theorem turn_absent {i : Nat} (h : pool.workers[i]? = none) : pool.turn t (.worker i) = pool := by
  simp only [Pool.turn, h]

theorem turn_present {i : Nat} {worker : Worker α} (h : pool.workers[i]? = some worker) :
    pool.turn t (.worker i)
      = { workers := pool.workers.set i (worker.step t pool.snapshot).1,
          snapshot := (worker.step t pool.snapshot).2 } := by
  simp only [Pool.turn, h]

/-- What any turn preserves. -/
theorem Tracks.turn (h : Tracks t root readings turns pool) (next : Turn) :
    Tracks t root readings (fun i => turns i + if next = .worker i then 1 else 0)
      (pool.turn t next) := by
  obtain ⟨hroot, hcoh, hlen, hworker⟩ := h
  match next with
  | .other p =>
    refine ⟨(Snapshot.root_read t _ p).trans hroot, (hcoh.read p).2, hlen, ?_⟩
    simpa [Pool.turn] using hworker
  | .worker i =>
    rcases hi : pool.workers[i]? with _ | worker
    · rw [turn_absent hi]
      refine ⟨hroot, hcoh, hlen, fun j worker r hj hr => ?_⟩
      have hij : i ≠ j := by
        rintro rfl
        rw [hi] at hj
        cases hj
      simpa [hij] using hworker j worker r hj hr
    · obtain ⟨hlt, -⟩ := List.getElem?_eq_some_iff.1 hi
      have hr : readings[i]? = some readings[i] := List.getElem?_eq_getElem (hlen ▸ hlt)
      obtain ⟨hsound, hout, hleft⟩ := hworker i worker _ hi hr
      rw [← hroot] at hsound
      obtain ⟨h1, h2, h3, h4, h5⟩ := worker.step_spec hcoh hsound
      rw [hroot] at h3 h4 h5
      rw [turn_present hi]
      refine ⟨h2.trans hroot, h1, by simpa using hlen, fun j worker' r hj hr' => ?_⟩
      by_cases hij : i = j
      · subst hij
        rw [hr] at hr'
        cases hr'
        simp only [List.getElem?_set_self hlt, Option.some.injEq] at hj
        subst hj
        refine ⟨h3, h4.trans hout, ?_⟩
        simp only [if_true]
        omega
      · simp only [List.getElem?_set_ne hij] at hj
        simpa [hij] using hworker j worker' r hj hr'

/-- Whatever the order of turns. -/
theorem run_tracks : ∀ (schedule : List Turn) {turns : Nat → Nat} {pool : Pool α},
    Tracks t root readings turns pool →
      Tracks t root readings (fun i => turns i + schedule.count (.worker i)) (pool.run t schedule)
  | [], _, _, h => h
  | next :: schedule, turns, pool, h => by
    have ih := run_tracks schedule (h.turn next)
    have hcount :
        (fun i => turns i + (if next = .worker i then 1 else 0) + schedule.count (.worker i))
          = fun i => turns i + (next :: schedule).count (.worker i) := by
      funext i
      rw [List.count_cons]
      simp only [beq_iff_eq]
      omega
    rw [hcount] at ih
    exact ih

/-- A reading that has ended came to what it comes to alone, and it has ended once it had three
turns for each request. -/
theorem Tracks.result (h : Tracks t root readings turns pool) {i : Nat} {worker : Worker α}
    {r : Reading α} (hworker : pool.workers[i]? = some worker) (hr : readings[i]? = some r) :
    (∀ o, worker.result? = some o → o = r.answer (Snapshot.source t root))
      ∧ (3 * (r.requests (Snapshot.source t root)).length ≤ turns i →
          worker.result? = some (r.answer (Snapshot.source t root))) := by
  obtain ⟨-, hout, hleft⟩ := h.worker i worker r hworker hr
  refine ⟨fun o ho => ?_, fun hturns => ?_⟩
  · rw [← Worker.outcome_of_result? ho, hout]
  · have hnone : worker.turnsLeft t root = 0 := by omega
    rw [Worker.result?_of_turnsLeft hnone, hout]

theorem mapM_eq_some_iff {β γ : Type} (f : β → Option γ) :
    ∀ (l : List β) (l' : List γ), l.mapM f = some l' ↔ l.map f = l'.map some
  | [], l' => by cases l' <;> simp
  | b :: l, l' => by
    have ih := mapM_eq_some_iff f l
    rw [List.mapM_cons, List.map_cons]
    rcases hb : f b with _ | c
    · cases l' <;> simp
    · rcases hl : l.mapM f with _ | cs
      · have hne : ∀ l' : List γ, l.map f ≠ l'.map some := by
          intro l' h
          rw [(ih l').2 h] at hl
          cases hl
        cases l' <;> simp [hne]
      · rw [(ih cs).1 hl]
        cases l' with
        | nil => simp
        | cons c' cs' => simp [(List.map_injective_iff.2 (fun _ _ => Option.some.inj)).eq_iff]

/-- If all readings have ended, each came to what it comes to alone. -/
theorem Tracks.of_results? (h : Tracks t root readings turns pool)
    {outcomes : List (Except Stray α)} (ho : pool.results? = some outcomes) :
    outcomes = readings.map (·.answer (Snapshot.source t root)) := by
  have hmap := (mapM_eq_some_iff _ _ _).1 ho
  have hlen := h.length_eq
  have hlen' := congrArg List.length hmap
  simp only [List.length_map] at hlen'
  apply List.ext_getElem (by simp; omega)
  intro i h1 h2
  simp only [List.length_map] at h2
  have hi : i < pool.workers.length := by omega
  have hget := congrArg (·[i]?) hmap
  simp only [List.getElem?_map, List.getElem?_eq_getElem hi, List.getElem?_eq_getElem h1,
    Option.map_some, Option.some.injEq] at hget
  rw [List.getElem_map]
  exact (h.result (List.getElem?_eq_getElem hi) (List.getElem?_eq_getElem h2)).1 _ hget

/-- All readings have ended once each had three turns for each of its requests. -/
theorem Tracks.results? (h : Tracks t root readings turns pool)
    (hturns : ∀ i r, readings[i]? = some r →
      3 * (r.requests (Snapshot.source t root)).length ≤ turns i) :
    pool.results? = some (readings.map (·.answer (Snapshot.source t root))) := by
  have hlen := h.length_eq
  refine (mapM_eq_some_iff _ _ _).2 (List.ext_getElem (by simp; omega) fun i h1 h2 => ?_)
  simp only [List.length_map] at h1 h2
  have hr : readings[i]? = some readings[i] := List.getElem?_eq_getElem h2
  simp only [List.getElem_map]
  exact (h.result (List.getElem?_eq_getElem h1) hr).2 (hturns i _ hr)

/-- What a reading of the pool asks for is filed, or the reading has still to hear about it. -/
def Serves (t : Tree) (root : Path) (i : Nat) (key : Path) (found : Option ProjectFile)
    (pool : Pool α) : Prop :=
  pool.snapshot.entries.find? key = some found
    ∨ ∃ worker, pool.workers[i]? = some worker ∧ key ∈ worker.awaited t root

variable {i : Nat} {key : Path} {found : Option ProjectFile}

theorem Serves.turn (h : Serves t root i key found pool)
    (htracks : Tracks t root readings turns pool) (hload : Snapshot.load t root key = .ok found)
    (next : Turn) : Serves t root i key found (pool.turn t next) := by
  match next with
  | .other p => exact h.imp_left fun h => Snapshot.find?_read h p
  | .worker j =>
    rcases hj : pool.workers[j]? with _ | worker
    · rw [turn_absent hj]
      exact h
    · rw [turn_present hj]
      rcases h with h | ⟨worker', hworker', hawaited⟩
      · exact .inl (Worker.find?_step h worker)
      · by_cases hij : j = i
        · subst hij
          cases hj.symm.trans hworker'
          obtain ⟨hlt, -⟩ := List.getElem?_eq_some_iff.1 hj
          obtain ⟨r, hr⟩ : ∃ r, readings[j]? = some r :=
            ⟨_, List.getElem?_eq_getElem (htracks.length_eq ▸ hlt)⟩
          obtain ⟨hsound, -⟩ := htracks.worker j worker _ hj hr
          rw [← htracks.root_eq] at hsound hload hawaited
          refine (Worker.awaited_step htracks.coherent hsound hload hawaited).imp_right fun h => ?_
          rw [htracks.root_eq] at h
          exact ⟨_, List.getElem?_set_self hlt, h⟩
        · exact .inr ⟨worker', (List.getElem?_set_ne hij).trans hworker', hawaited⟩

theorem Serves.run (hload : Snapshot.load t root key = .ok found) :
    ∀ (schedule : List Turn) {turns : Nat → Nat} {pool : Pool α},
      Serves t root i key found pool → Tracks t root readings turns pool →
        Serves t root i key found (pool.run t schedule)
  | [], _, _, h, _ => h
  | next :: schedule, _, _, h, htracks =>
    Serves.run hload schedule (h.turn htracks hload next) (htracks.turn next)

/-- When all readings have ended, the snapshot remembers each answer that one of them got. -/
theorem find?_of_results? {s : Snapshot} (hs : s.Coherent t) {schedule : List Turn}
    {outcomes : List (Except Stray α)}
    (ho : ((start s readings).run t schedule).results? = some outcomes) {r : Reading α}
    (hr : r ∈ readings) {p : Path} (hp : p ∈ r.requests (Snapshot.source t s.root))
    (hkey : p.normalize = some key) (hload : Snapshot.load t s.root key = .ok found) :
    ((start s readings).run t schedule).snapshot.entries.find? key = some found := by
  obtain ⟨i, hi⟩ := List.getElem?_of_mem hr
  have hstart : (start s readings).workers[i]? = some (.asking r) := by
    simp [start, hi]
  have hserved : Serves t s.root i key found (start s readings) :=
    .inr ⟨_, hstart, List.mem_filterMap.2 ⟨p, hp, hkey⟩⟩
  rcases Serves.run hload schedule hserved (start_tracks hs readings) with
    h | ⟨worker, hworker, hawaited⟩
  · exact h
  · have hmap := (mapM_eq_some_iff _ _ _).1 ho
    obtain ⟨o, -, ho⟩ : ∃ o ∈ outcomes, some o = worker.result? := by
      have hmem : worker.result? ∈ outcomes.map some := by
        rw [← hmap]
        exact List.mem_map_of_mem (List.mem_of_getElem? hworker)
      exact List.mem_map.1 hmem
    rw [Worker.awaited_of_result? ho.symm] at hawaited
    cases hawaited

end Pool

end AppBundle
