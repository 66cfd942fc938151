import AppBundle.Proofs.Findings
import Mathlib.Logic.Relation
import Mathlib.Order.Bounds.Basic

/-!
# What a walk visits

Between visits a walk has met the paths it visited and the paths it queued, all of which the
entrypoint leads to, and whatever a visited path leads to has been met (`Walk.Invariant`). When
nothing is queued the visited paths are therefore closed under steps, and they are the least such
set with the entrypoint in it (`resolver_least`).

A walk strays exactly where one of its visits does (`Walk.strays_run`).
-/

namespace AppBundle

theorem Resolution.mem_add {r : Resolution} {dialect : Dialect} {p q : Path}
    {warnings : List Warning} :
    (q ∈ (r.add dialect p warnings).sourceFiles
        ↔ q = p ∧ dialect = .commonJs ∨ q ∈ r.sourceFiles)
      ∧ (q ∈ (r.add dialect p warnings).moduleFiles
        ↔ q = p ∧ dialect = .esModule ∨ q ∈ r.moduleFiles) := by
  cases dialect <;> simp [Resolution.add]

theorem Resolution.warnings_add (r : Resolution) (dialect : Dialect) (p : Path)
    (warnings : List Warning) :
    (r.add dialect p warnings).warnings = r.warnings ++ warnings := by
  cases dialect <;> rfl

theorem Resolution.mem_files {r : Resolution} {p : Path} :
    p ∈ r.files ↔ p ∈ r.sourceFiles ∨ p ∈ r.moduleFiles := by
  unfold Resolution.files
  induction r.moduleFiles with
  | nil => simp
  | cons q qs ih => simp [ih, or_left_comm]

namespace Import

open Reading

namespace Walk

/-! ## Queueing -/

section Enqueue

variable {w : Walk} {p : Path} {f : ProjectFile}

theorem resolution_enqueue : ∀ (w : Walk) (files : List (Path × ProjectFile)),
    (w.enqueue files).resolution = w.resolution
  | _, [] => rfl
  | w, (p, f) :: files => by
    unfold enqueue
    split
    · exact resolution_enqueue w files
    · exact resolution_enqueue _ files

theorem exists_mem_cons_file {q : Path} {g : ProjectFile} {files : List (Path × ProjectFile)} :
    (∃ f, (p, f) ∈ (q, g) :: files) ↔ p = q ∨ ∃ f, (p, f) ∈ files := by
  simp only [List.mem_cons, Prod.mk.injEq, exists_or, exists_and_left, exists_eq, and_true]

/-- What is queued is met from then on, also where it was met before and is not queued again. -/
theorem mem_seen_enqueue : ∀ {files : List (Path × ProjectFile)} {w : Walk},
    p ∈ (w.enqueue files).seen ↔ p ∈ w.seen ∨ ∃ f, (p, f) ∈ files
  | [], w => by simp [enqueue]
  | (q, g) :: files, w => by
    unfold enqueue
    rw [exists_mem_cons_file, ← or_assoc]
    split
    · rename_i hq
      rw [mem_seen_enqueue]
      refine or_congr_left ⟨.inl, ?_⟩
      rintro (h | rfl)
      · exact h
      · exact List.contains_iff_mem.1 hq
    · rw [mem_seen_enqueue, List.mem_cons, or_comm (b := p ∈ w.seen)]

theorem mem_queue_enqueue : ∀ {files : List (Path × ProjectFile)} {w : Walk},
    (p, f) ∈ (w.enqueue files).queue → (p, f) ∈ w.queue ∨ (p, f) ∈ files
  | [], w, h => .inl h
  | (q, g) :: files, w, h => by
    unfold enqueue at h
    split at h
    · exact (mem_queue_enqueue h).imp_right (List.mem_cons_of_mem _)
    · rcases mem_queue_enqueue h with h | h
      · rcases List.mem_append.1 h with h | h
        · exact .inl h
        · exact .inr (List.mem_cons.2 (.inl (List.mem_singleton.1 h)))
      · exact .inr (List.mem_cons_of_mem _ h)

theorem queue_subset_enqueue : ∀ {files : List (Path × ProjectFile)} {w : Walk},
    (p, f) ∈ w.queue → (p, f) ∈ (w.enqueue files).queue
  | [], w, h => h
  | (q, g) :: files, w, h => by
    unfold enqueue
    split
    · exact queue_subset_enqueue h
    · exact queue_subset_enqueue (List.mem_append_left _ h)

/-- What is met by queueing waits. -/
theorem queued_of_seen_enqueue : ∀ {files : List (Path × ProjectFile)} {w : Walk},
    p ∈ (w.enqueue files).seen → p ∈ w.seen ∨ ∃ f, (p, f) ∈ (w.enqueue files).queue
  | [], w, h => .inl h
  | (q, g) :: files, w, h => by
    unfold enqueue at h ⊢
    split at h
    · rename_i hq
      rw [if_pos hq]
      exact queued_of_seen_enqueue h
    · rename_i hq
      rw [if_neg hq]
      rcases queued_of_seen_enqueue h with h | h
      · rcases List.mem_cons.1 h with rfl | h
        · exact .inr ⟨g, queue_subset_enqueue (by simp)⟩
        · exact .inl h
      · exact .inr h

end Enqueue

/-! ## Visits one after the other -/

section Steps

variable (source : Path → Answer) (options : ScanOptions)

/-- The walk after the visit of a file. -/
def after (w : Walk) (p : Path) (f : ProjectFile) (queue : List (Path × ProjectFile))
    (finds : Finds) : Walk :=
  { w with queue, resolution := w.resolution.add (dialectOf options p f) p finds.warnings }.enqueue
    finds.files

/-- A walk makes so many visits, none of which fails. -/
inductive Visits : Nat → Walk → Walk → Prop
  | refl (w : Walk) : Visits 0 w w
  | visit {n : Nat} {w w' : Walk} {p : Path} {f : ProjectFile} {queue : List (Path × ProjectFile)}
      {finds : Finds} (hqueue : w.queue = (p, f) :: queue)
      (h : Yields source (visit options p f) finds)
      (hlater : Visits n (w.after options p f queue finds) w') :
      Visits (n + 1) w w'

variable {source options}

theorem run_nil {limit : Nat} {w : Walk} (h : w.queue = []) :
    run options limit w = pure (some w.resolution) := by
  unfold run
  rw [h]

theorem run_zero {w : Walk} {x : Path × ProjectFile} {queue : List (Path × ProjectFile)}
    (h : w.queue = x :: queue) : run options 0 w = pure none := by
  unfold run
  rw [h]

theorem run_succ {limit : Nat} {w : Walk} {p : Path} {f : ProjectFile}
    {queue : List (Path × ProjectFile)} (h : w.queue = (p, f) :: queue) :
    run options (limit + 1) w
      = visit options p f >>= fun finds => run options limit (w.after options p f queue finds) := by
  rw [run]
  rw [h]
  rfl

/-- A walk ends with what its visits have put together once nothing is queued. -/
theorem yields_run {r : Resolution} : ∀ {limit : Nat} {w : Walk},
    Yields source (run options limit w) (some r)
      ↔ ∃ n ≤ limit, ∃ w', Visits source options n w w' ∧ w'.queue = [] ∧ r = w'.resolution
  | limit, w => by
    rcases hq : w.queue with _ | ⟨⟨p, f⟩, queue⟩
    · rw [run_nil hq, yields_pure]
      constructor
      · intro h
        cases h
        exact ⟨0, Nat.zero_le _, w, .refl w, hq, rfl⟩
      · rintro ⟨n, -, w', ⟨⟩ | ⟨hqueue, -, -⟩, -, rfl⟩
        · rfl
        · cases hq.symm.trans hqueue
    · cases limit with
      | zero =>
        rw [run_zero hq, yields_pure]
        refine iff_of_false (by simp) ?_
        rintro ⟨n, hn, w', ⟨⟩ | ⟨-, -, -⟩, hempty, -⟩
        · cases hq.symm.trans hempty
        · exact absurd hn (Nat.not_succ_le_zero _)
      | succ limit =>
        rw [run_succ hq, yields_bind]
        constructor
        · rintro ⟨finds, hvisit, h⟩
          obtain ⟨n, hn, w', hlater, hempty, rfl⟩ := yields_run.1 h
          exact ⟨n + 1, Nat.succ_le_succ hn, w', .visit hq hvisit hlater, hempty, rfl⟩
        · rintro ⟨n, hn, w', ⟨⟩ | ⟨hqueue, hvisit, hlater⟩, hempty, rfl⟩
          · cases hq.symm.trans hempty
          · cases hq.symm.trans hqueue
            exact ⟨_, hvisit, yields_run.2 ⟨_, Nat.le_of_succ_le_succ hn, w', hlater, hempty, rfl⟩⟩

/-- A walk strays where, within its limit, a visit does. -/
theorem strays_run : ∀ {limit : Nat} {w : Walk},
    Strays source (run options limit w)
      ↔ ∃ n < limit, ∃ w', Visits source options n w w' ∧ ∃ p f queue,
          w'.queue = (p, f) :: queue ∧ Strays source (visit options p f)
  | limit, w => by
    rcases hq : w.queue with _ | ⟨⟨p, f⟩, queue⟩
    · rw [run_nil hq]
      refine iff_of_false not_strays_pure ?_
      rintro ⟨n, -, w', ⟨⟩ | ⟨hqueue, -, -⟩, p, f, queue, hqueue', -⟩
      · cases hq.symm.trans hqueue'
      · cases hq.symm.trans hqueue
    · cases limit with
      | zero =>
        rw [run_zero hq]
        refine iff_of_false not_strays_pure ?_
        rintro ⟨n, hn, -⟩
        exact absurd hn (Nat.not_lt_zero _)
      | succ limit =>
        rw [run_succ hq, strays_bind]
        constructor
        · rintro (h | ⟨finds, hvisit, h⟩)
          · exact ⟨0, Nat.succ_pos _, w, .refl w, p, f, queue, hq, h⟩
          · obtain ⟨n, hn, w', hlater, hstray⟩ := strays_run.1 h
            exact ⟨n + 1, Nat.succ_lt_succ hn, w', .visit hq hvisit hlater, hstray⟩
        · rintro ⟨n, hn, w', ⟨⟩ | ⟨hqueue, hvisit, hlater⟩, hstray⟩
          · obtain ⟨p', f', queue', hqueue, h⟩ := hstray
            cases hq.symm.trans hqueue
            exact .inl h
          · cases hq.symm.trans hqueue
            exact .inr ⟨_, hvisit,
              strays_run.2 ⟨_, Nat.lt_of_succ_lt_succ hn, w', hlater, hstray⟩⟩

end Steps

/-! ## The invariant -/

section Invariant

/-- The path was visited. -/
def Visited (w : Walk) (p : Path) : Prop :=
  p ∈ w.resolution.sourceFiles ∨ p ∈ w.resolution.moduleFiles

variable (source : Path → Answer) (options : ScanOptions)

/-- What holds of a walk from an entrypoint between two visits. -/
structure Invariant (entry : Path) (w : Walk) : Prop where
  entry_seen : entry ∈ w.seen
  /-- A queued file is the one that is there. -/
  queued : ∀ p f, (p, f) ∈ w.queue → p ∈ w.seen ∧ source p = .ok (some f)
  /-- What was met is visited or waits. -/
  seen : ∀ p ∈ w.seen, w.Visited p ∨ ∃ f, (p, f) ∈ w.queue
  visited : ∀ p, w.Visited p → p ∈ w.seen
  reached : ∀ p ∈ w.seen, Relation.ReflTransGen (Leads source options) entry p
  closed : ∀ p, w.Visited p → ∀ q, Leads source options p q → q ∈ w.seen
  commonJs : ∀ p ∈ w.resolution.sourceFiles,
    ∃ f, source p = .ok (some f) ∧ dialectOf options p f = .commonJs
  esModule : ∀ p ∈ w.resolution.moduleFiles,
    ∃ f, source p = .ok (some f) ∧ dialectOf options p f = .esModule
  warned : ∀ p, w.Visited p → ∀ f, source p = .ok (some f) →
    ∀ s, Unanswered source options p f s → .unresolved s p ∈ w.resolution.warnings

variable {source options}

theorem Invariant.start {entry : Path} {file : ProjectFile} (h : source entry = .ok (some file)) :
    Invariant source options entry (enqueue {} [(entry, file)]) where
  entry_seen := mem_seen_enqueue.2 (.inr ⟨file, by simp⟩)
  queued := by
    rintro p f hp
    have hmem := mem_queue_enqueue hp
    simp only [List.not_mem_nil, List.mem_singleton, Prod.mk.injEq, false_or] at hmem
    obtain ⟨rfl, rfl⟩ := hmem
    exact ⟨mem_seen_enqueue.2 (.inr ⟨f, by simp⟩), h⟩
  seen := by
    intro p hp
    rcases queued_of_seen_enqueue hp with hp | hp
    · simp at hp
    · exact .inr hp
  visited := by simp [Visited, resolution_enqueue]
  reached := by
    intro p hp
    rcases mem_seen_enqueue.1 hp with hp | ⟨f, hp⟩
    · simp at hp
    · cases List.mem_singleton.1 hp
      exact .refl
  closed := by simp [Visited, resolution_enqueue]
  commonJs := by simp [resolution_enqueue]
  esModule := by simp [resolution_enqueue]
  warned := by simp [Visited, resolution_enqueue]

/-- A visit makes one path visited. -/
theorem visited_after {w : Walk} {p q : Path} {f : ProjectFile}
    {queue : List (Path × ProjectFile)} {finds : Finds} :
    (w.after options p f queue finds).Visited q ↔ q = p ∨ w.Visited q := by
  unfold Visited after
  rw [resolution_enqueue]
  simp only [Resolution.mem_add]
  cases dialectOf options p f <;> simp [or_assoc, or_left_comm]

theorem warnings_after {w : Walk} {p : Path} {f : ProjectFile}
    {queue : List (Path × ProjectFile)} {finds : Finds} :
    (w.after options p f queue finds).resolution.warnings
      = w.resolution.warnings ++ finds.warnings := by
  unfold after
  rw [resolution_enqueue, Resolution.warnings_add]

/-- A visit keeps the invariant: what it finds is what its file leads to. -/
theorem Invariant.after {entry p : Path} {w : Walk} {f : ProjectFile}
    {queue : List (Path × ProjectFile)} {finds : Finds} (hinv : Invariant source options entry w)
    (hqueue : w.queue = (p, f) :: queue) (h : Yields source (visit options p f) finds) :
    Invariant source options entry (w.after options p f queue finds) := by
  obtain ⟨hp, hf⟩ := hinv.queued p f (by simp [hqueue])
  have hfinds : ∀ q, (∃ g, (q, g) ∈ finds.files) ↔ Leads source options p q := by
    intro q
    simp only [mem_files_visit h]
    refine ⟨fun hq => ⟨f, hf, hq⟩, ?_⟩
    rintro ⟨f', hf', hq⟩
    cases hf.symm.trans hf'
    exact hq
  have hseen : ∀ q, q ∈ (w.after options p f queue finds).seen
      ↔ q ∈ w.seen ∨ Leads source options p q := by
    intro q
    rw [← hfinds]
    exact mem_seen_enqueue
  refine ⟨(hseen entry).2 (.inl hinv.entry_seen), ?queued, ?seen, ?visited, ?reached, ?closed,
    ?commonJs, ?esModule, ?warned⟩
  case queued =>
    intro q g hq
    rcases mem_queue_enqueue hq with hq | hq
    · obtain ⟨hq, hg⟩ := hinv.queued q g (by rw [hqueue]; exact List.mem_cons_of_mem _ hq)
      exact ⟨(hseen q).2 (.inl hq), hg⟩
    · exact ⟨(hseen q).2 (.inr ((hfinds q).1 ⟨g, hq⟩)), ((mem_files_visit h).1 hq).available.2⟩
  case seen =>
    intro q hq
    rw [visited_after]
    rcases queued_of_seen_enqueue hq with hq | hq
    · rcases hinv.seen q hq with hq | ⟨g, hq⟩
      · exact .inl (.inr hq)
      · rw [hqueue] at hq
        rcases List.mem_cons.1 hq with hq | hq
        · cases hq
          exact .inl (.inl rfl)
        · exact .inr ⟨g, queue_subset_enqueue hq⟩
    · exact .inr hq
  case visited =>
    intro q hq
    rw [hseen]
    rcases visited_after.1 hq with rfl | hq
    · exact .inl hp
    · exact .inl (hinv.visited q hq)
  case reached =>
    intro q hq
    rcases (hseen q).1 hq with hq | hq
    · exact hinv.reached q hq
    · exact (hinv.reached p hp).tail hq
  case closed =>
    intro q hq q' hlead
    rw [hseen]
    rcases visited_after.1 hq with rfl | hq
    · exact .inr hlead
    · exact .inl (hinv.closed q hq q' hlead)
  case commonJs =>
    intro q hq
    unfold Walk.after at hq
    rw [resolution_enqueue] at hq
    rcases Resolution.mem_add.1.1 hq with ⟨rfl, hd⟩ | hq
    · exact ⟨f, hf, hd⟩
    · exact hinv.commonJs q hq
  case esModule =>
    intro q hq
    unfold Walk.after at hq
    rw [resolution_enqueue] at hq
    rcases Resolution.mem_add.2.1 hq with ⟨rfl, hd⟩ | hq
    · exact ⟨f, hf, hd⟩
    · exact hinv.esModule q hq
  case warned =>
    intro q hq g hg s hs
    rw [warnings_after, List.mem_append]
    rcases visited_after.1 hq with rfl | hq
    · cases hf.symm.trans hg
      exact .inr (unresolved_mem_visit h hs)
    · exact .inl (hinv.warned q hq g hg s hs)

/-- So do visits one after the other. -/
theorem Invariant.visits {entry : Path} {n : Nat} {w w' : Walk}
    (hinv : Invariant source options entry w) (h : Visits source options n w w') :
    Invariant source options entry w' := by
  induction h with
  | refl w => exact hinv
  | visit hqueue hvisit hlater ih => exact ih (hinv.after hqueue hvisit)

/-- A walk with nothing queued has visited exactly the paths that its entrypoint leads to. -/
theorem Invariant.visited_iff_reached {entry p : Path} {w : Walk}
    (hinv : Invariant source options entry w) (hempty : w.queue = []) :
    w.Visited p ↔ Relation.ReflTransGen (Leads source options) entry p := by
  have hvisited : ∀ q ∈ w.seen, w.Visited q := by
    intro q hq
    rcases hinv.seen q hq with hq | ⟨f, hq⟩
    · exact hq
    · simp [hempty] at hq
  constructor
  · intro hp
    exact hinv.reached p (hinv.visited p hp)
  · intro hp
    induction hp with
    | refl => exact hvisited entry hinv.entry_seen
    | tail _ hlead ih => exact hvisited _ (hinv.closed _ ih _ hlead)

end Invariant

/-! ## Visits and their warnings -/

section Reported

variable {source : Path → Answer} {options : ScanOptions}

variable (source options) in
/-- Each visited path was visited as the file that is there, and what the visit warned of was
noted. -/
def Reported (w : Walk) : Prop :=
  ∀ p, w.Visited p → ∃ f finds, source p = .ok (some f)
    ∧ Yields source (visit options p f) finds ∧ ∀ x ∈ finds.warnings, x ∈ w.resolution.warnings

theorem reported_start (entry : Path) (file : ProjectFile) :
    (enqueue {} [(entry, file)]).Reported source options := by
  intro p hp
  simp [Visited, resolution_enqueue] at hp

theorem Reported.after {entry p : Path} {w : Walk} {f : ProjectFile}
    {queue : List (Path × ProjectFile)} {finds : Finds} (h : w.Reported source options)
    (hinv : w.Invariant source options entry) (hqueue : w.queue = (p, f) :: queue)
    (hvisit : Yields source (visit options p f) finds) :
    (w.after options p f queue finds).Reported source options := by
  intro q hq
  rw [warnings_after]
  rcases visited_after.1 hq with rfl | hq
  · have hf : source q = .ok (some f) := (hinv.queued q f (by simp [hqueue])).2
    exact ⟨f, finds, hf, hvisit, fun x hx => List.mem_append_right _ hx⟩
  · obtain ⟨g, finds', hg, hvisit', hnoted⟩ := h q hq
    exact ⟨g, finds', hg, hvisit', fun x hx => List.mem_append_left _ (hnoted x hx)⟩

theorem Reported.visits {entry : Path} {n : Nat} {w w' : Walk}
    (h : w.Reported source options) (hinv : w.Invariant source options entry)
    (hvisits : Visits source options n w w') : w'.Reported source options := by
  induction hvisits with
  | refl w => exact h
  | visit hqueue hvisit _ ih => exact ih (h.after hinv hqueue hvisit) (hinv.after hqueue hvisit)

end Reported

end Walk

/-! ## Resolutions -/

section Resolver

variable {source : Path → Answer} {options : ScanOptions} {limit : Nat} {entrypoint : Path}
  {r : Resolution}

/-- Where a walk from a file stands before its first visit. -/
abbrev startOf (entry : Path) (file : ProjectFile) : Walk := Walk.enqueue {} [(entry, file)]

theorem yields_resolver :
    Yields source (resolver limit options entrypoint) r
      ↔ ∃ entry file, entrypoint.normalize = some entry ∧ source entry = .ok (some file)
        ∧ Yields source (Walk.run options limit (startOf entry file)) (some r) := by
  unfold resolver
  rcases entrypoint.normalize with _ | entry
  · simp
  · simp only [yields_bind, yields_adapt, yields_askFile, Option.some.injEq, exists_and_left,
      exists_eq_left']
    constructor
    · rintro ⟨_ | file, hfile, h⟩
      · exact absurd h not_yields_throw
      · obtain ⟨_ | r', hrun, h⟩ := yields_bind.1 h
        · exact absurd h not_yields_throw
        · cases yields_pure.1 h
          exact ⟨file, hfile, yields_adapt.1 hrun⟩
    · rintro ⟨file, hfile, h⟩
      exact ⟨some file, hfile, yields_bind.2 ⟨some r, yields_adapt.2 h, yields_pure.2 rfl⟩⟩

theorem strays_resolver :
    Strays source (resolver limit options entrypoint)
      ↔ ∃ entry file, entrypoint.normalize = some entry ∧ source entry = .ok (some file)
        ∧ Strays source (Walk.run options limit (startOf entry file)) := by
  unfold resolver
  rcases entrypoint.normalize with _ | entry
  · simp
  · simp only [strays_bind, strays_adapt, not_strays_askFile, yields_adapt, yields_askFile,
      Option.some.injEq, exists_and_left, exists_eq_left', false_or]
    constructor
    · rintro ⟨_ | file, hfile, h⟩
      · exact absurd h not_strays_throw
      · refine ⟨file, hfile, ?_⟩
        rcases strays_bind.1 h with h | ⟨_ | r, -, h⟩
        · exact strays_adapt.1 h
        · exact absurd h not_strays_throw
        · exact absurd h not_strays_pure
    · rintro ⟨file, hfile, h⟩
      exact ⟨some file, hfile, strays_bind.2 (.inl (strays_adapt.2 h))⟩

/-- A resolution is where a walk from the entrypoint stands with nothing queued. -/
theorem walk_of_resolver (h : Yields source (resolver limit options entrypoint) r) :
    ∃ entry w, entrypoint.normalize = some entry ∧ Walk.Invariant source options entry w
      ∧ w.queue = [] ∧ r = w.resolution := by
  obtain ⟨entry, file, hentry, hfile, hrun⟩ := yields_resolver.1 h
  obtain ⟨n, -, w, hvisits, hempty, rfl⟩ := Walk.yields_run.1 hrun
  exact ⟨entry, w, hentry, (Walk.Invariant.start hfile).visits hvisits, hempty, rfl⟩

theorem reported_of_resolver {limit : Nat} {entrypoint p : Path} {r : Resolution}
    (h : Yields source (resolver limit options entrypoint) r) (hp : p ∈ r.files) :
    ∃ f finds, source p = .ok (some f) ∧ Yields source (visit options p f) finds
      ∧ ∀ x ∈ finds.warnings, x ∈ r.warnings := by
  obtain ⟨entry, file, -, hfile, hrun⟩ := yields_resolver.1 h
  obtain ⟨n, -, w, hvisits, -, rfl⟩ := Walk.yields_run.1 hrun
  exact (Walk.reported_start entry file).visits (.start hfile) hvisits p (Resolution.mem_files.1 hp)

/-- A resolution has exactly the paths that the entrypoint leads to. -/
theorem mem_files_iff_reached (h : Yields source (resolver limit options entrypoint) r) :
    ∃ entry, entrypoint.normalize = some entry
      ∧ ∀ p, p ∈ r.files ↔ Relation.ReflTransGen (Leads source options) entry p := by
  obtain ⟨entry, w, hentry, hinv, hempty, rfl⟩ := walk_of_resolver h
  exact ⟨entry, hentry, fun p => Resolution.mem_files.trans (hinv.visited_iff_reached hempty)⟩

/-- The paths of a resolution are the least set that has the entrypoint in it and is closed under
steps. Each stands under the dialect of the file that is there, and there is a warning of every
specifier that stays without an answer. -/
theorem resolver_least (h : Yields source (resolver limit options entrypoint) r) :
    ∃ entry, entrypoint.normalize = some entry
      ∧ IsLeast {S : Set Path | entry ∈ S ∧ ∀ p ∈ S, ∀ q, Leads source options p q → q ∈ S}
          {p | p ∈ r.sourceFiles ∨ p ∈ r.moduleFiles}
      ∧ (∀ p ∈ r.sourceFiles, p ∉ r.moduleFiles)
      ∧ (∀ p, p ∈ r.moduleFiles ↔ (p ∈ r.sourceFiles ∨ p ∈ r.moduleFiles)
          ∧ ∃ f, source p = .ok (some f) ∧ dialectOf options p f = .esModule)
      ∧ ∀ p, p ∈ r.sourceFiles ∨ p ∈ r.moduleFiles → ∀ f, source p = .ok (some f) →
          ∀ s, Unanswered source options p f s → .unresolved s p ∈ r.warnings := by
  obtain ⟨entry, w, hentry, hinv, hempty, rfl⟩ := walk_of_resolver h
  have hreached : ∀ p, w.Visited p ↔ Relation.ReflTransGen (Leads source options) entry p :=
    fun p => hinv.visited_iff_reached hempty
  refine ⟨entry, hentry, ⟨⟨(hreached entry).2 .refl, ?closed⟩, ?least⟩, ?disjoint, ?dialect,
    hinv.warned⟩
  case closed =>
    intro p hp q hlead
    exact (hreached q).2 (((hreached p).1 hp).tail hlead)
  case least =>
    rintro S ⟨hentry, hclosed⟩ p hp
    replace hp := (hreached p).1 hp
    induction hp with
    | refl => exact hentry
    | tail _ hlead ih => exact hclosed _ ih _ hlead
  case disjoint =>
    intro p hsource hmodule
    obtain ⟨f, hf, hd⟩ := hinv.commonJs p hsource
    obtain ⟨g, hg, hd'⟩ := hinv.esModule p hmodule
    cases hf.symm.trans hg
    cases hd.symm.trans hd'
  case dialect =>
    intro p
    constructor
    · intro hp
      exact ⟨.inr hp, hinv.esModule p hp⟩
    · rintro ⟨hp | hp, f, hf, hd⟩
      · obtain ⟨g, hg, hd'⟩ := hinv.commonJs p hp
        cases hf.symm.trans hg
        cases hd.symm.trans hd'
      · exact hp

/-- A regular file with a text. -/
def textFile (p : Path) (text : String) : ProjectFile :=
  { path := p, kind := .regular, mode := 0o100644, content := text.toUTF8 }

/-- Two files that ask for each other, the second one also for a package that is not there. -/
def cycle (p : Path) : Answer :=
  if p = "a.mjs".toList then .ok (some (textFile p "import './b'"))
  else if p = "b.js".toList then .ok (some (textFile p "require('./a.mjs'); require('c')"))
  else .ok none

theorem resolver_least_cycle :
    ∃ r, Yields cycle (resolver 2 {} "./a.mjs".toList) r
      ∧ r.sourceFiles = ["b.js".toList] ∧ r.moduleFiles = ["a.mjs".toList]
      ∧ IsLeast {S : Set Path | "a.mjs".toList ∈ S ∧ ∀ p ∈ S, ∀ q, Leads cycle {} p q → q ∈ S}
          {p | p ∈ r.sourceFiles ∨ p ∈ r.moduleFiles} := by
  have hrun : (yield? cycle (resolver 2 {} "./a.mjs".toList)).map
      (fun r => (r.sourceFiles, r.moduleFiles)) = some (["b.js".toList], ["a.mjs".toList]) := by
    decide +kernel
  obtain ⟨r, hr, hfiles⟩ := Option.map_eq_some_iff.1 hrun
  obtain ⟨hsource, hmodule⟩ := Prod.mk.inj hfiles
  have h := (yield?_eq_some cycle).1 hr
  obtain ⟨entry, hentry, hleast, -⟩ := resolver_least h
  have hnormal : Path.normalize "./a.mjs".toList = some "a.mjs".toList := by decide
  cases hnormal.symm.trans hentry
  exact ⟨r, h, hsource, hmodule, hleast⟩

end Resolver

end Import

end AppBundle
