import AppBundle.Proofs.Snapshot
import Mathlib.Data.Finset.Card
import Mathlib.Data.Finset.Dedup

/-!
# Reads of a changing tree

Between two reads through a snapshot the tree may change in any way. What the snapshot remembers
of a path is then what the tree said at the first read of that path that did not fail, and its
counters are told from the reads alone (`Tells`).

One read keeps this (`Tells.read`), so that it holds after any reads (`Tells.history`). The first
answer about a path therefore stands for good (`first_answer_stands`).
-/

namespace AppBundle

namespace Snapshot

/-- A read to come: the tree as it will stand then, and the path asked for. -/
structure Call where
  tree : Tree
  path : Path

/-- A read that was answered. -/
structure PastRead extends Call where
  answer : Answer

/-- Makes reads one after the other. -/
def history : Snapshot → List Call → List PastRead × Snapshot
  | s, [] => ([], s)
  | s, c :: calls =>
    let (answer, s) := s.read c.tree c.path
    let (later, s) := history s calls
    ({ c with answer } :: later, s)

namespace PastRead

/-- The tree could not be read. -/
def isUnreadable (e : PastRead) : Bool :=
  match e.answer with
  | .error (.unreadable _) => true
  | .error (.outsideRoot _) | .ok _ => false

/-- The normal form of the path, if the read did not fail. -/
def answeredKey? (e : PastRead) : Option Path :=
  match e.answer with
  | .ok _ => e.path.normalize
  | .error _ => none

end PastRead

/-! ## One read -/

section Read

variable {t : Tree} {s : Snapshot} {p key : Path}

/-- A read that fails stores nothing. -/
theorem entries_of_failed {e : AccessError} (h : (s.read t p).1 = .error e) :
    (s.read t p).2.entries = s.entries := by
  rcases hp : p.normalize with _ | key
  · rw [read_outside hp]
  · rcases hk : s.entries.find? key with _ | known
    · rcases hl : load t s.root key with e' | found
      · rw [read_failed hp hk hl]
      · rw [read_loaded hp hk hl] at h
        cases h
    · rw [read_known hp hk]

end Read

/-! ## Reads one after the other -/

section History

/-- The first of some reads of a path that did not fail, with what the tree said then. -/
def FirstAnswer (root : Path) (past : List PastRead) (key : Path) (found : Option ProjectFile) :
    Prop :=
  ∃ before e after, past = before ++ e :: after
    ∧ (∀ b ∈ before, b.path.normalize = some key → ∃ err, b.answer = .error err)
    ∧ e.path.normalize = some key ∧ e.answer = .ok found ∧ load e.tree root key = .ok found

/-- What past reads tell about the snapshot after them. -/
structure Tells (root : Path) (past : List PastRead) (s : Snapshot) : Prop where
  root_eq : s.root = root
  first : ∀ key found, s.entries.find? key = some found → FirstAnswer root past key found
  kept : ∀ e ∈ past, ∀ key found, e.path.normalize = some key → e.answer = .ok found →
    s.entries.find? key = some found
  lookups : s.lookups = past.countP fun e => e.path.normalize.isSome
  treeReads : s.treeReads = s.size + past.countP PastRead.isUnreadable

variable {root key : Path} {past : List PastRead} {s : Snapshot}

theorem FirstAnswer.append {found : Option ProjectFile} (h : FirstAnswer root past key found)
    (later : List PastRead) : FirstAnswer root (past ++ later) key found := by
  obtain ⟨before, e, after, rfl, hfailed, he⟩ := h
  exact ⟨before, e, after ++ later, by simp, hfailed, he⟩

theorem tells_new (root : Path) : Tells root [] (new root) where
  root_eq := rfl
  first := by simp [new]
  kept := by simp
  lookups := rfl
  treeReads := rfl

/-- All reads of a path that is not remembered failed. -/
theorem Tells.failed_of_unknown (h : Tells root past s) (hk : s.entries.find? key = none) :
    ∀ e ∈ past, e.path.normalize = some key → ∃ err, e.answer = .error err := by
  intro e he hkey
  rcases ha : e.answer with err | found
  · exact ⟨err, rfl⟩
  · rw [h.kept e he key found hkey ha] at hk
    cases hk

/-- What a read keeps, whatever the tree is by then. -/
theorem Tells.read (h : Tells root past s) (c : Call) :
    Tells root (past ++ [{ c with answer := (s.read c.tree c.path).1 }])
      (s.read c.tree c.path).2 := by
  have hfirst : ∀ answer key found, s.entries.find? key = some found →
      FirstAnswer root (past ++ [{ c with answer }]) key found :=
    fun answer key found hk => (h.first key found hk).append _
  rcases hp : c.path.normalize with _ | key
  · rw [read_outside hp]
    refine ⟨h.root_eq, hfirst _, List.forall_mem_append.2 ⟨h.kept, by simp⟩, ?_, ?_⟩
    · simp [h.lookups, List.countP_append, hp]
    · simp [h.treeReads, List.countP_append, PastRead.isUnreadable]
  · rcases hk : s.entries.find? key with _ | known
    · rcases hl : load c.tree s.root key with err | found
      · rw [read_failed hp hk hl]
        cases load_eq_error hl
        refine ⟨h.root_eq, hfirst _, List.forall_mem_append.2 ⟨h.kept, by simp⟩, ?_, ?_⟩
        · simp [h.lookups, List.countP_append, hp]
        · simp [h.treeReads, List.countP_append, PastRead.isUnreadable, size, Nat.add_assoc]
      · rw [read_loaded hp hk hl]
        refine ⟨h.root_eq, ?first, ?kept, ?lookups, ?treeReads⟩
        case first =>
          intro key' found' hk'
          rw [Catalog.find?_insert] at hk'
          split at hk'
          · rename_i heq
            subst heq
            cases hk'
            exact ⟨past, _, [], rfl, h.failed_of_unknown hk, hp, rfl, h.root_eq ▸ hl⟩
          · exact hfirst _ key' found' hk'
        case kept =>
          intro e he key' found' hkey ha
          rw [Catalog.find?_insert]
          rcases List.mem_append.1 he with he | he
          · have hkept := h.kept e he key' found' hkey ha
            rw [if_neg, hkept]
            rintro rfl
            rw [hk] at hkept
            cases hkept
          · cases List.mem_singleton.1 he
            cases hp.symm.trans hkey
            cases ha
            rw [if_pos rfl]
        case lookups => simp [h.lookups, List.countP_append, hp]
        case treeReads =>
          have hsize := Catalog.size_insert found hk
          simp only [h.treeReads, List.countP_append, size, hsize, List.countP_singleton,
            PastRead.isUnreadable, Bool.false_eq_true, if_false]
          omega
    · rw [read_known hp hk]
      refine ⟨h.root_eq, hfirst _, List.forall_mem_append.2 ⟨h.kept, ?_⟩, ?_, ?_⟩
      · intro e he key' found hkey ha
        cases List.mem_singleton.1 he
        cases hp.symm.trans hkey
        cases ha
        exact hk
      · simp [h.lookups, List.countP_append, hp]
      · simp [h.treeReads, List.countP_append, PastRead.isUnreadable, size]

/-- What any reads keep. -/
theorem Tells.history : ∀ {past : List PastRead} {s : Snapshot}, Tells root past s →
    ∀ calls, Tells root (past ++ (s.history calls).1) (s.history calls).2
  | past, s, h, [] => by
    rw [Snapshot.history, List.append_nil]
    exact h
  | past, s, h, c :: calls => by
    have ih := Tells.history (h.read c) calls
    rw [List.append_assoc] at ih
    exact ih

theorem calls_of_history : ∀ (s : Snapshot) (calls : List Call),
    (s.history calls).1.map PastRead.toCall = calls
  | _, [] => rfl
  | s, c :: calls => congrArg (c :: ·) (calls_of_history (s.read c.tree c.path).2 calls)

/-- The paths remembered are the normal forms that were read without failing. -/
theorem Tells.size_eq (h : Tells root past s) :
    s.size = (past.filterMap PastRead.answeredKey?).toFinset.card := by
  have hkeys : s.entries.keys.toFinset = (past.filterMap PastRead.answeredKey?).toFinset := by
    ext key
    rw [List.mem_toFinset, List.mem_toFinset, Catalog.mem_keys_iff, List.mem_filterMap]
    constructor
    · rintro ⟨found, hk⟩
      obtain ⟨before, e, after, rfl, -, hkey, ha, -⟩ := h.first key found hk
      refine ⟨e, by simp, ?_⟩
      simp only [PastRead.answeredKey?, ha, hkey]
    · rintro ⟨e, he, hkey⟩
      unfold PastRead.answeredKey? at hkey
      split at hkey
      · rename_i found ha
        exact ⟨found, h.kept e he key found hkey ha⟩
      · cases hkey
  have hnodup : s.entries.keys.Nodup := s.entries.ascending.imp fun hlt => by
    rintro rfl
    exact List.lt_irrefl _ hlt
  rw [← hkeys, List.toFinset_card_of_nodup hnodup]
  exact (List.length_map _).symm

/-- While the tree changes between reads, the first answer about a path stands: every answer about
a path of the same normal form is what the tree said at the first read of it that did not fail. A
read that fails stores nothing, so that a later one succeeds if the tree can be read by then, and
with what the tree says then if all before failed. The counters are those of the reads: lookups of
the paths below the root, an entry for every normal form that was read without failing, and reads
of the tree for the entries and for the reads that failed there. -/
theorem first_answer_stands (root : Path) (calls : List Call) :
    ∃ past s, (new root).history calls = (past, s)
      ∧ past.map PastRead.toCall = calls
      ∧ (∀ e ∈ past, ∀ key found, e.path.normalize = some key → e.answer = .ok found →
          FirstAnswer root past key found
            ∧ ∀ e' ∈ past, e'.path.normalize = some key → ∀ found', e'.answer = .ok found' →
              found' = found)
      ∧ (∀ t p e, (s.read t p).1 = .error e → (s.read t p).2.entries = s.entries)
      ∧ (∀ t p key found, p.normalize = some key → load t root key = .ok found →
          (∃ known, (s.read t p).1 = .ok known)
            ∧ ((∀ e ∈ past, e.path.normalize = some key → ∃ err, e.answer = .error err) →
              (s.read t p).1 = .ok found))
      ∧ s.lookups = calls.countP (fun c => c.path.normalize.isSome)
      ∧ s.size = (past.filterMap PastRead.answeredKey?).toFinset.card
      ∧ s.treeReads = s.size + past.countP PastRead.isUnreadable := by
  have htells : Tells root ((new root).history calls).1 ((new root).history calls).2 :=
    (tells_new root).history calls
  have hcalls := calls_of_history (new root) calls
  refine ⟨_, _, rfl, hcalls, ?answers, fun t p e => entries_of_failed, ?repaired, ?lookups,
    htells.size_eq, htells.treeReads⟩
  case answers =>
    intro e he key found hkey ha
    have hk := htells.kept e he key found hkey ha
    refine ⟨htells.first key found hk, fun e' he' hkey' found' ha' => ?_⟩
    exact Option.some.inj ((htells.kept e' he' key found' hkey' ha').symm.trans hk)
  case repaired =>
    intro t p key found hp hl
    rw [← htells.root_eq] at hl
    rcases hk : ((new root).history calls).2.entries.find? key with _ | known
    · rw [read_loaded hp hk hl]
      exact ⟨⟨found, rfl⟩, fun _ => rfl⟩
    · rw [read_known hp hk]
      refine ⟨⟨known, rfl⟩, fun hfailed => ?_⟩
      obtain ⟨before, e, after, hpast, -, hkey, ha, -⟩ := htells.first key known hk
      obtain ⟨err, herr⟩ := hfailed e (by rw [hpast]; simp) hkey
      rw [ha] at herr
      cases herr
  case lookups =>
    have hcount := congrArg (List.countP fun c => c.path.normalize.isSome) hcalls
    rw [List.countP_map] at hcount
    exact htells.lookups.trans hcount

end History

end Snapshot

end AppBundle
