import AppBundle.Snapshot

/-!
# A snapshot of an unchanging tree

While the tree stays as it is, a snapshot gives the same answer about a path at every read
(`answers`), so that a reading comes to what it makes of these answers (`run_eq_answer`). If all
that the snapshot remembers is what the tree says (`Coherent`), they are what the tree says,
remembered or not, and a reading comes to the same through any such snapshot (`Coherent.run`),
whatever was read before it.
-/

namespace AppBundle

namespace Snapshot

variable {α : Type} {t : Tree} {s : Snapshot} {p key : Path}

theorem read_outside (h : p.normalize = none) : s.read t p = (.error (.outsideRoot p), s) := by
  simp only [read, h]

theorem read_known {known : Option ProjectFile} (hp : p.normalize = some key)
    (hk : s.entries.find? key = some known) :
    s.read t p = (.ok known, { s with lookups := s.lookups + 1 }) := by
  simp only [read, hp, hk]

theorem read_failed {e : AccessError} (hp : p.normalize = some key)
    (hk : s.entries.find? key = none) (hl : load t s.root key = .error e) :
    s.read t p
      = (.error e, { s with lookups := s.lookups + 1, treeReads := s.treeReads + 1 }) := by
  simp only [read, hp, hk, hl]

theorem read_loaded {found : Option ProjectFile} (hp : p.normalize = some key)
    (hk : s.entries.find? key = none) (hl : load t s.root key = .ok found) :
    s.read t p
      = (.ok found, { s with
          lookups := s.lookups + 1
          treeReads := s.treeReads + 1
          entries := s.entries.insert key found }) := by
  simp only [read, hp, hk, hl]

theorem load_eq_error {root : Path} {e : AccessError} (h : load t root key = .error e) :
    e = .unreadable (root.resolveFrom key) := by
  unfold load at h
  dsimp only at h
  split at h
  · split at h
    · cases h
    · cases h
      rfl
  · cases h
  · cases h
  · split at h
    · cases h
    · cases h
    · split at h
      · cases h
      · cases h
        rfl

/-- All that the snapshot remembers is what the tree says. -/
def Coherent (t : Tree) (s : Snapshot) : Prop :=
  ∀ key known, s.entries.find? key = some known → load t s.root key = .ok known

theorem source_of_none {root p : Path} (h : p.normalize = none) :
    source t root p = .error (.outsideRoot p) := by
  simp only [source, h]

theorem source_of_some {root p key : Path} (h : p.normalize = some key) :
    source t root p = load t root key := by
  simp only [source, h]

theorem coherent_new (t : Tree) (root : Path) : Coherent t (new root) := by
  intro key known h
  simp [new] at h

theorem Coherent.insert (h : Coherent t s) {key : Path} {found : Option ProjectFile}
    (hload : load t s.root key = .ok found) :
    Coherent t { s with entries := s.entries.insert key found } := by
  intro key' known hk
  rw [Catalog.find?_insert] at hk
  split at hk
  · rename_i heq
    subst heq
    cases hk
    exact hload
  · exact h key' known hk

/-- What is remembered stays. -/
theorem find?_read {known : Option ProjectFile} (h : s.entries.find? key = some known) (p : Path) :
    (s.read t p).2.entries.find? key = some known := by
  rcases hp : p.normalize with _ | key'
  · rw [read_outside hp]
    exact h
  · rcases hk : s.entries.find? key' with _ | known'
    · rcases hl : load t s.root key' with e | found
      · rw [read_failed hp hk hl]
        exact h
      · have hne : key ≠ key' := by
          rintro rfl
          simp [hk] at h
        rw [read_loaded hp hk hl, Catalog.find?_insert, if_neg hne]
        exact h
    · rw [read_known hp hk]
      exact h

theorem find?_run {known : Option ProjectFile} : ∀ {s : Snapshot},
    s.entries.find? key = some known → ∀ r : Reading α,
      (s.run t r).2.entries.find? key = some known
  | _, h, .done _ => h
  | _, h, .stray _ => h
  | s, h, .ask p next => find?_run (find?_read h p) (next (s.read t p).1)

theorem root_read (t : Tree) (s : Snapshot) (p : Path) : (s.read t p).2.root = s.root := by
  unfold read
  split
  · rfl
  · dsimp only
    split
    · rfl
    · split <;> rfl

theorem Coherent.read (h : Coherent t s) (p : Path) :
    (s.read t p).1 = source t s.root p ∧ Coherent t (s.read t p).2 := by
  unfold Snapshot.read source
  split
  · exact ⟨rfl, h⟩
  · rename_i key hkey
    dsimp only
    split
    · rename_i known hknown
      exact ⟨(h key known hknown).symm, h⟩
    · split
      · rename_i e hload
        exact ⟨hload.symm, h⟩
      · rename_i found hload
        exact ⟨hload.symm, Coherent.insert h hload⟩

/-- Through a snapshot that is true to the tree a reading comes to what the tree alone makes of
it, and leaves the snapshot true to the tree. -/
theorem Coherent.run : ∀ {s : Snapshot}, Coherent t s → ∀ r : Reading α,
    (s.run t r).1 = r.answer (source t s.root) ∧ Coherent t (s.run t r).2
      ∧ (s.run t r).2.root = s.root
  | s, h, .done a => ⟨rfl, h, rfl⟩
  | s, h, .stray p => ⟨rfl, h, rfl⟩
  | s, h, .ask p next => by
    obtain ⟨hread, hcoh⟩ := h.read p
    have hroot := root_read t s p
    obtain ⟨h1, h2, h3⟩ := Coherent.run hcoh (next (s.read t p).1)
    rw [hroot] at h1 h3
    refine ⟨h1.trans ?_, h2, h3⟩
    rw [hread]
    rfl

/-- An answer about a path is remembered under its normal form. -/
theorem Coherent.find?_read_self (h : Coherent t s) {found : Option ProjectFile}
    (hp : p.normalize = some key) (hl : load t s.root key = .ok found) :
    (s.read t p).2.entries.find? key = some found := by
  rcases hk : s.entries.find? key with _ | known
  · rw [read_loaded hp hk hl, Catalog.find?_insert, if_pos rfl]
  · rw [read_known hp hk]
    have hknown := h key known hk
    rw [hl] at hknown
    cases hknown
    exact hk

/-- A reading leaves a snapshot that remembers every answer that it got. -/
theorem Coherent.find?_run_requests {found : Option ProjectFile} (hp : p.normalize = some key) :
    ∀ {s : Snapshot}, Coherent t s → load t s.root key = .ok found → ∀ r : Reading α,
      p ∈ r.requests (source t s.root) → (s.run t r).2.entries.find? key = some found
  | s, h, hl, .ask q next, hmem => by
    obtain ⟨hread, hcoh⟩ := h.read q
    have hroot := root_read t s q
    have hstep : (s.run t (.ask q next)).2 = ((s.read t q).2.run t (next (s.read t q).1)).2 := rfl
    rw [hstep]
    rcases List.mem_cons.1 hmem with rfl | hmem
    · exact find?_run (h.find?_read_self hp hl) _
    · refine hcoh.find?_run_requests hp (hroot.symm ▸ hl) _ ?_
      rw [hroot, hread]
      exact hmem

theorem run_new (t : Tree) (root : Path) (r : Reading α) :
    ((new root).run t r).1 = r.answer (source t root) :=
  ((coherent_new t root).run r).1

/-! ## Snapshots with a past -/

/-- What a snapshot answers about a tree that does not change: what it remembers, and else what the
tree says. -/
def answers (s : Snapshot) (t : Tree) (p : Path) : Answer :=
  match p.normalize with
  | none => .error (.outsideRoot p)
  | some key =>
    match s.entries.find? key with
    | some known => .ok known
    | none => load t s.root key

theorem answers_known {known : Option ProjectFile} (hp : p.normalize = some key)
    (hk : s.entries.find? key = some known) : s.answers t p = .ok known := by
  simp only [answers, hp, hk]

theorem answers_unknown (hp : p.normalize = some key) (hk : s.entries.find? key = none) :
    s.answers t p = load t s.root key := by
  simp only [answers, hp, hk]

theorem answers_new (t : Tree) (root : Path) : (new root).answers t = source t root := by
  funext p
  rcases hp : p.normalize with _ | key
  · simp only [answers, source, hp]
  · rw [source_of_some hp]
    exact answers_unknown hp rfl

/-- A read gives the answer of the snapshot and changes none. -/
theorem read_answers (t : Tree) (s : Snapshot) (p : Path) :
    (s.read t p).1 = s.answers t p ∧ (s.read t p).2.answers t = s.answers t := by
  rcases hp : p.normalize with _ | key
  · rw [read_outside hp]
    simp only [answers, hp, and_self]
  · rcases hk : s.entries.find? key with _ | known
    · rcases hl : load t s.root key with e | found
      · rw [read_failed hp hk hl, answers_unknown hp hk, hl]
        exact ⟨rfl, rfl⟩
      · rw [read_loaded hp hk hl, answers_unknown hp hk, hl]
        refine ⟨rfl, funext fun q => ?_⟩
        rcases hq : q.normalize with _ | key'
        · simp only [answers, hq]
        · by_cases hsame : key' = key
          · subst hsame
            rw [answers_unknown hq hk, hl]
            exact answers_known hq (by rw [Catalog.find?_insert, if_pos rfl])
          · simp only [answers, hq, Catalog.find?_insert, if_neg hsame]
    · rw [read_known hp hk, answers_known hp hk]
      exact ⟨rfl, rfl⟩

/-- Through any snapshot a reading comes to what it makes of the answers of the snapshot. -/
theorem run_eq_answer (t : Tree) : ∀ (s : Snapshot) (r : Reading α),
    (s.run t r).1 = r.answer (s.answers t)
  | s, .done a => rfl
  | s, .stray p => rfl
  | s, .ask p next => by
    obtain ⟨hread, hkept⟩ := read_answers t s p
    refine (run_eq_answer t (s.read t p).2 (next (s.read t p).1)).trans ?_
    rw [hkept, hread]
    rfl

end Snapshot

end AppBundle
