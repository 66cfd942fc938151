import AppBundle.Import.Walk
import AppBundle.Proofs.Links
import AppBundle.Proofs.Steps
import Mathlib.Algebra.Order.BigOperators.Group.List
import Mathlib.Algebra.Order.Ring.Nat
import Mathlib.Data.List.Nodup
import Mathlib.Data.List.ProdSigma

/-!
# Walks that end

A path that leads anywhere is made of names that stand in the tree (`names_of_follow`): between two
links each name takes the lookup one level down, and it follows no more than forty links. So there
are finitely many paths at which a file is, each in at most two spellings, and a walk that visits
every path once ends within their number (`Import.Walk.not_givenUp`).
-/

namespace AppBundle

namespace Tree

variable {t : Tree} {followLast : Bool} {place q : Place} {names : List Text}

/-! ## Names on the way -/

theorem length_le_depth (h : place ∈ t.entries.keys) : place.length ≤ t.depth := by
  have hfold : ∀ (places : List Place) (n : Nat), n ≤ places.foldl (fun n p => max n p.length) n
      ∧ ∀ p ∈ places, p.length ≤ places.foldl (fun n p => max n p.length) n := by
    intro places
    induction places with
    | nil => simp
    | cons p places ih =>
      intro n
      obtain ⟨hn, hall⟩ := ih (max n p.length)
      refine ⟨(le_max_left _ _).trans hn, List.forall_mem_cons.2 ⟨?_, hall⟩⟩
      exact (le_max_right _ _).trans hn
  exact (hfold _ 0).2 place h

/-- The names that end a place of the tree. -/
def lastNames (t : Tree) : List Text := t.entries.keys.filterMap List.getLast?

theorem length_lastNames_le (t : Tree) : t.lastNames.length ≤ t.entries.size := by
  refine (List.length_filterMap_le _ _).trans ?_
  simp [Catalog.keys, Catalog.size]

theorem mem_keys_of_get? {e : Entry} (hne : place ≠ []) (h : t.get? place = some e) :
    place ∈ t.entries.keys := by
  unfold get? at h
  rw [if_neg hne] at h
  exact Catalog.mem_keys_iff.2 ⟨e, h⟩

theorem mem_lastNames {name : Text} {e : Entry} (h : t.get? (place ++ [name]) = some e) :
    name ∈ t.lastNames :=
  List.mem_filterMap.2 ⟨_, mem_keys_of_get? (by simp) h, by simp⟩

/-- The names lead down from a place, one level each, to something that stands there. -/
structure Passed (t : Tree) (place : Place) (names : List Text) : Prop where
  there : ∀ name ∈ names, name ∈ t.lastNames
  deep : names = [] ∨ place.length + names.length ≤ t.depth

theorem Passed.nil (t : Tree) (place : Place) : t.Passed place [] := ⟨by simp, .inl rfl⟩

theorem Passed.cons {name : Text} {e : Entry} (h : t.get? (place ++ [name]) = some e)
    (hlater : t.Passed (place ++ [name]) names) : t.Passed place (name :: names) := by
  refine ⟨List.forall_mem_cons.2 ⟨mem_lastNames h, hlater.there⟩, .inr ?_⟩
  have hplace := length_le_depth (mem_keys_of_get? (by simp) h)
  rw [List.length_append, List.length_singleton] at hplace
  rcases hlater.deep with rfl | hdeep
  · simpa using hplace
  · rw [List.length_append, List.length_singleton] at hdeep
    rw [List.length_cons]
    omega

theorem Passed.length_le (h : t.Passed place names) : names.length ≤ t.depth := by
  rcases h.deep with rfl | hdeep
  · simp
  · omega

/-- A walk of names other than dots passes them one level down each, up to where it arrives or
meets a link. -/
theorem passed_of_advance (t : Tree) (followLast : Bool) : ∀ {names : List Text} (place : Place),
    (∀ s ∈ names, s ≠ ['.'] ∧ s ≠ ['.', '.']) →
      (∀ q, t.advance followLast place names = .arrived q → t.Passed place names)
        ∧ ∀ dir target rest, t.advance followLast place names = .link dir target rest →
          ∃ passed, names = passed ++ rest ∧ t.Passed place passed
  | [], place, _ => by simp [advance, Passed.nil]
  | name :: names, place, hnames => by
    obtain ⟨⟨hdot, hup⟩, hrest⟩ := List.forall_mem_cons.1 hnames
    rw [advance]
    split
    · rw [if_neg hdot, if_neg hup]
      split
      · simp
      · split
        · simp
        · rename_i target hlink
          split
          · rename_i hlast
            refine ⟨fun q _ => ?_, by simp⟩
            rw [hlast.1]
            exact .cons hlink (.nil t _)
          · refine ⟨by simp, fun dir target' rest h => ?_⟩
            cases h
            exact ⟨[name], rfl, .cons hlink (.nil t _)⟩
        · rename_i e _ hentry
          obtain ⟨harrived, hlink⟩ := passed_of_advance t followLast (place ++ [name]) hrest
          refine ⟨fun q h => .cons hentry (harrived q h), fun dir target rest h => ?_⟩
          obtain ⟨passed, rfl, hpassed⟩ := hlink dir target rest h
          exact ⟨name :: passed, rfl, .cons hentry hpassed⟩
    · simp

/-- The same for names that come after others. A link met before them leaves all of them to be
walked. -/
theorem passed_of_advance_append (t : Tree) (followLast : Bool)
    (hnames : ∀ s ∈ names, s ≠ ['.'] ∧ s ≠ ['.', '.']) : ∀ (before : List Text) (place : Place),
      (∀ q, t.advance followLast place (before ++ names) = .arrived q →
        ∃ place', t.Passed place' names)
      ∧ ∀ dir target rest, t.advance followLast place (before ++ names) = .link dir target rest →
        (∃ before', rest = before' ++ names)
          ∨ ∃ place' passed, names = passed ++ rest ∧ t.Passed place' passed
  | [], place => by
    obtain ⟨harrived, hlink⟩ := passed_of_advance t followLast place hnames
    refine ⟨fun q h => ⟨place, harrived q h⟩, fun dir target rest h => ?_⟩
    obtain ⟨passed, hpassed⟩ := hlink dir target rest h
    exact .inr ⟨place, passed, hpassed⟩
  | name :: before, place => by
    rw [List.cons_append, advance]
    split
    · split
      · exact passed_of_advance_append t followLast hnames before _
      · split
        · exact passed_of_advance_append t followLast hnames before _
        · split
          · simp
          · split
            · simp
            · split
              · rename_i hlast
                refine ⟨fun q _ => ⟨place, ?_⟩, by simp⟩
                rw [(List.append_eq_nil_iff.1 hlast.1).2]
                exact .nil t place
              · refine ⟨by simp, fun dir target rest h => ?_⟩
                cases h
                exact .inl ⟨before, rfl⟩
            · exact passed_of_advance_append t followLast hnames before _
    · simp

/-- A lookup that leads anywhere walks no name that does not stand in the tree, and no more names
than it can go down between so many links. -/
theorem names_of_follow : ∀ {links : Nat} {place : Place} {before names : List Text},
    (∀ s ∈ names, s ≠ ['.'] ∧ s ≠ ['.', '.']) →
      t.follow followLast links place (before ++ names) = .ok q →
        (∀ s ∈ names, s ∈ t.lastNames) ∧ names.length ≤ (links + 1) * (t.depth + 1)
  | links, place, before, names, hnames, h => by
    obtain ⟨harrived, hlink⟩ := passed_of_advance_append t followLast hnames before place
    rw [follow] at h
    rcases ha : t.advance followLast place (before ++ names) with q' | ⟨dir, target, rest⟩ | e
    · obtain ⟨place', hpassed⟩ := harrived q' ha
      refine ⟨hpassed.there, hpassed.length_le.trans ?_⟩
      rw [Nat.succ_mul]
      omega
    · rw [ha] at h
      cases links with
      | zero => cases h
      | succ links =>
        dsimp only at h
        rcases hlink dir target rest ha with ⟨before', rfl⟩ | ⟨place', passed, rfl, hpassed⟩
        · rw [← List.append_assoc] at h
          obtain ⟨hthere, hlength⟩ := names_of_follow hnames h
          refine ⟨hthere, hlength.trans ?_⟩
          rw [Nat.succ_mul (links + 1)]
          omega
        · have hrest : ∀ s ∈ rest, s ≠ ['.'] ∧ s ≠ ['.', '.'] :=
            fun s hs => hnames s (List.mem_append_right _ hs)
          obtain ⟨hthere, hlength⟩ := names_of_follow hrest h
          have hpassedLength := hpassed.length_le
          refine ⟨fun s hs => ?_, ?_⟩
          · exact (List.mem_append.1 hs).elim (hpassed.there s) (hthere s)
          · rw [List.length_append, Nat.succ_mul (links + 1)]
            omega
    · rw [ha] at h
      cases h

end Tree

/-! ## Paths with a file -/

/-- The sequences of at most so many members of an alphabet. -/
def sequences {α : Type} (alphabet : List α) : Nat → List (List α)
  | 0 => [[]]
  | n + 1 => [] :: alphabet.flatMap fun a => (sequences alphabet n).map (a :: ·)

theorem mem_sequences {α : Type} {alphabet : List α} : ∀ {n : Nat} {l : List α},
    (∀ a ∈ l, a ∈ alphabet) → l.length ≤ n → l ∈ sequences alphabet n
  | 0, [], _, _ => List.mem_singleton_self _
  | n + 1, [], _, _ => List.mem_cons_self
  | n + 1, a :: l, h, hlength => by
    obtain ⟨ha, hl⟩ := List.forall_mem_cons.1 h
    have ih := mem_sequences (n := n) hl (Nat.le_of_succ_le_succ hlength)
    refine List.mem_cons_of_mem _ (List.mem_flatMap.2 ⟨a, ha, ?_⟩)
    exact List.mem_map_of_mem ih

theorem length_sequences_le {α : Type} (alphabet : List α) : ∀ n : Nat,
    (sequences alphabet n).length ≤ (alphabet.length + 1) ^ n
  | 0 => by simp [sequences]
  | n + 1 => by
    have ih := length_sequences_le alphabet n
    have hlength : (sequences alphabet (n + 1)).length
        = 1 + alphabet.length * (sequences alphabet n).length := by
      simp [sequences, List.length_flatMap, Nat.add_comm]
    have hone : 1 ≤ (alphabet.length + 1) ^ n := Nat.one_le_pow _ _ (Nat.succ_pos _)
    calc (sequences alphabet (n + 1)).length
        = 1 + alphabet.length * (sequences alphabet n).length := hlength
      _ ≤ (alphabet.length + 1) ^ n + alphabet.length * (alphabet.length + 1) ^ n :=
          Nat.add_le_add hone (Nat.mul_le_mul_left _ ih)
      _ = (alphabet.length + 1) ^ (n + 1) := by
          rw [Nat.pow_succ, Nat.mul_add_one, Nat.mul_comm alphabet.length, Nat.add_comm]

namespace Path

/-- The names between the slashes of a normal path. -/
def names (p : Path) : List Text := if p = [] then [] else p.splitBy (· = '/')

variable {p q : Path}

theorem joinBy_names (p : Path) : Text.joinBy '/' p.names = p := by
  unfold names
  split
  · rename_i hp
    rw [hp]
    rfl
  · exact Text.joinBy_splitBy '/' p

theorem Normal.isName_of_mem_names (h : p.Normal) : ∀ s ∈ p.names, IsName s := by
  unfold names
  split
  · simp
  · rename_i hp
    exact (normal_iff_pieces hp).1 h

end Path

namespace Snapshot

variable {t : Tree} {root key : Path} {f : ProjectFile}

/-- A file is read at no path but one whose names stand in the tree, and not too many of them. -/
theorem names_of_load (hkey : key.Normal) (h : load t root key = .ok (some f)) :
    (∀ name ∈ key.names, name ∈ t.lastNames) ∧ key.names.length ≤ t.stepLimit := by
  obtain ⟨place, hplace, -⟩ := load_eq_some h
  by_cases hne : key = []
  · simp [hne, Path.names]
  · obtain ⟨before, hwalk⟩ := hkey.exists_walkNames hne root
    rw [Tree.locate_eq_follow hplace false, Tree.startOf_nil, hwalk] at hplace
    have hnames : key.names = key.splitBy (· = '/') := if_neg hne
    have hpieces := hkey.isName_of_mem_names
    rw [hnames] at hpieces ⊢
    exact Tree.names_of_follow
      (fun s hs => ⟨(hpieces s hs).not_current, (hpieces s hs).not_up⟩) hplace

/-- A file is answered at a path that is remembered or whose names stand in the tree. -/
theorem names_of_answers {s : Snapshot} {p : Path} (hkey : p.normalize = some key)
    (hf : s.answers t p = .ok (some f)) : key ∈ s.entries.keys
      ∨ (∀ name ∈ key.names, name ∈ t.lastNames) ∧ key.names.length ≤ t.stepLimit := by
  rcases hk : s.entries.find? key with _ | known
  · rw [answers_unknown hkey hk] at hf
    exact .inr (names_of_load (Path.normal_of_normalize hkey) hf)
  · exact .inl (Catalog.mem_keys_iff.2 ⟨known, hk⟩)

end Snapshot

namespace Import

open AppBundle.Path Reading

/-- A spelled path has a normal form, which it is but for a slash in front. -/
theorem Spelled.normalize {typescript : Bool} {c : Path} (h : Spelled typescript c) :
    ∃ key, c.normalize = some key ∧ (c = key ∨ c = '/' :: key) := by
  rcases h with h | h
  · exact ⟨c, h, .inl rfl⟩
  · obtain ⟨s, rfl, hs⟩ : ∃ s, c = '/' :: s ∧ IsName s := by
      rcases h with rfl | ⟨ext, hext, rfl⟩
      · exact ⟨_, rfl, isName_manifest⟩
      · exact ⟨"index.".toList ++ ext, rfl, isName_index hext⟩
    have hsegments : segments ('/' :: s) = [] :: [s] := by
      rw [← Text.splitBy_of_noSep hs.noSeparator]
      exact Text.splitBy_at_sep rfl s []
    have henter : enter [] ([] :: [s]) = some [s] :=
      enter_names [] (List.forall_mem_singleton.2 hs)
    refine ⟨s, ?_, .inr rfl⟩
    unfold Path.normalize
    rw [hsegments, henter]
    rfl

/-- What tells a spelled path: whether it has a slash in front, and the names of its normal form. -/
def mark (p : Path) : Bool × List Text := (p.head? = some '/', (p.normalize.getD []).names)

theorem mark_injective {typescript : Bool} {p q : Path} (hp : Spelled typescript p)
    (hq : Spelled typescript q) (h : mark p = mark q) : p = q := by
  obtain ⟨key, hkey, hp⟩ := hp.normalize
  obtain ⟨key', hkey', hq⟩ := hq.normalize
  obtain ⟨hslash, hnames⟩ := Prod.mk.inj h
  rw [hkey, hkey', Option.getD_some, Option.getD_some] at hnames
  obtain rfl : key = key' := by rw [← joinBy_names key, hnames, joinBy_names]
  have hhead := (normal_of_normalize hkey).head?_ne
  rcases hp with rfl | rfl
  · rcases hq with rfl | rfl
    · rfl
    · simp [hhead] at hslash
  · rcases hq with rfl | rfl
    · simp [hhead] at hslash
    · rfl

theorem mark_mem {p key : Path} {names : List (List Text)} (hkey : p.normalize = some key)
    (h : key.names ∈ names) : mark p ∈ [false, true] ×ˢ names := by
  have hslash : ∀ b : Bool, b ∈ [false, true] := by decide
  refine List.mem_product.2 ⟨hslash _, ?_⟩
  simpa [mark, hkey] using h

/-- The names of the normal paths at which a snapshot can answer with a file: of what it remembers,
and of what the tree can show. -/
def namesShown (s : Snapshot) (t : Tree) : List (List Text) :=
  s.entries.keys.map names ++ sequences t.lastNames t.stepLimit

theorem length_namesShown_le (s : Snapshot) (t : Tree) :
    2 * (namesShown s t).length ≤ s.visitLimit t := by
  have hshown : (sequences t.lastNames t.stepLimit).length ≤ (t.entries.size + 1) ^ t.stepLimit :=
    (length_sequences_le _ _).trans
      (Nat.pow_le_pow_left (Nat.succ_le_succ (Tree.length_lastNames_le t)) _)
  have hlength : (namesShown s t).length
      = s.size + (sequences t.lastNames t.stepLimit).length := by
    simp [namesShown, Catalog.keys, Snapshot.size, Catalog.size]
  have hlimit : s.visitLimit t = 2 * (t.entries.size + 1) ^ t.stepLimit + 2 * s.size := rfl
  omega

theorem mark_mem_namesShown {t : Tree} {s : Snapshot} {typescript : Bool} {p : Path}
    {f : ProjectFile} (hp : Spelled typescript p) (hf : s.answers t p = .ok (some f)) :
    mark p ∈ [false, true] ×ˢ namesShown s t := by
  obtain ⟨key, hkey, -⟩ := hp.normalize
  refine mark_mem hkey (List.mem_append.2 ?_)
  rcases Snapshot.names_of_answers hkey hf with hknown | ⟨hthere, hlength⟩
  · exact .inl (List.mem_map_of_mem hknown)
  · exact .inr (mem_sequences hthere hlength)

theorem visitLimit_new (t : Tree) (root : Path) :
    (Snapshot.new root).visitLimit t = t.visitLimit := by
  have hsize : (Snapshot.new root).size = 0 := rfl
  rw [Snapshot.visitLimit, hsize, Nat.mul_zero, Nat.add_zero]

/-- Paths with a file, each once, are not more than a walk may meet. -/
theorem length_le_visitLimit {t : Tree} {s : Snapshot} {typescript : Bool} {ps : List Path}
    (hnodup : ps.Nodup) (hspelled : ∀ p ∈ ps, Spelled typescript p)
    (hthere : ∀ p ∈ ps, ∃ f, s.answers t p = .ok (some f)) : ps.length ≤ s.visitLimit t := by
  have hmarks : (ps.map mark).Nodup :=
    hnodup.map_on fun p hp q hq => mark_injective (hspelled p hp) (hspelled q hq)
  have hsubset : ps.map mark ⊆ [false, true] ×ˢ namesShown s t := by
    intro m hm
    obtain ⟨p, hp, rfl⟩ := List.mem_map.1 hm
    obtain ⟨f, hf⟩ := hthere p hp
    exact mark_mem_namesShown (hspelled p hp) hf
  have hle := (List.subperm_of_subset hmarks hsubset).length_le
  rw [List.length_map, List.length_product] at hle
  exact hle.trans (length_namesShown_le s t)

namespace Walk

variable {source : Path → Answer} {options : ScanOptions}

/-- What was met is in a walk once, and waits or was visited. -/
structure Counted (n : Nat) (w : Walk) : Prop where
  nodup : w.seen.Nodup
  length : n + w.queue.length = w.seen.length

theorem counted_enqueue {n : Nat} : ∀ {files : List (Path × ProjectFile)} {w : Walk},
    Counted n w → Counted n (w.enqueue files)
  | [], w, h => h
  | (p, f) :: files, w, h => by
    unfold enqueue
    split
    · exact counted_enqueue h
    · rename_i hnew
      refine counted_enqueue ⟨List.nodup_cons.2 ⟨?_, h.nodup⟩, ?_⟩
      · exact fun hp => hnew (List.contains_iff_mem.2 hp)
      · have hlength := h.length
        simp
        omega

theorem Counted.start (entry : Path) (file : ProjectFile) :
    Counted 0 (startOf entry file) := counted_enqueue ⟨by simp, rfl⟩

theorem Counted.visits {n m : Nat} {w w' : Walk} (h : Counted m w)
    (hvisits : Visits source options n w w') : Counted (m + n) w' := by
  induction hvisits generalizing m with
  | refl w => exact h
  | @visit n w w' p f queue finds hqueue _ _ ih =>
    have hlength := h.length
    rw [hqueue, List.length_cons] at hlength
    have hafter : Counted (m + 1) (w.after options p f queue finds) :=
      counted_enqueue ⟨h.nodup, by simpa [Nat.add_assoc, Nat.add_comm 1] using hlength⟩
    have ih := ih hafter
    rwa [Nat.add_assoc, Nat.add_comm 1] at ih

/-- A walk that is given up has made as many visits as it may, with something still queued. -/
theorem visits_of_givenUp : ∀ {limit : Nat} {w : Walk},
    Yields source (run options limit w) none →
      ∃ w', Visits source options limit w w' ∧ w'.queue ≠ []
  | limit, w, h => by
    rcases hq : w.queue with _ | ⟨⟨p, f⟩, queue⟩
    · rw [run_nil hq] at h
      cases yields_pure.1 h
    · cases limit with
      | zero => exact ⟨w, .refl w, by simp [hq]⟩
      | succ limit =>
        rw [run_succ hq] at h
        obtain ⟨finds, hvisit, h⟩ := yields_bind.1 h
        obtain ⟨w', hvisits, hqueue⟩ := visits_of_givenUp h
        exact ⟨w', .visit hq hvisit hvisits, hqueue⟩

variable {t : Tree} {s : Snapshot} {entry : Path} {file : ProjectFile}

/-- What a walk has met is spelled normally, or as a file of the project root, and is there. -/
theorem Invariant.met {w : Walk} (hinv : Invariant source options entry w) (hentry : entry.Normal)
    (hfile : source entry = .ok (some file)) : ∀ p ∈ w.seen,
      Spelled options.typescript p ∧ ∃ f, source p = .ok (some f) := by
  intro p hp
  cases hinv.reached p hp with
  | refl => exact ⟨.inl hentry, file, hfile⟩
  | tail _ hlead =>
    obtain ⟨_, -, g, hfinding⟩ := hlead
    exact ⟨hfinding.spelled, g, hfinding.available.2⟩

/-- What a walk has met, and so what it has visited and what waits, is not more than it may
visit. -/
theorem length_seen_le {n : Nat} {w : Walk} (hentry : entry.Normal)
    (hfile : s.answers t entry = .ok (some file))
    (hvisits : Visits (s.answers t) options n (startOf entry file) w) :
    n + w.queue.length = w.seen.length ∧ w.seen.length ≤ s.visitLimit t := by
  have hmet := ((Invariant.start hfile).visits hvisits).met hentry hfile
  have hcounted := (Counted.start entry file).visits hvisits
  rw [Nat.zero_add] at hcounted
  exact ⟨hcounted.length, length_le_visitLimit hcounted.nodup (fun p hp => (hmet p hp).1)
    fun p hp => (hmet p hp).2⟩

/-- A walk is not given up if it may visit as many files as the snapshot can show it. -/
theorem not_givenUp {limit : Nat} (hentry : entry.Normal)
    (hfile : s.answers t entry = .ok (some file)) (hlimit : s.visitLimit t ≤ limit) :
    ¬ Yields (s.answers t) (run options limit (startOf entry file)) none := by
  intro h
  obtain ⟨w, hvisits, hqueue⟩ := visits_of_givenUp h
  obtain ⟨hlength, hseen⟩ := length_seen_le hentry hfile hvisits
  have hpos := List.length_pos_iff.2 hqueue
  omega

end Walk

end Import

end AppBundle
