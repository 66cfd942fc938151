import AppBundle.Proofs.Contained

/-!
# Joined paths

Each segment of a path enters a directory, leaves one or stays, so after some segments the depth is
known by counting them (`Path.step_balance`). A path therefore has a normal form unless, at some
point on the way, more segments have gone up than have entered a directory
(`Path.enter_eq_none_iff`).

What a normal form keeps of a path is all that matters for what is read from there. So it makes no
difference where a path is cut, and joining is associative (`Path.normalize_laws`).

Without a backslash a path has the same normal form for the file system, whether it is read alone or
found below a directory (`Path.readings_agree`).
-/

namespace AppBundle

namespace Path

variable {p q : Path} {entered next : List Text} {s : Text}

/-! ## Paths that climb above the root -/

/-- The segment enters a directory. -/
def isProper (s : Text) : Bool := s ≠ [] ∧ s ≠ ['.'] ∧ s ≠ ['.', '.']

/-- From some depth the segments lead above the root: at some point more of them have gone up than
the depth and the directories entered allow for. -/
def ClimbsOut (depth : Nat) (segments : List Text) : Prop :=
  ∃ before, before <+: segments ∧ depth + before.countP isProper < before.count ['.', '.']

theorem climbsOut_cons {depth : Nat} {rest : List Text} : ClimbsOut depth (s :: rest)
    ↔ ∃ before, before <+: rest
      ∧ depth + (s :: before).countP isProper < (s :: before).count ['.', '.'] := by
  constructor
  · rintro ⟨before, hbefore, hcount⟩
    rcases List.prefix_cons_iff.1 hbefore with rfl | ⟨later, rfl, hlater⟩
    · simp at hcount
    · exact ⟨later, hlater, hcount⟩
  · rintro ⟨before, hbefore, hcount⟩
    exact ⟨s :: before, List.prefix_cons_iff.2 (.inr ⟨before, rfl, hbefore⟩), hcount⟩

/-- A segment that goes up takes one off the depth, and one that enters a directory adds one. -/
theorem step_balance (h : step entered s = some next) :
    next.length + [s].count ['.', '.'] = entered.length + [s].countP isProper := by
  unfold step at h
  split at h
  · rename_i hstay
    cases h
    rcases hstay with rfl | rfl <;> rfl
  · rename_i hstay
    rw [not_or] at hstay
    split at h
    · rename_i hup
      subst hup
      cases entered with
      | nil => cases h
      | cons inner outer =>
        cases h
        rfl
    · rename_i hup
      cases h
      simp [isProper, hstay, hup]

/-- Segments cannot be entered exactly if they climb out. -/
theorem enter_eq_none_iff : ∀ (segments entered : List Text),
    enter entered segments = none ↔ ClimbsOut entered.length segments
  | [], entered => by simp [enter, ClimbsOut]
  | s :: rest, entered => by
    rw [climbsOut_cons, enter]
    rcases hstep : step entered s with _ | next
    · obtain ⟨rfl, rfl⟩ := Tree.step_eq_none hstep
      exact iff_of_true rfl ⟨[], List.nil_prefix, by decide⟩
    · rw [Option.bind_some, enter_eq_none_iff rest next]
      refine exists_congr fun before => and_congr_right fun _ => ?_
      have hbalance := step_balance hstep
      have hups : (s :: before).count ['.', '.']
          = [s].count ['.', '.'] + before.count ['.', '.'] := by
        rw [← List.count_append, List.singleton_append]
      have hproper : (s :: before).countP isProper
          = [s].countP isProper + before.countP isProper := by
        rw [← List.countP_append, List.singleton_append]
      omega

theorem normalize_eq_none_iff (p : Path) : p.normalize = none ↔ ClimbsOut 0 p.segments := by
  rw [normalize, Option.map_eq_none_iff, enter_eq_none_iff]
  rfl

/-! ## Normal forms -/

theorem Normal.getLast?_ne (h : p.Normal) : p.getLast? ≠ some '/' := by
  by_cases hp : p = []
  · simp [hp]
  · intro hlast
    have hends := h.not_endsWith_slash hp []
    rw [List.nil_append, ← Bool.not_eq_true, Text.endsWith, List.isSuffixOf_iff_suffix,
      List.singleton_suffix_iff_getLast?_eq_some] at hends
    exact hends hlast

theorem Normal.noBackslash (h : p.Normal) : '\\' ∉ p := by
  obtain ⟨names, hnames, rfl⟩ := normal_iff.1 h
  exact noBackslash_joinBy hnames

/-- What was entered is read from its path again. -/
theorem normalize_ofEntered_append (hentered : ∀ s ∈ entered, IsName s) (q : Path) :
    join (ofEntered entered) q = (enter entered (segments q)).map ofEntered := by
  have hnames : ∀ s ∈ entered.reverse, IsName s := fun s hs => hentered s (List.mem_reverse.1 hs)
  unfold join
  split
  · rename_i hnil
    rcases entered.eq_nil_or_concat with rfl | ⟨outer, inner, rfl⟩
    · rfl
    · refine absurd hnil (joinBy_ne_nil (by simp) fun s hs => (hnames s hs).not_nil)
  · rename_i hne
    have hentered_ne : entered.reverse ≠ [] := by
      intro hnil
      rw [ofEntered, hnil] at hne
      exact hne rfl
    rw [normalize, segments_slash, enter_append, ofEntered, enter_joinBy [] hentered_ne hnames,
      Option.bind_some, List.reverse_reverse, List.append_nil]

/-- A path is read up to a slash first, and what follows from there. -/
theorem normalize_slash (p q : Path) :
    normalize (p ++ '/' :: q) = p.normalize.bind fun n => n.join q := by
  rw [normalize, segments_slash, enter_append, normalize]
  rcases hentered : enter [] (segments p) with _ | entered
  · rfl
  · rw [Option.bind_some, Option.map_some, Option.bind_some, normalize_ofEntered_append]
    exact enter_isName hentered (fun s hs => Text.splitBy_noSep hs) (by simp)

theorem join_slash (p q r : Path) : p.join (q ++ '/' :: r) = (p.join q).bind fun n => n.join r := by
  unfold join
  split
  · exact normalize_slash q r
  · rw [← List.cons_append, ← List.append_assoc]
    exact normalize_slash _ r

/-- A path has no normal form exactly if some of its first segments go up more often than they enter
a directory. A normal form is made of names between slashes, and it is its own. A path can be cut at
any slash, and so joining is associative. -/
theorem normalize_laws (p q r : Path) :
    (p.normalize = none ↔ ∃ before, before <+: p.segments
        ∧ before.countP isProper < before.count ['.', '.'])
    ∧ (∀ n, p.normalize = some n →
        (∀ s ∈ n.names, s ≠ [] ∧ s ≠ ['.'] ∧ s ≠ ['.', '.']) ∧ '\\' ∉ n
          ∧ n.head? ≠ some '/' ∧ n.getLast? ≠ some '/' ∧ n.normalize = some n)
    ∧ normalize (p ++ '/' :: q) = (p.normalize.bind fun n => n.join q)
    ∧ ((p.join q).bind fun n => n.join r) = p.join (q ++ '/' :: r) := by
  refine ⟨?_, fun n hn => ?_, normalize_slash p q, (join_slash p q r).symm⟩
  · rw [normalize_eq_none_iff]
    simp only [ClimbsOut, Nat.zero_add]
  · have hnormal := normal_of_normalize hn
    have hnames := hnormal.isName_of_mem_names
    exact ⟨fun s hs => ⟨(hnames s hs).not_nil, (hnames s hs).not_current, (hnames s hs).not_up⟩,
      hnormal.noBackslash, hnormal.head?_ne, hnormal.getLast?_ne, hnormal⟩

theorem normalize_laws_roundabout :
    normalize "./a\\..//b/".toList = some "b".toList
      ∧ (∀ s ∈ names "b".toList, s ≠ [] ∧ s ≠ ['.'] ∧ s ≠ ['.', '.'])
      ∧ normalize ("./a\\..//b/".toList ++ '/' :: "../../c".toList) = none := by
  have hp : normalize "./a\\..//b/".toList = some "b".toList := by decide
  obtain ⟨-, hnormal, hcut, -⟩ := normalize_laws "./a\\..//b/".toList "../../c".toList []
  obtain ⟨hnames, -⟩ := hnormal _ hp
  rw [hp] at hcut
  exact ⟨hp, hnames, hcut.trans (by decide)⟩

end Path

namespace Snapshot

variable {t : Tree} {s : Snapshot} {p : Path}

/-- Whatever is answered about a path is filed under its normal form. -/
theorem filed_of_read {found : Option ProjectFile} (h : (s.read t p).1 = .ok found) :
    ∃ key, p.normalize = some key ∧ (s.read t p).2.entries.find? key = some found := by
  rcases hp : p.normalize with _ | key
  · rw [read_outside hp] at h
    cases h
  refine ⟨key, rfl, ?_⟩
  rcases hk : s.entries.find? key with _ | known
  · rcases hl : load t s.root key with e | loaded
    · rw [read_failed hp hk hl] at h
      cases h
    · rw [read_loaded hp hk hl] at h ⊢
      cases h
      rw [Catalog.find?_insert, if_pos rfl]
  · rw [read_known hp hk] at h ⊢
    cases h
    exact hk

/-- A path is refused as one outside the project exactly if it has no normal form. -/
theorem read_outside_iff : (s.read t p).1 = .error (.outsideRoot p) ↔ p.normalize = none := by
  rcases hp : p.normalize with _ | key
  · rw [read_outside hp]
    exact iff_of_true rfl rfl
  refine iff_of_false ?_ (by simp)
  rcases hk : s.entries.find? key with _ | known
  · rcases hl : load t s.root key with e | loaded
    · rw [read_failed hp hk hl, load_eq_error hl]
      simp
    · rw [read_loaded hp hk hl]
      simp
  · rw [read_known hp hk]
    simp

end Snapshot

namespace Path

variable {p : Path}

/-- Without a backslash a path is the same path of the project to the file system as to a snapshot,
or none to both. So is a relative path that was read from the project directory and is found below
it again: a snapshot files what it answers about the path under just that path, and takes it for one
outside the project exactly if it is not found below. -/
theorem readings_agree (hback : '\\' ∉ p) :
    p.ofComponents = p.normalize
      ∧ (p.head? ≠ some '/' → ∀ (s : Snapshot) (t : Tree),
        relativeTo? s.root (s.root.resolveFrom p) = p.normalize
          ∧ ((s.read t p).1 = .error (.outsideRoot p)
            ↔ relativeTo? s.root (s.root.resolveFrom p) = none)
          ∧ ∀ found, (s.read t p).1 = .ok found →
            ∃ key, relativeTo? s.root (s.root.resolveFrom p) = some key
              ∧ (s.read t p).2.entries.find? key = some found) := by
  refine ⟨ofComponents_of_noBackslash hback, fun hhead s t => ?_⟩
  rw [relativeTo?_resolveFrom s.root hhead hback]
  exact ⟨rfl, Snapshot.read_outside_iff, fun found => Snapshot.filed_of_read⟩

theorem readings_agree_roundabout :
    '\\' ∉ "./lib//x/../y.js/".toList
      ∧ ofComponents "./lib//x/../y.js/".toList = some "lib/y.js".toList
      ∧ relativeTo? "/p".toList "/p/./lib//x/../y.js/".toList = some "lib/y.js".toList := by
  have hback : '\\' ∉ "./lib//x/../y.js/".toList := by decide
  have hnormal : normalize "./lib//x/../y.js/".toList = some "lib/y.js".toList := by decide
  obtain ⟨halone, hbelow⟩ := readings_agree hback
  obtain ⟨hfound, -⟩ := hbelow (by decide) (Snapshot.new "/p".toList) Tree.empty
  exact ⟨hback, halone.trans hnormal, hfound.trans hnormal⟩

end Path

end AppBundle
