import AppBundle.Proofs.Bounded
import AppBundle.Proofs.Located

/-!
# Projects without links

A path below a project directory is looked up by the names of the directory first and then by its
own (`Tree.Ends.append`). Where no link stands below the directory, its own names lead straight
down, whether or not a link as the last name were followed (`Tree.exists_locate_below`). So a read
there fails in no other way than that the path cannot be opened at all or has a name too long for
the directory that it would stand in (`Snapshot.load_eq_error_iff`).
-/

namespace AppBundle

open AppBundle.Path

namespace Tree

variable {t : Tree} {followLast : Bool} {place q : Place} {names rest : List Text}

/-! ## Walks one after the other -/

/-- A walk goes on with more names from where it would arrive, or after the link that it would
meet. -/
theorem advance_append (followLast : Bool) (hrest : rest ≠ []) :
    ∀ (names : List Text) (place : Place), (∀ q, t.advance true place names = .arrived q →
      t.advance followLast place (names ++ rest) = t.advance followLast q rest)
    ∧ ∀ dir target later, t.advance true place names = .link dir target later →
      t.advance followLast place (names ++ rest) = .link dir target (later ++ rest)
  | [], place => by simp [advance]
  | name :: names, place => by
    rw [List.cons_append, advance, advance]
    split
    · split
      · exact advance_append followLast hrest names place
      · split
        · exact advance_append followLast hrest names place.dropLast
        · split
          · simp
          · split
            · simp
            · simp [hrest]
            · exact advance_append followLast hrest names (place ++ [name])
    · simp

theorem Ends.append (hrest : rest ≠ []) {n m : Nat} {r : Except LookupError Place}
    (h : Ends t true n place names (.ok q)) (hlater : Ends t followLast m q rest r) :
    Ends t followLast (n + m) place (names ++ rest) r := by
  generalize hok : Except.ok q = found at h
  induction h with
  | arrived h =>
    cases hok
    obtain ⟨harrived, -⟩ := advance_append followLast hrest _ _
    rw [Nat.zero_add]
    exact hlater.congr (harrived _ h).symm
  | failed h => cases hok
  | @link n place dir names later target r' h _ ih =>
    obtain ⟨-, hlink⟩ := advance_append followLast hrest names place
    rw [Nat.succ_add]
    refine .link (hlink _ _ _ h) ?_
    rw [← List.append_assoc]
    exact ih hok

/-- A walk that follows its last name goes on with any names, also with none. -/
theorem Ends.append_through {n k : Nat} {rest : List Text} {r : Except LookupError Place}
    (h : Ends t true n place names (.ok q)) (hlater : Ends t true k q rest r) :
    Ends t true (n + k) place (names ++ rest) r := by
  by_cases hrest : rest = []
  · subst hrest
    obtain ⟨rfl, rfl⟩ := hlater.unique (.arrived rfl)
    rwa [List.append_nil]
  · exact h.append hrest hlater

/-- A dot at the end of the names that lead to a place can be left out. -/
theorem Ends.drop_last_dot {before : List Text} (h : Ends t true n place names (.ok q))
    (hbefore : names = before ∨ names = before ++ [['.']]) :
    Ends t true n place before (.ok q) := by
  rcases hbefore with rfl | rfl
  · exact h
  · have hdropped := h.drop_dot
    rwa [List.append_nil] at hdropped

/-- What a path leads to is told by its steps. -/
theorem ends_of_steps {p : Path} (h : t.locate true [] p = .ok q) :
    ∃ n, Ends t true n [] (steps p) (.ok q) := by
  obtain ⟨n, -, hends⟩ := ends_of_locate h
  rw [startOf_nil] at hends
  have hdropped : Ends t true n [] ([] ++ undotted (walkNames p)) (.ok q) := Ends.drop_dots hends
  rw [undotted_walkNames] at hdropped
  exact ⟨n, hdropped⟩

/-! ## On paper -/

/-- Where names lead from a place on paper: a dot stays, two dots go up, and any other name goes
down. -/
def led : Place → List Text → Place
  | place, [] => place
  | place, name :: rest =>
    led (if name = ['.'] then place else if name = ['.', '.'] then place.dropLast
      else place ++ [name]) rest

/-- A walk that arrives has met no link before its last name, and so it is where its names lead on
paper. -/
theorem led_of_advance : ∀ {names : List Text} {place : Place},
    t.advance followLast place names = .arrived q → q = led place names
  | [], place, h => by
    cases h
    rfl
  | name :: rest, place, h => by
    rw [advance] at h
    rw [led]
    split at h
    · split at h
      · rename_i hdot
        rw [if_pos hdot]
        exact led_of_advance h
      rename_i hdot
      split at h
      · rename_i hup
        rw [if_neg hdot, if_pos hup]
        exact led_of_advance h
      rename_i hup
      rw [if_neg hdot, if_neg hup]
      split at h
      · cases h
      · split at h
        · cases h
        · split at h
          · rename_i hlast
            obtain ⟨rfl, -⟩ := hlast
            cases h
            rfl
          · cases h
        · exact led_of_advance h
    · cases h

/-- As long as names do not leave a place they lead to what they enter below it. -/
theorem led_of_enter (place : Place) : ∀ {names entered final : List Text},
    (∀ s ∈ names, s ≠ []) → enter entered names = some final →
      led (place ++ entered.reverse) names = place ++ final.reverse
  | [], entered, final, _, h => by
    cases h
    rfl
  | name :: rest, entered, final, hne, h => by
    obtain ⟨hname, hrest⟩ := List.forall_mem_cons.1 hne
    obtain ⟨next, hstep, hlater⟩ := Option.bind_eq_some_iff.1 h
    unfold step at hstep
    rw [led]
    by_cases hdot : name = ['.']
    · rw [if_pos (.inr hdot)] at hstep
      cases hstep
      rw [if_pos hdot]
      exact led_of_enter place hrest hlater
    rw [if_neg (by simp [hname, hdot])] at hstep
    rw [if_neg hdot]
    by_cases hup : name = ['.', '.']
    · rw [if_pos hup] at hstep
      rw [if_pos hup]
      cases entered with
      -- nothing was entered below the place: the names would leave it
      | nil => cases hstep
      | cons inner outer =>
        cases hstep
        rw [List.reverse_cons, ← List.append_assoc, List.dropLast_concat]
        exact led_of_enter place hrest hlater
    · rw [if_neg hup] at hstep
      cases hstep
      rw [if_neg hup, List.append_assoc, ← List.reverse_cons]
      exact led_of_enter place hrest hlater

/-! ## Straight down -/

/-- One of some names that lead down from a place is too long, and the directory that it would
stand in is there. -/
def TooLong (t : Tree) : Place → List Text → Prop
  | _, [] => False
  | place, name :: rest =>
    t.get? place = some .dir ∧ (nameLimit < name.bytes.length ∨ t.TooLong (place ++ [name]) rest)

theorem TooLong.dir (h : t.TooLong place names) : t.get? place = some .dir := by
  cases names with
  | nil => exact h.elim
  | cons name rest => exact h.1

/-- No link stands at a place or below it. -/
def Linkless (t : Tree) (place : Place) : Prop :=
  ∀ names target, t.get? (place ++ names) ≠ some (.link target)

theorem Linkless.child (h : t.Linkless place) (name : Text) : t.Linkless (place ++ [name]) := by
  intro names target
  rw [List.append_assoc]
  exact h _ target

theorem linkless_empty (place : Place) : empty.Linkless place := by
  intro names target
  unfold empty get?
  split <;> simp

theorem Linkless.put (h : t.Linkless place) {e : Entry} (he : ∀ target, e ≠ .link target)
    (q : Place) : (t.put q e).Linkless place := by
  intro names target
  by_cases hq : q = []
  · rw [Tree.put, if_pos hq]
    exact h names target
  · rw [get?_put t _ e hq]
    split
    · simpa using he target
    · exact h names target

/-- Without links a walk of names other than dots arrives below, or it fails; and it fails for
another reason than that nothing is there exactly where a name is too long. -/
theorem exists_ends_below : ∀ {names : List Text} {place : Place}, t.Linkless place →
    (∀ s ∈ names, s ≠ ['.'] ∧ s ≠ ['.', '.']) →
      ∃ r, (∀ followLast, Ends t followLast 0 place names r)
        ∧ (∀ q, r = .ok q → q = place ++ names)
        ∧ ((∃ e, r = .error e ∧ e.isAbsence = false) ↔ t.TooLong place names)
  | [], place, _, _ =>
    ⟨.ok place, fun _ => .arrived rfl, by simp, by simp [TooLong]⟩
  | name :: names, place, hlinks, hnames => by
    obtain ⟨⟨hdot, hup⟩, hrest⟩ := List.forall_mem_cons.1 hnames
    by_cases hdir : t.get? place = some .dir
    · by_cases hlong : nameLimit < name.bytes.length
      · have hfailed : ∀ fl, t.advance fl place (name :: names) = .failed .nameTooLong := by
          intro fl
          simp [advance, hdir, hdot, hup, hlong]
        exact ⟨.error .nameTooLong, fun fl => .failed (hfailed fl), by simp,
          iff_of_true ⟨_, rfl, rfl⟩ ⟨hdir, .inl hlong⟩⟩
      · rcases hchild : t.get? (place ++ [name]) with _ | e
        · have hfailed : ∀ fl, t.advance fl place (name :: names) = .failed .missing := by
            intro fl
            simp [advance, hdir, hdot, hup, hlong, hchild]
          refine ⟨.error .missing, fun fl => .failed (hfailed fl), by simp,
            iff_of_false (by simp [LookupError.isAbsence]) ?_⟩
          rintro ⟨-, h | h⟩
          · exact hlong h
          · exact absurd h.dir (by simp [hchild])
        · have hpassed : ∀ fl, t.advance fl (place ++ [name]) names
              = t.advance fl place (name :: names) := by
            intro fl
            cases e with
            | link target => exact absurd hchild (hlinks [name] target)
            | dir => simp [advance, hdir, hdot, hup, hlong, hchild]
            | file content permissions => simp [advance, hdir, hdot, hup, hlong, hchild]
          obtain ⟨r, hends, hok, herror⟩ := exists_ends_below (hlinks.child name) hrest
          refine ⟨r, fun fl => (hends fl).congr (hpassed fl), fun q hq => ?_, ?_⟩
          · rw [hok q hq, List.append_assoc, List.singleton_append]
          · rw [herror, TooLong, and_iff_right hdir, or_iff_right hlong]
    · have hfailed : ∀ fl, t.advance fl place (name :: names) = .failed .notDirectory := by
        intro fl
        rw [advance]
        split
        · rename_i h
          exact absurd h hdir
        · rfl
      refine ⟨.error .notDirectory, fun fl => .failed (hfailed fl), by simp,
        iff_of_false (by simp [LookupError.isAbsence]) ?_⟩
      rintro ⟨h, -⟩
      exact hdir h

theorem exists_ends_dot (t : Tree) (place : Place) :
    ∃ r, (∀ followLast, Ends t followLast 0 place [['.']] r)
      ∧ (∀ q, r = .ok q → q = place) ∧ ∀ e, r = .error e → e.isAbsence = true := by
  by_cases hdir : t.get? place = some .dir
  · exact ⟨.ok place, fun fl => .arrived (by simp [advance, hdir]), by simp, by simp⟩
  · have hfailed : ∀ fl, t.advance fl place [['.']] = .failed .notDirectory := by
      intro fl
      rw [advance]
      split
      · rename_i h
        exact absurd h hdir
      · rfl
    exact ⟨.error .notDirectory, fun fl => .failed (hfailed fl), by simp,
      by simp [LookupError.isAbsence]⟩

/-! ## Paths below a directory -/

variable {root key : Path}

/-- The names by which a path leads on from a directory; the directory itself is asked for by a
dot. -/
def onward (key : Path) : List Text := if key = [] then [['.']] else key.names

theorem onward_ne_nil (key : Path) : onward key ≠ [] := by
  unfold onward Path.names
  split
  · simp
  · exact Text.splitBy_ne_nil _ _

/-- A path read from a directory walks the names of the directory, a dot at their end apart, and
then its own. -/
theorem walkNames_resolveFrom (hkey : key.Normal) (hroot : root ≠ []) :
    ∃ before, (walkNames root = before ∨ walkNames root = before ++ [['.']])
      ∧ walkNames (root.resolveFrom key) = before ++ onward key := by
  have honward : ∀ d : Path, (key.splitBy (· = '/')).filter (· ≠ [])
      ++ (if Text.endsWith (d ++ '/' :: key) ['/'] then [['.']] else []) = onward key := by
    intro d
    by_cases hne : key = []
    · subst hne
      have hends : Text.endsWith (d ++ ['/']) ['/'] = true :=
        List.isSuffixOf_iff_suffix.2 (List.suffix_append d ['/'])
      simp [onward, Text.splitBy, hends]
    · have hends := hkey.not_endsWith_slash hne (d ++ ['/'])
      rw [List.append_assoc, List.singleton_append] at hends
      have hnames : (key.splitBy (· = '/')).filter (· ≠ []) = key.splitBy (· = '/') :=
        List.filter_eq_self.2 fun s hs => by simp [((normal_iff_pieces hne).1 hkey s hs).not_nil]
      rw [hends, hnames, onward, if_neg hne, Path.names, if_neg hne]
      simp
  rcases resolveFrom_eq root hkey.head?_ne with ⟨rfl, -⟩ | ⟨d, hd, hresolve⟩
  · exact absurd rfl hroot
  · refine ⟨(d.splitBy (· = '/')).filter (· ≠ []), ?_, ?_⟩
    · rcases hd with ⟨rfl, -⟩ | rfl
      · unfold walkNames
        split <;> simp
      · have hends : Text.endsWith (d ++ ['/']) ['/'] = true :=
          List.isSuffixOf_iff_suffix.2 (List.suffix_append d ['/'])
        unfold walkNames
        rw [hends, Text.splitBy_at_sep (by simp), List.filter_append]
        simp [Text.splitBy]
    · unfold walkNames
      rw [hresolve, Text.splitBy_at_sep (by simp), List.filter_append, List.append_assoc, honward]

/-- A path that leads somewhere is one that the system opens at all. -/
theorem openable_of_locate {p : Path} {cwd : Place} (h : t.locate followLast cwd p = .ok q) :
    p ≠ [] ∧ '\x00' ∉ p ∧ p.bytes.length ≤ pathLimit := by
  unfold locate at h
  split at h
  · cases h
  · rename_i hempty
    split at h
    · cases h
    · rename_i hnul
      split at h
      · cases h
      · rename_i hlong
        exact ⟨hempty, hnul, Nat.not_lt.1 hlong⟩

/-- A path below a directory without links, if it can be opened at all, leads straight down from
there. -/
theorem exists_locate_below (hplace : t.locate true [] root = .ok place) (hlinks : t.Linkless place)
    (hkey : key.Normal) (hnul : '\x00' ∉ root.resolveFrom key)
    (hshort : (root.resolveFrom key).bytes.length ≤ pathLimit) :
    ∃ r, (∀ followLast, t.locate followLast [] (root.resolveFrom key) = r)
      ∧ (∀ q, r = .ok q → ∀ target, t.get? q ≠ some (.link target))
      ∧ ((∃ e, r = .error e ∧ e.isAbsence = false) ↔ t.TooLong place key.names) := by
  have hroot := (openable_of_locate hplace).1
  obtain ⟨before, hbefore, hwalk⟩ := walkNames_resolveFrom hkey hroot
  obtain ⟨n, hn, hends⟩ := ends_of_locate hplace
  rw [startOf_nil] at hends
  have hdir : Ends t true n [] before (.ok place) := hends.drop_last_dot hbefore
  have hlocate : ∀ r, (∀ fl, Ends t fl 0 place (onward key) r) →
      ∀ fl, t.locate fl [] (root.resolveFrom key) = r := by
    intro r hr fl
    have hne : root.resolveFrom key ≠ [] := by
      rw [resolveFrom_relative root hkey.head?_ne]
      split
      · simp [hroot]
      · simp
    unfold locate
    rw [if_neg hne, if_neg hnul, if_neg (Nat.not_lt.2 hshort), startOf_nil, hwalk]
    exact follow_of_ends (hdir.append (onward_ne_nil key) (hr fl)) hn
  by_cases hnil : key = []
  · obtain ⟨r, hr, hok, herror⟩ := exists_ends_dot t place
    have honward : onward key = [['.']] := if_pos hnil
    refine ⟨r, hlocate r (honward ▸ hr), fun q hq target => ?_, iff_of_false ?_ ?_⟩
    · rw [hok q hq, ← List.append_nil place]
      exact hlinks [] target
    · rintro ⟨e, he, hfatal⟩
      simp [herror e he] at hfatal
    · rw [Path.names, if_pos hnil]
      exact id
  · have honward : onward key = key.names := if_neg hnil
    have hnames := hkey.isName_of_mem_names
    obtain ⟨r, hr, hok, herror⟩ := exists_ends_below hlinks
      fun s hs => ⟨(hnames s hs).not_current, (hnames s hs).not_up⟩
    refine ⟨r, hlocate r (honward ▸ hr), fun q hq target => ?_, herror⟩
    rw [hok q hq]
    exact hlinks _ target

end Tree

namespace Snapshot

variable {t : Tree} {root key : Path} {place : Place}

/-- The system refuses to look the path up: it cannot be opened at all, or one of its names is too
long for the directory that it would stand in. -/
def Refused (t : Tree) (root : Path) (place : Place) (key : Path) : Prop :=
  '\x00' ∈ root.resolveFrom key ∨ Tree.pathLimit < (root.resolveFrom key).bytes.length
    ∨ t.TooLong place key.names

theorem fatal_locate_iff (hplace : t.locate true [] root = .ok place) (hlinks : t.Linkless place)
    (hkey : key.Normal) :
    (∃ e, t.locate false [] (root.resolveFrom key) = .error e ∧ e.isAbsence = false)
      ↔ Refused t root place key := by
  have hne : root.resolveFrom key ≠ [] := by
    rw [Path.resolveFrom_relative root hkey.head?_ne]
    split
    · simp [(Tree.openable_of_locate hplace).1]
    · simp
  unfold Refused
  by_cases hnul : '\x00' ∈ root.resolveFrom key
  · refine iff_of_true ⟨.unusableName, ?_, rfl⟩ (.inl hnul)
    rw [Tree.locate, if_neg hne, if_pos hnul]
  · by_cases hlong : Tree.pathLimit < (root.resolveFrom key).bytes.length
    · refine iff_of_true ⟨.nameTooLong, ?_, rfl⟩ (.inr (.inl hlong))
      rw [Tree.locate, if_neg hne, if_neg hnul, if_pos hlong]
    · obtain ⟨r, hlocate, -, herror⟩ :=
        Tree.exists_locate_below hplace hlinks hkey hnul (Nat.not_lt.1 hlong)
      rw [or_iff_right hnul, or_iff_right hlong, ← herror, hlocate false]

theorem not_link_of_statusOfName (hplace : t.locate true [] root = .ok place)
    (hlinks : t.Linkless place) (hkey : key.Normal) (target : Path) :
    t.statusOfName [] (root.resolveFrom key) ≠ .ok (.link target) := by
  intro h
  obtain ⟨q, hq, hentry⟩ := Tree.entryAt_eq_ok.1 h
  obtain ⟨-, hnul, hshort⟩ := Tree.openable_of_locate hq
  obtain ⟨r, hlocate, hok, -⟩ := Tree.exists_locate_below hplace hlinks hkey hnul hshort
  exact hok q ((hlocate false).symm.trans hq) target hentry

/-- Below a directory without links a read fails exactly where the system refuses the path. -/
theorem load_eq_error_iff (hplace : t.locate true [] root = .ok place) (hlinks : t.Linkless place)
    (hkey : key.Normal) : (∃ e, load t root key = .error e) ↔ Refused t root place key := by
  rw [← fatal_locate_iff hplace hlinks hkey]
  have hlink := not_link_of_statusOfName hplace hlinks hkey
  have hname : t.statusOfName [] (root.resolveFrom key)
      = t.entryAt (t.locate false [] (root.resolveFrom key)) := rfl
  rw [hname] at hlink
  unfold load
  dsimp only
  rw [hname]
  rcases hlocate : t.locate false [] (root.resolveFrom key) with e | q
  · rw [show t.entryAt (.error e) = .error e from rfl]
    cases e <;> simp [LookupError.isAbsence]
  · rw [hlocate, Tree.entryAt_ok] at hlink
    rw [Tree.entryAt_ok]
    rcases hentry : t.get? q with _ | _ | target | _
    · simp [LookupError.isAbsence]
    · simp
    · exact absurd (by rw [hentry]) (hlink target)
    · simp

end Snapshot

end AppBundle
