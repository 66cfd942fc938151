import AppBundle.Tree

/-!
# What a lookup follows

A lookup that follows links walks from one to the next until it arrives or fails (`Ends`). How many
links it meets and where it ends is decided by where it sets out, and the limit on links only turns
a longer walk into an error (`ends_of_follow`, `follow_of_ends`).

A lookup through a link as its last name is a lookup up to that link, the link, and a lookup of
what the link holds from the directory that holds it (`Ends.beyond_link`).
-/

namespace AppBundle

namespace Tree

variable {t : Tree} {followLast : Bool} {place q : Place} {names : List Text}

variable (t followLast) in
/-- A walk of names from a place is over once it has followed so many links. -/
inductive Ends : Nat → Place → List Text → Except LookupError Place → Prop
  | arrived {place q : Place} {names : List Text}
      (h : t.advance followLast place names = .arrived q) : Ends 0 place names (.ok q)
  | failed {place : Place} {names : List Text} {e : LookupError}
      (h : t.advance followLast place names = .failed e) : Ends 0 place names (.error e)
  | link {n : Nat} {place dir : Place} {names rest : List Text} {target : Path}
      {r : Except LookupError Place} (h : t.advance followLast place names = .link dir target rest)
      (hlater : Ends n (startOf dir target) (walkNames target ++ rest) r) :
      Ends (n + 1) place names r

theorem Ends.unique {n m : Nat} {r r' : Except LookupError Place}
    (h : Ends t followLast n place names r) (h' : Ends t followLast m place names r') :
    n = m ∧ r = r' := by
  induction h generalizing m with
  | arrived h =>
    cases h' with
    | arrived h' => cases h.symm.trans h'; exact ⟨rfl, rfl⟩
    | failed h' => cases h.symm.trans h'
    | link h' => cases h.symm.trans h'
  | failed h =>
    cases h' with
    | arrived h' => cases h.symm.trans h'
    | failed h' => cases h.symm.trans h'; exact ⟨rfl, rfl⟩
    | link h' => cases h.symm.trans h'
  | link h _ ih =>
    cases h' with
    | arrived h' => cases h.symm.trans h'
    | failed h' => cases h.symm.trans h'
    | link h' hlater' =>
      cases h.symm.trans h'
      obtain ⟨rfl, rfl⟩ := ih hlater'
      exact ⟨rfl, rfl⟩

theorem follow_of_ends {n : Nat} {r : Except LookupError Place}
    (h : Ends t followLast n place names r) :
    ∀ {links : Nat}, n ≤ links → t.follow followLast links place names = r := by
  induction h with
  | arrived h => intro links _; rw [follow, h]
  | failed h => intro links _; rw [follow, h]
  | link h _ ih =>
    intro links hn
    obtain ⟨links, rfl⟩ := Nat.exists_eq_add_of_lt (Nat.lt_of_lt_of_le (Nat.succ_pos _) hn)
    rw [Nat.zero_add] at hn ⊢
    rw [follow, h]
    exact ih (Nat.le_of_succ_le_succ hn)

theorem ends_of_follow : ∀ {links : Nat} {place : Place} {names : List Text}
    {r : Except LookupError Place}, t.follow followLast links place names = r →
    r ≠ .error .tooManyLinks → ∃ n ≤ links, Ends t followLast n place names r
  | links, place, names, r, h, hr => by
    rw [follow] at h
    rcases ha : t.advance followLast place names with q | ⟨dir, target, rest⟩ | e
    · rw [ha] at h
      cases h
      exact ⟨0, Nat.zero_le _, .arrived ha⟩
    · rw [ha] at h
      cases links with
      | zero => exact absurd h.symm hr
      | succ links =>
        obtain ⟨n, hn, hlater⟩ := ends_of_follow h hr
        exact ⟨n + 1, Nat.succ_le_succ hn, .link ha hlater⟩
    · rw [ha] at h
      cases h
      exact ⟨0, Nat.zero_le _, .failed ha⟩

/-! ## The last name -/

/-- Whether the last name is followed makes no difference up to there, and none at all unless it
names a link. -/
theorem advance_last (t : Tree) : ∀ (place : Place) (names : List Text),
    t.advance true place names = t.advance false place names
      ∨ ∃ q target, t.advance false place names = .arrived q ∧ t.get? q = some (.link target)
        ∧ t.advance true place names = .link q.dropLast target []
  | place, [] => .inl rfl
  | place, name :: rest => by
    rw [advance, advance]
    split
    · split
      · exact advance_last t place rest
      · split
        · exact advance_last t place.dropLast rest
        · split
          · exact .inl rfl
          · split
            · exact .inl rfl
            · rename_i target hlink
              by_cases hlast : rest = []
              · exact .inr ⟨_, target, by simp [hlast], hlink, by simp [hlast]⟩
              · exact .inl (by simp [hlast])
            · exact advance_last t (place ++ [name]) rest
    · exact .inl rfl

theorem advance_of_link {dir : Place} {target : Path} {rest : List Text}
    (h : t.advance false place names = .link dir target rest) :
    t.advance true place names = .link dir target rest := by
  rcases advance_last t place names with hsame | ⟨q, target, harrived, -⟩
  · rw [hsame, h]
  · cases h.symm.trans harrived

theorem Ends.through (hq : ∀ target, t.get? q ≠ some (.link target)) :
    ∀ {n : Nat} {place : Place} {names : List Text}, Ends t false n place names (.ok q) →
      Ends t true n place names (.ok q)
  | _, place, names, .arrived h => by
    rcases advance_last t place names with hsame | ⟨q', target, harrived, hlink, -⟩
    · exact .arrived (hsame.trans h)
    · cases h.symm.trans harrived
      exact absurd hlink (hq target)
  | _, _, _, .link h hlater => .link (advance_of_link h) (through hq hlater)

/-- A lookup that ends at a link, not followed, goes on to what the link holds if links are
followed: it meets the links on the way, the link and those that come after it. -/
theorem Ends.beyond_link {target : Path} (hlink : t.get? q = some (.link target))
    {r : Except LookupError Place} (hne : r ≠ .ok q) :
    ∀ {n m : Nat} {place : Place} {names : List Text}, Ends t false n place names (.ok q) →
      Ends t true m place names r →
      ∃ m', m = n + 1 + m' ∧ Ends t true m' (startOf q.dropLast target) (walkNames target) r
  | _, m, place, names, .arrived h, hends => by
    rcases advance_last t place names with hsame | ⟨q', target', harrived, hlink', hpassed⟩
    · obtain ⟨-, rfl⟩ := hends.unique (.arrived (hsame.trans h))
      exact absurd rfl hne
    · cases h.symm.trans harrived
      cases hlink.symm.trans hlink'
      cases hends with
      | arrived h' => cases hpassed.symm.trans h'
      | failed h' => cases hpassed.symm.trans h'
      | @link m' _ _ _ _ _ _ h' hlater =>
        cases hpassed.symm.trans h'
        rw [List.append_nil] at hlater
        exact ⟨m', by omega, hlater⟩
  | _, m, place, names, .link h hlater, hends => by
    have hpassed := advance_of_link h
    cases hends with
    | arrived h' => cases hpassed.symm.trans h'
    | failed h' => cases hpassed.symm.trans h'
    | link h' hlater' =>
      cases hpassed.symm.trans h'
      obtain ⟨m', rfl, hends⟩ := beyond_link hlink hne hlater hlater'
      exact ⟨m', by omega, hends⟩

/-! ## Dots -/

section Dots

variable {rest : List Text}

/-- A walk passes a dot by, unless it ends there and at no directory. -/
theorem advance_dot (rest : List Text) : ∀ (place : Place) (before : List Text),
    t.advance true place (before ++ ['.'] :: rest) = t.advance true place (before ++ rest)
      ∨ (∃ dir target later,
          t.advance true place (before ++ ['.'] :: rest)
            = .link dir target (later ++ ['.'] :: rest)
          ∧ t.advance true place (before ++ rest) = .link dir target (later ++ rest))
      ∨ rest = [] ∧ t.advance true place (before ++ ['.'] :: rest) = .failed .notDirectory
  | place, [] => by
    rw [List.nil_append, List.nil_append, advance]
    split
    · exact .inl (if_pos rfl)
    · rename_i hplace
      rcases rest with _ | ⟨name, rest⟩
      · exact .inr (.inr ⟨rfl, rfl⟩)
      · refine .inl ?_
        rw [advance]
        split
        · rename_i hdir
          exact absurd hdir hplace
        · rfl
  | place, name :: before => by
    rw [List.cons_append, List.cons_append, advance, advance]
    split
    · split
      · exact advance_dot rest place before
      · split
        · exact advance_dot rest place.dropLast before
        · split
          · exact .inl rfl
          · split
            · exact .inl rfl
            · rename_i target _
              exact .inr (.inl ⟨place, target, before, by simp, by simp⟩)
            · exact advance_dot rest (place ++ [name]) before
    · exact .inl rfl

theorem Ends.congr {n : Nat} {place' : Place} {names' : List Text} {r : Except LookupError Place}
    (heq : t.advance followLast place names = t.advance followLast place' names')
    (h : Ends t followLast n place names r) : Ends t followLast n place' names' r := by
  cases h with
  | arrived h => exact .arrived (heq.symm.trans h)
  | failed h => exact .failed (heq.symm.trans h)
  | link h hlater => exact .link (heq.symm.trans h) hlater

theorem Ends.after_link {n : Nat} {dir : Place} {target : Path} {later : List Text}
    {r : Except LookupError Place}
    (hlink : t.advance followLast place names = .link dir target later)
    (h : Ends t followLast n place names r) :
    ∃ m, n = m + 1 ∧ Ends t followLast m (startOf dir target) (walkNames target ++ later) r := by
  cases h with
  | arrived h => cases hlink.symm.trans h
  | failed h => cases hlink.symm.trans h
  | link h hlater =>
    cases hlink.symm.trans h
    exact ⟨_, rfl, hlater⟩

/-- A lookup that arrives somewhere does so without a dot as well. -/
theorem Ends.drop_dot : ∀ {n : Nat} {place : Place} {before : List Text},
    Ends t true n place (before ++ ['.'] :: rest) (.ok q) →
      Ends t true n place (before ++ rest) (.ok q)
  | n, place, before, h => by
    rcases advance_dot rest place before with heq | ⟨dir, target, later, hdot, hlink⟩ | ⟨-, hfailed⟩
    · exact h.congr heq
    · -- The names of the target come in front, and the dot is still to be passed.
      obtain ⟨m, rfl, hlater⟩ := h.after_link hdot
      rw [← List.append_assoc] at hlater
      refine .link hlink ?_
      rw [← List.append_assoc]
      exact drop_dot hlater
    · cases h with
      | arrived h => cases hfailed.symm.trans h
      | link h _ => cases hfailed.symm.trans h

/-- A dot that more names follow changes nothing. -/
theorem Ends.insert_dot (hrest : rest ≠ []) {r : Except LookupError Place} :
    ∀ {n : Nat} {place : Place} {before : List Text},
      Ends t true n place (before ++ rest) r → Ends t true n place (before ++ ['.'] :: rest) r
  | n, place, before, h => by
    rcases advance_dot rest place before with heq | ⟨dir, target, later, hdot, hlink⟩ | ⟨hnil, -⟩
    · exact h.congr heq.symm
    · obtain ⟨m, rfl, hlater⟩ := h.after_link hlink
      rw [← List.append_assoc] at hlater
      refine .link hdot ?_
      rw [← List.append_assoc]
      exact insert_dot hrest hlater
    · exact absurd hnil hrest

/-- The names of a walk that are not dots. -/
def undotted (names : List Text) : List Text := names.filter (· ≠ ['.'])

theorem undotted_dot (names : List Text) : undotted (['.'] :: names) = undotted names := by
  simp [undotted]

theorem undotted_name {name : Text} (h : name ≠ ['.']) (names : List Text) :
    undotted (name :: names) = name :: undotted names := by
  simp [undotted, h]

theorem Ends.drop_dots {n : Nat} : ∀ {before rest : List Text},
    Ends t true n place (before ++ rest) (.ok q) →
      Ends t true n place (before ++ undotted rest) (.ok q)
  | before, [], h => h
  | before, name :: rest, h => by
    by_cases hname : name = ['.']
    · subst hname
      rw [undotted_dot]
      exact drop_dots h.drop_dot
    · rw [undotted_name hname, List.append_cons]
      rw [List.append_cons] at h
      exact drop_dots h

theorem Ends.insert_dots {n : Nat} {r : Except LookupError Place} : ∀ {before rest : List Text},
    rest.getLast? ≠ some ['.'] → Ends t true n place (before ++ undotted rest) r →
      Ends t true n place (before ++ rest) r
  | before, [], _, h => h
  | before, name :: rest, hlast, h => by
    rcases rest with _ | ⟨next, rest⟩
    · have hname : name ≠ ['.'] := by simpa using hlast
      rwa [undotted_name hname] at h
    · rw [List.getLast?_cons_cons] at hlast
      by_cases hname : name = ['.']
      · subst hname
        rw [undotted_dot] at h
        exact (insert_dots hlast h).insert_dot (List.cons_ne_nil _ _)
      · rw [undotted_name hname, List.append_cons] at h
        rw [List.append_cons]
        exact insert_dots hlast h

end Dots

/-! ## Paths -/

section Paths

variable {cwd : Place} {p : Path}

/-- What stands where a lookup ends. -/
def entryAt (t : Tree) (r : Except LookupError Place) : Except LookupError Entry := do
  let place ← r
  match t.get? place with
  | some e => .ok e
  | none => .error .missing

theorem entryAt_ok (place : Place) :
    t.entryAt (.ok place) = match t.get? place with
      | some e => .ok e
      | none => .error .missing := rfl

theorem status_eq_entryAt (cwd : Place) (p : Path) :
    t.status cwd p = t.entryAt (t.locate true cwd p) := rfl

theorem entryAt_eq_ok {r : Except LookupError Place} {e : Entry} :
    t.entryAt r = .ok e ↔ ∃ place, r = .ok place ∧ t.get? place = some e := by
  rcases r with e' | place
  · simp [entryAt, bind, Except.bind]
  · rw [entryAt_ok]
    rcases he : t.get? place with _ | e' <;> simp [he]

theorem isThere_iff : t.isThere cwd p = true ↔ ∃ e, t.status cwd p = .ok e := by
  unfold isThere
  split <;> simp_all

theorem isFile_iff : t.isFile cwd p = true
    ↔ ∃ content permissions, t.status cwd p = .ok (.file content permissions) := by
  unfold isFile
  split <;> simp_all

/-- A path that can be opened at all is walked by its names. -/
theorem locate_eq_follow (h : t.locate followLast cwd p = .ok q) (followLast' : Bool) :
    t.locate followLast' cwd p = t.follow followLast' linkLimit (startOf cwd p) (walkNames p) := by
  unfold locate at h ⊢
  split at h
  · cases h
  · rename_i hempty
    rw [if_neg hempty]
    split at h
    · cases h
    · rename_i hnul
      rw [if_neg hnul]
      split at h
      · cases h
      · rename_i hlong
        rw [if_neg hlong]

theorem ends_of_locate (h : t.locate followLast cwd p = .ok q) :
    ∃ n ≤ linkLimit, Ends t followLast n (startOf cwd p) (walkNames p) (.ok q) := by
  rw [locate_eq_follow h] at h
  exact ends_of_follow h (by simp)

/-- What a path names other than a link is what the path leads to. -/
theorem locate_through (h : t.locate false cwd p = .ok q)
    (hq : ∀ target, t.get? q ≠ some (.link target)) : t.locate true cwd p = .ok q := by
  obtain ⟨n, hn, hends⟩ := ends_of_locate h
  rw [locate_eq_follow h]
  exact follow_of_ends (hends.through hq) hn

theorem startOf_nil (p : Path) : startOf [] p = [] := by
  unfold startOf
  split <;> rfl

/-- Paths whose names are the same, dots apart, lead to the same place. -/
theorem locate_of_undotted {p' : Path} {q' : Place}
    (hnames : undotted (walkNames p') = undotted (walkNames p))
    (hlast : (walkNames p').getLast? ≠ some ['.']) (h : t.locate true [] p = .ok q)
    (h' : t.locate followLast [] p' = .ok q') : t.locate true [] p' = .ok q := by
  obtain ⟨n, hn, hends⟩ := ends_of_locate h
  rw [startOf_nil] at hends
  have hdropped : Ends t true n [] ([] ++ undotted (walkNames p')) (.ok q) := by
    rw [hnames]
    exact Ends.drop_dots hends
  rw [locate_eq_follow h', startOf_nil]
  exact follow_of_ends (Ends.insert_dots hlast hdropped) hn

/-- The link that a path names: where it stands and what it holds. -/
def linkAt? (t : Tree) (p : Path) : Option (Place × Path) :=
  match t.locate false [] p with
  | .ok place =>
    match t.get? place with
    | some (.link target) => some (place, target)
    | _ => none
  | .error _ => none

theorem linkAt?_eq_some {target : Path} :
    t.linkAt? p = some (q, target)
      ↔ t.locate false [] p = .ok q ∧ t.get? q = some (.link target) := by
  unfold linkAt?
  rcases t.locate false [] p with e | place
  · simp
  · rcases he : t.get? place with _ | ⟨_, _⟩ | target' | _ <;> grind

/-- What a path leads to that names a link is what the target of the link leads to. -/
theorem status_beyond_link {target : Path} (h : t.locate false cwd p = .ok q)
    (hlink : t.get? q = some (.link target)) (hstill : t.status cwd p ≠ .ok (.link target))
    (hmany : t.status cwd p ≠ .error .tooManyLinks) :
    ∃ m r, Ends t true m (startOf q.dropLast target) (walkNames target) r
      ∧ t.status cwd p = t.entryAt r := by
  obtain ⟨n, -, hends⟩ := ends_of_locate h
  rw [status_eq_entryAt, locate_eq_follow h] at hstill hmany ⊢
  have hne : t.follow true linkLimit (startOf cwd p) (walkNames p) ≠ .ok q := by
    intro hq
    rw [hq, entryAt_ok, hlink] at hstill
    exact hstill rfl
  have hlimit : t.follow true linkLimit (startOf cwd p) (walkNames p) ≠ .error .tooManyLinks := by
    intro hq
    rw [hq] at hmany
    exact hmany rfl
  obtain ⟨m, -, hends'⟩ := ends_of_follow rfl hlimit
  obtain ⟨m', -, hbeyond⟩ := Ends.beyond_link hlink hne hends hends'
  exact ⟨m', _, hbeyond, rfl⟩

end Paths

end Tree

end AppBundle
