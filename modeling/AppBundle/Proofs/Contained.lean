import AppBundle.Proofs.Accounts
import AppBundle.Proofs.FileNames
import AppBundle.Proofs.Linkless

/-!
# Where the directories of a layout lie

A layout is checked by the normal forms of its directories, which take a backslash for a separator,
and a run reads them as the file system does, to which it belongs to a name. For a directory without
a backslash, and for one that does not go up, the check says what the file system does
(`Path.exists_ofComponents`).

Where there are no links a path leads where its steps lead on paper
(`Tree.Linkless.led_of_locate`). So such a directory lies below the project, and any other one stays
below it exactly if it is something below the root as a path of the project
(`Layout.directories_below_iff`). A backslash can lead out (`Layout.backslash_leads_out`).
-/

namespace AppBundle

open AppBundle.Path

namespace Tree

variable {t : Tree} {place q : Place} {names : List Text} {project d : Path}

/-! ## Trees without links -/

theorem Linkless.advance_ne_link (hlinks : t.Linkless []) (dir : Place) (target : Path)
    (later : List Text) : ∀ {names : List Text} {place : Place},
      t.advance true place names ≠ .link dir target later
  | [], _ => by simp [advance]
  | name :: rest, place => by
    have hrest : ∀ next, t.advance true next rest ≠ .link dir target later :=
      fun next => hlinks.advance_ne_link dir target later
    rw [advance]
    split
    · split
      · exact hrest _
      · split
        · exact hrest _
        · split
          · simp
          · split
            · simp
            · rename_i target' hlink
              exact absurd hlink (hlinks (place ++ [name]) target')
            · exact hrest _
    · simp

/-- Without links a walk ends without having followed any, and if it arrives it is where its names
lead on paper. -/
theorem Linkless.exists_ends (hlinks : t.Linkless []) (place : Place) (names : List Text) :
    ∃ r, Ends t true 0 place names r ∧ ∀ q, r = .ok q → q = led place names := by
  rcases h : t.advance true place names with q | ⟨dir, target, later⟩ | e
  · refine ⟨.ok q, .arrived h, ?_⟩
    rintro _ ⟨⟩
    exact led_of_advance h
  · exact absurd h (hlinks.advance_ne_link dir target later)
  · exact ⟨.error e, .failed h, by simp⟩

/-- A path that is read from a directory leads where its steps lead from there on paper. -/
theorem Linkless.led_of_locate (hlinks : t.Linkless []) (hd : d.head? ≠ some '/')
    (hplace : t.locate true [] project = .ok place)
    (hq : t.locate true [] (project.resolveFrom d) = .ok q) : q = led place (steps d) := by
  obtain ⟨n, hends⟩ := ends_of_steps hplace
  obtain ⟨m, hall⟩ := ends_of_steps hq
  rw [steps_resolveFrom project hd] at hall
  obtain ⟨r, hlater, hled⟩ := hlinks.exists_ends place (steps d)
  obtain ⟨-, rfl⟩ := (hends.append_through hlater).unique hall
  exact hled q rfl

/-! ## Staying below -/

/-- Read one after the other from a place, the names lead to places at or below it and in the end
to one below it. -/
structure StaysBelow (place : Place) (names : List Text) : Prop where
  within : ∀ before, before <+: names → place <+: led place before
  below : led place names ≠ place

theorem prefix_led (place : Place) (hne : ∀ s ∈ names, s ≠ []) {entered final : List Text}
    (h : enter entered names = some final) {before : List Text} (hbefore : before <+: names) :
    place <+: led (place ++ entered.reverse) before := by
  obtain ⟨after, rfl⟩ := hbefore
  rw [enter_append] at h
  obtain ⟨middle, hmiddle, -⟩ := Option.bind_eq_some_iff.1 h
  rw [led_of_enter place (fun s hs => hne s (List.mem_append_left _ hs)) hmiddle]
  exact List.prefix_append _ _

theorem step_eq_none {entered : List Text} {name : Text} (h : step entered name = none) :
    name = ['.', '.'] ∧ entered = [] := by
  unfold step at h
  split at h
  · cases h
  · split at h
    · rename_i hup
      split at h
      · exact ⟨hup, rfl⟩
      · cases h
    · cases h

/-- Below any place but the root, names that do not lead out of it enter names there. -/
theorem exists_enter_of_prefix (hplace : place ≠ []) : ∀ (entered : List Text)
    {names : List Text}, (∀ s ∈ names, s ≠ []) →
      (∀ before, before <+: names → place <+: led (place ++ entered.reverse) before) →
        ∃ final, enter entered names = some final
  | entered, [], _, _ => ⟨entered, rfl⟩
  | entered, name :: rest, hne, h => by
    obtain ⟨hname, hrest⟩ := List.forall_mem_cons.1 hne
    rcases hstep : step entered name with _ | next
    · obtain ⟨rfl, rfl⟩ := step_eq_none hstep
      have hleft : place <+: (place ++ []).dropLast :=
        h [['.', '.']] (List.cons_prefix_cons.2 ⟨rfl, List.nil_prefix⟩)
      have hlength := hleft.length_le
      rw [List.append_nil, List.length_dropLast] at hlength
      have hpos := List.length_pos_iff.2 hplace
      omega
    · have henter : enter entered [name] = some next := by rw [enter, hstep]; rfl
      have hled := led_of_enter place (by simpa using hname) henter
      have hlater : ∀ before, before <+: rest → place <+: led (place ++ next.reverse) before := by
        intro before hbefore
        rw [← hled]
        exact h (name :: before) (List.cons_prefix_cons.2 ⟨rfl, hbefore⟩)
      obtain ⟨final, hfinal⟩ := exists_enter_of_prefix hplace next hrest hlater
      exact ⟨final, by rw [enter, hstep]; exact hfinal⟩

end Tree

namespace Path

variable {d : Path}

theorem ne_nil_of_mem_steps {s : Text} (h : s ∈ steps d) : s ≠ [] ∧ s ≠ ['.'] := by
  unfold steps at h
  simpa using (List.mem_filter.1 h).2

/-- The steps of a path enter what its segments between slashes enter. -/
theorem enter_steps (d : Path) : enter [] (steps d) = enter [] (d.splitBy (· = '/')) := by
  refine enter_filter _ _ fun s _ h => ?_
  by_contra hkeep
  rw [not_or] at hkeep
  simp [hkeep] at h

theorem ofComponents_eq (d : Path) : d.ofComponents = (enter [] (steps d)).map ofEntered := by
  obtain ⟨head, hhead, hd⟩ := components_eq d
  rw [ofComponents, hd, enterComponents_append [] _ hhead, enterComponents_ofSegment, enter_steps]

theorem mem_of_enter : ∀ {names entered final : List Text}, enter entered names = some final →
    ∀ s ∈ final, s ∈ entered ∨ s ∈ names
  | [], entered, final, h, s, hs => by
    cases h
    exact .inl hs
  | name :: rest, entered, final, h, s, hs => by
    obtain ⟨next, hstep, hlater⟩ := Option.bind_eq_some_iff.1 h
    rcases mem_of_enter hlater s hs with hmem | hmem
    · unfold step at hstep
      split at hstep
      · cases hstep
        exact .inl hmem
      · split at hstep
        · split at hstep
          · cases hstep
          · cases hstep
            exact .inl (List.mem_cons_of_mem _ hmem)
        · cases hstep
          rcases List.mem_cons.1 hmem with rfl | hmem
          · exact .inr List.mem_cons_self
          · exact .inl hmem
    · exact .inr (List.mem_cons_of_mem _ hmem)

theorem joinBy_ne_nil {names : List Text} (hne : names ≠ []) (h : ∀ s ∈ names, s ≠ []) :
    Text.joinBy '/' names ≠ [] := by
  obtain ⟨name, rest, rfl⟩ := List.exists_cons_of_ne_nil hne
  have hname := h name List.mem_cons_self
  intro hnil
  have hhead : (Text.joinBy '/' (name :: rest)).head? = name.head? := Text.head?_joinBy hname rest
  rw [hnil] at hhead
  exact hname (List.head?_eq_none_iff.1 hhead.symm)

/-- As a path of the project a path is something exactly if its steps enter names. -/
theorem ofComponents_iff (d : Path) : (∃ p ≠ [], d.ofComponents = some p)
    ↔ ∃ final ≠ [], enter [] (steps d) = some final := by
  rw [ofComponents_eq]
  constructor
  · rintro ⟨p, hp, h⟩
    obtain ⟨final, hfinal, rfl⟩ := Option.map_eq_some_iff.1 h
    refine ⟨final, ?_, hfinal⟩
    rintro rfl
    exact hp rfl
  · rintro ⟨final, hne, hfinal⟩
    refine ⟨ofEntered final, joinBy_ne_nil (by simpa using hne) fun s hs => ?_, by rw [hfinal]; rfl⟩
    rcases mem_of_enter hfinal s (List.mem_reverse.1 hs) with hmem | hmem
    · cases hmem
    · exact (ne_nil_of_mem_steps hmem).1

/-- Without a backslash both readings of a path are one. -/
theorem ofComponents_of_noBackslash (h : '\\' ∉ d) : d.ofComponents = d.normalize := by
  rw [ofComponents_eq, enter_steps, normalize, segments_of_noBackslash h]

/-- A backslash belongs to a name. -/
theorem steps_ne_nil_of_backslash (h : '\\' ∈ d) : steps d ≠ [] := by
  obtain ⟨name, hname, hback⟩ := (Text.mem_iff_splitBy (show '\\' ≠ '/' by decide)).1 h
  refine List.ne_nil_of_mem (a := name) (List.mem_filter.2 ⟨hname, ?_⟩)
  have hnil : name ≠ [] := List.ne_nil_of_mem hback
  have hdot : name ≠ ['.'] := by
    rintro rfl
    simp at hback
  simp [hnil, hdot]

/-- A path that is something below the root in the one reading is so in the other, if it has no
backslash or does not go up. -/
theorem exists_ofComponents (hnormal : ∃ p ≠ [], d.normalize = some p)
    (h : '\\' ∉ d ∨ .up ∉ d.components) : ∃ p ≠ [], d.ofComponents = some p := by
  by_cases hback : '\\' ∈ d
  · have hsteps := steps_ne_nil_of_backslash hback
    have hentered := enterComponents_eq [] (h.resolve_left fun hnot => hnot hback)
    rw [← steps_eq_components, List.append_nil] at hentered
    refine ⟨ofEntered (steps d).reverse, ?_, by rw [ofComponents, hentered]; rfl⟩
    rw [ofEntered, List.reverse_reverse]
    exact joinBy_ne_nil hsteps fun s hs => (ne_nil_of_mem_steps hs).1
  · rwa [ofComponents_of_noBackslash hback]

end Path

namespace Tree

variable {t : Tree} {place q : Place} {d : Path}

/-- A path that is something below the root of the project stays below any place. -/
theorem staysBelow_of_enter (place : Place) {final : List Text} (hfinal : final ≠ [])
    (h : enter [] (steps d) = some final) :
    StaysBelow place (steps d) ∧ led place (steps d) = place ++ final.reverse := by
  have hne : ∀ s ∈ steps d, s ≠ [] := fun s hs => (ne_nil_of_mem_steps hs).1
  have hled := led_of_enter place hne h
  rw [List.reverse_nil, List.append_nil] at hled
  refine ⟨⟨fun before hbefore => ?_, ?_⟩, hled⟩
  · simpa using prefix_led place hne h hbefore
  · rw [hled]
    simpa using hfinal

/-- A path that stays below a place other than the root of the file system is something below the
root of the project. -/
theorem StaysBelow.exists_enter (hplace : place ≠ []) (h : StaysBelow place (steps d)) :
    ∃ final ≠ [], enter [] (steps d) = some final := by
  have hne : ∀ s ∈ steps d, s ≠ [] := fun s hs => (ne_nil_of_mem_steps hs).1
  obtain ⟨final, hfinal⟩ := exists_enter_of_prefix hplace [] hne (by simpa using h.within)
  have hled := led_of_enter place hne hfinal
  refine ⟨final, ?_, hfinal⟩
  rintro rfl
  exact h.below (by simpa using hled)

end Tree

namespace Layout

variable {config : Config} {d : Path}

/-- Each directory of a valid layout, as a path of the project, is something below its root if it is
named without a backslash or does not go up. Where there are no links, the run opens it where its
steps lead one after the other from the project. If it is something below the root of the project,
these stay below the project and lead to it by its names, and unless the project is the root of the
file system they stay below the project in no other case. -/
theorem directories_below_iff (hvalid : config.validate = .ok ())
    (hd : d = config.layout.functionsDir ∨ d = config.layout.staticDir) :
    ('\\' ∉ d ∨ .up ∉ d.components → ∃ p ≠ [], d.ofComponents = some p)
      ∧ ∀ (t : Tree) (project : Path) (place q : Place), t.Linkless [] →
        t.locate true [] project = .ok place → t.locate true [] (project.resolveFrom d) = .ok q →
          q = Tree.led place (steps d)
            ∧ (∀ p ≠ [], d.ofComponents = some p → Tree.StaysBelow place (steps d)
              ∧ ∃ names ≠ [], q = place ++ names ∧ p = Text.joinBy '/' names)
            ∧ (place ≠ [] → Tree.StaysBelow place (steps d) →
              ∃ p ≠ [], d.ofComponents = some p) := by
  have hlayout := Pipeline.validate_layout hvalid
  obtain ⟨hhead, hnormal⟩ : d.head? ≠ some '/' ∧ ∃ p ≠ [], d.normalize = some p := by
    rcases hd with rfl | rfl
    · exact validate_functionsDir hlayout
    · exact validate_staticDir hlayout
  refine ⟨exists_ofComponents hnormal, fun t project place q hlinks hplace hq => ?_⟩
  have hled := hlinks.led_of_locate hhead hplace hq
  refine ⟨hled, fun p hp hcomponents => ?_, fun hroot hbelow => ?_⟩
  · rw [ofComponents_eq] at hcomponents
    obtain ⟨final, hfinal, rfl⟩ := Option.map_eq_some_iff.1 hcomponents
    have hne : final ≠ [] := by
      rintro rfl
      exact hp rfl
    obtain ⟨hbelow, heq⟩ := Tree.staysBelow_of_enter place hne hfinal
    exact ⟨hbelow, final.reverse, by simpa using hne, hled.trans heq, rfl⟩
  · exact (ofComponents_iff d).2 (hbelow.exists_enter hroot)

/-- A project whose entries are no links has none. -/
theorem linkless_projectWith {entries : List (List String × Entry)}
    (h : ∀ e ∈ entries, ∀ target, e.2 ≠ .link target) (place : Place) :
    (Import.projectWith entries).Linkless place := by
  unfold Import.projectWith
  have hstart : (Tree.empty.put ["p".toList] .dir).Linkless place :=
    (Tree.linkless_empty place).put (by simp) _
  generalize Tree.empty.put ["p".toList] .dir = t at hstart ⊢
  induction entries generalizing t with
  | nil => exact hstart
  | cons e rest ih =>
    obtain ⟨he, hrest⟩ := List.forall_mem_cons.1 h
    exact ih hrest _ (hstart.put he _)

theorem directories_below_iff_functionsAndSite :
    Config.validate {} = .ok () ∧ Pipeline.functionsAndSite.Linkless []
      ∧ Pipeline.functionsAndSite.locate true [] "/p".toList = .ok ["p".toList]
      ∧ ∃ q, Pipeline.functionsAndSite.locate true []
          (resolveFrom "/p".toList (Layout.staticDir {})) = .ok q
        ∧ Tree.StaysBelow ["p".toList] (steps (Layout.staticDir {}))
        ∧ ∃ names ≠ [], q = ["p".toList] ++ names := by
  have hvalid : Config.validate {} = .ok () := rfl
  have hlinks : Pipeline.functionsAndSite.Linkless [] := linkless_projectWith (by simp) []
  have hplace : Pipeline.functionsAndSite.locate true [] "/p".toList = .ok ["p".toList] := by
    decide +kernel
  have hq : Pipeline.functionsAndSite.locate true []
      (resolveFrom "/p".toList (Layout.staticDir {}))
        = .ok ["p".toList, "web".toList, "dist".toList] := by decide +kernel
  obtain ⟨hstays, hopened⟩ := directories_below_iff hvalid (.inr rfl)
  obtain ⟨p, hp, hcomponents⟩ := hstays (.inl (by decide))
  obtain ⟨-, hbelow, -⟩ := hopened _ _ _ _ hlinks hplace hq
  obtain ⟨hstaysBelow, names, hnames, heq, -⟩ := hbelow p hp hcomponents
  exact ⟨hvalid, hlinks, hplace, _, hq, hstaysBelow, names, hnames, heq⟩

/-- The static site is named by three names to the check and by one to the file system. -/
def leadingOut : Config := { layout := { staticDir := "a\\b\\c/../../sibling".toList } }

/-- A project with such a directory, and a directory beside it. -/
def besideProject : Tree :=
  ((Import.projectWith [(["a\\b\\c"], .dir)]).put ["sibling".toList] .dir).put
    ["sibling".toList, "secret.txt".toList] (.file (ByteArray.mk #[0x73]) 0o644)

theorem backslash_leads_out :
    leadingOut.validate = .ok () ∧ besideProject.Linkless []
      ∧ besideProject.locate true [] "/p".toList = .ok ["p".toList]
      ∧ besideProject.locate true [] (resolveFrom "/p".toList leadingOut.layout.staticDir)
        = .ok ["sibling".toList]
      ∧ ¬ ["p".toList] <+: ["sibling".toList] ∧ ofComponents leadingOut.layout.staticDir = none
      ∧ ∃ m left, Pipeline.Ends besideProject "/p".toList leadingOut (Import.resolver 1) m left
        ∧ m.outputs.keys = ["secret.txt".toList] := by
  obtain ⟨m, hm, hkeys⟩ := Pipeline.exists_manifest besideProject "/p".toList leadingOut
    (Import.resolver 1) (fun m => m.outputs.keys)
    (show _ = some ["secret.txt".toList] by decide +kernel)
  obtain ⟨left, hends⟩ := Pipeline.exists_ends hm
  have hlinks : besideProject.Linkless [] :=
    ((linkless_projectWith (by simp) []).put (by simp) _).put (by simp) _
  exact ⟨by decide +kernel, hlinks, by decide +kernel, by decide +kernel, by decide,
    by decide +kernel, m, left, hends, hkeys⟩

end Layout

end AppBundle
