import AppBundle.Command
import AppBundle.Proofs.Canonical

/-!
# The two commands

`package` works below the path of the place where its directory is, `routes` below the directory as
it is given. Both load the configuration and look for the fallback document, and the rules depend on
nothing else that is read. So on a directory that is given without links `routes` prints the rules
of the manifest, each on a line, if whatever stands at these two paths can be opened under both
spellings of the directory or under neither (`Command.routes_prints_manifest`). A line tells all
that its rule says (`Command.Shows.same`).

That condition is needed: `routes` takes what it cannot open for absent, and a directory can be
spelled too long for anything below it to be opened (`Command.long_directory_hides_document`).
-/

namespace AppBundle

open AppBundle.Path

/-! ## Lines -/

theorem Text.splitBy_unlines : ∀ {lines : List Text}, (∀ line ∈ lines, '\n' ∉ line) →
    (Command.unlines lines).splitBy (· = '\n') = lines ++ [[]]
  | [], _ => rfl
  | line :: rest, h => by
    obtain ⟨hline, hrest⟩ := List.forall_mem_cons.1 h
    have hunlines : Command.unlines (line :: rest) = line ++ '\n' :: Command.unlines rest := by
      simp [Command.unlines]
    have hsep : ∀ c ∈ line, decide (c = '\n') = false := by
      rintro c hc
      simp only [decide_eq_false_iff_not]
      rintro rfl
      exact hline hc
    rw [hunlines, Text.splitBy_append_sep (by simp) _ hsep, splitBy_unlines hrest, List.cons_append]

/-- Lines that are printed one after the other are read back. -/
theorem Text.lines_unlines {lines : List Text}
    (h : ∀ line ∈ lines, '\n' ∉ line ∧ line.getLast? ≠ some '\r') :
    (Command.unlines lines).lines = lines := by
  unfold Text.lines
  rw [Text.splitBy_unlines fun line hline => (h line hline).1]
  simp only [List.dropLast_concat, List.getLast?_concat]
  refine (List.map_congr_left fun line hline => ?_).trans (List.map_id lines)
  split
  · rename_i hlast
    exact absurd hlast (h line hline).2
  · rfl

/-! ## Both spellings of a directory -/

section Spellings

variable {t : Tree} {cwd cwd' : Place} {dir dir' p p' : Path}

theorem Tree.isThere_congr (h : ∀ e, t.status cwd p = .ok e ↔ t.status cwd' p' = .ok e) :
    t.isThere cwd p = t.isThere cwd' p' := by
  rw [Bool.eq_iff_iff, Tree.isThere_iff, Tree.isThere_iff]
  exact exists_congr h

theorem Tree.isFile_congr (h : ∀ e, t.status cwd p = .ok e ↔ t.status cwd' p' = .ok e) :
    t.isFile cwd p = t.isFile cwd' p' := by
  rw [Bool.eq_iff_iff, Tree.isFile_iff, Tree.isFile_iff]
  simp only [h]

theorem Config.textAt?_eq_some {text : Text} : Config.textAt? t cwd p = some text
    ↔ ∃ content permissions, t.status cwd p = .ok (.file content permissions)
      ∧ (String.fromUTF8? content).map String.toList = some text := by
  unfold textAt?
  split
  · rename_i content permissions h
    simp [h]
  · rename_i h
    simp only [reduceCtorEq, false_iff, not_exists, not_and]
    intro content permissions hstatus
    exact absurd hstatus (h content permissions)

/-- A configuration is loaded if it is valid and is what the file of the directory says, or what
every configuration is by default if there is no such file. -/
theorem Config.load_eq_ok_iff {config : Config} : Config.load t cwd dir = .ok config
    ↔ config.validate = .ok () ∧ if t.isThere cwd (dir.resolveFrom fileName) then
        ∃ text, textAt? t cwd (dir.resolveFrom fileName) = some text ∧ parse? text = some config
      else config = {} := by
  have hvalidated : ∀ config' : Config,
      (do config'.validate; return config' : Except ConfigError Config) = .ok config
        ↔ config.validate = .ok () ∧ config' = config := by
    intro config'
    rw [bind_eq_ok]
    constructor
    · rintro ⟨⟨⟩, hvalid, hconfig⟩
      cases hconfig
      exact ⟨hvalid, rfl⟩
    · rintro ⟨hvalid, rfl⟩
      exact ⟨(), hvalid, rfl⟩
  unfold load
  dsimp only
  split
  · rcases textAt? t cwd (dir.resolveFrom fileName) with _ | text
    · simp
    · rcases hparse : parse? text with _ | config'
      · simp [hparse]
      · simp only [hparse]
        rw [hvalidated]
        simp [hparse]
  · rw [hvalidated]
    exact and_congr_right fun _ => eq_comm

theorem Config.load_congr {config : Config}
    (h : ∀ e, t.status cwd (dir.resolveFrom fileName) = .ok e
      ↔ t.status cwd' (dir'.resolveFrom fileName) = .ok e) :
    Config.load t cwd dir = .ok config ↔ Config.load t cwd' dir' = .ok config := by
  simp only [load_eq_ok_iff, Tree.isThere_congr h, textAt?_eq_some, h]

/-- The directory of the site is relative and has a name. -/
theorem Config.staticDir_of_load {config : Config} (h : Config.load t cwd dir = .ok config) :
    config.layout.staticDir.head? ≠ some '/' ∧ config.layout.staticDir ≠ [] := by
  obtain ⟨hvalid, -⟩ := load_eq_ok_iff.1 h
  obtain ⟨hhead, site, hne, hsite⟩ := Layout.validate_staticDir (Pipeline.validate_layout hvalid)
  refine ⟨hhead, fun hnil => hne ?_⟩
  rw [hnil, normalize_nil] at hsite
  exact (Option.some.inj hsite).symm

theorem Route.synthesize_congr {settings : RouteSettings}
    (h : t.isFile cwd (dir.resolveFrom settings.fallbackDocument)
      = t.isFile cwd' (dir'.resolveFrom settings.fallbackDocument)) :
    Route.synthesize t cwd dir settings = Route.synthesize t cwd' dir' settings := by
  unfold Route.synthesize Route.fallbackDestination
  rw [h]

end Spellings

/-! ## What a line tells -/

/-- Texts in front of the first mark are told by the whole text. -/
theorem Text.append_mark_inj {mark : Char} {t t' u u' : Text} (ht : mark ∉ t) (ht' : mark ∉ t')
    (h : t ++ mark :: u = t' ++ mark :: u') : t = t' ∧ u = u' := by
  have hbefore : ∀ {t u : Text}, mark ∉ t →
      (t ++ mark :: u).takeWhile (· ≠ mark) = t
        ∧ (t ++ mark :: u).dropWhile (· ≠ mark) = mark :: u := fun ht =>
    Text.takeWhile_of_longest (fun c hc => decide_eq_true fun heq => ht (heq ▸ hc)) (by simp)
  obtain ⟨htake, hdrop⟩ := hbefore (u := u) ht
  obtain ⟨htake', hdrop'⟩ := hbefore (u := u') ht'
  rw [h] at htake hdrop
  exact ⟨htake.symm.trans htake', (List.cons.inj (hdrop.symm.trans hdrop')).2⟩

namespace Command

def flagWord (b : Bool) : Text := if b then "true".toList else "false".toList

/-- The line shows where the requests that the source matches go, and then the expression of the
source and both flags. -/
def Shows (line : Text) (r : RouteRule) : Prop :=
  line = r.source ++ " -> ".toList ++ r.destination ++ "  (src: ".toList ++ r.src
    ++ ", clean_urls: ".toList ++ flagWord r.cleanUrls
    ++ ", trailing_slash: ".toList ++ flagWord r.trailingSlash ++ ")".toList

theorem shows_ruleLine (r : RouteRule) : Shows (ruleLine r) r := rfl

/-- The words differ in the last character but one. -/
theorem append_flagWord_inj {t t' : Text} {b b' : Bool} (h : t ++ flagWord b = t' ++ flagWord b') :
    t = t' ∧ b = b' := by
  have hreverse := congrArg List.reverse h
  rw [List.reverse_append, List.reverse_append] at hreverse
  cases b <;> cases b'
  · exact ⟨List.append_cancel_right h, rfl⟩
  · exact absurd hreverse (by simp [flagWord])
  · exact absurd hreverse (by simp [flagWord])
  · exact ⟨List.append_cancel_right h, rfl⟩

/-- There are no blanks in what a line shows first. -/
def NoBlanks (r : RouteRule) : Prop := ' ' ∉ r.source ∧ ' ' ∉ r.destination

/-- Rules that are shown by the same line say the same. -/
theorem Shows.same {line : Text} {r r' : RouteRule} (h : Shows line r) (h' : Shows line r')
    (hr : NoBlanks r) (hr' : NoBlanks r') : r.same r' = true := by
  have hlines := h.symm.trans h'
  -- from the left up to the expression, which may hold anything, and then from the right
  simp only [List.append_assoc] at hlines
  obtain ⟨hsource, hlines⟩ := Text.append_mark_inj hr.1 hr'.1 hlines
  obtain ⟨hdestination, hlines⟩ := Text.append_mark_inj hr.2 hr'.2
    (show r.destination ++ ' ' :: (" (src: ".toList ++ _)
      = r'.destination ++ ' ' :: (" (src: ".toList ++ _) from
      List.append_cancel_left (show "-> ".toList ++ _ = "-> ".toList ++ _ from hlines))
  have hlines := List.append_cancel_left hlines
  simp only [← List.append_assoc] at hlines
  obtain ⟨hlines, htrailing⟩ := append_flagWord_inj (List.append_cancel_right hlines)
  obtain ⟨hlines, hclean⟩ := append_flagWord_inj (List.append_cancel_right hlines)
  have hsrc := List.append_cancel_right hlines
  simp [RouteRule.same, hsource, hdestination, hsrc, hclean, htrailing]

theorem forall₂_same {lines : List Text} {rules rules' : List RouteRule}
    (h : List.Forall₂ Shows lines rules) (h' : List.Forall₂ Shows lines rules')
    (hrules : ∀ r ∈ rules, NoBlanks r) (hrules' : ∀ r ∈ rules', NoBlanks r) :
    List.Forall₂ (fun r r' => r.same r' = true) rules rules' := by
  induction h generalizing rules' with
  | nil =>
    cases h'
    exact .nil
  | cons hline _ ih =>
    cases h' with
    | cons hline' h' =>
      obtain ⟨hr, hrules⟩ := List.forall_mem_cons.1 hrules
      obtain ⟨hr', hrules'⟩ := List.forall_mem_cons.1 hrules'
      exact .cons (hline.same hline' hr hr') (ih h' hrules hrules')

end Command

/-! ## The rules of a manifest -/

theorem Route.noBlank_of_isDestination {destination : Text} {c : Char}
    (h : isDestination destination = true) (hc : CharClass.isBlank c = true) :
    c ∉ destination := by
  intro hmem
  have hblank : destination.any CharClass.isBlank = true := List.any_eq_true.2 ⟨c, hmem, hc⟩
  simp [isDestination, hblank] at h

namespace Command

variable {t : Tree} {cwd : Place} {dir : Path} {json parallel : Bool} {out : Option Path}
  {m : Manifest}

theorem noLineFeed_ruleLine {r : RouteRule} (hsource : '\n' ∉ r.source)
    (hdestination : '\n' ∉ r.destination) (hsrc : '\n' ∉ r.src) : '\n' ∉ ruleLine r := by
  have hbool : ∀ b : Bool, '\n' ∉ (if b then "true".toList else "false".toList : Text) := by
    decide
  unfold ruleLine
  simp only [List.mem_append, hsource, hdestination, hsrc, hbool, or_false, false_or]
  decide

/-- The rules of a site are printed on a line each. -/
theorem lines_of_synthesize {staticRoot : Path} {settings : RouteSettings} {rules : List RouteRule}
    (h : Route.synthesize t cwd staticRoot settings = .ok rules) :
    (unlines (rules.map ruleLine)).lines = rules.map ruleLine := by
  rw [Route.synthesize_eq] at h
  split at h
  · rename_i hdestination
    cases h
    refine Text.lines_unlines fun line hline => ?_
    rw [List.map_singleton, List.mem_singleton] at hline
    subst hline
    constructor
    · exact noLineFeed_ruleLine (show '\n' ∉ Route.catchAll by decide)
        (Route.noBlank_of_isDestination hdestination (by decide))
        (show '\n' ∉ "^/(.*)$".toList by decide)
    · rw [ruleLine, List.getLast?_append_of_ne_nil _ (by decide)]
      decide
  · cases h

theorem noBlanks_of_synthesize {staticRoot : Path} {settings : RouteSettings}
    {rules : List RouteRule} (h : Route.synthesize t cwd staticRoot settings = .ok rules) :
    ∀ r ∈ rules, NoBlanks r := by
  rw [Route.synthesize_eq] at h
  split at h
  · rename_i hdestination
    cases h
    exact List.forall_mem_singleton.2 ⟨show ' ' ∉ Route.catchAll by decide,
      Route.noBlank_of_isDestination hdestination (by decide)⟩
  · cases h

theorem shows_ruleLines (rules : List RouteRule) :
    List.Forall₂ Shows (rules.map ruleLine) rules := by
  rw [List.forall₂_map_left_iff]
  exact List.forall₂_same.2 fun r _ => shows_ruleLine r

/-- The manifest that `package` makes of a directory, which it spells as the path of its place. -/
def Packages (t : Tree) (cwd : Place) (dir : Path) (parallel : Bool) (m : Manifest) : Prop :=
  ∃ place config, t.locate true cwd dir = .ok place
    ∧ Config.load t cwd (Tree.pathOf place) = .ok config
    ∧ packageAt t (Tree.pathOf place) { config with parallel := config.parallel || parallel }
      = .ok (.ok m)

theorem runPackage_of_packages (h : Packages t cwd dir parallel m) :
    runPackage t cwd dir json out parallel = reportManifest t cwd m json out := by
  obtain ⟨place, config, hplace, hload, hm⟩ := h
  simp only [runPackage, hplace, hload, hm]

theorem packages_of_exitCode (h : (runPackage t cwd dir json out parallel).exitCode = 0) :
    ∃ m, Packages t cwd dir parallel m := by
  unfold runPackage at h
  rcases hplace : t.locate true cwd dir with e | place
  · simp [hplace, failed] at h
  rcases hload : Config.load t cwd (Tree.pathOf place) with e | config
  · simp [hplace, hload, failed] at h
  simp only [hplace, hload] at h
  split at h
  · simp [failed] at h
  · simp [failed] at h
  · rename_i m hm
    exact ⟨m, place, config, hplace, hload, hm⟩

/-- What `routes` reads below a directory: the configuration and the fallback document. -/
def readByRoutes (config : Config) : List Path :=
  [Config.fileName, Path.resolveFrom config.layout.staticDir config.routes.fallbackDocument]

/-- What `routes` reads below a directory fits the directory as it is given and the path of its
place alike. -/
def FitsAlike (t : Tree) (cwd : Place) (dir : Path) : Prop :=
  ∀ place config, t.locate true cwd dir = .ok place →
    Config.load t cwd (Tree.pathOf place) = .ok config →
      ∀ p ∈ readByRoutes config, t.SameFit place dir (Tree.pathOf place) p

/-- What `package` makes the rules of a manifest from, `routes` finds as well. -/
theorem Packages.routes (h : Packages t cwd dir parallel m)
    (hcwd : t.LeadsStraight [] (Tree.pathOf cwd) cwd) (hdir : t.CrossesNoLink cwd dir)
    (hfits : FitsAlike t cwd dir) :
    ∃ config, Config.load t cwd dir = .ok config
      ∧ Route.synthesize t cwd (dir.resolveFrom config.layout.staticDir) config.routes
        = .ok m.routes := by
  obtain ⟨place, config, hplace, hload, hm⟩ := h
  obtain ⟨hhead, hstatic⟩ := Config.staticDir_of_load hload
  have hgiven := hdir.leadsStraight hplace
  have hcanonical := hcwd.canonical hgiven
  have hsame : ∀ p ∈ readByRoutes config, p ≠ [] → ∀ cwd' e,
      t.status cwd (dir.resolveFrom p) = .ok e
        ↔ t.status cwd' ((Tree.pathOf place).resolveFrom p) = .ok e := fun p hp hne cwd' =>
    (Tree.sameFit_iff hgiven (hcanonical cwd') hne).1 (hfits place config hplace hload p hp)
  rw [readByRoutes, List.forall_mem_cons, List.forall_mem_singleton] at hsame
  obtain ⟨hconfig, hdocument⟩ := hsame
  refine ⟨config, (Config.load_congr (hconfig (by decide) cwd)).2 hload, ?_⟩
  -- the manifest has the rules for the site below the path of the place
  obtain ⟨left, hends⟩ := Pipeline.exists_ends hm
  refine (Route.synthesize_congr (Tree.isFile_congr ?_)).trans hends.routes
  rw [resolveFrom_assoc _ hstatic hhead, resolveFrom_assoc _ hstatic hhead]
  exact hdocument (resolveFrom_ne_nil (.inl hstatic)) []

/-- If `package` succeeds on a directory that is given without links, in a working directory that
its own path leads to, then `routes` succeeds and prints the rules of the manifest, each on a line
of its own that shows the rule. Rules without blanks that these lines show say the same. -/
theorem routes_prints_manifest {args args' : List Text}
    (hpackage : parse args = some (.package dir json out parallel))
    (hroutes : parse args' = some (.routes dir))
    (hcwd : t.LeadsStraight [] (Tree.pathOf cwd) cwd) (hdir : t.CrossesNoLink cwd dir)
    (hfits : FitsAlike t cwd dir) (hexit : (run t cwd args).exitCode = 0) :
    ∃ m, Packages t cwd dir parallel m
      ∧ run t cwd args = reportManifest t cwd m json out
      ∧ run t cwd args' = { exitCode := 0, stdout := unlines (m.routes.map ruleLine), tree := t }
      ∧ (run t cwd args').stdout.lines = m.routes.map ruleLine
      ∧ List.Forall₂ Shows (run t cwd args').stdout.lines m.routes
      ∧ ∀ rules, (∀ r ∈ rules, NoBlanks r) →
        List.Forall₂ Shows (run t cwd args').stdout.lines rules →
        List.Forall₂ (fun r r' => r.same r' = true) rules m.routes := by
  have hrun : run t cwd args = runPackage t cwd dir json out parallel := by
    rw [run, hpackage]
  have hrun' : run t cwd args' = runRoutes t cwd dir := by
    rw [run, hroutes]
  rw [hrun] at hexit
  obtain ⟨m, hm⟩ := packages_of_exitCode hexit
  obtain ⟨config, hload, hrules⟩ := hm.routes hcwd hdir hfits
  have hprinted : run t cwd args'
      = { exitCode := 0, stdout := unlines (m.routes.map ruleLine), tree := t } := by
    rw [hrun']
    simp only [runRoutes, hload, hrules]
  have hlines : (run t cwd args').stdout.lines = m.routes.map ruleLine := by
    rw [hprinted]
    exact lines_of_synthesize hrules
  have hshows := shows_ruleLines m.routes
  rw [← hlines] at hshows
  exact ⟨m, hm, hrun.trans (runPackage_of_packages hm), hprinted, hlines, hshows,
    fun rules hblanks h => forall₂_same h hshows hblanks (noBlanks_of_synthesize hrules)⟩

/-- A site with a fallback document, and a directory beside it. -/
def answeredSite : Tree :=
  Import.projectWith [(["sub"], .dir), (["web"], .dir), (["web", "dist"], .dir),
    (["web", "dist", "200.html"], .file ByteArray.empty 0o644)]

/-- The place of that project. -/
def projectPlace : Place := ["p".toList]

theorem load_answeredSite (cwd : Place) :
    Config.load answeredSite cwd (Tree.pathOf projectPlace) = .ok {} := rfl

/-- Command lines that name a directory and nothing else. -/
def packageIn (dir : Path) : List Text := ["package".toList, dirOption, dir]

def routesIn (dir : Path) : List Text := ["routes".toList, dirOption, dir]

theorem readOptions_dir {valued flags : List Text} (hdir : dirOption ∈ valued)
    (hflag : dirOption ∉ flags) (hne : dir ≠ []) (hoption : isOption dir = false) :
    readOptions valued flags {} [dirOption, dir] = some { values := [(dirOption, dir)] } := by
  have hdashes : dirOption ≠ ['-', '-'] := by decide
  simp [readOptions, setValue, hdir, hflag, hne, hoption, hdashes]

theorem parse_packageIn (hne : dir ≠ []) (hoption : isOption dir = false) :
    parse (packageIn dir) = some (.package dir false none false) := by
  have hread : readOptions [dirOption, outOption] [jsonFlag, parallelFlag] {} [dirOption, dir]
      = some { values := [(dirOption, dir)] } :=
    readOptions_dir (by decide) (by decide) hne hoption
  show (readOptions [dirOption, outOption] [jsonFlag, parallelFlag] {} [dirOption, dir]).bind _ = _
  rw [hread]
  rfl

theorem parse_routesIn (hne : dir ≠ []) (hoption : isOption dir = false) :
    parse (routesIn dir) = some (.routes dir) := by
  have hread : readOptions [dirOption] [] {} [dirOption, dir]
      = some { values := [(dirOption, dir)] } :=
    readOptions_dir (by decide) (by decide) hne hoption
  show (readOptions [dirOption] [] {} [dirOption, dir]).bind _ = _
  rw [hread]
  rfl

/-- However the directory of that project is spelled, its fallback leads to the document. -/
theorem exists_packages_answeredSite
    (hdir : answeredSite.LeadsStraight projectPlace dir projectPlace) (hne : dir ≠ [])
    (hshort : dir.bytes.length ≤ Tree.pathLimit) :
    ∃ m, Packages answeredSite projectPlace dir false m
      ∧ m.routes = [Route.fallbackRule "/200".toList] := by
  have hlocate : answeredSite.locate true projectPlace dir = .ok projectPlace :=
    Tree.locate_eq_ok_iff.2 ⟨hne, hdir.noNul, hshort,
      Tree.follow_of_ends (.arrived hdir.arrives) (Nat.zero_le _)⟩
  obtain ⟨m, hm, -⟩ := Pipeline.exists_manifest answeredSite (Tree.pathOf projectPlace) {}
    (Import.resolver answeredSite.visitLimit) (fun m => m.outputs.keys)
    (show _ = some ["200".toList] by decide +kernel)
  obtain ⟨left, hends⟩ := Pipeline.exists_ends hm
  have hdestination : Route.fallbackDestination answeredSite []
      ((Tree.pathOf projectPlace).resolveFrom "web/dist".toList) {} = "/200".toList := by
    decide +kernel
  refine ⟨m, ⟨projectPlace, {}, hlocate, load_answeredSite _, hm⟩, ?_⟩
  rw [Route.synthesize_eq_ok hends.routes]
  exact congrArg (fun destination => [Route.fallbackRule destination]) hdestination

theorem exitCode_packageIn (h : Packages t cwd dir false m) (hne : dir ≠ [])
    (hoption : isOption dir = false) : (run t cwd (packageIn dir)).exitCode = 0 := by
  rw [run, parse_packageIn hne hoption]
  exact congrArg Report.exitCode (runPackage_of_packages h)

theorem routes_prints_manifest_answeredSite :
    answeredSite.CrossesNoLink projectPlace "sub/..".toList
      ∧ FitsAlike answeredSite projectPlace "sub/..".toList
      ∧ (run answeredSite projectPlace (packageIn "sub/..".toList)).exitCode = 0
      ∧ ∃ m, Packages answeredSite projectPlace "sub/..".toList false m
        ∧ (run answeredSite projectPlace (routesIn "sub/..".toList)).stdout.lines
          = m.routes.map ruleLine
        ∧ List.Forall₂ Shows
          (run answeredSite projectPlace (routesIn "sub/..".toList)).stdout.lines m.routes := by
  have hcwd : answeredSite.LeadsStraight [] (Tree.pathOf projectPlace) projectPlace :=
    ⟨by decide, rfl⟩
  have hdir : answeredSite.LeadsStraight projectPlace "sub/..".toList projectPlace :=
    ⟨by decide, rfl⟩
  have hfits : FitsAlike answeredSite projectPlace "sub/..".toList := by
    intro place config hplace hload
    cases hplace.symm.trans (show _ = .ok projectPlace from rfl)
    cases hload.symm.trans (load_answeredSite _)
    rw [readByRoutes, List.forall_mem_cons, List.forall_mem_singleton]
    constructor
    · exact fun _ => iff_of_true (by decide) (by decide)
    · exact fun _ => iff_of_true (by decide) (by decide)
  obtain ⟨_, hpackages, -⟩ := exists_packages_answeredSite hdir (by decide) (by decide)
  have hexit := exitCode_packageIn hpackages (by decide) (by decide)
  obtain ⟨m, hm, -, -, hlines, hshows, -⟩ := routes_prints_manifest
    (parse_packageIn (by decide) (by decide)) (parse_routesIn (by decide) (by decide))
    hcwd hdir.crossesNoLink hfits hexit
  exact ⟨hdir.crossesNoLink, hfits, hexit, m, hm, hlines, hshows⟩

/-! ## A directory that is too long -/

/-- To `routes` a directory looks empty that is too long for the configuration file below it. -/
theorem runRoutes_of_long (h : Tree.pathLimit < dir.bytes.length + Config.fileName.bytes.length) :
    runRoutes t cwd dir = { exitCode := 0
                            stdout := unlines [ruleLine (Route.fallbackRule "/index".toList)]
                            tree := t } := by
  -- a path of this length cannot be opened, and that looks as if nothing were there
  have hlong : ∀ {p : Path}, dir.bytes.length + Config.fileName.bytes.length ≤ p.bytes.length →
      ∀ e, t.status cwd p ≠ .ok e := by
    intro p hp e he
    obtain ⟨q, hq, -⟩ := Tree.entryAt_eq_ok.1 he
    obtain ⟨-, -, hshort⟩ := Tree.openable_of_locate hq
    omega
  have hconfig : t.isThere cwd (dir.resolveFrom Config.fileName) = false := by
    rw [← Bool.not_eq_true, Tree.isThere_iff]
    rintro ⟨e, he⟩
    exact hlong (length_add_le_resolveFrom dir (by decide)) e he
  have hsite := length_add_le_resolveFrom dir
    (show "web/dist".toList.head? ≠ some '/' by decide)
  have hdocument : t.isFile cwd ((dir.resolveFrom "web/dist".toList).resolveFrom "200.html".toList)
      = false := by
    rw [← Bool.not_eq_true, Tree.isFile_iff]
    rintro ⟨content, permissions, hfile⟩
    refine hlong (le_trans ?_ (length_add_le_resolveFrom _ (by decide))) _ hfile
    have hnames : Config.fileName.bytes.length
        ≤ (Text.bytes "web/dist".toList).length + (Text.bytes "200.html".toList).length := by decide
    omega
  have hload : Config.load t cwd dir = .ok {} := by
    rw [Config.load_eq_ok_iff, hconfig]
    exact ⟨rfl, rfl⟩
  have hrules : Route.synthesize t cwd (dir.resolveFrom "web/dist".toList) {}
      = .ok [Route.fallbackRule "/index".toList] := by
    have hdestination : Route.fallbackDestination t cwd (dir.resolveFrom "web/dist".toList) {}
        = "/index".toList := by
      exact (if_neg (Bool.not_eq_true _ ▸ hdocument)).trans (by decide +kernel)
    rw [Route.synthesize_eq, hdestination]
    exact if_pos (by decide)
  rw [runRoutes, hload]
  dsimp only
  rw [hrules]
  rfl

/-- The directory itself, spelled with one dot after the other. -/
def dots : Nat → Path
  | 0 => ['.']
  | n + 1 => '.' :: '/' :: dots n

theorem dots_ne_nil : ∀ n, dots n ≠ []
  | 0 => by decide
  | n + 1 => by simp [dots]

theorem isOption_dots (n : Nat) : isOption (dots n) = false := by
  cases n <;> rfl

theorem length_bytes_dots : ∀ n, (dots n).bytes.length = 2 * n + 1
  | 0 => by decide
  | n + 1 => by
    rw [show dots (n + 1) = "./".toList ++ dots n from rfl, Text.length_bytes_append,
      length_bytes_dots n, show (Text.bytes "./".toList).length = 2 from by decide]
    omega

theorem leadsStraight_dots (h : t.get? cwd = some .dir) : ∀ n, t.LeadsStraight cwd (dots n) cwd
  | 0 => by
    have hwalk : Tree.walkNames ['.'] = [['.']] := by decide
    refine ⟨by decide, ?_⟩
    rw [dots, hwalk, Tree.advance, show Tree.startOf cwd ['.'] = cwd from rfl, h]
    rfl
  | n + 1 => by
    have hn := leadsStraight_dots h n
    refine ⟨by simpa [dots] using hn.noNul, ?_⟩
    have hwalk : Tree.walkNames (dots (n + 1)) = ['.'] :: Tree.walkNames (dots n) :=
      Tree.walkNames_at_slash ['.'] (dots_ne_nil n)
    have hstart : Tree.startOf cwd (dots n) = cwd := by
      cases n <;> rfl
    have harrives := hn.arrives
    rw [hstart] at harrives
    rw [hwalk, show Tree.startOf cwd (dots (n + 1)) = cwd from rfl, Tree.advance, h]
    exact harrives

/-- A directory that is spelled so long that nothing below it can be opened is packaged with its
fallback document, and `routes` goes to the index. -/
theorem long_directory_hides_document :
    answeredSite.CrossesNoLink projectPlace (dots 2045)
      ∧ (run answeredSite projectPlace (packageIn (dots 2045))).exitCode = 0
      ∧ ∃ m, Packages answeredSite projectPlace (dots 2045) false m
        ∧ m.routes.map RouteRule.destination = ["/200".toList]
        ∧ (run answeredSite projectPlace (routesIn (dots 2045))).stdout.lines =
          ["/(.*) -> /index  (src: ^/(.*)$, clean_urls: true, trailing_slash: false)".toList] := by
  have hcwd : answeredSite.get? projectPlace = some .dir := rfl
  have hdots := leadsStraight_dots hcwd 2045
  have hlength := length_bytes_dots 2045
  have hshort : (dots 2045).bytes.length ≤ Tree.pathLimit := by
    rw [hlength]
    decide
  have hlong : Tree.pathLimit < (dots 2045).bytes.length + Config.fileName.bytes.length := by
    rw [hlength]
    decide
  obtain ⟨m, hm, hrules⟩ := exists_packages_answeredSite hdots (dots_ne_nil _) hshort
  refine ⟨hdots.crossesNoLink, exitCode_packageIn hm (dots_ne_nil _) (isOption_dots _), m, hm,
    by rw [hrules]; rfl, ?_⟩
  rw [run, parse_routesIn (dots_ne_nil _) (isOption_dots _)]
  dsimp only
  rw [runRoutes_of_long hlong]
  decide +kernel

end Command

end AppBundle
