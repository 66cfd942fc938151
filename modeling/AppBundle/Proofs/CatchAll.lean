import AppBundle.Proofs.Accounts
import AppBundle.Proofs.Repeated

/-!
# What the fallback catches

The routing table of a site is one rule, the fallback, whose expression does not depend on the site
(`synthesize_eq_ok`). It is a slash, any characters but line feeds, and the end of the text, and so
it matches the requests of one line that start with a slash (`isMatch_catchAllRegex`). Whoever
makes a routing table therefore gets a fallback for these requests, and for no others.
-/

namespace AppBundle

namespace Route

open Regex

variable {t : Tree} {cwd : Place} {staticRoot : Path} {settings : RouteSettings}

/-- The expression of the source that catches all. -/
def catchAllRegex : Regex :=
  .seq (.look .textStart) (.seq (.oneOf (.single '/'))
    (.seq (.rep (.oneOf (.compl (.single '\n'))) 0 none) (.look .textEnd)))

theorem pieces_catchAll : pieces catchAll = .ok [.literal '/', .group "(.*)".toList] := by
  decide +kernel

theorem compile_catchAll : compile catchAll = .ok ("^/(.*)$".toList, catchAllRegex) := by
  rw [compile, pieces_catchAll]
  rfl

theorem mem_dot {c : Char} : (CharSet.compl (.single '\n')).mem c.toNat = true ↔ c ≠ '\n' := by
  rw [CharSet.mem, Bool.not_eq_true', ← Bool.not_eq_true, CharSet.mem_single]

theorem isMatch_catchAllRegex {request : Text} :
    catchAllRegex.isMatch request = true ↔ ∃ rest, request = '/' :: rest ∧ '\n' ∉ rest := by
  rw [catchAllRegex, isMatch_textStart]
  simp only [mem_ends_seq, mem_ends_oneOf, CharSet.mem_single, mem_ends_rep_oneOf, mem_dot,
    mem_ends_look]
  constructor
  · rintro ⟨e, slash, ⟨c, hrequest, -, rfl⟩, last, ⟨passed, -, hpassed, -, hall⟩, rfl, hend⟩
    have hnil : e.rest = [] := by simpa [Look.holds] using hend
    refine ⟨passed, by simpa [hpassed, hnil] using hrequest, fun hmem => hall _ hmem rfl⟩
  · rintro ⟨rest, rfl, hrest⟩
    have hall : ∀ c ∈ rest, c ≠ '\n' := fun c hc hline => hrest (hline ▸ hc)
    exact ⟨⟨rest.getLast?.or (some '/'), []⟩, ⟨some '/', rest⟩, ⟨'/', rfl, rfl, rfl⟩, _,
      ⟨rest, Nat.zero_le _, (List.append_nil rest).symm, rfl, hall⟩, rfl, rfl⟩

/-- The rule of the source that catches all. -/
def fallbackRule (destination : Text) : RouteRule :=
  ⟨catchAll, destination, true, false, "^/(.*)$".toList, catchAllRegex⟩

/-- The routing table of a site is the fallback alone. -/
theorem synthesize_eq : synthesize t cwd staticRoot settings =
    if isDestination (fallbackDestination t cwd staticRoot settings) then
      .ok [fallbackRule (fallbackDestination t cwd staticRoot settings)]
    else .error (.invalidDestination (fallbackDestination t cwd staticRoot settings)) := by
  unfold synthesize ruleOf
  simp only [compile_catchAll]
  split <;> rfl

theorem synthesize_eq_ok {rules : List RouteRule}
    (h : synthesize t cwd staticRoot settings = .ok rules) :
    rules = [fallbackRule (fallbackDestination t cwd staticRoot settings)] := by
  rw [synthesize_eq] at h
  split at h
  · exact (Except.ok.inj h).symm
  · cases h

/-- There is a last rule, and it matches the requests that start with a slash and have no line feed,
and no others. -/
def CatchesLines (rules : List RouteRule) : Prop :=
  ∃ rule, rules.getLast? = some rule
    ∧ ∀ request, rule.isMatch request = true ↔ ∃ rest, request = '/' :: rest ∧ '\n' ∉ rest

theorem catchesLines_synthesize {rules : List RouteRule}
    (h : synthesize t cwd staticRoot settings = .ok rules) : CatchesLines rules := by
  rw [synthesize_eq_ok h]
  exact ⟨_, rfl, fun request => isMatch_catchAllRegex⟩

end Route

namespace Pipeline

variable {t : Tree} {project : Path} {config : Config} {resolver : Resolver} {m : Manifest}
  {left : Snapshot}

theorem Ends.routes (h : Ends t project config resolver m left) :
    Route.synthesize t [] (project.resolveFrom config.layout.staticDir) config.routes
      = .ok m.routes := by
  obtain ⟨s, d, results, hs, -, -, hm⟩ := sequential_eq_ok h.sequential
  obtain ⟨functions, assets, all, routes, -, -, -, hroutes, rfl⟩ := assemble_eq_ok hm
  obtain ⟨exclude, limits, -, -, rfl⟩ := prepare_eq_ok hs
  exact hroutes

/-- A routing table of a project is one that is synthesized for it, or the one of the manifest that
a run ends with. -/
inductive IsTable (t : Tree) : List RouteRule → Prop
  | synthesized {cwd : Place} {staticRoot : Path} {settings : RouteSettings}
      {rules : List RouteRule} (h : Route.synthesize t cwd staticRoot settings = .ok rules) :
      IsTable t rules
  | ran {project : Path} {config : Config} {resolver : Resolver} {m : Manifest} {left : Snapshot}
      (h : Ends t project config resolver m left) : IsTable t m.routes

/-- Every routing table ends with a rule that catches the requests of one line, and no others. -/
theorem fallback_catches_lines {rules : List RouteRule} (h : IsTable t rules) :
    Route.CatchesLines rules := by
  cases h with
  | synthesized h => exact Route.catchesLines_synthesize h
  | ran h => exact Route.catchesLines_synthesize h.routes

theorem fallback_catches_lines_functionsAndSite :
    (∃ rules, Route.synthesize functionsAndSite [] "/p/web/dist".toList {} = .ok rules
      ∧ Route.CatchesLines rules)
    ∧ ∃ m left, Ends functionsAndSite "/p".toList {} (Import.resolver 1) m left
      ∧ Route.CatchesLines m.routes := by
  obtain ⟨m, hm, -⟩ := exists_manifest functionsAndSite "/p".toList {} (Import.resolver 1)
    (fun m => m.outputs.keys) (show _ = some ["api/a".toList, "x.txt".toList] by decide +kernel)
  obtain ⟨left, hends⟩ := exists_ends hm
  have hrules : Route.synthesize functionsAndSite [] "/p/web/dist".toList {}
      = .ok [Route.fallbackRule "/index".toList] := by
    rw [Route.synthesize_eq]
    exact if_pos (by decide +kernel)
  exact ⟨⟨_, hrules, fallback_catches_lines (.synthesized hrules)⟩, m, left, hends,
    fallback_catches_lines (.ran hends)⟩

/-- A request with a line feed goes past the fallback. -/
theorem line_feed_passes_fallback :
    ∃ m left, ∃ rule, Ends functionsAndSite "/p".toList {} (Import.resolver 1) m left
      ∧ m.fallback? = some rule ∧ rule.isMatch "/a\nb".toList = false := by
  obtain ⟨m, hm, hlook⟩ := exists_manifest functionsAndSite "/p".toList {} (Import.resolver 1)
    (fun m => m.fallback?.map fun rule => rule.isMatch "/a\nb".toList)
    (show _ = some (some false) by decide +kernel)
  obtain ⟨left, hends⟩ := exists_ends hm
  obtain ⟨rule, hrule, hmatch⟩ := Option.map_eq_some_iff.1 hlook
  exact ⟨m, left, rule, hends, hrule, hmatch⟩

end Pipeline

end AppBundle
