import AppBundle.Proofs.Requests

/-!
# Excluded files have no influence

Whatever it is answered, a scan asks for its entrypoint and for paths that are not excluded, and
for no other (`asksIn_resolver`): a lookup, a package manifest and a link each come to the
exclusions first. A reading that asks only for some paths comes to the same from any two sources
that agree on them (`AsksIn.answer_congr`), so what is excluded might as well not be there
(`excluded_without_influence`).
-/

namespace AppBundle

open Reading

namespace Import

section Resolver

variable {options : ScanOptions} {entrypoint : Path} {source source' : Path → Answer}

variable (options entrypoint) in
/-- A scan may ask for its entrypoint and for all that is not excluded. -/
def Permitted (p : Path) : Prop :=
  entrypoint.normalize = some p ∨ options.exclude.check p = .ok false

theorem asksIn_resolver (limit : Nat) :
    (resolver limit options entrypoint).run.AsksIn (Permitted options entrypoint) := by
  have hP : ∀ p, options.exclude.check p = .ok false → Permitted options entrypoint p :=
    fun _ => .inr
  unfold resolver
  split
  · trivial
  · rename_i entry hentry
    have hentryAsked : (askFile entry).run.AsksIn (Permitted options entrypoint) :=
      ⟨.inl hentry, fun _ => trivial⟩
    refine (hentryAsked.run_adapt _).run_bind fun found => ?_
    cases found with
    | none => trivial
    | some file =>
      refine ((composed_run fun p _ => hP p).asksIn.run_adapt _).run_bind fun r => ?_
      cases r <;> trivial

/-- Two sources that agree on the entrypoint and on all that is not excluded are scanned to the
same end, be it a resolution, an error or a stray path. Nothing that is excluded is asked for or
stands in a resolution, the entrypoint apart. -/
theorem excluded_without_influence (limit : Nat)
    (hagree : ∀ p, Permitted options entrypoint p → source p = source' p) :
    (resolver limit options entrypoint).run.answer source
        = (resolver limit options entrypoint).run.answer source'
      ∧ (∀ p ∈ (resolver limit options entrypoint).run.requests source,
          Permitted options entrypoint p)
      ∧ ∀ r, Yields source (resolver limit options entrypoint) r →
          ∀ p ∈ r.files, Permitted options entrypoint p := by
  refine ⟨(asksIn_resolver limit).answer_congr hagree, (asksIn_resolver limit).requests,
    fun r hr p hp => ?_⟩
  obtain ⟨entry, hentry, hreached⟩ := mem_files_iff_reached hr
  cases (hreached p).1 hp with
  | refl => exact .inl hentry
  | tail _ hlead =>
    obtain ⟨_, -, g, hq⟩ := hlead
    exact .inr hq.available.1

/-- An entrypoint that asks for one other path, about which the source gives an answer. -/
def askingForB (answer : Answer) (p : Path) : Answer :=
  if p = "a.js".toList then .ok (some (textFile p "require('./b.js')"))
  else if p = "b.js".toList then answer
  else .ok none

/-- A list that excludes that path. -/
def excludingB : Ignore :=
  match Ignore.build "/p".toList ["b.js".toList] with
  | .ok exclude => exclude
  | .error _ => .empty

theorem build_excludingB : Ignore.build "/p".toList ["b.js".toList] = .ok excludingB := by
  have hok : (Ignore.build "/p".toList ["b.js".toList]).isOk = true := by decide +kernel
  unfold excludingB
  split
  · rename_i exclude hbuild
    exact hbuild
  · rename_i e hbuild
    rw [hbuild] at hok
    cases hok

theorem excluded_without_influence_sibling :
    (∀ p, Permitted { exclude := excludingB } "a.js".toList p →
        askingForB (.ok (some (textFile p "require('c')"))) p
          = askingForB (.error (.unreadable p)) p)
      ∧ (resolver 1 { exclude := excludingB } "a.js".toList).run.answer
          (fun p => askingForB (.ok (some (textFile p "require('c')"))) p)
        = (resolver 1 { exclude := excludingB } "a.js".toList).run.answer
          (fun p => askingForB (.error (.unreadable p)) p) := by
  have hagree : ∀ p, Permitted { exclude := excludingB } "a.js".toList p →
      askingForB (.ok (some (textFile p "require('c')"))) p
        = askingForB (.error (.unreadable p)) p := by
    intro p hp
    have hne : p ≠ "b.js".toList := by
      rintro rfl
      exact absurd hp (by unfold Permitted; decide +kernel)
    simp only [askingForB, if_neg hne]
  exact ⟨hagree, (excluded_without_influence 1 hagree).1⟩

end Resolver

end Import

end AppBundle
