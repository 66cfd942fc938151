import AppBundle.Proofs.Spelling

/-!
# What a scan asks for

A scan is put together from questions to the exclusions and from requests for files
(`Composed`), and it requests a file only after the exclusions were asked about its path. So,
whatever it is answered, it requests nothing that is excluded, and nothing that is spelled in any
other way than a normal path or a file of the project root (`composed_run`).

It has no error of its own: it fails exactly where a request is answered with an error, and with
that error (`Composed.fails_iff`).
-/

namespace AppBundle

open AppBundle.Path Reading

namespace Reading

variable {α β ε ε' : Type} {P : Path → Prop} {source source' : Path → Answer}

/-- Whatever it is answered, the reading asks only for paths that satisfy `P`. -/
def AsksIn (P : Path → Prop) : Reading α → Prop
  | done _ => True
  | ask p next => P p ∧ ∀ r, (next r).AsksIn P
  | stray _ => True

theorem AsksIn.bind {f : α → Reading β} (hf : ∀ a, (f a).AsksIn P) :
    ∀ {r : Reading α}, r.AsksIn P → (r >>= f).AsksIn P
  | done a, _ => hf a
  | ask _ _, h => ⟨h.1, fun r => AsksIn.bind hf (h.2 r)⟩
  | stray _, _ => trivial

theorem AsksIn.run_bind {r : ExceptT ε Reading α} {f : α → ExceptT ε Reading β}
    (h : r.run.AsksIn P) (hf : ∀ a, (f a).run.AsksIn P) : (r >>= f).run.AsksIn P := by
  rw [ExceptT.run_bind]
  refine h.bind fun a => ?_
  rcases a with e | a
  · trivial
  · exact hf a

theorem AsksIn.map {r : Reading α} (h : r.AsksIn P) (f : α → β) : (f <$> r).AsksIn P :=
  h.bind (f := fun a => done (f a)) fun _ => trivial

theorem AsksIn.run_adapt {r : ExceptT ε Reading α} (h : r.run.AsksIn P) (g : ε → ε') :
    (r.adapt g).run.AsksIn P := h.map _

/-- Two sources that agree on what a reading may ask for give it the same answer. -/
theorem AsksIn.answer_congr (hagree : ∀ p, P p → source p = source' p) :
    ∀ {r : Reading α}, r.AsksIn P → r.answer source = r.answer source'
  | done _, _ => rfl
  | stray _, _ => rfl
  | ask p next, h => by
    rw [answer, answer, hagree p h.1]
    exact AsksIn.answer_congr hagree (h.2 _)

theorem AsksIn.requests : ∀ {r : Reading α}, r.AsksIn P → ∀ p ∈ r.requests source, P p
  | done _, _, p, hp => by cases hp
  | stray _, _, p, hp => by cases hp
  | ask q next, h, p, hp => by
    rcases List.mem_cons.1 hp with rfl | hp
    · exact h.1
    · exact AsksIn.requests (h.2 _) p hp

end Reading

namespace Import

section Scans

/-- The scan is put together from questions to the exclusions and from requests for paths that
satisfy `P`. -/
inductive Composed (P : Path → Prop) (exclude : Ignore) : {γ : Type} → Scan γ → Prop
  | pure {γ : Type} (a : γ) : Composed P exclude (pure a)
  | ask {p : Path} (h : P p) : Composed P exclude (askFile p)
  | judge {γ : Type} {p : Path} {next : Bool → Scan γ}
      (h : ∀ b, exclude.check p = .ok b → Composed P exclude (next b)) :
      Composed P exclude (isExcluded exclude p >>= next)
  | bind {β γ : Type} {r : Scan β} {next : β → Scan γ} (hr : Composed P exclude r)
      (hnext : ∀ a, Composed P exclude (next a)) : Composed P exclude (r >>= next)

variable {P : Path → Prop} {γ : Type}

/-- A scan asks for nothing but what it is put together from. -/
theorem Composed.asksIn {exclude : Ignore} {r : Scan γ} (h : Composed P exclude r) :
    r.run.AsksIn P := by
  induction h with
  | pure a => trivial
  | ask h => exact ⟨h, fun _ => trivial⟩
  | @judge γ p next _ ih =>
    unfold isExcluded
    rcases hc : exclude.check p with s | b
    · trivial
    · exact ih b hc
  | bind _ _ ihr ihnext => exact ihr.run_bind ihnext

/-- A scan fails exactly where a request is answered with an error, and with that error. -/
theorem Composed.fails_iff {source : Path → Answer} {exclude : Ignore} {r : Scan γ}
    (h : Composed P exclude r) (e : AccessError) :
    Fails source r e ↔ ∃ p ∈ r.run.requests source, source p = .error e := by
  induction h with
  | pure a => exact iff_of_false not_fails_pure (by rintro ⟨p, hp, -⟩; cases hp)
  | @ask p h =>
    show Fails source (ExceptT.mk (file p)) e ↔ ∃ q ∈ [p], source q = .error e
    simp
  | @judge γ p next _ ih =>
    unfold isExcluded
    rcases hc : exclude.check p with s | b
    · exact iff_of_false not_fails_stray (by rintro ⟨q, hq, -⟩; cases hq)
    · exact ih b hc
  | bind _ _ ihr ihnext =>
    simp only [fails_bind, mem_requests_run_bind, ihr, ihnext]
    constructor
    · rintro (⟨p, hp, he⟩ | ⟨a, ha, p, hp, he⟩)
      · exact ⟨p, .inl hp, he⟩
      · exact ⟨p, .inr ⟨a, ha, hp⟩, he⟩
    · rintro ⟨p, hp | ⟨a, ha, hp⟩, he⟩
      · exact .inl ⟨p, hp, he⟩
      · exact .inr ⟨a, ha, p, hp, he⟩

variable {options : ScanOptions}
  (hP : ∀ p, Spelled options.typescript p → options.exclude.check p = .ok false → P p)
include hP

/-- A lookup among candidates requests those that are not excluded. -/
theorem composed_probeFirst : ∀ {cs : List Path} {anyExcluded : Bool},
    (∀ c ∈ cs, Spelled options.typescript c) →
      Composed P options.exclude (probeFirst options.exclude anyExcluded cs)
  | [], _, _ => .pure _
  | c :: cs, anyExcluded, hcs => by
    obtain ⟨hc, hcs⟩ := List.forall_mem_cons.1 hcs
    refine .judge fun b hb => ?_
    cases b with
    | true => exact composed_probeFirst hcs
    | false =>
      refine .bind (.ask (hP c hc hb)) fun found => ?_
      cases found with
      | some file => exact .pure _
      | none => exact composed_probeFirst hcs

theorem composed_probeModule {base : Path} (hbase : base.Normal) :
    Composed P options.exclude (probeModule options base) :=
  composed_probeFirst hP fun _ hc => candidate_spelled hbase hc

theorem composed_probeIn (dialect : Dialect) {subpath : Option Text} {package : Path}
    (hpackage : package.Normal) {farther : Scan (Probe × Finds)}
    (hfarther : Composed P options.exclude farther) :
    ∀ m, Composed P options.exclude (probeIn options dialect subpath package farther m)
  | some m => by
    unfold probeIn
    dsimp only
    split
    · rename_i target htarget
      exact .bind (composed_probeModule hP (targetOf_normal hpackage htarget)) fun _ => .pure _
    · exact .pure _
  | none => by
    unfold probeIn
    dsimp only
    split
    · exact hfarther
    · rename_i target htarget
      refine .bind (composed_probeModule hP (insideOf_normal hpackage htarget)) fun probe => ?_
      cases probe with
      | missing => exact hfarther
      | found p file => exact .pure _
      | excluded => exact .pure _

theorem composed_probePackage {dialect : Dialect} {name : Text} {subpath : Option Text} :
    ∀ {bases : List Path},
      Composed P options.exclude (probePackage options dialect name subpath bases)
  | [] => .pure _
  | base :: bases => by
    have ih : Composed P options.exclude (probePackage options dialect name subpath bases) :=
      composed_probePackage
    rw [probePackage_cons]
    split
    · exact ih
    · rename_i package hdir
      have hpackage := packageDir?_normal hdir
      refine .judge fun b hb => ?_
      cases b with
      | true => exact composed_probeIn hP dialect hpackage ih none
      | false =>
        exact .bind (.ask (hP _ (manifestOf_spelled hpackage) hb))
          (composed_probeIn hP dialect hpackage ih)

theorem composed_probeRequest {dialect : Dialect} {dir : Path} {request : Request} :
    Composed P options.exclude (probeRequest options dialect dir request) := by
  unfold probeRequest
  split
  · split
    · rename_i base hbase
      exact .bind (composed_probeModule hP (normal_of_join hbase)) fun _ => .pure _
    · exact .pure _
  · exact .pure _
  · exact .pure _
  · exact .bind (composed_probePackage hP) fun _ => .pure _

theorem composed_followSpecifier {importer : Path} {dialect : Dialect} {specifier : Text} :
    Composed P options.exclude (followSpecifier options importer dialect specifier) := by
  refine .bind (composed_probeRequest hP) fun ⟨probe, finds⟩ => ?_
  rcases probe with _ | _ | _ | _ <;> exact .pure _

theorem composed_followSpecifiers {importer : Path} {dialect : Dialect} :
    ∀ {specifiers : List Text},
      Composed P options.exclude (followSpecifiers options importer dialect specifiers)
  | [] => .pure _
  | _ :: _ => .bind (composed_followSpecifier hP) fun _ =>
      .bind composed_followSpecifiers fun _ => .pure _

theorem composed_followLink {link target : Path} :
    Composed P options.exclude (followLink options link target) := by
  rw [followLink_eq]
  split
  · exact .pure _
  · rename_i resolved htarget
    have hresolved := normal_of_linkTarget htarget
    refine .judge fun b hb => ?_
    cases b with
    | true => exact .pure _
    | false =>
      refine .bind (.ask (hP _ (.inl hresolved) hb)) fun found => ?_
      cases found <;> exact .pure _

/-- A visit requests no other paths than such as are spelled and not excluded. -/
theorem composed_visit {p : Path} {file : ProjectFile} :
    Composed P options.exclude (visit options p file) := by
  unfold visit
  split
  · exact composed_followLink hP
  · exact composed_followSpecifiers hP

/-- A walk requests no others either. -/
theorem composed_run : ∀ {limit : Nat} {w : Walk},
    Composed P options.exclude (Walk.run options limit w)
  | limit, w => by
    rcases hq : w.queue with _ | ⟨⟨p, f⟩, queue⟩
    · rw [Walk.run_nil hq]
      exact .pure _
    · cases limit with
      | zero =>
        rw [Walk.run_zero hq]
        exact .pure _
      | succ limit =>
        rw [Walk.run_succ hq]
        exact .bind (composed_visit hP) fun _ => composed_run

end Scans

end Import

end AppBundle
