import AppBundle.Import.Walk
import AppBundle.Proofs.Reading

/-!
# Where a specifier leads

A lookup takes the first of its candidates that is neither excluded nor absent, a package lookup
the nearest directory that has the package. `Lookup` says this of the answers alone, without the
order in which a lookup asks for them.

The lookups of the walk are exactly these (`yields_probeRequest`), and one strays exactly where it
comes to a path that no exclusion can speak of (`strays_probeRequest`).
-/

namespace AppBundle

namespace Import

open Reading

/-- A list has an entry that satisfies `Q`, and all entries before it satisfy `P`. -/
def FirstWhere {γ : Type} (P Q : γ → Prop) (l : List γ) : Prop :=
  ∃ before x after, l = before ++ x :: after ∧ (∀ b ∈ before, P b) ∧ Q x

section FirstWhere

variable {γ : Type} {P Q : γ → Prop}

@[simp] theorem not_firstWhere_nil : ¬ FirstWhere P Q [] := by
  rintro ⟨before, x, after, h, -⟩
  simp at h

/-- The first entry is the one, or it is passed and one behind it is. -/
theorem firstWhere_cons {x : γ} {l : List γ} :
    FirstWhere P Q (x :: l) ↔ Q x ∨ P x ∧ FirstWhere P Q l := by
  constructor
  · rintro ⟨before, y, after, h, hP, hQ⟩
    cases before with
    | nil =>
      cases h
      exact .inl hQ
    | cons b before =>
      cases h
      exact .inr ⟨hP x List.mem_cons_self,
        before, y, after, rfl, fun b hb => hP b (List.mem_cons_of_mem _ hb), hQ⟩
  · rintro (hQ | ⟨hP, before, y, after, rfl, hPs, hQ⟩)
    · exact ⟨[], x, l, rfl, by simp, hQ⟩
    · refine ⟨x :: before, y, after, rfl, fun b hb => ?_, hQ⟩
      rcases List.mem_cons.1 hb with rfl | hb
      · exact hP
      · exact hPs b hb

theorem FirstWhere.exists_mem {l : List γ} (h : FirstWhere P Q l) : ∃ x ∈ l, Q x := by
  obtain ⟨before, x, after, rfl, -, hQ⟩ := h
  exact ⟨x, by simp, hQ⟩

/-- What belongs to the entry can be named before or after it. -/
theorem firstWhere_exists {δ : Type} {R : γ → δ → Prop} {Q : δ → Prop} {l : List γ} :
    FirstWhere P (fun x => ∃ c, R x c ∧ Q c) l ↔ ∃ c, FirstWhere P (fun x => R x c) l ∧ Q c := by
  constructor
  · rintro ⟨before, x, after, rfl, hP, c, hR, hQ⟩
    exact ⟨c, ⟨before, x, after, rfl, hP, hR⟩, hQ⟩
  · rintro ⟨c, ⟨before, x, after, rfl, hP, hR⟩, hQ⟩
    exact ⟨before, x, after, rfl, hP, c, hR, hQ⟩

end FirstWhere

variable (source : Path → Answer)

/-! ## Candidates -/

section Candidates

variable (exclude : Ignore)

/-- The path is not excluded and the file is there. -/
def Available (p : Path) (file : ProjectFile) : Prop :=
  exclude.check p = .ok false ∧ source p = .ok (some file)

/-- The path is not excluded and nothing is there. -/
def Absent (p : Path) : Prop := exclude.check p = .ok false ∧ source p = .ok none

/-- A lookup goes on behind the path. -/
def Passed (p : Path) : Prop := exclude.check p = .ok true ∨ Absent source exclude p

/-- Where a lookup among candidates ends that has met an excluded path before or not. -/
def ProbedFrom (anyExcluded : Bool) (cs : List Path) : Probe → Prop
  | .found p file =>
    FirstWhere (Passed source exclude) (fun c => c = p ∧ Available source exclude p file) cs
  | .excluded =>
    (∀ c ∈ cs, Passed source exclude c)
      ∧ (anyExcluded = true ∨ ∃ c ∈ cs, exclude.check c = .ok true)
  | .missing => anyExcluded = false ∧ ∀ c ∈ cs, Absent source exclude c

/-- Where a lookup among candidates ends. -/
abbrev Probed (cs : List Path) (probe : Probe) : Prop := ProbedFrom source exclude false cs probe

/-- A lookup among candidates comes to one of them. -/
def ComesTo (cs : List Path) (c : Path) : Prop := FirstWhere (Passed source exclude) (· = c) cs

variable {source exclude}

@[simp] theorem yields_askFile {p : Path} {found : Option ProjectFile} :
    Yields source (askFile p) found ↔ source p = .ok found := yields_file

@[simp] theorem not_strays_askFile {p : Path} : ¬ Strays source (askFile p) := not_strays_file

/-- Asking whether a path is excluded yields what the exclusions say of it. -/
@[simp] theorem yields_isExcluded {p : Path} {b : Bool} :
    Yields source (isExcluded exclude p) b ↔ exclude.check p = .ok b := by
  unfold isExcluded
  rcases exclude.check p with s | b'
  · simp
  · simp

@[simp] theorem strays_isExcluded {p : Path} :
    Strays source (isExcluded exclude p) ↔ ∃ s, exclude.check p = .error s := by
  unfold isExcluded
  rcases exclude.check p with s | b
  · simp
  · simp

/-- A lookup does not go on behind a file that is there. -/
theorem Available.not_passed {p : Path} {f : ProjectFile} (h : Available source exclude p f) :
    ¬ Passed source exclude p := by
  rintro (hexcluded | ⟨-, hnone⟩)
  · cases h.1.symm.trans hexcluded
  · cases h.2.symm.trans hnone

/-- A lookup passes an excluded candidate and remembers it, ends at one that is there, and passes
one that is not. -/
theorem probedFrom_cons {anyExcluded : Bool} {c : Path} {cs : List Path} {probe : Probe} :
    ProbedFrom source exclude anyExcluded (c :: cs) probe ↔
      exclude.check c = .ok true ∧ ProbedFrom source exclude true cs probe
        ∨ (∃ file, Available source exclude c file ∧ probe = .found c file)
        ∨ Absent source exclude c ∧ ProbedFrom source exclude anyExcluded cs probe := by
  unfold Available Absent
  cases probe with
  | found p file =>
    simp only [ProbedFrom, firstWhere_cons, Passed, Absent, Available]
    constructor
    · rintro (⟨rfl, hp⟩ | ⟨hc | hc, h⟩)
      · exact .inr (.inl ⟨file, hp, rfl⟩)
      · exact .inl ⟨hc, h⟩
      · exact .inr (.inr ⟨hc, h⟩)
    · rintro (⟨hc, h⟩ | ⟨file', hp, hf⟩ | ⟨hc, h⟩)
      · exact .inr ⟨.inl hc, h⟩
      · cases hf
        exact .inl ⟨rfl, hp⟩
      · exact .inr ⟨.inr hc, h⟩
  | excluded =>
    simp only [ProbedFrom, List.mem_cons, forall_eq_or_imp, exists_eq_or_imp, Passed, Absent]
    grind
  | missing =>
    simp only [ProbedFrom, List.forall_mem_cons, Absent]
    grind

/-- A lookup among candidates ends where `ProbedFrom` says. -/
theorem yields_probeFirst {cs : List Path} {anyExcluded : Bool} {probe : Probe} :
    Yields source (probeFirst exclude anyExcluded cs) probe
      ↔ ProbedFrom source exclude anyExcluded cs probe := by
  induction cs generalizing anyExcluded with
  | nil =>
    rw [probeFirst, yields_pure]
    cases probe <;> cases anyExcluded <;> simp [ProbedFrom]
  | cons c cs ih =>
    rw [probeFirst, yields_bind, probedFrom_cons]
    simp only [yields_isExcluded]
    constructor
    · rintro ⟨b, hb, h⟩
      cases b with
      | true => exact .inl ⟨hb, ih.1 h⟩
      | false =>
        obtain ⟨found, hfound, h⟩ := yields_bind.1 h
        rw [yields_askFile] at hfound
        cases found with
        | none => exact .inr (.inr ⟨⟨hb, hfound⟩, ih.1 h⟩)
        | some file => exact .inr (.inl ⟨file, ⟨hb, hfound⟩, (yields_pure.1 h).symm⟩)
    · rintro (⟨hb, h⟩ | ⟨file, ⟨hb, hfile⟩, rfl⟩ | ⟨⟨hb, hnone⟩, h⟩)
      · exact ⟨true, hb, ih.2 h⟩
      · exact ⟨false, hb, yields_bind.2 ⟨some file, yields_askFile.2 hfile, yields_pure.2 rfl⟩⟩
      · exact ⟨false, hb, yields_bind.2 ⟨none, yields_askFile.2 hnone, ih.2 h⟩⟩

/-- A lookup among candidates strays where it comes to one that no exclusion can speak of. -/
theorem strays_probeFirst {cs : List Path} {anyExcluded : Bool} :
    Strays source (probeFirst exclude anyExcluded cs)
      ↔ ∃ c, ComesTo source exclude cs c ∧ ∃ s, exclude.check c = .error s := by
  unfold ComesTo
  rw [← firstWhere_exists]
  simp only [exists_eq_left']
  induction cs generalizing anyExcluded with
  | nil => simp [probeFirst]
  | cons c cs ih =>
    rw [probeFirst, strays_bind, firstWhere_cons, strays_isExcluded]
    refine or_congr_right ⟨?_, ?_⟩
    · rintro ⟨b, hb, h⟩
      rw [yields_isExcluded] at hb
      cases b with
      | true => exact ⟨.inl hb, ih.1 h⟩
      | false =>
        rcases strays_bind.1 h with h | ⟨found, hfound, h⟩
        · exact absurd h not_strays_askFile
        · rw [yields_askFile] at hfound
          cases found with
          | none => exact ⟨.inr ⟨hb, hfound⟩, ih.1 h⟩
          | some file => exact absurd h not_strays_pure
    · rintro ⟨hb | ⟨hb, hnone⟩, h⟩
      · exact ⟨true, yields_isExcluded.2 hb, ih.2 h⟩
      · exact ⟨false, yields_isExcluded.2 hb,
          strays_bind.2 (.inr ⟨none, yields_askFile.2 hnone, ih.2 h⟩)⟩

end Candidates

/-! ## Packages -/

section Packages

variable (options : ScanOptions) (dialect : Dialect) (name : Text) (subpath : Option Text)

/-- The directory of a package below a directory that may hold packages. -/
def packageDir? (base : Path) : Option Path :=
  if base.fileName = "node_modules".toList then none
  else base.join ("node_modules/".toList ++ name)

/-- The manifest of the package in a directory. -/
def manifestOf (package : Path) : Path := package ++ "/package.json".toList

/-- Where a package without a manifest is looked up. -/
def insideOf (package : Path) : Option Path :=
  match subpath with
  | some inside => package.join inside
  | none => some package

/-- Where a package with a manifest is looked up. -/
def targetOf (package : Path) (manifest : ProjectFile) : Option Path :=
  match (entryOf dialect subpath (manifestOf package) manifest).1 with
  | some entry => package.join entry
  | none => insideOf subpath package

/-- Nothing is there of the package; its lookup goes on farther up. -/
def PassedBase (base : Path) : Prop :=
  ∀ package, packageDir? name base = some package →
    Passed source options.exclude (manifestOf package)
      ∧ ∀ target, insideOf subpath package = some target →
        ∀ c ∈ candidates options.typescript target, Absent source options.exclude c

/-- The manifest that a package lookup consults below some directories, nearest first, and the
path that it comes down to. -/
inductive PackageTarget (bases : List Path) : Option (Path × ProjectFile) → Option Path → Prop
  | manifest {package : Path} {m : ProjectFile}
      (h : FirstWhere (PassedBase source options name subpath)
        (fun base => packageDir? name base = some package
          ∧ Available source options.exclude (manifestOf package) m) bases) :
      PackageTarget bases (some (manifestOf package, m)) (targetOf dialect subpath package m)
  | bare {package target : Path}
      (h : FirstWhere (PassedBase source options name subpath)
        (fun base => packageDir? name base = some package
          ∧ Passed source options.exclude (manifestOf package)
          ∧ insideOf subpath package = some target
          ∧ ¬ ∀ c ∈ candidates options.typescript target, Absent source options.exclude c) bases) :
      PackageTarget bases none (some target)
  | nowhere (h : ∀ base ∈ bases, PassedBase source options name subpath base) :
      PackageTarget bases none none

/-- Where a lookup ends that comes down to a path. -/
def ProbedAt : Option Path → Probe → Prop
  | some base, probe => Probed source options.exclude (candidates options.typescript base) probe
  | none, probe => probe = .missing

/-- What consulting a manifest yields. -/
def consultedFinds : Option (Path × ProjectFile) → Finds
  | some (p, m) => { files := [(p, m)], warnings := (entryOf dialect subpath p m).2 }
  | none => {}

variable {source options dialect name subpath}

theorem passedBase_of_none {base : Path} (h : packageDir? name base = none) :
    PassedBase source options name subpath base := by
  intro package hdir
  rw [h] at hdir
  cases hdir

theorem passedBase_iff {base package : Path} (h : packageDir? name base = some package) :
    PassedBase source options name subpath base ↔
      Passed source options.exclude (manifestOf package)
        ∧ ∀ target, insideOf subpath package = some target →
          ∀ c ∈ candidates options.typescript target, Absent source options.exclude c := by
  simp [PassedBase, h]

theorem packageTarget_nil {consulted : Option (Path × ProjectFile)} {target : Option Path} :
    PackageTarget source options dialect name subpath [] consulted target
      ↔ consulted = none ∧ target = none := by
  constructor
  · rintro (h | h | h)
    · exact absurd h not_firstWhere_nil
    · exact absurd h not_firstWhere_nil
    · exact ⟨rfl, rfl⟩
  · rintro ⟨rfl, rfl⟩
    exact .nowhere (by simp)

/-- A package is taken from the nearest directory if its manifest is there, or without one if
something is there of it, and else from one farther up. -/
theorem packageTarget_cons {base : Path} {bases : List Path}
    {consulted : Option (Path × ProjectFile)} {target : Option Path} :
    PackageTarget source options dialect name subpath (base :: bases) consulted target ↔
      (∃ package m, packageDir? name base = some package
          ∧ Available source options.exclude (manifestOf package) m
          ∧ consulted = some (manifestOf package, m)
          ∧ target = targetOf dialect subpath package m)
        ∨ (∃ package t, packageDir? name base = some package
            ∧ Passed source options.exclude (manifestOf package)
            ∧ insideOf subpath package = some t
            ∧ (¬ ∀ c ∈ candidates options.typescript t, Absent source options.exclude c)
            ∧ consulted = none ∧ target = some t)
        ∨ PassedBase source options name subpath base
          ∧ PackageTarget source options dialect name subpath bases consulted target := by
  constructor
  · rintro (h | h | h)
    · rcases firstWhere_cons.1 h with ⟨hdir, hm⟩ | ⟨hp, h⟩
      · exact .inl ⟨_, _, hdir, hm, rfl, rfl⟩
      · exact .inr (.inr ⟨hp, .manifest h⟩)
    · rcases firstWhere_cons.1 h with ⟨hdir, hm, hin, hsome⟩ | ⟨hp, h⟩
      · exact .inr (.inl ⟨_, _, hdir, hm, hin, hsome, rfl, rfl⟩)
      · exact .inr (.inr ⟨hp, .bare h⟩)
    · exact .inr (.inr ⟨h base List.mem_cons_self,
        .nowhere fun b hb => h b (List.mem_cons_of_mem _ hb)⟩)
  · rintro (⟨package, m, hdir, hm, rfl, rfl⟩ | ⟨package, t, hdir, hm, hin, hsome, rfl, rfl⟩
      | ⟨hp, h | h | h⟩)
    · exact .manifest (firstWhere_cons.2 (.inl ⟨hdir, hm⟩))
    · exact .bare (firstWhere_cons.2 (.inl ⟨hdir, hm, hin, hsome⟩))
    · exact .manifest (firstWhere_cons.2 (.inr ⟨hp, h⟩))
    · exact .bare (firstWhere_cons.2 (.inr ⟨hp, h⟩))
    · exact .nowhere (List.forall_mem_cons.2 ⟨hp, h⟩)

variable (source) in
/-- What asking for a manifest comes to unless it is excluded. -/
def Consulted (exclude : Ignore) (p : Path) : Option ProjectFile → Prop
  | some m => Available source exclude p m
  | none => Passed source exclude p

/-- Asking for a manifest only if it is not excluded takes an excluded one for absent. -/
theorem yields_unlessExcluded {exclude : Ignore} {p : Path} {γ : Type}
    {next : Option ProjectFile → Scan γ} {c : γ} :
    Yields source (do
        if ← isExcluded exclude p then
          let m ← pure none
          next m
        else
          let m ← askFile p
          next m) c
      ↔ ∃ found, Consulted source exclude p found ∧ Yields source (next found) c := by
  rw [yields_bind]
  constructor
  · rintro ⟨b, hb, h⟩
    rw [yields_isExcluded] at hb
    cases b with
    | true =>
      obtain ⟨found, hfound, h⟩ := yields_bind.1 h
      rw [yields_pure] at hfound
      subst hfound
      exact ⟨none, .inl hb, h⟩
    | false =>
      obtain ⟨found, hfound, h⟩ := yields_bind.1 h
      rw [yields_askFile] at hfound
      cases found with
      | none => exact ⟨none, .inr ⟨hb, hfound⟩, h⟩
      | some m => exact ⟨some m, ⟨hb, hfound⟩, h⟩
  · rintro ⟨_ | m, hm, h⟩
    · rcases hm with hb | ⟨hb, hnone⟩
      · exact ⟨true, yields_isExcluded.2 hb, yields_bind.2 ⟨none, yields_pure.2 rfl, h⟩⟩
      · exact ⟨false, yields_isExcluded.2 hb, yields_bind.2 ⟨none, yields_askFile.2 hnone, h⟩⟩
    · obtain ⟨hb, hsome⟩ := hm
      exact ⟨false, yields_isExcluded.2 hb, yields_bind.2 ⟨some m, yields_askFile.2 hsome, h⟩⟩

theorem strays_unlessExcluded {exclude : Ignore} {p : Path} {γ : Type}
    {next : Option ProjectFile → Scan γ} :
    Strays source (do
        if ← isExcluded exclude p then
          let m ← pure none
          next m
        else
          let m ← askFile p
          next m)
      ↔ (∃ s, exclude.check p = .error s)
        ∨ ∃ found, Consulted source exclude p found ∧ Strays source (next found) := by
  rw [strays_bind, strays_isExcluded]
  refine or_congr_right ⟨?_, ?_⟩
  · rintro ⟨b, hb, h⟩
    rw [yields_isExcluded] at hb
    cases b with
    | true =>
      rcases strays_bind.1 h with h | ⟨found, hfound, h⟩
      · exact absurd h not_strays_pure
      · rw [yields_pure] at hfound
        subst hfound
        exact ⟨none, .inl hb, h⟩
    | false =>
      rcases strays_bind.1 h with h | ⟨found, hfound, h⟩
      · exact absurd h not_strays_askFile
      · rw [yields_askFile] at hfound
        cases found with
        | none => exact ⟨none, .inr ⟨hb, hfound⟩, h⟩
        | some m => exact ⟨some m, ⟨hb, hfound⟩, h⟩
  · rintro ⟨_ | m, hm, h⟩
    · rcases hm with hb | ⟨hb, hnone⟩
      · exact ⟨true, yields_isExcluded.2 hb,
          strays_bind.2 (.inr ⟨none, yields_pure.2 rfl, h⟩)⟩
      · exact ⟨false, yields_isExcluded.2 hb,
          strays_bind.2 (.inr ⟨none, yields_askFile.2 hnone, h⟩)⟩
    · obtain ⟨hb, hsome⟩ := hm
      exact ⟨false, yields_isExcluded.2 hb,
        strays_bind.2 (.inr ⟨some m, yields_askFile.2 hsome, h⟩)⟩

/-- What a package lookup does in the directory of the package, with what it does farther up. -/
def probeIn (options : ScanOptions) (dialect : Dialect) (subpath : Option Text) (package : Path)
    (farther : Scan (Probe × Finds)) : Option ProjectFile → Scan (Probe × Finds)
  | some m => do
    let finds := consultedFinds dialect subpath (some (manifestOf package, m))
    match targetOf dialect subpath package m with
    | some t => return (← probeModule options t, finds)
    | none => return (.missing, finds)
  | none => do
    match insideOf subpath package with
    | none => farther
    | some t =>
      match ← probeModule options t with
      | .missing => farther
      | probe => return (probe, {})

/-- A package lookup goes through the directories one by one. -/
theorem probePackage_cons (base : Path) (bases : List Path) :
    probePackage options dialect name subpath (base :: bases)
      = match packageDir? name base with
        | none => probePackage options dialect name subpath bases
        | some package =>
          (do
            if ← isExcluded options.exclude (manifestOf package) then
              let m ← pure none
              probeIn options dialect subpath package
                (probePackage options dialect name subpath bases) m
            else
              let m ← askFile (manifestOf package)
              probeIn options dialect subpath package
                (probePackage options dialect name subpath bases) m) := by
  rw [probePackage]
  unfold packageDir?
  split
  · rfl
  · rcases base.join ("node_modules/".toList ++ name) with _ | package
    · rfl
    · dsimp only
      congr 1
      funext b
      congr 1
      all_goals
        congr 1
        funext manifest
        cases manifest with
        | none => rfl
        | some m =>
          simp only [probeIn, targetOf, consultedFinds, insideOf, manifestOf]
          rcases entryOf dialect subpath (package ++ "/package.json".toList) m with ⟨entry, ws⟩
          cases entry <;> cases subpath <;> rfl

theorem yields_probeModule {base : Path} {probe : Probe} :
    Yields source (probeModule options base) probe
      ↔ Probed source options.exclude (candidates options.typescript base) probe :=
  yields_probeFirst

theorem strays_probeModule {base : Path} :
    Strays source (probeModule options base)
      ↔ ∃ c, ComesTo source options.exclude (candidates options.typescript base) c
        ∧ ∃ s, options.exclude.check c = .error s :=
  strays_probeFirst

theorem probed_missing {base : Path} :
    Probed source options.exclude (candidates options.typescript base) .missing
      ↔ ∀ c ∈ candidates options.typescript base, Absent source options.exclude c := by
  simp [Probed, ProbedFrom]

/-- A lookup among candidates ends in one way only. -/
theorem Probed.unique {cs : List Path} {exclude : Ignore} {a b : Probe}
    (ha : Probed source exclude cs a) (hb : Probed source exclude cs b) : a = b :=
  (yields_probeFirst.2 ha).unique (yields_probeFirst.2 hb)

section Within

variable {package : Path} {farther : Scan (Probe × Finds)} {probe : Probe} {finds : Finds}

theorem yields_probeIn_some {m : ProjectFile} :
    Yields source (probeIn options dialect subpath package farther (some m)) (probe, finds)
      ↔ ProbedAt source options (targetOf dialect subpath package m) probe
        ∧ finds = consultedFinds dialect subpath (some (manifestOf package, m)) := by
  simp only [probeIn]
  rcases targetOf dialect subpath package m with _ | t
  · rw [yields_pure, Prod.mk.injEq, ProbedAt, eq_comm, and_congr_right_iff]
    exact fun _ => eq_comm
  · rw [yields_bind]
    simp only [yields_probeModule, yields_pure, Prod.mk.injEq, ProbedAt]
    constructor
    · rintro ⟨probe', h, rfl, rfl⟩
      exact ⟨h, rfl⟩
    · rintro ⟨h, rfl⟩
      exact ⟨probe, h, rfl, rfl⟩

theorem yields_probeIn_none :
    Yields source (probeIn options dialect subpath package farther none) (probe, finds)
      ↔ (∃ t, insideOf subpath package = some t
          ∧ (¬ ∀ c ∈ candidates options.typescript t, Absent source options.exclude c)
          ∧ Probed source options.exclude (candidates options.typescript t) probe ∧ finds = {})
        ∨ (∀ t, insideOf subpath package = some t →
            ∀ c ∈ candidates options.typescript t, Absent source options.exclude c)
          ∧ Yields source farther (probe, finds) := by
  simp only [probeIn]
  rcases insideOf subpath package with _ | t
  · simp
  · simp only [yields_bind, yields_probeModule, Option.some.injEq, exists_eq_left', forall_eq']
    rw [← probed_missing]
    constructor
    · rintro ⟨probe', hprobe, h⟩
      by_cases hm : probe' = .missing
      · subst hm
        exact .inr ⟨hprobe, h⟩
      · left
        have hend : Yields source (pure (probe', {}) : Scan (Probe × Finds)) (probe, finds) := by
          cases probe' with
          | missing => exact absurd rfl hm
          | found p file => exact h
          | excluded => exact h
        rw [yields_pure] at hend
        cases hend
        exact ⟨fun hmiss => hm (hprobe.unique hmiss), hprobe, rfl⟩
    · rintro (⟨hne, hprobe, rfl⟩ | ⟨hprobe, h⟩)
      · refine ⟨probe, hprobe, ?_⟩
        cases probe with
        | missing => exact absurd hprobe hne
        | found p file => exact yields_pure.2 rfl
        | excluded => exact yields_pure.2 rfl
      · exact ⟨.missing, hprobe, h⟩

theorem strays_probeIn_some {m : ProjectFile} :
    Strays source (probeIn options dialect subpath package farther (some m))
      ↔ ∃ t, targetOf dialect subpath package m = some t
        ∧ ∃ c, ComesTo source options.exclude (candidates options.typescript t) c
          ∧ ∃ s, options.exclude.check c = .error s := by
  simp only [probeIn]
  rcases targetOf dialect subpath package m with _ | t
  · simp
  · simp [strays_bind, strays_probeModule]

theorem strays_probeIn_none :
    Strays source (probeIn options dialect subpath package farther none)
      ↔ (∃ t, insideOf subpath package = some t
          ∧ ∃ c, ComesTo source options.exclude (candidates options.typescript t) c
            ∧ ∃ s, options.exclude.check c = .error s)
        ∨ (∀ t, insideOf subpath package = some t →
            ∀ c ∈ candidates options.typescript t, Absent source options.exclude c)
          ∧ Strays source farther := by
  simp only [probeIn]
  rcases insideOf subpath package with _ | t
  · simp
  · simp only [strays_bind, strays_probeModule, yields_probeModule, Option.some.injEq,
      exists_eq_left', forall_eq']
    rw [← probed_missing]
    refine or_congr_right ⟨?_, fun ⟨hprobe, h⟩ => ⟨.missing, hprobe, h⟩⟩
    rintro ⟨probe', hprobe, h⟩
    cases probe' with
    | missing => exact ⟨hprobe, h⟩
    | found p file => exact absurd h not_strays_pure
    | excluded => exact absurd h not_strays_pure

end Within

/-- A package lookup comes down to the path that `PackageTarget` tells and ends where a lookup of
that path does. -/
theorem yields_probePackage {bases : List Path} {probe : Probe} {finds : Finds} :
    Yields source (probePackage options dialect name subpath bases) (probe, finds)
      ↔ ∃ consulted target,
        PackageTarget source options dialect name subpath bases consulted target
          ∧ ProbedAt source options target probe
          ∧ finds = consultedFinds dialect subpath consulted := by
  induction bases with
  | nil =>
    rw [probePackage, yields_pure]
    constructor
    · intro h
      cases h
      exact ⟨none, none, packageTarget_nil.2 ⟨rfl, rfl⟩, rfl, rfl⟩
    · rintro ⟨consulted, target, h, hprobe, rfl⟩
      obtain ⟨rfl, rfl⟩ := packageTarget_nil.1 h
      rw [show probe = .missing from hprobe]
      rfl
  | cons base bases ih =>
    rw [probePackage_cons]
    rcases hdir : packageDir? name base with _ | package
    · simp only [ih, packageTarget_cons, hdir]
      simp [passedBase_of_none hdir]
    · simp only [yields_unlessExcluded]
      constructor
      · rintro ⟨_ | m, hm, h⟩
        · rcases yields_probeIn_none.1 h with ⟨t, hin, hsome, hprobe, rfl⟩ | ⟨habsent, h⟩
          · exact ⟨none, some t,
              packageTarget_cons.2 (.inr (.inl ⟨package, t, hdir, hm, hin, hsome, rfl, rfl⟩)),
              hprobe, rfl⟩
          · obtain ⟨consulted, target, htarget, hprobe, rfl⟩ := ih.1 h
            have hpassed := (passedBase_iff hdir).2 ⟨hm, habsent⟩
            exact ⟨consulted, target, packageTarget_cons.2 (.inr (.inr ⟨hpassed, htarget⟩)),
              hprobe, rfl⟩
        · obtain ⟨hprobe, rfl⟩ := yields_probeIn_some.1 h
          exact ⟨some (manifestOf package, m), _,
            packageTarget_cons.2 (.inl ⟨package, m, hdir, hm, rfl, rfl⟩), hprobe, rfl⟩
      · rintro ⟨consulted, target, htarget, hprobe, rfl⟩
        rcases packageTarget_cons.1 htarget with ⟨package', m, hdir', hm, rfl, rfl⟩
          | ⟨package', t, hdir', hm, hin, hsome, rfl, rfl⟩ | ⟨hpassed, htarget⟩
        · cases hdir.symm.trans hdir'
          exact ⟨some m, hm, yields_probeIn_some.2 ⟨hprobe, rfl⟩⟩
        · cases hdir.symm.trans hdir'
          exact ⟨none, hm, yields_probeIn_none.2 (.inl ⟨t, hin, hsome, hprobe, rfl⟩)⟩
        · obtain ⟨hm, habsent⟩ := (passedBase_iff hdir).1 hpassed
          exact ⟨none, hm, yields_probeIn_none.2 (.inr ⟨habsent,
            ih.2 ⟨consulted, target, htarget, hprobe, rfl⟩⟩)⟩

variable (source options dialect name subpath) in
/-- The paths that a package lookup asks the exclusions about and does not go on behind. -/
inductive PackageComesTo (bases : List Path) : Path → Prop
  | manifest {package : Path}
      (h : FirstWhere (PassedBase source options name subpath)
        (fun base => packageDir? name base = some package) bases) :
      PackageComesTo bases (manifestOf package)
  | candidate {consulted : Option (Path × ProjectFile)} {target c : Path}
      (h : PackageTarget source options dialect name subpath bases consulted (some target))
      (hc : ComesTo source options.exclude (candidates options.typescript target) c) :
      PackageComesTo bases c

/-- A package lookup comes to the manifest in the nearest directory, to the candidates that it finds
by way of it, or to what it comes to farther up. -/
theorem packageComesTo_cons {base : Path} {bases : List Path} {c : Path} :
    PackageComesTo source options dialect name subpath (base :: bases) c ↔
      (∃ package, packageDir? name base = some package ∧ c = manifestOf package)
        ∨ (∃ package m t, packageDir? name base = some package
            ∧ Available source options.exclude (manifestOf package) m
            ∧ targetOf dialect subpath package m = some t
            ∧ ComesTo source options.exclude (candidates options.typescript t) c)
        ∨ (∃ package t, packageDir? name base = some package
            ∧ Passed source options.exclude (manifestOf package)
            ∧ insideOf subpath package = some t
            ∧ (¬ ∀ c ∈ candidates options.typescript t, Absent source options.exclude c)
            ∧ ComesTo source options.exclude (candidates options.typescript t) c)
        ∨ PassedBase source options name subpath base
          ∧ PackageComesTo source options dialect name subpath bases c := by
  constructor
  · rintro (h | ⟨h, hc⟩)
    · rcases firstWhere_cons.1 h with hdir | ⟨hp, h⟩
      · exact .inl ⟨_, hdir, rfl⟩
      · exact .inr (.inr (.inr ⟨hp, .manifest h⟩))
    · rcases packageTarget_cons.1 h with ⟨package, m, hdir, hm, -, ht⟩
        | ⟨package, _, hdir, hm, hin, hsome, -, ht⟩ | ⟨hp, h⟩
      · exact .inr (.inl ⟨package, m, _, hdir, hm, ht.symm, hc⟩)
      · cases ht
        exact .inr (.inr (.inl ⟨package, _, hdir, hm, hin, hsome, hc⟩))
      · exact .inr (.inr (.inr ⟨hp, .candidate h hc⟩))
  · rintro (⟨package, hdir, rfl⟩ | ⟨package, m, t, hdir, hm, ht, hc⟩
      | ⟨package, t, hdir, hm, hin, hsome, hc⟩ | ⟨hp, h | ⟨h, hc⟩⟩)
    · exact .manifest (firstWhere_cons.2 (.inl hdir))
    · have h : PackageTarget source options dialect name subpath (base :: bases)
          (some (manifestOf package, m)) (some t) :=
        packageTarget_cons.2 (.inl ⟨package, m, hdir, hm, rfl, ht.symm⟩)
      exact .candidate h hc
    · exact .candidate
        (packageTarget_cons.2 (.inr (.inl ⟨package, t, hdir, hm, hin, hsome, rfl, rfl⟩))) hc
    · exact .manifest (firstWhere_cons.2 (.inr ⟨hp, h⟩))
    · exact .candidate (packageTarget_cons.2 (.inr (.inr ⟨hp, h⟩))) hc

theorem ComesTo.mem {exclude : Ignore} {cs : List Path} {c : Path}
    (h : ComesTo source exclude cs c) : c ∈ cs := by
  obtain ⟨x, hx, rfl⟩ := FirstWhere.exists_mem h
  exact hx

theorem not_absent_of_error {exclude : Ignore} {cs : List Path} {c : Path} {s : Stray}
    (hc : c ∈ cs) (hs : exclude.check c = .error s) :
    ¬ ∀ c ∈ cs, Absent source exclude c := by
  intro h
  have := (h c hc).1
  rw [hs] at this
  cases this

/-- A package lookup strays where it comes to a path that no exclusion can speak of. -/
theorem strays_probePackage {bases : List Path} :
    Strays source (probePackage options dialect name subpath bases)
      ↔ ∃ c, PackageComesTo source options dialect name subpath bases c
        ∧ ∃ s, options.exclude.check c = .error s := by
  induction bases with
  | nil =>
    simp only [probePackage, not_strays_pure, false_iff, not_exists]
    rintro c ⟨h | ⟨h, -⟩, -⟩
    · exact not_firstWhere_nil h
    · cases (packageTarget_nil.1 h).2
  | cons base bases ih =>
    rw [probePackage_cons]
    rcases hdir : packageDir? name base with _ | package
    · simp only [ih, packageComesTo_cons, hdir]
      simp [passedBase_of_none hdir]
    · simp only [strays_unlessExcluded]
      constructor
      · rintro (hs | ⟨_ | m, hm, h⟩)
        · exact ⟨_, packageComesTo_cons.2 (.inl ⟨package, hdir, rfl⟩), hs⟩
        · rcases strays_probeIn_none.1 h with ⟨t, hin, c, hc, s, hs⟩ | ⟨habsent, h⟩
          · exact ⟨c, packageComesTo_cons.2 (.inr (.inr (.inl
              ⟨package, t, hdir, hm, hin, not_absent_of_error hc.mem hs, hc⟩))), s, hs⟩
          · obtain ⟨c, hc, hs⟩ := ih.1 h
            have hpassed := (passedBase_iff hdir).2 ⟨hm, habsent⟩
            exact ⟨c, packageComesTo_cons.2 (.inr (.inr (.inr ⟨hpassed, hc⟩))), hs⟩
        · obtain ⟨t, ht, c, hc, hs⟩ := strays_probeIn_some.1 h
          exact ⟨c, packageComesTo_cons.2 (.inr (.inl ⟨package, m, t, hdir, hm, ht, hc⟩)), hs⟩
      · rintro ⟨c, h, hs⟩
        rcases packageComesTo_cons.1 h with ⟨package', hdir', rfl⟩
          | ⟨package', m, t, hdir', hm, ht, hc⟩ | ⟨package', t, hdir', hm, hin, -, hc⟩
          | ⟨hpassed, h⟩
        · cases hdir.symm.trans hdir'
          exact .inl hs
        · cases hdir.symm.trans hdir'
          exact .inr ⟨some m, hm, strays_probeIn_some.2 ⟨t, ht, c, hc, hs⟩⟩
        · cases hdir.symm.trans hdir'
          exact .inr ⟨none, hm, strays_probeIn_none.2 (.inl ⟨t, hin, c, hc, hs⟩)⟩
        · obtain ⟨hm, habsent⟩ := (passedBase_iff hdir).1 hpassed
          exact .inr ⟨none, hm, strays_probeIn_none.2 (.inr ⟨habsent, ih.2 ⟨c, h, hs⟩⟩)⟩

end Packages

/-! ## Requests -/

section Requests

variable (options : ScanOptions) (dialect : Dialect) (dir : Path)

/-- The package manifest that a request from a directory consults, and the path that it comes down
to. -/
inductive Target : Request → Option (Path × ProjectFile) → Option Path → Prop
  | relative (path : Path) : Target (.relative path) none (dir.join path)
  | absolute : Target .absolute none none
  | package {name : Text} {subpath : Option Text} {consulted : Option (Path × ProjectFile)}
      {target : Option Path}
      (h : PackageTarget source options dialect name subpath (ancestors dir) consulted target) :
      Target (.package name subpath) consulted target

/-- Where the lookup of a request from a directory ends, and the package manifest that it
consults. -/
def Lookup (request : Request) (consulted : Option (Path × ProjectFile)) (probe : Probe) : Prop :=
  ∃ target, Target source options dialect dir request consulted target
    ∧ ProbedAt source options target probe

/-- The paths that a request asks the exclusions about and does not go on behind. -/
inductive RequestComesTo : Request → Path → Prop
  | relative {path base c : Path} (hbase : dir.join path = some base)
      (hc : ComesTo source options.exclude (candidates options.typescript base) c) :
      RequestComesTo (.relative path) c
  | package {name : Text} {subpath : Option Text} {c : Path}
      (h : PackageComesTo source options dialect name subpath (ancestors dir) c) :
      RequestComesTo (.package name subpath) c

variable {source options dialect dir}

/-- The path inside a package that a request asks for. -/
def subpathOf : Request → Option Text
  | .package _ subpath => subpath
  | .relative _ | .absolute | .builtin => none

/-- A request ends where `Lookup` says; one for a module of the platform asks for nothing. -/
theorem yields_probeRequest {request : Request} {probe : Option Probe} {finds : Finds} :
    Yields source (probeRequest options dialect dir request) (probe, finds)
      ↔ request = .builtin ∧ probe = none ∧ finds = {}
        ∨ ∃ consulted found, Lookup source options dialect dir request consulted found
          ∧ probe = some found ∧ finds = consultedFinds dialect (subpathOf request) consulted := by
  cases request with
  | builtin =>
    simp only [probeRequest]
    constructor
    · intro h
      cases yields_pure.1 h
      exact .inl ⟨trivial, rfl, rfl⟩
    · rintro (⟨-, rfl, rfl⟩ | ⟨_, _, ⟨_, h, -⟩, -⟩)
      · exact yields_pure.2 rfl
      · cases h
  | absolute =>
    simp only [probeRequest]
    constructor
    · intro h
      cases yields_pure.1 h
      exact .inr ⟨none, .missing, ⟨none, .absolute, rfl⟩, rfl, rfl⟩
    · rintro (⟨h, -⟩ | ⟨consulted, found, ⟨_, h, hprobe⟩, rfl, rfl⟩)
      · cases h
      · cases h
        rw [show found = .missing from hprobe]
        exact yields_pure.2 rfl
  | relative path =>
    simp only [probeRequest]
    constructor
    · intro h
      rcases hbase : dir.join path with _ | base
      · rw [hbase] at h
        cases yields_pure.1 h
        exact .inr ⟨none, .missing, ⟨none, hbase ▸ .relative path, rfl⟩, rfl, rfl⟩
      · rw [hbase] at h
        obtain ⟨found, hfound, h⟩ := yields_bind.1 h
        cases yields_pure.1 h
        exact .inr ⟨none, found,
          ⟨some base, hbase ▸ .relative path, yields_probeModule.1 hfound⟩, rfl, rfl⟩
    · rintro (⟨h, -⟩ | ⟨consulted, found, ⟨target, h, hprobe⟩, rfl, rfl⟩)
      · cases h
      · cases h
        rcases hbase : dir.join path with _ | base
        · rw [hbase] at hprobe
          rw [show found = .missing from hprobe]
          exact yields_pure.2 rfl
        · rw [hbase] at hprobe
          exact yields_bind.2 ⟨found, yields_probeModule.2 hprobe, yields_pure.2 rfl⟩
  | package name subpath =>
    simp only [probeRequest, yields_bind, Prod.exists]
    constructor
    · rintro ⟨found, finds', h, h'⟩
      cases yields_pure.1 h'
      obtain ⟨consulted, target, htarget, hprobe, rfl⟩ := yields_probePackage.1 h
      exact .inr ⟨consulted, found, ⟨target, .package htarget, hprobe⟩, rfl, rfl⟩
    · rintro (⟨h, -⟩ | ⟨consulted, found, ⟨target, h, hprobe⟩, rfl, rfl⟩)
      · cases h
      · cases h with
        | package h =>
          exact ⟨found, _, yields_probePackage.2 ⟨consulted, target, h, hprobe, rfl⟩,
            yields_pure.2 rfl⟩

/-- A request strays where it comes to a path that no exclusion can speak of. -/
theorem strays_probeRequest {request : Request} :
    Strays source (probeRequest options dialect dir request)
      ↔ ∃ c, RequestComesTo source options dialect dir request c
        ∧ ∃ s, options.exclude.check c = .error s := by
  cases request with
  | builtin =>
    simp only [probeRequest, not_strays_pure, false_iff, not_exists]
    rintro c ⟨h, -⟩
    cases h
  | absolute =>
    simp only [probeRequest, not_strays_pure, false_iff, not_exists]
    rintro c ⟨h, -⟩
    cases h
  | relative path =>
    simp only [probeRequest]
    rcases hbase : dir.join path with _ | base
    · simp only [not_strays_pure, false_iff, not_exists]
      rintro c ⟨⟨hbase', -⟩, -⟩
      rw [hbase] at hbase'
      cases hbase'
    · simp only [strays_bind, strays_probeModule, not_strays_pure, and_false, exists_false,
        or_false]
      constructor
      · rintro ⟨c, hc, hs⟩
        exact ⟨c, .relative hbase hc, hs⟩
      · rintro ⟨c, ⟨hbase', hc⟩, hs⟩
        rw [hbase] at hbase'
        cases hbase'
        exact ⟨c, hc, hs⟩
  | package name subpath =>
    simp only [probeRequest, strays_bind, strays_probePackage, not_strays_pure, and_false,
      exists_false, or_false]
    constructor
    · rintro ⟨c, hc, hs⟩
      exact ⟨c, .package hc, hs⟩
    · rintro ⟨c, ⟨-, -⟩ | hc, hs⟩
      exact ⟨c, hc, hs⟩

end Requests

end Import

end AppBundle
