import AppBundle.Proofs.Lookup

/-!
# What a visit finds

A file leads to the target of the link that it is, or to what the lookups of its specifiers come
to and to the manifests that they consult. `Leads` is this step from path to path, as the answers
alone tell it.

A visit finds exactly what its file leads to (`mem_files_visit`), and warns of each specifier that
stays without an answer (`unresolved_mem_visit`). The first lookup that strays ends a visit
(`strays_visit`).
-/

namespace AppBundle

namespace Import

open Reading

/-- The path that a link holds, read from the directory of the link. -/
def linkTarget (link target : Path) : Option Path :=
  if target.head? = some '/' then none else link.parent.join target

variable (source : Path → Answer) (options : ScanOptions)

/-- What a file leads to: the target of a link, what a specifier is answered by, and a manifest
consulted for one. -/
inductive Finding (p : Path) (file : ProjectFile) : Path → ProjectFile → Prop
  | link {target q : Path} {g : ProjectFile} (hkind : file.kind = .symlink target)
      (htarget : linkTarget p target = some q) (hq : Available source options.exclude q g) :
      Finding p file q g
  | answer {specifier : Text} {consulted : Option (Path × ProjectFile)} {q : Path}
      {g : ProjectFile} (hkind : file.kind = .regular) (hs : specifier ∈ specifiersOf p file)
      (h : Lookup source options (dialectOf options p file) p.parent (requestOf specifier) consulted
        (.found q g)) :
      Finding p file q g
  | manifest {specifier : Text} {probe : Probe} {q : Path} {g : ProjectFile}
      (hkind : file.kind = .regular) (hs : specifier ∈ specifiersOf p file)
      (h : Lookup source options (dialectOf options p file) p.parent (requestOf specifier)
        (some (q, g)) probe) :
      Finding p file q g

/-- One step from a path, as the file that is there, to a path that it leads to. -/
def Leads (p q : Path) : Prop :=
  ∃ file, source p = .ok (some file) ∧ ∃ g, Finding source options p file q g

/-- A specifier of a file that names no module of the platform, and whose lookup comes neither to a
file nor to an exclusion. -/
structure Unanswered (p : Path) (file : ProjectFile) (specifier : Text) : Prop where
  regular : file.kind = .regular
  mem : specifier ∈ specifiersOf p file
  notBuiltin : requestOf specifier ≠ .builtin
  notFound (consulted : Option (Path × ProjectFile)) (q : Path) (g : ProjectFile) :
    ¬ Lookup source options (dialectOf options p file) p.parent (requestOf specifier) consulted
      (.found q g)
  notExcluded (consulted : Option (Path × ProjectFile)) :
    ¬ Lookup source options (dialectOf options p file) p.parent (requestOf specifier) consulted
      .excluded

/-- The lookup of a request ends. -/
def Settled (dialect : Dialect) (dir : Path) (request : Request) : Prop :=
  request = .builtin ∨ ∃ consulted probe, Lookup source options dialect dir request consulted probe

variable {source options}

section Available

variable {exclude : Ignore}

theorem Available.unique {p : Path} {f g : ProjectFile} (hf : Available source exclude p f)
    (hg : Available source exclude p g) : f = g := by
  have h := hf.2.symm.trans hg.2
  cases h
  rfl

theorem Probed.available {cs : List Path} {p : Path} {file : ProjectFile}
    (h : Probed source exclude cs (.found p file)) : p ∈ cs ∧ Available source exclude p file := by
  obtain ⟨x, hx, rfl, ha⟩ := FirstWhere.exists_mem h
  exact ⟨hx, ha⟩

end Available

section Lookups

variable {dialect : Dialect} {dir : Path} {request : Request}
  {consulted : Option (Path × ProjectFile)} {probe : Probe}

/-- A request ends in one way only, and consults one manifest at most. -/
theorem Lookup.unique {consulted' : Option (Path × ProjectFile)} {probe' : Probe}
    (h : Lookup source options dialect dir request consulted probe)
    (h' : Lookup source options dialect dir request consulted' probe') :
    consulted = consulted' ∧ probe = probe' := by
  have heq := (yields_probeRequest.2 (.inr ⟨_, _, h, rfl, rfl⟩)).unique
    (yields_probeRequest.2 (.inr ⟨_, _, h', rfl, rfl⟩))
  obtain ⟨hprobe, hfinds⟩ := Prod.mk.inj heq
  refine ⟨?_, Option.some.inj hprobe⟩
  rcases consulted with _ | ⟨p, m⟩ <;> rcases consulted' with _ | ⟨p', m'⟩ <;>
    simp [consultedFinds] at hfinds ⊢
  exact hfinds.1

/-- The file that a request finds is one of the candidates, and is there. -/
theorem Lookup.found_available {p : Path} {file : ProjectFile}
    (h : Lookup source options dialect dir request consulted (.found p file)) :
    ∃ base, Target source options dialect dir request consulted (some base)
      ∧ p ∈ candidates options.typescript base ∧ Available source options.exclude p file := by
  obtain ⟨_ | base, htarget, hprobe⟩ := h
  · cases (hprobe : Probe.found p file = .missing)
  · exact ⟨base, htarget, Probed.available hprobe⟩

theorem Target.consulted_available {target : Option Path} {p : Path} {m : ProjectFile}
    (h : Target source options dialect dir request (some (p, m)) target) :
    ∃ name subpath base package, request = .package name subpath ∧ base ∈ ancestors dir
      ∧ packageDir? name base = some package ∧ p = manifestOf package
      ∧ Available source options.exclude p m := by
  cases h with
  | package h =>
    cases h with
    | manifest h =>
      obtain ⟨base, hbase, hdir, hm⟩ := FirstWhere.exists_mem h
      exact ⟨_, _, base, _, rfl, hbase, hdir, rfl, hm⟩

end Lookups

theorem Finding.available {p q : Path} {file g : ProjectFile}
    (h : Finding source options p file q g) : Available source options.exclude q g := by
  cases h with
  | link hkind htarget hq => exact hq
  | answer hkind hs h =>
    obtain ⟨base, -, -, hq⟩ := h.found_available
    exact hq
  | manifest hkind hs h =>
    obtain ⟨target, htarget, -⟩ := h
    obtain ⟨_, _, _, _, -, -, -, -, hq⟩ := htarget.consulted_available
    exact hq

/-! ## Specifiers -/

section Specifiers

variable {importer : Path} {dialect : Dialect} {specifier : Text} {finds : Finds}

/-- What the end of the lookup of a specifier adds. -/
def endOf (specifier : Text) (importer : Path) : Probe → Finds
  | .found path file => { files := [(path, file)] }
  | .missing => { warnings := [.unresolved specifier importer] }
  | .excluded => {}

theorem append_files (a b : Finds) : (a ++ b).files = a.files ++ b.files := rfl

theorem append_warnings (a b : Finds) : (a ++ b).warnings = a.warnings ++ b.warnings := rfl

theorem append_empty (a : Finds) : a ++ ({} : Finds) = a := by
  obtain ⟨files, warnings⟩ := a
  show Finds.mk (files ++ []) (warnings ++ []) = _
  rw [List.append_nil, List.append_nil]

/-- A specifier leads to the manifest that is consulted and the file that is found, with a warning
if none is. -/
theorem yields_followSpecifier :
    Yields source (followSpecifier options importer dialect specifier) finds
      ↔ requestOf specifier = .builtin ∧ finds = {}
        ∨ ∃ consulted probe,
          Lookup source options dialect importer.parent (requestOf specifier) consulted probe
            ∧ finds = consultedFinds dialect (subpathOf (requestOf specifier)) consulted
                ++ endOf specifier importer probe := by
  simp only [followSpecifier, yields_bind, Prod.exists, yields_probeRequest]
  constructor
  · rintro ⟨probe, consulting, ⟨hb, rfl, rfl⟩ | ⟨consulted, found, h, rfl, rfl⟩, hend⟩
    · exact .inl ⟨hb, (yields_pure.1 hend).symm⟩
    · refine .inr ⟨consulted, found, h, ?_⟩
      cases found with
      | found path file => exact (yields_pure.1 hend).symm
      | missing => exact (yields_pure.1 hend).symm
      | excluded => exact (yields_pure.1 hend).symm.trans (append_empty _).symm
  · rintro (⟨hb, rfl⟩ | ⟨consulted, found, h, rfl⟩)
    · exact ⟨none, {}, .inl ⟨hb, rfl, rfl⟩, yields_pure.2 rfl⟩
    · refine ⟨some found, _, .inr ⟨consulted, found, h, rfl, rfl⟩, ?_⟩
      cases found with
      | found path file => exact yields_pure.2 rfl
      | missing => exact yields_pure.2 rfl
      | excluded => exact yields_pure.2 (append_empty _).symm

theorem exists_yields_followSpecifier :
    (∃ finds, Yields source (followSpecifier options importer dialect specifier) finds)
      ↔ Settled source options dialect importer.parent (requestOf specifier) := by
  simp only [yields_followSpecifier]
  constructor
  · rintro ⟨finds, ⟨hb, -⟩ | ⟨consulted, probe, h, -⟩⟩
    · exact .inl hb
    · exact .inr ⟨consulted, probe, h⟩
  · rintro (hb | ⟨consulted, probe, h⟩)
    · exact ⟨_, .inl ⟨hb, rfl⟩⟩
    · exact ⟨_, .inr ⟨consulted, probe, h, rfl⟩⟩

theorem strays_followSpecifier :
    Strays source (followSpecifier options importer dialect specifier)
      ↔ ∃ c, RequestComesTo source options dialect importer.parent (requestOf specifier) c
        ∧ ∃ s, options.exclude.check c = .error s := by
  rw [followSpecifier, strays_bind, strays_probeRequest]
  refine or_iff_left ?_
  rintro ⟨⟨probe, consulting⟩, -, h⟩
  rcases probe with _ | found | _ | _ <;> exact not_strays_pure h

theorem mem_files_followSpecifier
    (h : Yields source (followSpecifier options importer dialect specifier) finds) {q : Path}
    {g : ProjectFile} :
    (q, g) ∈ finds.files
      ↔ (∃ consulted, Lookup source options dialect importer.parent (requestOf specifier) consulted
            (.found q g))
        ∨ ∃ probe, Lookup source options dialect importer.parent (requestOf specifier)
            (some (q, g)) probe := by
  rcases yields_followSpecifier.1 h with ⟨hb, rfl⟩ | ⟨consulted, probe, hl, rfl⟩
  · rw [hb]
    refine iff_of_false (by simp) ?_
    rintro (⟨consulted, target, ht, -⟩ | ⟨probe, target, ht, -⟩) <;> cases ht
  · rw [append_files, List.mem_append]
    constructor
    · rintro (hm | hm)
      · rcases consulted with _ | ⟨p, m⟩
        · simp [consultedFinds] at hm
        · simp only [consultedFinds, List.mem_singleton] at hm
          cases hm
          exact .inr ⟨probe, hl⟩
      · cases probe with
        | found p file =>
          simp only [endOf, List.mem_singleton] at hm
          cases hm
          exact .inl ⟨consulted, hl⟩
        | missing => simp [endOf] at hm
        | excluded => simp [endOf] at hm
    · rintro (⟨consulted', hl'⟩ | ⟨probe', hl'⟩)
      · obtain ⟨-, rfl⟩ := hl.unique hl'
        exact .inr (by simp [endOf])
      · obtain ⟨rfl, -⟩ := hl.unique hl'
        exact .inl (by simp [consultedFinds])

variable {specifiers : List Text}

/-- The specifiers of a file are followed one by one, and what is found is put together in their
order. -/
theorem followSpecifiers_parts : ∀ {specifiers : List Text} {finds : Finds},
    Yields source (followSpecifiers options importer dialect specifiers) finds →
      ∃ parts : List Finds, finds.files = parts.flatMap (·.files)
        ∧ finds.warnings = parts.flatMap (·.warnings)
        ∧ (∀ part ∈ parts, ∃ s ∈ specifiers,
            Yields source (followSpecifier options importer dialect s) part)
        ∧ ∀ s ∈ specifiers, ∃ part ∈ parts,
            Yields source (followSpecifier options importer dialect s) part
  | [], finds, h => by
    cases yields_pure.1 h
    exact ⟨[], rfl, rfl, by simp, by simp⟩
  | specifier :: rest, finds, h => by
    obtain ⟨here, hhere, h⟩ := yields_bind.1 h
    obtain ⟨later, hlater, h⟩ := yields_bind.1 h
    cases yields_pure.1 h
    obtain ⟨parts, hfiles, hwarnings, hparts, hall⟩ := followSpecifiers_parts hlater
    refine ⟨here :: parts, ?_, ?_, ?_, ?_⟩
    · rw [append_files, hfiles, List.flatMap_cons]
    · rw [append_warnings, hwarnings, List.flatMap_cons]
    · refine List.forall_mem_cons.2 ⟨⟨specifier, by simp, hhere⟩, fun part hpart => ?_⟩
      obtain ⟨s, hs, hy⟩ := hparts part hpart
      exact ⟨s, List.mem_cons_of_mem _ hs, hy⟩
    · refine List.forall_mem_cons.2 ⟨⟨here, by simp, hhere⟩, fun s hs => ?_⟩
      obtain ⟨part, hpart, hy⟩ := hall s hs
      exact ⟨part, List.mem_cons_of_mem _ hpart, hy⟩

theorem strays_followSpecifiers :
    Strays source (followSpecifiers options importer dialect specifiers)
      ↔ FirstWhere
          (fun s => Settled source options dialect importer.parent (requestOf s))
          (fun s => ∃ c, RequestComesTo source options dialect importer.parent (requestOf s) c
            ∧ ∃ stray, options.exclude.check c = .error stray) specifiers := by
  induction specifiers with
  | nil => simp [followSpecifiers]
  | cons specifier rest ih =>
    rw [followSpecifiers, strays_bind, strays_followSpecifier, firstWhere_cons, ← ih,
      ← exists_yields_followSpecifier]
    refine or_congr_right ?_
    constructor
    · rintro ⟨here, hhere, h⟩
      rcases strays_bind.1 h with h | ⟨_, -, h⟩
      · exact ⟨⟨here, hhere⟩, h⟩
      · exact absurd h not_strays_pure
    · rintro ⟨⟨here, hhere⟩, h⟩
      exact ⟨here, hhere, strays_bind.2 (.inl h)⟩

end Specifiers

/-! ## Visits -/

section Visits

variable {p : Path} {file : ProjectFile} {finds : Finds}

theorem followLink_eq (link target : Path) :
    followLink options link target
      = match linkTarget link target with
        | none => pure { warnings := [.linkLeavesProject link target] }
        | some resolved => (do
            if ← isExcluded options.exclude resolved then return {}
            else
              match ← askFile resolved with
              | some file => return { files := [(resolved, file)] }
              | none => return { warnings := [.linkToNothing link resolved] }) := rfl

theorem mem_files_followLink {link target : Path}
    (h : Yields source (followLink options link target) finds) {q : Path} {g : ProjectFile} :
    (q, g) ∈ finds.files
      ↔ linkTarget link target = some q ∧ Available source options.exclude q g := by
  rw [followLink_eq] at h
  rcases htarget : linkTarget link target with _ | resolved
  · rw [htarget] at h
    cases yields_pure.1 h
    simp
  · rw [htarget] at h
    obtain ⟨b, hb, h⟩ := yields_bind.1 h
    rw [yields_isExcluded] at hb
    cases b with
    | true =>
      cases yields_pure.1 h
      refine iff_of_false (by simp) ?_
      rintro ⟨hq, ha, -⟩
      cases hq
      rw [hb] at ha
      cases ha
    | false =>
      obtain ⟨found, hfound, h⟩ := yields_bind.1 h
      rw [yields_askFile] at hfound
      cases found with
      | none =>
        cases yields_pure.1 h
        refine iff_of_false (by simp) ?_
        rintro ⟨hq, -, hg⟩
        cases hq
        rw [hfound] at hg
        cases hg
      | some file =>
        cases yields_pure.1 h
        simp only [List.mem_singleton, Prod.mk.injEq, Option.some.injEq]
        constructor
        · rintro ⟨rfl, rfl⟩
          exact ⟨rfl, hb, hfound⟩
        · rintro ⟨rfl, ha⟩
          exact ⟨rfl, Available.unique ha ⟨hb, hfound⟩⟩

theorem strays_followLink {link target : Path} :
    Strays source (followLink options link target)
      ↔ ∃ q, linkTarget link target = some q ∧ ∃ s, options.exclude.check q = .error s := by
  rw [followLink_eq]
  rcases linkTarget link target with _ | resolved
  · simp
  · simp only [strays_bind, strays_isExcluded, Option.some.injEq, exists_eq_left']
    refine or_iff_left ?_
    rintro ⟨b, -, h⟩
    cases b with
    | true => exact not_strays_pure h
    | false =>
      rcases strays_bind.1 h with h | ⟨found, -, h⟩
      · exact not_strays_askFile h
      · cases found <;> exact not_strays_pure h

/-- A link of which nothing is warned, and whose target is not excluded, leads to a file. -/
theorem exists_target_of_silent {link target : Path}
    (hexclude : options.exclude.rules = [])
    (h : Yields source (followLink options link target) finds) (hsilent : finds.warnings = []) :
    ∃ q g, linkTarget link target = some q ∧ Available source options.exclude q g := by
  have hcheck : ∀ q, options.exclude.check q = .ok false := by
    intro q
    simp [Ignore.check, hexclude]
  rw [followLink_eq] at h
  rcases htarget : linkTarget link target with _ | q
  · rw [htarget] at h
    cases yields_pure.1 h
    simp at hsilent
  · rw [htarget] at h
    obtain ⟨b, hb, h⟩ := yields_bind.1 h
    rw [yields_isExcluded, hcheck] at hb
    cases hb
    obtain ⟨found, hfound, h⟩ := yields_bind.1 h
    rw [yields_askFile] at hfound
    cases found with
    | none =>
      cases yields_pure.1 h
      simp at hsilent
    | some g => exact ⟨q, g, rfl, hcheck q, hfound⟩

/-- A visit finds exactly what its file leads to. -/
theorem mem_files_visit (h : Yields source (visit options p file) finds) {q : Path}
    {g : ProjectFile} : (q, g) ∈ finds.files ↔ Finding source options p file q g := by
  unfold visit at h
  split at h
  · rename_i target hkind
    rw [mem_files_followLink h]
    constructor
    · rintro ⟨htarget, hq⟩
      exact .link hkind htarget hq
    · rintro (⟨hkind', htarget, hq⟩ | ⟨hkind', -, -⟩ | ⟨hkind', -, -⟩)
      · cases hkind.symm.trans hkind'
        exact ⟨htarget, hq⟩
      · cases hkind.symm.trans hkind'
      · cases hkind.symm.trans hkind'
  · rename_i hkind
    obtain ⟨parts, hfiles, -, hparts, hall⟩ := followSpecifiers_parts h
    rw [hfiles, List.mem_flatMap]
    constructor
    · rintro ⟨part, hpart, hmem⟩
      obtain ⟨s, hs, hy⟩ := hparts part hpart
      rcases (mem_files_followSpecifier hy).1 hmem with ⟨consulted, hl⟩ | ⟨probe, hl⟩
      · exact .answer hkind hs hl
      · exact .manifest hkind hs hl
    · rintro (⟨hkind', -, -⟩ | ⟨-, hs, hl⟩ | ⟨-, hs, hl⟩)
      · cases hkind.symm.trans hkind'
      · obtain ⟨part, hpart, hy⟩ := hall _ hs
        exact ⟨part, hpart, (mem_files_followSpecifier hy).2 (.inl ⟨_, hl⟩)⟩
      · obtain ⟨part, hpart, hy⟩ := hall _ hs
        exact ⟨part, hpart, (mem_files_followSpecifier hy).2 (.inr ⟨_, hl⟩)⟩

/-- A visit warns of each specifier that stays without an answer. -/
theorem unresolved_mem_visit (h : Yields source (visit options p file) finds) {s : Text}
    (hs : Unanswered source options p file s) : .unresolved s p ∈ finds.warnings := by
  unfold visit at h
  rw [hs.regular] at h
  obtain ⟨parts, -, hwarnings, -, hall⟩ := followSpecifiers_parts h
  obtain ⟨part, hpart, hy⟩ := hall s hs.mem
  rw [hwarnings, List.mem_flatMap]
  refine ⟨part, hpart, ?_⟩
  rcases yields_followSpecifier.1 hy with ⟨hb, -⟩ | ⟨consulted, probe, hl, rfl⟩
  · exact absurd hb hs.notBuiltin
  · cases probe with
    | found q g => exact absurd hl (hs.notFound consulted q g)
    | excluded => exact absurd hl (hs.notExcluded consulted)
    | missing => simp [append_warnings, endOf]

/-- A visit strays at the target of a link, or at the first specifier that leads to a path no
exclusion can speak of. -/
theorem strays_visit :
    Strays source (visit options p file)
      ↔ (∃ target q, file.kind = .symlink target ∧ linkTarget p target = some q
          ∧ ∃ s, options.exclude.check q = .error s)
        ∨ file.kind = .regular ∧ FirstWhere
          (fun s => Settled source options (dialectOf options p file) p.parent (requestOf s))
          (fun s => ∃ c, RequestComesTo source options (dialectOf options p file) p.parent
              (requestOf s) c ∧ ∃ stray, options.exclude.check c = .error stray)
          (specifiersOf p file) := by
  unfold visit
  split
  · rename_i target hkind
    rw [strays_followLink, hkind]
    simp
  · rename_i hkind
    rw [strays_followSpecifiers, hkind]
    simp

end Visits

end Import

end AppBundle
