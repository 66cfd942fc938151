import AppBundle.Proofs.Excluded
import AppBundle.Proofs.Links

/-!
# Further exclusions

A list with further patterns that take nothing back excludes whatever the list excluded
(`stricterThan_of_build`). A lookup with further exclusions then takes what it took without them,
unless they exclude that (`Lookup.asBefore`): in its place it may come to a later
candidate, or to what a package without its manifest stands for.

So further exclusions add files only behind a specifier whose file they exclude
(`further_exclusions`).
-/

namespace AppBundle

/-! ## Rules -/

theorem Text.head?_dropEndWhile (test : Char → Bool) (t : Text) :
    t.dropEndWhile test = [] ∨ (t.dropEndWhile test).head? = t.head? := by
  cases t with
  | nil => exact .inl rfl
  | cons c cs =>
    simp only [Text.dropEndWhile]
    split
    · split
      · exact .inl rfl
      · exact .inr rfl
    · exact .inr rfl

theorem IgnoreRule.head?_trimLine (line : Text) :
    trimLine line = [] ∨ (trimLine line).head? = line.head? := by
  unfold trimLine
  split
  · exact .inr rfl
  · exact Text.head?_dropEndWhile _ line

theorem IgnoreRule.head?_of_readMarks {line : Text} (h : (readMarks line).1 = true) :
    line.head? = some '!' := by
  unfold readMarks at h
  split at h <;> simp_all

/-- A rule takes back only if its pattern says so at its start. -/
theorem IgnoreRule.takesBack_of_parse {pattern : Text} {rule : IgnoreRule}
    (h : parse pattern = .ok (some rule)) (hhead : pattern.head? ≠ some '!') :
    rule.takesBack = false := by
  unfold parse at h
  dsimp only at h
  split at h
  · cases h
  · rename_i hline
    have hmarks : (readMarks (trimLine pattern)).1 = false := by
      have hhead' := (head?_trimLine pattern).resolve_left fun hnil => hline (.inr hnil)
      rw [← hhead'] at hhead
      exact Bool.eq_false_iff.2 fun hback => hhead (head?_of_readMarks hback)
    split at h
    · cases h
      exact hmarks
    · cases h

namespace Ignore

/-- What the first list does not exclude, the second does not either. -/
def StricterThan (l' l : Ignore) : Prop := ∀ p, l'.check p = .ok false → l.check p = .ok false

theorem parseRules_append {ps qs : List Text} : ∀ {rules : List IgnoreRule},
    parseRules (ps ++ qs) = .ok rules → ∃ before further, parseRules ps = .ok before
      ∧ parseRules qs = .ok further ∧ rules = before ++ further := by
  induction ps with
  | nil =>
    intro rules h
    exact ⟨[], rules, rfl, h, rfl⟩
  | cons p ps ih =>
    intro rules h
    obtain ⟨rule, hrule, h⟩ := bind_eq_ok.1 h
    obtain ⟨later, hlater, h⟩ := bind_eq_ok.1 h
    obtain ⟨before, further, hbefore, hfurther, rfl⟩ := ih hlater
    cases h
    refine ⟨rule.toList ++ before, further, ?_, hfurther, (List.append_assoc _ _ _).symm⟩
    exact bind_eq_ok.2 ⟨rule, hrule, bind_eq_ok.2 ⟨before, hbefore, rfl⟩⟩

theorem exists_of_mem_parseRules : ∀ {ps : List Text} {rules : List IgnoreRule},
    parseRules ps = .ok rules → ∀ rule ∈ rules, ∃ p ∈ ps, IgnoreRule.parse p = .ok (some rule)
  | [], rules, h, rule, hrule => by
    cases h
    cases hrule
  | p :: ps, rules, h, rule, hrule => by
    obtain ⟨first, hfirst, h⟩ := bind_eq_ok.1 h
    obtain ⟨later, hlater, h⟩ := bind_eq_ok.1 h
    cases h
    rcases List.mem_append.1 hrule with hrule | hrule
    · cases first with
      | none => cases hrule
      | some first =>
        cases List.mem_singleton.1 hrule
        exact ⟨p, List.mem_cons_self, hfirst⟩
    · obtain ⟨q, hq, hparse⟩ := exists_of_mem_parseRules hlater rule hrule
      exact ⟨q, List.mem_cons_of_mem p hq, hparse⟩

section Further

variable {rules further : List IgnoreRule} (hfurther : ∀ r ∈ further, r.takesBack = false)

include hfurther

/-- Further rules that take nothing back speak last or not at all. -/
theorem verdict_append (isDir : Bool) (p : Path) :
    verdict (rules ++ further) isDir p = some true
      ∨ verdict (rules ++ further) isDir p = verdict rules isDir p := by
  unfold verdict
  rw [List.reverse_append, List.find?_append]
  rcases hfind : further.reverse.find? (fun r => (isDir || !r.dirsOnly) && Glob.isMatch r.glob p)
    with _ | r
  · rw [hfind]
    exact .inr rfl
  · have hmem : r ∈ further := List.mem_reverse.1 (List.mem_of_find?_eq_some hfind)
    rw [hfind]
    exact .inl (by simp [hfurther r hmem])

theorem getD_verdict_append {isDir later later' : Bool} {p : Path}
    (hlater : later' = false → later = false)
    (h : (verdict (rules ++ further) isDir p).getD later' = false) :
    (verdict rules isDir p).getD later = false := by
  rcases verdict_append hfurther isDir p with hlast | hsame
  · rw [hlast] at h
    cases h
  · rw [hsame] at h
    rcases hverdict : verdict rules isDir p with _ | b
    · rw [hverdict] at h
      exact hlater h
    · rw [hverdict] at h
      exact h

theorem verdictOfParents_append : ∀ {dirs : List Path},
    verdictOfParents (rules ++ further) dirs = false → verdictOfParents rules dirs = false
  | [], _ => rfl
  | _ :: _, h => getD_verdict_append hfurther verdictOfParents_append h

theorem excludes_append {p : Path} (h : excludes (rules ++ further) p = false) :
    excludes rules p = false :=
  getD_verdict_append hfurther (verdictOfParents_append hfurther) h

theorem stricterThan_of_append {l l' : Ignore} (hroot : l'.root = l.root)
    (hrules : l'.rules = l.rules ++ further) : l'.StricterThan l := by
  intro p h
  unfold check at h ⊢
  rw [hroot, hrules] at h
  by_cases hempty : l.rules = []
  · simp [hempty]
  · have hempty' : (l.rules ++ further).isEmpty = false := by simp [hempty]
    rw [if_neg (by simp [hempty'])] at h
    rw [if_neg (by simp [hempty])]
    dsimp only at h ⊢
    split at h
    · cases h
    · exact congrArg Except.ok (excludes_append hfurther (Except.ok.inj h))

end Further

/-- A list with further patterns, none of which begins with `!`, excludes no less. -/
theorem stricterThan_of_build {root : Path} {patterns further : List Text} {l l' : Ignore}
    (h : build root patterns = .ok l) (h' : build root (patterns ++ further) = .ok l')
    (hfurther : ∀ p ∈ further, p.head? ≠ some '!') : l'.StricterThan l := by
  obtain ⟨rules, hrules, h⟩ := bind_eq_ok.1 h
  obtain ⟨rules', hrules', h'⟩ := bind_eq_ok.1 h'
  obtain ⟨before, more, hbefore, hmore, rfl⟩ := parseRules_append hrules'
  cases hrules.symm.trans hbefore
  cases h
  cases h'
  have hback : ∀ r ∈ more, r.takesBack = false := by
    intro r hr
    obtain ⟨p, hp, hparse⟩ := exists_of_mem_parseRules hmore r hr
    exact IgnoreRule.takesBack_of_parse hparse (hfurther p hp)
  exact stricterThan_of_append hback rfl rfl

end Ignore

namespace Import

open Reading

variable {source : Path → Answer} {options : ScanOptions} {exclude' : Ignore}

/-! ## Lookups -/

section Lookups

/-- A lookup consults a path as a manifest or ends there. -/
def Takes (consulted : Option (Path × ProjectFile)) (probe : Probe) (q : Path) : Prop :=
  (∃ m, consulted = some (q, m)) ∨ ∃ g, probe = .found q g

variable {exclude : Ignore}

theorem Available.of_stricter (hstrict : exclude'.StricterThan exclude) {p : Path}
    {f : ProjectFile} (h : Available source exclude' p f) : Available source exclude p f :=
  ⟨hstrict p h.1, h.2⟩

theorem Absent.of_stricter (hstrict : exclude'.StricterThan exclude) {p : Path}
    (h : Absent source exclude' p) : Absent source exclude p :=
  ⟨hstrict p h.1, h.2⟩

/-- What was there and is passed now is excluded now. -/
theorem Available.excluded_of_passed (hstrict : exclude'.StricterThan exclude) {p : Path}
    {f : ProjectFile} (h : Available source exclude p f) (h' : Passed source exclude' p) :
    exclude'.check p = .ok true :=
  h'.resolve_right fun hgone => h.not_passed (.inr (hgone.of_stricter hstrict))

/-- Among the same candidates a stricter lookup finds what the other finds, unless it is excluded
now. -/
theorem found_of_stricter (hstrict : exclude'.StricterThan exclude) {probe : Probe} {q : Path}
    {g : ProjectFile} : ∀ {cs : List Path} {any any' : Bool},
      ProbedFrom source exclude any cs probe → ProbedFrom source exclude' any' cs (.found q g) →
        probe = .found q g ∨ ∃ c f, probe = .found c f ∧ exclude'.check c = .ok true
  | [], _, _, _, h' => absurd h' not_firstWhere_nil
  | c :: cs, any, any', h, h' => by
    rcases probedFrom_cons.1 h' with ⟨hc', h'⟩ | ⟨f', hc', heq⟩ | ⟨hc', h'⟩
    · rcases probedFrom_cons.1 h with ⟨-, h⟩ | ⟨f, -, rfl⟩ | ⟨-, h⟩
      · exact found_of_stricter hstrict h h'
      · exact .inr ⟨c, f, rfl, hc'⟩
      · exact found_of_stricter hstrict h h'
    · cases heq
      have hthere := hc'.of_stricter hstrict
      rcases probedFrom_cons.1 h with ⟨hc, -⟩ | ⟨f, hc, rfl⟩ | ⟨hc, -⟩
      · exact absurd (.inl hc) hthere.not_passed
      · rw [hthere.unique hc]
        exact .inl rfl
      · exact absurd (.inr hc) hthere.not_passed
    · have hgone := hc'.of_stricter hstrict
      rcases probedFrom_cons.1 h with ⟨hc, -⟩ | ⟨f, hc, -⟩ | ⟨-, h⟩
      · cases hc.symm.trans hgone.1
      · exact absurd (.inr hgone) hc.not_passed
      · exact found_of_stricter hstrict h h'

theorem probedAt_of_stricter (hstrict : exclude'.StricterThan options.exclude)
    {target : Option Path} {probe probe' : Probe} (h : ProbedAt source options target probe)
    (h' : ProbedAt source { options with exclude := exclude' } target probe') :
    (∀ q g, probe' = .found q g → probe = .found q g)
      ∨ ∃ c f, probe = .found c f ∧ exclude'.check c = .ok true := by
  cases target with
  | none =>
    refine .inl fun q g hq => ?_
    rw [show probe' = .missing from h'] at hq
    cases hq
  | some base =>
    cases probe' with
    | found q g =>
      have hprobed : Probed source exclude' (candidates options.typescript base) (.found q g) := h'
      refine (found_of_stricter hstrict h hprobed).imp_left fun hfound q' g' heq => ?_
      rw [hfound, heq]
    | excluded => exact .inl fun q g hq => nomatch hq
    | missing => exact .inl fun q g hq => nomatch hq

/-- A stricter lookup takes nothing but what the other takes, unless some of that is excluded
now. -/
def AsBefore (exclude' : Ignore) (consulted : Option (Path × ProjectFile)) (probe : Probe)
    (consulted' : Option (Path × ProjectFile)) (probe' : Probe) : Prop :=
  (∀ q, Takes consulted' probe' q → Takes consulted probe q)
    ∨ ∃ c, Takes consulted probe c ∧ exclude'.check c = .ok true

theorem asBefore_of_probedAt (hstrict : exclude'.StricterThan options.exclude)
    {target : Option Path} {consulted : Option (Path × ProjectFile)} {probe probe' : Probe}
    (h : ProbedAt source options target probe)
    (h' : ProbedAt source { options with exclude := exclude' } target probe') :
    AsBefore exclude' consulted probe consulted probe' := by
  rcases probedAt_of_stricter hstrict h h' with hsame | ⟨c, f, hc, hexcluded⟩
  · refine .inl fun q hq => hq.imp_right ?_
    rintro ⟨g, hg⟩
    exact ⟨g, hsame q g hg⟩
  · exact .inr ⟨c, .inr ⟨f, hc⟩, hexcluded⟩

theorem packageTarget_of_stricter (hstrict : exclude'.StricterThan options.exclude)
    {dialect : Dialect} {name : Text} {subpath : Option Text}
    {consulted consulted' : Option (Path × ProjectFile)} {target target' : Option Path}
    {probe probe' : Probe} (hprobe : ProbedAt source options target probe)
    (hprobe' : ProbedAt source { options with exclude := exclude' } target' probe') :
    ∀ {bases : List Path},
      PackageTarget source options dialect name subpath bases consulted target →
      PackageTarget source { options with exclude := exclude' } dialect name subpath bases
        consulted' target' →
      AsBefore exclude' consulted probe consulted' probe'
  | [], h, h' => by
    obtain ⟨rfl, rfl⟩ := packageTarget_nil.1 h
    obtain ⟨rfl, rfl⟩ := packageTarget_nil.1 h'
    exact asBefore_of_probedAt hstrict hprobe hprobe'
  | base :: bases, h, h' => by
    -- A manifest that the stricter lookup consults was there before.
    have hmanifest : ∀ {package m}, packageDir? name base = some package →
        Available source exclude' (manifestOf package) m →
        consulted = some (manifestOf package, m) ∧ target = targetOf dialect subpath package m := by
      intro package m hdir hm'
      have hm := hm'.of_stricter hstrict
      rcases packageTarget_cons.1 h with ⟨package', m', hdir', hm', rfl, rfl⟩
        | ⟨package', t, hdir', hpassed, -⟩ | ⟨hpassed, -⟩
      · cases hdir.symm.trans hdir'
        rw [hm.unique hm']
        exact ⟨rfl, rfl⟩
      · cases hdir.symm.trans hdir'
        exact absurd hpassed hm.not_passed
      · exact absurd ((passedBase_iff hdir).1 hpassed).1 hm.not_passed
    rcases packageTarget_cons.1 h' with ⟨package, m, hdir, hm', rfl, rfl⟩
      | ⟨package, t, hdir, hpassed', hin, hsome', rfl, rfl⟩ | ⟨hpassed', h'⟩
    · obtain ⟨rfl, rfl⟩ := hmanifest hdir hm'
      exact asBefore_of_probedAt hstrict hprobe hprobe'
    · rcases packageTarget_cons.1 h with ⟨package, m, hdir₁, hm, rfl, rfl⟩
        | ⟨package, t, hdir₁, -, hin₁, -, rfl, rfl⟩ | ⟨hpassed, -⟩
      · cases hdir.symm.trans hdir₁
        exact .inr ⟨_, .inl ⟨m, rfl⟩, hm.excluded_of_passed hstrict hpassed'⟩
      · cases hdir.symm.trans hdir₁
        cases hin.symm.trans hin₁
        exact asBefore_of_probedAt hstrict hprobe hprobe'
      · -- Nothing was there, so that nothing is found now.
        refine .inl fun q hq => ?_
        rcases hq with ⟨m, hm⟩ | ⟨g, rfl⟩
        · cases hm
        · obtain ⟨hq, hg⟩ := Probed.available hprobe'
          have hgone := ((passedBase_iff hdir).1 hpassed).2 t hin q hq
          exact absurd (.inr hgone) (hg.of_stricter hstrict).not_passed
    · rcases packageTarget_cons.1 h with ⟨package, m, hdir, hm, rfl, rfl⟩
        | ⟨package, t, hdir, -, hin, hsome, rfl, rfl⟩ | ⟨-, h⟩
      · have hmanifest' := ((passedBase_iff hdir).1 hpassed').1
        exact .inr ⟨_, .inl ⟨m, rfl⟩, hm.excluded_of_passed hstrict hmanifest'⟩
      · have hgone := ((passedBase_iff hdir).1 hpassed').2 t hin
        exact absurd (fun c hc => (hgone c hc).of_stricter hstrict) hsome
      · exact packageTarget_of_stricter hstrict hprobe hprobe' h h'

theorem Lookup.asBefore (hstrict : exclude'.StricterThan options.exclude) {dialect : Dialect}
    {dir : Path} {request : Request} {consulted consulted' : Option (Path × ProjectFile)}
    {probe probe' : Probe} (h : Lookup source options dialect dir request consulted probe)
    (h' : Lookup source { options with exclude := exclude' } dialect dir request consulted'
      probe') :
    AsBefore exclude' consulted probe consulted' probe' := by
  obtain ⟨target, htarget, hprobe⟩ := h
  obtain ⟨target', htarget', hprobe'⟩ := h'
  cases htarget with
  | relative path =>
    cases htarget'
    exact asBefore_of_probedAt hstrict hprobe hprobe'
  | absolute =>
    cases htarget'
    exact asBefore_of_probedAt hstrict hprobe hprobe'
  | package htarget =>
    cases htarget' with
    | package htarget' => exact packageTarget_of_stricter hstrict hprobe hprobe' htarget htarget'

end Lookups

/-! ## Scans -/

section Scans

variable (source options) in
/-- The lookup of a specifier of a file consults a path as a manifest or ends there. -/
def SpecifierTakes (p : Path) (file : ProjectFile) (specifier : Text) (q : Path) : Prop :=
  ∃ consulted probe, Lookup source options (dialectOf options p file) p.parent
    (requestOf specifier) consulted probe ∧ Takes consulted probe q

theorem SpecifierTakes.finding {p q : Path} {file : ProjectFile} {s : Text}
    (h : SpecifierTakes source options p file s q) (hkind : file.kind = .regular)
    (hs : s ∈ specifiersOf p file) : ∃ g, Finding source options p file q g := by
  obtain ⟨consulted, probe, hlookup, ⟨m, rfl⟩ | ⟨g, rfl⟩⟩ := h
  · exact ⟨m, .manifest hkind hs hlookup⟩
  · exact ⟨g, .answer hkind hs hlookup⟩

variable (source options exclude') in
/-- With further exclusions a specifier of a file takes a path, and without them another one that
only they exclude. -/
inductive Diverts (p : Path) : Path → Prop
  | specifier {file : ProjectFile} {s : Text} {c q : Path} (hfile : source p = .ok (some file))
      (hkind : file.kind = .regular) (hs : s ∈ specifiersOf p file)
      (hbefore : SpecifierTakes source options p file s c)
      (hkept : options.exclude.check c = .ok false) (hexcluded : exclude'.check c = .ok true)
      (hnow : SpecifierTakes source { options with exclude := exclude' } p file s q) :
      Diverts p q

variable {limit limit' : Nat} {entrypoint : Path} {r r' : Resolution}

/-- Of a file of the one resolution a specifier leads to a file of it, unless it is diverted. -/
theorem mem_or_diverts_of_specifier (hstrict : exclude'.StricterThan options.exclude)
    (h : Yields source (resolver limit options entrypoint) r) {p q : Path} (hp : p ∈ r.files)
    {file : ProjectFile} {s : Text} (hfile : source p = .ok (some file))
    (hkind : file.kind = .regular) (hs : s ∈ specifiersOf p file)
    (hnow : SpecifierTakes source { options with exclude := exclude' } p file s q) :
    q ∈ r.files ∨ Diverts source options exclude' p q := by
  obtain ⟨entry, -, hreached⟩ := mem_files_iff_reached h
  obtain ⟨file₁, finds, hfile₁, hvisit, -⟩ := reported_of_resolver h hp
  cases hfile.symm.trans hfile₁
  unfold visit at hvisit
  rw [hkind] at hvisit
  obtain ⟨parts, -, -, -, hall⟩ := followSpecifiers_parts hvisit
  obtain ⟨part, -, hpart⟩ := hall s hs
  obtain ⟨consulted', probe', hlookup', htakes'⟩ := hnow
  rcases yields_followSpecifier.1 hpart with ⟨hbuiltin, -⟩ | ⟨consulted, probe, hlookup, -⟩
  · obtain ⟨target, htarget, -⟩ := hlookup'
    rw [hbuiltin] at htarget
    cases htarget
  · rcases hlookup.asBefore hstrict hlookup' with hsame | ⟨c, hc, hexcluded⟩
    · have htakes : SpecifierTakes source options p file s q :=
        ⟨consulted, probe, hlookup, hsame q htakes'⟩
      obtain ⟨g, hfinding⟩ := htakes.finding hkind hs
      exact .inl ((hreached q).2 (((hreached p).1 hp).tail ⟨file, hfile, g, hfinding⟩))
    · have htakes : SpecifierTakes source options p file s c := ⟨consulted, probe, hlookup, hc⟩
      obtain ⟨g, hfinding⟩ := htakes.finding hkind hs
      exact .inr (.specifier hfile hkind hs htakes hfinding.available.1 hexcluded
        ⟨consulted', probe', hlookup', htakes'⟩)

/-- A step with further exclusions leads from a file of the resolution without them to another,
unless a specifier is diverted. -/
theorem mem_or_diverts (hstrict : exclude'.StricterThan options.exclude)
    (h : Yields source (resolver limit options entrypoint) r) {p q : Path} (hp : p ∈ r.files)
    (hlead : Leads source { options with exclude := exclude' } p q) :
    q ∈ r.files ∨ Diverts source options exclude' p q := by
  obtain ⟨file, hfile, g, hfinding⟩ := hlead
  cases hfinding with
  | link hkind htarget hq =>
    obtain ⟨entry, -, hreached⟩ := mem_files_iff_reached h
    have hfinding : Finding source options p file q g :=
      .link hkind htarget (hq.of_stricter hstrict)
    exact .inl ((hreached q).2 (((hreached p).1 hp).tail ⟨file, hfile, g, hfinding⟩))
  | answer hkind hs hlookup =>
    exact mem_or_diverts_of_specifier hstrict h hp hfile hkind hs
      ⟨_, _, hlookup, .inr ⟨g, rfl⟩⟩
  | manifest hkind hs hlookup =>
    exact mem_or_diverts_of_specifier hstrict h hp hfile hkind hs
      ⟨_, _, hlookup, .inl ⟨g, rfl⟩⟩

theorem Diverts.exists_excluded (h : Yields source (resolver limit options entrypoint) r)
    {p q : Path} (hp : p ∈ r.files) (hdiverts : Diverts source options exclude' p q) :
    ∃ c ∈ r.files, options.exclude.check c = .ok false ∧ exclude'.check c = .ok true := by
  obtain ⟨entry, -, hreached⟩ := mem_files_iff_reached h
  cases hdiverts with
  | @specifier file s c _ hfile hkind hs hbefore hkept hexcluded _ =>
    obtain ⟨g, hfinding⟩ := hbefore.finding hkind hs
    have hc : c ∈ r.files := (hreached c).2 (((hreached p).1 hp).tail ⟨file, hfile, g, hfinding⟩)
    exact ⟨c, hc, hkept, hexcluded⟩

/-- Patterns that take nothing back are added to a list of exclusions. What is then resolved anew
was resolved before, or is reached from where a specifier of a file of both resolutions is diverted
because they exclude what it took. Nothing is gained if they exclude no file of the resolution
before. -/
theorem further_exclusions {t : Tree} {s : Snapshot} {root : Path} {patterns further : List Text}
    (hbuild : Ignore.build root patterns = .ok options.exclude)
    (hbuild' : Ignore.build root (patterns ++ further) = .ok exclude')
    (hfurther : ∀ p ∈ further, p.head? ≠ some '!')
    (h : (s.run t (resolver limit options entrypoint).run).1 = .ok (.ok r))
    (h' : (s.run t (resolver limit' { options with exclude := exclude' } entrypoint).run).1
      = .ok (.ok r')) :
    (∀ q ∈ r'.files, q ∈ r.files ∨ ∃ p ∈ r.files, p ∈ r'.files ∧ ∃ found,
        Diverts (s.answers t) options exclude' p found
          ∧ Relation.ReflTransGen (Leads (s.answers t) { options with exclude := exclude' })
            found q)
      ∧ ((∀ p ∈ r.files, options.exclude.check p = .ok false → exclude'.check p ≠ .ok true) →
        ∀ q ∈ r'.files, q ∈ r.files) := by
  have hstrict := Ignore.stricterThan_of_build hbuild hbuild' hfurther
  rw [Snapshot.run_eq_answer] at h h'
  have hyields : Yields (s.answers t) (resolver limit options entrypoint) r := h
  have hyields' : Yields (s.answers t)
    (resolver limit' { options with exclude := exclude' } entrypoint) r' := h'
  obtain ⟨entry, hentry, hreached⟩ := mem_files_iff_reached hyields
  obtain ⟨entry', hentry', hreached'⟩ := mem_files_iff_reached hyields'
  cases hentry.symm.trans hentry'
  have hfiles : ∀ q ∈ r'.files, q ∈ r.files ∨ ∃ p ∈ r.files, p ∈ r'.files ∧ ∃ found,
      Diverts (s.answers t) options exclude' p found
        ∧ Relation.ReflTransGen (Leads (s.answers t) { options with exclude := exclude' })
          found q := by
    intro q hq
    induction (hreached' q).1 hq with
    | refl => exact .inl ((hreached entry).2 .refl)
    | @tail p q hpath hlead ih =>
      have hp' : p ∈ r'.files := (hreached' p).2 hpath
      rcases ih hp' with hp | ⟨p₀, hp₀, hp₀', found, hdiverts, hlater⟩
      · rcases mem_or_diverts hstrict hyields hp hlead with hmem | hdiverts
        · exact .inl hmem
        · exact .inr ⟨p, hp, hp', q, hdiverts, .refl⟩
      · exact .inr ⟨p₀, hp₀, hp₀', found, hdiverts, hlater.tail hlead⟩
  refine ⟨hfiles, fun hnone q hq => (hfiles q hq).resolve_right ?_⟩
  rintro ⟨p, hp, -, found, hdiverts, -⟩
  obtain ⟨c, hc, hkept, hexcluded⟩ := hdiverts.exists_excluded hyields hp
  exact hnone c hc hkept hexcluded

/-- A file that asks for another one by a path that two files could stand for. -/
def twoCandidates : Tree :=
  projectWith [(["a.js"], .file "require('./b')".toUTF8 0o644),
    (["b.js"], .file ByteArray.empty 0o644), (["b.json"], .file ByteArray.empty 0o644)]

/-- The scan of that file takes the first candidate, and the second where that is excluded. -/
theorem scans_twoCandidates :
    ∃ r r', ((Snapshot.new "/p".toList).run twoCandidates
          (resolver 2 { exclude := { root := "/p".toList } } "a.js".toList).run).1 = .ok (.ok r)
      ∧ ((Snapshot.new "/p".toList).run twoCandidates
          (resolver 2 { exclude := excludingB } "a.js".toList).run).1 = .ok (.ok r')
      ∧ r.files = ["a.js".toList, "b.js".toList] ∧ r'.files = ["a.js".toList, "b.json".toList] := by
  have hrun : (yield? (Snapshot.source twoCandidates "/p".toList)
      (resolver 2 { exclude := { root := "/p".toList } } "a.js".toList)).map Resolution.files
        = some ["a.js".toList, "b.js".toList] := by
    decide +kernel
  have hrun' : (yield? (Snapshot.source twoCandidates "/p".toList)
      (resolver 2 { exclude := excludingB } "a.js".toList)).map Resolution.files
        = some ["a.js".toList, "b.json".toList] := by
    decide +kernel
  obtain ⟨r, hr, hfiles⟩ := Option.map_eq_some_iff.1 hrun
  obtain ⟨r', hr', hfiles'⟩ := Option.map_eq_some_iff.1 hrun'
  exact ⟨r, r', (Snapshot.run_new _ _ _).trans ((yield?_eq_some _).1 hr),
    (Snapshot.run_new _ _ _).trans ((yield?_eq_some _).1 hr'), hfiles, hfiles'⟩

theorem further_exclusions_twoCandidates :
    ∃ r r' : Resolution, r.files = ["a.js".toList, "b.js".toList]
      ∧ r'.files = ["a.js".toList, "b.json".toList]
      ∧ ∃ p ∈ r.files, p ∈ r'.files ∧ ∃ found,
        Diverts ((Snapshot.new "/p".toList).answers twoCandidates)
            { exclude := { root := "/p".toList } } excludingB p found
          ∧ Relation.ReflTransGen
            (Leads ((Snapshot.new "/p".toList).answers twoCandidates) { exclude := excludingB })
            found "b.json".toList := by
  obtain ⟨r, r', hr, hr', hfiles, hfiles'⟩ := scans_twoCandidates
  have hbuild : Ignore.build "/p".toList [] = .ok { root := "/p".toList } := rfl
  have hbuild' : Ignore.build "/p".toList ([] ++ ["b.js".toList]) = .ok excludingB :=
    build_excludingB
  obtain ⟨hgained, -⟩ := further_exclusions hbuild hbuild' (by decide) hr hr'
  have hnew : "b.json".toList ∈ r'.files := by
    rw [hfiles']
    decide
  have hnot : "b.json".toList ∉ r.files := by
    rw [hfiles]
    decide
  exact ⟨r, r', hfiles, hfiles', (hgained _ hnew).resolve_left hnot⟩

/-- A pattern that takes nothing back is added, and the scan takes a file that it did not take. -/
theorem excluded_candidate_gives_way :
    ∃ r r', Ignore.build "/p".toList [] = .ok { root := "/p".toList }
      ∧ Ignore.build "/p".toList ([] ++ ["b.js".toList]) = .ok excludingB
      ∧ (∀ p ∈ ["b.js".toList], '!' ∉ p)
      ∧ ((Snapshot.new "/p".toList).run twoCandidates
          (resolver 2 { exclude := { root := "/p".toList } } "a.js".toList).run).1 = .ok (.ok r)
      ∧ ((Snapshot.new "/p".toList).run twoCandidates
          (resolver 2 { exclude := excludingB } "a.js".toList).run).1 = .ok (.ok r')
      ∧ ¬ ∀ q ∈ r'.files, q ∈ r.files := by
  obtain ⟨r, r', hr, hr', hfiles, hfiles'⟩ := scans_twoCandidates
  refine ⟨r, r', rfl, build_excludingB, by decide, hr, hr', ?_⟩
  rw [hfiles, hfiles']
  decide

end Scans

end Import

end AppBundle
