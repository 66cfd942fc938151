import AppBundle.Import.Exports
import Mathlib.Logic.Relation

/-!
# Conditional exports

A target stands in a manifest below the keys of the objects that it lies in, and an importer can use
it if it meets all of them. Which one it gets is told by the leaves of the value alone: the first,
in the order of the document, whose keys it meets (`Import.conditionalTarget?_eq`). A branch whose
key is met and that has no such leaf is passed by like any other.

So whatever stands below a key that the importer does not meet has no influence, however deep it
lies and whatever is put in its place (`Import.first_met_leaf_decides`).
-/

namespace AppBundle

namespace Json

mutual

/-- The strings of a value in the order of the document, each with the keys of the objects that it
lies in, the outermost first. -/
def leaves : Json → List (List Text × Text)
  | .string t => [([], t)]
  | .array items => leavesOfItems items
  | .object members => leavesOfMembers members
  | .null | .bool _ | .number _ => []

def leavesOfItems : List Json → List (List Text × Text)
  | [] => []
  | v :: vs => v.leaves ++ leavesOfItems vs

def leavesOfMembers : List (Text × Json) → List (List Text × Text)
  | [] => []
  | (key, v) :: rest =>
    v.leaves.map (fun (keys, t) => (key :: keys, t)) ++ leavesOfMembers rest

end

end Json

/-- The conditions that importers of a dialect meet. -/
def Dialect.conditions : Dialect → List Text
  | esModule => ["node", "default", "import"].map String.toList
  | commonJs => ["node", "default", "require"].map String.toList

theorem Dialect.meets_iff {d : Dialect} {key : Text} :
    d.meets key = true ↔ key ∈ d.conditions := by
  rw [meets, Bool.or_eq_true, Bool.or_eq_true, decide_eq_true_eq, decide_eq_true_eq,
    decide_eq_true_eq, or_assoc]
  have hmem : ∀ a b c : Text, key ∈ [a, b, c] ↔ key = a ∨ key = b ∨ key = c := by simp
  cases d with
  | esModule => exact (hmem _ _ _).symm
  | commonJs => exact (hmem _ _ _).symm

namespace Import

variable {d : Dialect} {v w : Json} {key : Text}

/-- The importer meets all conditions of a leaf. -/
def Meets (d : Dialect) (leaf : List Text × Text) : Prop := ∀ key ∈ leaf.1, key ∈ d.conditions

instance (d : Dialect) : DecidablePred (Meets d) :=
  fun leaf => inferInstanceAs (Decidable (∀ key ∈ leaf.1, key ∈ d.conditions))

theorem meets_below (d : Dialect) (key : Text) (leaf : List Text × Text) :
    Meets d (key :: leaf.1, leaf.2) ↔ key ∈ d.conditions ∧ Meets d leaf := List.forall_mem_cons

/-! ## The first leaf -/

/-- Below a key that is met the first leaf is the same as without it, and below any other there is
none. -/
theorem find?_below (d : Dialect) (key : Text) (leaves : List (List Text × Text)) :
    (leaves.map fun (keys, t) => (key :: keys, t)).find? (Meets d ·)
      = if d.meets key then (leaves.find? (Meets d ·)).map fun (keys, t) => (key :: keys, t)
        else none := by
  rw [List.find?_map]
  split
  · rename_i hkey
    have htest : ((fun leaf => decide (Meets d leaf)) ∘ fun (keys, t) => (key :: keys, t))
        = fun leaf => decide (Meets d leaf) := by
      funext leaf
      simp only [Function.comp_apply, meets_below, Dialect.meets_iff.1 hkey, true_and]
    rw [htest]
  · rename_i hkey
    rw [Dialect.meets_iff] at hkey
    rw [Option.map_eq_none_iff, List.find?_eq_none]
    simp [meets_below, hkey]

mutual

/-- The target of a value is its first leaf whose conditions are met. -/
theorem conditionalTarget?_eq (d : Dialect) : ∀ v : Json,
    conditionalTarget? d v = (v.leaves.find? (Meets d ·)).map Prod.snd
  | .string t => by simp [conditionalTarget?, Json.leaves, Meets]
  | .array items => by rw [conditionalTarget?, Json.leaves, targetOfItems?_eq d items]
  | .object members => by rw [conditionalTarget?, Json.leaves, targetOfMembers?_eq d members]
  | .null | .bool _ | .number _ => by rw [conditionalTarget?, Json.leaves]; rfl

theorem targetOfItems?_eq (d : Dialect) : ∀ items : List Json,
    targetOfItems? d items = ((Json.leavesOfItems items).find? (Meets d ·)).map Prod.snd
  | [] => rfl
  | v :: vs => by
    rw [targetOfItems?, Json.leavesOfItems, conditionalTarget?_eq d v, targetOfItems?_eq d vs,
      List.find?_append]
    rcases v.leaves.find? (Meets d ·) with _ | leaf <;> rfl

theorem targetOfMembers?_eq (d : Dialect) : ∀ members : List (Text × Json),
    targetOfMembers? d members = ((Json.leavesOfMembers members).find? (Meets d ·)).map Prod.snd
  | [] => rfl
  | (key, v) :: rest => by
    rw [targetOfMembers?, Json.leavesOfMembers, conditionalTarget?_eq d v,
      targetOfMembers?_eq d rest, List.find?_append, find?_below]
    split
    · rcases v.leaves.find? (Meets d ·) with _ | leaf <;> rfl
    · rfl

end

/-! ## Members without influence -/

/-- Somewhere in a value members of an object whose conditions are not met are exchanged for others
such: none for some, some for none, or some for some. -/
inductive Exchanged (d : Dialect) : Json → Json → Prop
  | here {before unmet unmet' after : List (Text × Json)} (h : ∀ m ∈ unmet, m.1 ∉ d.conditions)
      (h' : ∀ m ∈ unmet', m.1 ∉ d.conditions) :
      Exchanged d (.object (before ++ unmet ++ after)) (.object (before ++ unmet' ++ after))
  | item {before after : List Json} {v w : Json} (h : Exchanged d v w) :
      Exchanged d (.array (before ++ v :: after)) (.array (before ++ w :: after))
  | member {before after : List (Text × Json)} {key : Text} {v w : Json} (h : Exchanged d v w) :
      Exchanged d (.object (before ++ (key, v) :: after)) (.object (before ++ (key, w) :: after))

/-- Setting a member whose condition is not met is an exchange, whether or not its key is new. -/
theorem exchanged_setMember (hkey : key ∉ d.conditions) (value : Json) :
    ∀ before members : List (Text × Json), Exchanged d (.object (before ++ members))
      (.object (before ++ Json.setMember key value members))
  | before, [] => by
    have h : Exchanged d (.object (before ++ [] ++ []))
        (.object (before ++ [(key, value)] ++ [])) :=
      .here (by simp) (by simpa using hkey)
    simpa [Json.setMember] using h
  | before, (k, old) :: rest => by
    rw [Json.setMember]
    split
    · rename_i hk
      have h : Exchanged d (.object (before ++ [(k, old)] ++ rest))
          (.object (before ++ [(k, value)] ++ rest)) :=
        .here (by simpa [hk] using hkey) (by simpa [hk] using hkey)
      simpa using h
    · simpa using exchanged_setMember hkey value (before ++ [(k, old)]) rest

theorem targetOfItems?_append (d : Dialect) (later : List Json) : ∀ items : List Json,
    targetOfItems? d (items ++ later) = (targetOfItems? d items).or (targetOfItems? d later)
  | [] => rfl
  | v :: vs => by
    rw [List.cons_append, targetOfItems?, targetOfItems?, targetOfItems?_append d later vs]
    cases conditionalTarget? d v <;> rfl

theorem targetOfMembers?_append (d : Dialect) (later : List (Text × Json)) :
    ∀ members : List (Text × Json), targetOfMembers? d (members ++ later)
      = (targetOfMembers? d members).or (targetOfMembers? d later)
  | [] => rfl
  | (key, v) :: rest => by
    rw [List.cons_append, targetOfMembers?, targetOfMembers?, targetOfMembers?_append d later rest]
    split
    · cases conditionalTarget? d v <;> rfl
    · rfl

theorem targetOfMembers?_unmet : ∀ {unmet : List (Text × Json)},
    (∀ m ∈ unmet, m.1 ∉ d.conditions) → targetOfMembers? d unmet = none
  | [], _ => rfl
  | (key, v) :: rest, h => by
    obtain ⟨hkey, hrest⟩ := List.forall_mem_cons.1 h
    rw [targetOfMembers?, if_neg fun hmeets => hkey (Dialect.meets_iff.1 hmeets),
      targetOfMembers?_unmet hrest]

/-- One exchange keeps the target. -/
theorem Exchanged.target_eq (h : Exchanged d v w) :
    conditionalTarget? d w = conditionalTarget? d v := by
  induction h with
  | here h h' =>
    simp only [conditionalTarget?, targetOfMembers?_append, targetOfMembers?_unmet h,
      targetOfMembers?_unmet h']
  | item _ ih => simp only [conditionalTarget?, targetOfItems?_append, targetOfItems?, ih]
  | member _ ih => simp only [conditionalTarget?, targetOfMembers?_append, targetOfMembers?, ih]

/-- However often members are exchanged, the target stays. -/
theorem target_eq_of_exchanges (h : Relation.ReflTransGen (Exchanged d) v w) :
    conditionalTarget? d w = conditionalTarget? d v := by
  induction h with
  | refl => rfl
  | tail _ hstep ih => exact hstep.target_eq.trans ih

/-- An importer gets the first string, in the order of the document, all of whose enclosing keys are
conditions that it meets, and nothing exactly if there is none. Exchanging members below keys that
it does not meet, anywhere and as often as one likes, changes nothing. -/
theorem first_met_leaf_decides (d : Dialect) (v : Json) :
    (∀ target, conditionalTarget? d v = some target
      ↔ ∃ before keys after, v.leaves = before ++ (keys, target) :: after
        ∧ Meets d (keys, target) ∧ ∀ leaf ∈ before, ¬ Meets d leaf)
    ∧ (conditionalTarget? d v = none ↔ ∀ leaf ∈ v.leaves, ¬ Meets d leaf)
    ∧ ∀ w, Relation.ReflTransGen (Exchanged d) v w →
        conditionalTarget? d w = conditionalTarget? d v := by
  refine ⟨fun target => ?_, ?_, fun w => target_eq_of_exchanges⟩
  · rw [conditionalTarget?_eq, Option.map_eq_some_iff]
    constructor
    · rintro ⟨⟨keys, t⟩, hfind, rfl⟩
      obtain ⟨hmeets, before, after, hleaves, hbefore⟩ := List.find?_eq_some_iff_append.1 hfind
      exact ⟨before, keys, after, hleaves, by simpa using hmeets, by simpa using hbefore⟩
    · rintro ⟨before, keys, after, hleaves, hmeets, hbefore⟩
      refine ⟨(keys, target), List.find?_eq_some_iff_append.2 ?_, rfl⟩
      exact ⟨by simpa using hmeets, before, after, hleaves, by simpa using hbefore⟩
  · rw [conditionalTarget?_eq, Option.map_eq_none_iff, List.find?_eq_none]
    simp

/-- Exports whose first met condition leads to nothing: `node` holds only a target for browsers, and
the target for ES modules stands behind it, in a list. -/
def nestedExports : Json :=
  .object [("node".toList, .object [("browser".toList, .string "./b.js".toList)]),
    ("import".toList, .array [.null, .object [("default".toList, .string "./m.mjs".toList)]]),
    ("default".toList, .string "./c.js".toList)]

theorem first_met_leaf_decides_nestedExports :
    conditionalTarget? .esModule nestedExports = some "./m.mjs".toList
      ∧ ∃ w, Relation.ReflTransGen (Exchanged .esModule) nestedExports w ∧ w.leaves.length = 4
        ∧ conditionalTarget? .esModule w = some "./m.mjs".toList := by
  obtain ⟨hfirst, -, hkeep⟩ := first_met_leaf_decides .esModule nestedExports
  have htarget : conditionalTarget? .esModule nestedExports = some "./m.mjs".toList :=
    (hfirst _).2 ⟨[(["node".toList, "browser".toList], "./b.js".toList)], _, _, rfl,
      by decide, by decide⟩
  have hrequire : "require".toList ∉ Dialect.esModule.conditions := by decide
  have hset := exchanged_setMember hrequire (.string "./r.js".toList) []
    [("browser".toList, .string "./b.js".toList)]
  have hbelow : ∀ after, Exchanged .esModule (.object ([] ++ _ :: after))
      (.object ([] ++ ("node".toList, _) :: after)) := fun after => .member hset
  exact ⟨htarget, _, .single (hbelow _), rfl, (hkeep _ (.single (hbelow _))).trans htarget⟩

end Import

end AppBundle
