import AppBundle.Text

/-!
# Catalogs

A catalog files values under keys, in ascending order of the keys, which is transitive and sets any
two different keys apart. Filing a value under a key that is already there replaces the value
(`find?_insert`), and no key is listed twice, because the keys ascend.
-/

namespace AppBundle

/-- Keys in a strict order that sets any two different ones apart. -/
class KeyOrder (κ : Type) [LT κ] : Prop where
  lt_trans {a b c : κ} (h : a < b) (h' : b < c) : a < c
  eq_of_not_lt {a b : κ} (h : ¬a < b) (h' : ¬b < a) : a = b

instance : KeyOrder Char where
  lt_trans := Char.lt_trans
  eq_of_not_lt h h' := Char.le_antisymm (Char.not_lt.1 h') (Char.not_lt.1 h)

instance {α : Type} [LT α] [KeyOrder α] : KeyOrder (List α) where
  lt_trans :=
    have : Trans (· < · : α → α → Prop) (· < · : α → α → Prop) (· < ·) := ⟨KeyOrder.lt_trans⟩
    List.lt_trans
  eq_of_not_lt h h' :=
    have : Std.Trichotomous (· < · : α → α → Prop) := ⟨fun _ _ => KeyOrder.eq_of_not_lt⟩
    List.le_antisymm h' h

namespace Ascending

variable {κ : Type} [LT κ] [DecidableLT κ] [DecidableEq κ]

/-- Adds a key to an ascending list unless it is there. -/
def insert (k : κ) : List κ → List κ
  | [] => [k]
  | l :: ls => if k < l then k :: l :: ls else if k = l then l :: ls else l :: insert k ls

@[simp] theorem mem_insert {k l : κ} {ls : List κ} : l ∈ insert k ls ↔ l = k ∨ l ∈ ls := by
  induction ls with
  | nil => simp [insert]
  | cons v vs ih =>
    simp only [insert]
    split
    · simp
    · split
      · rename_i h; subst h; simp
      · simp only [List.mem_cons, ih]; grind

/-- The members of a list in ascending order, each once. -/
def ofList (ks : List κ) : List κ := ks.foldr insert []

@[simp] theorem mem_ofList {k : κ} {ks : List κ} : k ∈ ofList ks ↔ k ∈ ks := by
  induction ks with
  | nil => simp [ofList]
  | cons v vs ih => simpa [ofList] using or_congr_right ih

section Order

variable [KeyOrder κ]

theorem pairwise_insert {k : κ} {ls : List κ} (h : ls.Pairwise (· < ·)) :
    (insert k ls).Pairwise (· < ·) := by
  induction ls with
  | nil => simp [insert]
  | cons v vs ih =>
    rw [List.pairwise_cons] at h
    simp only [insert]
    split
    · rename_i hlt
      refine List.pairwise_cons.2 ⟨fun w hw => ?_, List.pairwise_cons.2 h⟩
      rcases List.mem_cons.1 hw with rfl | hw
      · exact hlt
      · exact KeyOrder.lt_trans hlt (h.1 w hw)
    · split
      · exact List.pairwise_cons.2 h
      · rename_i hlt hne
        refine List.pairwise_cons.2 ⟨fun w hw => ?_, ih h.2⟩
        rcases mem_insert.1 hw with rfl | hw
        · exact Decidable.of_not_not fun hgt => hne (KeyOrder.eq_of_not_lt hlt hgt)
        · exact h.1 w hw

theorem pairwise_ofList (ks : List κ) : (ofList ks).Pairwise (· < ·) := by
  induction ks with
  | nil => simp [ofList]
  | cons v vs ih => exact pairwise_insert ih

end Order

end Ascending

/-- Values filed under keys in ascending order. -/
structure Catalog (κ β : Type) [LT κ] where
  entries : List (κ × β) := []
  ascending : (entries.map (·.1)).Pairwise (· < ·) := by simp

namespace Catalog

variable {κ β : Type} [LT κ] [DecidableLT κ] [DecidableEq κ]

def empty {κ β : Type} [LT κ] : Catalog κ β := {}

instance {κ β : Type} [LT κ] : Inhabited (Catalog κ β) := ⟨empty⟩

def keys {κ β : Type} [LT κ] (c : Catalog κ β) : List κ := c.entries.map (·.1)

def size {κ β : Type} [LT κ] (c : Catalog κ β) : Nat := c.entries.length

def find? {κ β : Type} [LT κ] [DecidableEq κ] (c : Catalog κ β) (k : κ) : Option β :=
  c.entries.lookup k

def contains {κ β : Type} [LT κ] [DecidableEq κ] (c : Catalog κ β) (k : κ) : Bool :=
  (c.find? k).isSome

/-- Adds an entry to an ascending list, in place of the entry under the same key. -/
def insertEntry {κ β : Type} [LT κ] [DecidableLT κ] [DecidableEq κ] (k : κ) (v : β) :
    List (κ × β) → List (κ × β)
  | [] => [(k, v)]
  | (k', v') :: rest =>
    if k < k' then (k, v) :: (k', v') :: rest
    else if k = k' then (k, v) :: rest
    else (k', v') :: insertEntry k v rest

theorem keys_insertEntry (k : κ) (v : β) (es : List (κ × β)) :
    (insertEntry k v es).map (·.1) = Ascending.insert k (es.map (·.1)) := by
  induction es with
  | nil => rfl
  | cons e rest ih =>
    simp only [insertEntry, List.map_cons, Ascending.insert]
    split
    · rfl
    · split
      · rename_i h; simp [h]
      · simp [ih]

/-- The entries whose keys pass a test. -/
def filter {κ β : Type} [LT κ] (c : Catalog κ β) (test : κ → Bool) : Catalog κ β where
  entries := c.entries.filter fun e => test e.1
  ascending := c.ascending.sublist (List.filter_sublist.map _)

theorem lookup_insertEntry {k k' : κ} {v : β} {es : List (κ × β)}
    (h : (es.map (·.1)).Pairwise (· < ·)) :
    (insertEntry k v es).lookup k' = if k' = k then some v else es.lookup k' := by
  induction es with
  | nil => simp only [insertEntry, List.lookup_cons, List.lookup_nil]; grind
  | cons e rest ih =>
    obtain ⟨k₁, v₁⟩ := e
    simp only [List.map_cons, List.pairwise_cons] at h
    simp only [insertEntry]
    split
    · simp only [List.lookup_cons]; grind
    · split
      · rename_i hk; subst hk; simp only [List.lookup_cons]; grind
      · rename_i hlt hne
        simp only [List.lookup_cons, ih h.2]; grind

@[simp] theorem find?_empty {κ β : Type} [LT κ] [DecidableEq κ] (k : κ) :
    (empty : Catalog κ β).find? k = none := rfl

theorem mem_keys_iff {κ β : Type} [LT κ] [DecidableEq κ] {c : Catalog κ β} {k : κ} :
    k ∈ c.keys ↔ ∃ v, c.find? k = some v := by
  unfold keys find?
  induction c.entries with
  | nil => simp
  | cons e rest ih =>
    rw [List.map_cons, List.mem_cons, List.lookup_cons, ih]
    by_cases h : k = e.1
    · simp [h]
    · have hne : (k == e.1) = false := beq_eq_false_iff_ne.2 h
      simp [h, hne]

theorem length_insertEntry {k : κ} {v : β} : ∀ {es : List (κ × β)}, es.lookup k = none →
    (insertEntry k v es).length = es.length + 1
  | [], _ => rfl
  | (k', v') :: rest, h => by
    rw [List.lookup_cons] at h
    rcases hk : k == k' with _ | _
    · rw [hk] at h
      unfold insertEntry
      split
      · rfl
      · rw [if_neg (beq_eq_false_iff_ne.1 hk), List.length_cons, List.length_cons,
          length_insertEntry h]
    · rw [hk] at h
      cases h

section Order

variable [KeyOrder κ]

/-- Files a value under a key. -/
def insert (c : Catalog κ β) (k : κ) (v : β) : Catalog κ β where
  entries := insertEntry k v c.entries
  ascending := by rw [keys_insertEntry]; exact Ascending.pairwise_insert c.ascending

@[simp] theorem find?_insert (c : Catalog κ β) (k k' : κ) (v : β) :
    (c.insert k v).find? k' = if k' = k then some v else c.find? k' :=
  lookup_insertEntry c.ascending

/-- Filing a value under a new key adds one entry. -/
theorem size_insert {c : Catalog κ β} {k : κ} (v : β) (h : c.find? k = none) :
    (c.insert k v).size = c.size + 1 := length_insertEntry h

end Order

end Catalog

end AppBundle
