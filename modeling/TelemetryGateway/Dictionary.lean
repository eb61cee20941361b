/-!
# Dictionaries with text keys

List keys of a path element, the metadata of a target, the leaves of a cache and the targets of a
configuration are all finite maps from text.  A `Dictionary` keeps its entries in ascending order
of their keys (the order of code points), each key once, so two dictionaries are equal exactly when
they hold the same entries, and listing one needs no sort.

Main statements: `get?_insert` and `get?_erase` give the effect of the two writes on every key.
-/

namespace TelemetryGateway

/-- Entries in strictly ascending order of their keys. -/
structure Dictionary (α : Type) where
  entries : List (String × α)
  ascending : entries.Pairwise (fun a b => a.1 < b.1)
deriving DecidableEq

namespace Dictionary

variable {α β : Type}

def empty : Dictionary α := ⟨[], .nil⟩

instance : EmptyCollection (Dictionary α) := ⟨empty⟩

instance : Inhabited (Dictionary α) := ⟨empty⟩

/-- The keys in ascending order. -/
def keys (d : Dictionary α) : List String := d.entries.map (·.1)

def values (d : Dictionary α) : List α := d.entries.map (·.2)

def size (d : Dictionary α) : Nat := d.entries.length

def isEmpty (d : Dictionary α) : Bool := d.entries.isEmpty

def get? (d : Dictionary α) (key : String) : Option α :=
  (d.entries.find? (fun e => e.1 == key)).map (·.2)

def contains (d : Dictionary α) (key : String) : Bool := (d.get? key).isSome

/-! ## Writing one entry -/

/-- Puts an entry in its place in an ascending list, in the place of an entry with the same key. -/
def insertInto (key : String) (value : α) : List (String × α) → List (String × α)
  | [] => [(key, value)]
  | e :: rest =>
      if key < e.1 then (key, value) :: e :: rest
      else if e.1 < key then e :: insertInto key value rest
      else (key, value) :: rest

theorem mem_insertInto {key : String} {value : α} {l : List (String × α)} {e : String × α}
    (h : e ∈ insertInto key value l) : e = (key, value) ∨ e ∈ l := by
  induction l with
  | nil => simp_all [insertInto]
  | cons f rest ih =>
    simp only [insertInto] at h
    split at h
    · simpa using h
    · split at h
      · rcases List.mem_cons.1 h with h | h
        · simp [h]
        · rcases ih h with h | h <;> simp [h]
      · rcases List.mem_cons.1 h with h | h <;> simp [h]

theorem pairwise_insertInto {key : String} {value : α} {l : List (String × α)}
    (h : l.Pairwise (fun a b => a.1 < b.1)) :
    (insertInto key value l).Pairwise (fun a b => a.1 < b.1) := by
  induction l with
  | nil => simp [insertInto]
  | cons e rest ih =>
    obtain ⟨hhead, htail⟩ := List.pairwise_cons.1 h
    simp only [insertInto]
    split
    · next hlt =>
      refine List.pairwise_cons.2 ⟨fun f hf => ?_, h⟩
      rcases List.mem_cons.1 hf with rfl | hf
      · exact hlt
      · exact String.lt_trans hlt (hhead f hf)
    · split
      · next hgt =>
        refine List.pairwise_cons.2 ⟨fun f hf => ?_, ih htail⟩
        rcases mem_insertInto hf with rfl | hf
        · exact hgt
        · exact hhead f hf
      · next hlt hgt =>
        have heq : key = e.1 :=
          String.le_antisymm (String.not_lt.1 hgt) (String.not_lt.1 hlt)
        refine List.pairwise_cons.2 ⟨fun f hf => ?_, htail⟩
        exact heq ▸ hhead f hf

/-- Stores a value under a key, in the place of what was there. -/
def insert (d : Dictionary α) (key : String) (value : α) : Dictionary α :=
  ⟨insertInto key value d.entries, pairwise_insertInto d.ascending⟩

def filter (keep : String → α → Bool) (d : Dictionary α) : Dictionary α :=
  ⟨d.entries.filter (fun e => keep e.1 e.2), d.ascending.filter _⟩

def erase (d : Dictionary α) (key : String) : Dictionary α :=
  d.filter (fun k _ => k != key)

/-- Inserts entries one after the other, so that of two with the same key the later one stays. -/
def ofList (entries : List (String × α)) : Dictionary α :=
  entries.foldl (fun d e => d.insert e.1 e.2) empty

def map (f : α → β) (d : Dictionary α) : Dictionary β :=
  ⟨d.entries.map (fun e => (e.1, f e.2)), by
    rw [List.pairwise_map]
    exact d.ascending⟩

/-! ## What the writes do to every key -/

theorem find?_insertInto (key other : String) (value : α) {l : List (String × α)}
    (h : l.Pairwise (fun a b => a.1 < b.1)) :
    (insertInto key value l).find? (fun e => e.1 == other) =
      if key = other then some (key, value) else l.find? (fun e => e.1 == other) := by
  induction l with
  | nil => by_cases hk : key = other <;> simp [insertInto, hk]
  | cons e rest ih =>
    obtain ⟨hhead, htail⟩ := List.pairwise_cons.1 h
    simp only [insertInto]
    split
    · by_cases hk : key = other <;> simp [hk]
    · split
      · next hgt =>
        by_cases hk : key = other
        · subst hk
          have hne : ¬ e.1 = key := fun heq => String.lt_irrefl key (heq ▸ hgt)
          simp [hne, ih htail]
        · simp [List.find?_cons, ih htail, hk]
      · next hlt hgt =>
        have heq : key = e.1 :=
          String.le_antisymm (String.not_lt.1 hgt) (String.not_lt.1 hlt)
        by_cases hk : key = other
        · simp [hk]
        · have hne : ¬ e.1 = other := fun h' => hk (heq.trans h')
          simp [hk, hne]

@[simp] theorem get?_empty (key : String) : (empty : Dictionary α).get? key = none := rfl

/-- After an insertion the key has the new value and every other key what it had. -/
theorem get?_insert (d : Dictionary α) (key other : String) (value : α) :
    (d.insert key value).get? other = if key = other then some value else d.get? other := by
  unfold get? insert
  rw [find?_insertInto key other value d.ascending]
  split <;> rfl

/-- After a removal the key has no value and every other key what it had. -/
theorem get?_erase (d : Dictionary α) (key other : String) :
    (d.erase key).get? other = if key = other then none else d.get? other := by
  unfold get? erase filter
  simp only [List.find?_filter]
  by_cases hk : key = other
  · subst hk
    simp only [if_true, Option.map_eq_none_iff, List.find?_eq_none]
    intro e _
    simp
  · rw [if_neg hk]
    congr 1
    congr 1
    funext e
    by_cases he : e.1 = other
    · have hne : ¬ e.1 = key := fun h' => hk (h'.symm.trans he)
      simp [he]
      exact fun h' => hk h'.symm
    · simp [he]

end Dictionary

end TelemetryGateway
