import TelemetryGateway.Dictionary

/-!
# Keys, entries and sizes of dictionaries

The two writes are known by what they do to the value of every key.  Here the other ways to look at
a dictionary are tied to that: its entries (`mem_entries_iff`), its keys (`mem_keys_iff`), which are
determined by what the dictionary contains (`keys_eq_of_contains`), and its size.  The values of all
keys determine a dictionary (`eq_of_get?`), and it is found again from the list of its entries
(`ofList_entries`).
-/

namespace TelemetryGateway.Dictionary

variable {α β : Type} {d : Dictionary α} {key other : String} {value : α}

/-! ## Entries and keys -/

theorem find?_of_mem {l : List (String × α)} (hl : l.Pairwise fun a b => a.1 < b.1)
    (h : (key, value) ∈ l) : l.find? (fun e => e.1 == key) = some (key, value) := by
  induction l with
  | nil => cases h
  | cons e rest ih =>
      obtain ⟨hhead, htail⟩ := List.pairwise_cons.mp hl
      rcases List.mem_cons.mp h with rfl | hrest
      · simp
      · have hne : e.1 ≠ key := fun heq => String.lt_irrefl _ (heq ▸ hhead _ hrest)
        simp [hne, ih htail hrest]

theorem mem_entries_iff : (key, value) ∈ d.entries ↔ d.get? key = some value := by
  constructor
  · intro h
    rw [get?, find?_of_mem d.ascending h, Option.map_some]
  · intro h
    obtain ⟨⟨found, _⟩, he, rfl⟩ := Option.map_eq_some_iff.mp h
    have hkey : found = key := by simpa using List.find?_some he
    rw [← hkey]
    exact List.mem_of_find?_eq_some he

theorem contains_iff : d.contains key = true ↔ ∃ value, d.get? key = some value :=
  Option.isSome_iff_exists

theorem mem_keys_iff : key ∈ d.keys ↔ d.contains key = true := by
  rw [contains_iff, keys, List.mem_map]
  constructor
  · rintro ⟨⟨_, value⟩, hmem, rfl⟩
    exact ⟨value, mem_entries_iff.mp hmem⟩
  · rintro ⟨value, h⟩
    exact ⟨_, mem_entries_iff.mpr h, rfl⟩

theorem pairwise_keys (d : Dictionary α) : d.keys.Pairwise (· < ·) :=
  List.pairwise_map.mpr d.ascending

/-- A list in ascending order is known by its members. -/
theorem eq_of_ascending {γ : Type} {f : γ → String} {l l' : List γ}
    (hl : l.Pairwise fun a b => f a < f b) (hl' : l'.Pairwise fun a b => f a < f b)
    (h : ∀ a, a ∈ l ↔ a ∈ l') : l = l' := by
  have hnodup {l : List γ} (hl : l.Pairwise fun a b => f a < f b) : l.Nodup :=
    hl.imp fun {a b} (hlt : f a < f b) (heq : a = b) => String.lt_irrefl (f b) (heq ▸ hlt)
  have hperm : l.Perm l' := (List.perm_ext_iff_of_nodup (hnodup hl) (hnodup hl')).mpr h
  exact hperm.eq_of_pairwise
    (fun _ _ _ _ hlt hgt => absurd (String.lt_trans hlt hgt) (String.lt_irrefl _)) hl hl'

/-- Two dictionaries that contain the same keys list them in the same way. -/
theorem keys_eq_of_contains {d' : Dictionary β}
    (h : ∀ key, d.contains key = d'.contains key) : d.keys = d'.keys :=
  eq_of_ascending (f := id) d.pairwise_keys d'.pairwise_keys fun key => by
    rw [mem_keys_iff, mem_keys_iff, h]

theorem eq_of_entries {d' : Dictionary α} (h : d.entries = d'.entries) : d = d' := by
  cases d
  cases d'
  cases h
  rfl

/-- Two dictionaries with the same value for every key are equal. -/
theorem eq_of_get? {d' : Dictionary α} (h : ∀ key, d.get? key = d'.get? key) : d = d' :=
  eq_of_entries <| eq_of_ascending d.ascending d'.ascending fun ⟨key, value⟩ => by
    rw [mem_entries_iff, mem_entries_iff, h]

/-! ## The values of a part -/

theorem get?_filter (d : Dictionary α) (keep : String → Bool) (key : String) :
    (d.filter fun k _ => keep k).get? key = if keep key then d.get? key else none := by
  unfold get? filter
  rw [List.find?_filter]
  by_cases hkeep : keep key = true
  · rw [if_pos hkeep]
    congr 2
    funext e
    by_cases he : e.1 = key
    · simp [he, hkeep]
    · simp [he]
  · rw [if_neg hkeep, Option.map_eq_none_iff, List.find?_eq_none]
    intro e _ h
    obtain ⟨hkept, heq⟩ := of_decide_eq_true h
    exact hkeep (beq_iff_eq.mp heq ▸ hkept)

/-! ## Entries one after the other -/

theorem insertInto_of_forall_lt {l : List (String × α)} (h : ∀ e ∈ l, e.1 < key) :
    insertInto key value l = l ++ [(key, value)] := by
  induction l with
  | nil => rfl
  | cons e rest ih =>
      obtain ⟨hlt, hrest⟩ := List.forall_mem_cons.mp h
      have hge : ¬ key < e.1 := fun hgt => String.lt_irrefl _ (String.lt_trans hlt hgt)
      rw [insertInto, if_neg hge, if_pos hlt, ih hrest, List.cons_append]

/-- Ascending entries are put behind those that are there, one after the other. -/
theorem entries_foldl_insert {l : List (String × α)}
    (h : (d.entries ++ l).Pairwise fun a b => a.1 < b.1) :
    (l.foldl (fun d e => d.insert e.1 e.2) d).entries = d.entries ++ l := by
  induction l generalizing d with
  | nil => rw [List.append_nil, List.foldl_nil]
  | cons e rest ih =>
      have hbehind : ∀ f ∈ d.entries, f.1 < e.1 := fun f hf =>
        (List.pairwise_append.mp h).2.2 f hf e List.mem_cons_self
      have hinsert : (d.insert e.1 e.2).entries = d.entries ++ [e] :=
        insertInto_of_forall_lt hbehind
      rw [List.append_cons, ← hinsert] at h ⊢
      exact ih h

/-- Entries leave every key that is not theirs. -/
theorem get?_foldl_insert_of_forall_ne {l : List (String × α)} (d : Dictionary α)
    (h : ∀ e ∈ l, e.1 ≠ key) :
    (l.foldl (fun d e => d.insert e.1 e.2) d).get? key = d.get? key := by
  induction l generalizing d with
  | nil => rfl
  | cons e rest ih =>
      obtain ⟨hne, hrest⟩ := List.forall_mem_cons.mp h
      rw [List.foldl_cons, ih _ hrest, get?_insert, if_neg hne]

/-- Of the entries with one key the last one stays. -/
theorem get?_foldl_insert_of_last {before after : List (String × α)} (d : Dictionary α)
    (hlast : ∀ e ∈ after, e.1 ≠ key) :
    ((before ++ (key, value) :: after).foldl (fun d e => d.insert e.1 e.2) d).get? key =
      some value := by
  rw [List.foldl_append, List.foldl_cons, get?_foldl_insert_of_forall_ne _ hlast, get?_insert,
    if_pos rfl]

theorem eq_empty_of_isEmpty (h : d.isEmpty = true) : d = ∅ :=
  eq_of_entries (List.isEmpty_iff.mp h)

theorem ofList_entries (d : Dictionary α) : ofList d.entries = d :=
  eq_of_entries (entries_foldl_insert d.ascending)

/-! ## Sizes -/

theorem length_insertInto {l : List (String × α)} (h : ∀ e ∈ l, e.1 ≠ key) :
    (insertInto key value l).length = l.length + 1 := by
  induction l with
  | nil => rfl
  | cons e rest ih =>
      obtain ⟨hne, hrest⟩ := List.forall_mem_cons.mp h
      rw [insertInto]
      split
      · rfl
      · split
        · rw [List.length_cons, ih hrest, List.length_cons]
        · next hlt hgt =>
          exact absurd (String.le_antisymm (String.not_lt.mp hlt) (String.not_lt.mp hgt)) hne

theorem size_insert_of_none (h : d.get? key = none) : (d.insert key value).size = d.size + 1 := by
  refine length_insertInto fun e he hkey => ?_
  subst hkey
  rw [mem_entries_iff.mp he] at h
  cases h

theorem length_filter_ne {l : List (String × α)} (hl : l.Pairwise fun a b => a.1 < b.1)
    (h : (key, value) ∈ l) : (l.filter fun e => e.1 != key).length + 1 = l.length := by
  induction l with
  | nil => cases h
  | cons e rest ih =>
      obtain ⟨hhead, htail⟩ := List.pairwise_cons.mp hl
      rcases List.mem_cons.mp h with rfl | hrest
      · have hall : ∀ f ∈ rest, (f.1 != key) = true := fun f hf =>
          bne_iff_ne.mpr fun heq => String.lt_irrefl _ (heq ▸ hhead f hf)
        rw [List.filter_cons_of_neg (by simp), List.filter_eq_self.mpr hall, List.length_cons]
      · have hne : e.1 ≠ key := fun heq => String.lt_irrefl _ (heq ▸ hhead _ hrest)
        rw [List.filter_cons_of_pos (by simpa using hne), List.length_cons, ih htail hrest,
          List.length_cons]

theorem size_erase_of_some (h : d.get? key = some value) : (d.erase key).size + 1 = d.size :=
  length_filter_ne d.ascending (mem_entries_iff.mpr h)

end TelemetryGateway.Dictionary
