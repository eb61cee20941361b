import TelemetryGateway.Proofs.Cache.LeafMap

/-!
# A notification as one write

What a notification does to a cache is said for every key and for arbitrary texts, plain or not.  A
path without elements in one of its updates refuses all of it.  Otherwise the last update of a key
gives it its value, and a key without an update loses its value if one of the deletes covers it:
what the updates store is out of the reach of the deletes, which come first, and of each other's
order.

* `get?_foldl_removeSubtree`: which keys a list of deletes takes away;
* `Notification.Applied`: the cache after a notification, key by key;
* `TargetCache.update_whole`: a notification is applied in this way or not at all.
-/

namespace TelemetryGateway

namespace TargetCache

variable {root key : String} {roots roots' : List String} {values : Dictionary CachedValue}

/-! ## Deletes -/

/-- Whether the delete of a root takes a key away. -/
def Covers (root key : String) : Prop :=
  root = "/" ∨ root = key ∨ ∃ rest, key = root ++ "/" ++ rest

theorem covers_iff : Covers root key ↔ root = "/" ∨ liesUnder key root = true := by
  refine or_congr_right ?_
  rw [liesUnder, Bool.or_eq_true, beq_iff_eq, List.isPrefixOf_iff_prefix, eq_comm]
  refine or_congr_right ⟨?_, ?_⟩
  · rintro ⟨rest, rfl⟩
    exact ⟨rest.toList, by simp⟩
  · rintro ⟨rest, hrest⟩
    exact ⟨String.ofList rest, String.toList_inj.mp (by simp [← hrest])⟩

instance (root key : String) : Decidable (Covers root key) :=
  decidable_of_iff _ covers_iff.symm

theorem get?_removeSubtree (values : Dictionary CachedValue) (root key : String) :
    (removeSubtree values root).get? key = if Covers root key then none else values.get? key := by
  rw [removeSubtree]
  by_cases hroot : root = "/"
  · rw [if_pos hroot, if_pos (.inl hroot)]
    rfl
  · have hcovers : Covers root key ↔ liesUnder key root = true :=
      covers_iff.trans (or_iff_right hroot)
    rw [if_neg hroot, Dictionary.get?_filter]
    simp only [hcovers]
    cases liesUnder key root <;> rfl

theorem get?_foldl_removeSubtree (values : Dictionary CachedValue) (roots : List String)
    (key : String) :
    (roots.foldl removeSubtree values).get? key =
      if ∃ root ∈ roots, Covers root key then none else values.get? key := by
  induction roots generalizing values with
  | nil => simp
  | cons root rest ih =>
      rw [List.foldl_cons, ih, get?_removeSubtree]
      by_cases hrest : ∃ root ∈ rest, Covers root key
      · simp [hrest]
      · simp [hrest]

/-- Deletes can be made in any order. -/
theorem foldl_removeSubtree_of_perm (h : roots.Perm roots') :
    roots.foldl removeSubtree values = roots'.foldl removeSubtree values := by
  refine Dictionary.eq_of_get? fun key => ?_
  simp only [get?_foldl_removeSubtree, h.mem_iff]

end TargetCache

/-! ## Updates after deletes -/

namespace Notification

/-- The cache after a notification that is applied: the update is counted, and of every key it is
known what is there. -/
structure Applied (n : Notification) (c c' : TargetCache) : Prop where
  rest : c' = { c with values := c'.values, updates := c.updates + 1 }
  /-- The last update of a key gives it its value, also if a delete covers the key. -/
  updated {before after : List Update} {u : Update} : n.update = before ++ u :: after →
    (∀ v ∈ after, (n.base.join v.path).render ≠ (n.base.join u.path).render) →
    c'.values.get? (n.base.join u.path).render = some ⟨n.timestamp, u.val⟩
  /-- A key without an update has lost its value if a delete covers it. -/
  deleted {key : String} : (∀ u ∈ n.update, (n.base.join u.path).render ≠ key) →
    (∃ d ∈ n.delete, TargetCache.Covers (n.base.join d).render key) →
    c'.values.get? key = none
  /-- Any other key has what it had. -/
  kept {key : String} : (∀ u ∈ n.update, (n.base.join u.path).render ≠ key) →
    (∀ d ∈ n.delete, ¬ TargetCache.Covers (n.base.join d).render key) →
    c'.values.get? key = c.values.get? key

end Notification

namespace TargetCache

variable {n : Notification} {key : String}

theorem get?_applyTo_of_last {before after : List Update} {u : Update}
    (values : Dictionary CachedValue) (hsplit : n.update = before ++ u :: after)
    (hlast : ∀ v ∈ after, (n.base.join v.path).render ≠ (n.base.join u.path).render) :
    (applyTo values n).get? (n.base.join u.path).render = some ⟨n.timestamp, u.val⟩ := by
  rw [applyTo, storedLeaves, hsplit, List.map_append, List.map_cons]
  refine Dictionary.get?_foldl_insert_of_last _ fun e he => ?_
  obtain ⟨v, hv, rfl⟩ := List.mem_map.mp he
  exact hlast v hv

theorem get?_applyTo_of_forall_ne (values : Dictionary CachedValue)
    (h : ∀ u ∈ n.update, (n.base.join u.path).render ≠ key) :
    (applyTo values n).get? key =
      if ∃ d ∈ n.delete, Covers (n.base.join d).render key then none else values.get? key := by
  rw [applyTo, Dictionary.get?_foldl_insert_of_forall_ne, get?_foldl_removeSubtree]
  · simp only [deletedRoots, List.mem_map, exists_exists_and_eq_and]
  · intro e he
    obtain ⟨u, hu, rfl⟩ := List.mem_map.mp he
    exact h u hu

theorem applied_applyTo (c : TargetCache) (n : Notification) :
    n.Applied c { c with values := applyTo c.values n, updates := c.updates + 1 } where
  rest := rfl
  updated hsplit hlast := get?_applyTo_of_last c.values hsplit hlast
  deleted hupdates hdelete := by rw [get?_applyTo_of_forall_ne c.values hupdates, if_pos hdelete]
  kept hupdates hdeletes := by
    rw [get?_applyTo_of_forall_ne c.values hupdates, if_neg]
    rintro ⟨d, hd, hcovers⟩
    exact hdeletes d hd hcovers

/-- The order of the deletes makes no difference. -/
theorem update_of_perm (c : TargetCache) {deletes : List Path} (h : deletes.Perm n.delete) :
    c.update { n with delete := deletes } = c.update n := by
  have hdeletes : (deletedRoots { n with delete := deletes }).foldl removeSubtree c.values =
      (deletedRoots n).foldl removeSubtree c.values :=
    foldl_removeSubtree_of_perm (h.map _)
  rw [update, update, applyTo, applyTo, hdeletes]
  rfl

/-- A notification is applied as a whole or not at all: it is refused exactly if the path of some
update has no elements below the prefix, and then the cache is as before; otherwise its deletes come
first, in any order, and its updates after them. -/
theorem update_whole (c : TargetCache) (n : Notification) :
    (c.update n = .error .emptyPath ↔ ∃ u ∈ n.update, (n.base.join u.path).elem = []) ∧
    ((∃ u ∈ n.update, (n.base.join u.path).elem = []) → c.receive (.update n) = c) ∧
    ((∀ u ∈ n.update, (n.base.join u.path).elem ≠ []) →
      ∃ c', c.update n = .ok c' ∧ c.receive (.update n) = c' ∧ n.Applied c c') ∧
    ∀ deletes : List Path, deletes.Perm n.delete →
      c.update { n with delete := deletes } = c.update n := by
  rw [← hasRootUpdate_eq_true_iff, ← hasRootUpdate_eq_false_iff]
  refine ⟨⟨fun h => ?_, update_of_root c⟩, receive_of_root c, fun hroot => ?_,
    fun deletes h => update_of_perm c h⟩
  · by_contra hroot
    rw [update_of_no_root c (Bool.eq_false_iff.mpr hroot)] at h
    cases h
  · exact ⟨_, update_of_no_root c hroot, receive_of_no_root c hroot, applied_applyTo c n⟩

/-- The last update of a leaf stays, also below a deleted container; with an update at the root
behind it nothing happens at all. -/
example :
    let c : TargetCache :=
      { name := "leaf1", values := (∅ : Dictionary CachedValue).insert "/a/c" ⟨1, some (.int 1)⟩ }
    let n : Notification :=
      { timestamp := 2
        delete := [.ofNames ["a"]]
        update :=
          [.ofValue (.ofNames ["a", "b"]) (.int 2), .ofValue (.ofNames ["a", "b"]) (.int 3)] }
    (c.receive (.update n)).values.entries = [("/a/b", ⟨2, some (.int 3)⟩)] ∧
      c.receive (.update { n with update := n.update ++ [.ofValue {} (.int 4)] }) = c := by
  decide

end TargetCache

end TelemetryGateway
