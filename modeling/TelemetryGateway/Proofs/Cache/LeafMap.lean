import Mathlib.Data.Set.Function
import TelemetryGateway.Network.Basic
import TelemetryGateway.Proofs.Dictionary
import TelemetryGateway.Proofs.Message.PathText

/-!
# The leaves of a cache as a map from locations

A cache stores its leaves under texts and removes a subtree by comparing texts.  A *location*, an
origin with a list of elements, is what these texts stand for, and a `LeafMap` says what the calls
of a sink mean for locations: a notification first removes every leaf whose elements begin with
those of a deleted path, and then stores its updates one after the other.

As long as the paths of the notifications are plain, and none of them deletes the root, the two
agree (`TargetCache.refines_leafMap`): the cache has one leaf for each entry of the map, under the
text of its location.
-/

namespace TelemetryGateway

/-! ## Locations -/

/-- Where a leaf is: the origin and the elements of its path, without the target designator. -/
structure Location where
  origin : String
  elem : List PathElem
deriving DecidableEq

/-- The location that a path leads to. -/
def Path.location (p : Path) : Location := ⟨p.origin, p.elem⟩

namespace Location

/-- The path to a location. -/
def path (l : Location) : Path := { origin := l.origin, elem := l.elem }

/-- The text of the path to a location. -/
def render (l : Location) : String := l.path.render

/-- Whether a location is in the subtree of another one. -/
def IsBelow (l root : Location) : Prop := root.origin = l.origin ∧ root.elem <+: l.elem

instance (l root : Location) : Decidable (l.IsBelow root) :=
  inferInstanceAs (Decidable (_ ∧ _))

/-- The location of a leaf that a plain path leads to. -/
structure IsLeaf (l : Location) : Prop where
  path : l.path.IsPlain
  elem : l.elem ≠ []

theorem isLeaf_location {p : Path} (hp : p.IsPlain) (helem : p.elem ≠ []) : p.location.IsLeaf :=
  ⟨⟨hp.origin, hp.elem⟩, helem⟩

@[simp] theorem render_location (p : Path) : p.location.render = p.render := rfl

theorem render_ne_slash {l : Location} (hl : l.IsLeaf) : l.render ≠ "/" :=
  Path.render_ne_slash hl.path hl.elem

theorem render_inj {l l' : Location} (hl : l.path.IsPlain) (hl' : l'.path.IsPlain) :
    l.render = l'.render ↔ l = l' := by
  cases l
  cases l'
  exact (Path.render_eq_render_iff hl hl').trans (Location.mk.injEq ..).symm.to_iff

end Location

/-! ## Maps -/

/-- The latest values of leaves by their locations. -/
def LeafMap := Location → Option CachedValue

namespace LeafMap

/-- The map without leaves. -/
def empty : LeafMap := fun _ => none

/-- Removes every leaf of a subtree. -/
def remove (leaves : LeafMap) (root : Location) : LeafMap :=
  fun l => if l.IsBelow root then none else leaves l

/-- Gives the leaf at a location its value. -/
def store (leaves : LeafMap) (location : Location) (value : CachedValue) : LeafMap :=
  fun l => if l = location then some value else leaves l

/-- The leaves after a notification: its deletes first, then its updates in their order. -/
def apply (leaves : LeafMap) (n : Notification) : LeafMap :=
  n.update.foldl (fun ls u => ls.store (n.base.join u.path).location ⟨n.timestamp, u.val⟩)
    (n.delete.foldl (fun ls d => ls.remove (n.base.join d).location) leaves)

/-- The leaves after a call; a notification with an update at the root is refused. -/
def receive (leaves : LeafMap) : SinkCall → LeafMap
  | .reset => empty
  | .update n => if ∀ u ∈ n.update, (n.base.join u.path).elem ≠ [] then leaves.apply n else leaves
  | _ => leaves

end LeafMap

/-- A notification with plain paths that does not delete the root. -/
structure Notification.IsPlain (n : Notification) : Prop where
  base : n.base.IsPlain
  update : ∀ u ∈ n.update, u.path.IsPlain
  delete : ∀ d ∈ n.delete, d.IsPlain
  keeps_root : ∀ d ∈ n.delete, (n.base.join d).elem ≠ []

instance (n : Notification) : Decidable n.IsPlain :=
  decidable_of_iff (n.base.IsPlain ∧ (∀ u ∈ n.update, u.path.IsPlain) ∧
      (∀ d ∈ n.delete, d.IsPlain) ∧ ∀ d ∈ n.delete, (n.base.join d).elem ≠ [])
    ⟨fun ⟨hbase, hupdate, hdelete, hroot⟩ => ⟨hbase, hupdate, hdelete, hroot⟩,
      fun ⟨hbase, hupdate, hdelete, hroot⟩ => ⟨hbase, hupdate, hdelete, hroot⟩⟩

/-! ## Texts and locations -/

namespace TargetCache

/-- A key lies under a root if it is the root or goes on after it with a slash. -/
theorem liesUnder_iff {key root : String} :
    liesUnder key root = true ↔ ∃ r, AtSlash r ∧ root.toList ++ r = key.toList := by
  rw [liesUnder, Bool.or_eq_true, beq_iff_eq, List.isPrefixOf_iff_prefix]
  constructor
  · rintro (rfl | ⟨rest, hrest⟩)
    · exact ⟨[], atSlash_nil, List.append_nil _⟩
    · exact ⟨'/' :: rest, atSlash_cons rest, by rw [← hrest, List.append_assoc]; rfl⟩
  · rintro ⟨r, hr, h⟩
    cases r with
    | nil => exact .inl (String.toList_inj.mp (by rw [← h, List.append_nil]))
    | cons c rest =>
        cases hr c rfl
        exact .inr ⟨rest, by rw [← h, List.append_assoc]; rfl⟩

/-- For plain paths the comparison of texts is that of the elements. -/
theorem liesUnder_render_iff {l root : Location} (hl : l.IsLeaf) (hroot : root.IsLeaf) :
    liesUnder l.render root.render = true ↔ l.IsBelow root := by
  rw [liesUnder_iff, Location.render, Location.render, Path.toList_render, Path.toList_render]
  exact Path.exists_chars_append_iff hroot.path hl.path hroot.elem hl.elem

end TargetCache

/-! ## The leaves of a cache -/

namespace LeafMap

/-- The leaves of a map, each stored under the text of its location, and nothing else. -/
structure IsStored (leaves : LeafMap) (values : Dictionary CachedValue) : Prop where
  leaf : ∀ l : Location, (leaves l).isSome = true → l.IsLeaf
  get? : ∀ l : Location, l.path.IsPlain → values.get? l.render = leaves l
  key : ∀ key, values.contains key = true → ∃ l : Location, l.path.IsPlain ∧ l.render = key

variable {leaves : LeafMap} {values : Dictionary CachedValue}

theorem isStored_empty : empty.IsStored ∅ where
  leaf l h := by cases h
  get? l _ := rfl
  key key h := by cases h

theorem IsStored.remove (h : leaves.IsStored values) {root : Location} (hroot : root.IsLeaf) :
    (leaves.remove root).IsStored (TargetCache.removeSubtree values root.render) := by
  have hfilter : ∀ key, (TargetCache.removeSubtree values root.render).get? key =
      if TargetCache.liesUnder key root.render then none else values.get? key := by
    intro key
    rw [TargetCache.removeSubtree, if_neg (Location.render_ne_slash hroot), Dictionary.get?_filter]
    cases TargetCache.liesUnder key root.render <;> rfl
  constructor
  case leaf =>
    intro l hl
    rw [LeafMap.remove] at hl
    split at hl
    · cases hl
    · exact h.leaf l hl
  case get? =>
    intro l hl
    rw [hfilter, LeafMap.remove, h.get? l hl]
    by_cases helem : l.elem = []
    · -- there is no leaf at the root of an origin, neither before nor after
      have hnone : leaves l = none := by
        by_contra hsome
        exact (h.leaf l (Option.isSome_iff_ne_none.mpr hsome)).elem helem
      rw [hnone, ite_self, ite_self]
    · simp only [TargetCache.liesUnder_render_iff ⟨hl, helem⟩ hroot]
  case key =>
    intro key hkey
    rw [Dictionary.contains, hfilter] at hkey
    split at hkey
    · cases hkey
    · exact h.key key hkey

theorem IsStored.store (h : leaves.IsStored values) {location : Location}
    (hlocation : location.IsLeaf) (value : CachedValue) :
    (leaves.store location value).IsStored (values.insert location.render value) := by
  constructor
  case leaf =>
    intro l hl
    rw [LeafMap.store] at hl
    split at hl
    · next heq => exact heq ▸ hlocation
    · exact h.leaf l hl
  case get? =>
    intro l hl
    rw [Dictionary.get?_insert, LeafMap.store, h.get? l hl]
    simp only [Location.render_inj hlocation.path hl, eq_comm]
  case key =>
    intro key hkey
    rw [Dictionary.contains, Dictionary.get?_insert] at hkey
    split at hkey
    · next heq => exact ⟨location, hlocation.path, heq⟩
    · exact h.key key hkey

theorem IsStored.foldl_remove (h : leaves.IsStored values) {base : Path} {deletes : List Path}
    (hbase : base.IsPlain) (hdeletes : ∀ d ∈ deletes, d.IsPlain)
    (hroot : ∀ d ∈ deletes, (base.join d).elem ≠ []) :
    (deletes.foldl (fun ls d => ls.remove (base.join d).location) leaves).IsStored
      ((deletes.map fun d => (base.join d).render).foldl TargetCache.removeSubtree values) := by
  induction deletes generalizing leaves values with
  | nil => exact h
  | cons d rest ih =>
      obtain ⟨hd, hrest⟩ := List.forall_mem_cons.mp hdeletes
      obtain ⟨hdroot, hrestroot⟩ := List.forall_mem_cons.mp hroot
      exact ih (h.remove (Location.isLeaf_location (hbase.join hd) hdroot)) hrest hrestroot

theorem IsStored.foldl_store (h : leaves.IsStored values) {base : Path} {updates : List Update}
    (timestamp : Int64) (hbase : base.IsPlain) (hupdates : ∀ u ∈ updates, u.path.IsPlain)
    (hroot : ∀ u ∈ updates, (base.join u.path).elem ≠ []) :
    (updates.foldl (fun ls u => ls.store (base.join u.path).location ⟨timestamp, u.val⟩)
        leaves).IsStored
      ((updates.map fun u => ((base.join u.path).render, (⟨timestamp, u.val⟩ : CachedValue))).foldl
        (fun vs leaf => vs.insert leaf.1 leaf.2) values) := by
  induction updates generalizing leaves values with
  | nil => exact h
  | cons u rest ih =>
      obtain ⟨hu, hrest⟩ := List.forall_mem_cons.mp hupdates
      obtain ⟨huroot, hrestroot⟩ := List.forall_mem_cons.mp hroot
      exact ih (h.store (Location.isLeaf_location (hbase.join hu) huroot) _) hrest hrestroot

theorem IsStored.apply (h : leaves.IsStored values) {n : Notification} (hn : n.IsPlain)
    (hroot : ∀ u ∈ n.update, (n.base.join u.path).elem ≠ []) :
    (leaves.apply n).IsStored (TargetCache.applyTo values n) :=
  (h.foldl_remove hn.base hn.delete hn.keeps_root).foldl_store n.timestamp hn.base hn.update hroot

end LeafMap

namespace TargetCache

variable {n : Notification}

theorem hasRootUpdate_eq_true_iff (n : Notification) :
    hasRootUpdate n = true ↔ ∃ u ∈ n.update, (n.base.join u.path).elem = [] := by
  simp only [hasRootUpdate, List.any_eq_true, Path.isRoot, List.isEmpty_iff]

theorem hasRootUpdate_eq_false_iff (n : Notification) :
    hasRootUpdate n = false ↔ ∀ u ∈ n.update, (n.base.join u.path).elem ≠ [] := by
  simp only [hasRootUpdate, List.any_eq_false, Path.isRoot, List.isEmpty_iff, Ne]

theorem update_of_root (c : TargetCache) (h : hasRootUpdate n = true) :
    c.update n = .error .emptyPath := by
  rw [update, h, if_pos rfl]

theorem update_of_no_root (c : TargetCache) (h : hasRootUpdate n = false) :
    c.update n = .ok { c with values := applyTo c.values n, updates := c.updates + 1 } := by
  rw [update, h, if_neg Bool.false_ne_true]

/-- A notification that is refused changes nothing. -/
theorem receive_of_root (c : TargetCache) (h : hasRootUpdate n = true) :
    c.receive (.update n) = c := by
  rw [receive, update_of_root c h]

theorem receive_of_no_root (c : TargetCache) (h : hasRootUpdate n = false) :
    c.receive (.update n) =
      { c with values := applyTo c.values n, updates := c.updates + 1 } := by
  rw [receive, update_of_no_root c h]

/-- A notification is refused exactly if one of its updates has no element below the prefix. -/
theorem exists_update_eq_ok_iff (cache : TargetCache) (n : Notification) :
    (∃ cache', cache.update n = .ok cache') ↔
      ∀ u ∈ n.update, (n.base.join u.path).elem ≠ [] := by
  rw [← hasRootUpdate_eq_false_iff, update]
  cases hasRootUpdate n <;> simp

theorem isStored_receive {cache : TargetCache} {leaves : LeafMap} {call : SinkCall}
    (h : leaves.IsStored cache.values) (hcall : ∀ n, call = .update n → n.IsPlain) :
    (leaves.receive call).IsStored (cache.receive call).values := by
  cases call with
  | connect => exact h
  | disconnect => exact h
  | sync => exact h
  | reset => exact LeafMap.isStored_empty
  | update n =>
      rw [LeafMap.receive]
      cases hroot : hasRootUpdate n with
      | true =>
          obtain ⟨u, hu, hempty⟩ := (hasRootUpdate_eq_true_iff n).mp hroot
          rw [receive_of_root cache hroot, if_neg fun hall => hall u hu hempty]
          exact h
      | false =>
          have hall := (hasRootUpdate_eq_false_iff n).mp hroot
          rw [receive_of_no_root cache hroot, if_pos hall]
          exact h.apply (hcall n rfl) hall

theorem isStored_foldl_receive {cache : TargetCache} {leaves : LeafMap} {calls : List SinkCall}
    (h : leaves.IsStored cache.values) (hcalls : ∀ n, .update n ∈ calls → n.IsPlain) :
    (calls.foldl LeafMap.receive leaves).IsStored (calls.foldl receive cache).values := by
  induction calls generalizing cache leaves with
  | nil => exact h
  | cons call rest ih =>
      refine ih (isStored_receive h fun n hn => ?_) fun n hn => hcalls n (List.mem_cons_of_mem _ hn)
      exact hcalls n (hn ▸ List.mem_cons_self)

/-- A cache holds what the calls mean for locations.  Whatever calls a new cache gets, if the paths
of the notifications are plain and none deletes the root: the entries of the map and the leaves of
the cache correspond one to one, an entry to the leaf under the text of its location, with the same
value; the text of a plain path is looked up as its location is; and the next notification is
accepted exactly if each of its updates has an element. -/
theorem refines_leafMap (name : String) (calls : List SinkCall)
    (hcalls : ∀ n, .update n ∈ calls → n.IsPlain) :
    let cache := calls.foldl receive { name }
    let leaves := calls.foldl LeafMap.receive .empty
    Set.BijOn Location.render {l | (leaves l).isSome} {key | cache.values.contains key} ∧
      (∀ l, (leaves l).isSome → cache.values.get? l.render = leaves l) ∧
      (∀ p : Path, p.IsPlain → cache.values.get? p.render = leaves p.location) ∧
      ∀ n, (∃ cache', cache.update n = .ok cache') ↔
        ∀ u ∈ n.update, (n.base.join u.path).elem ≠ [] := by
  intro cache leaves
  have h : leaves.IsStored cache.values := isStored_foldl_receive LeafMap.isStored_empty hcalls
  refine ⟨⟨?_, ?_, ?_⟩, ?_, ?_, exists_update_eq_ok_iff cache⟩
  · intro l hl
    show (cache.values.get? l.render).isSome = true
    rw [h.get? l (h.leaf l hl).path]
    exact hl
  · intro l hl l' hl' heq
    exact (Location.render_inj (h.leaf l hl).path (h.leaf l' hl').path).mp heq
  · intro key hkey
    obtain ⟨l, hl, rfl⟩ := h.key key hkey
    refine ⟨l, ?_, rfl⟩
    show (leaves l).isSome = true
    rw [← h.get? l hl]
    exact hkey
  · exact fun l hl => h.get? l (h.leaf l hl).path
  · exact fun p hp => h.get? p.location ⟨hp.origin, hp.elem⟩

/-- The delete of one container leaves its sibling with the longer name and an interface whose name
has slashes, and the later of two updates stays. -/
theorem refines_leafMap_of_deleted_container :
    let mtu : List PathElem :=
      [(PathElem.named "interface").withKey "name" "ge-0/0/0", .named "mtu"]
    let first : Notification :=
      { timestamp := 1
        prefixPath := some ((Path.ofNames ["a"]).withTarget "leaf1")
        update := [.ofValue (.ofNames ["b", "x"]) (.int 1), .ofValue (.ofNames ["bc"]) (.int 1),
          .ofValue { elem := mtu } (.int 1500)] }
    let second : Notification :=
      { timestamp := 2
        delete := [.ofNames ["a", "b"]]
        update := [.ofValue (.ofNames ["a", "bc"]) (.int 2),
          .ofValue (.ofNames ["a", "bc"]) (.int 3)] }
    let calls : List SinkCall := [.connect, .update first, .sync, .update second]
    (∀ n, .update n ∈ calls → n.IsPlain) ∧
      let values := (calls.foldl receive { name := "leaf1" }).values
      values.get? "/a/b/x" = none ∧
        values.get? "/a/bc" = some ⟨2, some (.int 3)⟩ ∧
        values.get? "/a/interface[name=ge-0/0/0]/mtu" = some ⟨1, some (.int 1500)⟩ := by
  intro mtu first second calls
  have hplain : ∀ n, .update n ∈ calls → n.IsPlain := by
    intro n hn
    have hn : n = first ∨ n = second := by simpa [calls] using hn
    rcases hn with rfl | rfl <;> decide
  obtain ⟨-, -, hget, -⟩ := refines_leafMap "leaf1" calls hplain
  refine ⟨hplain, ?_, ?_, ?_⟩
  · exact (hget (.ofNames ["a", "b", "x"]) (by decide)).trans (by decide)
  · exact (hget (.ofNames ["a", "bc"]) (by decide)).trans (by decide)
  · exact (hget { elem := .named "a" :: mtu } (by decide)).trans (by decide)

end TargetCache

end TelemetryGateway
