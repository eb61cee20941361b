import TelemetryGateway.Proofs.Cache.Batch

/-!
# The root of an origin

The text of a path without elements ends in a slash of its own, and the root of an origin is such a
path.  A delete looks for keys that go on after that text with another slash.  For the root of
everything, which has no origin, there is a rule apart; for the root of an origin there is none, and
the leaves of plain paths do not have two slashes there.  So the delete of the root of an origin
leaves the leaves of that origin where they are.

* `TargetCache.hasPlainLeaves_foldl_receive`: the leaves of a cache are those of plain paths, if all
  updates had plain paths;
* `TargetCache.not_covers_origin`: none of them is covered by the root of an origin;
* `TargetCache.leaves_of_deleted_origin`: what the delete of such a root does, and when it is what
  the leaves of the origin would need.
-/

namespace TelemetryGateway

namespace TargetCache

/-! ## Leaves of plain paths -/

/-- The keys of a dictionary are texts of plain paths with elements. -/
def HasPlainLeaves (values : Dictionary CachedValue) : Prop :=
  ∀ key, values.contains key = true → ∃ l : Location, l.IsLeaf ∧ l.render = key

theorem hasPlainLeaves_empty : HasPlainLeaves ∅ := by
  intro key hkey
  cases hkey

theorem hasPlainLeaves_applyTo {values : Dictionary CachedValue} {n : Notification}
    (h : HasPlainLeaves values) (hplain : ∀ u ∈ n.update, (n.base.join u.path).IsPlain)
    (helem : ∀ u ∈ n.update, (n.base.join u.path).elem ≠ []) :
    HasPlainLeaves (applyTo values n) := by
  intro key hkey
  by_cases hupdate : ∃ u ∈ n.update, (n.base.join u.path).render = key
  · obtain ⟨u, hu, rfl⟩ := hupdate
    exact ⟨_, Location.isLeaf_location (hplain u hu) (helem u hu), Location.render_location _⟩
  · have hnone : ∀ u ∈ n.update, (n.base.join u.path).render ≠ key :=
      fun u hu hrender => hupdate ⟨u, hu, hrender⟩
    refine h key ?_
    rw [Dictionary.contains, get?_applyTo_of_forall_ne values hnone] at hkey
    split at hkey
    · cases hkey
    · exact hkey

theorem hasPlainLeaves_receive {cache : TargetCache} {call : SinkCall}
    (h : HasPlainLeaves cache.values)
    (hcall : ∀ n, call = .update n → ∀ u ∈ n.update, (n.base.join u.path).IsPlain) :
    HasPlainLeaves (cache.receive call).values := by
  cases call with
  | connect | disconnect | sync => exact h
  | reset => exact hasPlainLeaves_empty
  | update n =>
      cases hroot : hasRootUpdate n with
      | true => rwa [receive_of_root cache hroot]
      | false =>
          rw [receive_of_no_root cache hroot]
          exact hasPlainLeaves_applyTo h (hcall n rfl) ((hasRootUpdate_eq_false_iff n).mp hroot)

theorem hasPlainLeaves_foldl_receive {cache : TargetCache} {calls : List SinkCall}
    (h : HasPlainLeaves cache.values)
    (hcalls : ∀ n, .update n ∈ calls → ∀ u ∈ n.update, (n.base.join u.path).IsPlain) :
    HasPlainLeaves (calls.foldl receive cache).values := by
  induction calls generalizing cache with
  | nil => exact h
  | cons call rest ih =>
      refine ih (hasPlainLeaves_receive h ?_) fun n hn => hcalls n (List.mem_cons_of_mem _ hn)
      rintro n rfl
      exact hcalls n List.mem_cons_self

/-! ## Roots of origins -/

variable {l : Location} {p : Path}

theorem render_ne_slash_of_origin (horigin : p.origin ≠ "") (helem : p.elem = []) :
    p.render ≠ "/" := by
  intro h
  have hchars : Path.originChars p.origin ++ ['/'] = Path.originChars "" ++ ['/'] := by
    rw [show Path.originChars "" ++ ['/'] = "/".toList from rfl, ← h, Path.toList_render,
      Path.chars, helem]
    rfl
  exact horigin (Path.originChars_inj (List.append_cancel_right hchars))

/-- The text of a path without elements, as a delete looks for it, is nowhere in that of a plain
path with elements. -/
theorem not_covers_origin (hl : l.IsLeaf) (horigin : p.origin ≠ "") (hslash : '/' ∉ p.origin.toList)
    (helem : p.elem = []) : ¬ Covers p.render l.render := by
  rw [covers_iff, liesUnder_iff, Path.toList_render, Location.render, Path.toList_render]
  rintro (hroot | ⟨r, hr, h⟩)
  · exact render_ne_slash_of_origin horigin helem hroot
  · obtain ⟨-, hrest⟩ := Path.chars_append_inj hslash hl.path.origin h
    obtain ⟨e, rest, he⟩ := List.exists_cons_of_ne_nil hl.elem
    have hplain : e.IsPlain := hl.path.elem e (by rw [show l.path.elem = _ from he]; simp)
    -- after its slash the text of a leaf goes on with the name of an element
    have hname : r = e.chars ++ rest.flatMap PathElem.slashed := by
      rw [helem, show l.path.elem = _ from he, Path.elemChars_of_ne_nil (List.cons_ne_nil _ _)]
        at hrest
      simpa [Path.elemChars, PathElem.slashed] using hrest
    obtain ⟨c, cs, hc⟩ := List.exists_cons_of_ne_nil
      (fun hnil => hplain.exists_name (String.toList_inj.mp hnil) : e.name.toList ≠ [])
    have hhead : r.head? = some c := by rw [hname, PathElem.chars, hc]; rfl
    exact (hplain.name c (by rw [hc]; exact List.mem_cons_self)).1 (hr c hhead)

/-! ## The delete of such a root -/

/-- The leaves of an origin are gone, and all others are as before. -/
def Emptied (origin : String) (values values' : Dictionary CachedValue) : Prop :=
  ∀ l : Location, l.IsLeaf → values.contains l.render = true →
    (l.origin = origin → values'.get? l.render = none) ∧
      (l.origin ≠ origin → values'.get? l.render = values.get? l.render)

section Delete

variable {n : Notification} {d : Path} {values values' : Dictionary CachedValue}

theorem get?_applyTo_of_delete (hupdate : n.update = []) (hdelete : n.delete = [d]) (key : String) :
    (applyTo values n).get? key =
      if Covers (n.base.join d).render key then none else values.get? key := by
  rw [get?_applyTo_of_forall_ne values (by simp [hupdate]), hdelete]
  simp only [List.mem_singleton, exists_eq_left]

/-- If the root of an origin is deleted, and the origin has no slash, nothing is. -/
theorem eq_of_deleted_origin (hplain : HasPlainLeaves values) (horigin : p.origin ≠ "")
    (hslash : '/' ∉ p.origin.toList) (helem : p.elem = [])
    (hget : ∀ key, values'.get? key = if Covers p.render key then none else values.get? key) :
    values' = values := by
  refine Dictionary.eq_of_get? fun key => ?_
  rw [hget]
  split
  · next hcovers =>
    by_contra hsome
    obtain ⟨l, hl, rfl⟩ := hplain key (Option.isSome_iff_ne_none.mpr fun hnone => hsome hnone.symm)
    exact not_covers_origin hl horigin hslash helem hcovers
  · rfl

/-- The leaves of an origin that has some do not go. -/
theorem emptied_iff (horigin : p.origin ≠ "") (helem : p.elem = [])
    (hget : ∀ key, values'.get? key = if Covers p.render key then none else values.get? key) :
    Emptied p.origin values values' ↔
      ∀ l : Location, l.IsLeaf → values.contains l.render = true →
        l.origin ≠ p.origin ∧ ¬ Covers p.render l.render := by
  constructor
  · intro hemptied l hl hleaf
    have hother : l.origin ≠ p.origin := by
      intro hsame
      have hgone := (hemptied l hl hleaf).1 hsame
      rw [hget, if_neg (not_covers_origin hl horigin (hsame ▸ hl.path.origin) helem)] at hgone
      rw [Dictionary.contains, hgone] at hleaf
      cases hleaf
    refine ⟨hother, fun hcovers => ?_⟩
    have hkept := (hemptied l hl hleaf).2 hother
    rw [hget, if_pos hcovers] at hkept
    rw [Dictionary.contains, ← hkept] at hleaf
    cases hleaf
  · intro hnone l hl hleaf
    obtain ⟨hother, hcovers⟩ := hnone l hl hleaf
    exact ⟨fun hsame => absurd hsame hother, fun _ => by rw [hget, if_neg hcovers]⟩

end Delete

/-- The delete of the root of an origin.  The leaves of a cache, if its updates had plain paths, are
those of plain paths.  Those are removed that the text of the root covers; if the origin has no
slash none is.  So the leaves of the origin are gone and all others kept only if there was no leaf
of it, and no other one is covered. -/
theorem leaves_of_deleted_origin (name : String) {calls : List SinkCall} {n : Notification}
    {d : Path} (hcalls : ∀ n, .update n ∈ calls → ∀ u ∈ n.update, (n.base.join u.path).IsPlain)
    (hupdate : n.update = []) (hdelete : n.delete = [d]) (helem : (n.base.join d).elem = [])
    (horigin : (n.base.join d).origin ≠ "") :
    let cache := calls.foldl receive { name }
    let root := n.base.join d
    (∀ key, cache.values.contains key = true → ∃ l : Location, l.IsLeaf ∧ l.render = key) ∧
      ∃ cache', cache.update n = .ok cache' ∧
        (∀ key, cache'.values.get? key =
          if Covers root.render key then none else cache.values.get? key) ∧
        ('/' ∉ root.origin.toList → cache'.values = cache.values) ∧
        (Emptied root.origin cache.values cache'.values ↔
          ∀ l : Location, l.IsLeaf → cache.values.contains l.render = true →
            l.origin ≠ root.origin ∧ ¬ Covers root.render l.render) := by
  intro cache root
  have hplain : HasPlainLeaves cache.values :=
    hasPlainLeaves_foldl_receive hasPlainLeaves_empty hcalls
  have hroot : hasRootUpdate n = false := by rw [hasRootUpdate, hupdate, List.any_nil]
  have hget (key : String) : (applyTo cache.values n).get? key =
      if Covers root.render key then none else cache.values.get? key :=
    get?_applyTo_of_delete hupdate hdelete key
  exact ⟨hplain, _, update_of_no_root cache hroot, hget,
    fun hslash => eq_of_deleted_origin hplain horigin hslash helem hget,
    emptied_iff horigin helem hget⟩

/-- One leaf with an origin and one without: both are kept when the root of the origin is
deleted. -/
theorem leaves_of_deleted_origin_of_two :
    let hostname : Path := { Path.ofNames ["system", "hostname"] with origin := "openconfig" }
    let calls : List SinkCall := [.connect, .update
      { timestamp := 1
        update :=
          [.ofValue hostname (.int 1), .ofValue (.ofNames ["system", "hostname"]) (.int 2)] }]
    let n : Notification := { timestamp := 2, delete := [{ origin := "openconfig" }] }
    let cache := calls.foldl receive { name := "leaf1" }
    (∀ n, .update n ∈ calls → ∀ u ∈ n.update, (n.base.join u.path).IsPlain) ∧
      (cache.receive (.update n)).values = cache.values ∧
      cache.values.get? "openconfig:/system/hostname" = some ⟨1, some (.int 1)⟩ := by
  intro hostname calls n cache
  have hplain : ∀ n, .update n ∈ calls → ∀ u ∈ n.update, (n.base.join u.path).IsPlain := by
    intro n hn
    simp only [calls, List.mem_cons, List.not_mem_nil, reduceCtorEq, false_or, or_false,
      SinkCall.update.injEq] at hn
    subst hn
    decide
  obtain ⟨-, cache', hcache', -, hkept, -⟩ :=
    leaves_of_deleted_origin "leaf1" hplain (show n.update = [] from rfl) rfl rfl (by decide)
  refine ⟨hplain, ?_, by decide⟩
  rw [receive, hcache']
  exact hkept (by decide)

/-- The leaf of an origin is still there after the root of the origin was deleted. -/
theorem leaf_of_deleted_origin_kept :
    let hostname : Path := { Path.ofNames ["system", "hostname"] with origin := "openconfig" }
    let first : Notification := { timestamp := 1, update := [.ofValue hostname (.int 1)] }
    let second : Notification := { timestamp := 2, delete := [{ origin := "openconfig" }] }
    let cache := [.update first].foldl receive { name := "leaf1" }
    (∀ u ∈ first.update, (first.base.join u.path).IsPlain) ∧
      ¬ Emptied "openconfig" cache.values (cache.receive (.update second)).values := by
  intro hostname first second cache
  refine ⟨by decide, fun hemptied => ?_⟩
  have hgone := (hemptied hostname.location ⟨by decide, by decide⟩ (by decide)).1 rfl
  revert hgone
  decide

end TargetCache

end TelemetryGateway
