import TelemetryGateway.Connection.Lifecycle
import TelemetryGateway.Denylist

/-!
# Malformed paths and prefixes

The denylist looks at the first two elements of a path.  A notification is screened by the paths of
its updates alone, but what its leaves are stored under are these paths below its prefix.  The two
differ in the first two elements unless the prefix is the root.

* `Path.rejection?_isSome_iff`: which paths are rejected;
* `Path.rejection?_join_isSome_iff`: when a path that is accepted by itself is rejected below a
  prefix;
* `Phase.exists_malformed_call_iff`: for which messages a sink gets such a path.
-/

namespace TelemetryGateway

namespace Path

/-! ## Rejected paths -/

/-- The first element is never telemetry. -/
def HasBogusRoot (p : Path) : Prop :=
  ∃ first rest, p.elem = first :: rest ∧ first.name ∈ Rejection.bogusRoots

/-- Two elements are a container and an entry of its list that is keyed by the name of the list. -/
def IsSelfKeyed (first second : PathElem) : Prop :=
  ∃ entry ∈ Rejection.selfKeyedLists,
    first.name = entry.1 ∧ second.name = entry.2 ∧ second.key.get? "name" = some entry.2

/-- The path begins with a container and an entry keyed by the name of its list. -/
def HasSelfKeyedEntry (p : Path) : Prop :=
  ∃ first second rest, p.elem = first :: second :: rest ∧ IsSelfKeyed first second

/-- Only the elements of a path matter. -/
theorem rejection?_congr {p q : Path} (h : p.elem = q.elem) : p.rejection? = q.rejection? := by
  rw [rejection?, rejection?, h]

theorem find?_selfKeyedLists_isSome_iff {first second : PathElem} {key : String}
    (hkey : second.key.get? "name" = some key) :
    (Rejection.selfKeyedLists.find? fun (container, list) =>
        first.name == container && second.name == list && key == list).isSome = true ↔
      IsSelfKeyed first second := by
  rw [List.find?_isSome, IsSelfKeyed, hkey]
  simp only [Bool.and_eq_true, beq_iff_eq, Option.some.injEq, and_assoc]

/-- A path is rejected for its first element or for its first two. -/
theorem rejection?_isSome_iff (p : Path) :
    p.rejection?.isSome = true ↔ p.HasBogusRoot ∨ p.HasSelfKeyedEntry := by
  unfold rejection? HasBogusRoot HasSelfKeyedEntry
  rcases p.elem with _ | ⟨first, rest⟩
  · simp
  · by_cases hbogus : first.name ∈ Rejection.bogusRoots
    · simp [hbogus]
    · rcases rest with _ | ⟨second, rest⟩
      · simp [hbogus]
      · cases hkey : second.key.get? "name" with
        | none => simp [hbogus, IsSelfKeyed, hkey]
        | some key =>
            have hentry : (∃ first' second' rest', first :: second :: rest =
                first' :: second' :: rest' ∧ IsSelfKeyed first' second') ↔
                  IsSelfKeyed first second := by
              constructor
              · rintro ⟨_, _, _, heq, hkeyed⟩
                cases heq
                exact hkeyed
              · intro hkeyed
                exact ⟨_, _, _, rfl, hkeyed⟩
            rw [hentry, ← find?_selfKeyedLists_isSome_iff hkey]
            simp [hbogus, hkey]

/-! ## Paths below a prefix -/

/-- A prefix ends with the container and the path below it begins with the entry keyed by the name
of the list. -/
def SplitsSelfKeyed (base path : Path) : Prop :=
  ∃ first second rest, base.elem = [first] ∧ path.elem = second :: rest ∧
    IsSelfKeyed first second

/-- A path that is accepted by itself is rejected below a prefix exactly if the prefix is rejected
already or ends between the container and the entry. -/
theorem rejection?_join_isSome_iff {base path : Path} (h : path.rejection? = none) :
    (base.join path).rejection?.isSome = true ↔
      base.rejection?.isSome = true ∨ base.SplitsSelfKeyed path := by
  rcases hbase : base.elem with _ | ⟨first, _ | ⟨second, rest⟩⟩
  · -- below the root nothing changes
    have hsame : (base.join path).rejection? = path.rejection? :=
      rejection?_congr (by rw [elem_join, hbase, List.nil_append])
    rw [hsame, h, rejection?_isSome_iff]
    simp [HasBogusRoot, HasSelfKeyedEntry, SplitsSelfKeyed, hbase]
  · rw [rejection?_isSome_iff, rejection?_isSome_iff]
    simp only [HasBogusRoot, HasSelfKeyedEntry, SplitsSelfKeyed, elem_join, hbase,
      List.cons_append, List.nil_append]
    constructor
    · rintro (⟨_, _, heq, hbogus⟩ | ⟨_, _, _, heq, hkeyed⟩)
      · cases heq
        exact .inl (.inl ⟨_, _, rfl, hbogus⟩)
      · injection heq with hfirst hpath
        subst hfirst
        exact .inr ⟨_, _, _, rfl, hpath, hkeyed⟩
    · rintro ((⟨_, _, heq, hbogus⟩ | ⟨_, _, _, heq, -⟩) | ⟨_, _, _, heq, hpath, hkeyed⟩)
      · cases heq
        exact .inl ⟨_, _, rfl, hbogus⟩
      · cases heq
      · cases heq
        exact .inr ⟨_, _, _, by rw [hpath], hkeyed⟩
  · -- the first two elements are those of the prefix
    have hne : ¬ base.SplitsSelfKeyed path := by
      rintro ⟨_, _, _, heq, -, -⟩
      rw [hbase] at heq
      cases heq
    rw [rejection?_isSome_iff, rejection?_isSome_iff]
    simp [HasBogusRoot, HasSelfKeyedEntry, hbase, hne]

end Path

/-! ## Screening -/

namespace Notification

variable {n n' : Notification} {scope : RejectionScope} {rejected : List Rejection}

/-- What is forwarded has the prefix it had and just the accepted updates; where one rejection drops
the whole notification, all of them are. -/
theorem of_screen_eq_forward (h : n.screen scope = .forward n' rejected) :
    n'.prefixPath = n.prefixPath ∧
      (∀ u, u ∈ n'.update ↔ u ∈ n.update ∧ u.path.rejection? = none) ∧
      (scope = .notification → ∀ u ∈ n.update, u.path.rejection? = none) := by
  cases scope with
  | notification =>
      simp only [screen] at h
      split at h
      · cases h
      · rename_i hnone
        cases h
        have hall := List.findSome?_eq_none_iff.mp hnone
        exact ⟨rfl, fun u => ⟨fun hu => ⟨hu, hall u hu⟩, fun hu => hu.1⟩, fun _ => hall⟩
  | update =>
      simp only [screen] at h
      split at h
      · cases h
      · cases h
        exact ⟨rfl, fun u => by simp [List.mem_filter], fun hscope => by cases hscope⟩

/-- A notification with an accepted update is forwarded, unless another update drops it. -/
theorem exists_screen_eq_forward {u : Update} (hu : u ∈ n.update) (hpath : u.path.rejection? = none)
    (hscope : scope = .notification → ∀ u ∈ n.update, u.path.rejection? = none) :
    ∃ n' rejected, n.screen scope = .forward n' rejected := by
  cases scope with
  | notification =>
      have hnone : n.update.findSome? (fun u => u.path.rejection?) = none :=
        List.findSome?_eq_none_iff.mpr (hscope rfl)
      exact ⟨n, [], by simp only [screen, hnone]⟩
  | update =>
      have hkept : u ∈ n.update.filter (fun u => u.path.rejection?.isNone) := by
        simp [List.mem_filter, hu, hpath]
      have hne : (n.update.filter (fun u => u.path.rejection?.isNone)).isEmpty = false := by
        rw [List.isEmpty_eq_false_iff]
        exact List.ne_nil_of_mem hkept
      exact ⟨_, _, by simp only [screen, isEmpty, hne, Bool.false_and, Bool.and_false]; rfl⟩

theorem elem_base_addressedTo (n : Notification) (name : String) :
    (n.addressedTo name).base.elem = n.base.elem := by
  show (if n.base.target.isEmpty then n.base.withTarget name else n.base).elem = n.base.elem
  by_cases htarget : n.base.target.isEmpty = true
  · rw [if_pos htarget]
    rfl
  · rw [if_neg htarget]

end Notification

/-! ## What a sink is handed -/

namespace Path

variable {base base' path : Path}

theorem splitsSelfKeyed_congr (h : base.elem = base'.elem) :
    base.SplitsSelfKeyed path ↔ base'.SplitsSelfKeyed path := by
  rw [SplitsSelfKeyed, SplitsSelfKeyed, h]

end Path

namespace Phase

variable {p : Phase} {name : String} {scope : RejectionScope} {refuses : Notification → Bool}
  {message : SubscribeResponse}

theorem update_notMem_calls_greet (n : Notification) : .update n ∉ p.greet.calls := by
  cases p <;> simp [greet, next]

theorem update_notMem_calls_complete (n : Notification) : .update n ∉ p.complete.calls := by
  cases p <;> simp [complete, next]

/-- The notifications that a sink is handed are what screening leaves of those that arrive. -/
theorem update_mem_calls_receive (n : Notification) :
    .update n ∈ (p.receive name scope refuses message).1.calls ↔
      p.isStopped = false ∧ ∃ arrived rejected, message.response = some (.update arrived) ∧
        (arrived.addressedTo name).screen scope = .forward n rejected := by
  unfold receive
  cases hstop : p.isStopped with
  | true => simp
  | false =>
      have hgreet := update_notMem_calls_greet (p := p) n
      have hcomplete := update_notMem_calls_complete (p := p.greet.phase) n
      simp only [Bool.false_eq_true, if_false, true_and]
      split
      · simp [*]
      · simp [*]
      · simp [*]
      · rename_i arrived harrived
        rw [harrived]
        split
        · rename_i kept rejected hscreen
          simp [hgreet, hscreen, eq_comm]
        · rename_i rejected hscreen
          simp [hgreet, hscreen]

/-- A sink is handed a notification with a malformed path exactly if a notification has arrived
before any stop with an update that is accepted by itself, below a prefix that makes its path
malformed, and no other update has dropped the notification. -/
theorem exists_malformed_call_iff :
    (∃ n, .update n ∈ (p.receive name scope refuses message).1.calls ∧
        ∃ u ∈ n.update, (n.base.join u.path).rejection?.isSome = true) ↔
      p.isStopped = false ∧ ∃ arrived : Notification, message.response = some (.update arrived) ∧
        (scope = .notification → ∀ u ∈ arrived.update, u.path.rejection? = none) ∧
        ∃ u ∈ arrived.update, u.path.rejection? = none ∧
          (arrived.base.rejection?.isSome = true ∨ arrived.base.SplitsSelfKeyed u.path) := by
  have hbase : ∀ {n arrived : Notification} {rejected : List Rejection},
      (arrived.addressedTo name).screen scope = .forward n rejected →
        n.base.elem = arrived.base.elem := by
    intro n arrived rejected hscreen
    rw [Notification.base, (Notification.of_screen_eq_forward hscreen).1]
    exact Notification.elem_base_addressedTo arrived name
  constructor
  · rintro ⟨n, hcall, u, hu, hmalformed⟩
    obtain ⟨hstop, arrived, rejected, harrived, hscreen⟩ := (update_mem_calls_receive n).mp hcall
    obtain ⟨-, hupdates, hall⟩ := Notification.of_screen_eq_forward hscreen
    obtain ⟨hmem, hpath⟩ := (hupdates u).mp hu
    refine ⟨hstop, arrived, harrived, hall, u, hmem, hpath, ?_⟩
    rw [Path.rejection?_join_isSome_iff hpath, Path.rejection?_congr (hbase hscreen),
      Path.splitsSelfKeyed_congr (hbase hscreen)] at hmalformed
    exact hmalformed
  · rintro ⟨hstop, arrived, harrived, hall, u, hmem, hpath, hmalformed⟩
    obtain ⟨n, rejected, hscreen⟩ :=
      Notification.exists_screen_eq_forward (n := arrived.addressedTo name) hmem hpath hall
    obtain ⟨-, hupdates, -⟩ := Notification.of_screen_eq_forward hscreen
    refine ⟨n, (update_mem_calls_receive n).mpr ⟨hstop, arrived, rejected, harrived, hscreen⟩, u,
      (hupdates u).mpr ⟨hmem, hpath⟩, ?_⟩
    rwa [Path.rejection?_join_isSome_iff hpath, Path.rejection?_congr (hbase hscreen),
      Path.splitsSelfKeyed_congr (hbase hscreen)]

end Phase

end TelemetryGateway
