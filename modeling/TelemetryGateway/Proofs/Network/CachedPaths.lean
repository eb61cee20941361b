import TelemetryGateway.Proofs.Denylist
import TelemetryGateway.Proofs.Network.Delivery

/-!
# The paths in a cache

A leaf is stored under the text of its path below the prefix of the notification that has brought
it, and every notification that reaches a cache has been screened by the paths of its updates alone.
So a malformed path reaches a cache through the prefixes and in no other way
(`Network.forwarded_paths`); through a prefix it does (`Network.malformed_path_cached`).
-/

namespace TelemetryGateway

/-! ## The leaves of a cache -/

namespace Dictionary

variable {α : Type} {d : Dictionary α} {key other : String}

theorem mem_keys_insert {value : α} (h : other ∈ (d.insert key value).keys) :
    other = key ∨ other ∈ d.keys := by
  obtain ⟨entry, hentry, rfl⟩ := List.mem_map.mp h
  rcases mem_insertInto hentry with rfl | hold
  · exact .inl rfl
  · exact .inr (List.mem_map.mpr ⟨entry, hold, rfl⟩)

theorem mem_keys_filter {keep : String → α → Bool} (h : key ∈ (d.filter keep).keys) :
    key ∈ d.keys := by
  obtain ⟨entry, hentry, rfl⟩ := List.mem_map.mp h
  exact List.mem_map.mpr ⟨entry, (List.mem_filter.mp hentry).1, rfl⟩

end Dictionary

namespace TargetCache

variable {values : Dictionary CachedValue} {key : String}

theorem mem_keys_removeSubtree {root : String} (h : key ∈ (removeSubtree values root).keys) :
    key ∈ values.keys := by
  unfold removeSubtree at h
  split at h
  · cases h
  · exact Dictionary.mem_keys_filter h

theorem mem_keys_foldl_removeSubtree {roots : List String}
    (h : key ∈ (roots.foldl removeSubtree values).keys) : key ∈ values.keys := by
  induction roots generalizing values with
  | nil => exact h
  | cons root rest ih => exact mem_keys_removeSubtree (ih h)

theorem mem_keys_foldl_insert {leaves : List (String × CachedValue)}
    (h : key ∈ (leaves.foldl (fun vs leaf => vs.insert leaf.1 leaf.2) values).keys) :
    (∃ leaf ∈ leaves, key = leaf.1) ∨ key ∈ values.keys := by
  induction leaves generalizing values with
  | nil => exact .inr h
  | cons leaf rest ih =>
      rcases ih h with ⟨other, hother, hkey⟩ | hold
      · exact .inl ⟨other, List.mem_cons_of_mem _ hother, hkey⟩
      · rcases Dictionary.mem_keys_insert hold with rfl | hold
        · exact .inl ⟨leaf, List.mem_cons_self, rfl⟩
        · exact .inr hold

/-- A notification adds leaves under the texts of its full paths only. -/
theorem mem_keys_applyTo {n : Notification} (h : key ∈ (applyTo values n).keys) :
    (∃ u ∈ n.update, key = (n.base.join u.path).render) ∨ key ∈ values.keys := by
  rcases mem_keys_foldl_insert h with ⟨leaf, hleaf, rfl⟩ | hold
  · obtain ⟨u, hu, rfl⟩ := List.mem_map.mp hleaf
    exact .inl ⟨u, hu, rfl⟩
  · exact .inr (mem_keys_foldl_removeSubtree hold)

theorem mem_keys_receive {k : TargetCache} {call : SinkCall}
    (h : key ∈ (k.receive call).values.keys) :
    (∃ n, call = .update n ∧ ∃ u ∈ n.update, key = (n.base.join u.path).render) ∨
      key ∈ k.values.keys := by
  cases call with
  | update n =>
      simp only [receive, update] at h
      cases hroot : hasRootUpdate n with
      | true =>
          simp only [hroot, if_true] at h
          exact .inr h
      | false =>
          simp only [hroot, Bool.false_eq_true, if_false] at h
          exact (mem_keys_applyTo h).imp_left fun hu => ⟨n, rfl, hu⟩
  | reset => cases h
  | _ => exact .inr h

/-- Every leaf of a cache was brought by one of the calls that it has got. -/
theorem exists_update_of_mem_keys {k : TargetCache} {calls : List SinkCall}
    (h : key ∈ (calls.foldl receive k).values.keys) :
    (∃ n, .update n ∈ calls ∧ ∃ u ∈ n.update, key = (n.base.join u.path).render) ∨
      key ∈ k.values.keys := by
  induction calls generalizing k with
  | nil => exact .inr h
  | cons call rest ih =>
      rcases ih h with ⟨n, hn, hu⟩ | hold
      · exact .inl ⟨n, List.mem_cons_of_mem _ hn, hu⟩
      · rcases mem_keys_receive hold with ⟨n, rfl, hu⟩ | hold
        · exact .inl ⟨n, List.mem_cons_self, hu⟩
        · exact .inr hold

end TargetCache

/-! ## What is handed over -/

theorem Phase.update_notMem_calls_lose (p : Phase) (n : Notification) :
    .update n ∉ p.lose.calls := by
  cases p <;> simp [lose, next, ownsCacheState]

/-- Notifications are handed over only when a message is handled. -/
theorem Task.update_mem_calls_resume {t : Task} {c : Connection} {reply : Reply}
    {n : Notification} :
    .update n ∈ Output.calls (t.resume c reply).outputs →
      ∃ message refuses, .update n ∈
        (c.phase.receive c.name c.settings.rejectionScope refuses message).1.calls := by
  fun_cases Task.resume t c reply
  all_goals simp_all +zetaDelta [giveUp, Output.call?, Phase.update_notMem_calls_lose]
  · -- the dial has given a link
    split <;> simp [Output.call?]
  · -- a message has arrived
    rename_i message refuses _ _ error hreceive
    intro h
    refine ⟨message, refuses, ?_⟩
    rw [hreceive]
    cases error <;> simpa [Output.call?] using h
  · -- the loop is over
    split <;> split <;> simp [Output.call?]

/-- The updates that a call hands over were accepted by themselves. -/
def Handover.IsScreened (handover : Handover) : Prop :=
  ∀ n, handover.call = .update n → ∀ u ∈ n.update, u.path.rejection? = none

namespace Network

theorem isScreened_of_effect {s s' : Network} {a : Act} {handovers : List Handover}
    (he : Effect s a s' handovers) : ∀ handover ∈ handovers, handover.IsScreened := by
  cases he with
  | move hd hconn =>
      intro handover hmem n hcall u hu
      obtain ⟨call, hout, rfl⟩ := List.mem_map.mp hmem
      rw [show call = .update n from hcall] at hout
      obtain ⟨message, refuses, hreceived⟩ := Task.update_mem_calls_resume hout
      obtain ⟨-, arrived, rejected, -, hscreen⟩ :=
        (Phase.update_mem_calls_receive n).mp hreceived
      exact (((Notification.of_screen_eq_forward hscreen).2.1 u).mp hu).2
  | _ => simp

theorem isScreened_history (s : Network) (acts : List Act)
    (hacts : ∀ a ∈ acts, a.byLoops = true) :
    ∀ handover ∈ s.history acts, handover.IsScreened := by
  refine afterAll_induction (motive := fun _ history => ∀ handover ∈ history, handover.IsScreened)
    _ (fun s earlier a ha hearlier handover hmem => ?_) (by simp) acts hacts
  rcases List.mem_append.mp hmem with hold | hnew
  · exact hearlier handover hold
  · exact isScreened_of_effect (after_effect s a ha) handover hnew

/-! ## Runs -/

/-- When a sink gets a malformed path: a message hands one over exactly if its notification has an
update that is accepted by itself below a prefix that makes its path malformed, and nothing drops
the notification.  In every run each path that is handed over is accepted by itself, so it is
malformed exactly if the prefix is or ends between the container and the entry; and every leaf of a
cache is stored under a path that was handed over. -/
theorem forwarded_paths (pools : List SlotPool) (locks : LockService) (acts : List Act)
    (hacts : ∀ a ∈ acts, a.byLoops = true) :
    (∀ (p : Phase) (name : String) (scope : RejectionScope) (refuses : Notification → Bool)
        (message : SubscribeResponse),
      (∃ n, .update n ∈ (p.receive name scope refuses message).1.calls ∧
          ∃ u ∈ n.update, (n.base.join u.path).rejection?.isSome = true) ↔
        p.isStopped = false ∧ ∃ arrived : Notification,
          message.response = some (.update arrived) ∧
          (scope = .notification → ∀ u ∈ arrived.update, u.path.rejection? = none) ∧
          ∃ u ∈ arrived.update, u.path.rejection? = none ∧
            (arrived.base.rejection?.isSome = true ∨ arrived.base.SplitsSelfKeyed u.path)) ∧
      (∀ handover ∈ history { pools, locks } acts, ∀ n, handover.call = .update n →
        ∀ u ∈ n.update, u.path.rejection? = none ∧
          ((n.base.join u.path).rejection?.isSome = true ↔
            n.base.rejection?.isSome = true ∨ n.base.SplitsSelfKeyed u.path)) ∧
      (∀ (id : Nat) (k : TargetCache),
        (afterAll { pools, locks } acts).caches.cache? id = some k → ∀ key ∈ k.values.keys,
          ∃ handover ∈ history { pools, locks } acts, handover.sink = .cache id ∧
            ∃ n, handover.call = .update n ∧ ∃ u ∈ n.update,
              key = (n.base.join u.path).render) := by
  refine ⟨fun p name scope refuses message => Phase.exists_malformed_call_iff, ?_, ?_⟩
  · intro handover hmem n hcall u hu
    have hpath := isScreened_history _ acts hacts handover hmem n hcall u hu
    exact ⟨hpath, Path.rejection?_join_isSome_iff hpath⟩
  · intro id k hk key hkey
    have h := delivered_afterAll (delivered_of_new pools locks) acts hacts
    obtain ⟨name, rfl⟩ := h.cache id k hk
    rcases TargetCache.exists_update_of_mem_keys hkey with ⟨n, hn, hu⟩ | hnew
    · obtain ⟨handover, hmem, hcall⟩ := List.mem_map.mp hn
      obtain ⟨hmem, hsink⟩ := List.mem_filter.mp hmem
      exact ⟨handover, hmem, beq_iff_eq.mp hsink, n, hcall, hu⟩
    · cases hnew

/-- A leaf below a prefix that is not malformed. -/
theorem forwarded_paths_below_system :
    let acts : List Act := .cache "leaf1" ::
      Act.untilFirstMessage (.plain "leaf1" (.cache 0)) 0 0 0 (.ofNotification
        { prefixPath := some (.ofNames ["system"])
          update := [.ofValue (.ofNames ["uptime"]) (.int 7)] })
    let start : Network :=
      { pools := [{ capacity := 1, available := 1 }], locks := .registry {} }
    ∃ handover ∈ start.history acts, ∃ n, handover.call = .update n ∧ ∃ u ∈ n.update,
      "/system/uptime" = (n.base.join u.path).render := by
  intro acts start
  have hkeys : ((start.afterAll acts).caches.cache? 0).map (·.values.keys) =
      some ["/system/uptime"] := by decide +kernel
  obtain ⟨k, hk, hkeys⟩ := Option.map_eq_some_iff.mp hkeys
  obtain ⟨-, -, hleaves⟩ := forwarded_paths [{ capacity := 1, available := 1 }] (.registry {}) acts
    (by decide)
  obtain ⟨handover, hmem, -, hcalls⟩ := hleaves 0 k hk "/system/uptime" (by simp [hkeys])
  exact ⟨handover, hmem, hcalls⟩

/-- A leaf below a malformed prefix: it is handed over and stored. -/
theorem malformed_path_cached :
    let acts : List Act := .cache "leaf1" ::
      Act.untilFirstMessage (.plain "leaf1" (.cache 0)) 0 0 0 (.ofNotification
        { prefixPath := some (.ofNames ["netconf-state"])
          update := [.ofValue (.ofNames ["sessions"]) (.int 7)] })
    let start : Network :=
      { pools := [{ capacity := 1, available := 1 }], locks := .registry {} }
    ((start.afterAll acts).caches.cache? 0).map (·.values.keys) =
        some ["/netconf-state/sessions"] ∧
      ¬ ∀ handover ∈ start.history acts, ∀ n, handover.call = .update n →
        ∀ u ∈ n.update, (n.base.join u.path).rejection? = none := by
  intro acts start
  refine ⟨by decide +kernel, fun h => ?_⟩
  have hhistory : start.history acts =
      [⟨0, .cache 0, .connect⟩,
        ⟨0, .cache 0, .update
          { prefixPath := some ((Path.ofNames ["netconf-state"]).withTarget "leaf1")
            update := [.ofValue (.ofNames ["sessions"]) (.int 7)] }⟩] := by decide +kernel
  rw [hhistory] at h
  have hnone := h _ (.tail _ (.head _)) _ rfl _ (.head _)
  cases hnone

end Network

end TelemetryGateway
