import Mathlib.Data.List.Dedup
import TelemetryGateway.Proofs.Network.Acquisition
import TelemetryGateway.Proofs.Network.SingleOwner

/-!
# How many targets are connected to at once

The free slots of a pool and the tasks that hold one of its slots add up to its capacity, in every
run (`Network.Balanced`): a slot that a task takes is one that it did not have before, and a slot
that is given back, by a loop at its end or by a task that is taken away, is one that it had.  Only
a loop that has a slot of its pool makes attempts to connect, so the capacity bounds how many
connections are inside one.

* `Task.hasSlot_resume`: a move in terms of the slots that it takes and gives back;
* `Network.Balanced.after`: what an act keeps;
* `Network.admitted_within_capacity`: what follows for a pool in every run.
-/

namespace TelemetryGateway

/-! ## Pools -/

namespace SlotPool

theorem tryAcquire_balance (p : SlotPool) :
    p.tryAcquire.2.capacity = p.capacity ∧
      p.tryAcquire.2.available + p.tryAcquire.1.toNat = p.available := by
  unfold tryAcquire
  split
  · exact ⟨rfl, Nat.sub_add_cancel ‹_›⟩
  · exact ⟨rfl, rfl⟩

end SlotPool

namespace Task

variable {t : Task} {c : Connection} (reply : Reply)

/-- A slot is given back exactly when the task ceases to have one. -/
theorem count_releaseSlot_resume :
    (Output.returned (t.resume c reply).outputs).count .releaseSlot =
      (t.hasSlot && !(t.resume c reply).task.hasSlot).toNat := by
  fun_cases Task.resume t c reply
  all_goals simp_all +zetaDelta [giveUp, conclude, Output.operation?]
  · -- the dial has given a link
    split <;> rfl
  · -- a message has arrived
    split <;> rfl
  · -- the loop is over
    cases t.hasSlot <;> cases t.hasLock <;> rfl

/-- The slots of a task before and after a move, with the one that it takes or gives back. -/
theorem hasSlot_resume (h : t.point = .takingSlot → t.hasSlot = false) :
    (t.resume c reply).task.hasSlot.toNat +
        (Output.returned (t.resume c reply).outputs).count .releaseSlot =
      t.hasSlot.toNat + (t.point.answered reply).count (.slot true) := by
  rw [count_releaseSlot_resume]
  fun_cases Task.resume t c reply
  all_goals simp_all +zetaDelta [giveUp, conclude, Point.answered]

end Task

/-- A loop that was never granted a slot has neither asked for the lock nor connected. -/
theorem Point.Disciplined.of_slotless {p : Point} {operations : List Operation}
    (h : p.Disciplined operations) (hnever : .slot true ∉ operations) :
    .connect ∉ operations ∧ ∀ b, .lock b ∉ operations := by
  have hneeds (op : Operation) (hop : ∀ earlier, op.IsDue earlier → .slot true ∈ earlier) :
      op ∉ operations := by
    intro hmem
    obtain ⟨first, rest, hsplit⟩ := List.append_of_mem hmem
    have hslot := hop first (h.isDue first rest op hsplit)
    exact hnever (hsplit ▸ List.mem_append_left _ hslot)
  exact ⟨hneeds .connect fun _ hdue => hdue.1, fun b => hneeds (.lock b) fun _ hdue => hdue.1⟩

theorem Point.eq_takingSlot_of_ask {p : Point} (h : p.ask = .slot) : p = .takingSlot := by
  cases p <;> first | rfl | cases h

/-- Whether a task holds a slot of a pool. -/
def TaskEntry.holdsSlotOf (p : Nat) (e : TaskEntry) : Bool := e.pool == p && e.task.hasSlot

namespace Network

variable {s answered : Network} {e : TaskEntry} {c : Connection} {reply : Reply}

/-! ### What becomes of a pool -/

/-- One pool has given out some slots and got some back since another state. -/
structure Exchanged (s s' : Network) (q taken returned : Nat) : Prop where
  capacity : (s'.pool q).capacity = (s.pool q).capacity
  available : (s'.pool q).available + taken = (s.pool q).available + returned

theorem Exchanged.of_pools {s' : Network} (h : s'.pools = s.pools) (q : Nat) :
    Exchanged s s' q 0 0 := by
  have hpool : s'.pool q = s.pool q := by rw [pool, pool, h]
  exact ⟨by rw [hpool], by rw [hpool]⟩

theorem Exchanged.trans {s' s'' : Network} {q taken taken' returned returned' : Nat}
    (h : Exchanged s s' q taken returned) (h' : Exchanged s' s'' q taken' returned') :
    Exchanged s s'' q (taken + taken') (returned + returned') := by
  refine ⟨h'.capacity.trans h.capacity, ?_⟩
  have := h.available
  have := h'.available
  omega

theorem pool_of_none {q : Nat} (h : s.pools[q]? = none) : s.pool q = default := by
  rw [pool, h, Option.getD_none]

theorem exchanged_takeSlot (s : Network) (p q : Nat) :
    Exchanged s (s.takeSlot p).2 q (if p = q then (s.takeSlot p).1.toNat else 0) 0 := by
  obtain ⟨hcapacity, havailable⟩ := (s.pool p).tryAcquire_balance
  by_cases hpq : p = q
  · subst hpq
    cases hpool : s.pools[p]? with
    | none =>
        -- a pool that does not exist has no slots
        have hpools : (s.takeSlot p).2.pools = s.pools :=
          List.set_eq_of_length_le (List.getElem?_eq_none_iff.mp hpool)
        have hdenied : (s.takeSlot p).1 = false := by
          simp [takeSlot, pool_of_none hpool]
          rfl
        rw [hdenied, Bool.toNat_false, ite_self]
        exact .of_pools hpools p
    | some pool =>
        have hafter : (s.takeSlot p).2.pool p = (s.pool p).tryAcquire.2 := by
          simp [takeSlot, Network.pool, getElem?_set_of_getElem? hpool]
        exact ⟨by rw [hafter, hcapacity], by rw [hafter, if_pos rfl]; exact havailable⟩
  · have hafter : (s.takeSlot p).2.pool q = s.pool q := by
      simp [takeSlot, Network.pool, List.getElem?_set_ne hpq]
    exact ⟨by rw [hafter], by rw [hafter, if_neg hpq]⟩

theorem exchanged_freeSlot (s : Network) (p q : Nat) :
    Exchanged s (s.freeSlot p) q 0 (if p = q ∧ q < s.pools.length then 1 else 0) := by
  have hafter : (s.freeSlot p).pool q =
      ((s.pools[q]?).map fun pool => if p = q then pool.release else pool).getD default := by
    simp only [freeSlot, Network.pool, List.getElem?_modify]
    rfl
  cases hpool : s.pools[q]? with
  | none =>
      rw [if_neg fun h => absurd h.2 (Nat.not_lt.mpr (List.getElem?_eq_none_iff.mp hpool))]
      rw [hpool] at hafter
      exact ⟨by rw [hafter, pool_of_none hpool]; rfl, by rw [hafter, pool_of_none hpool]; rfl⟩
  | some pool =>
      have hlt := (List.getElem?_eq_some_iff.mp hpool).1
      have hbefore : s.pool q = pool := by rw [Network.pool, hpool, Option.getD_some]
      rw [hpool, Option.map_some, Option.getD_some] at hafter
      by_cases hpq : p = q
      · rw [if_pos ⟨hpq, hlt⟩]
        rw [if_pos hpq] at hafter
        exact ⟨by rw [hafter, hbefore]; rfl, by rw [hafter, hbefore]; rfl⟩
      · rw [if_neg fun h => hpq h.1]
        rw [if_neg hpq] at hafter
        exact ⟨by rw [hafter, hbefore], by rw [hafter, hbefore]⟩

theorem length_pools_perform (s : Network) (e : TaskEntry) (c : Connection) (o : Output) :
    (s.perform e c o).pools.length = s.pools.length := by
  cases o with
  | call call =>
      obtain ⟨_, _, heq⟩ := exists_perform_call s e c call
      rw [heq]
  | releaseSlot => exact List.length_modify ..
  | _ => rfl

theorem exchanged_performAll (s : Network) (e : TaskEntry) (c : Connection) (outputs : List Output)
    (q : Nat) :
    Exchanged s (s.performAll e c outputs) q 0
      (if e.pool = q ∧ q < s.pools.length then (Output.returned outputs).count .releaseSlot
        else 0) := by
  induction outputs generalizing s with
  | nil =>
      rw [Output.returned_nil, List.count_nil, ite_self]
      exact .of_pools rfl q
  | cons o rest ih =>
      have hquiet (hpools : (s.perform e c o).pools = s.pools)
          (hnone : o.operation?.toList.count .releaseSlot = 0) : Exchanged s (s.perform e c o) q 0
            (if e.pool = q ∧ q < s.pools.length then o.operation?.toList.count .releaseSlot
              else 0) := by
        rw [hnone, ite_self]
        exact .of_pools hpools q
      have hone : Exchanged s (s.perform e c o) q 0
          (if e.pool = q ∧ q < s.pools.length then o.operation?.toList.count .releaseSlot
            else 0) := by
        cases o with
        | releaseSlot => exact exchanged_freeSlot s e.pool q
        | call call =>
            obtain ⟨_, _, heq⟩ := exists_perform_call s e c call
            exact hquiet (by rw [heq]) rfl
        | _ => exact hquiet rfl rfl
      have hboth := hone.trans (ih (s.perform e c o))
      rw [length_pools_perform] at hboth
      rw [performAll_cons, Output.returned_cons, List.count_append]
      split at hboth
      · next h => rwa [if_pos h]
      · next h => rwa [if_neg h]

/-- Only who asks for a slot touches the pools. -/
theorem pools_reply? (h : s.reply? e c = some (reply, answered))
    (hask : e.task.point ≠ .takingSlot) : answered.pools = s.pools := by
  obtain ⟨_, _, _, _, rfl, hpools⟩ := exists_answered h
  exact hpools fun hslot => hask (Point.eq_takingSlot_of_ask hslot)

theorem length_pools_reply? (h : s.reply? e c = some (reply, answered)) :
    answered.pools.length = s.pools.length := by
  by_cases hpoint : e.task.point = .takingSlot
  · simp only [reply?, hpoint, Point.ask] at h
    cases h
    exact List.length_set
  · rw [pools_reply? h hpoint]

theorem exchanged_reply? (h : s.reply? e c = some (reply, answered)) (q : Nat) :
    Exchanged s answered q
      (if e.pool = q then (e.task.point.answered reply).count (.slot true) else 0) 0 := by
  by_cases hpoint : e.task.point = .takingSlot
  · simp only [reply?, hpoint, Point.ask] at h
    cases h
    have htaken := exchanged_takeSlot s e.pool q
    cases hgranted : (s.takeSlot e.pool).1 <;> simpa [hpoint, Point.answered, hgranted] using htaken
  · have hnone : (e.task.point.answered reply).count (.slot true) = 0 := by
      cases hp : e.task.point with
      | takingSlot => exact absurd hp hpoint
      | _ => cases reply <;> rfl
    rw [hnone, ite_self]
    exact .of_pools (pools_reply? h hpoint) q

/-! ## The slots of a run -/

/-- The number of tasks that hold a slot of a pool. -/
def holders (s : Network) (p : Nat) : Nat := s.tasks.countP (TaskEntry.holdsSlotOf p)

/-- The connections that are inside an attempt to connect of their loop, which has its slot from a
pool. -/
def connecting (s : Network) (p : Nat) : List Nat :=
  ((s.tasks.filter fun e => e.pool == p && e.task.isLoop && e.task.point.isConnecting).map
    (·.connection)).dedup

/-- The free slots of every pool and the tasks that hold one add up to its capacity. -/
def Balanced (s : Network) : Prop :=
  ∀ p, (s.pool p).available + s.holders p = (s.pool p).capacity

/-- What becomes of the pools goes with what becomes of the tasks: of each pool as many slots were
taken and given back as tasks have begun and ceased to hold one. -/
def Steady (s s' : Network) : Prop :=
  ∀ q, ∃ taken returned, Exchanged s s' q taken returned ∧
    s'.holders q + returned = s.holders q + taken

theorem Balanced.steady {s' : Network} (h : s.Balanced) (hsteady : Steady s s') : s'.Balanced := by
  intro q
  obtain ⟨taken, returned, ⟨hcapacity, havailable⟩, hholders⟩ := hsteady q
  have := h q
  omega

/-- A task that has a slot has it from a pool that exists. -/
theorem Balanced.pool_lt (h : s.Balanced) {t : Nat} {e : TaskEntry} (he : s.tasks[t]? = some e)
    (hslot : e.task.hasSlot = true) : e.pool < s.pools.length := by
  by_contra hout
  have hbalance := h e.pool
  rw [pool_of_none (List.getElem?_eq_none (Nat.le_of_not_lt hout))] at hbalance
  have hholds : 0 < s.holders e.pool := by
    refine List.countP_pos_iff.mpr ⟨e, List.mem_of_getElem? he, ?_⟩
    simp [TaskEntry.holdsSlotOf, hslot]
  have hnone : 0 + s.holders e.pool = 0 := hbalance
  omega

theorem steady_of_quiet {s' : Network} (hpools : s'.pools = s.pools)
    (hholders : ∀ q, s'.holders q = s.holders q) : Steady s s' :=
  fun q => ⟨0, 0, .of_pools hpools q, hholders q⟩

/-- A move takes a slot of the pool of the task if the task gets one, and gives one back if the task
ceases to have one. -/
theorem steady_step (h : s.Balanced) {t : Nat}
    (hfresh : ∀ e : TaskEntry, s.tasks[t]? = some e → e.task.point = .takingSlot →
      e.task.hasSlot = false) : Steady s (s.after (.step t)) := by
  cases hmove : s.nextMove? t with
  | none =>
      rw [after_step_of_none hmove]
      exact steady_of_quiet rfl fun _ => rfl
  | some m =>
      obtain ⟨he, -, reply, hreply, hm⟩ := nextMove?_eq_some hmove
      intro q
      have hpools : (m.noted t).pools = m.answered.pools := rfl
      have hexchanged := ((exchanged_reply? hreply q).trans (.of_pools hpools q)).trans
        (exchanged_performAll (m.noted t) m.entry m.connection m.move.outputs q)
      refine ⟨_, _, by rw [after, step_eq_some hmove, Option.getD_some]; exact hexchanged, ?_⟩
      have hholders : (s.after (.step t)).holders q + (m.entry.holdsSlotOf q).toNat =
          s.holders q + (m.entry.pool == q && m.move.task.hasSlot).toNat := by
        rw [holders, tasks_after_step hmove]
        exact countP_set_add he
      have hslots := Task.hasSlot_resume (c := m.connection) reply (hfresh m.entry he)
      have hgiven := Task.count_releaseSlot_resume (t := m.entry.task) (c := m.connection) reply
      rw [← hm] at hslots hgiven
      rw [hpools, length_pools_reply? hreply]
      by_cases hq : m.entry.pool = q
      · simp only [TaskEntry.holdsSlotOf, hq, beq_self_eq_true, Bool.true_and] at hholders
        simp only [hq, if_true, true_and]
        cases hslot : m.entry.task.hasSlot with
        | true =>
            -- the slot goes back to a pool that exists, since the task has got it there
            rw [if_pos (hq ▸ h.pool_lt he hslot)]
            omega
        | false =>
            have hnone : (Output.returned m.move.outputs).count .releaseSlot = 0 := by
              rw [hgiven, hslot]
              rfl
            rw [hnone, ite_self]
            rw [hslot] at hholders hslots
            omega
      · simp only [TaskEntry.holdsSlotOf, beq_eq_false_iff_ne.mpr hq, Bool.false_and] at hholders
        simp only [hq, if_false, false_and]
        omega

/-- The slot of a task that is taken away goes back to its pool. -/
theorem steady_destroy (h : s.Balanced) (t : Nat) : Steady s (s.destroy t) := by
  cases he : s.tasks[t]? with
  | none => exact steady_of_quiet (by rw [destroy, he]) fun _ => by rw [destroy, he]
  | some e =>
      intro q
      have hpools : (s.destroy t).pools =
          if e.task.hasSlot then s.pools.modify e.pool SlotPool.release else s.pools := by
        rw [destroy_eq he]
      have hholders : (s.destroy t).holders q + (e.holdsSlotOf q).toNat = s.holders q := by
        have : Inhabited TaskEntry := ⟨e⟩
        rw [holders, tasks_destroy he, List.modify_eq_set, he, Option.getD_some,
          countP_set_add he]
        simp [holders, TaskEntry.holdsSlotOf, Task.taken]
      cases hslot : e.task.hasSlot with
      | true =>
          have hpool := h.pool_lt he hslot
          rw [hslot, if_pos rfl] at hpools
          have hfreed := (exchanged_freeSlot s e.pool q).trans (.of_pools hpools q)
          refine ⟨_, _, hfreed, ?_⟩
          by_cases hq : e.pool = q
          · subst hq
            simpa [TaskEntry.holdsSlotOf, hslot, hpool] using hholders
          · simpa [TaskEntry.holdsSlotOf, hq, beq_eq_false_iff_ne.mpr hq] using hholders
      | false =>
          rw [hslot] at hpools
          refine ⟨0, 0, .of_pools hpools q, ?_⟩
          simpa [TaskEntry.holdsSlotOf, hslot] using hholders

theorem holders_of_map {s' : Network}
    (h : s'.tasks.map (fun e => (e.pool, e.task.hasSlot)) =
      s.tasks.map fun e => (e.pool, e.task.hasSlot)) (q : Nat) : s'.holders q = s.holders q := by
  have hcount (tasks : List TaskEntry) : tasks.countP (TaskEntry.holdsSlotOf q) =
      (tasks.map fun e => (e.pool, e.task.hasSlot)).countP fun k => k.1 == q && k.2 := by
    rw [List.countP_map]
    rfl
  rw [holders, holders, hcount, hcount, h]

/-- A new task has no slot. -/
theorem holders_of_concat {s' : Network} {e : TaskEntry} (h : s'.tasks = s.tasks ++ [e])
    (hslot : e.task.hasSlot = false) (q : Nat) : s'.holders q = s.holders q := by
  simp [holders, h, TaskEntry.holdsSlotOf, hslot]

theorem steady_after (h : s.Balanced) (a : Act)
    (hfresh : ∀ (t : Nat) (e : TaskEntry), s.tasks[t]? = some e → e.task.point = .takingSlot →
      e.task.hasSlot = false) : Steady s (s.after a) := by
  cases a with
  | step t => exact steady_step h (hfresh t)
  | destroy t => exact steady_destroy h t
  | loop c p =>
      rw [after]
      split
      · exact steady_of_quiet rfl (holders_of_concat rfl rfl)
      · exact steady_of_quiet rfl fun _ => rfl
  | attempt c =>
      rw [after]
      split
      · exact steady_of_quiet rfl (holders_of_concat rfl rfl)
      · exact steady_of_quiet rfl fun _ => rfl
  | connection conn =>
      rw [after]
      split <;> exact steady_of_quiet rfl fun _ => rfl
  | disconnect c =>
      obtain ⟨tasks, ready, parked, journal, links, heq, htasks, -⟩ := s.exists_disconnect c
      rw [after, heq]
      exact steady_of_quiet rfl (holders_of_map (htasks _ fun _ => rfl))
  | reconnect c =>
      rw [after, reconnect]
      split
      · exact steady_of_quiet rfl fun _ => rfl
      · split <;> exact steady_of_quiet rfl fun _ => rfl
  | abort t =>
      exact steady_of_quiet rfl fun _ =>
        countP_modify (f := fun e : TaskEntry => { e with aborted := true }) (fun _ => rfl)
          s.tasks t
  | _ => exact steady_of_quiet rfl fun _ => rfl

/-! ## Runs -/

theorem balanced_of_full {pools : List SlotPool} {locks : LockService}
    (hfull : ∀ pool ∈ pools, pool.available = pool.capacity) :
    Balanced { pools, locks } := by
  intro p
  show (({ pools, locks } : Network).pool p).available + 0 = _
  cases hpool : pools[p]? with
  | none => rw [pool_of_none hpool]; rfl
  | some pool =>
    have hsame : ({ pools, locks } : Network).pool p = pool := by
      rw [Network.pool, hpool, Option.getD_some]
    rw [hsame]
    exact hfull pool (List.mem_of_getElem? hpool)

/-- In every run the slots are balanced, and the pools keep their capacities. -/
theorem balanced_afterAll (htasks : s.tasks = []) (hconnections : s.connections = [])
    (h : s.Balanced) (acts : List Act) :
    (s.afterAll acts).Balanced ∧
      ∀ p, ((s.afterAll acts).pool p).capacity = (s.pool p).capacity := by
  induction acts using List.reverseRecOn with
  | nil => exact ⟨h, fun _ => rfl⟩
  | append_singleton acts a ih =>
      obtain ⟨hbalanced, hcapacity⟩ := ih
      rw [afterAll_concat]
      have hsteady : Steady (s.afterAll acts) ((s.afterAll acts).after a) := by
        refine steady_after hbalanced a fun t e he hpoint => ?_
        have hd := getElem?_drivers he
        cases hloop : e.task.isLoop with
        | true => exact (holds_of_isLoop htasks hd hloop).takingSlot hpoint
        | false =>
            exact ((exclusive_afterAll (.of_nil htasks) (sound_of_nil htasks hconnections)
              acts).attempt t _ hd hloop).hasSlot
      refine ⟨hbalanced.steady hsteady, fun p => ?_⟩
      obtain ⟨taken, returned, hexchanged, -⟩ := hsteady p
      exact hexchanged.capacity.trans (hcapacity p)

/-- Connections that are inside an attempt to connect have a loop each that holds a slot. -/
theorem length_connecting_le (p : Nat)
    (h : ∀ e ∈ s.tasks, e.task.isLoop = true → e.task.Holds) :
    (s.connecting p).length ≤ s.holders p := by
  calc (s.connecting p).length
      ≤ ((s.tasks.filter fun e => e.pool == p && e.task.isLoop && e.task.point.isConnecting).map
          (·.connection)).length := (List.dedup_sublist _).length_le
    _ = s.tasks.countP fun e => e.pool == p && e.task.isLoop && e.task.point.isConnecting := by
        rw [List.length_map, List.countP_eq_length_filter]
    _ ≤ s.holders p := by
        refine List.countP_mono_left fun e he hconnecting => ?_
        simp only [Bool.and_eq_true] at hconnecting
        obtain ⟨⟨hpool, hloop⟩, hconnecting⟩ := hconnecting
        simp [TaskEntry.holdsSlotOf, hpool, ((h e he hloop).connecting hconnecting).1]

/-- In every run each loop has at its point what it needs there. -/
theorem holds_of_mem (htasks : s.tasks = []) {acts : List Act} {e : TaskEntry}
    (he : e ∈ (s.afterAll acts).tasks) (hloop : e.task.isLoop = true) : e.task.Holds := by
  obtain ⟨t, ht⟩ := List.mem_iff_getElem?.mp he
  exact holds_of_isLoop htasks (getElem?_drivers ht) hloop

/-- In every run only running loops hold slots. -/
theorem isEngaged_of_hasSlot (htasks : s.tasks = []) (hconnections : s.connections = [])
    {acts : List Act} {e : TaskEntry} (he : e ∈ (s.afterAll acts).tasks)
    (hslot : e.task.hasSlot = true) : e.task.isLoop = true ∧ e.task.point.isEngaged = true := by
  cases hloop : e.task.isLoop with
  | true => exact ⟨rfl, (holds_of_mem htasks he hloop).isEngaged hslot⟩
  | false =>
      obtain ⟨t, ht⟩ := List.mem_iff_getElem?.mp he
      have hattempt := (exclusive_afterAll (.of_nil htasks) (sound_of_nil htasks hconnections)
        acts).attempt t _ (getElem?_drivers ht) hloop
      rw [show e.task.hasSlot = false from hattempt.hasSlot] at hslot
      cases hslot

/-- In every run of a network with new pools, the connections that are inside an attempt to connect
of their loop, with a slot of one pool, are at most as many as slots of that pool are in use; these
are exactly as many as running loops hold one, and at most the capacity of the pool.  A loop that
has not been granted a slot neither asks for the lock nor connects, and once all loops have returned
no slot is in use. -/
theorem admitted_within_capacity (pools : List SlotPool) (locks : LockService) (acts : List Act)
    (hfull : ∀ pool ∈ pools, pool.available = pool.capacity) (p : Nat) :
    let start : Network := { pools, locks }
    let s := start.afterAll acts
    (s.connecting p).length ≤ (s.pool p).inUse ∧
      (s.pool p).inUse = s.holders p ∧
      (s.pool p).inUse ≤ (s.pool p).capacity ∧
      (s.pool p).capacity = (start.pool p).capacity ∧
      (∀ e ∈ s.tasks, e.task.hasSlot = true →
        e.task.isLoop = true ∧ e.task.point.isEngaged = true) ∧
      (∀ e ∈ s.tasks, e.task.isLoop = true → e.task.hasSlot = false →
        e.task.point ≠ .takingLock ∧ e.task.point.isConnecting = false) ∧
      (∀ (t : Nat) (e : TaskEntry), s.tasks[t]? = some e → e.task.isLoop = true →
        .slot true ∉ start.operations t acts →
        .connect ∉ start.operations t acts ∧ ∀ b, .lock b ∉ start.operations t acts) ∧
      ((∀ e ∈ s.tasks, e.task.isLoop = true → e.pool = p → e.task.point.isFinished = true) →
        (s.pool p).inUse = 0) := by
  intro start s
  obtain ⟨hbalanced, hcapacity⟩ :=
    balanced_afterAll (s := start) rfl rfl (balanced_of_full hfull) acts
  have hholds : ∀ e ∈ s.tasks, e.task.isLoop = true → e.task.Holds :=
    fun _ he hloop => holds_of_mem rfl he hloop
  have hengaged : ∀ e ∈ s.tasks, e.task.hasSlot = true →
      e.task.isLoop = true ∧ e.task.point.isEngaged = true :=
    fun _ he hslot => isEngaged_of_hasSlot rfl rfl he hslot
  have hinUse : (s.pool p).inUse = s.holders p := by
    have hbalance : (s.pool p).available + s.holders p = (s.pool p).capacity := hbalanced p
    unfold SlotPool.inUse
    omega
  refine ⟨?_, hinUse, Nat.sub_le _ _, hcapacity p, hengaged, fun e he hloop hslot => ?_,
    fun t e he hloop hnever => (disciplined_operations rfl he hloop).of_slotless hnever,
    fun hfinished => ?_⟩
  · rw [hinUse]
    exact length_connecting_le p hholds
  · refine ⟨fun hpoint => ?_, ?_⟩
    · rw [((hholds e he hloop).takingLock hpoint).1] at hslot
      cases hslot
    · rw [← Bool.not_eq_true]
      intro hconnecting
      rw [((hholds e he hloop).connecting hconnecting).1] at hslot
      cases hslot
  · rw [hinUse]
    refine List.countP_eq_zero.mpr fun e he hholdsSlot => ?_
    simp only [TaskEntry.holdsSlotOf, Bool.and_eq_true, beq_iff_eq] at hholdsSlot
    obtain ⟨hloop, hruns⟩ := hengaged e he hholdsSlot.2
    have hover := hfinished e he hloop hholdsSlot.1
    rw [Point.isFinished_of_isEngaged hruns] at hover
    cases hover

/-- Two slots for three loops: the first one dials, the second one waits with its slot for the lock
of the same target, and the third one waits for a slot. -/
theorem admitted_within_capacity_of_three_loops :
    let start : Network :=
      { pools := [{ capacity := 2, available := 2 }], locks := .registry {} }
    let acts := upToDial ++
      [.connection (.plain "leaf1" (.recorder 0)), .loop 1 0] ++ List.replicate 5 (.step 1) ++
      [.connection (.plain "leaf2" (.recorder 0)), .loop 2 0] ++ List.replicate 5 (.step 2)
    let s := start.afterAll acts
    s.connecting 0 = [0] ∧ s.holders 0 = 2 ∧ (s.pool 0).inUse = 2 ∧
      (s.connecting 0).length ≤ (s.pool 0).inUse ∧
      start.operations 1 acts = [.slot true, .lock false, .pause] ∧
      start.operations 2 acts = [.slot false, .pause] := by
  intro start acts s
  have hholders : s.holders 0 = 2 := by decide +kernel
  obtain ⟨hconnecting, hinUse, -⟩ := admitted_within_capacity
    [{ capacity := 2, available := 2 }] (.registry {}) acts (by simp) 0
  exact ⟨by decide +kernel, hholders, hinUse.trans hholders, hconnecting, by decide +kernel,
    by decide +kernel⟩

end Network

end TelemetryGateway
