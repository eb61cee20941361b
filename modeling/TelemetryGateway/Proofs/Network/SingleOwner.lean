import TelemetryGateway.Proofs.Network.Links
import TelemetryGateway.Proofs.Network.SharedLock

/-!
# One owner for a target

Of the loops for one target that share a lock registry at most one is inside an attempt to connect
(`Network.Shared`).  A link that is open is in the hands of a loop (`LinksHeld`), so at most one
link is open; and a sink believes the target connected only during an attempt (`Network.Coherent`),
so over all sinks there is at most one `connect` without its `disconnect`.  `Network.single_owner`
puts this together. -/

namespace TelemetryGateway

/-! ## Counting -/

/-- At most one element has a property that no two have. -/
theorem countP_le_one {α : Type} {p : α → Bool} {l : List α}
    (h : ∀ (i j : Nat) (a b : α), l[i]? = some a → l[j]? = some b → p a = true → p b = true →
      i = j) : l.countP p ≤ 1 := by
  induction l with
  | nil => simp
  | cons a rest ih =>
      rw [List.countP_cons]
      by_cases ha : p a = true
      · have hrest : rest.countP p = 0 := by
          rw [List.countP_eq_zero]
          intro b hb hpb
          obtain ⟨j, hj⟩ := List.mem_iff_getElem?.mp hb
          cases h 0 (j + 1) a b rfl hj ha hpb
        calc rest.countP p + (if p a = true then 1 else 0) = 0 + 1 := by rw [hrest, if_pos ha]
          _ ≤ 1 := Nat.le_refl 1
      · rw [if_neg ha]
        refine ih fun i j b c hb hc hpb hpc => ?_
        have := h (i + 1) (j + 1) b c hb hc hpb hpc
        omega

theorem countP_modify {α : Type} {p : α → Bool} {f : α → α} (hf : ∀ a, p (f a) = p a)
    (l : List α) (i : Nat) : (l.modify i f).countP p = l.countP p := by
  induction l generalizing i with
  | nil => simp
  | cons a rest ih =>
      cases i with
      | zero => simp [List.countP_cons, hf]
      | succ i => simp [List.countP_cons, ih]

/-- An element that is replaced goes out of the count, and what replaces it comes in. -/
theorem countP_set_add {α : Type} {p : α → Bool} {l : List α} {i : Nat} {a b : α}
    (h : l[i]? = some a) :
    (l.set i b).countP p + (p a).toNat = l.countP p + (p b).toNat := by
  obtain ⟨hlt, rfl⟩ := List.getElem?_eq_some_iff.mp h
  rw [List.countP_set hlt]
  have hpos : p l[i] = true → 0 < l.countP p := fun hp =>
    List.countP_pos_iff.mpr ⟨_, List.getElem_mem hlt, hp⟩
  cases hp : p l[i] <;> cases hb : p b <;> simp_all

namespace Network

/-! ## Connects and disconnects -/

variable {s s' : Network}

/-- In each act the connects exceed the disconnects by the number of connections that begin to own
the state of their sink. -/
theorem Coherent.count_connect (h : s.Coherent) {a : Act} {handovers : List Handover}
    (he : Effect s a s' handovers) :
    (handovers.map (·.call)).count .connect +
        s.connections.countP (fun c => c.phase.ownsCacheState) =
      (handovers.map (·.call)).count .disconnect +
        s'.connections.countP (fun c => c.phase.ownsCacheState) := by
  cases he with
  | quiet _ hconnections => rw [hconnections]; rfl
  | stop hconnections =>
      rw [hconnections, countP_modify]
      · rfl
      · intro conn
        exact Phase.ownsCacheState_stop conn.phase
  | connection _ _ hconnections =>
      rw [hconnections, List.countP_append]
      rfl
  | loop _ _ _ hconnections => rw [hconnections]; rfl
  | @move t d conn reply _ _ hd hconn _ _ hconnections =>
      -- one phase changes: what it owned goes out of the count, and what it owns comes in
      have hcalls : (Output.calls (d.task.resume conn reply).outputs).count .connect +
            conn.phase.ownsCacheState.toNat =
          (Output.calls (d.task.resume conn reply).outputs).count .disconnect +
            (d.task.resume conn reply).connection.phase.ownsCacheState.toNat :=
        (h.extends_move reply hd hconn).count_connect
      have hset := countP_set_add (p := fun c => c.phase.ownsCacheState)
        (b := (d.task.resume conn reply).connection) hconn
      rw [hconnections, Handover.map_call_ofCalls]
      omega

/-- What holds of a network whose connections have one name and share one registry, and of all calls
made in it. -/
structure SingleOwner (name : String) (s : Network) (history : List Handover) : Prop where
  coherent : s.Coherent
  links : LinksHeld s.drivers s.links
  shared : ∃ r, s.Shared name r
  balance : (history.map (·.call)).count .connect =
    (history.map (·.call)).count .disconnect +
      s.connections.countP (fun c => c.phase.ownsCacheState)

namespace SingleOwner

variable {name : String} {history : List Handover}

theorem of_new (name : String) (pools : List SlotPool) :
    SingleOwner name { pools, locks := .registry {} } [] where
  coherent := coherent_of_nil rfl rfl
  links := by constructor <;> simp [drivers]
  shared := ⟨_, Shared.of_new name pools⟩
  balance := rfl

theorem effect (h : s.SingleOwner name history) {a : Act} {handovers : List Handover}
    (ha : ∀ conn, a = .connection conn → conn.name = name) (he : Effect s a s' handovers) :
    s'.SingleOwner name (history ++ handovers) := by
  obtain ⟨r, hshared⟩ := h.shared
  refine ⟨h.coherent.effect he, h.links.effect he, hshared.effect h.coherent ha he, ?_⟩
  have hbefore := h.balance
  have hcount := h.coherent.count_connect he
  rw [List.map_append, List.count_append, List.count_append]
  omega

theorem afterAll (h : s.SingleOwner name []) (acts : List Act)
    (hacts : ∀ a ∈ acts, a.byLoops = true)
    (hname : ∀ conn, .connection conn ∈ acts → conn.name = name) :
    (s.afterAll acts).SingleOwner name (s.history acts) := by
  refine afterAll_induction
    (fun a => a.byLoops = true ∧ ∀ conn, a = .connection conn → conn.name = name)
    (fun s earlier a ⟨hloops, hmade⟩ hs => hs.effect hmade (after_effect s a hloops)) h acts
    fun a ha => ⟨hacts a ha, ?_⟩
  rintro conn rfl
  exact hname conn ha

/-- A connection that owns the state of its sink has a loop inside an attempt to connect. -/
theorem exists_connecting (h : s.SingleOwner name history) {c : Nat} {conn : Connection}
    (hconn : s.connections[c]? = some conn) (howns : conn.phase.ownsCacheState = true) :
    ∃ (t : Nat) (d : Driver), s.drivers[t]? = some d ∧ d.connection = c ∧
      d.task.point.isConnecting = true := by
  -- a connection that no loop is engaged with is at rest, and then it owns nothing
  apply Classical.byContradiction
  intro hnone
  have hrest : conn.phase.isResting = true := by
    refine h.coherent.resting c conn hconn fun ⟨t, d, hd, hc, hengaged⟩ => hnone ⟨t, d, hd, hc, ?_⟩
    subst hc
    obtain ⟨-, hallows⟩ := h.coherent.engaged t d conn hd hconn hengaged
    exact Point.isConnecting_of_ownsCacheState hengaged hallows howns
  rw [Phase.ownsCacheState_of_isResting hrest] at howns
  cases howns

/-- At most one connection owns the state of its sink. -/
theorem countP_owns_le_one (h : s.SingleOwner name history) :
    s.connections.countP (fun c => c.phase.ownsCacheState) ≤ 1 := by
  obtain ⟨r, hshared⟩ := h.shared
  refine countP_le_one fun c c' conn conn' hconn hconn' howns howns' => ?_
  obtain ⟨t, d, hd, rfl, hconnecting⟩ := h.exists_connecting hconn howns
  obtain ⟨t', d', hd', rfl, hconnecting'⟩ := h.exists_connecting hconn' howns'
  have ht := hshared.unique_connecting hd hd' hconnecting hconnecting'
  subst ht
  rw [hd] at hd'
  cases hd'
  rfl

/-- At most one link is open. -/
theorem countP_open_le_one (h : s.SingleOwner name history) :
    s.links.countP (fun k => !k.closeRequested) ≤ 1 := by
  obtain ⟨r, hshared⟩ := h.shared
  refine countP_le_one fun l l' k k' hk hk' hopen hopen' => ?_
  obtain ⟨t, d, hd, hlink⟩ := h.links.held l k hk (by simpa using hopen)
  obtain ⟨t', d', hd', hlink'⟩ := h.links.held l' k' hk' (by simpa using hopen')
  have ht := hshared.unique_connecting hd hd' (Point.isConnecting_of_link? hlink)
    (Point.isConnecting_of_link? hlink')
  subst ht
  rw [hd] at hd'
  cases hd'
  rw [hlink] at hlink'
  cases hlink'
  rfl

/-- When all loops are over, nobody has the lock and no sink believes the target connected. -/
theorem of_finished (h : s.SingleOwner name history)
    (hfinished : ∀ e ∈ s.tasks, e.task.point.isFinished = true) :
    (∃ r, s.locks = .registry r ∧ r.isHeld name = false) ∧
      s.connections.countP (fun c => c.phase.ownsCacheState) = 0 := by
  obtain ⟨r, hshared⟩ := h.shared
  have hover : ∀ (t : Nat) (d : Driver), s.drivers[t]? = some d →
      d.task.point.isEngaged = false := by
    intro t d hd
    rw [drivers, List.getElem?_map] at hd
    obtain ⟨e, he, rfl⟩ := Option.map_eq_some_iff.mp hd
    have hpoint := hfinished e (List.mem_of_getElem? he)
    refine Bool.eq_false_iff.mpr fun hengaged => ?_
    have hunfinished := Point.isFinished_of_isEngaged hengaged
    rw [show e.driver.task = e.task from rfl, hpoint] at hunfinished
    cases hunfinished
  refine ⟨⟨r, hshared.locks, ?_⟩, ?_⟩
  · rw [Bool.eq_false_iff]
    intro hheld
    obtain ⟨-, t, d, hd, hlock⟩ :=
      (hshared.mem_held name).mp (LockRegistry.isHeld_eq_true_iff.mp hheld)
    have := (hshared.keepsLock t d hd).isEngaged hlock
    rw [hover t d hd] at this
    cases this
  · rw [List.countP_eq_zero]
    intro conn hmem howns
    obtain ⟨c, hconn⟩ := List.mem_iff_getElem?.mp hmem
    obtain ⟨t, d, hd, -, hconnecting⟩ := h.exists_connecting hconn howns
    have := Point.isEngaged_of_isConnecting hconnecting
    rw [hover t d hd] at this
    cases this

end SingleOwner

/-- Loops of connections of one name that share a registry exclude each other, in every run: at most
one of them is inside an attempt to connect, at most one link is open, and over all sinks there is
at most one `connect` more than there are `disconnect`s.  When all loops are over, the registry does
not hold the name and every `connect` has its `disconnect`. -/
theorem single_owner (name : String) (pools : List SlotPool) (acts : List Act)
    (hacts : ∀ a ∈ acts, a.byLoops = true)
    (hname : ∀ conn, .connection conn ∈ acts → conn.name = name) :
    let s := afterAll { pools, locks := .registry {} } acts
    let calls := (history { pools, locks := .registry {} } acts).map (·.call)
    (∀ (t t' : Nat) (e e' : TaskEntry), s.tasks[t]? = some e → s.tasks[t']? = some e' →
        e.task.point.isConnecting = true → e'.task.point.isConnecting = true → t = t') ∧
      s.links.countP (fun k => !k.closeRequested) ≤ 1 ∧
      (calls.count .connect = calls.count .disconnect ∨
        calls.count .connect = calls.count .disconnect + 1) ∧
      ((∀ e ∈ s.tasks, e.task.point.isFinished = true) →
        (∃ r, s.locks = .registry r ∧ r.isHeld name = false) ∧
          calls.count .connect = calls.count .disconnect) := by
  intro s calls
  have h : s.SingleOwner name (history { pools, locks := .registry {} } acts) :=
    (SingleOwner.of_new name pools).afterAll acts hacts hname
  obtain ⟨r, hshared⟩ := h.shared
  have hbalance : calls.count .connect = calls.count .disconnect + _ := h.balance
  have hle := h.countP_owns_le_one
  refine ⟨fun t t' e e' he he' hc hc' => ?_, h.countP_open_le_one, by omega, fun hfinished => ?_⟩
  · exact hshared.unique_connecting (getElem?_drivers he) (getElem?_drivers he') hc hc'
  · obtain ⟨hlock, hzero⟩ := h.of_finished hfinished
    exact ⟨hlock, by omega⟩

/-- Two loops for one target, the second of which rests while the first one streams: once both were
stopped and are over, the lock is free. -/
theorem single_owner_of_two_loops :
    let acts : List Act := [.recorder, .recorder] ++
      Act.untilFirstMessage (.plain "leaf1" (.recorder 0)) 0 0 0 .synced ++
      [.connection (.plain "leaf1" (.recorder 1)), .loop 1 1] ++ List.replicate 5 (.step 1) ++
      [.disconnect 0, .disconnect 1] ++ List.replicate 4 (.step 0) ++ List.replicate 3 (.step 1)
    let pools : List SlotPool := List.replicate 2 { capacity := 1, available := 1 }
    let calls := (history { pools, locks := .registry {} } acts).map (·.call)
    calls = [.connect, .sync, .disconnect, .reset] ∧
      calls.count .connect = calls.count .disconnect ∧
      ∃ r, (afterAll { pools, locks := .registry {} } acts).locks = .registry r ∧
        r.isHeld "leaf1" = false := by
  intro acts pools calls
  have hname : ∀ conn, .connection conn ∈ acts → conn.name = "leaf1" := by
    intro conn hmem
    simp only [acts, Act.untilFirstMessage, List.mem_append, List.mem_cons, List.mem_replicate,
      Act.connection.injEq, reduceCtorEq, List.not_mem_nil, and_false, or_false, false_or] at hmem
    rcases hmem with rfl | rfl <;> rfl
  obtain ⟨-, -, -, hover⟩ := single_owner "leaf1" pools acts
    (List.all_eq_true.mp rfl) hname
  have hfinished : ((afterAll { pools, locks := .registry {} } acts).tasks.all
      fun e => e.task.point.isFinished) = true := by decide +kernel
  obtain ⟨hfree, hbalance⟩ := hover (List.all_eq_true.mp hfinished)
  exact ⟨by decide +kernel, hbalance, hfree⟩

end Network

end TelemetryGateway
