import TelemetryGateway.Proofs.Dictionary
import TelemetryGateway.Proofs.Network.Standing
import TelemetryGateway.Proofs.Slot.Ledger
import TelemetryGateway.Supervisor

/-!
# Runs of a supervisor

A supervisor that has its network to itself gets into a state by configurations that are applied, by
shutdowns, and by what goes on in the network in between: those are the `Supervisor.Reachable` ones.
In each of them the books are in order (`Supervisor.Staffed`): every supervised target has a
connection of its own, and the counters agree with the number of the targets.

What the parts of a supervisor do is said here once, and no later proof looks into them.

* `Supervisor.new_eq_ok_iff`: a supervisor is made if there is a slot pool for it;
* `Supervisor.join_cases`: a wait for a task comes to its end, or the task is to be taken away;
* `Supervisor.stops_stopTarget`, `Supervisor.starts_startTarget`: what becomes of the targets, of
  the standings of their connections and of the counters when one target is stopped or started;
* `Supervisor.restarts_restart`: what becomes of the targets and of the standings when one target is
  started again;
* `Supervisor.staffed_of_reachable`: the books of every reachable supervisor are in order.
-/

namespace TelemetryGateway

namespace Network

/-! ## The outcome of a wait -/

/-- What the clock does not change is known at the end of a wait. -/
theorem fst_passUntil (done : Network → Bool) (hclock : ∀ s now, done (setClock s now) = done s)
    (limit fuel : Nat) (s : Network) :
    (passUntil done limit fuel s).1 = done (passUntil done limit fuel s).2 := by
  induction fuel generalizing s with
  | zero => rfl
  | succ fuel ih =>
      unfold passUntil
      cases hdone : done s.settle with
      | true => simp only [hdone, if_true]
      | false =>
          cases hnext : s.settle.nextDeadline with
          | none => simp only [hdone, hnext, hclock, Bool.false_eq_true, if_false]
          | some deadline =>
              by_cases hlt : deadline < limit
              · simp only [hdone, hnext, hlt, Bool.false_eq_true, if_false, if_true, ih]
              · simp only [hdone, hnext, hlt, hclock, Bool.false_eq_true, if_false]

theorem fst_waitUntil (done : Network → Bool) (hclock : ∀ s now, done (setClock s now) = done s)
    (s : Network) (limit : Nat) : (s.waitUntil done limit).1 = done (s.waitUntil done limit).2 := by
  unfold waitUntil
  cases hdone : done s with
  | true => simp only [hdone, if_true]
  | false =>
      by_cases hlimit : limit ≤ s.now
      · simp only [hdone, hlimit, Bool.false_eq_true, if_false, if_true]
      · simp only [hlimit, Bool.false_eq_true, if_false]
        exact fst_passUntil done hclock _ _ _

end Network

namespace Supervisor

variable {s : Supervisor} {name : String} {target : SupervisedTarget}

/-- The supervisors that come of a configuration and some locks. -/
inductive Reachable (config : GatewayConfig) (locks : LockService) : Supervisor → Prop
  | new {s : Supervisor} : new config locks = .ok s → Reachable config locks s
  | apply {s : Supervisor} (c : TargetConfiguration) : Reachable config locks s →
      Reachable config locks (s.apply c).2
  | shutdown {s : Supervisor} : Reachable config locks s → Reachable config locks s.shutdown
  | world {s : Supervisor} {a : Act} : Reachable config locks s → s.network.admits a = true →
      Reachable config locks (s.onNetwork (·.after a))

/-! ## The beginning -/

/-- A supervisor that nothing has happened to: it has no targets, and all slots of its pool are
free. -/
def fresh (config : GatewayConfig) (locks : LockService) : Supervisor where
  network :=
    { pools := [{
        capacity := config.targetLimit.toNat
        available := config.targetLimit.toNat }]
      locks }
  settings := config.connectionSettings
  grace := config.shutdownGrace.toNat

section New

variable {config : GatewayConfig} {locks : LockService} {fault : SupervisorFault}

theorem new_eq (config : GatewayConfig) (locks : LockService) :
    new config locks =
      if config.targetLimit.toNat ≤ SlotPool.maxCapacity then .ok (fresh config locks)
      else .error .tooManySlots := by
  unfold new SlotPool.ofCapacity?
  by_cases hlimit : config.targetLimit.toNat ≤ SlotPool.maxCapacity
  · simp only [if_pos hlimit, fresh]
  · simp only [if_neg hlimit]

theorem new_eq_ok_iff :
    new config locks = .ok s ↔
      config.targetLimit.toNat ≤ SlotPool.maxCapacity ∧ s = fresh config locks := by
  rw [new_eq]
  by_cases hlimit : config.targetLimit.toNat ≤ SlotPool.maxCapacity
  · simp [hlimit, eq_comm]
  · simp [hlimit]

theorem new_eq_error_iff :
    new config locks = .error fault ↔
      SlotPool.maxCapacity < config.targetLimit.toNat ∧ fault = .tooManySlots := by
  rw [new_eq, ← Nat.not_le]
  by_cases hlimit : config.targetLimit.toNat ≤ SlotPool.maxCapacity
  · simp [hlimit]
  · simp [hlimit, eq_comm]

end New

/-! ## The parts of a supervisor -/

/-- Time passes while a task is waited for; then it is over, or it is to be taken away. -/
theorem join_cases (s : Supervisor) (name : String) (task grace : Nat) :
    ∃ n : Network, s.network.Passes n ∧
      ((n.isFinished task = true ∧ s.join name task grace = { s with network := n }) ∨
        (n.isFinished task = false ∧ s.join name task grace = { s with
          network := (n.report name (.taskAborted (.ofMilliseconds grace))).abort task
          metrics := { s.metrics with tasksAborted := s.metrics.tasksAborted + 1 } })) := by
  refine ⟨_, Network.passes_waitUntil s.network (·.isFinished task) (s.network.now + grace), ?_⟩
  have hdone := Network.fst_waitUntil (·.isFinished task) (fun _ _ => rfl) s.network
    (s.network.now + grace)
  unfold join
  cases hended : (s.network.waitUntil (·.isFinished task) (s.network.now + grace)).1 with
  | true => exact .inl ⟨hdone.symm.trans hended, by simp only [hended, if_true]⟩
  | false =>
      exact .inr ⟨hdone.symm.trans hended, by simp only [hended, Bool.false_eq_true, if_false]⟩

/-- Whatever a wait comes to, it is not about the targets and stops nobody. -/
theorem join_frame (s : Supervisor) (name : String) (task grace : Nat) :
    (s.join name task grace).targets = s.targets ∧
      (s.join name task grace).network.standings = s.network.standings ∧
      (s.join name task grace).metrics.targetsStarted = s.metrics.targetsStarted ∧
      (s.join name task grace).metrics.targetsStopped = s.metrics.targetsStopped := by
  obtain ⟨n, hn, ⟨-, heq⟩ | ⟨-, heq⟩⟩ := s.join_cases name task grace
  · rw [heq]
    exact ⟨rfl, hn.standings, rfl, rfl⟩
  · rw [heq]
    exact ⟨rfl, hn.standings, rfl, rfl⟩

/-- What has become of a supervisor when a target was stopped. -/
structure Stops (s : Supervisor) (name : String) (target : SupervisedTarget) (s' : Supervisor) :
    Prop where
  targets : s'.targets = s.targets.erase name
  standings : s'.network.standings = s.network.standings.modify target.connection Standing.stop
  targetsStarted : s'.metrics.targetsStarted = s.metrics.targetsStarted
  targetsStopped : s'.metrics.targetsStopped = s.metrics.targetsStopped + 1

theorem stops_stopTarget (h : s.targets.get? name = some target) :
    s.Stops name target (s.stopTarget name) := by
  obtain ⟨htargets, hstandings, hstarted, hstopped⟩ := join_frame
    ({ s with targets := s.targets.erase name }.onNetwork (·.disconnect target.connection)) name
    target.task s.grace
  unfold stopTarget
  rw [h]
  exact {
    targets := htargets
    standings := hstandings.trans (Network.standings_disconnect _ _)
    targetsStarted := hstarted
    targetsStopped := congrArg (· + 1) hstopped }

theorem stopTarget_of_none (h : s.targets.get? name = none) : s.stopTarget name = s := by
  rw [stopTarget, h]

/-- To stop a target is to let time pass after the request to stop; if its task is not over then, it
is to be taken away. -/
theorem exists_stopTarget (h : s.targets.get? name = some target) :
    ∃ n : Network, (s.network.disconnect target.connection).Passes n ∧
      ((n.isFinished target.task = true ∧ (s.stopTarget name).network = n) ∨
        (n.isFinished target.task = false ∧ (s.stopTarget name).network =
          (n.report name (.taskAborted (.ofMilliseconds s.grace))).abort target.task)) := by
  obtain ⟨n, hn, hcases⟩ := join_cases
    ({ s with targets := s.targets.erase name }.onNetwork (·.disconnect target.connection)) name
    target.task s.grace
  refine ⟨n, hn, ?_⟩
  unfold stopTarget
  rw [h]
  exact hcases.imp (fun ⟨hover, heq⟩ => ⟨hover, congrArg network heq⟩)
    fun ⟨hopen, heq⟩ => ⟨hopen, congrArg network heq⟩

/-- After a stop the target is not supervised, and all others are what they were. -/
theorem get?_stopTarget (s : Supervisor) (name other : String) :
    (s.stopTarget name).targets.get? other =
      if name = other then none else s.targets.get? other := by
  cases htarget : s.targets.get? name with
  | none =>
      rw [stopTarget_of_none htarget]
      split
      · next heq => rw [← heq, htarget]
      · rfl
  | some target => rw [(stops_stopTarget htarget).targets, Dictionary.get?_erase]

/-- A stop is told to the connection of the target and to no other. -/
theorem getElem?_standings_stopTarget (s : Supervisor) (name : String) (i : Nat) :
    (s.stopTarget name).network.standings[i]? =
      if s.connection? name = some i then (s.network.standings[i]?).map Standing.stop
      else s.network.standings[i]? := by
  unfold connection?
  cases htarget : s.targets.get? name with
  | none => rw [stopTarget_of_none htarget, Option.map_none, if_neg nofun]
  | some target =>
      rw [(stops_stopTarget htarget).standings, List.getElem?_modify, Option.map_some]
      by_cases hi : target.connection = i <;> simp [hi]

theorem length_standings_stopTarget (s : Supervisor) (name : String) :
    (s.stopTarget name).network.standings.length = s.network.standings.length := by
  cases htarget : s.targets.get? name with
  | none => rw [stopTarget_of_none htarget]
  | some target => rw [(stops_stopTarget htarget).standings, List.length_modify]

/-- What has become of a supervisor when a target was started. -/
structure Starts (s : Supervisor) (name : String) (d : TargetDescriptor)
    (request : SubscribeRequest) (s' : Supervisor) : Prop where
  targets : s'.targets = s.targets.insert name
    ⟨s.network.connections.length, s.network.tasks.length⟩
  standings : ∃ made : Connection, made.name = name ∧ made.descriptor = d ∧
    made.request = request ∧ s'.network.standings = s.network.standings ++ [⟨made, false⟩]
  targetsStarted : s'.metrics.targetsStarted = s.metrics.targetsStarted + 1
  targetsStopped : s'.metrics.targetsStopped = s.metrics.targetsStopped

theorem starts_startTarget (s : Supervisor) (name : String) (d : TargetDescriptor)
    (request : SubscribeRequest) : s.Starts name d request (s.startTarget name d request) := by
  obtain ⟨sink, caches, hsink⟩ : ∃ sink caches,
      s.network.caches.getOrAdd name = (sink, caches) := ⟨_, _, rfl⟩
  exact {
    targets := rfl
    standings := ⟨({ name, descriptor := d, request, settings := s.settings, sink := .cache sink }),
      rfl, rfl, rfl, by
        simp [startTarget, hsink, Network.standings, Network.addConnection, Network.spawn,
          Network.addTask, Connection.standing, Connection.fresh, Phase.isStopped]⟩
    targetsStarted := rfl
    targetsStopped := rfl }

/-! ## Applying a configuration -/

/-- Counts a configuration that is applied. -/
def countApply (s : Supervisor) : Supervisor :=
  { s with metrics := { s.metrics with applies := s.metrics.applies + 1 } }

/-- Stops a target, if it is supervised, and starts it. -/
def restart (s : Supervisor) (name : String) (o : Occurrence) (d : TargetDescriptor)
    (request : SubscribeRequest) : Supervisor :=
  ((s.stopTarget name).onNetwork (·.report name o)).startTarget name d request

/-- What has become of a supervisor when a target was started again: a new connection comes after
all others, the one that the target had before is stopped, and no other is touched. -/
structure Restarts (s : Supervisor) (name : String) (d : TargetDescriptor)
    (request : SubscribeRequest) (s' : Supervisor) : Prop where
  connection? : s'.connection? name = some s.network.standings.length
  targets : ∀ other, other ≠ name → s'.targets.get? other = s.targets.get? other
  length_lt : s.network.standings.length < s'.network.standings.length
  started : ∃ made : Connection, made.name = name ∧ made.descriptor = d ∧ made.request = request ∧
    s'.network.standings[s.network.standings.length]? = some ⟨made, false⟩
  stopped : ∀ i st, s.connection? name = some i → s.network.standings[i]? = some st →
    s'.network.standings[i]? = some st.stop
  others : ∀ i, i < s.network.standings.length → s.connection? name ≠ some i →
    s'.network.standings[i]? = s.network.standings[i]?

theorem restarts_restart (s : Supervisor) (name : String) (o : Occurrence) (d : TargetDescriptor)
    (request : SubscribeRequest) : s.Restarts name d request (s.restart name o d request) := by
  have hlength := length_standings_stopTarget s name
  have hstarts :=
    starts_startTarget ((s.stopTarget name).onNetwork (·.report name o)) name d request
  rw [restart]
  generalize ((s.stopTarget name).onNetwork (·.report name o)).startTarget name d request = s'
    at hstarts
  obtain ⟨made, hname, hdescriptor, hrequest, hstandings⟩ := hstarts.standings
  replace hstandings : s'.network.standings =
      (s.stopTarget name).network.standings ++ [⟨made, false⟩] := hstandings
  have hkept : ∀ i, i < s.network.standings.length →
      s'.network.standings[i]? = (s.stopTarget name).network.standings[i]? := fun i hi => by
    rw [hstandings, List.getElem?_append_left (hlength ▸ hi)]
  constructor
  case connection? =>
    rw [connection?, hstarts.targets, Dictionary.get?_insert, if_pos rfl, Option.map_some,
      ← hlength]
    exact congrArg some (List.length_map _).symm
  case targets =>
    intro other hother
    rw [hstarts.targets, Dictionary.get?_insert, if_neg (Ne.symm hother)]
    exact (get?_stopTarget s name other).trans (if_neg (Ne.symm hother))
  case length_lt => simp [hstandings, hlength]
  case started =>
    refine ⟨made, hname, hdescriptor, hrequest, ?_⟩
    rw [hstandings, ← hlength]
    exact List.getElem?_concat_length
  case stopped =>
    intro i st hi hst
    rw [hkept i (List.getElem?_eq_some_iff.mp hst).1, getElem?_standings_stopTarget, if_pos hi, hst,
      Option.map_some]
  case others =>
    intro i hi hnot
    rw [hkept i hi, getElem?_standings_stopTarget, if_neg hnot]

/-- A configured target is left alone, or it is stopped and started. -/
theorem reconcile_cases {c : TargetConfiguration} {summary : ApplySummary}
    {entry : String × TargetDescriptor} {next : Supervisor × ApplySummary}
    (h : reconcile c (s, summary) entry = .ok next) :
    next.1 = s ∨ ∃ o request, next.1 = s.restart entry.1 o entry.2 request := by
  obtain ⟨name, d⟩ := entry
  unfold reconcile at h
  simp only at h
  split at h
  · cases h
  · next request _ =>
    split at h
    · split at h
      · cases h
        exact .inl rfl
      · cases h
        exact .inr ⟨.targetChanged, request, rfl⟩
    · next hnone =>
      cases h
      refine .inr ⟨.targetAdded, request, ?_⟩
      rw [restart, stopTarget_of_none hnone]

/-- All targets are brought up to date if each of them is. -/
theorem reconcileAll_eq_ok_iff {c : TargetConfiguration} {state : Supervisor × ApplySummary}
    {entries : List (String × TargetDescriptor)} {summary : ApplySummary} {s' : Supervisor} :
    reconcileAll c state entries = (.ok summary, s') ↔
      entries.foldlM (reconcile c) state = .ok (s', summary) := by
  induction entries generalizing state with
  | nil =>
      rw [reconcileAll, List.foldlM_nil]
      simp [pure, Except.pure, Prod.ext_iff, and_comm]
  | cons entry rest ih =>
      rw [List.foldlM_cons, reconcileAll]
      cases reconcile c state entry with
      | error e => simp [bind, Except.bind]
      | ok next => exact ih

/-- What `apply` does with a configuration that has no faults. -/
theorem apply_of_fault?_eq_none {c : TargetConfiguration} (h : c.fault? = none) :
    s.apply c =
      reconcileAll c ((s.departed c).foldl removeTarget s.countApply, { removed := s.departed c })
        c.targets.entries := by
  unfold apply
  rw [h]
  rfl

/-- A configuration is applied if it has no faults and every target can be brought up to date. -/
theorem apply_eq_ok_iff {c : TargetConfiguration} {summary : ApplySummary} {s' : Supervisor} :
    s.apply c = (.ok summary, s') ↔ c.fault? = none ∧
      c.targets.entries.foldlM (reconcile c)
        ((s.departed c).foldl removeTarget s.countApply, { removed := s.departed c }) =
          .ok (s', summary) := by
  cases hfault : c.fault? with
  | some fault => simp [apply, hfault]
  | none => rw [apply_of_fault?_eq_none hfault, reconcileAll_eq_ok_iff, eq_self, true_and]

theorem apply_eq_of_toOption {c : TargetConfiguration} {summary : ApplySummary}
    (h : (s.apply c).1.toOption = some summary) : s.apply c = (.ok summary, (s.apply c).2) := by
  generalize s.apply c = result at h
  obtain ⟨_ | _, s'⟩ := result <;> cases h
  rfl

section Induction

variable {motive : Supervisor → Prop}

theorem foldl_removeTarget_induction
    (hremove : ∀ {s : Supervisor} (name : String), motive s → motive (s.removeTarget name))
    (names : List String) (hs : motive s) : motive (names.foldl removeTarget s) := by
  induction names generalizing s with
  | nil => exact hs
  | cons name rest ih => exact ih (hremove name hs)

/-- What a restart keeps is kept when targets are brought up to date, however far that gets. -/
theorem reconcileAll_induction {c : TargetConfiguration} {summary : ApplySummary}
    (hrestart : ∀ {s : Supervisor} (name : String) (o : Occurrence) (d : TargetDescriptor)
      (request : SubscribeRequest), motive s → motive (s.restart name o d request))
    (entries : List (String × TargetDescriptor)) (hs : motive s) :
    motive (reconcileAll c (s, summary) entries).2 := by
  induction entries generalizing s summary with
  | nil => exact hs
  | cons entry rest ih =>
      rw [reconcileAll]
      cases hfirst : reconcile c (s, summary) entry with
      | error e => exact hs
      | ok first =>
          obtain ⟨s', summary'⟩ := first
          refine ih ?_
          rcases reconcile_cases hfirst with rfl | ⟨o, request, rfl⟩
          · exact hs
          · exact hrestart _ _ _ _ hs

theorem foldlM_reconcile_induction {c : TargetConfiguration} {summary : ApplySummary}
    {entries : List (String × TargetDescriptor)} {next : Supervisor × ApplySummary}
    (hrestart : ∀ {s : Supervisor} (name : String) (o : Occurrence) (d : TargetDescriptor)
      (request : SubscribeRequest), motive s → motive (s.restart name o d request))
    (hs : motive s) (h : entries.foldlM (reconcile c) (s, summary) = .ok next) :
    motive next.1 := by
  have hall : motive (reconcileAll c (s, summary) entries).2 :=
    reconcileAll_induction hrestart entries hs
  rwa [reconcileAll_eq_ok_iff.mpr h] at hall

/-- What each part of `apply` keeps is kept by the whole, also if the configuration is refused. -/
theorem apply_induction (c : TargetConfiguration)
    (hcount : ∀ {s : Supervisor}, motive s → motive s.countApply)
    (hremove : ∀ {s : Supervisor} (name : String), motive s → motive (s.removeTarget name))
    (hrestart : ∀ {s : Supervisor} (name : String) (o : Occurrence) (d : TargetDescriptor)
      (request : SubscribeRequest), motive s → motive (s.restart name o d request))
    (hs : motive s) : motive (s.apply c).2 := by
  have hremoved : motive ((s.departed c).foldl removeTarget s.countApply) :=
    foldl_removeTarget_induction hremove _ (hcount hs)
  unfold apply
  split
  · exact hs
  · exact reconcileAll_induction hrestart _ hremoved

end Induction

/-! ## Books in order -/

/-- Every supervised target has a connection of its own, and the targets are counted. -/
structure Staffed (s : Supervisor) : Prop where
  connection_lt : ∀ (name : String) (target : SupervisedTarget),
    s.targets.get? name = some target → target.connection < s.network.standings.length
  unique : ∀ (name name' : String) (target target' : SupervisedTarget),
    s.targets.get? name = some target → s.targets.get? name' = some target' →
    target.connection = target'.connection → name = name'
  balance : s.metrics.targetsStarted = s.metrics.targetsStopped + UInt64.ofNat s.targets.size

namespace Staffed

theorem exists_standing (h : s.Staffed) {i : Nat} (hi : s.connection? name = some i) :
    ∃ st, s.network.standings[i]? = some st := by
  obtain ⟨target, htarget, rfl⟩ := Option.map_eq_some_iff.mp hi
  exact ⟨_, List.getElem?_eq_getElem (h.connection_lt name target htarget)⟩

/-- A connection belongs to one target only. -/
theorem eq_of_connection? (h : s.Staffed) {other : String} {i : Nat}
    (hi : s.connection? name = some i) (hother : s.connection? other = some i) : name = other := by
  obtain ⟨target, htarget, hc⟩ := Option.map_eq_some_iff.mp hi
  obtain ⟨target', htarget', hc'⟩ := Option.map_eq_some_iff.mp hother
  exact h.unique _ _ target target' htarget htarget' (hc.trans hc'.symm)

/-- What goes on in the network is not about the books. -/
theorem onNetwork (h : s.Staffed) {f : Network → Network}
    (hf : (f s.network).standings.length = s.network.standings.length) :
    (s.onNetwork f).Staffed where
  connection_lt name target htarget :=
    Nat.lt_of_lt_of_eq (h.connection_lt name target htarget) hf.symm
  unique := h.unique
  balance := h.balance

theorem stops {s' : Supervisor} (h : s.Staffed) (htarget : s.targets.get? name = some target)
    (hs' : s.Stops name target s') : s'.Staffed := by
  have hold : ∀ other t, s'.targets.get? other = some t → s.targets.get? other = some t := by
    intro other t ht
    rw [hs'.targets, Dictionary.get?_erase] at ht
    split at ht
    · cases ht
    · exact ht
  constructor
  case connection_lt =>
    intro other t ht
    rw [hs'.standings, List.length_modify]
    exact h.connection_lt other t (hold other t ht)
  case unique =>
    intro other other' t t' ht ht'
    exact h.unique other other' t t' (hold other t ht) (hold other' t' ht')
  case balance =>
    rw [hs'.targetsStarted, hs'.targetsStopped, hs'.targets, h.balance,
      ← Dictionary.size_erase_of_some htarget, UInt64.ofNat_add]
    ac_rfl

theorem starts {s' : Supervisor} {d : TargetDescriptor} {request : SubscribeRequest}
    (h : s.Staffed) (htarget : s.targets.get? name = none) (hs' : s.Starts name d request s') :
    s'.Staffed := by
  obtain ⟨made, -, -, -, hstandings⟩ := hs'.standings
  have hlength : s.network.connections.length = s.network.standings.length :=
    List.length_map _ |>.symm
  have hnew : ∀ other t, s'.targets.get? other = some t →
      (other = name ∧ t.connection = s.network.standings.length) ∨
        s.targets.get? other = some t := by
    intro other t ht
    rw [hs'.targets, Dictionary.get?_insert] at ht
    split at ht
    · next hname =>
      cases ht
      exact .inl ⟨hname.symm, hlength⟩
    · exact .inr ht
  constructor
  case connection_lt =>
    intro other t ht
    rw [hstandings, List.length_append]
    rcases hnew other t ht with ⟨-, hc⟩ | hold
    · rw [hc]
      exact Nat.lt_succ_self _
    · exact Nat.lt_succ_of_lt (h.connection_lt other t hold)
  case unique =>
    intro other other' t t' ht ht' hc
    rcases hnew other t ht with ⟨hname, hnumber⟩ | hold <;>
      rcases hnew other' t' ht' with ⟨hname', hnumber'⟩ | hold'
    · exact hname.trans hname'.symm
    · have := h.connection_lt other' t' hold'
      omega
    · have := h.connection_lt other t hold
      omega
    · exact h.unique other other' t t' hold hold' hc
  case balance =>
    rw [hs'.targetsStarted, hs'.targetsStopped, hs'.targets, h.balance,
      Dictionary.size_insert_of_none htarget, UInt64.ofNat_add]
    ac_rfl

theorem stopTarget (h : s.Staffed) (name : String) : (s.stopTarget name).Staffed := by
  cases htarget : s.targets.get? name with
  | none => rwa [stopTarget_of_none htarget]
  | some target => exact h.stops htarget (stops_stopTarget htarget)

theorem removeTarget (h : s.Staffed) (name : String) : (s.removeTarget name).Staffed := by
  unfold Supervisor.removeTarget
  exact (h.stopTarget name).onNetwork rfl

theorem restart (h : s.Staffed) (name : String) (o : Occurrence) (d : TargetDescriptor)
    (request : SubscribeRequest) : (s.restart name o d request).Staffed := by
  refine ((h.stopTarget name).onNetwork rfl).starts ?_ (starts_startTarget _ _ _ _)
  exact (get?_stopTarget s name name).trans (if_pos rfl)

/-- Books in order stay so when a configuration is applied, also if it is refused. -/
theorem apply (h : s.Staffed) (c : TargetConfiguration) : (s.apply c).2.Staffed :=
  apply_induction c (fun h => ⟨h.connection_lt, h.unique, h.balance⟩)
    (fun name h => h.removeTarget name) (fun name o d request h => h.restart name o d request) h

end Staffed

theorem staffed_of_new {config : GatewayConfig} {locks : LockService}
    (h : new config locks = .ok s) : s.Staffed := by
  obtain ⟨-, rfl⟩ := new_eq_ok_iff.mp h
  exact {
    connection_lt := fun _ _ htarget => nomatch htarget
    unique := fun _ _ _ _ htarget => nomatch htarget
    balance := rfl }

/-! ### Shutdowns -/

/-- Every join of a shutdown counts one stopped target. -/
theorem foldl_join (targets : List (String × SupervisedTarget)) (deadline : Nat) (s : Supervisor) :
    let s' := targets.foldl
      (fun s t => (s.join t.1 t.2.task (deadline - s.network.now)).countStopped) s
    s'.targets = s.targets ∧ s'.metrics.targetsStarted = s.metrics.targetsStarted ∧
      s'.metrics.targetsStopped = s.metrics.targetsStopped + UInt64.ofNat targets.length := by
  induction targets generalizing s with
  | nil => exact ⟨rfl, rfl, (UInt64.add_zero _).symm⟩
  | cons t rest ih =>
      obtain ⟨htargets, -, hstarted, hstopped⟩ :=
        s.join_frame t.1 t.2.task (deadline - s.network.now)
      obtain ⟨htargets', hstarted', hstopped'⟩ :=
        ih (s.join t.1 t.2.task (deadline - s.network.now)).countStopped
      refine ⟨htargets'.trans htargets, hstarted'.trans hstarted, ?_⟩
      calc
        _ = (s.join t.1 t.2.task (deadline - s.network.now)).metrics.targetsStopped + 1 +
              UInt64.ofNat rest.length := hstopped'
        _ = s.metrics.targetsStopped + UInt64.ofNat (rest.length + 1) := by
          rw [hstopped, UInt64.ofNat_add]
          ac_rfl

theorem shutdown_frame (s : Supervisor) :
    s.shutdown.targets = ∅ ∧ s.shutdown.metrics.targetsStarted = s.metrics.targetsStarted ∧
      s.shutdown.metrics.targetsStopped =
        s.metrics.targetsStopped + UInt64.ofNat s.targets.size := by
  unfold shutdown
  exact foldl_join s.targets.entries _ _

/-- What a report, a request to stop and a wait keep is kept by a shutdown. -/
theorem shutdown_induction {motive : Network → Prop}
    (hreport : ∀ {n : Network} (name : String) (o : Occurrence), motive n →
      motive (n.report name o))
    (hdisconnect : ∀ {n : Network} (c : Nat), motive n → motive (n.disconnect c))
    (hjoin : ∀ {s : Supervisor} (name : String) (task grace : Nat), motive s.network →
      motive (s.join name task grace).network)
    (hs : motive s.network) : motive s.shutdown.network := by
  have hstop : ∀ (targets : List (String × SupervisedTarget)) (n : Network), motive n →
      motive (targets.foldl (fun n t => n.disconnect t.2.connection) n) := by
    intro targets
    induction targets with
    | nil => exact fun n hn => hn
    | cons t rest ih => exact fun n hn => ih _ (hdisconnect t.2.connection hn)
  have hwait : ∀ (deadline : Nat) (targets : List (String × SupervisedTarget)) (s : Supervisor),
      motive s.network → motive (targets.foldl
        (fun s t => (s.join t.1 t.2.task (deadline - s.network.now)).countStopped) s).network := by
    intro deadline targets
    induction targets with
    | nil => exact fun s hs => hs
    | cons t rest ih => exact fun s hs => ih _ (hjoin t.1 t.2.task _ hs)
  unfold shutdown
  exact hwait _ _ _ (hstop _ _ (hreport "" .shuttingDown hs))

theorem Staffed.shutdown (h : s.Staffed) : s.shutdown.Staffed := by
  obtain ⟨htargets, hstarted, hstopped⟩ := s.shutdown_frame
  have hnone : ∀ name target, s.shutdown.targets.get? name ≠ some target := by
    intro name target htarget
    rw [htargets] at htarget
    cases htarget
  exact {
    connection_lt := fun name target htarget => absurd htarget (hnone name target)
    unique := fun name _ target _ htarget => absurd htarget (hnone name target)
    balance := by
      rw [htargets, hstarted, hstopped, h.balance]
      exact (UInt64.add_zero _).symm }

/-- The books of every reachable supervisor are in order. -/
theorem staffed_of_reachable {config : GatewayConfig} {locks : LockService}
    (h : Reachable config locks s) : s.Staffed := by
  induction h with
  | new hnew => exact staffed_of_new hnew
  | apply c _ ih => exact ih.apply c
  | shutdown _ ih => exact ih.shutdown
  | world _ ha ih => exact ih.onNetwork (Network.length_standings_after_of_admits ha)

end Supervisor

end TelemetryGateway
