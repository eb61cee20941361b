import TelemetryGateway.Network.Schedule
import TelemetryGateway.Proofs.Connection.Moves

/-!
# Runs of a network

Whatever happens to a network is an `Act`: connections are made and get tasks, a task makes its next
move, somebody stops or reconnects a connection, a device does something, time goes on.  A run is
any list of acts, so every order in which the tasks can be scheduled, and everything that devices
can do in between, is a run.

Beside the state that a run leads to, `Network.history` keeps which calls the connections have
handed to their sinks, in their order.

* `Network.step_eq`: one step is the answer to what the task asks, its move, and then what it does;
* `Network.afterAll_induction`: what every act preserves, of the state together with the history,
  holds after every run;
* `Network.exists_acts_turn`: a turn that the scheduler gives to a task is a run.
-/

namespace TelemetryGateway

/-- One thing that happens to a network. -/
inductive Act where
  /-- A sink that keeps its calls is made. -/
  | recorder
  /-- A cache is made. -/
  | cache (name : String)
  /-- A connection is made; only what does not change in its life is taken from the given one. -/
  | connection (c : Connection)
  /-- An acquisition loop is started for a connection, with slots of a pool and a gate of its own.
  -/
  | loop (connection pool : Nat)
  /-- A single attempt to connect is started. -/
  | attempt (connection : Nat)
  /-- A task makes its next move, unless it has to wait. -/
  | step (task : Nat)
  /-- A connection is stopped for good. -/
  | disconnect (connection : Nat)
  /-- The live subscription of a connection is closed. -/
  | reconnect (connection : Nat)
  /-- A task is to be taken away. -/
  | abort (task : Nat)
  /-- A task is taken away where it is. -/
  | destroy (task : Nat)
  /-- A device sends a message on a link, or ends it. -/
  | send (link : Nat) (event : StreamEvent)
  /-- A device goes away. -/
  | dropSender (link : Nat)
  /-- The device side changes: how dials end and what becomes of the sessions. -/
  | device (d : Device)
  /-- A recorder begins or ceases to refuse updates. -/
  | refusing (recorder : Nat) (on : Bool)
  /-- The clock is set. -/
  | clock (now : Nat)
  /-- The scheduler makes up its mind which tasks are to run. -/
  | schedule (ready parked : List Nat)

/-- Whether an act leaves it to the acquisition loops to connect and to come to their end. -/
def Act.byLoops : Act → Bool
  | .attempt _ | .destroy _ => false
  | _ => true

/-- A connection that can be dialed, with defaults for all that does not matter in a run. -/
def Connection.plain (name : String) (sink : SinkRef) : Connection where
  name
  descriptor := { addresses := ["10.0.0.1"] }
  request := .stream [.ofNames ["system"]]
  settings := {}
  sink

/-- The acts by which a new connection with the given number gets a message on its first link, if
the numbers of its task and of its link are the given ones. -/
def Act.untilFirstMessage (conn : Connection) (c t l : Nat) (message : SubscribeResponse) :
    List Act :=
  [.connection conn, .loop c 0] ++ List.replicate 11 (.step t) ++
    [.send l (.response message), .step t]

/-- A call that a connection hands to its sink. -/
structure Handover where
  /-- The number of the connection. -/
  connection : Nat
  sink : SinkRef
  call : SinkCall
deriving DecidableEq

namespace Handover

/-- The calls that a connection has made, in their order. -/
def callsOf (c : Nat) (history : List Handover) : List SinkCall :=
  (history.filter (·.connection == c)).map (·.call)

/-- The calls that a sink has got, in their order. -/
def callsTo (sink : SinkRef) (history : List Handover) : List SinkCall :=
  (history.filter (·.sink == sink)).map (·.call)

@[simp] theorem callsOf_nil (c : Nat) : callsOf c [] = [] := rfl

@[simp] theorem callsTo_nil (sink : SinkRef) : callsTo sink [] = [] := rfl

@[simp] theorem callsOf_append (c : Nat) (first rest : List Handover) :
    callsOf c (first ++ rest) = callsOf c first ++ callsOf c rest := by
  simp [callsOf]

@[simp] theorem callsTo_append (sink : SinkRef) (first rest : List Handover) :
    callsTo sink (first ++ rest) = callsTo sink first ++ callsTo sink rest := by
  simp [callsTo]

/-- The handovers of some calls of one connection. -/
def ofCalls (c : Nat) (sink : SinkRef) (calls : List SinkCall) : List Handover :=
  calls.map fun call => ⟨c, sink, call⟩

@[simp] theorem map_call_ofCalls (c : Nat) (sink : SinkRef) (calls : List SinkCall) :
    (ofCalls c sink calls).map (·.call) = calls := by
  simp [ofCalls, Function.comp_def]

@[simp] theorem callsOf_ofCalls_self (c : Nat) (sink : SinkRef) (calls : List SinkCall) :
    callsOf c (ofCalls c sink calls) = calls := by
  induction calls with
  | nil => rfl
  | cons call rest ih => simpa [callsOf, ofCalls] using ih

theorem callsOf_ofCalls_of_ne {c c' : Nat} (h : c ≠ c') (sink : SinkRef) (calls : List SinkCall) :
    callsOf c' (ofCalls c sink calls) = [] := by
  simp [callsOf, ofCalls, h]

@[simp] theorem callsTo_ofCalls_self (c : Nat) (sink : SinkRef) (calls : List SinkCall) :
    callsTo sink (ofCalls c sink calls) = calls := by
  induction calls with
  | nil => rfl
  | cons call rest ih => simpa [callsTo, ofCalls] using ih

theorem callsTo_ofCalls_of_ne {sink sink' : SinkRef} (h : sink ≠ sink') (c : Nat)
    (calls : List SinkCall) : callsTo sink' (ofCalls c sink calls) = [] := by
  simp [callsTo, ofCalls, h]

end Handover

/-- The next move of a task, with what it is about. -/
structure NextMove where
  entry : TaskEntry
  connection : Connection
  /-- The network after the question of the task has been answered. -/
  answered : Network
  move : Move

namespace NextMove

/-- The calls of the move as they are handed over. -/
def handovers (m : NextMove) : List Handover :=
  Handover.ofCalls m.entry.connection m.connection.sink (Output.calls m.move.outputs)

/-- The network once the task and its connection have moved, before what the task does is carried
out. -/
def noted (m : NextMove) (t : Nat) : Network :=
  { m.answered with
    tasks := m.answered.tasks.set t { m.entry with
      task := m.move.task
      signalled := m.entry.signalled && m.move.task.point.isArmed }
    connections := m.answered.connections.set m.entry.connection m.move.connection }

end NextMove

namespace Network

/-- The next move of a task; `none` if it has to wait or is over. -/
def nextMove? (s : Network) (t : Nat) : Option NextMove := do
  let entry ← s.tasks[t]?
  let connection ← s.connections[entry.connection]?
  let (reply, answered) ← s.reply? entry connection
  return { entry, connection, answered, move := entry.task.resume connection reply }

/-- Whether a sink exists. -/
def hasSink (s : Network) : SinkRef → Bool
  | .recorder id => id < s.recorders.length
  | .cache id => id < s.caches.caches.length

/-- Carries out everything that a task does in one move, in its order. -/
def performAll (s : Network) (e : TaskEntry) (c : Connection) (outputs : List Output) : Network :=
  outputs.foldl (fun s o => s.perform e c o) s

/-- The network after an act.  An act on something that does not exist changes nothing. -/
def after (s : Network) : Act → Network
  | .recorder => { s with recorders := s.recorders ++ [{}] }
  | .cache name => { s with caches := (s.caches.make name).2 }
  | .connection c => if s.hasSink c.sink then (s.addConnection c.fresh).2 else s
  | .loop c p => if c < s.connections.length then (s.spawn c p).2 else s
  | .attempt c => if c < s.connections.length then (s.connect c).2 else s
  | .step t => (s.step t).getD s
  | .disconnect c => s.disconnect c
  | .reconnect c => s.reconnect c
  | .abort t => s.abort t
  | .destroy t => s.destroy t
  | .send l e => s.touchLink l (·.push e)
  | .dropSender l => s.touchLink l Link.dropSender
  | .device d => { s with device := d }
  | .refusing r on =>
      { s with recorders := s.recorders.modify r fun r => { r with refusing := on } }
  | .clock now => s.setClock now
  | .schedule ready parked => { s with ready, parked }

/-- The network after some acts. -/
def afterAll (s : Network) (acts : List Act) : Network := acts.foldl after s

/-- What an act makes the connections hand to their sinks. -/
def handovers (s : Network) : Act → List Handover
  | .step t => ((s.nextMove? t).map NextMove.handovers).getD []
  | _ => []

/-- What the connections hand to their sinks in a run. -/
def history (s : Network) : List Act → List Handover
  | [] => []
  | a :: rest => s.handovers a ++ (s.after a).history rest

/-! ## One step -/

theorem step_eq (s : Network) (t : Nat) :
    s.step t = (s.nextMove? t).map fun m =>
      (m.noted t).performAll m.entry m.connection m.move.outputs := by
  unfold step nextMove?
  cases s.tasks[t]? with
  | none => rfl
  | some e =>
      cases hc : s.connections[e.connection]? with
      | none => simp [hc]
      | some c => cases hr : s.reply? e c <;> simp [hc, hr, performAll, NextMove.noted]

/-- What a next move is made of. -/
theorem nextMove?_eq_some {s : Network} {t : Nat} {m : NextMove} (h : s.nextMove? t = some m) :
    s.tasks[t]? = some m.entry ∧ s.connections[m.entry.connection]? = some m.connection ∧
      ∃ reply, s.reply? m.entry m.connection = some (reply, m.answered) ∧
        m.move = m.entry.task.resume m.connection reply := by
  unfold nextMove? at h
  obtain ⟨e, he, h⟩ := Option.bind_eq_some_iff.mp h
  obtain ⟨c, hc, h⟩ := Option.bind_eq_some_iff.mp h
  obtain ⟨⟨reply, answered⟩, hr, h⟩ := Option.bind_eq_some_iff.mp h
  cases h
  exact ⟨he, hc, reply, hr, rfl⟩

/-- A task that moves finds its connection as it is. -/
theorem connection_eq_of_move {s : Network} {t c : Nat} {m : NextMove} {conn : Connection}
    (hmove : s.nextMove? t = some m) (hc : m.entry.connection = c)
    (hconn : s.connections[c]? = some conn) : m.connection = conn :=
  Option.some_inj.mp ((nextMove?_eq_some hmove).2.1.symm.trans (hc ▸ hconn))

/-! ## Runs -/

theorem afterAll_append (s : Network) (first rest : List Act) :
    s.afterAll (first ++ rest) = (s.afterAll first).afterAll rest :=
  List.foldl_append

theorem afterAll_concat (s : Network) (acts : List Act) (a : Act) :
    s.afterAll (acts ++ [a]) = (s.afterAll acts).after a := by
  rw [afterAll_append]
  rfl

/-- What every act preserves, of the state together with what the connections have handed over so
far, holds after every run. -/
theorem afterAll_induction (allowed : Act → Prop) {motive : Network → List Handover → Prop}
    (hstep : ∀ s earlier a, allowed a → motive s earlier →
      motive (s.after a) (earlier ++ s.handovers a))
    {s : Network} (hstart : motive s []) (acts : List Act) (hacts : ∀ a ∈ acts, allowed a) :
    motive (s.afterAll acts) (s.history acts) := by
  -- the motive speaks of all handovers so far, so they vary along with the network
  suffices h : ∀ s earlier, motive s earlier →
      motive (s.afterAll acts) (earlier ++ s.history acts) from h s [] hstart
  clear hstart s
  induction acts with
  | nil =>
      intro s earlier h
      simpa [history, afterAll] using h
  | cons a rest ih =>
      intro s earlier h
      obtain ⟨ha, hrest⟩ := List.forall_mem_cons.mp hacts
      have := ih hrest (s.after a) _ (hstep s earlier a ha h)
      rwa [List.append_assoc] at this

/-! ### The scheduler -/

/-- A task that runs until it has to wait makes steps only. -/
theorem exists_acts_run (fuel : Nat) (s : Network) (t : Nat) :
    ∃ acts, Network.run fuel s t = s.afterAll acts := by
  induction fuel generalizing s with
  | zero => exact ⟨[.schedule (s.ready ++ [t]) s.parked], rfl⟩
  | succ fuel ih =>
      unfold Network.run
      cases hstep : s.step t with
      | some s' =>
          obtain ⟨acts, hacts⟩ := ih s'
          refine ⟨.step t :: acts, ?_⟩
          simp [hacts, afterAll, after, hstep]
      | none =>
          by_cases hover : s.isFinished t
          · exact ⟨[], by simp [hover, afterAll]⟩
          · exact ⟨[.schedule s.ready (s.parked ++ [t])], by simp [hover, afterAll, after]⟩

theorem exists_acts_turn (s : Network) (t : Nat) : ∃ acts, s.turn t = s.afterAll acts := by
  unfold turn
  split
  · exact ⟨[], rfl⟩
  · split
    · exact ⟨[.destroy t], rfl⟩
    · exact exists_acts_run _ _ _

end Network

end TelemetryGateway
