import TelemetryGateway.Cache.Registry
import TelemetryGateway.Connection.Task
import TelemetryGateway.Device
import TelemetryGateway.Lock.Service
import TelemetryGateway.Slot.Pool

/-!
# The network of connections

All connections of a process with what they share: the slot pools, the locks, the device side, the
links, the sinks and the clock.  The tasks of the connections run one at a time; a task that has to
wait is parked until something wakes it, and woken tasks run in the order in which they were woken.

`Network.step` is one move of one task: its question is answered from the state of the network, and
what the task does is carried out.  Everything that happens to the connections happens in such
steps, or in `disconnect`, `reconnect`, `abort` and the acts of the device side.
-/

namespace TelemetryGateway

structure RecordedCall where
  call : SinkCall
  /-- The call was an update that was refused. -/
  refused : Bool := false
deriving DecidableEq

/-- A sink that keeps the calls that it receives, and can be made to refuse updates. -/
structure Recorder where
  calls : List RecordedCall := []
  refusing : Bool := false
deriving DecidableEq, Inhabited

structure TaskEntry where
  connection : Nat
  /-- The pool that a loop takes its slot from. -/
  pool : Nat := 0
  gate : Option Nat := none
  task : Task
  /-- The stop signal has come since the task registered for it. -/
  signalled : Bool := false
  aborted : Bool := false

/-- The state of everything that the connections of a process share. -/
structure Network where
  /-- The time in milliseconds. -/
  now : Nat := 0
  pools : List SlotPool
  locks : LockService
  device : Device := {}
  links : List Link := []
  recorders : List Recorder := []
  caches : CacheRegistry := {}
  connections : List Connection := []
  tasks : List TaskEntry := []
  /-- The tasks that can run, in the order in which they will. -/
  ready : List Nat := []
  /-- The tasks that wait, in the order in which they began to. -/
  parked : List Nat := []
  journal : List JournalEntry := []

namespace Recorder

def receive (r : Recorder) (call : SinkCall) : Recorder :=
  let refused :=
    match call with
    | .update _ => r.refusing
    | _ => false
  { r with calls := r.calls ++ [{ call, refused }] }

end Recorder

namespace TargetCache

/-- A cache after a call; a notification that it refuses changes nothing. -/
def receive (c : TargetCache) : SinkCall → TargetCache
  | .connect => c.connect
  | .disconnect => c.disconnect
  | .reset => c.reset
  | .sync => c.sync
  | .update n =>
      match c.update n with
      | .ok c => c
      | .error _ => c

end TargetCache

namespace Network

/-! ## Parts of the state -/

def taskIs (s : Network) (p : TaskEntry → Bool) (t : Nat) : Bool := (s.tasks[t]?.map p).getD false

def modifyTask (s : Network) (t : Nat) (f : TaskEntry → TaskEntry) : Network :=
  { s with tasks := s.tasks.modify t f }

def modifyConnection (s : Network) (c : Nat) (f : Connection → Connection) : Network :=
  { s with connections := s.connections.modify c f }

def modifyLink (s : Network) (l : Nat) (f : Link → Link) : Network :=
  { s with links := s.links.modify l f }

/-- The pool of a number; one without slots if there is none. -/
def pool (s : Network) (p : Nat) : SlotPool := s.pools[p]?.getD default

def takeSlot (s : Network) (p : Nat) : Bool × Network :=
  let (granted, pool) := (s.pool p).tryAcquire
  (granted, { s with pools := s.pools.set p pool })

def freeSlot (s : Network) (p : Nat) : Network :=
  { s with pools := s.pools.modify p SlotPool.release }

def report (s : Network) (target : String) (o : Occurrence) : Network :=
  { s with journal := s.journal ++ [⟨target, o⟩] }

/-- Makes the parked tasks with a property ready, in the order in which they were parked. -/
def wakeWhere (s : Network) (p : TaskEntry → Bool) : Network :=
  { s with
    ready := s.ready ++ s.parked.filter (s.taskIs p)
    parked := s.parked.filter (fun t => !s.taskIs p t) }

/-- Changes a link and wakes the task that reads it. -/
def touchLink (s : Network) (l : Nat) (f : Link → Link) : Network :=
  (s.modifyLink l f).wakeWhere (fun e => e.task.point.link? == some l)

/-! ## Sinks -/

def refuses (s : Network) (sink : SinkRef) (n : Notification) : Bool :=
  match sink with
  | .recorder id => (s.recorders[id]?.map (·.refusing)).getD false
  | .cache _ => TargetCache.hasRootUpdate n

def callSink (s : Network) (sink : SinkRef) (call : SinkCall) : Network :=
  match sink with
  | .recorder id => { s with recorders := s.recorders.modify id (·.receive call) }
  | .cache id => { s with caches := s.caches.modify id (·.receive call) }

/-! ## Answering and carrying out -/

/-- The answer to what a task asks, with the state after it; `none` if the task has to wait.  A dial
that is answered counts before its end, and its end before the stop signal. -/
def reply? (s : Network) (e : TaskEntry) (c : Connection) : Option (Reply × Network) :=
  match e.task.point.ask with
  | .nothing => some (.proceed, s)
  | .slot =>
      let (granted, s) := s.takeSlot e.pool
      some (if granted then .granted else .denied, s)
  | .lock =>
      match e.gate with
      | none => some (.denied, s)
      | some gate =>
          let (granted, locks) := s.locks.tryAcquire gate
          some (if granted then .granted else .denied, { s with locks })
  | .call q =>
      some (.ringing (s.now + s.device.delay.getD 0) (s.now + q.timeout),
        { s with device := s.device.noteDial q })
  | .dial q due giveUp =>
      if due ≤ s.now then
        match s.device.answerDial q s.links.length with
        | (none, device) =>
            some (.opened s.links.length, { s with device, links := s.links ++ [{}] })
        | (some error, device) => some (.refused error, { s with device })
      else if giveUp ≤ s.now then some (.timedOut, s)
      else if e.signalled then some (.interrupted, s)
      else none
  | .event l =>
      (s.links[l]?.bind Link.next?).map fun (event, link) =>
        (.event event (s.refuses c.sink), { s with links := s.links.set l link })
  | .pause => some (.restUntil (s.now + c.settings.retryInterval), s)
  | .wake time => if e.signalled || time ≤ s.now then some (.proceed, s) else none
  | .over => none

def perform (s : Network) (e : TaskEntry) (c : Connection) : Output → Network
  | .call call => s.callSink c.sink call
  | .report o => s.report c.name o
  | .closeLink l => s.touchLink l Link.close
  | .dropLink l => s.modifyLink l Link.dropReader
  | .releaseSlot => s.freeSlot e.pool
  | .unlock => { s with locks := e.gate.elim s.locks s.locks.unlock }

/-- One move of a task; `none` if it has to wait or is over.  A task that is no longer registered
for the stop signal forgets it. -/
def step (s : Network) (t : Nat) : Option Network := do
  let e ← s.tasks[t]?
  let c ← s.connections[e.connection]?
  let (reply, s) ← s.reply? e c
  let move := e.task.resume c reply
  let entry := { e with task := move.task, signalled := e.signalled && move.task.point.isArmed }
  let s := { s with
    tasks := s.tasks.set t entry
    connections := s.connections.set e.connection move.connection }
  return move.outputs.foldl (fun s o => s.perform e c o) s

/-- Takes a task away where it is: what it holds goes back, and nobody is told. -/
def destroy (s : Network) (t : Nat) : Network :=
  match s.tasks[t]? with
  | none => s
  | some e =>
      let s := match e.task.point.link? with
        | some l => s.modifyLink l Link.dropReader
        | none => s
      let s := if e.task.hasSlot then s.freeSlot e.pool else s
      let s := { s with locks := e.gate.elim s.locks s.locks.unlock }
      s.modifyTask t fun e =>
        { e with
          task := { e.task with hasSlot := false, hasLock := false, point := .finished .aborted } }

/-! ## Acts on connections -/

/-- Stops a connection for good: its tasks get the stop signal, and its live subscription is
closed. -/
def disconnect (s : Network) (c : Nat) : Network :=
  match s.connections[c]? with
  | none => s
  | some conn =>
      let reaction := conn.phase.stop
      let s := s.modifyConnection c (fun conn => { conn with phase := reaction.phase })
      let s := reaction.occurrences.foldl (fun s o => s.report conn.name o) s
      let hears (e : TaskEntry) : Bool := e.connection == c && e.task.point.isArmed
      let s := { s with
        tasks := s.tasks.map fun e => if hears e then { e with signalled := true } else e }
      let s := s.wakeWhere hears
      conn.client.elim s (fun l => s.touchLink l Link.close)

/-- Closes the live subscription of a connection, if there is one, so that its loop dials again. -/
def reconnect (s : Network) (c : Nat) : Network :=
  match s.connections[c]? with
  | none => s
  | some conn =>
      match conn.client with
      | none => s
      | some l => (s.report conn.name .reconnecting).touchLink l Link.close

/-- Adds a connection; the result is its number. -/
def addConnection (s : Network) (c : Connection) : Nat × Network :=
  (s.connections.length, { s with connections := s.connections ++ [c] })

/-- Adds a task, ready to run; the result is its number. -/
def addTask (s : Network) (e : TaskEntry) : Nat × Network :=
  (s.tasks.length, { s with tasks := s.tasks ++ [e], ready := s.ready ++ [s.tasks.length] })

/-- Starts an acquisition loop for a connection, with slots of a pool and a new gate for the name of
its target. -/
def spawn (s : Network) (c p : Nat) : Nat × Network :=
  let name := (s.connections[c]?.map (·.name)).getD ""
  let (gate, locks) := s.locks.gate name
  { s with locks }.addTask { connection := c, pool := p, gate := some gate, task := .loop }

def connect (s : Network) (c : Nat) : Nat × Network :=
  s.addTask { connection := c, task := .attempt }

/-- Has a task taken away at its next turn. -/
def abort (s : Network) (t : Nat) : Network :=
  let s := s.modifyTask t (fun e => { e with aborted := true })
  { s with
    ready := if s.parked.contains t then s.ready ++ [t] else s.ready
    parked := s.parked.filter (· != t) }

def isFinished (s : Network) (t : Nat) : Bool := s.taskIs (fun e => e.task.point.isFinished) t

end Network

end TelemetryGateway
