import TelemetryGateway.Network.DeviceSide

/-!
# The supervisor

A supervisor keeps one connection and one running loop for every configured target.  When a
configuration is applied, targets that are gone are stopped and their caches removed, targets whose
identity or request has changed are stopped and started again, and the others are left alone.

A stopped target is waited for, up to a grace period; a task that has not ended by then is taken
away at its next turn.
-/

namespace TelemetryGateway

/-- What one configuration has changed. -/
structure ApplySummary where
  added : List String := []
  replaced : List String := []
  removed : List String := []
  kept : List String := []
deriving DecidableEq, Inhabited

/-- Counters over the life of a supervisor. -/
structure SupervisorMetrics where
  applies : UInt64 := 0
  targetsStarted : UInt64 := 0
  targetsStopped : UInt64 := 0
  tasksAborted : UInt64 := 0
deriving DecidableEq, Inhabited

/-- The connection of a supervised target and the task that runs its loop, by number. -/
structure SupervisedTarget where
  connection : Nat
  task : Nat
deriving DecidableEq, Inhabited

/-- A supervisor with the network that it runs in; the grace is in milliseconds. -/
structure Supervisor where
  network : Network
  settings : ConnectionSettings
  grace : Nat
  targets : Dictionary SupervisedTarget := ∅
  metrics : SupervisorMetrics := {}

namespace ApplySummary

open FieldReader Document

def decode : Decoder ApplySummary := .record do
  let added ← required "added" (.list .text)
  let replaced ← required "replaced" (.list .text)
  let removed ← required "removed" (.list .text)
  let kept ← required "kept" (.list .text)
  return { added, replaced, removed, kept }

def encode (s : ApplySummary) : Document :=
  .record (field "added" (ofList .text s.added) ++ field "replaced" (ofList .text s.replaced) ++
    field "removed" (ofList .text s.removed) ++ field "kept" (ofList .text s.kept))

end ApplySummary

namespace SupervisorMetrics

open FieldReader Document

def decode : Decoder SupervisorMetrics := .record do
  let applies ← required "applies" .uint64
  let targetsStarted ← required "targets_started" .uint64
  let targetsStopped ← required "targets_stopped" .uint64
  let tasksAborted ← required "tasks_aborted" .uint64
  return { applies, targetsStarted, targetsStopped, tasksAborted }

def encode (m : SupervisorMetrics) : Document :=
  .record (field "applies" (.nat m.applies.toNat) ++
    field "targets_started" (.nat m.targetsStarted.toNat) ++
    field "targets_stopped" (.nat m.targetsStopped.toNat) ++
    field "tasks_aborted" (.nat m.tasksAborted.toNat))

end SupervisorMetrics

/-- Why a supervisor cannot be made. -/
inductive SupervisorFault where
  /-- The configuration or the lock backend is at fault. -/
  | error (e : GatewayError)
  /-- No slot pool has as many slots. -/
  | tooManySlots

namespace Supervisor

/-! ## Making a supervisor -/

/-- A supervisor without targets, with the given locks; it does not look for faults in the
configuration. -/
def new (config : GatewayConfig) (locks : LockService) : Except SupervisorFault Supervisor :=
  match SlotPool.ofCapacity? config.targetLimit.toNat with
  | none => .error .tooManySlots
  | some pool =>
      .ok {
        network := { pools := [pool], locks }
        settings := config.connectionSettings
        grace := config.shutdownGrace.toNat }

/-- A supervisor without targets, with the lock backend that the configuration names.
`openDirectory` makes the lock directory. -/
def ofConfig (config : GatewayConfig)
    (openDirectory : String → Except LockError LockDirectory) :
    Except SupervisorFault Supervisor :=
  match config.fault? with
  | some fault => .error (.error (.ofFault fault))
  | none =>
      match config.lock.backend, config.lock.dir with
      | .local, _ => new config (.registry {})
      | .file, none => .error (.error (.ofFault .missingLockDirectory))
      | .file, some dir =>
          match openDirectory dir with
          | .error e => .error (.error (.lock e))
          | .ok d => new config (.directory d)

/-! ## Stopping targets -/

def onNetwork (s : Supervisor) (f : Network → Network) : Supervisor :=
  { s with network := f s.network }

/-- Waits for the end of a task for some milliseconds at most; one that has not ended by then is
taken away. -/
def join (s : Supervisor) (name : String) (task grace : Nat) : Supervisor :=
  let (ended, network) := s.network.waitUntil (·.isFinished task) (s.network.now + grace)
  if ended then { s with network }
  else
    let network := (network.report name (.taskAborted (.ofMilliseconds grace))).abort task
    { s with
      network
      metrics := { s.metrics with tasksAborted := s.metrics.tasksAborted + 1 } }

def countStopped (s : Supervisor) : Supervisor :=
  { s with metrics := { s.metrics with targetsStopped := s.metrics.targetsStopped + 1 } }

/-- Stops a target and waits for its task. -/
def stopTarget (s : Supervisor) (name : String) : Supervisor :=
  match s.targets.get? name with
  | none => s
  | some target =>
      let s := { s with targets := s.targets.erase name }
      let s := s.onNetwork (·.disconnect target.connection)
      (s.join name target.task s.grace).countStopped

/-! ## Starting targets -/

/-- Starts a target with a new connection that feeds the cache of its name. -/
def startTarget (s : Supervisor) (name : String) (descriptor : TargetDescriptor)
    (request : SubscribeRequest) : Supervisor :=
  let (sink, caches) := s.network.caches.getOrAdd name
  let (connection, network) := { s.network with caches }.addConnection {
    name, descriptor, request, settings := s.settings, sink := .cache sink }
  let (task, network) := network.spawn connection 0
  { s with
    network
    targets := s.targets.insert name { connection, task }
    metrics := { s.metrics with targetsStarted := s.metrics.targetsStarted + 1 } }

/-! ## Applying a configuration -/

/-- The supervised targets that a configuration does not name. -/
def departed (s : Supervisor) (c : TargetConfiguration) : List String :=
  s.targets.keys.filter fun name => !c.targets.contains name

/-- Whether a connection serves a target as it is configured. -/
def serves (s : Supervisor) (target : SupervisedTarget) (d : TargetDescriptor)
    (request : SubscribeRequest) : Bool :=
  match s.network.connections[target.connection]? with
  | none => false
  | some conn => conn.isFor d && conn.request == request

/-- Stops a target that is no longer configured and removes its cache. -/
def removeTarget (s : Supervisor) (name : String) : Supervisor :=
  let s := s.stopTarget name
  s.onNetwork fun network =>
    { network with caches := (network.caches.remove name).2 }.report name .targetRemoved

/-- Brings one configured target up to date. -/
def reconcile (c : TargetConfiguration) (state : Supervisor × ApplySummary)
    (target : String × TargetDescriptor) :
    Except GatewayError (Supervisor × ApplySummary) :=
  let (s, summary) := state
  let (name, descriptor) := target
  match c.requestFor? descriptor with
  | none => .error (.ofFault (.unusableRequest name))
  | some request =>
      match s.targets.get? name with
      | some existing =>
          if s.serves existing descriptor request then
            .ok (s, { summary with kept := summary.kept ++ [name] })
          else
            let s := (s.stopTarget name).onNetwork (·.report name .targetChanged)
            .ok (s.startTarget name descriptor request,
              { summary with replaced := summary.replaced ++ [name] })
      | none =>
          let s := s.onNetwork (·.report name .targetAdded)
          .ok (s.startTarget name descriptor request,
            { summary with added := summary.added ++ [name] })

/-- Brings configured targets up to date, one after the other.  The first for which this cannot be
done ends it, and what was done before stays done. -/
def reconcileAll (c : TargetConfiguration) :
    Supervisor × ApplySummary → List (String × TargetDescriptor) →
      Except GatewayError ApplySummary × Supervisor
  | (s, summary), [] => (.ok summary, s)
  | state, target :: rest =>
      match reconcile c state target with
      | .error e => (.error e, state.1)
      | .ok next => reconcileAll c next rest

/-- Brings the targets in line with a configuration. A configuration with faults changes nothing. -/
def apply (s : Supervisor) (c : TargetConfiguration) :
    Except GatewayError ApplySummary × Supervisor :=
  match c.fault? with
  | some fault => (.error (.ofFault fault), s)
  | none =>
      let s := { s with metrics := { s.metrics with applies := s.metrics.applies + 1 } }
      let gone := s.departed c
      reconcileAll c (gone.foldl removeTarget s, { removed := gone }) c.targets.entries

/-- Stops all targets; they share one grace period. -/
def shutdown (s : Supervisor) : Supervisor :=
  let targets := s.targets.entries
  let s := s.onNetwork (·.report "" .shuttingDown)
  let s := s.onNetwork fun network =>
    targets.foldl (fun network t => network.disconnect t.2.connection) network
  let deadline := s.network.now + s.grace
  targets.foldl
    (fun s t => (s.join t.1 t.2.task (deadline - s.network.now)).countStopped)
    { s with targets := ∅ }

/-! ## Looking at a supervisor -/

/-- The status of every supervised target, in the order of their names. -/
def status (s : Supervisor) : List ConnectionStatus :=
  s.targets.values.filterMap fun t => (s.network.connections[t.connection]?).map (·.status)

/-- The number of the connection of a supervised target. -/
def connection? (s : Supervisor) (name : String) : Option Nat :=
  (s.targets.get? name).map (·.connection)

end Supervisor

end TelemetryGateway
