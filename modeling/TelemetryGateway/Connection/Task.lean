import TelemetryGateway.Connection.Basic
import TelemetryGateway.Connection.Lifecycle

/-!
# The tasks of a connection

A connection is driven by tasks: an acquisition loop, which holds a slot and the lock of the target
and keeps a subscription open until the connection is stopped, or a single attempt to connect.

A task is a machine that moves from point to point.  At every point it asks its surroundings for one
thing (`Point.ask`) and goes on with the reply (`Task.resume`); nothing else decides its way.  So
the machine can be studied under any answers, and the network that runs it only has to say how each
question is answered and when the task has to wait.

The loop takes a slot, then the lock, then dials; what it has it keeps until it is stopped.  It
rests after a failed attempt and not after a subscription that has ended.
-/

namespace TelemetryGateway

/-- How an attempt to connect ended: a subscription was opened and is over, or none was opened. -/
inductive ConnectOutcome where
  | established
  | failed
deriving DecidableEq, Inhabited

inductive TaskResult where
  /-- The loop was stopped, or refused because another one was running. -/
  | loop (result : Except GatewayError Unit)
  | attempt (outcome : ConnectOutcome)
  /-- The task was taken away before its end. -/
  | aborted

inductive Point where
  | entering
  | checking
  | takingSlot
  | takingLock
  | starting
  | preparing
  /-- Registers for the stop signal before the dial. -/
  | arming (query : Query)
  | calling (query : Query)
  /-- Waits for the dial, which is answered at `due` and given up at `giveUp`. -/
  | dialing (query : Query) (due giveUp : Nat)
  | opening (link : Nat)
  | streaming (link : Nat)
  | closing (link : Nat)
  /-- Registers for the stop signal before a pause. -/
  | pausing
  | resting (time : Nat)
  | leaving
  | finished (result : TaskResult)

inductive Ask where
  | nothing
  | slot
  | lock
  | call (query : Query)
  | dial (query : Query) (due giveUp : Nat)
  | event (link : Nat)
  /-- The end of a pause that begins now. -/
  | pause
  | wake (time : Nat)
  | over

inductive Reply where
  | proceed
  | granted
  | denied
  /-- The dial has begun, with the times of its answer and its end. -/
  | ringing (due giveUp : Nat)
  | opened (link : Nat)
  | refused (error : GatewayError)
  | timedOut
  /-- The stop signal came during the dial. -/
  | interrupted
  /-- An event of the link, and which notifications the sink refuses at this time. -/
  | event (e : StreamEvent) (refuses : Notification → Bool)
  | restUntil (time : Nat)

inductive Output where
  | call (c : SinkCall)
  | report (o : Occurrence)
  | closeLink (link : Nat)
  /-- Stop reading a link for good. -/
  | dropLink (link : Nat)
  | releaseSlot
  | unlock

structure Task where
  /-- Whether the task is an acquisition loop; else it is a single attempt. -/
  isLoop : Bool
  hasSlot : Bool := false
  hasLock : Bool := false
  point : Point

namespace Point

def ask : Point → Ask
  | .takingSlot => .slot
  | .takingLock => .lock
  | .calling q => .call q
  | .dialing q due giveUp => .dial q due giveUp
  | .streaming link => .event link
  | .pausing => .pause
  | .resting time => .wake time
  | .finished _ => .over
  | _ => .nothing

/-- Whether a task at a point gets the stop signal. -/
def isArmed : Point → Bool
  | .calling _ | .dialing _ _ _ | .resting _ => true
  | _ => false

def isConnecting : Point → Bool
  | .starting | .preparing | .arming _ | .calling _ | .dialing _ _ _ | .opening _ | .streaming _
  | .closing _ => true
  | _ => false

def isFinished : Point → Bool
  | .finished _ => true
  | _ => false

/-- The link that a task at a point reads. -/
def link? : Point → Option Nat
  | .opening link | .streaming link | .closing link => some link
  | _ => none

def deadline? : Point → Option Nat
  | .dialing _ due giveUp => some (min due giveUp)
  | .resting time => some time
  | _ => none

end Point

namespace Task

def loop : Task := { isLoop := true, point := .entering }

def attempt : Task := { isLoop := false, point := .starting }

def conclude (t : Task) (outcome : ConnectOutcome) : Task :=
  { t with
    point :=
      if t.isLoop then
        match outcome with
        | .established => .checking
        | .failed => .pausing
      else .finished (.attempt outcome) }

end Task

/-- What one move of a task comes to: the connection and the task after it, and what it does. -/
structure Move where
  connection : Connection
  task : Task
  outputs : List Output := []

namespace Reaction

/-- What a reaction does, the calls before the reports. -/
def outputs (r : Reaction) : List Output :=
  r.calls.map .call ++ r.occurrences.map .report

end Reaction

namespace Task

/-- Ends an attempt to connect: the connection learns that there is no subscription. -/
def giveUp (t : Task) (c : Connection) (outcome : ConnectOutcome) (before : List Output) : Move :=
  let loss := c.phase.lose
  { connection := { c with phase := loss.phase }
    task := t.conclude outcome
    outputs := before ++ loss.outputs }

/-- The move of a task that gets a reply. A reply that does not answer what the task has asked moves
nothing. -/
def resume (t : Task) (c : Connection) (reply : Reply) : Move :=
  let goTo (point : Point) : Move := { connection := c, task := { t with point } }
  match t.point, reply with
  | .entering, .proceed =>
      if c.running then goTo (.finished (.loop (.error (.alreadyRunning c.name))))
      else { goTo .checking with connection := { c with running := true } }
  | .checking, .proceed =>
      if c.phase.isStopped then goTo .leaving
      else if !t.hasSlot then goTo .takingSlot
      else if !t.hasLock then goTo .takingLock
      else goTo .starting
  | .takingSlot, .granted =>
      let point := if t.hasLock then .starting else .takingLock
      { connection := c, task := { t with hasSlot := true, point } }
  | .takingSlot, .denied => goTo .pausing
  | .takingLock, .granted =>
      { connection := c
        task := { t with hasLock := true, point := .starting }
        outputs := [.report .lockAcquired] }
  | .takingLock, .denied => goTo .pausing
  | .starting, .proceed =>
      match c.phase.next .dialStarted with
      | none => { connection := c, task := t.conclude .failed }
      | some phase => { goTo .preparing with connection := { c with phase } }
  | .preparing, .proceed =>
      match c.query with
      | .error e => t.giveUp c .failed [.report (.queryFailed e)]
      | .ok q => { goTo (.arming q) with outputs := [.report .connecting] }
  | .arming q, .proceed =>
      if c.phase.isStopped then t.giveUp c .failed [] else goTo (.calling q)
  | .calling q, .ringing due giveUp => goTo (.dialing q due giveUp)
  | .dialing _ _ _, .opened link => goTo (.opening link)
  | .dialing _ _ _, .refused e => t.giveUp c .failed [.report (.subscribeFailed e)]
  | .dialing _ _ _, .timedOut =>
      let e := .dialTimeout c.name (.ofMilliseconds c.settings.dialTimeout)
      t.giveUp c .failed [.report (.subscribeFailed e)]
  | .dialing _ _ _, .interrupted => t.giveUp c .failed []
  | .opening link, .proceed =>
      { goTo (.streaming link) with
        connection := { c with client := some link }
        outputs := if c.phase.isStopped then [.closeLink link] else [] }
  | .streaming link, .event (.response message) refuses =>
      let (reaction, error) := c.phase.receive c.name c.settings.rejectionScope refuses message
      { connection := { c with phase := reaction.phase }
        task := t
        outputs :=
          reaction.outputs ++
            match error with
            | none => []
            | some e => [.report (.responseFailed e), .closeLink link] }
  | .streaming link, .event (.closed reason) _ =>
      { goTo (.closing link) with outputs := [.report (.subscriptionClosed reason)] }
  | .closing link, .proceed =>
      let move := t.giveUp { c with client := none } .established []
      { move with outputs := move.outputs ++ [.dropLink link] }
  | .pausing, .restUntil time =>
      if c.phase.isStopped then goTo .checking else goTo (.resting time)
  | .resting _, .proceed => goTo .checking
  | .leaving, .proceed =>
      { connection := { c with running := false }
        task := { t with hasSlot := false, hasLock := false, point := .finished (.loop (.ok ())) }
        outputs :=
          (if t.hasSlot then [.releaseSlot] else []) ++
            (if t.hasLock then [.unlock, .report .lockReleased] else []) ++
            [.report .loopStopped] }
  | _, _ => { connection := c, task := t }

end Task

end TelemetryGateway
