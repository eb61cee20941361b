import TelemetryGateway.Network.Basic

/-!
# Running the network

Ready tasks run one after the other, each until it has to wait or is over.  No task makes another
one ready, so the network settles after one round.  Time stands still while tasks are ready and then
goes from one deadline of a parked task to the next.

Who waits from outside for something to happen comes before the tasks: when the time of the wait is
over, the wait ends before the tasks run whose deadline is the same.
-/

namespace TelemetryGateway.Network

/-! ## Turns -/

/-- Runs a task until it has to wait or is over.  One that is not done when the fuel is used up gets
another turn later. -/
def run : Nat → Network → Nat → Network
  | 0, s, t => { s with ready := s.ready ++ [t] }
  | fuel + 1, s, t =>
      match s.step t with
      | some s => run fuel s t
      | none => if s.isFinished t then s else { s with parked := s.parked ++ [t] }

/-- The number of events that a task could read at once. -/
def backlog (s : Network) (t : Nat) : Nat :=
  ((s.tasks[t]?.bind (·.task.point.link?)).bind (s.links[·]?)).elim 0 (·.buffer.length)

/-- The number of moves of a turn.  Beside the events that it can read a task moves a few times
only: it ends a subscription, dials again and comes to wait on a link that is still empty.  A task
that need not rest between its attempts makes one for each dial that fails, up to a bound. -/
def turnFuel (s : Network) (t : Nat) : Nat := s.backlog t + 16 * min s.device.failing 1024 + 64

def turn (s : Network) (t : Nat) : Network :=
  if s.isFinished t then s
  else if s.taskIs (·.aborted) t then s.destroy t
  else run (s.turnFuel t) s t

def settle (s : Network) : Network :=
  s.ready.foldl turn { s with ready := [] }

/-! ## Time -/

def nextDeadline (s : Network) : Option Nat :=
  (s.parked.filterMap fun t => s.tasks[t]?.bind (·.task.point.deadline?)).min?

/-- Sets the clock and wakes the tasks whose deadline has come. -/
def setClock (s : Network) (now : Nat) : Network :=
  { s with now }.wakeWhere fun e =>
    e.task.point.deadline?.elim false fun deadline => decide (deadline ≤ now)

/-- Lets tasks run and time pass until a condition holds or the limit is reached; tells whether the
condition holds.  Tasks with a deadline at the limit are woken and do not run.  The fuel bounds the
number of deadlines on the way. -/
def passUntil (done : Network → Bool) (limit : Nat) : Nat → Network → Bool × Network
  | 0, s => (done s, s)
  | fuel + 1, s =>
      let s := s.settle
      if done s then (true, s)
      else
        match s.nextDeadline with
        | some deadline =>
            if deadline < limit then passUntil done limit fuel (s.setClock deadline)
            else (false, s.setClock limit)
        | none => (false, s.setClock limit)

/-- Waits for a condition, at most until a time.  Nothing runs if the condition holds already or the
time has come. -/
def waitUntil (s : Network) (done : Network → Bool) (limit : Nat) : Bool × Network :=
  if done s then (true, s)
  else if limit ≤ s.now then (false, s)
  else passUntil done limit (limit - s.now + 2) s

def sleep (s : Network) (duration : Nat) : Network :=
  ((s.waitUntil (fun _ => false) (s.now + duration)).2).settle

end TelemetryGateway.Network
