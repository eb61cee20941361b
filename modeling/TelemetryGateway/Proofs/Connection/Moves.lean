import TelemetryGateway.Connection.Task
import TelemetryGateway.Proofs.Connection.Transcript

/-!
# The moves of an acquisition loop

What one move of a task can change, whatever the reply to its question is.  A loop is engaged from
the moment it has seen that no other loop drives the connection until it is over.  While it is
engaged, its point limits the phase of the connection (`Point.allows`): between two attempts nothing
is under way, during a dial nothing has arrived, and only a loop that reads a link, or has just read
the end of one, can leave the connection with a sink that believes it connected.

* `Task.resume_of_engaged`: a move keeps the phase within the limits of the point;
* `Task.extends_resume`: the calls of a move continue what the sink was told;
* `Task.KeepsLock.resume`, `Task.unlock_mem_outputs_resume`: a loop has the lock during every
  attempt to connect, and gives it back exactly when it ceases to have it;
* `Task.link?_resume`, `Task.closing_of_resume`: a loop leaves a link only after its end.
-/

namespace TelemetryGateway

/-! ## Calls among the outputs -/

/-- The call to the sink that an output is, if it is one. -/
def Output.call? : Output → Option SinkCall
  | .call c => some c
  | .report _ | .closeLink _ | .dropLink _ | .releaseSlot | .unlock => none

/-- The calls to the sink among some outputs, in their order. -/
def Output.calls (outputs : List Output) : List SinkCall := outputs.filterMap Output.call?

namespace Output

@[simp] theorem calls_nil : calls [] = [] := rfl

@[simp] theorem calls_cons (o : Output) (rest : List Output) :
    calls (o :: rest) = o.call?.toList ++ calls rest := by
  cases o <;> rfl

@[simp] theorem calls_append (first rest : List Output) :
    calls (first ++ rest) = calls first ++ calls rest :=
  List.filterMap_append

theorem calls_map_call (calls : List SinkCall) : Output.calls (calls.map .call) = calls := by
  rw [Output.calls, List.filterMap_map]
  exact List.filterMap_some

theorem calls_map_report (occurrences : List Occurrence) :
    calls (occurrences.map .report) = [] := by
  rw [calls, List.filterMap_map]
  exact List.filterMap_eq_nil_iff.mpr fun _ _ => rfl

@[simp] theorem calls_outputs (r : Reaction) : calls r.outputs = r.calls := by
  rw [Reaction.outputs, calls_append, calls_map_call, calls_map_report, List.append_nil]

end Output

/-- A reaction is seen by the sink and in the journal only; it gives no lock back. -/
@[simp] theorem Reaction.unlock_notMem_outputs (r : Reaction) : .unlock ∉ r.outputs := by
  simp [Reaction.outputs]

/-! ## Points and phases -/

namespace Point

/-- Whether a loop at a point has begun and is not over. -/
def isEngaged : Point → Bool
  | .entering | .finished _ => false
  | _ => true

theorem isFinished_of_isEngaged {p : Point} (h : p.isEngaged = true) : p.isFinished = false := by
  cases p <;> first | rfl | cases h

/-- The phases in which a connection can be while its loop is at a point. -/
def allows : Point → Phase → Bool
  | .checking, p | .takingSlot, p | .takingLock, p | .starting, p | .pausing, p | .resting _, p =>
      p.isResting
  | .preparing, p | .arming _, p | .calling _, p | .dialing _ _ _, p | .opening _, p => p.isDialing
  | .streaming _, p | .closing _, p => p.isStreaming
  | .leaving, p => p == .stopped
  | .entering, _ | .finished _, _ => true

theorem isEngaged_of_isConnecting {p : Point} (h : p.isConnecting = true) : p.isEngaged = true := by
  cases p <;> simp_all [isConnecting, isEngaged]

/-- A task that has a link is inside an attempt to connect. -/
theorem isConnecting_of_link? {p : Point} {l : Nat} (h : p.link? = some l) :
    p.isConnecting = true := by
  cases p <;> simp_all [link?, isConnecting]

theorem allows_stop {p : Point} {q : Phase} (h : p.allows q = true) :
    p.allows q.stop.phase = true := by
  cases p <;> simp_all [allows, Phase.isResting_stop, Phase.isDialing_stop, Phase.isStreaming_stop]
  rfl

/-- The sink believes the target connected only while a loop is inside an attempt to connect. -/
theorem isConnecting_of_ownsCacheState {p : Point} {q : Phase} (hengaged : p.isEngaged = true)
    (hallows : p.allows q = true) (howns : q.ownsCacheState = true) : p.isConnecting = true := by
  cases p <;> cases q <;>
    simp_all [isEngaged, allows, isConnecting, Phase.isResting, Phase.ownsCacheState]

end Point

namespace Phase

theorem eq_stopped_of_isResting {p : Phase} (h : p.isResting = true) (hstop : p.isStopped = true) :
    p = .stopped := by
  cases p <;> simp_all [isResting, isStopped]

/-- A dial that starts opens no session. -/
theorem isDialing_of_next {p q : Phase} (h : p.next .dialStarted = some q) :
    q.isDialing = true := by
  rw [(eq_connecting_of_next h).1]
  rfl

end Phase

/-! ## What a connection keeps -/

namespace Connection

/-- A connection as it is made: nothing has happened to it yet. -/
def fresh (c : Connection) : Connection :=
  { c with phase := .idle, client := none, running := false }

variable {c c' : Connection}

theorem name_eq_of_fresh (h : c'.fresh = c.fresh) : c'.name = c.name := by
  show c'.fresh.name = c.fresh.name
  rw [h]

theorem sink_eq_of_fresh (h : c'.fresh = c.fresh) : c'.sink = c.sink := by
  show c'.fresh.sink = c.fresh.sink
  rw [h]

theorem settings_eq_of_fresh (h : c'.fresh = c.fresh) : c'.settings = c.settings := by
  show c'.fresh.settings = c.fresh.settings
  rw [h]

theorem query_eq_of_fresh (h : c'.fresh = c.fresh) : c'.query = c.query := by
  show c'.fresh.query = c.fresh.query
  rw [h]

end Connection

/-! ## One move -/

namespace Task

variable {t : Task} {c : Connection} (reply : Reply)

@[simp] theorem isLoop_resume : (t.resume c reply).task.isLoop = t.isLoop := by
  fun_cases Task.resume t c reply <;> simp_all +zetaDelta [giveUp, conclude]

theorem fresh_resume : (t.resume c reply).connection.fresh = c.fresh := by
  fun_cases Task.resume t c reply <;> simp_all +zetaDelta [giveUp, Connection.fresh]

/-- A loop that is engaged stays so and the phase stays within the limits of its point, or it is
over and leaves the connection at rest. -/
theorem resume_of_engaged (hloop : t.isLoop = true) (hengaged : t.point.isEngaged = true)
    (hallows : t.point.allows c.phase = true) :
    ((t.resume c reply).task.point.isEngaged = true ∧
        (t.resume c reply).task.point.allows (t.resume c reply).connection.phase = true ∧
        (t.resume c reply).connection.running = c.running) ∨
      ((t.resume c reply).task.point.isEngaged = false ∧
        (t.resume c reply).connection.phase.isResting = true) := by
  fun_cases Task.resume t c reply
  all_goals simp_all +zetaDelta [Point.isEngaged, Point.allows, giveUp, conclude,
    Phase.isResting_lose]
  · -- the loop has seen the stop
    exact Phase.eq_stopped_of_isResting hallows ‹_›
  · -- a slot was granted
    cases hlock : t.hasLock <;> simp_all
  · -- a dial starts
    exact Phase.isDialing_of_next ‹_›
  · -- the dial has given a link
    exact Phase.isStreaming_of_isDialing hallows
  · -- a message has arrived
    rename_i message refuses _ _ _ hreceive
    have := Phase.isStreaming_receive c.name c.settings.rejectionScope refuses message hallows
    rwa [hreceive] at this
  · -- the loop is over
    rfl

/-- A loop that is not engaged says nothing and changes no phase.  It becomes engaged only if no
other loop runs. -/
theorem resume_of_not_engaged (hengaged : t.point.isEngaged = false) :
    Output.calls (t.resume c reply).outputs = [] ∧
      (t.resume c reply).connection.phase = c.phase ∧
      (((t.resume c reply).task.point.isEngaged = false ∧ (t.resume c reply).connection = c) ∨
        (c.running = false ∧ (t.resume c reply).connection.running = true ∧
          (t.resume c reply).task.point = .checking)) := by
  fun_cases Task.resume t c reply <;> simp_all +zetaDelta [Point.isEngaged]

/-- The calls of a move continue what the sink was told. -/
theorem extends_resume (hengaged : t.point.isEngaged = true)
    (hallows : t.point.allows c.phase = true) :
    Extends c.phase.ownsCacheState (t.resume c reply).connection.phase.ownsCacheState
      (Output.calls (t.resume c reply).outputs) := by
  fun_cases Task.resume t c reply
  all_goals simp_all +zetaDelta [Point.isEngaged, Point.allows, giveUp, Output.call?, Extends.nil,
    Phase.extends_lose]
  · -- a dial starts
    rename_i hnext
    rw [Phase.ownsCacheState_of_isResting hallows,
      Phase.ownsCacheState_of_isDialing (Phase.isDialing_of_next hnext)]
    exact Extends.nil false
  · -- the dial has given a link
    split <;> exact Extends.nil _
  · -- a message has arrived
    rename_i message refuses _ error _ hreceive
    have := Phase.extends_receive c.name c.settings.rejectionScope refuses message hallows
    rw [hreceive] at this
    cases error <;> simpa [Output.call?] using this
  · -- the loop is over
    split <;> split <;> exact Extends.nil _

/-! ### The lock -/

/-- A loop has the lock at least while it is inside an attempt to connect, and at most while it is
engaged. -/
structure KeepsLock (t : Task) : Prop where
  hasLock : t.point.isConnecting = true → t.hasLock = true
  isEngaged : t.hasLock = true → t.point.isEngaged = true

theorem KeepsLock.resume (hloop : t.isLoop = true) (h : t.KeepsLock) :
    (t.resume c reply).task.KeepsLock := by
  obtain ⟨hheld, hbegun⟩ := h
  constructor
  · fun_cases Task.resume t c reply
    all_goals simp_all +zetaDelta [Point.isConnecting, giveUp, conclude]
    -- a slot was granted
    cases t.hasLock <;> simp
  · fun_cases Task.resume t c reply
    all_goals simp_all +zetaDelta [Point.isEngaged, giveUp, conclude]

/-- A loop gives the lock back exactly when it ceases to have it. -/
theorem unlock_mem_outputs_resume :
    .unlock ∈ (t.resume c reply).outputs ↔
      t.hasLock = true ∧ (t.resume c reply).task.hasLock = false := by
  fun_cases Task.resume t c reply
  all_goals simp_all +zetaDelta [giveUp, conclude]
  -- a message has arrived
  split <;> simp

/-- Only a loop that has asked for the lock can get it. -/
theorem hasLock_resume :
    (t.resume c reply).task.hasLock = true →
      t.hasLock = true ∨ (t.point = .takingLock ∧ reply = .granted) := by
  fun_cases Task.resume t c reply <;> simp_all +zetaDelta [giveUp, conclude]

theorem hasLock_resume_of_granted (hpoint : t.point = .takingLock) :
    (t.resume c .granted).task.hasLock = true := by
  simp [resume, hpoint]

/-! ### The link -/

theorem point_resume_of_opened {query : Query} {due giveUp link : Nat}
    (hpoint : t.point = .dialing query due giveUp) :
    (t.resume c (.opened link)).task.point = .opening link := by
  simp [resume, hpoint]

/-- A loop leaves its link only after it has read the end of it. -/
theorem link?_resume {link : Nat} (hlink : t.point.link? = some link) :
    (t.resume c reply).task.point.link? = some link ∨ t.point = .closing link := by
  fun_cases Task.resume t c reply <;> simp_all +zetaDelta [Point.link?]

theorem closing_of_resume {link : Nat} :
    (t.resume c reply).task.point = .closing link →
      t.point = .closing link ∨
        ∃ reason refuses, t.point = .streaming link ∧ reply = .event (.closed reason) refuses := by
  fun_cases Task.resume t c reply
  all_goals simp_all +zetaDelta [giveUp, conclude]
  -- a slot was granted, or an attempt has ended
  all_goals split <;> simp

end Task

end TelemetryGateway
