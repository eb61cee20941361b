import TelemetryGateway.Proofs.Network.Standing
import TelemetryGateway.Proofs.Network.Subscription

/-!
# A stop is final

A connection that somebody has stopped stays stopped, whatever happens afterwards: no message, no
dial that ends, no request to stop or to reconnect and no loop or attempt that is started on it can
change that.  The only thing that its sink hears is the end of the session that was open at the
stop, once the attempt to connect behind it has come to its end.

A loop looks at the phase of its connection before each of its steps, and asks the pool, the lock
and the device for something within a step only.  Between two steps it has not been cleared for any
request (`Point.cleared`), so it makes none after a stop that falls there; a stop within a step lets
this step ask for what it was cleared for, and nothing more.

* `Task.resume_of_isStopped`: what a move comes to on a stopped connection;
* `Network.cleared_prefix`: the requests of a move on a stopped connection were cleared before;
* `Network.settled_afterAll`: phase and calls of a stopped connection, in every run;
* `Network.stop_is_final`: the whole, from the stop on.
-/

namespace TelemetryGateway

/-! ## Requests -/

/-- Whether a question is a request to the pool, to the lock or to the device. -/
def Ask.isRequest : Ask → Bool
  | .slot | .lock | .call _ => true
  | .nothing | .dial _ _ _ | .event _ | .pause | .wake _ | .over => false

namespace Point

/-- Whether a task at a point is within a step: it has looked at the phase of its connection and not
yet made the request that it was cleared for. -/
def isWithinStep : Point → Bool
  | .takingSlot | .takingLock | .calling _ => true
  | _ => false

/-- The requests that a task at a point makes before it looks at the phase of its connection again,
unless it is refused before. -/
def cleared : Point → List Ask
  | .takingSlot => [.slot, .lock]
  | .takingLock => [.lock]
  | .calling query => [.call query]
  | _ => []

/-- Whether a task at a point is inside an attempt to connect that the connection knows of. -/
def isUnderWay : Point → Bool
  | .starting => false
  | p => p.isConnecting

theorem cleared_of_not_isWithinStep {p : Point} (h : p.isWithinStep = false) : p.cleared = [] := by
  cases p <;> first | rfl | cases h

theorem isWithinStep_of_isRequest {p : Point} (h : p.ask.isRequest = true) :
    p.isWithinStep = true := by
  cases p <;> first | rfl | cases h

end Point

/-! ## Moves on a stopped connection -/

namespace Phase

/-- A connection that is told to stop is stopping if its sink knows of it, and else stopped. -/
theorem stop_eq (p : Phase) :
    p.stop.phase = if p.ownsCacheState then .stopping else .stopped := by
  cases p <;> rfl

/-- A second request to stop changes nothing. -/
theorem stop_of_isStopped {p : Phase} (h : p.isStopped = true) : p.stop.phase = p := by
  cases p <;> first | rfl | cases h

theorem ownsCacheState_of_not_isStopped {p : Phase} (h : p.isStopped = false) :
    p.ownsCacheState = p.isConnected := by
  cases p <;> simp_all [isStopped, ownsCacheState, isConnected]

theorem calls_lose_eq (p : Phase) :
    p.lose.calls = if p.ownsCacheState then [.disconnect, .reset] else [] := by
  cases p <;> rfl

theorem lose_of_isStopped {p : Phase} (h : p.isStopped = true) : p.lose.phase = .stopped := by
  cases p <;> first | rfl | cases h

theorem next_dialStarted_of_isStopped {p : Phase} (h : p.isStopped = true) :
    p.next .dialStarted = none := by
  cases p <;> first | rfl | cases h

end Phase

namespace Task

variable {t : Task} {c : Connection} (reply : Reply)

/-- Whether a task has ended an attempt to connect, of which its connection knows, when it goes on
as another. -/
def endsAttempt (t next : Task) : Bool := t.point.isUnderWay && !next.point.isConnecting

@[simp] theorem isConnecting_conclude (t : Task) (outcome : ConnectOutcome) :
    (t.conclude outcome).point.isConnecting = false := by
  cases hloop : t.isLoop <;> cases outcome <;> simp [conclude, hloop, Point.isConnecting]

/-- On a stopped connection a move changes the phase and says something only if it ends an attempt
to connect. -/
theorem resume_of_isStopped (hstop : c.phase.isStopped = true) :
    (t.resume c reply).connection.phase =
        (if t.endsAttempt (t.resume c reply).task then .stopped else c.phase) ∧
      Output.calls (t.resume c reply).outputs =
        if t.endsAttempt (t.resume c reply).task && c.phase.ownsCacheState then
          [.disconnect, .reset] else [] := by
  unfold endsAttempt
  fun_cases Task.resume t c reply
  -- an attempt that is over is inside none any more
  all_goals simp_all +zetaDelta only [giveUp, isConnecting_conclude]
  all_goals simp_all [Point.isUnderWay, Point.isConnecting, Phase.lose_of_isStopped,
    Phase.calls_lose_eq, Phase.receive, Output.call?]
  · -- no dial starts on a stopped connection
    simp_all [Phase.next_dialStarted_of_isStopped hstop]
  · -- a message is ignored
    rename_i hreaction
    obtain ⟨rfl, rfl⟩ := hreaction
    exact ⟨rfl, rfl, rfl⟩
  · -- the loop is over
    constructor <;> split <;> rfl
  · -- the reply does not answer what the task has asked
    cases t.point <;> simp

@[simp] theorem cleared_conclude (t : Task) (outcome : ConnectOutcome) :
    (t.conclude outcome).point.cleared = [] := by
  cases hloop : t.isLoop <;> cases outcome <;> simp [conclude, hloop, Point.cleared]

/-- On a stopped connection no task begins a step. -/
theorem cleared_resume (hstop : c.phase.isStopped = true) (hpoint : t.point.isWithinStep = false) :
    (t.resume c reply).task.point.cleared = [] := by
  have hsame := Point.cleared_of_not_isWithinStep hpoint
  fun_cases Task.resume t c reply
  all_goals simp_all +zetaDelta only [giveUp, cleared_conclude]
  all_goals simp_all [Point.cleared, Point.isWithinStep]

end Task

/-! ## Runs after a stop -/

namespace Network

variable {s answered : Network} {a : Act} {c t : Nat}

/-- The requests of a task in its next move. -/
def requestIn (t : Nat) (s : Network) : Act → List Ask
  | .step u =>
      if u = t then
        ((s.nextMove? t).map fun m => m.entry.task.point.ask).toList.filter Ask.isRequest
      else []
  | _ => []

/-- What a task asks the pool, the lock and the device for in a run. -/
def requests (s : Network) (t : Nat) (acts : List Act) : List Ask :=
  s.collect (requestIn t) acts

/-- Whether a task of a connection ends an attempt to connect in an act. -/
def endsIn (c : Nat) (s : Network) : Act → List Bool
  | .step t =>
      (s.nextMove? t).elim [] fun m =>
        if m.entry.connection = c then [m.entry.task.endsAttempt m.move.task] else []
  | _ => []

/-- Whether an attempt to connect of a connection, of which it knows, ends in a run. -/
def closes (s : Network) (c : Nat) (acts : List Act) : Bool := (s.collect (endsIn c) acts).any id

/-- The requests of a move on a stopped connection were cleared before, and so are those that may
follow. -/
theorem cleared_prefix {e : TaskEntry} {conn : Connection} {reply : Reply}
    (h : s.reply? e conn = some (reply, answered)) (hstop : conn.phase.isStopped = true) :
    [e.task.point.ask].filter Ask.isRequest ++ (e.task.resume conn reply).task.point.cleared <+:
      e.task.point.cleared := by
  cases hwithin : e.task.point.isWithinStep with
  | false =>
      have hnone : e.task.point.ask.isRequest = false := by
        cases hask : e.task.point.ask.isRequest with
        | false => rfl
        | true =>
            rw [Point.isWithinStep_of_isRequest hask] at hwithin
            cases hwithin
      rw [Task.cleared_resume reply hstop hwithin, Point.cleared_of_not_isWithinStep hwithin]
      simp [hnone]
  | true =>
      unfold reply? at h
      cases hpoint : e.task.point with
      | takingSlot =>
          simp only [hpoint, Point.ask] at h
          cases h
          cases (s.takeSlot e.pool).1 <;> cases hlock : e.task.hasLock <;>
            simp [Task.resume, hpoint, hlock, Point.ask, List.filter_cons, Ask.isRequest,
              Point.cleared]
      | takingLock =>
          simp only [hpoint, Point.ask] at h
          split at h
          · cases h
            simp [Task.resume, hpoint, Point.ask, List.filter_cons, Ask.isRequest, Point.cleared]
          · cases h
            split <;>
              simp [Task.resume, hpoint, Point.ask, List.filter_cons, Ask.isRequest, Point.cleared]
      | calling query =>
          simp only [hpoint, Point.ask] at h
          cases h
          simp [Task.resume, hpoint, Point.ask, List.filter_cons, Ask.isRequest, Point.cleared]
      | _ => simp [hpoint, Point.isWithinStep] at hwithin

/-! ### What a task of the connection asks for -/

/-- Since a connection was stopped, a task has asked for nothing but what it was cleared for then,
and is cleared for the rest at most. -/
structure Spent (s : Network) (c t : Nat) (granted requests : List Ask) : Prop where
  absent : s.drivers[t]? = none → requests = []
  cleared : ∀ d : Driver, s.drivers[t]? = some d → d.connection = c →
    requests ++ d.task.point.cleared <+: granted

/-- Whether a connection is stopped. -/
def IsStopped (s : Network) (c : Nat) : Prop :=
  ∃ conn : Connection, s.connections[c]? = some conn ∧ conn.phase.isStopped = true

theorem IsStopped.after (h : s.IsStopped c) (a : Act) : (s.after a).IsStopped c := by
  obtain ⟨conn, hconn, hstop⟩ := h
  obtain ⟨conn', hconn', hchange⟩ := exists_connectionAfter (a := a) hconn
  refine ⟨conn', hconn', ?_⟩
  cases hchange with
  | same => exact hstop
  | stop => exact Phase.isStopped_stop _
  | move _ hmove hmc =>
      obtain ⟨-, -, reply, -, hm⟩ := nextMove?_eq_some hmove
      obtain rfl := connection_eq_of_move hmove hmc hconn
      rw [hm, Task.isStopped_resume, hstop]

theorem nextMove?_of_absent (h : s.drivers[t]? = none) : s.nextMove? t = none := by
  cases hmove : s.nextMove? t with
  | none => rfl
  | some m =>
      rw [getElem?_drivers (nextMove?_eq_some hmove).1] at h
      cases h

theorem requestIn_of_idle (h : a = .step t → s.nextMove? t = none) : requestIn t s a = [] := by
  cases a with
  | step u =>
      by_cases hu : u = t
      · subst hu
        simp [requestIn, h rfl]
      · exact if_neg hu
  | _ => rfl

theorem Spent.after {granted requests : List Ask} (h : s.Spent c t granted requests)
    (hstop : s.IsStopped c) (a : Act) :
    (s.after a).Spent c t granted (requests ++ requestIn t s a) := by
  have habsent (hnone : s.drivers[t]? = none) : requests ++ requestIn t s a = [] := by
    rw [h.absent hnone, requestIn_of_idle fun _ => nextMove?_of_absent hnone, List.append_nil]
  constructor
  case absent =>
    intro hnone
    refine habsent ?_
    cases hd : s.drivers[t]? with
    | none => rfl
    | some d =>
        obtain ⟨d', hd', -⟩ := exists_driver_after (a := a) hd
        rw [hnone] at hd'
        cases hd'
  case cleared =>
    intro d' hd' hc
    cases driverAfter hd' with
    | same hd hidle =>
        rw [requestIn_of_idle hidle, List.append_nil]
        exact h.cleared _ hd hc
    | @move m hact hmove =>
        subst hact
        obtain ⟨he, -, reply, hreply, hm⟩ := nextMove?_eq_some hmove
        obtain ⟨conn, hconn, hstopped⟩ := hstop
        obtain rfl := connection_eq_of_move hmove hc hconn
        have hasked : requestIn t s (.step t) = [m.entry.task.point.ask].filter Ask.isRequest := by
          simp [requestIn, hmove]
        have hbefore := h.cleared _ (getElem?_drivers he) hc
        have hmoved := cleared_prefix hreply hstopped
        rw [hasked, hm, List.append_assoc]
        exact ((List.prefix_append_right_inj requests).mpr hmoved).trans hbefore
    | taken hact hd =>
        rw [requestIn_of_idle (by rw [hact]; exact nofun), List.append_nil]
        exact ((List.prefix_append_right_inj requests).mpr List.nil_prefix).trans
          (h.cleared _ hd hc)
    | loop ht =>
        rw [habsent (List.getElem?_eq_none (Nat.le_of_eq ht))]
        exact List.nil_prefix
    | attempt ht =>
        rw [habsent (List.getElem?_eq_none (Nat.le_of_eq ht))]
        exact List.nil_prefix

/-! ### What becomes of the connection -/

/-- How a connection stands that was stopped in a phase: whether its session has ended since, and
what its sink was told since. -/
structure Settled (s : Network) (c : Nat) (before : Phase) (ended : Bool) (calls : List SinkCall) :
    Prop where
  phase : ∃ conn : Connection, s.connections[c]? = some conn ∧
    conn.phase = if before.ownsCacheState && !ended then .stopping else .stopped
  calls : calls = if before.ownsCacheState && ended then [.disconnect, .reset] else []

theorem Settled.after {before : Phase} {ended : Bool} {calls : List SinkCall}
    (h : s.Settled c before ended calls) (a : Act) :
    (s.after a).Settled c before (ended || (endsIn c s a).any id)
      (calls ++ Handover.callsOf c (s.handovers a)) := by
  obtain ⟨⟨conn, hconn, hphase⟩, hcalls⟩ := h
  have hstop : conn.phase.isStopped = true := by
    rw [hphase]
    split <;> rfl
  obtain ⟨conn', hconn', hchange⟩ := exists_connectionAfter (a := a) hconn
  cases hchange with
  | same hothers =>
      have hquiet : Handover.callsOf c (s.handovers a) = [] := by
        rcases s.callsOf_handovers (a := a) with hnone | ⟨t, m, hact, hmove, hmc, -⟩
        · exact hnone
        · exact absurd hmc (hothers t hact m hmove)
      have hends : endsIn c s a = [] := by
        cases a with
        | step t =>
            cases hmove : s.nextMove? t with
            | none => simp [endsIn, hmove]
            | some m => simp [endsIn, hmove, hothers t rfl m hmove]
        | _ => rfl
      rw [hquiet, hends, List.append_nil, List.any_nil, Bool.or_false]
      exact ⟨⟨conn, hconn', hphase⟩, hcalls⟩
  | stop hact =>
      subst hact
      have hsame : conn.stop.phase = conn.phase := Phase.stop_of_isStopped hstop
      simp only [endsIn, handovers, Handover.callsOf_nil, List.append_nil, List.any_nil,
        Bool.or_false]
      exact ⟨⟨_, hconn', hsame.trans hphase⟩, hcalls⟩
  | @move t m hact hmove hmc =>
      subst hact hmc
      obtain ⟨-, -, reply, -, hm⟩ := nextMove?_eq_some hmove
      obtain rfl := connection_eq_of_move hmove rfl hconn
      obtain ⟨hphase', hcalls'⟩ := Task.resume_of_isStopped (t := m.entry.task) reply hstop
      rw [← hm] at hphase' hcalls'
      have hends : endsIn m.entry.connection s (.step t) =
          [m.entry.task.endsAttempt m.move.task] := by
        simp [endsIn, hmove]
      rw [hends, callsOf_handovers_step hmove]
      -- the sink is told once, by the first attempt that ends
      generalize m.entry.task.endsAttempt m.move.task = ends at hphase' hcalls' ⊢
      have howns : m.connection.phase.ownsCacheState = (before.ownsCacheState && !ended) := by
        rw [hphase]
        cases before.ownsCacheState <;> cases ended <;> rfl
      constructor
      · refine ⟨_, hconn', ?_⟩
        rw [hphase', hphase]
        cases before.ownsCacheState <;> cases ended <;> cases ends <;> rfl
      · rw [hcalls, hcalls', howns]
        cases before.ownsCacheState <;> cases ended <;> cases ends <;> rfl

/-! ### Runs -/

/-- The state of a connection at a stop. -/
theorem settled_disconnect {conn : Connection} (hconn : s.connections[c]? = some conn) :
    (s.disconnect c).Settled c conn.phase false [] := by
  constructor
  · refine ⟨conn.stop, ?_, ?_⟩
    · rw [connections_disconnect, List.getElem?_modify, hconn]
      simp
    · rw [Connection.stop, Phase.stop_eq, Bool.not_false, Bool.and_true]
  · rw [Bool.and_false]
    rfl

theorem Settled.isStopped {before : Phase} {ended : Bool} {calls : List SinkCall}
    (h : s.Settled c before ended calls) : s.IsStopped c := by
  obtain ⟨conn, hconn, hphase⟩ := h.phase
  refine ⟨conn, hconn, ?_⟩
  rw [hphase]
  split <;> rfl

theorem settled_afterAll {before : Phase} (h : s.Settled c before false []) (acts : List Act) :
    (s.afterAll acts).Settled c before (s.closes c acts)
      (Handover.callsOf c (s.history acts)) := by
  induction acts using List.reverseRecOn with
  | nil => exact h
  | append_singleton acts a ih =>
      rw [afterAll_concat, closes, collect_concat, List.any_append, history_concat,
        Handover.callsOf_append]
      exact ih.after a

theorem spent_afterAll (hstop : s.IsStopped c) (t : Nat) (acts : List Act) :
    (s.afterAll acts).IsStopped c ∧ (s.afterAll acts).Spent c t
      ((s.drivers[t]?).elim [] fun d => d.task.point.cleared) (s.requests t acts) := by
  induction acts using List.reverseRecOn with
  | nil =>
      refine ⟨hstop, fun _ => rfl, fun d hd _ => ?_⟩
      rw [show s.drivers[t]? = some d from hd, Option.elim_some]
      exact List.prefix_refl _
  | append_singleton acts a ih =>
      rw [afterAll_concat, requests, collect_concat]
      exact ⟨ih.1.after a, ih.2.after ih.1 a⟩

/-- A second request to stop changes nothing that is not about tasks, links and the journal. -/
theorem connections_disconnect_of_isStopped (h : s.IsStopped c) :
    (s.disconnect c).connections = s.connections := by
  obtain ⟨conn, hconn, hstop⟩ := h
  have hsame : conn.stop = conn := by rw [Connection.stop, Phase.stop_of_isStopped hstop]
  have : Inhabited Connection := ⟨conn⟩
  obtain ⟨hlt, rfl⟩ := List.getElem?_eq_some_iff.mp hconn
  rw [connections_disconnect, List.modify_eq_set, hconn, Option.getD_some, hsame,
    List.set_getElem_self]

/-- A stop is final.  Whatever had happened before a connection was stopped, and whatever happens
afterwards, messages, dials, further requests to stop or to reconnect, new loops and attempts:

* the connection is stopping until an attempt to connect ends if its sink had been told of it, and
  else it is stopped;
* its tasks make no request to the pool, the lock or the device, apart from those that a task which
  was within a step had been cleared for;
* its sink hears `disconnect` and `reset` once if the connection had connected and the attempt
  behind it has ended, and nothing else;
* a further request to stop changes no connection and no sink. -/
theorem stop_is_final (pools : List SlotPool) (locks : LockService) (before during : List Act)
    (c : Nat) (conn : Connection)
    (hconn : (afterAll { pools, locks } before).connections[c]? = some conn) :
    let s := afterAll { pools, locks } before
    let stopped := s.after (.disconnect c)
    let now := stopped.afterAll during
    (∃ conn' : Connection, now.connections[c]? = some conn' ∧
      conn'.phase =
        if conn.phase.ownsCacheState && !stopped.closes c during then .stopping else .stopped) ∧
    (∀ (t : Nat) (e : TaskEntry), now.tasks[t]? = some e → e.connection = c →
      (∀ e₀ : TaskEntry, s.tasks[t]? = some e₀ →
        stopped.requests t during <+: e₀.task.point.cleared ∧
        (e₀.task.point.isWithinStep = false → stopped.requests t during = [])) ∧
      (s.tasks[t]? = none → stopped.requests t during = [])) ∧
    (conn.phase.isStopped = false →
      Handover.callsOf c (stopped.history during) =
        if conn.phase.isConnected && stopped.closes c during then [.disconnect, .reset] else []) ∧
    (now.disconnect c).connections = now.connections ∧
    (now.disconnect c).recorders = now.recorders ∧ (now.disconnect c).caches = now.caches ∧
    now.handovers (.disconnect c) = [] := by
  intro s stopped now
  have hsettled : now.Settled c conn.phase (stopped.closes c during)
      (Handover.callsOf c (stopped.history during)) :=
    settled_afterAll (settled_disconnect hconn) during
  obtain ⟨-, hlocks, hcaches⟩ := disconnect_frame now c
  refine ⟨hsettled.phase, fun t e he hc => ?_, fun hfirst => ?_,
    connections_disconnect_of_isStopped hsettled.isStopped, hlocks, hcaches, rfl⟩
  · have hspent := (spent_afterAll (settled_disconnect hconn).isStopped t during).2
    have hspends := (List.prefix_append _ _).trans (hspent.cleared _ (getElem?_drivers he) hc)
    rw [drivers_disconnect, drivers, List.getElem?_map] at hspends
    refine ⟨fun e₀ he₀ => ?_, fun hnone => ?_⟩
    · rw [he₀, Option.map_some, Option.elim_some] at hspends
      refine ⟨hspends, fun hbetween => ?_⟩
      rw [show e₀.driver.task.point.cleared = [] from
        Point.cleared_of_not_isWithinStep hbetween] at hspends
      exact List.prefix_nil.mp hspends
    · rw [hnone, Option.map_none, Option.elim_none] at hspends
      exact List.prefix_nil.mp hspends
  · rw [← Phase.ownsCacheState_of_not_isStopped hfirst]
    exact hsettled.calls

/-- What may still happen to a connection that was stopped while its loop streams: a message comes,
the loop ends, somebody reconnects and stops again, and another loop and an attempt are started. -/
def afterStop : List Act :=
  [.send 0 (.response .synced), .reconnect 0] ++ List.replicate 4 (.step 0) ++
    [.disconnect 0, .loop 0 0] ++ List.replicate 4 (.step 1) ++ [.attempt 0, .step 2, .step 2]

/-- A synced connection is stopped: its sink hears of the end of the session, and nobody asks for
anything any more. -/
theorem stop_is_final_of_synced :
    let start : Network :=
      { pools := [{ capacity := 1, available := 1 }], locks := .registry {} }
    let s := start.afterAll
      (.recorder :: Act.untilFirstMessage (.plain "leaf1" (.recorder 0)) 0 0 0 .synced)
    let stopped := s.after (.disconnect 0)
    let now := stopped.afterAll afterStop
    s.connections.map (·.phase) = [.synced] ∧
      now.connections.map (·.phase) = [.stopped] ∧
      Handover.callsOf 0 (stopped.history afterStop) = [.disconnect, .reset] ∧
      stopped.requests 0 afterStop = [] ∧ stopped.requests 1 afterStop = [] ∧
      stopped.requests 2 afterStop = [] ∧
      (now.disconnect 0).connections = now.connections := by
  intro start s stopped now
  let conn : Connection :=
    { Connection.plain "leaf1" (.recorder 0) with
      phase := .synced, client := some 0, running := true }
  have hconn : s.connections[0]? = some conn := by decide +kernel
  obtain ⟨-, hrequests, hcalls, hagain, -⟩ := stop_is_final
    [{ capacity := 1, available := 1 }] (.registry {})
    (.recorder :: Act.untilFirstMessage (.plain "leaf1" (.recorder 0)) 0 0 0 .synced) afterStop 0
    conn hconn
  have hcloses : stopped.closes 0 afterStop = true := by decide +kernel
  have hconnections : now.tasks.map (·.connection) = [0, 0, 0] := by decide +kernel
  have hbetween : s.tasks.map (·.task.point.isWithinStep) = [false] := by decide +kernel
  have hsilent (t : Nat) (ht : [0, 0, 0][t]? = some 0) : stopped.requests t afterStop = [] := by
    rw [← hconnections, List.getElem?_map] at ht
    obtain ⟨e, he, hc⟩ := Option.map_eq_some_iff.mp ht
    obtain ⟨hold, hnew⟩ := hrequests t e he hc
    cases he₀ : s.tasks[t]? with
    | none => exact hnew he₀
    | some e₀ =>
        have hmem := List.mem_of_getElem? he₀
        refine (hold e₀ he₀).2 (List.mem_singleton.mp ?_)
        rw [← hbetween]
        exact List.mem_map_of_mem hmem
  refine ⟨by decide +kernel, by decide +kernel, ?_, hsilent 0 rfl, hsilent 1 rfl,
    hsilent 2 rfl, hagain⟩
  rw [hcalls rfl, hcloses]
  rfl

end Network

end TelemetryGateway
