import Mathlib.Data.List.Infix
import TelemetryGateway.Network.DeviceSide
import TelemetryGateway.Proofs.Network.Bookkeeping
import TelemetryGateway.Proofs.Network.Finality

/-!
# What an attempt to connect leaves behind

An attempt to connect can end in many ways: the connection is stopped already, there is no query,
the dial is refused, takes too long or is abandoned, the link is closed by the device, by a bad
message or by somebody who reconnects.  Each of them has to leave the connection so that the next
attempt can begin.

`Attempted` is what is known inside an attempt: the phase suits the point of its task, and nothing
has happened to the connection and its sink before there is a link.  An attempt keeps that as long
as no other one is under way (`Network.IsOnlyAttempt`), whatever else happens; at its end it gives
what is left behind.

* `Attempted.resume`, `Attempted.conclude`: a move inside the attempt, and the move that ends it;
* `Network.Attempts.after`: what any act keeps;
* `Network.return_cleans_up`: the whole, for every way in which an attempt can end;
* `Network.link_of_failed_attempt`: after an attempt that was taken away, or beside another one, a
  link stays.
-/

namespace TelemetryGateway

/-! ## Moves -/

namespace Phase

variable {p : Phase}

theorem phase_lose (h : p.isStreaming = true) :
    p.lose.phase = if p.isStopped then .stopped else .disconnected := by
  cases p <;> first | rfl | cases h

/-- At rest, only a stopped connection refuses a dial. -/
theorem eq_stopped_of_refused (h : p.isResting = true) (hnext : p.next .dialStarted = none) :
    p = .stopped := by
  cases p <;> simp_all [isResting, next]

theorem calls_lose_of_isDialing (h : p.isDialing = true) : p.lose.calls = [] := by
  rw [calls_lose_eq, ownsCacheState_of_isDialing h]
  rfl

end Phase

/-- Only inside an attempt to connect a task has a link. -/
theorem Point.link?_of_not_isUnderWay {p : Point} (h : p.isUnderWay = false) : p.link? = none := by
  cases p <;> first | rfl | cases h

namespace Task

variable {t : Task} {c : Connection} (reply : Reply)

/-- A task that is inside no attempt to connect says nothing, and changes neither the phase nor the
link of its connection unless it begins one. -/
theorem resume_of_not_isUnderWay (h : t.point.isUnderWay = false) :
    Output.calls (t.resume c reply).outputs = [] ∧
      ((t.resume c reply).task.point.isUnderWay = false →
        (t.resume c reply).connection.phase = c.phase ∧
          (t.resume c reply).connection.client = c.client) := by
  fun_cases Task.resume t c reply
  all_goals simp_all +zetaDelta [Point.isUnderWay, Point.isConnecting, Output.call?]
  -- the loop is over
  split <;> split <;> simp [Output.call?]

/-- Inside an attempt to connect a task keeps its link. -/
theorem link?_resume_of_isConnecting {l : Nat} (hlink : t.point.link? = some l) :
    (t.resume c reply).task.point.isConnecting = true →
      (t.resume c reply).task.point.link? = some l := by
  fun_cases Task.resume t c reply
  all_goals simp_all +zetaDelta [giveUp, Point.link?]

/-- An attempt to connect does not begin again. -/
theorem connection_resume_of_starting (h : t.point.isConnecting = true) :
    (t.resume c reply).task.point = .starting →
      t.point = .starting ∧ (t.resume c reply).connection = c := by
  fun_cases Task.resume t c reply
  all_goals simp_all +zetaDelta [giveUp, conclude, Point.isConnecting]
  -- an attempt has ended
  all_goals split <;> simp

/-- An attempt to connect that ends without a link has failed; else its connection forgets the
link. -/
theorem resume_of_end (h : t.point.isConnecting = true) :
    (t.resume c reply).task.point.isConnecting = false →
      ((t.resume c reply).task = t.conclude .failed ∧ t.point.link? = none) ∨
        ((t.resume c reply).task = t.conclude .established ∧
          (t.resume c reply).connection.client = none ∧ ∃ l, t.point = .closing l) := by
  fun_cases Task.resume t c reply
  all_goals simp_all +zetaDelta [giveUp, Point.isConnecting, Point.link?]

end Task

/-- What is known of a connection for a task inside an attempt to connect that has made the given
calls; `client` is the link that the connection knew before. -/
structure Attempted (client : Option Nat) (p : Point) (c : Connection) (calls : List SinkCall) :
    Prop where
  resting : p = .starting → c.phase.isResting = true
  suits : p.suits c.phase = true
  untouched : p.link? = none → c.client = client ∧ calls = []

namespace Attempted

variable {client : Option Nat} {t : Task} {p : Point} {c c' : Connection} {calls : List SinkCall}
  (reply : Reply)

theorem begin (h : c.phase.isResting = true) : Attempted c.client .starting c [] :=
  ⟨fun _ => h, rfl, fun _ => ⟨rfl, rfl⟩⟩

theorem of_eq (h : Attempted client p c calls) (hphase : c'.phase = c.phase)
    (hclient : c'.client = c.client) : Attempted client p c' calls :=
  ⟨fun hpoint => hphase ▸ h.resting hpoint, hphase ▸ h.suits,
    fun hlink => hclient ▸ h.untouched hlink⟩

theorem stop (h : Attempted client p c calls) : Attempted client p c.stop calls :=
  ⟨fun hpoint => Phase.isResting_stop (h.resting hpoint), Point.suits_stop h.suits, h.untouched⟩

/-- Without a link there is nothing to tell, and nothing to know. -/
theorem untouched_resume (h : Attempted client t.point c calls)
    (hconnecting : t.point.isConnecting = true) (hlink : t.point.link? = none) :
    (t.resume c reply).connection.client = client ∧
      calls ++ Output.calls (t.resume c reply).outputs = [] := by
  have hsuits := h.suits
  obtain ⟨rfl, rfl⟩ := h.untouched hlink
  fun_cases Task.resume t c reply
  all_goals simp_all +zetaDelta [Task.giveUp, Point.isConnecting, Point.link?, Point.suits,
    Output.call?, Phase.calls_lose_of_isDialing]

/-- A move inside the attempt. -/
theorem resume (h : Attempted client t.point c calls) (hbefore : t.point.isConnecting = true)
    (hafter : (t.resume c reply).task.point.isConnecting = true) :
    Attempted client (t.resume c reply).task.point (t.resume c reply).connection
      (calls ++ Output.calls (t.resume c reply).outputs) where
  resting hpoint := by
    obtain ⟨hstarting, hsame⟩ := Task.connection_resume_of_starting reply hbefore hpoint
    rw [hsame]
    exact h.resting hstarting
  suits := Task.suits_resume reply h.suits
  untouched hnone := by
    refine h.untouched_resume reply hbefore ?_
    cases hlink : t.point.link? with
    | none => rfl
    | some l =>
        rw [Task.link?_resume_of_isConnecting reply hlink hafter] at hnone
        cases hnone

/-- Every way out of an attempt leaves the phase from which the next one can begin, or the one that
is final. -/
theorem phase_resume (h : Attempted client t.point c calls)
    (hbefore : t.point.isConnecting = true) :
    (t.resume c reply).task.point.isConnecting = false →
      (t.resume c reply).connection.phase =
        if c.phase.isStopped then .stopped else .disconnected := by
  obtain ⟨hresting, hsuits, -⟩ := h
  fun_cases Task.resume t c reply
  all_goals simp_all +zetaDelta [Task.giveUp, Point.isConnecting, Point.suits, Phase.phase_lose,
    Phase.isStreaming_of_isDialing]
  -- the dial has not begun
  have hstopped : c.phase = .stopped := Phase.eq_stopped_of_refused hresting ‹_›
  rw [hstopped]
  exact fun _ => rfl

/-- The move that ends the attempt. -/
theorem conclude (h : Attempted client t.point c calls) (hbefore : t.point.isConnecting = true)
    (hend : (t.resume c reply).task.point.isConnecting = false) :
    ∃ outcome, (t.resume c reply).task = t.conclude outcome ∧
      (outcome = .failed → t.point.link? = none ∧
        (t.resume c reply).connection.client = client ∧
        calls ++ Output.calls (t.resume c reply).outputs = []) ∧
      (outcome = .established →
        (t.resume c reply).connection.client = none ∧ ∃ l, t.point = .closing l) := by
  rcases Task.resume_of_end reply hbefore hend with ⟨htask, hlink⟩ | ⟨htask, hestablished⟩
  · exact ⟨.failed, htask, fun _ => ⟨hlink, h.untouched_resume reply hbefore hlink⟩, nofun⟩
  · exact ⟨.established, htask, nofun, fun _ => hestablished⟩

end Attempted

namespace Task

/-- A task has come out of an attempt with an outcome.  A single attempt returns it; a loop goes on
at once after a subscription, and rests after a failure. -/
structure ComesTo (before after : Task) (outcome : ConnectOutcome) : Prop where
  /-- Nothing differs but the point. -/
  others : after = { before with point := after.point }
  single : before.isLoop = false → after.point = .finished (.attempt outcome)
  established : before.isLoop = true → outcome = .established → after.point = .checking
  failed : before.isLoop = true → outcome = .failed → after.point = .pausing

theorem comesTo_conclude (t : Task) (outcome : ConnectOutcome) :
    t.ComesTo (t.conclude outcome) outcome where
  others := rfl
  single hloop := by simp [conclude, hloop]
  established hloop houtcome := by simp [conclude, hloop, houtcome]
  failed hloop houtcome := by simp [conclude, hloop, houtcome]

end Task

/-! ## Attempts in a run -/

namespace Network

variable {s : Network} {a : Act} {t c : Nat} {client : Option Nat} {calls : List SinkCall}

/-- A task is inside an attempt to connect, and no other one of the connection is inside one that
has begun. -/
structure IsOnlyAttempt (s : Network) (t c : Nat) : Prop where
  isConnecting : ∃ d : Driver, s.drivers[t]? = some d ∧ d.connection = c ∧
    d.task.point.isConnecting = true
  others : ∀ (u : Nat) (d : Driver), s.drivers[u]? = some d → d.connection = c → u ≠ t →
    d.task.point.isUnderWay = false

instance : Decidable (s.IsOnlyAttempt t c) :=
  decidable_of_iff
    ((s.drivers[t]?.any fun d => d.connection == c && d.task.point.isConnecting) = true ∧
      ∀ u < s.drivers.length, u ≠ t →
        (s.drivers[u]?.all fun d => d.connection != c || !d.task.point.isUnderWay) = true) <| by
    constructor
    · rintro ⟨hconnecting, hothers⟩
      constructor
      · obtain ⟨d, hd, h⟩ := (Option.any_eq_true _ _).mp hconnecting
        exact ⟨d, hd, by simpa using h⟩
      · intro u d hd hc hu
        have h := hothers u (List.getElem?_eq_some_iff.mp hd).1 hu
        simpa [hd, hc] using h
    · rintro ⟨⟨d, hd, hc, hconnecting⟩, hothers⟩
      refine ⟨by simp [hd, hc, hconnecting], fun u hu hne => ?_⟩
      have hd' := List.getElem?_eq_getElem hu
      by_cases hc' : s.drivers[u].connection = c
      · simp [hd', hothers u _ hd' hc' hne]
      · simp [hd', hc']

/-- What is known of an attempt that a task makes for a connection. -/
def Attempts (s : Network) (t c : Nat) (client : Option Nat) (calls : List SinkCall) : Prop :=
  ∃ (d : Driver) (conn : Connection), s.drivers[t]? = some d ∧ d.connection = c ∧
    s.connections[c]? = some conn ∧ Attempted client d.task.point conn calls

theorem Attempts.after (h : s.Attempts t c client calls) (hbefore : s.IsOnlyAttempt t c)
    (hafter : (s.after a).IsOnlyAttempt t c) :
    (s.after a).Attempts t c client (calls ++ Handover.callsOf c (s.handovers a)) := by
  obtain ⟨d, conn, hd, hc, hconn, hattempted⟩ := h
  obtain ⟨conn', hconn', hchange⟩ := exists_connectionAfter (a := a) hconn
  obtain ⟨⟨d₀, hd₀, -, hconnecting⟩, hidle⟩ := hbefore
  obtain ⟨⟨d', hd', hc', hconnecting'⟩, hidle'⟩ := hafter
  obtain rfl := Option.some_inj.mp (hd₀.symm.trans hd)
  have hlt := (List.getElem?_eq_some_iff.mp hd).1
  refine ⟨d', conn', hd', hc', hconn', ?_⟩
  cases driverAfter hd' with
  | same hold hstays =>
      obtain rfl := Option.some_inj.mp (hold.symm.trans hd)
      cases hchange with
      | same hothers =>
          rcases s.callsOf_handovers (a := a) (c := c) with hquiet | ⟨u, m, hact, hmove, hmc, -⟩
          · rwa [hquiet, List.append_nil]
          · exact absurd hmc (hothers u hact m hmove)
      | stop hact =>
          subst hact
          simpa [handovers] using hattempted.stop
      | @move u m hact hmove hmc =>
          -- another task moves, and is under way neither before nor after
          subst hact hmc
          have hu : u ≠ t := by
            rintro rfl
            rw [hstays rfl] at hmove
            cases hmove
          obtain ⟨he, -, reply, -, hm⟩ := nextMove?_eq_some hmove
          obtain rfl := connection_eq_of_move hmove rfl hconn
          have hwas : m.entry.task.point.isUnderWay = false :=
            hidle u _ (getElem?_drivers he) rfl hu
          have his : m.move.task.point.isUnderWay = false :=
            hidle' u _ (driver_after_step hmove) rfl hu
          rw [callsOf_handovers_step hmove]
          rw [hm] at his ⊢
          obtain ⟨hquiet, hsame⟩ := Task.resume_of_not_isUnderWay reply hwas
          obtain ⟨hphase, hclient⟩ := hsame his
          rw [hquiet, List.append_nil]
          exact hattempted.of_eq hphase hclient
  | @move m hact hmove =>
      subst hact
      obtain ⟨he, -, reply, -, hm⟩ := nextMove?_eq_some hmove
      obtain rfl := Option.some_inj.mp ((getElem?_drivers he).symm.trans hd)
      subst hc
      obtain rfl := connection_eq_of_move hmove rfl hconn
      obtain rfl := Option.some_inj.mp (hconn'.symm.trans (connection_after_step hmove))
      rw [show Handover.callsOf m.entry.driver.connection _ = _ from callsOf_handovers_step hmove]
      rw [hm] at hconnecting' ⊢
      exact hattempted.resume reply hconnecting hconnecting'
  | taken => cases hconnecting'
  | loop ht => omega
  | attempt ht => omega

/-- An attempt in a run in which no other one is under way. -/
theorem attempts_afterAll {acts : List Act} (hstart : s.Attempts t c client [])
    (halone : ∀ first, first <+: acts → (s.afterAll first).IsOnlyAttempt t c) :
    (s.afterAll acts).Attempts t c client (Handover.callsOf c (s.history acts)) := by
  induction acts using List.reverseRecOn with
  | nil => exact hstart
  | append_singleton acts a ih =>
      have hbefore := halone acts (List.prefix_append acts [a])
      have hafter := halone (acts ++ [a]) (List.prefix_refl _)
      rw [afterAll_concat] at hafter ⊢
      rw [history_concat, Handover.callsOf_append]
      exact (ih fun first hfirst => halone first (hfirst.trans (List.prefix_append _ _))).after
        hbefore hafter

/-- A task reads a link, or is about to. -/
def HasLink (s : Network) (t l : Nat) : Prop :=
  ∃ d : Driver, s.drivers[t]? = some d ∧ d.task.point.link? = some l

theorem HasLink.after {l : Nat} (h : s.HasLink t l) (hafter : (s.after a).IsOnlyAttempt t c) :
    (s.after a).HasLink t l := by
  obtain ⟨d, hd, hlink⟩ := h
  obtain ⟨⟨d', hd', -, hconnecting⟩, -⟩ := hafter
  have hlt := (List.getElem?_eq_some_iff.mp hd).1
  refine ⟨d', hd', ?_⟩
  cases driverAfter hd' with
  | same hold =>
      obtain rfl := Option.some_inj.mp (hold.symm.trans hd)
      exact hlink
  | @move m hact hmove =>
      obtain ⟨he, -, reply, -, hm⟩ := nextMove?_eq_some hmove
      obtain rfl := Option.some_inj.mp ((getElem?_drivers he).symm.trans hd)
      rw [hm] at hconnecting ⊢
      exact Task.link?_resume_of_isConnecting reply hlink hconnecting
  | taken => cases hconnecting
  | loop ht => omega
  | attempt ht => omega

/-- A link that a task has got within an attempt stays with it until the attempt ends. -/
theorem hasLink_afterAll {l : Nat} {first rest : List Act} (h : (s.afterAll first).HasLink t l)
    (halone : ∀ begun, begun <+: first ++ rest → (s.afterAll begun).IsOnlyAttempt t c) :
    (s.afterAll (first ++ rest)).HasLink t l := by
  induction rest using List.reverseRecOn with
  | nil => rwa [List.append_nil]
  | append_singleton rest a ih =>
      rw [← List.append_assoc] at halone ⊢
      have hafter := halone _ (List.prefix_refl _)
      rw [afterAll_concat] at hafter ⊢
      exact (ih fun begun h => halone begun (h.trans (List.prefix_append _ _))).after hafter

/-- The end of an attempt: what its outcome is, and what becomes of the connection. -/
theorem Attempts.conclude {m : NextMove} (h : s.Attempts t c client calls)
    (halone : s.IsOnlyAttempt t c) (hmove : s.nextMove? t = some m)
    (hend : m.move.task.point.isConnecting = false) :
    ∃ (outcome : ConnectOutcome) (conn : Connection), s.connections[c]? = some conn ∧
      m.move.task = m.entry.task.conclude outcome ∧
      (s.after (.step t)).connections[c]? = some m.move.connection ∧
      m.move.connection.phase = (if conn.phase.isStopped then .stopped else .disconnected) ∧
      (outcome = .failed → (∀ l, ¬ s.HasLink t l) ∧ m.move.connection.client = client ∧
        calls ++ Handover.callsOf c (s.handovers (.step t)) = []) ∧
      (outcome = .established → m.move.connection.client = none ∧
        ∃ (d : Driver) (l : Nat), s.drivers[t]? = some d ∧ d.task.point = .closing l) := by
  obtain ⟨d, conn, hd, hc, hconn, hattempted⟩ := h
  obtain ⟨he, -, reply, -, hm⟩ := nextMove?_eq_some hmove
  obtain rfl : m.entry.driver = d := Option.some_inj.mp ((getElem?_drivers he).symm.trans hd)
  have hmc : m.entry.connection = c := hc
  subst hmc
  obtain rfl := connection_eq_of_move hmove rfl hconn
  have hconnecting : m.entry.task.point.isConnecting = true := by
    obtain ⟨⟨d, hd', -, h⟩, -⟩ := halone
    obtain rfl := Option.some_inj.mp (hd'.symm.trans hd)
    exact h
  have hend' : (m.entry.task.resume m.connection reply).task.point.isConnecting = false := hm ▸ hend
  have hattempted : Attempted client m.entry.task.point m.connection calls := hattempted
  obtain ⟨outcome, htask, hfailed, hestablished⟩ := hattempted.conclude reply hconnecting hend'
  have hphase := hattempted.phase_resume reply hconnecting hend'
  rw [← hm] at htask hfailed hestablished hphase
  refine ⟨outcome, m.connection, hconn, htask, connection_after_step hmove, hphase,
    fun houtcome => ?_, fun houtcome => ?_⟩
  · obtain ⟨hlink, hclient, hsilent⟩ := hfailed houtcome
    refine ⟨?_, hclient, by rwa [callsOf_handovers_step hmove]⟩
    rintro l ⟨d, hd', hlink'⟩
    obtain rfl := Option.some_inj.mp (hd'.symm.trans hd)
    exact Option.some_ne_none l (hlink'.symm.trans hlink)
  · obtain ⟨hclient, l, hclosing⟩ := hestablished houtcome
    exact ⟨hclient, _, l, hd, hclosing⟩

/-! ## Stops in a run -/

/-- A connection was told to stop when it was there already. -/
def IsToldToStop (s : Network) (c : Nat) (acts : List Act) : Prop :=
  ∃ first rest, acts = first ++ .disconnect c :: rest ∧ c < (s.afterAll first).connections.length

theorem IsToldToStop.concat {acts : List Act} (h : s.IsToldToStop c acts) (a : Act) :
    s.IsToldToStop c (acts ++ [a]) := by
  obtain ⟨first, rest, rfl, hlt⟩ := h
  exact ⟨first, rest ++ [a], by simp, hlt⟩

theorem IsToldToStop.isStopped {acts : List Act} (h : s.IsToldToStop c acts) :
    (s.afterAll acts).IsStopped c := by
  obtain ⟨first, rest, rfl, hlt⟩ := h
  rw [afterAll_append]
  exact (spent_afterAll (settled_disconnect (List.getElem?_eq_getElem hlt)).isStopped 0 rest).1

/-- In every run a connection is stopped exactly if it was told to. -/
theorem isStopped_afterAll_iff (hconnections : s.connections = []) {acts : List Act}
    {conn : Connection} (hconn : (s.afterAll acts).connections[c]? = some conn) :
    conn.phase.isStopped = true ↔ s.IsToldToStop c acts := by
  constructor
  case mpr =>
    intro htold
    obtain ⟨same, hsame, hstop⟩ := htold.isStopped
    obtain rfl := Option.some_inj.mp (hsame.symm.trans hconn)
    exact hstop
  case mp =>
    induction acts using List.reverseRecOn generalizing conn with
    | nil => simp [afterAll, hconnections] at hconn
    | append_singleton acts a ih =>
        intro hstop
        rw [afterAll_concat] at hconn
        cases hold : (s.afterAll acts).connections[c]? with
        | none =>
            obtain ⟨new, -, -, rfl⟩ := eq_fresh_of_new hold hconn
            cases hstop
        | some before =>
            cases connectionAfter hold hconn with
            | same => exact (ih hold hstop).concat a
            | stop hact =>
                exact ⟨acts, [], by rw [hact], (List.getElem?_eq_some_iff.mp hold).1⟩
            | move _ hmove hmc =>
                obtain ⟨-, -, reply, -, hm⟩ := nextMove?_eq_some hmove
                obtain rfl := connection_eq_of_move hmove hmc hold
                rw [hm, Task.isStopped_resume] at hstop
                exact (ih hold hstop).concat a

/-! ## The return -/

/-- Before an attempt to connect a connection knows a link only if a task was taken away. -/
theorem client_of_starting (hclient : s.ClientRead c) (halone : s.IsOnlyAttempt t c) {d : Driver}
    {conn : Connection} (hd : s.drivers[t]? = some d) (hpoint : d.task.point = .starting)
    (hconn : s.connections[c]? = some conn) : conn.client = none ∨ s.HasTaken c := by
  cases hknown : conn.client with
  | none => exact .inl rfl
  | some l =>
      refine .inr ((hclient conn l hconn hknown).resolve_left ?_)
      rintro ⟨u, d', hd', hc, htold⟩
      by_cases hu : u = t
      · subst hu
        obtain rfl := Option.some_inj.mp (hd.symm.trans hd')
        rcases htold with htold | htold <;> rw [hpoint] at htold <;> cases htold
      · have hidle := halone.others u d' hd' hc hu
        rcases htold with htold | htold <;> rw [htold] at hidle <;> cases hidle

/-- When the only attempt to connect has ended, no task of the connection has a link. -/
theorem link?_of_return {m : NextMove} {outcome : ConnectOutcome} (halone : s.IsOnlyAttempt t c)
    (hmove : s.nextMove? t = some m) (htask : m.move.task = m.entry.task.conclude outcome) :
    ∀ (u : Nat) (d : Driver), (s.after (.step t)).drivers[u]? = some d → d.connection = c →
      d.task.point.link? = none := by
  intro u d hd hc
  cases driverAfter hd with
  | same hold hstays =>
      have hu : u ≠ t := by
        rintro rfl
        rw [hstays rfl] at hmove
        cases hmove
      exact Point.link?_of_not_isUnderWay (halone.others u d hold hc hu)
  | @move m' hact hmove' =>
      cases hact
      obtain rfl := Option.some_inj.mp (hmove'.symm.trans hmove)
      rw [htask]
      exact Task.link?_conclude _ _
  | taken hact => cases hact
  | loop => rfl
  | attempt => rfl

/-- A link whose end was read stays closed. -/
theorem isClosed_of_closing {d : Driver} {l : Nat} (h : s.EndsKnown) (hd : s.drivers[t]? = some d)
    (hpoint : d.task.point = .closing l) (a : Act) {session : Session}
    (hsession : session.link = l) : (s.after a).isClosed session = true := by
  obtain ⟨k, hk, hclosed⟩ := h.closing t l d hd hpoint
  obtain ⟨k', hk', hlater⟩ := (linksGrow_after s a).exists_after l k hk
  rw [isClosed, hsession, hk', Option.map_some, Option.getD_some]
  exact hlater.closeRequested hclosed

/-- Every attempt to connect cleans up, whether a loop or somebody else makes it.  It begins in a
phase without a subscription, and no other attempt of the connection is under way until it returns;
apart from that anything may happen before and meanwhile.

However it ends, it leaves the connection without a link, unless it has failed and found one that a
task had left which was taken away; stopped if it was told to stop, and else disconnected, so that
the next dial can start exactly if it was not told to; and a sink that has heard of as many
connections as ends.  No task of the connection has a link any more.

If it has failed, the sink has heard nothing from it, and its task never had a link.  Otherwise its
task had one, and whoever serves that link sees it closed. -/
theorem return_cleans_up (pools : List SlotPool) (locks : LockService) (before during : List Act)
    (t : Nat) (e : TaskEntry) (conn : Connection) (m : NextMove)
    (he : (afterAll { pools, locks } before).tasks[t]? = some e)
    (hpoint : e.task.point = .starting)
    (hconn : (afterAll { pools, locks } before).connections[e.connection]? = some conn)
    (hphase : conn.phase = .idle ∨ conn.phase = .disconnected ∨ conn.phase = .stopped)
    (halone : ∀ first, first <+: during →
      ((afterAll { pools, locks } before).afterAll first).IsOnlyAttempt t e.connection)
    (hmove : ((afterAll { pools, locks } before).afterAll during).nextMove? t = some m)
    (hend : m.move.task.point.isConnecting = false) :
    let start : Network := { pools, locks }
    let s := start.afterAll before
    let last := s.afterAll during
    let now := last.after (.step t)
    let c := e.connection
    let toldToStop := start.IsToldToStop c (before ++ during)
    let calls := Handover.callsOf c (start.history (before ++ during ++ [.step t]))
    ∃ (outcome : ConnectOutcome) (conn' : Connection),
      m.entry.task.ComesTo m.move.task outcome ∧
      now.connections[c]? = some conn' ∧
      (conn'.client = none ∨
        outcome = .failed ∧ conn'.client = conn.client ∧ s.HasTaken c) ∧
      (toldToStop → conn'.phase = .stopped) ∧ (¬ toldToStop → conn'.phase = .disconnected) ∧
      ((conn'.phase.next .dialStarted).isSome = true ↔ ¬ toldToStop) ∧
      calls.count .connect = calls.count .disconnect ∧
      (∀ (u : Nat) (d : Driver), now.drivers[u]? = some d → d.connection = c →
        d.task.point.link? = none) ∧
      (outcome = .failed → Handover.callsOf c (s.history (during ++ [.step t])) = [] ∧
        ∀ (first : List Act) (l : Nat), first <+: during → ¬ (s.afterAll first).HasLink t l) ∧
      (outcome = .established → ∃ l, last.HasLink t l ∧
        ∀ session : Session, session.link = l → now.isClosed session = true) := by
  intro start s last now c toldToStop calls
  have hresting : conn.phase.isResting = true := by
    rcases hphase with h | h | h <;> rw [h] <;> rfl
  have hsame : start.afterAll (before ++ during) = last := afterAll_append _ _ _
  have hlast : last.IsOnlyAttempt t c := halone during (List.prefix_refl _)
  have hattempts : last.Attempts t c conn.client (Handover.callsOf c (s.history during)) :=
    attempts_afterAll ⟨e.driver, conn, getElem?_drivers he, rfl, hconn,
      show Attempted conn.client e.task.point conn [] from hpoint ▸ Attempted.begin hresting⟩ halone
  obtain ⟨outcome, conn₁, hconn₁, htask, hconn', hphase', hfailed, hestablished⟩ :=
    hattempts.conclude hlast hmove hend
  have hstop : conn₁.phase.isStopped = true ↔ toldToStop :=
    isStopped_afterAll_iff rfl (hsame ▸ hconn₁)
  refine ⟨outcome, m.move.connection, htask ▸ m.entry.task.comesTo_conclude outcome, hconn',
    ?client, ?stopped, ?disconnected, ?dials, ?calls, link?_of_return hlast hmove htask, ?failed,
    ?established⟩
  case client =>
    cases outcome with
    | established => exact .inl (hestablished rfl).1
    | failed =>
        have hkept : m.move.connection.client = conn.client := (hfailed rfl).2.1
        have hread : s.ClientRead c := clientRead_afterAll rfl before c
        exact (client_of_starting hread (halone [] List.nil_prefix) (getElem?_drivers he) hpoint
          hconn).imp hkept.trans fun htaken => ⟨rfl, hkept, htaken⟩
  case stopped =>
    intro htold
    rw [hphase', if_pos (hstop.mpr htold)]
  case disconnected =>
    intro htold
    rw [hphase', if_neg (mt hstop.mp htold)]
  case dials =>
    rw [hphase', ← hstop]
    cases conn₁.phase.isStopped <;> simp [Phase.next]
  case calls =>
    refine count_connect_afterAll rfl (by rw [afterAll_concat, hsame]; exact hconn') ?_
    rw [hphase']
    split <;> rfl
  case failed =>
    intro houtcome
    obtain ⟨hunlinked, -, hsilent⟩ := hfailed houtcome
    refine ⟨by rw [history_concat, Handover.callsOf_append, hsilent], ?_⟩
    rintro first l ⟨rest, rfl⟩ hhas
    -- a link that it had had, it would have still
    exact hunlinked l (hasLink_afterAll hhas halone)
  case established =>
    intro houtcome
    obtain ⟨-, d, l, hd, hclosing⟩ := hestablished houtcome
    have hends : last.EndsKnown := endsKnown_afterAll
      (endsKnown_afterAll ⟨by simp [start], by simp [start, drivers]⟩ before) during
    exact ⟨l, ⟨d, hd, by rw [hclosing]; rfl⟩,
      fun session hsession => isClosed_of_closing hends hd hclosing (.step t) hsession⟩

/-- The acts by which an attempt comes to its link, reads a message and is stopped, and reads the
end of the link. -/
def untilStopIsRead : List Act :=
  List.replicate 6 (.step 0) ++ [.send 0 (.response .synced), .step 0, .disconnect 0, .step 0]

/-- What the attempt of a task has come to, once it has returned. -/
def outcome? (s : Network) (t : Nat) : Option ConnectOutcome :=
  s.tasks[t]?.bind fun e =>
    match e.task.point with
    | .finished (.attempt outcome) => some outcome
    | _ => none

/-- Somebody connects without a loop and is stopped after the first message. -/
theorem return_cleans_up_of_stop :
    let start : Network :=
      { pools := [{ capacity := 1, available := 1 }], locks := .registry {} }
    let before : List Act := [.recorder, .connection (.plain "leaf1" (.recorder 0)), .attempt 0]
    let now := ((start.afterAll before).afterAll untilStopIsRead).after (.step 0)
    let calls := Handover.callsOf 0 (start.history (before ++ untilStopIsRead ++ [.step 0]))
    now.outcome? 0 = some .established ∧
      (now.connections[0]?).map (fun c => (c.phase, c.client)) = some (.stopped, none) ∧
      calls = [.connect, .sync, .disconnect, .reset] ∧
      calls.count .connect = calls.count .disconnect ∧
      ∀ session : Session, session.link = 0 → now.isClosed session = true := by
  intro start before now calls
  let s := start.afterAll before
  have hconn : s.connections[0]? = some (.plain "leaf1" (.recorder 0)) := by decide +kernel
  have halone : ∀ first, first <+: untilStopIsRead → (s.afterAll first).IsOnlyAttempt 0 0 := by
    have hinits : ∀ first ∈ untilStopIsRead.inits, (s.afterAll first).IsOnlyAttempt 0 0 := by
      decide +kernel
    exact fun first hfirst => hinits first ((List.mem_inits first _).mpr hfirst)
  have hnext : ((s.afterAll untilStopIsRead).nextMove? 0).map (·.move.task.point.isConnecting) =
      some false := by
    decide +kernel
  obtain ⟨m, hmove, hend⟩ := Option.map_eq_some_iff.mp hnext
  obtain ⟨outcome, conn', -, hconn', hclient, hstopped, -, -, hcount, -, hfailed, hestablished⟩ :=
    return_cleans_up [{ capacity := 1, available := 1 }] (.registry {}) before untilStopIsRead 0
      { connection := 0, task := .attempt } _ m rfl rfl hconn (.inl rfl) halone hmove hend
  cases outcome with
  | failed => exact absurd (hfailed rfl).1 (by decide +kernel)
  | established =>
      have hphase : conn'.phase = .stopped :=
        hstopped ⟨before ++ untilStopIsRead.take 8, [.step 0], rfl, by decide +kernel⟩
      have hnone : conn'.client = none := hclient.resolve_right nofun
      refine ⟨by decide +kernel, by rw [hconn', Option.map_some, hphase, hnone],
        by decide +kernel, hcount, ?_⟩
      obtain ⟨l, ⟨d, hd, hlink⟩, hclosed⟩ := hestablished rfl
      have hlinks : (((s.afterAll untilStopIsRead).drivers[0]?).bind (·.task.point.link?)) =
          some 0 := by
        decide +kernel
      rw [hd, Option.bind_some, hlink] at hlinks
      cases hlinks
      exact hclosed

/-- The acts by which an attempt that has its link is taken away, and its connection is stopped
before somebody connects again. -/
def abandonedAndStopped : List Act :=
  [.recorder, .connection (.plain "leaf1" (.recorder 0)), .attempt 0] ++
    List.replicate 6 (.step 0) ++ [.destroy 0, .disconnect 0, .attempt 0]

/-- The acts by which somebody connects while dials take longer than a connection waits. -/
def slowDial : List Act :=
  [.recorder, .connection (.plain "leaf1" (.recorder 0)), .device { delay := some 20000 },
    .attempt 0]

/-- The acts by which a slow dial is overtaken: dials take no time any more, a second attempt gets
its link, and then the first one has waited long enough. -/
def overtaken : List Act :=
  List.replicate 4 (.step 0) ++ [.device {}, .attempt 0] ++ List.replicate 6 (.step 1) ++
    [.clock 10000]

/-- An attempt that fails leaves its connection with a link if an earlier one was taken away from
its own, and also if another one has begun meanwhile, though no other was under way when it began.
-/
theorem link_of_failed_attempt :
    let start : Network :=
      { pools := [{ capacity := 1, available := 1 }], locks := .registry {} }
    let stopped := start.afterAll abandonedAndStopped
    let stoppedStill := stopped.after (.step 1)
    let dialing := start.afterAll slowDial
    let late := (dialing.afterAll overtaken).after (.step 0)
    (stopped.IsOnlyAttempt 1 0 ∧ stopped.connections.map (·.phase) = [.stopped] ∧
        stoppedStill.outcome? 1 = some .failed ∧
        stoppedStill.connections.map (·.client) = [some 0]) ∧
      dialing.IsOnlyAttempt 0 0 ∧ dialing.connections.map (·.phase) = [.idle] ∧
        late.outcome? 0 = some .failed ∧
        late.connections.map (fun c => (c.phase, c.client)) = [(.disconnected, some 0)] ∧
        late.links.map (·.closeRequested) = [false] := by
  intro start stopped stoppedStill dialing late
  exact ⟨⟨by decide +kernel, by decide +kernel, by decide +kernel, by decide +kernel⟩,
    by decide +kernel, by decide +kernel, by decide +kernel, by decide +kernel, by decide +kernel⟩

end Network

end TelemetryGateway
