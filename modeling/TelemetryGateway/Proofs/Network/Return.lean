import TelemetryGateway.Proofs.Network.Admission
import TelemetryGateway.Proofs.Network.Attunement
import TelemetryGateway.Proofs.Network.Finality
import TelemetryGateway.Proofs.Network.Gates
import TelemetryGateway.Proofs.Network.Wakefulness

/-!
# A stopped loop returns

A loop can be anywhere when its connection is stopped: waiting for a slot or for the lock, in a
pause, in a dial, reading a link.  Each of these waits is ended in its own way.  A pause and a dial
end by the stop signal, a link ends because the stop closes it, and everywhere else the loop looks
at the phase of its connection.

`Network.Dismissed` is what these ways have in common: a loop that has been dismissed never has to
wait for anything, and `Point.movesLeft` bounds the moves that it still makes.  At its return it has
given back what it had, and nobody else notices anything of its last moves (`Network.Moved`).

The stop closes the link that the connection knows.  That this is the link of the loop needs that
nobody has connected beside the loop (`Network.OnlyLoops`): who does writes the own link over the
one of the loop, and then the loop goes on reading after the stop
(`Network.stop_unheard_of_attempt`).

* `Task.movesLeft_resume`: a move on a stopped connection brings the loop nearer to its end;
* `Network.dismissed_disconnect`, `Network.Dismissed.beside`, `Network.Dismissed.step`: a stop
  dismisses the loop, and nothing takes that back;
* `Network.Dismissed.returns`: its next turn is its last one;
* `Network.returns_after_stop`: the whole, from every state that a scheduler can bring about.
-/

namespace TelemetryGateway

/-! ## The last moves of a loop -/

namespace Point

/-- How many moves a loop at a point makes at most, once its connection is stopped. -/
def movesLeft : Point → Nat
  | .finished _ => 0
  | .leaving => 1
  | .checking => 2
  | .entering | .pausing | .resting _ | .closing _ => 3
  | .streaming _ | .starting | .arming _ => 4
  | .preparing | .opening _ | .takingLock => 5
  | .dialing _ _ _ | .takingSlot => 6
  | .calling _ => 7

theorem movesLeft_le (p : Point) : p.movesLeft ≤ 7 := by
  cases p <;> simp [movesLeft]

/-- Whether a reply answers what a task asks at a point, where a link that is read gives nothing but
its end. -/
def isAnsweredBy : Point → Reply → Bool
  | .entering, .proceed | .checking, .proceed | .starting, .proceed | .preparing, .proceed
  | .arming _, .proceed | .opening _, .proceed | .closing _, .proceed | .leaving, .proceed
  | .resting _, .proceed => true
  | .takingSlot, .granted | .takingSlot, .denied | .takingLock, .granted
  | .takingLock, .denied => true
  | .calling _, .ringing _ _ => true
  | .dialing _ _ _, .opened _ | .dialing _ _ _, .refused _ | .dialing _ _ _, .timedOut
  | .dialing _ _ _, .interrupted => true
  | .streaming _, .event (.closed _) _ => true
  | .pausing, .restUntil _ => true
  | _, _ => false

end Point

namespace Task

/-- A loop that has seen the stop and given everything back. -/
def returned : Task := { isLoop := true, point := .finished (.loop (.ok ())) }

variable {t : Task} {c : Connection} (reply : Reply)

/-- A move on a stopped connection brings a loop nearer to its end. -/
theorem movesLeft_resume (hloop : t.isLoop = true) (hengaged : t.point.isEngaged = true)
    (hstop : c.phase.isStopped = true) (hreply : t.point.isAnsweredBy reply = true) :
    (t.resume c reply).task.point.movesLeft < t.point.movesLeft := by
  fun_cases Task.resume t c reply
  all_goals simp_all +zetaDelta [giveUp, conclude, Point.movesLeft, Point.isEngaged,
    Point.isAnsweredBy, Phase.next_dialStarted_of_isStopped]
  -- a slot was granted
  cases t.hasLock <;> simp

/-- A loop that is engaged stays so until it returns. -/
theorem engaged_or_returned_resume (hloop : t.isLoop = true) (hengaged : t.point.isEngaged = true) :
    (t.resume c reply).task.point.isEngaged = true ∨ (t.resume c reply).task = returned := by
  fun_cases Task.resume t c reply
  all_goals simp_all +zetaDelta [giveUp, conclude, Point.isEngaged, returned]
  -- a slot was granted
  cases t.hasLock <;> simp

@[simp] theorem isArmed_conclude (t : Task) (outcome : ConnectOutcome) :
    (t.conclude outcome).point.isArmed = false := by
  cases hloop : t.isLoop <;> cases outcome <;> simp [conclude, hloop, Point.isArmed]

/-- On a stopped connection no task registers for the stop signal any more. -/
theorem isArmed_resume (hstop : c.phase.isStopped = true) :
    (t.resume c reply).task.point.isArmed = true → t.point.isArmed = true := by
  fun_cases Task.resume t c reply
  all_goals simp_all +zetaDelta only [giveUp, isArmed_conclude]
  all_goals simp_all [Point.isArmed]
  -- a slot was granted
  cases t.hasLock <;> simp

/-- On a stopped connection a task that begins to read a link closes it. -/
theorem outputs_of_streaming (hstop : c.phase.isStopped = true)
    (hreply : t.point.isAnsweredBy reply = true) {l : Nat} :
    (t.resume c reply).task.point = .streaming l →
      t.point = .opening l ∧ (t.resume c reply).outputs = [.closeLink l] := by
  fun_cases Task.resume t c reply
  all_goals simp_all +zetaDelta [giveUp, conclude, Point.isAnsweredBy]
  -- a slot was granted, or an attempt has ended
  all_goals split <;> simp

/-- A connection that is stopped is done with once no attempt to connect is under way. -/
theorem phase_resume_of_isStopped (hstop : c.phase.isStopped = true)
    (hphase : t.point.isUnderWay = false → c.phase = .stopped) :
    (t.resume c reply).task.point.isUnderWay = false →
      (t.resume c reply).connection.phase = .stopped := by
  fun_cases Task.resume t c reply
  all_goals simp_all +zetaDelta [giveUp, conclude, Point.isUnderWay, Phase.lose_of_isStopped,
    Point.isConnecting]

end Task

namespace Link

/-- The end of a link that is closed can be read at once, whatever is in its buffer. -/
theorem exists_next?_of_closeRequested {k : Link} (h : k.closeRequested = true) :
    ∃ reason k', k.next? = some (.closed reason, k') := by
  fun_cases next? k
  · exact ⟨_, _, rfl⟩
  · exact ⟨_, _, rfl⟩
  all_goals exact absurd h ‹_›

end Link

namespace Network

variable {s s' : Network} {a : Act} {t l : Nat} {e : TaskEntry} {conn : Connection}

/-! ## What others leave alone -/

/-- A request to stop signals the tasks of the connection that have registered for it. -/
theorem tasks_disconnect {c : Nat} (hconn : s.connections[c]? = some conn) :
    (s.disconnect c).tasks = s.tasks.map fun e =>
      if e.connection == c && e.task.point.isArmed then { e with signalled := true } else e := by
  simp only [disconnect, hconn, foldl_report]
  cases conn.client <;> rfl

theorem now_disconnect (s : Network) (c : Nat) : (s.disconnect c).now = s.now := by
  obtain ⟨tasks, ready, parked, journal, links, heq, -⟩ := s.exists_disconnect c
  rw [heq]

/-- A request to stop closes the link that the connection knows. -/
theorem links_disconnect {c : Nat} (hconn : s.connections[c]? = some conn) :
    (s.disconnect c).links = conn.client.elim s.links fun l => s.links.modify l Link.close := by
  simp only [disconnect, hconn, foldl_report]
  cases conn.client <;> rfl

/-- A task that does not move keeps the stop signal. -/
theorem exists_entry_after (he : s.tasks[t]? = some e) (hstep : a ≠ .step t)
    (hdestroy : a ≠ .destroy t) :
    ∃ e' : TaskEntry, (s.after a).tasks[t]? = some e' ∧ e'.driver = e.driver ∧
      (e.signalled = true → e'.signalled = true) := by
  have hsame : (s.after a).tasks[t]? = some e → ∃ e' : TaskEntry,
      (s.after a).tasks[t]? = some e' ∧ e'.driver = e.driver ∧
        (e.signalled = true → e'.signalled = true) := fun h => ⟨e, h, rfl, id⟩
  cases a with
  | step u =>
      refine hsame ?_
      cases hmove : s.nextMove? u with
      | none => rwa [after_step_of_none hmove]
      | some m =>
          rw [tasks_after_step hmove, List.getElem?_set_ne fun hu => hstep (by rw [hu])]
          exact he
  | destroy u =>
      refine hsame ?_
      cases hu : s.tasks[u]? with
      | none => rwa [after, destroy, hu]
      | some _ =>
          rw [after, tasks_destroy hu, List.getElem?_modify, he]
          simp [show u ≠ t from fun h => hdestroy (by rw [h])]
  | loop c p =>
      refine hsame ?_
      rw [after]
      split
      · exact getElem?_concat_of_getElem? he
      · exact he
  | attempt c =>
      refine hsame ?_
      rw [after]
      split
      · exact getElem?_concat_of_getElem? he
      · exact he
  | connection c =>
      refine hsame ?_
      rw [after]
      split <;> exact he
  | disconnect c =>
      rw [after]
      cases hconn : s.connections[c]? with
      | none => exact ⟨e, by rwa [disconnect, hconn], rfl, id⟩
      | some conn =>
          rw [tasks_disconnect hconn, List.getElem?_map, he, Option.map_some]
          split
          · exact ⟨_, rfl, rfl, fun _ => rfl⟩
          · exact ⟨_, rfl, rfl, id⟩
  | reconnect c =>
      refine hsame ?_
      rw [after, reconnect]
      split
      · exact he
      · split <;> exact he
  | abort u =>
      rw [after, abort, modifyTask, List.getElem?_modify, he, Option.map_eq_map, Option.map_some]
      split
      · exact ⟨_, rfl, rfl, id⟩
      · exact ⟨_, rfl, rfl, id⟩
  | _ => exact hsame he

/-- No act takes a link away or takes back that it is closed. -/
theorem exists_link_after {k : Link} (hk : s.links[l]? = some k) (a : Act) :
    ∃ k' : Link, (s.after a).links[l]? = some k' ∧ k.Later k' := by
  have hanswered {d : Driver} {reply : Reply} {locks : LockService} {links : List Link}
      (hanswer : Answer s d reply locks links) : ∃ k' : Link, links[l]? = some k' ∧ k.Later k' := by
    cases hanswer with
    | lock | other => exact ⟨k, hk, .refl k⟩
    | opened => exact ⟨k, getElem?_concat_of_getElem? hk, .refl k⟩
    | event _ hread hnext =>
        exact (LinksLater.set hread (Link.later_of_next? hnext)).exists_after hk
  cases hloops : a.byLoops with
  | true =>
      have heffect := s.after_effect a hloops
      generalize s.after a = s', s.handovers a = handovers at heffect ⊢
      cases heffect with
      | quiet _ _ _ hlinks | stop _ _ _ hlinks => exact hlinks.exists_after hk
      | connection _ _ _ _ _ hlinks | loop _ _ _ _ hlinks =>
          rw [hlinks]
          exact ⟨k, hk, .refl k⟩
      | move _ _ hanswer _ _ _ hlinks =>
          obtain ⟨k', hk', hlater⟩ := hanswered hanswer
          obtain ⟨k'', hk'', hlater'⟩ := hlinks.exists_after hk'
          exact ⟨k'', hk'', hlater.trans hlater'⟩
  | false =>
      cases a with
      | attempt c =>
          rw [after]
          split <;> exact ⟨k, hk, .refl k⟩
      | destroy u =>
          obtain ⟨_, _, _, _, heq, hlinks⟩ := s.exists_destroy u
          rw [after, heq]
          rcases hlinks with rfl | ⟨l', rfl⟩
          · exact ⟨k, hk, .refl k⟩
          · exact (LinksLater.modify _ _ Link.later_dropReader).exists_after hk
      | _ => cases hloops

/-! ## Dismissal -/

/-- A loop on a connection that was stopped: whatever it may still wait for has come.  It has got
the stop signal wherever it has registered for it, and the link that it reads is closed. -/
structure Dismissed (s : Network) (t : Nat) (e : TaskEntry) (conn : Connection) : Prop where
  entry : s.tasks[t]? = some e
  connection : s.connections[e.connection]? = some conn
  isLoop : e.task.isLoop = true
  engaged_or_returned : e.task.point.isEngaged = true ∨ e.task = .returned
  isStopped : conn.phase.isStopped = true
  phase : e.task.point.isUnderWay = false → conn.phase = .stopped
  signalled : e.task.point.isArmed = true → e.signalled = true
  link : ∀ l, e.task.point.link? = some l →
    ∃ k, s.links[l]? = some k ∧ (e.task.point = .streaming l → k.closeRequested = true)

/-- Where only loops were started on a connection, a request to stop dismisses the one that runs. -/
theorem dismissed_disconnect (hsound : s.Sound) (hattuned : s.Attuned e.connection)
    (he : s.tasks[t]? = some e) (hloop : e.task.isLoop = true)
    (hengaged : e.task.point.isEngaged = true) :
    ∃ e' conn', (s.disconnect e.connection).Dismissed t e' conn' ∧ e'.driver = e.driver := by
  have hd := getElem?_drivers he
  obtain ⟨conn, hconn⟩ := hsound.exists_connection t _ hd
  have hconn : s.connections[e.connection]? = some conn := hconn
  obtain ⟨hallows, hclient⟩ := hattuned.finds t _ conn hd ⟨hloop, hengaged, rfl⟩ hconn
  have hstop : conn.stop.phase.isStopped = true := Phase.isStopped_stop _
  have hdismissed (e' : TaskEntry) (hsame : e'.driver = e.driver)
      (he' : (s.disconnect e.connection).tasks[t]? = some e')
      (hsignal : e'.task.point.isArmed = true → e'.signalled = true) :
      (s.disconnect e.connection).Dismissed t e' conn.stop := by
    have hc : e'.connection = e.connection := congrArg Driver.connection hsame
    have htask : e'.task = e.task := congrArg Driver.task hsame
    constructor
    case entry => exact he'
    case connection =>
      rw [hc, connections_disconnect, List.getElem?_modify, hconn]
      simp
    case isLoop => rwa [htask]
    case engaged_or_returned => exact .inl (by rwa [htask])
    case isStopped => exact hstop
    case signalled => exact hsignal
    case phase =>
      intro hidle
      rw [htask] at hidle
      have hallows : e.task.point.allows conn.phase = true := hallows
      show conn.phase.stop.phase = .stopped
      generalize conn.phase = p at hallows
      cases hpoint : e.task.point <;>
        simp_all [Point.isUnderWay, Point.isConnecting, Point.allows, Point.isEngaged] <;>
        cases p <;> simp_all [Phase.isResting, Phase.stop, Phase.next]
    case link =>
      intro l hlink
      rw [htask] at hlink ⊢
      have hlt := hsound.link_lt t l _ hd hlink
      rw [links_disconnect hconn]
      obtain ⟨k', hk', -⟩ := exists_link_after (List.getElem?_eq_getElem hlt)
        (.disconnect e.connection)
      rw [after, links_disconnect hconn] at hk'
      refine ⟨k', hk', fun hpoint => ?_⟩
      rw [hclient l hpoint, Option.elim_some, List.getElem?_modify,
        List.getElem?_eq_getElem hlt] at hk'
      simp only [if_true, Option.map_eq_map, Option.map_some, Option.some.injEq] at hk'
      rw [← hk']
      rfl
  have hentry := congrArg (·[t]?) (tasks_disconnect hconn)
  simp only [List.getElem?_map, he, Option.map_some, beq_self_eq_true, Bool.true_and] at hentry
  cases harmed : e.task.point.isArmed with
  | true =>
      rw [harmed, if_pos rfl] at hentry
      exact ⟨_, _, hdismissed { e with signalled := true } rfl hentry fun _ => rfl, rfl⟩
  | false =>
      rw [harmed, if_neg Bool.false_ne_true] at hentry
      exact ⟨_, _, hdismissed e rfl hentry fun h => (by rw [harmed] at h; cases h), rfl⟩

namespace Dismissed

/-- A loop that is dismissed stays so, whatever others do. -/
theorem beside (h : s.Dismissed t e conn) (hstep : a ≠ .step t) (hdestroy : a ≠ .destroy t) :
    ∃ e' conn', (s.after a).Dismissed t e' conn' ∧ e'.driver = e.driver := by
  obtain ⟨e', he', hsame, hsignal⟩ := exists_entry_after h.entry hstep hdestroy
  obtain ⟨conn', hconn', hchange⟩ := exists_connectionAfter (a := a) h.connection
  have hc : e'.connection = e.connection := congrArg Driver.connection hsame
  have htask : e'.task = e.task := congrArg Driver.task hsame
  have hphase : conn'.phase.isStopped = true ∧
      (conn.phase = .stopped → conn'.phase = .stopped) := by
    cases hchange with
    | same => exact ⟨h.isStopped, id⟩
    | stop =>
        exact ⟨Phase.isStopped_stop _, fun hover =>
          (Phase.stop_of_isStopped h.isStopped).trans hover⟩
    | move _ hmove hmc =>
        obtain ⟨-, -, reply, -, hm⟩ := nextMove?_eq_some hmove
        obtain rfl := connection_eq_of_move hmove hmc h.connection
        rw [hm]
        obtain ⟨hafter, -⟩ := Task.resume_of_isStopped (t := _) reply h.isStopped
        refine ⟨by rw [Task.isStopped_resume]; exact h.isStopped, fun hover => ?_⟩
        rw [hafter, hover, ite_self]
  refine ⟨e', conn', ?_, hsame⟩
  constructor
  case entry => exact he'
  case connection => rwa [hc]
  case isLoop => rw [htask]; exact h.isLoop
  case engaged_or_returned => rw [htask]; exact h.engaged_or_returned
  case isStopped => exact hphase.1
  case phase => rw [htask]; exact fun hidle => hphase.2 (h.phase hidle)
  case signalled => rw [htask]; exact fun harmed => hsignal (h.signalled harmed)
  case link =>
    rw [htask]
    intro l hlink
    obtain ⟨k, hk, hclosed⟩ := h.link l hlink
    obtain ⟨k', hk', hlater⟩ := exists_link_after hk a
    exact ⟨k', hk', fun hpoint => hlater.closeRequested (hclosed hpoint)⟩

/-- A loop that is dismissed has nothing to wait for. -/
theorem not_waits (h : s.Dismissed t e conn) : ¬ s.Waits e := by
  intro hwaits
  unfold Waits at hwaits
  cases hpoint : e.task.point with
  | dialing =>
      rw [hpoint] at hwaits
      rw [h.signalled (by rw [hpoint]; rfl)] at hwaits
      cases hwaits.2.2
  | resting =>
      rw [hpoint] at hwaits
      rw [h.signalled (by rw [hpoint]; rfl)] at hwaits
      cases hwaits.2
  | streaming l =>
      rw [hpoint] at hwaits
      obtain ⟨k, hk, hclosed⟩ := h.link l (by rw [hpoint]; rfl)
      obtain ⟨reason, k', hnext⟩ := Link.exists_next?_of_closeRequested (hclosed hpoint)
      have hsilent : s.links[l]?.bind Link.next? = none := hwaits
      rw [hk, Option.bind_some, hnext] at hsilent
      cases hsilent
  | _ =>
      rw [hpoint] at hwaits
      exact hwaits

/-- What a dismissed loop is told answers what it has asked, and of a link it reads the end. -/
theorem isAnsweredBy (h : s.Dismissed t e conn) {answered : Network} {reply : Reply}
    (hreply : s.reply? e conn = some (reply, answered)) :
    e.task.point.isAnsweredBy reply = true := by
  unfold reply? at hreply
  cases hpoint : e.task.point with
  | takingSlot =>
      simp only [hpoint, Point.ask] at hreply
      cases hreply
      split <;> rfl
  | takingLock =>
      simp only [hpoint, Point.ask] at hreply
      split at hreply
      · cases hreply
        rfl
      · cases hreply
        split <;> rfl
  | dialing q due giveUp =>
      simp only [hpoint, Point.ask] at hreply
      split at hreply
      · split at hreply <;> cases hreply <;> rfl
      · split at hreply
        · cases hreply
          rfl
        · split at hreply <;> cases hreply
          rfl
  | streaming l =>
      simp only [hpoint, Point.ask] at hreply
      obtain ⟨k, hk, hclosed⟩ := h.link l (by rw [hpoint]; rfl)
      obtain ⟨reason, k', hnext⟩ := Link.exists_next?_of_closeRequested (hclosed hpoint)
      rw [hk, Option.bind_some, hnext, Option.map_some] at hreply
      cases hreply
      rfl
  | resting time =>
      simp only [hpoint, Point.ask] at hreply
      split at hreply <;> cases hreply
      rfl
  | finished => simp [hpoint, Point.ask] at hreply
  | _ =>
      simp only [hpoint, Point.ask] at hreply
      cases hreply
      rfl

/-- A loop that is dismissed and not engaged has returned, and does not move any more. -/
theorem of_not_engaged (h : s.Dismissed t e conn) (hidle : e.task.point.isEngaged = false) :
    e.task = .returned ∧ s.isFinished t = true ∧ s.nextMove? t = none := by
  have hover : e.task = .returned := h.engaged_or_returned.resolve_left (by simp [hidle])
  refine ⟨hover, ?_, ?_⟩
  · rw [isFinished, taskIs, h.entry, Option.map_some, hover]
    rfl
  · exact nextMove?_of_finished (getElem?_drivers h.entry) (congrArg (·.point.isFinished) hover)

/-- A loop that is dismissed and not over makes its next move at once. -/
theorem exists_nextMove (h : s.Dismissed t e conn) (hengaged : e.task.point.isEngaged = true) :
    ∃ answered reply, s.reply? e conn = some (reply, answered) ∧
      s.nextMove? t = some ⟨e, conn, answered, e.task.resume conn reply⟩ := by
  have hsome : s.reply? e conn ≠ none := by
    rw [ne_eq, reply?_eq_none_iff, not_or, Point.isFinished_of_isEngaged hengaged]
    exact ⟨h.not_waits, Bool.false_ne_true⟩
  obtain ⟨⟨reply, answered⟩, hreply⟩ := Option.ne_none_iff_exists'.mp hsome
  exact ⟨answered, reply, hreply, by simp [nextMove?, h.entry, h.connection, hreply]⟩

/-- A loop that is dismissed and not over comes nearer to its end with its next move, and stays
dismissed. -/
theorem step (h : s.Dismissed t e conn) (hengaged : e.task.point.isEngaged = true) :
    ∃ m e' conn', s.nextMove? t = some m ∧ m.entry = e ∧
      (s.after (.step t)).Dismissed t e' conn' ∧ e'.connection = e.connection ∧
      e'.task.point.movesLeft < e.task.point.movesLeft := by
  obtain ⟨answered, reply, hreply, hmove⟩ := h.exists_nextMove hengaged
  have hanswered := h.isAnsweredBy hreply
  refine ⟨_, { e with
      task := (e.task.resume conn reply).task
      signalled := e.signalled && (e.task.resume conn reply).task.point.isArmed },
    (e.task.resume conn reply).connection, hmove, rfl, ?_, rfl,
    Task.movesLeft_resume reply h.isLoop hengaged h.isStopped hanswered⟩
  constructor
  case entry => rw [tasks_after_step hmove, getElem?_set_of_getElem? h.entry]
  case connection => exact connection_after_step hmove
  case isLoop => exact (Task.isLoop_resume reply).trans h.isLoop
  case engaged_or_returned => exact Task.engaged_or_returned_resume reply h.isLoop hengaged
  case isStopped => exact (Task.isStopped_resume ..).trans h.isStopped
  case phase => exact Task.phase_resume_of_isStopped reply h.isStopped h.phase
  case signalled =>
    intro harmed
    rw [h.signalled (Task.isArmed_resume reply h.isStopped harmed), harmed]
    rfl
  case link =>
    intro l hlink
    rcases Task.of_link?_resume reply hlink with hbefore | hopened
    · obtain ⟨k, hk, -⟩ := h.link l hbefore
      obtain ⟨k', hk', -⟩ := exists_link_after hk (.step t)
      refine ⟨k', hk', fun hpoint => ?_⟩
      -- the loop has just begun to read, and closes the link
      obtain ⟨-, houtputs⟩ := Task.outputs_of_streaming reply h.isStopped hanswered hpoint
      rw [link_after_step hmove, houtputs] at hk'
      obtain ⟨k₀, -, rfl⟩ := Option.map_eq_some_iff.mp hk'
      simp [Link.perform, Link.close]
    · obtain ⟨-, hnew⟩ := link_lt_after_of_opened hmove (hopened ▸ hreply)
      refine ⟨_, hnew, fun hpoint => ?_⟩
      obtain ⟨hopening, -⟩ := Task.outputs_of_streaming reply h.isStopped hanswered hpoint
      rw [hopening, hopened] at hanswered
      cases hanswered

end Dismissed

/-! ## The return -/

theorem now_after_step (s : Network) (t : Nat) : (s.after (.step t)).now = s.now := by
  cases hmove : s.nextMove? t with
  | none => rw [after_step_of_none hmove]
  | some m =>
      obtain ⟨-, -, reply, hreply, -⟩ := nextMove?_eq_some hmove
      rw [after, step_eq_some hmove, Option.getD_some]
      refine Eq.trans (performAll_frame _ _ _ _ Network.now fun s o => ?_) (queues_reply? hreply).1
      cases o with
      | call call =>
          obtain ⟨_, _, heq⟩ := exists_perform_call s m.entry m.connection call
          rw [heq]
      | _ => rfl

/-- What the moves of one task come to: the clock and the other tasks stay as they are, and of the
gates only the own one can have changed. -/
structure Moved (s s' : Network) (t : Nat) (e e' : TaskEntry) : Prop where
  now : s'.now = s.now
  tasks : s'.tasks = s.tasks.set t e'
  connection : e'.connection = e.connection
  pool : e'.pool = e.pool
  gate : e'.gate = e.gate
  marks : s'.locks.marks =
    e.gate.elim s.locks.marks fun g => s.locks.marks.set g e'.task.hasLock

namespace Moved

theorem refl (hgated : s.Gated) (he : s.tasks[t]? = some e) : Moved s s t e e := by
  refine ⟨rfl, ?_, rfl, rfl, rfl, ?_⟩
  · obtain ⟨hlt, hsame⟩ := List.getElem?_eq_some_iff.mp he
    rw [← hsame, List.set_getElem_self]
  · have hd := getElem?_drivers he
    cases hgate : e.gate with
    | none => rfl
    | some g =>
        cases hloop : e.task.isLoop with
        | true =>
            obtain ⟨g', hg', hmark⟩ := hgated.gate t _ hd hloop
            obtain rfl := Option.some_inj.mp (hgate.symm.trans hg')
            exact (set_mark_self hmark).symm
        | false =>
            rw [show e.gate = none from hgated.gateless t _ hd hloop] at hgate
            cases hgate

theorem trans {s'' : Network} {e' e'' : TaskEntry} (h : Moved s s' t e e')
    (h' : Moved s' s'' t e' e'') : Moved s s'' t e e'' := by
  refine ⟨h'.now.trans h.now, ?_, h'.connection.trans h.connection, h'.pool.trans h.pool,
    h'.gate.trans h.gate, ?_⟩
  · rw [h'.tasks, h.tasks, List.set_set]
  · rw [h'.marks, h.gate, h.marks]
    cases e.gate with
    | none => rfl
    | some g => simp only [Option.elim_some, List.set_set]

theorem step (hgated : s.Gated) {m : NextMove} (hmove : s.nextMove? t = some m) {e' : TaskEntry}
    (he' : (s.after (.step t)).tasks[t]? = some e') :
    Moved s (s.after (.step t)) t m.entry e' := by
  have he := (nextMove?_eq_some hmove).1
  have htasks := tasks_after_step hmove
  rw [htasks, getElem?_set_of_getElem? he] at he'
  cases he'
  exact ⟨now_after_step s t, htasks, rfl, rfl, rfl, hgated.marks_after_step hmove⟩

end Moved

/-- A loop that is dismissed runs to its return: its moves do not depend on anybody else. -/
theorem Dismissed.returns (h : s.Dismissed t e conn) (hgated : s.Gated) {fuel : Nat}
    (hfuel : e.task.point.movesLeft < fuel) :
    ∃ e' conn', (run fuel s t).Dismissed t e' conn' ∧ e'.task = .returned ∧
      Moved s (run fuel s t) t e e' := by
  induction fuel generalizing s e conn with
  | zero => exact absurd hfuel (Nat.not_lt_zero _)
  | succ fuel ih =>
      unfold run
      cases hengaged : e.task.point.isEngaged with
      | false =>
          obtain ⟨hover, hfinished, hnone⟩ := h.of_not_engaged hengaged
          rw [step_eq, hnone, Option.map_none]
          simp only [hfinished, if_true]
          exact ⟨e, conn, h, hover, .refl hgated h.entry⟩
      | true =>
          obtain ⟨m, e', conn', hmove, rfl, h', -, hless⟩ := h.step hengaged
          have hmoved := Moved.step hgated hmove h'.entry
          have hafter : s.step t = some (s.after (.step t)) := by
            rw [after, step_eq_some hmove, Option.getD_some]
          rw [hafter]
          obtain ⟨e'', conn'', hreturned, htask, hrest⟩ :=
            ih h' (hgated.after _) (Nat.lt_of_lt_of_le hless (Nat.le_of_lt_succ hfuel))
          exact ⟨e'', conn'', hreturned, htask, hmoved.trans hrest⟩

/-- A loop that is dismissed stays so until it is taken away, and it does not begin again. -/
theorem Dismissed.after (h : s.Dismissed t e conn) (ha : a ≠ .destroy t) :
    ∃ e' conn', (s.after a).Dismissed t e' conn' ∧ e'.connection = e.connection ∧
      (e.task = .returned → e'.task = .returned) := by
  by_cases hstep : a = .step t
  · subst hstep
    cases hengaged : e.task.point.isEngaged with
    | true =>
        obtain ⟨m, e', conn', -, -, h', hc, -⟩ := h.step hengaged
        exact ⟨e', conn', h', hc, fun hover => by rw [hover] at hengaged; cases hengaged⟩
    | false =>
        rw [after_step_of_none (h.of_not_engaged hengaged).2.2]
        exact ⟨e, conn, h, rfl, id⟩
  · obtain ⟨e', conn', h', hsame⟩ := h.beside hstep ha
    exact ⟨e', conn', h', congrArg Driver.connection hsame, fun hover =>
      (congrArg Driver.task hsame).trans hover⟩

theorem Dismissed.afterAll (h : s.Dismissed t e conn) (acts : List Act)
    (hacts : .destroy t ∉ acts) :
    ∃ e' conn', (s.afterAll acts).Dismissed t e' conn' ∧ e'.connection = e.connection := by
  induction acts generalizing s e conn with
  | nil => exact ⟨e, conn, h, rfl⟩
  | cons a rest ih =>
      rw [List.mem_cons, not_or] at hacts
      obtain ⟨e', conn', h', hc, -⟩ := h.after (Ne.symm hacts.1)
      obtain ⟨e'', conn'', h'', hc'⟩ := ih h' hacts.2
      exact ⟨e'', conn'', h'', hc'.trans hc⟩

/-! ### Turns -/

/-- While time passes a loop is not taken away that is not to be. -/
theorem Dismissed.passes (h : s.Dismissed t e conn) (hpasses : s.Passes s')
    (haborts : s.aborts[t]? = some false) :
    ∃ e' conn', s'.Dismissed t e' conn' ∧ (e.task = .returned → e'.task = .returned) := by
  induction hpasses with
  | refl => exact ⟨e, conn, h, id⟩
  | @act s' a hbefore ha ih =>
      obtain ⟨e', conn', h', hover⟩ := ih
      have hkept : a ≠ .destroy t := by
        rintro rfl
        rw [passing, taskIs_aborted, hbefore.aborts, haborts] at ha
        cases ha
      obtain ⟨e'', conn'', h'', -, hover'⟩ := h'.after hkept
      exact ⟨e'', conn'', h'', fun htask => hover' (hover htask)⟩

theorem turnFuel_gt (s : Network) (t : Nat) : 7 < s.turnFuel t := by
  unfold turnFuel
  omega

theorem Dismissed.turn (h : s.Dismissed t e conn) (hgated : s.Gated)
    (haborts : s.aborts[t]? = some false) (u : Nat) :
    ∃ e' conn', (s.turn u).Dismissed t e' conn' ∧
      (e.task = .returned ∨ u = t → e'.task = .returned) := by
  by_cases hu : u = t
  · subst hu
    unfold Network.turn
    cases hfinished : s.isFinished u with
    | true =>
        have hidle : e.task.point.isEngaged = false := by
          refine Bool.eq_false_iff.mpr fun hengaged => ?_
          rw [isFinished, taskIs, h.entry, Option.map_some, Option.getD_some,
            Point.isFinished_of_isEngaged hengaged] at hfinished
          cases hfinished
        exact ⟨e, conn, by simpa using h, fun _ => (h.of_not_engaged hidle).1⟩
    | false =>
        have habort : s.taskIs (·.aborted) u = false := by rw [taskIs_aborted, haborts]; rfl
        simp only [habort, Bool.false_eq_true, if_false]
        obtain ⟨e', conn', h', hover, -⟩ := h.returns hgated
          (Nat.lt_of_le_of_lt (Point.movesLeft_le _) (turnFuel_gt s u))
        exact ⟨e', conn', h', fun _ => hover⟩
  · obtain ⟨e', conn', h', hover⟩ := h.passes (passes_turn s u) haborts
    exact ⟨e', conn', h', fun htask => hover (htask.resolve_right hu)⟩

/-- A loop that is dismissed returns in its next turn, whoever has a turn before it. -/
theorem Dismissed.returned_of_mem (h : s.Dismissed t e conn) (hgated : s.Gated)
    (haborts : s.aborts[t]? = some false) {queue : List Nat}
    (ht : e.task = .returned ∨ t ∈ queue) :
    ∃ e' conn', (queue.foldl Network.turn s).Dismissed t e' conn' ∧ e'.task = .returned := by
  induction queue generalizing s e conn with
  | nil => exact ⟨e, conn, h, ht.resolve_right List.not_mem_nil⟩
  | cons u rest ih =>
      obtain ⟨e', conn', h', hover⟩ := h.turn hgated haborts u
      obtain ⟨acts, hacts⟩ := exists_acts_turn s u
      refine ih h' (hacts ▸ gated_afterAll hgated acts) ?_ ?_
      · rw [(passes_turn s u).aborts, haborts]
      · rw [List.mem_cons] at ht
        rcases ht with htask | rfl | hrest
        · exact .inl (hover (.inl htask))
        · exact .inl (hover (.inr rfl))
        · exact .inr hrest

/-- A loop that is dismissed is taken up or ready: there is nothing for which it could be parked. -/
theorem Dismissed.mem_ready (h : s.Dismissed t e conn) {taken : List Nat}
    (hattended : s.Attended taken) (hengaged : e.task.point.isEngaged = true) :
    t ∈ taken ∨ t ∈ s.ready := by
  rcases hattended t e h.entry (Point.isFinished_of_isEngaged hengaged) with
    htaken | hready | ⟨-, hwaits⟩
  · exact .inl htaken
  · exact .inr hready
  · exact absurd hwaits h.not_waits

/-- A loop that is dismissed and ready has returned when all ready tasks have had their turns. -/
theorem Dismissed.returned_settle (h : s.Dismissed t e conn) (hgated : s.Gated)
    (haborts : s.aborts[t]? = some false) (hready : t ∈ s.ready) :
    ∃ e', s.settle.tasks[t]? = some e' ∧ e'.task = .returned := by
  obtain ⟨e', conn', h', -⟩ := h.after (a := .schedule [] s.parked) (by simp)
  obtain ⟨e'', conn'', h'', hover⟩ :=
    h'.returned_of_mem (hgated.after (.schedule [] s.parked)) haborts (.inr hready)
  exact ⟨e'', h''.entry, hover⟩

theorem now_run (fuel : Nat) (s : Network) (t : Nat) : (run fuel s t).now = s.now := by
  induction fuel generalizing s with
  | zero => rfl
  | succ fuel ih =>
      unfold run
      cases hstep : s.step t with
      | some s' =>
          have hafter : s.after (.step t) = s' := by rw [after, hstep, Option.getD_some]
          exact (ih s').trans (hafter ▸ now_after_step s t)
      | none =>
          simp only
          split <;> rfl

/-- Time stands still while the ready tasks have their turns. -/
theorem now_settle (s : Network) : s.settle.now = s.now := by
  have hturn (s : Network) (t : Nat) : (s.turn t).now = s.now := by
    unfold turn
    split
    · rfl
    · split
      · exact (frame_destroy s t).1
      · exact now_run _ s t
  have hturns (queue : List Nat) (s : Network) : (queue.foldl turn s).now = s.now := by
    induction queue generalizing s with
    | nil => rfl
    | cons t rest ih => exact (ih _).trans (hturn s t)
  exact hturns _ _

/-! ### What a return comes to -/

/-- A loop has returned since another state, in which its task was the given one: no time has
passed, its connection is stopped, its slot is free again, the lock of its gate is given back if it
had it, and the locks of all other gates are held as before. -/
structure Returned (s s' : Network) (t : Nat) (e : TaskEntry) : Prop where
  task : ∃ e', s'.tasks[t]? = some e' ∧ e'.task = .returned
  now : s'.now = s.now
  phase : ∃ conn, s'.connections[e.connection]? = some conn ∧ conn.phase = .stopped
  slot : ∀ p, (s'.pool p).available = (s.pool p).available + (e.holdsSlotOf p).toNat
  lock : ∃ gate, e.gate = some gate ∧ s.locks.isHeldBy gate = e.task.hasLock ∧
    ∀ g, s'.locks.isHeldBy g = (s.locks.isHeldBy g && g != gate)
  faithful : s'.locks.Faithful

namespace Moved

variable {e' : TaskEntry}

/-- A task that has no slot any more has given back the one that it had. -/
theorem available (h : Moved s s' t e e') (he : s.tasks[t]? = some e) (hbalanced : s.Balanced)
    (hbalanced' : s'.Balanced) (hcapacity : ∀ p, (s'.pool p).capacity = (s.pool p).capacity)
    (hslot : e'.task.hasSlot = false) (p : Nat) :
    (s'.pool p).available = (s.pool p).available + (e.holdsSlotOf p).toNat := by
  have hholders : s'.holders p + (e.holdsSlotOf p).toNat =
      s.holders p + (e'.holdsSlotOf p).toNat := by
    rw [holders, h.tasks]
    exact countP_set_add he
  have hnone : e'.holdsSlotOf p = false := by simp [TaskEntry.holdsSlotOf, hslot]
  rw [hnone, Bool.toNat_false, Nat.add_zero] at hholders
  have := hbalanced p
  have := hbalanced' p
  have := hcapacity p
  omega

/-- A task that does not have the lock any more leaves all other gates as they are. -/
theorem isHeldBy (h : Moved s s' t e e') {gate : Nat} (hgate : e.gate = some gate)
    (hlock : e'.task.hasLock = false) (g : Nat) :
    s'.locks.isHeldBy g = (s.locks.isHeldBy g && g != gate) := by
  unfold LockService.isHeldBy
  rw [h.marks, hgate, Option.elim_some, hlock, List.getElem?_set]
  by_cases hg : gate = g
  · subst hg
    simp only [if_true, bne_self_eq_false, Bool.and_false]
    split <;> rfl
  · simp [hg, bne_iff_ne.mpr (Ne.symm hg)]

end Moved

theorem Dismissed.returned_run (h : s.Dismissed t e conn) (hgated : s.Gated)
    (hfaithful : s.locks.Faithful) {fuel : Nat} (hfuel : 7 < fuel) (hbalanced : s.Balanced)
    (hbalanced' : (run fuel s t).Balanced)
    (hcapacity : ∀ p, ((run fuel s t).pool p).capacity = (s.pool p).capacity) :
    s.Returned (run fuel s t) t e := by
  obtain ⟨e', conn', h', hover, hmoved⟩ :=
    h.returns hgated (Nat.lt_of_le_of_lt (Point.movesLeft_le _) hfuel)
  obtain ⟨gate, hgate, hmark⟩ := hgated.gate t _ (getElem?_drivers h.entry) h.isLoop
  refine ⟨⟨e', h'.entry, hover⟩, hmoved.now,
    ⟨conn', hmoved.connection ▸ h'.connection, h'.phase ?_⟩,
    hmoved.available h.entry hbalanced hbalanced' hcapacity (by rw [hover]; rfl),
    ⟨gate, hgate, ?_, hmoved.isHeldBy hgate (by rw [hover]; rfl)⟩, ?_⟩
  · rw [hover]
    rfl
  · rw [LockService.isHeldBy, hmark]
    rfl
  · obtain ⟨acts, hacts⟩ := exists_acts_run fuel s t
    rw [hacts]
    exact faithful_afterAll hfaithful acts

/-- From every state that a scheduler can bring about, whichever tasks it has taken up: when a
connection is stopped on which only loops were started, its running loop is taken up or ready, so no
other signal is needed.  Whatever happens then before it goes on, in seven moves at most it returns,
and that needs neither time nor anybody else.  In particular, when no task is taken up, it has
returned after the next round of turns, at the same time. -/
theorem returns_after_stop (pools : List SlotPool) (locks : LockService)
    (hfull : ∀ pool ∈ pools, pool.available = pool.capacity) (hfaithful : locks.Faithful)
    {taken : List Nat} {s : Network} (hs : Scheduled { pools, locks } taken s) {t : Nat}
    {e : TaskEntry} (he : s.tasks[t]? = some e) (hloop : e.task.isLoop = true)
    (hengaged : e.task.point.isEngaged = true) (honly : s.OnlyLoops e.connection) :
    let stopped := s.disconnect e.connection
    (t ∈ taken ∨ t ∈ stopped.ready) ∧
      (∀ (acts : List Act) (fuel : Nat), .destroy t ∉ acts → 7 < fuel →
        let before := stopped.afterAll acts
        ∃ e', before.tasks[t]? = some e' ∧ e'.connection = e.connection ∧
          before.Returned (run fuel before t) t e') ∧
      (taken = [] → e.aborted = false → stopped.settle.now = s.now ∧
        ∃ e', stopped.settle.tasks[t]? = some e' ∧ e'.task = .returned) := by
  intro stopped
  have hattended := (attended_of_scheduled rfl rfl hs).disconnect e.connection
  obtain ⟨acts₀, hacts₀⟩ := hs.exists_acts
  have hsound : s.Sound := hacts₀ ▸ sound_afterAll (sound_of_nil rfl rfl) acts₀
  have hattuned : s.Attuned e.connection := by
    rw [hacts₀] at honly ⊢
    exact attuned_afterAll rfl rfl acts₀ honly
  have hstopped : stopped =
      Network.afterAll { pools, locks } (acts₀ ++ [.disconnect e.connection]) := by
    rw [afterAll_concat, ← hacts₀]
    rfl
  obtain ⟨e₁, conn₁, hdismissed, hsame⟩ := dismissed_disconnect hsound hattuned he hloop hengaged
  have hc₁ : e₁.connection = e.connection := congrArg Driver.connection hsame
  have hgated (acts : List Act) : (stopped.afterAll acts).Gated := by
    rw [hstopped, ← afterAll_append]
    exact gated_afterAll (.of_nil rfl) _
  have hbalanced (acts : List Act) := balanced_afterAll (s := { pools, locks }) rfl rfl
    (balanced_of_full hfull) (acts₀ ++ [.disconnect e.connection] ++ acts)
  simp only [afterAll_append { pools, locks } (acts₀ ++ _), ← hstopped] at hbalanced
  have hawake : t ∈ taken ∨ t ∈ stopped.ready :=
    hdismissed.mem_ready hattended ((congrArg (·.task.point.isEngaged) hsame).trans hengaged)
  refine ⟨hawake, fun acts fuel hacts hfuel => ?_, fun htaken haborted => ?_⟩
  · obtain ⟨e₂, conn₂, h₂, hc₂⟩ := hdismissed.afterAll acts hacts
    refine ⟨e₂, h₂.entry, hc₂.trans hc₁, ?_⟩
    obtain ⟨more, hmore⟩ := exists_acts_run fuel (stopped.afterAll acts) t
    obtain ⟨hbefore, hcapacity⟩ := hbalanced acts
    obtain ⟨hafter, hcapacity'⟩ := hbalanced (acts ++ more)
    rw [afterAll_append, ← hmore] at hafter hcapacity'
    have hfaithful' : (stopped.afterAll acts).locks.Faithful := by
      rw [hstopped, ← afterAll_append]
      exact faithful_afterAll hfaithful _
    exact h₂.returned_run (hgated acts) hfaithful' hfuel hbefore hafter fun p =>
      (hcapacity' p).trans (hcapacity p).symm
  · subst htaken
    have haborts : stopped.aborts[t]? = some false := by
      rw [aborts_disconnect, aborts, List.getElem?_map, he, Option.map_some, haborted]
    exact ⟨(now_settle stopped).trans (now_disconnect s _),
      hdismissed.returned_settle (hgated []) haborts (hawake.resolve_left List.not_mem_nil)⟩

/-- Two loops for one target, while dials take ten milliseconds: the first one dials, and the second
one waits for the lock in a pause. -/
def dialingAndWaiting : Network :=
  let start : Network :=
    { pools := [{ capacity := 2, available := 2 }], locks := .registry {} }
  (start.afterAll [.recorder, .connection (.plain "leaf1" (.recorder 0)),
    .connection (.plain "leaf1" (.recorder 0)), .device { delay := some 10 }, .loop 0 0,
    .loop 1 0]).settle

/-- The loop that waits for the lock is stopped: it is woken and returns at once, its slot is free
again, and the other loop keeps the lock. -/
theorem returns_after_stop_of_waiting :
    let s := dialingAndWaiting
    let stopped := s.disconnect 1
    s.ready = [] ∧ s.parked = [0, 1] ∧ 1 ∈ stopped.ready ∧
      (stopped.pool 0).available = 0 ∧ ((run 8 stopped 1).pool 0).available = 1 ∧
      stopped.locks.isHeldBy 0 = true ∧ (run 8 stopped 1).locks.isHeldBy 0 = true ∧
      (run 8 stopped 1).isFinished 1 = true ∧ stopped.settle.now = 0 ∧
      stopped.settle.isFinished 1 = true := by
  intro s stopped
  let e : TaskEntry :=
    { connection := 1, gate := some 1
      task := { isLoop := true, hasSlot := true, point := .resting 50 } }
  have he : s.tasks[1]? = some e := rfl
  have hs :
      Scheduled { pools := [{ capacity := 2, available := 2 }], locks := .registry {} } [] s :=
    scheduled_settle (scheduled_acts .start _ (by decide))
  have honly : s.OnlyLoops 1 := fun t d hd _ =>
    List.all_eq_true.mp (show s.drivers.all (·.task.isLoop) = true by decide +kernel) d
      (List.mem_of_getElem? hd)
  obtain ⟨hawake, hreturn, hsettle⟩ := returns_after_stop [{ capacity := 2, available := 2 }]
    (.registry {}) (by simp) LockRegistry.Faithful.of_new hs he rfl rfl honly
  obtain ⟨e', he', -, ⟨after, hafter, hover⟩, -, -, hslot, ⟨gate, hgate, -, hothers⟩, -⟩ :=
    hreturn [] 8 (by simp) (by decide)
  obtain rfl : { e with signalled := true } = e' := Option.some_inj.mp he'
  obtain ⟨hnow, last, hlast, hend⟩ := hsettle rfl rfl
  have hfree : (stopped.pool 0).available = 0 := by decide +kernel
  have hheld : stopped.locks.isHeldBy 0 = true := by decide +kernel
  obtain rfl : 1 = gate := Option.some_inj.mp hgate
  refine ⟨by decide +kernel, by decide +kernel, hawake.resolve_left List.not_mem_nil, hfree, ?_,
    hheld, ?_, ?_, hnow, ?_⟩
  · exact (hslot 0).trans (congrArg (· + 1) hfree)
  · refine (hothers 0).trans ?_
    rw [show Network.afterAll stopped [] = stopped from rfl, hheld]
    rfl
  · exact (congrArg (fun e => (e.map (·.task.point.isFinished)).getD false) hafter).trans
      (congrArg (·.point.isFinished) hover)
  · exact (congrArg (fun e => (e.map (·.task.point.isFinished)).getD false) hlast).trans
      (congrArg (·.point.isFinished) hend)

/-- A loop streams, and beside it a single attempt to connect has written its own link over the one
of the loop. -/
def overwritten : Network :=
  let start : Network :=
    { pools := [{ capacity := 1, available := 1 }], locks := .registry {} }
  let streaming := (start.afterAll [.recorder, .connection (.plain "leaf1" (.recorder 0)),
    .loop 0 0]).settle
  (streaming.after (.attempt 0)).settle

/-- A loop beside which somebody has connected does not hear of the stop: it goes on waiting for its
link, is woken by nobody, and keeps its slot and the lock. -/
theorem stop_unheard_of_attempt :
    Scheduled { pools := [{ capacity := 1, available := 1 }], locks := .registry {} } []
        overwritten ∧
      overwritten.tasks.map (fun e => (e.task.isLoop, e.task.point.isEngaged)) =
        [(true, true), (false, true)] ∧
      (let stopped := overwritten.disconnect 0
      0 ∉ stopped.ready ∧ (run 8 stopped 0).isFinished 0 = false ∧
        stopped.settle.isFinished 0 = false ∧ stopped.settle.isFinished 1 = true ∧
        0 ∉ stopped.settle.ready ∧ (stopped.settle.nextMove? 0).isNone = true ∧
        stopped.settle.nextDeadline = none ∧
        stopped.settle.connections.map (·.phase) = [.stopped] ∧
        (stopped.settle.pool 0).inUse = 1 ∧ stopped.settle.locks.isHeldBy 0 = true) := by
  refine ⟨scheduled_settle (.act (scheduled_settle (scheduled_acts .start _ (by decide))) rfl),
    by decide +kernel, by decide +kernel, by decide +kernel, by decide +kernel, by decide +kernel,
    by decide +kernel, by decide +kernel, by decide +kernel, by decide +kernel, by decide +kernel,
    by decide +kernel⟩

end Network

end TelemetryGateway
