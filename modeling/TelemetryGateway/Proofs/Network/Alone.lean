import TelemetryGateway.Proofs.Connection.Messages
import TelemetryGateway.Proofs.Network.Coherence
import TelemetryGateway.Proofs.Network.Pointwise

/-!
# A task that has its connection to itself

While a task reads a link, the others of its connection must not interfere.  They do not in two
cases: among acquisition loops the mark on the connection sees to it, and a task that is the only
one of its connection has nobody to fear, also if it is a single attempt to connect.

* `Network.alone_of_coherent`, `Network.alone_of_only`: the two cases;
* `Network.sound_afterAll`: in every run each task has a connection and reads a link that exists;
* `Network.suits_afterAll`: while a connection has one task only, its phase suits the point of the
  task.
-/

namespace TelemetryGateway

/-! ## Points and phases -/

namespace Point

/-- The phases in which a connection can be while a task that has it to itself is at a point.  This
is what `Point.allows` says about attempts to connect. -/
def suits : Point → Phase → Bool
  | .preparing, p | .arming _, p | .calling _, p | .dialing _ _ _, p | .opening _, p => p.isDialing
  | .streaming _, p | .closing _, p => p.isStreaming
  | _, _ => true

theorem suits_of_allows {p : Point} {q : Phase} (h : p.allows q = true) : p.suits q = true := by
  cases p <;> simp_all [allows, suits]

theorem suits_stop {p : Point} {q : Phase} (h : p.suits q = true) :
    p.suits q.stop.phase = true := by
  cases p <;> simp_all [suits, Phase.isDialing_stop, Phase.isStreaming_stop]

end Point

namespace Task

variable {t : Task} {c : Connection} (reply : Reply)

@[simp] theorem suits_conclude (t : Task) (outcome : ConnectOutcome) (q : Phase) :
    (t.conclude outcome).point.suits q = true := by
  cases hloop : t.isLoop <;> cases outcome <;> simp [conclude, hloop, Point.suits]

theorem suits_resume (h : t.point.suits c.phase = true) :
    (t.resume c reply).task.point.suits (t.resume c reply).connection.phase = true := by
  fun_cases Task.resume t c reply
  -- an attempt that is over limits nothing
  all_goals simp_all +zetaDelta only [giveUp, suits_conclude]
  all_goals simp_all [Point.suits]
  · -- a slot was granted
    cases t.hasLock <;> simp
  · -- a dial starts
    exact Phase.isDialing_of_next ‹_›
  · -- the dial has given a link
    exact Phase.isStreaming_of_isDialing h
  · -- a message has arrived
    rename_i message refuses _ _ _ hreceive
    have := Phase.isStreaming_receive c.name c.settings.rejectionScope refuses message h
    rwa [hreceive] at this

@[simp] theorem link?_conclude (t : Task) (outcome : ConnectOutcome) :
    (t.conclude outcome).point.link? = none := by
  cases hloop : t.isLoop <;> cases outcome <;> simp [conclude, hloop, Point.link?]

/-- A task gets a link from a dial only. -/
theorem of_link?_resume {l : Nat} :
    (t.resume c reply).task.point.link? = some l →
      t.point.link? = some l ∨ reply = .opened l := by
  fun_cases Task.resume t c reply
  all_goals simp_all +zetaDelta only [giveUp, link?_conclude]
  all_goals simp_all [Point.link?]
  -- a slot was granted
  cases t.hasLock <;> simp

/-- A connection knows the link that its task has begun to read. -/
theorem client_resume {l : Nat} :
    (t.resume c reply).connection.client = some l →
      c.client = some l ∨ t.point.link? = some l := by
  fun_cases Task.resume t c reply <;> simp_all +zetaDelta [giveUp, Point.link?]

end Task

namespace Network

variable {s : Network} {a : Act}

/-! ## Tasks, connections and links -/

/-- Each task has a connection, and the links that are read or known exist. -/
structure Sound (s : Network) : Prop where
  exists_connection : ∀ (t : Nat) (d : Driver), s.drivers[t]? = some d →
    ∃ conn, s.connections[d.connection]? = some conn
  link_lt : ∀ (t l : Nat) (d : Driver), s.drivers[t]? = some d → d.task.point.link? = some l →
    l < s.links.length
  client_lt : ∀ (c l : Nat) (conn : Connection), s.connections[c]? = some conn →
    conn.client = some l → l < s.links.length

theorem link_lt_after {l : Nat} (h : l < s.links.length) : l < (s.after a).links.length := by
  obtain ⟨k', hk', -⟩ := exists_linkAfter (a := a) (List.getElem?_eq_getElem h)
  exact (List.getElem?_eq_some_iff.mp hk').1

/-- The link that a dial has given is there after the step. -/
theorem link_lt_after_of_opened {t l : Nat} {m : NextMove} (hmove : s.nextMove? t = some m)
    (hopened : s.reply? m.entry m.connection = some (.opened l, m.answered)) :
    s.links.length = l ∧ (s.after (.step t)).links[l]? =
      some (m.move.outputs.foldl (Link.perform l) {}) := by
  obtain ⟨hlength, hlinks⟩ := eq_of_answer_opened (answer_of_reply? hopened) rfl
  refine ⟨hlength, ?_⟩
  rw [link_after_step hmove, hlinks, ← hlength, List.getElem?_concat_length]
  rfl

theorem sound_of_nil (htasks : s.tasks = []) (hconnections : s.connections = []) : s.Sound := by
  constructor <;> simp [drivers, htasks, hconnections]

theorem Sound.after (h : s.Sound) (a : Act) : (s.after a).Sound := by
  have hconnection : ∀ (c : Nat) (conn : Connection), s.connections[c]? = some conn →
      ∃ conn' : Connection, (s.after a).connections[c]? = some conn' := by
    intro c conn hconn
    obtain ⟨conn', hconn', -⟩ := exists_connectionAfter (a := a) hconn
    exact ⟨conn', hconn'⟩
  constructor
  case exists_connection =>
    intro t d' hd'
    cases driverAfter hd' with
    | same hd =>
        obtain ⟨conn, hconn⟩ := h.exists_connection t _ hd
        exact hconnection _ conn hconn
    | move _ hmove => exact hconnection _ _ (nextMove?_eq_some hmove).2.1
    | taken _ hd =>
        obtain ⟨conn, hconn⟩ := h.exists_connection t _ hd
        exact hconnection _ conn hconn
    | loop _ hconn => exact hconnection _ _ hconn
    | attempt _ hconn => exact hconnection _ _ hconn
  case link_lt =>
    intro t l d' hd' hlink
    cases driverAfter hd' with
    | same hd => exact link_lt_after (h.link_lt t l _ hd hlink)
    | @move m hact hmove =>
        subst hact
        obtain ⟨he, -, reply, hreply, hm⟩ := nextMove?_eq_some hmove
        rw [show m.move.task = _ from congrArg Move.task hm] at hlink
        rcases Task.of_link?_resume reply hlink with hold | rfl
        · exact link_lt_after (h.link_lt t l _ (getElem?_drivers he) hold)
        · obtain ⟨-, hnew⟩ := link_lt_after_of_opened hmove hreply
          exact (List.getElem?_eq_some_iff.mp hnew).1
    | taken => cases hlink
    | loop => cases hlink
    | attempt => cases hlink
  case client_lt =>
    intro c l conn' hconn' hclient
    cases hconn : s.connections[c]? with
    | none =>
        obtain ⟨conn, -, -, rfl⟩ := eq_fresh_of_new hconn hconn'
        cases hclient
    | some conn =>
        cases connectionAfter hconn hconn' with
        | same => exact link_lt_after (h.client_lt c l _ hconn hclient)
        | stop => exact link_lt_after (h.client_lt c l _ hconn hclient)
        | move _ hmove hmc =>
            obtain ⟨he, hmconn, reply, -, hm⟩ := nextMove?_eq_some hmove
            rw [hm] at hclient
            rcases Task.client_resume reply hclient with hold | hlink
            · exact link_lt_after (h.client_lt _ l _ hmconn hold)
            · exact link_lt_after (h.link_lt _ l _ (getElem?_drivers he) hlink)

theorem sound_afterAll (hstart : s.Sound) (acts : List Act) : (s.afterAll acts).Sound := by
  induction acts generalizing s with
  | nil => exact hstart
  | cons a rest ih => exact ih (hstart.after a)

/-! ## Stops -/

/-- A connection that nobody disconnects is not stopped. -/
theorem isStopped_afterAll {c : Nat} (hconnections : s.connections = []) (acts : List Act)
    (hacts : ∀ a ∈ acts, a ≠ .disconnect c) :
    ∀ conn, (s.afterAll acts).connections[c]? = some conn → conn.phase.isStopped = false := by
  refine afterAll_induction (· ≠ .disconnect c)
    (motive := fun s _ => ∀ conn, s.connections[c]? = some conn → conn.phase.isStopped = false)
    (fun s _ a ha h conn' hconn' => ?_) (by simp [hconnections]) acts hacts
  cases hconn : s.connections[c]? with
  | none =>
      obtain ⟨conn, -, -, rfl⟩ := eq_fresh_of_new hconn hconn'
      rfl
  | some conn =>
      cases connectionAfter hconn hconn' with
      | same => exact h _ hconn
      | stop hact => exact absurd hact ha
      | move _ hmove hmc =>
          obtain ⟨-, hmconn, reply, -, hm⟩ := nextMove?_eq_some hmove
          rw [hmc] at hmconn
          rw [hm, Task.isStopped_resume]
          exact h _ hmconn

/-! ## Tasks of one connection -/

/-- No other task of a connection does anything to it or says anything for it. -/
def Alone (s : Network) (t c : Nat) : Prop :=
  ∀ (t' : Nat) (d : Driver) (conn : Connection) (reply : Reply), s.drivers[t']? = some d →
    d.connection = c → s.connections[c]? = some conn → t' ≠ t →
    (d.task.resume conn reply).connection = conn ∧
      Output.calls (d.task.resume conn reply).outputs = []

/-- While a loop is engaged with a connection it is alone with it. -/
theorem alone_of_coherent (h : s.Coherent) {t : Nat} {d : Driver} (hd : s.drivers[t]? = some d)
    (hengaged : d.task.point.isEngaged = true) : s.Alone t d.connection := by
  intro t' d' conn reply hd' hsame hconn hne
  have hidle : d'.task.point.isEngaged = false := by
    cases hengaged' : d'.task.point.isEngaged with
    | false => rfl
    | true => exact absurd (h.unique t' t d' d hd' hd hengaged' hengaged hsame) hne
  obtain ⟨hcalls, -, ⟨-, hstays⟩ | ⟨hfree, -, -⟩⟩ :=
    Task.resume_of_not_engaged (c := conn) reply hidle
  · exact ⟨hstays, hcalls⟩
  · -- the mark on the connection is set, so no other loop begins
    rw [(h.engaged t d conn hd hconn hengaged).1] at hfree
    cases hfree

namespace Alone

variable {t c : Nat} {conn : Connection}

theorem move_eq (h : s.Alone t c) (hconn : s.connections[c]? = some conn) {u : Nat} {m : NextMove}
    (hu : u ≠ t) (hmove : s.nextMove? u = some m) (hmc : m.entry.connection = c) :
    m.move.connection = conn ∧ Output.calls m.move.outputs = [] := by
  obtain ⟨he, hmconn, reply, -, hm⟩ := nextMove?_eq_some hmove
  rw [hmc, hconn] at hmconn
  rw [hm, ← Option.some_inj.mp hmconn]
  exact h u _ conn reply (getElem?_drivers he) hmc hconn hu

/-- Beside the task that is alone with it, only a stop changes a connection. -/
theorem connection_after (h : s.Alone t c) (hconn : s.connections[c]? = some conn)
    (hstep : a ≠ .step t) (hstop : a ≠ .disconnect c) :
    (s.after a).connections[c]? = some conn := by
  obtain ⟨conn', hconn', hchange⟩ := exists_connectionAfter (a := a) hconn
  rw [hconn']
  cases hchange with
  | same => rfl
  | stop hact => exact absurd hact hstop
  | move hact hmove hmc =>
      rw [(h.move_eq hconn (fun hu => hstep (by rw [hact, hu])) hmove hmc).1]

/-- Only the task that is alone with a connection says anything for it. -/
theorem callsOf_handovers (h : s.Alone t c) (hconn : s.connections[c]? = some conn)
    (hstep : a ≠ .step t) : Handover.callsOf c (s.handovers a) = [] := by
  rcases Network.callsOf_handovers (s := s) (a := a) (c := c) with
    hnone | ⟨u, m, hact, hmove, hmc, hcalls⟩
  · exact hnone
  · rw [hcalls]
    exact (h.move_eq hconn (fun hu => hstep (by rw [hact, hu])) hmove hmc).2

end Alone

/-- A connection has one task and no other. -/
def Only (s : Network) (t c : Nat) : Prop :=
  ∀ (t' : Nat) (d : Driver), s.drivers[t']? = some d → d.connection = c → t' = t

theorem alone_of_only {t c : Nat} (h : s.Only t c) : s.Alone t c :=
  fun t' d _ _ hd hc _ hne => absurd (h t' d hd hc) hne

/-- A connection that has one task only has never had another one. -/
theorem Only.of_after {t c : Nat} (h : (s.after a).Only t c) : s.Only t c := by
  intro t' d hd hc
  obtain ⟨d', hd', hsame⟩ := exists_driver_after (a := a) hd
  exact h t' d' hd' (hsame.trans hc)

theorem Only.of_afterAll {t c : Nat} {acts : List Act} (h : (s.afterAll acts).Only t c) :
    s.Only t c := by
  induction acts generalizing s with
  | nil => exact h
  | cons a rest ih => exact (ih h).of_after

/-- Wherever a task of a connection is, the phase suits its point. -/
def Suits (s : Network) (c : Nat) : Prop :=
  ∀ (t : Nat) (d : Driver) (conn : Connection), s.drivers[t]? = some d → d.connection = c →
    s.connections[c]? = some conn → d.task.point.suits conn.phase = true

theorem Suits.after {t c : Nat} (h : s.Suits c) (hsound : s.Sound) (honly : s.Only t c) :
    (s.after a).Suits c := by
  intro t' d' conn' hd' hc hconn'
  -- a new connection has no task, so it was there before if the task was
  have hbefore : ∀ d : Driver, s.drivers[t']? = some d → d.connection = c →
      ∃ conn, s.connections[c]? = some conn ∧ d.task.point.suits conn.phase = true ∧
        ConnectionAfter s a c conn conn' := by
    intro d hd hdc
    obtain ⟨conn, hconn⟩ := hsound.exists_connection t' d hd
    rw [hdc] at hconn
    exact ⟨conn, hconn, h t' d conn hd hdc hconn, connectionAfter hconn hconn'⟩
  cases driverAfter hd' with
  | same hd hstays =>
      obtain ⟨conn, hconn, hsuits, hafter⟩ := hbefore d' hd hc
      cases hafter with
      | same => exact hsuits
      | stop => exact Point.suits_stop hsuits
      | @move u m hact hmove hmc =>
          -- the task that moves is the only one of the connection
          have hu : u = t' :=
            (honly u _ (getElem?_drivers (nextMove?_eq_some hmove).1) hmc).trans
              (honly t' d' hd hc).symm
          rw [hu] at hact hmove
          rw [hstays hact] at hmove
          cases hmove
  | @move m hact hmove =>
      obtain ⟨he, hconn, reply, -, hm⟩ := nextMove?_eq_some hmove
      have hc : m.entry.connection = c := hc
      obtain ⟨conn, hconn₁, hsuits, hafter⟩ := hbefore _ (getElem?_drivers he) hc
      rw [hc, hconn₁] at hconn
      cases hconn
      subst hact
      have hmoved : conn' = m.move.connection := by
        rw [connections_after_step hmove, hc, getElem?_set_of_getElem? hconn₁] at hconn'
        cases hconn'
        rfl
      rw [hmoved, hm]
      exact Task.suits_resume reply hsuits
  | taken => rfl
  | loop => rfl
  | attempt => rfl

/-- In every run, while a connection has one task only the phase suits its point. -/
theorem suits_afterAll {t c : Nat} (hsound : s.Sound) (hsuits : s.Suits c) (acts : List Act)
    (honly : (s.afterAll acts).Only t c) : (s.afterAll acts).Suits c := by
  induction acts generalizing s with
  | nil => exact hsuits
  | cons a rest ih =>
      have hafter : (s.after a).Only t c := Only.of_afterAll honly
      exact ih (hsound.after a) (hsuits.after hsound hafter.of_after) honly

/-! ### From the beginning -/

/-- A task that is engaged for its connection suits it and is alone with it, in every run of a new
network in which all tasks are loops or the connection has one task only. -/
theorem suits_of_isEngaged {acts : List Act} {t : Nat} {d : Driver} {conn : Connection}
    (htasks : s.tasks = []) (hconnections : s.connections = [])
    (halone : (∀ a ∈ acts, a.byLoops = true) ∨ (s.afterAll acts).Only t d.connection)
    (hd : (s.afterAll acts).drivers[t]? = some d) (hengaged : d.task.point.isEngaged = true)
    (hconn : (s.afterAll acts).connections[d.connection]? = some conn) :
    d.task.point.suits conn.phase = true := by
  rcases halone with hloops | honly
  · have hcoherent := coherent_afterAll (coherent_of_nil htasks hconnections) acts hloops
    exact Point.suits_of_allows (hcoherent.engaged t d conn hd hconn hengaged).2
  · refine suits_afterAll (sound_of_nil htasks hconnections) ?_ acts honly t d conn hd rfl hconn
    intro t d conn hd
    simp [drivers, htasks] at hd

theorem alone_of_isEngaged {acts : List Act} {t : Nat} {d : Driver} (htasks : s.tasks = [])
    (hconnections : s.connections = [])
    (halone : (∀ a ∈ acts, a.byLoops = true) ∨ (s.afterAll acts).Only t d.connection)
    (hd : (s.afterAll acts).drivers[t]? = some d) (hengaged : d.task.point.isEngaged = true) :
    (s.afterAll acts).Alone t d.connection := by
  rcases halone with hloops | honly
  · exact alone_of_coherent
      (coherent_afterAll (coherent_of_nil htasks hconnections) acts hloops) hd hengaged
  · exact alone_of_only honly

end Network

end TelemetryGateway
