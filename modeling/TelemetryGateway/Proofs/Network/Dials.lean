import TelemetryGateway.Proofs.Network.Subscription
import TelemetryGateway.Proofs.Query

/-!
# The queries that are dialed

A task builds the query of its connection anew for every attempt.  Here the dials of a run are read
off what the device notes, and all of those of one connection turn out to be the same query: the one
that its name, its descriptor, its template and its settings give (`Connection.Asks`).

* `SubscriptionList.completes_addressedTo`: of the template at most the target designator changes;
* `Network.queries_after_step`: a move notes a dial exactly if the task was about to dial;
* `Network.Aimed.after`, `Network.aimed_afterAll`: a task that is about to dial, or is dialing, has
  the query of its connection;
* `Network.redials_afterAll`: the dials of a connection in any run.
-/

namespace TelemetryGateway

/-! ## What a query carries -/

/-- A list is a template in which at most the target designator was filled in. -/
structure SubscriptionList.Completes (l template : SubscriptionList) (name : String) : Prop where
  /-- Nothing differs but the prefix. -/
  others : l = { template with prefixPath := l.prefixPath }
  missing : template.prefixPath = none → l.prefixPath = some { target := name }
  blank : ∀ base, template.prefixPath = some base → base.target = "" →
    l.prefixPath = some { base with target := name }
  kept : ∀ base, template.prefixPath = some base → base.target ≠ "" → l.prefixPath = some base

theorem SubscriptionList.completes_addressedTo (template : SubscriptionList) (name : String) :
    (template.addressedTo name).Completes template name where
  others := rfl
  missing h := by simp [addressedTo, h, Path.withTarget]
  blank base h hblank := by simp [addressedTo, h, hblank, Path.withTarget]
  kept base h hkept := by simp [addressedTo, h, hkept]

namespace Connection

/-- A query carries what the connection was made for, and a transport can dial it. -/
structure Asks (conn : Connection) (q : Query) : Prop where
  valid : q.validate = .ok ()
  target : q.target = conn.name
  addresses : q.addresses = conn.descriptor.addresses
  credentials : q.credentials = conn.descriptor.credentials
  timeout : q.timeout = conn.settings.dialTimeout
  tls : q.tls = conn.settings.tls
  request : ∃ template list, conn.request.subscribe = some template ∧
    q.request.subscribe = some list ∧ list.Completes template conn.name

variable {conn : Connection} {q : Query}

theorem query_eq_ok_iff : conn.query = .ok q ↔
    Query.build conn.name conn.descriptor conn.request conn.settings.dialTimeout
      conn.settings.tls = .ok q ∧ q.validate = .ok () := by
  unfold query
  cases Query.build conn.name conn.descriptor conn.request conn.settings.dialTimeout
    conn.settings.tls with
  | error e => simp [bind, Except.bind]
  | ok built =>
      cases hvalid : built.validate with
      | error e =>
          have hne : built = q → q.validate ≠ .ok () := by
            rintro rfl
            simp [hvalid]
          simpa [bind, Except.bind, hvalid] using hne
      | ok _ =>
          have heq : built = q → q.validate = .ok () := by
            rintro rfl
            exact hvalid
          simpa [bind, Except.bind, hvalid, pure, Except.pure] using heq

/-- The query that a connection dials carries what the connection was made for. -/
theorem asks_of_query (h : conn.query = .ok q) : conn.Asks q := by
  obtain ⟨hbuild, hvalid⟩ := query_eq_ok_iff.mp h
  obtain ⟨template, htemplate, rfl⟩ := Query.build_eq_ok_iff.mp hbuild
  exact {
    valid := hvalid
    target := rfl
    addresses := rfl
    credentials := rfl
    timeout := rfl
    tls := rfl
    request := ⟨template, _, htemplate, rfl, template.completes_addressedTo conn.name⟩ }

end Connection

/-! ## What the device notes -/

theorem Device.queries_answerDial (d : Device) (q : Query) (link : Nat) :
    (d.answerDial q link).2.queries = d.queries := by
  unfold answerDial
  split
  · rfl
  · split <;> rfl

namespace Point

/-- The query that a task at a point is about to dial. -/
def calls? (p : Point) : Option Query :=
  match p.ask with
  | .call q => some q
  | _ => none

/-- The query that a task at a point dials or has dialed and waits for. -/
def query? : Point → Option Query
  | .arming q | .calling q | .dialing q _ _ => some q
  | _ => none

theorem query?_of_calls? {p : Point} {q : Query} (h : p.calls? = some q) : p.query? = some q := by
  cases p <;> simp_all [calls?, ask, query?]

end Point

/-- A query that a task has dialed. -/
structure Dial where
  /-- The number of the connection. -/
  connection : Nat
  query : Query

namespace Network

/-- The dials that the device notes in an act. -/
def dialsIn (s : Network) : Act → List Dial
  | .step t => (s.tasks[t]?).elim [] fun e =>
      ((s.after (.step t)).device.queries.drop s.device.queries.length).map fun query =>
        { connection := e.connection, query }
  | _ => []

/-- The dials of a run. -/
def dials (s : Network) (acts : List Act) : List Dial := s.collect dialsIn acts

/-- The queries that the tasks of a connection dial in a run. -/
def dialed (s : Network) (c : Nat) (acts : List Act) : List Query :=
  ((s.dials acts).filter (·.connection == c)).map (·.query)

variable {s : Network} {a : Act}

/-- To answer a task notes a dial exactly if the task is about to dial. -/
theorem queries_of_reply? {e : TaskEntry} {c : Connection} {reply : Reply} {answered : Network}
    (h : s.reply? e c = some (reply, answered)) :
    answered.device.queries = s.device.queries ++ e.task.point.calls?.toList := by
  unfold reply? at h
  unfold Point.calls?
  cases hask : e.task.point.ask with
  | call q =>
      simp only [hask] at h
      cases h
      rfl
  | dial q due giveUp =>
      simp only [hask] at h
      have hqueries := Device.queries_answerDial s.device q s.links.length
      simp only [Option.toList_none, List.append_nil]
      split at h
      · split at h
        · next hanswer =>
          cases h
          rw [hanswer] at hqueries
          exact hqueries
        · next hanswer =>
          cases h
          rw [hanswer] at hqueries
          exact hqueries
      · split at h
        · cases h
          rfl
        · split at h <;> cases h
          rfl
  | lock =>
      simp only [hask] at h
      split at h <;> cases h <;> simp
  | event l =>
      simp only [hask] at h
      obtain ⟨_, -, hread⟩ := Option.map_eq_some_iff.mp h
      cases hread
      simp
  | wake time =>
      simp only [hask] at h
      split at h <;> cases h
      simp
  | _ =>
      simp only [hask] at h
      cases h <;> simp [takeSlot]

theorem queries_after_step {t : Nat} {m : NextMove} (h : s.nextMove? t = some m) :
    (s.after (.step t)).device.queries =
      s.device.queries ++ m.entry.task.point.calls?.toList := by
  obtain ⟨-, -, reply, hreply, -⟩ := nextMove?_eq_some h
  have hframe : ((m.noted t).performAll m.entry m.connection m.move.outputs).device =
      (m.noted t).device := by
    apply performAll_frame (f := Network.device)
    intro s o
    cases o with
    | call call =>
        obtain ⟨_, _, heq⟩ := exists_perform_call s m.entry m.connection call
        rw [heq]
    | _ => rfl
  rw [after, step_eq_some h, Option.getD_some, hframe]
  show m.answered.device.queries = _
  exact queries_of_reply? hreply

theorem dialsIn_step {t : Nat} {m : NextMove} (h : s.nextMove? t = some m) :
    s.dialsIn (.step t) =
      m.entry.task.point.calls?.toList.map fun query => ⟨m.entry.connection, query⟩ := by
  rw [dialsIn, (nextMove?_eq_some h).1, queries_after_step h, List.drop_left]
  rfl

theorem dialsIn_step_of_none {t : Nat} (h : s.nextMove? t = none) : s.dialsIn (.step t) = [] := by
  rw [dialsIn, after_step_of_none h, List.drop_length]
  cases s.tasks[t]? <;> rfl

/-- A dial is the move of a task that was about to dial. -/
theorem exists_move_of_mem_dialsIn {d : Dial} (h : d ∈ s.dialsIn a) :
    ∃ (t : Nat) (m : NextMove), a = .step t ∧ s.nextMove? t = some m ∧
      m.entry.connection = d.connection ∧ m.entry.task.point.calls? = some d.query := by
  cases a with
  | step t =>
      cases hmove : s.nextMove? t with
      | none =>
          rw [dialsIn_step_of_none hmove] at h
          cases h
      | some m =>
          rw [dialsIn_step hmove] at h
          obtain ⟨q, hq, rfl⟩ := List.mem_map.mp h
          exact ⟨t, m, rfl, hmove, rfl, Option.mem_toList.mp hq⟩
  | _ => cases h

end Network

/-! ## The query of an attempt -/

namespace Task

variable {t : Task} {c : Connection} (reply : Reply)

@[simp] theorem query?_conclude (outcome : ConnectOutcome) :
    (t.conclude outcome).point.query? = none := by
  cases hloop : t.isLoop <;> cases outcome <;> simp [conclude, hloop, Point.query?]

/-- A task gets the query of its connection, and keeps it until its dial is over. -/
theorem query?_resume {q : Query} (hquery : (t.resume c reply).task.point.query? = some q) :
    t.point.query? = some q ∨ c.query = .ok q := by
  revert hquery
  fun_cases Task.resume t c reply
  all_goals simp_all +zetaDelta [giveUp]
  all_goals simp [Point.query?]
  · -- a slot was granted
    cases t.hasLock <;> simp
  · -- nobody has stopped the connection before the dial
    exact .inl
  · -- the dial has begun
    exact .inl

end Task

namespace Network

variable {s : Network} {a : Act}

/-- Every task that is about to dial, or is dialing, has the query of its connection. -/
def Aimed (s : Network) : Prop :=
  ∀ (t : Nat) (d : Driver) (q : Query), s.drivers[t]? = some d → d.task.point.query? = some q →
    ∃ conn : Connection, s.connections[d.connection]? = some conn ∧ conn.query = .ok q

theorem exists_fresh_after {c : Nat} {conn : Connection} (h : s.connections[c]? = some conn) :
    ∃ conn' : Connection, (s.after a).connections[c]? = some conn' ∧ conn'.fresh = conn.fresh := by
  obtain ⟨conn', hconn', hafter⟩ := exists_connectionAfter (a := a) h
  refine ⟨conn', hconn', ?_⟩
  cases hafter with
  | same => rfl
  | stop => rfl
  | move _ hmove hc =>
      obtain ⟨-, -, reply, -, hm⟩ := nextMove?_eq_some hmove
      rw [hm, Task.fresh_resume, connection_eq_of_move hmove hc h]

/-- What a connection was made for does not change in a run. -/
theorem exists_fresh_afterAll {c : Nat} {conn : Connection} (h : s.connections[c]? = some conn)
    (acts : List Act) : ∃ conn' : Connection, (s.afterAll acts).connections[c]? = some conn' ∧
      conn'.fresh = conn.fresh := by
  induction acts generalizing s conn with
  | nil => exact ⟨conn, h, rfl⟩
  | cons a rest ih =>
      obtain ⟨mid, hmid, hfresh⟩ := exists_fresh_after (a := a) h
      obtain ⟨conn', hconn', hfresh'⟩ := ih hmid
      exact ⟨conn', hconn', hfresh'.trans hfresh⟩

theorem aimed_of_nil (htasks : s.tasks = []) : s.Aimed := by
  simp [Aimed, drivers, htasks]

theorem Aimed.after (h : s.Aimed) (a : Act) : (s.after a).Aimed := by
  -- a connection keeps its query, so only the task that moves matters
  have hkept : ∀ (c : Nat) (q : Query),
      (∃ conn : Connection, s.connections[c]? = some conn ∧ conn.query = .ok q) →
      ∃ conn : Connection, (s.after a).connections[c]? = some conn ∧ conn.query = .ok q := by
    rintro c q ⟨conn, hconn, hquery⟩
    obtain ⟨conn', hconn', hfresh⟩ := exists_fresh_after (a := a) hconn
    exact ⟨conn', hconn', (Connection.query_eq_of_fresh hfresh).trans hquery⟩
  intro t d q hd hpoint
  cases driverAfter hd with
  | same hold => exact hkept _ q (h t d q hold hpoint)
  | @move m _ hmove =>
      obtain ⟨he, hconn, reply, -, hm⟩ := nextMove?_eq_some hmove
      have hpoint : m.move.task.point.query? = some q := hpoint
      rw [hm] at hpoint
      rcases Task.query?_resume reply hpoint with hbefore | hquery
      · exact hkept _ q (h t m.entry.driver q (getElem?_drivers he) hbefore)
      · exact hkept _ q ⟨m.connection, hconn, hquery⟩
  | taken => cases hpoint
  | loop => cases hpoint
  | attempt => cases hpoint

theorem aimed_afterAll (h : s.Aimed) (acts : List Act) : (s.afterAll acts).Aimed := by
  induction acts generalizing s with
  | nil => exact h
  | cons a rest ih => exact ih (h.after a)

/-- Every dial of a run is one of the query of its connection. -/
theorem query_of_mem_dials (h : s.Aimed) (acts : List Act) {d : Dial} (hd : d ∈ s.dials acts) :
    ∃ conn : Connection, (s.afterAll acts).connections[d.connection]? = some conn ∧
      conn.query = .ok d.query := by
  induction acts using List.reverseRecOn with
  | nil => cases hd
  | append_singleton acts a ih =>
      rw [dials, collect_concat] at hd
      have hbefore : ∃ conn : Connection,
          (s.afterAll acts).connections[d.connection]? = some conn ∧
            conn.query = .ok d.query := by
        rcases List.mem_append.mp hd with hold | hnow
        · exact ih hold
        · obtain ⟨t, m, -, hmove, hc, hcalls⟩ := exists_move_of_mem_dialsIn hnow
          rw [← hc]
          exact aimed_afterAll h acts t _ _ (getElem?_drivers (nextMove?_eq_some hmove).1)
            (Point.query?_of_calls? hcalls)
      obtain ⟨conn, hconn, hquery⟩ := hbefore
      obtain ⟨conn', hconn', hfresh⟩ := exists_fresh_after (a := a) hconn
      rw [afterAll_concat]
      exact ⟨conn', hconn', (Connection.query_eq_of_fresh hfresh).trans hquery⟩

theorem mem_dialed {c : Nat} {acts : List Act} {q : Query} :
    q ∈ s.dialed c acts ↔ ⟨c, q⟩ ∈ s.dials acts := by
  unfold dialed
  simp only [List.mem_map, List.mem_filter, beq_iff_eq]
  constructor
  · rintro ⟨⟨c', q'⟩, ⟨hmem, rfl⟩, rfl⟩
    exact hmem
  · exact fun hmem => ⟨_, ⟨hmem, rfl⟩, rfl⟩

/-- What is certain of the dials of a connection in a run, after which the connection is the given
one. -/
structure Redials (s : Network) (acts : List Act) (c : Nat) (conn : Connection) : Prop where
  /-- All dials are of the same query. -/
  equal : ∀ q ∈ s.dialed c acts, ∀ q' ∈ s.dialed c acts, q = q'
  /-- The query carries what the connection was made for. -/
  asks : ∀ q ∈ s.dialed c acts, conn.Asks q
  /-- A connection for which no query can be built and accepted never dials. -/
  silent : (∀ q, Query.build conn.name conn.descriptor conn.request conn.settings.dialTimeout
      conn.settings.tls = .ok q → q.validate ≠ .ok ()) → s.dialed c acts = []
  /-- What the connection was made for was the same at any earlier time. -/
  unchanged : ∀ before (old : Connection), before <+: acts →
    (s.afterAll before).connections[c]? = some old →
    old.name = conn.name ∧ old.descriptor = conn.descriptor ∧ old.request = conn.request ∧
      old.settings = conn.settings

/-- However often the tasks of a connection dial, they dial the same query. -/
theorem redials_afterAll (h : s.Aimed) (acts : List Act) {c : Nat} {conn : Connection}
    (hconn : (s.afterAll acts).connections[c]? = some conn) : s.Redials acts c conn := by
  have hquery : ∀ q ∈ s.dialed c acts, conn.query = .ok q := by
    intro q hq
    obtain ⟨conn', hconn', hquery⟩ := query_of_mem_dials h acts (mem_dialed.mp hq)
    rwa [Option.some_inj.mp (hconn'.symm.trans hconn)] at hquery
  constructor
  case equal =>
    intro q hq q' hq'
    exact Except.ok.inj ((hquery q hq).symm.trans (hquery q' hq'))
  case asks => exact fun q hq => Connection.asks_of_query (hquery q hq)
  case silent =>
    intro hrefused
    refine List.eq_nil_iff_forall_not_mem.mpr fun q hq => ?_
    obtain ⟨hbuild, hvalid⟩ := Connection.query_eq_ok_iff.mp (hquery q hq)
    exact hrefused q hbuild hvalid
  case unchanged =>
    rintro before old ⟨rest, rfl⟩ hold
    obtain ⟨conn', hconn', hfresh⟩ := exists_fresh_afterAll hold rest
    rw [← afterAll_append] at hconn'
    obtain rfl := Option.some_inj.mp (hconn'.symm.trans hconn)
    exact ⟨(congrArg Connection.name hfresh).symm, (congrArg Connection.descriptor hfresh).symm,
      (congrArg Connection.request hfresh).symm, (congrArg Connection.settings hfresh).symm⟩

end Network

end TelemetryGateway
