import TelemetryGateway.Proofs.Network.Coherence
import TelemetryGateway.Proofs.Query

/-!
# Attempts of accepted targets

The query of a connection is the same in every attempt, so an attempt fails at its query always or
never.  In every run a loop is past its query only if the query of its connection was accepted
(`Network.queried_afterAll`).  For the connections that are made from accepted configurations this
leaves one thing that decides, whether the subscription list of the template has anything in it
(`Network.attempts_of_accepted`).
-/

namespace TelemetryGateway

/-- Whether a task at a point has got an accepted query in its current attempt. -/
def Point.isPastQuery : Point → Bool
  | .arming _ | .calling _ | .dialing _ _ _ | .opening _ | .streaming _ | .closing _ => true
  | _ => false

/-- The connection that is made for a target. -/
def Connection.ofTarget (g : GatewayConfig) (name : String) (d : TargetDescriptor)
    (request : SubscribeRequest) (sink : SinkRef) : Connection where
  name
  descriptor := d
  request
  settings := g.connectionSettings
  sink

/-- The configuration of one target and its template. -/
def TargetConfiguration.single (name : String) (d : TargetDescriptor) (request : SubscribeRequest) :
    TargetConfiguration where
  targets := .ofList [(name, d)]
  requests := .ofList [(d.request, request)]

/-! ## What is reported -/

theorem Reaction.report_mem_outputs {r : Reaction} {o : Occurrence} :
    .report o ∈ r.outputs ↔ o ∈ r.occurrences := by
  simp [Reaction.outputs]

namespace Phase

variable (e : GatewayError)

theorem queryFailed_notMem_lose (p : Phase) : .queryFailed e ∉ p.lose.occurrences := by
  fun_cases lose p <;> simp

theorem queryFailed_notMem_greet (p : Phase) : .queryFailed e ∉ p.greet.occurrences := by
  fun_cases greet p <;> simp

/-- A message is handled without a query. -/
theorem queryFailed_notMem_receive (p : Phase) (name : String) (scope : RejectionScope)
    (refuses : Notification → Bool) (message : SubscribeResponse) :
    .queryFailed e ∉ (p.receive name scope refuses message).1.occurrences := by
  have hgreet := queryFailed_notMem_greet e p
  have hcomplete : .queryFailed e ∉ p.greet.phase.complete.occurrences := by
    fun_cases complete p.greet.phase <;> simp
  unfold receive
  split
  · simp
  · simp only
    split
    · exact hgreet
    · exact hgreet
    · simp [hgreet, hcomplete]
    · split <;> simp [hgreet]

end Phase

/-! ## One move -/

namespace Task

variable {t : Task} {c : Connection} (reply : Reply)

@[simp] theorem isPastQuery_conclude (outcome : ConnectOutcome) :
    (t.conclude outcome).point.isPastQuery = false := by
  cases hloop : t.isLoop <;> cases outcome <;> simp [conclude, hloop, Point.isPastQuery]

/-- A task gets past its query only if the query is accepted. -/
theorem isPastQuery_resume (hpast : (t.resume c reply).task.point.isPastQuery = true) :
    t.point.isPastQuery = true ∨ ∃ q, c.query = .ok q := by
  revert hpast
  fun_cases Task.resume t c reply
  all_goals simp_all +zetaDelta [giveUp]
  all_goals simp [Point.isPastQuery]
  -- a slot was granted
  cases t.hasLock <;> simp

/-- Only a query that is refused is reported as failed. -/
theorem queryFailed_mem_outputs_resume {e : GatewayError}
    (hmem : .report (.queryFailed e) ∈ (t.resume c reply).outputs) : c.query = .error e := by
  revert hmem
  fun_cases Task.resume t c reply
  all_goals simp_all +zetaDelta [giveUp, Reaction.report_mem_outputs, Phase.queryFailed_notMem_lose]
  -- a message has arrived
  rename_i message refuses _ _ error hreceive
  have hsilent := Phase.queryFailed_notMem_receive e c.phase c.name c.settings.rejectionScope
    refuses message
  rw [hreceive] at hsilent
  cases error <;> simp [hsilent]

/-- A loop whose query is refused gives nothing back. -/
theorem resume_of_refused (hloop : t.isLoop = true) (hpoint : t.point = .preparing)
    {e : GatewayError} (hquery : c.query = .error e) :
    (t.resume c .proceed).task = { t with point := .pausing } := by
  simp [resume, hpoint, hquery, giveUp, conclude, hloop]

end Task

/-! ## Runs -/

namespace Network

/-- Every task that is past its query belongs to a connection whose query is accepted. -/
def Queried (s : Network) : Prop :=
  ∀ (t : Nat) (d : Driver), s.drivers[t]? = some d → d.task.point.isPastQuery = true →
    ∃ (conn : Connection) (q : Query), s.connections[d.connection]? = some conn ∧
      conn.query = .ok q

variable {s s' : Network}

theorem queried_of_nil (htasks : s.tasks = []) : s.Queried := by
  simp [Queried, drivers, htasks]

/-- Whatever happens, no task gets past a query that is refused. -/
theorem Queried.effect (h : s.Queried) {a : Act} {handovers : List Handover}
    (he : Effect s a s' handovers) : s'.Queried := by
  -- a connection keeps its query, so only the task that moves matters
  have hkept : ∀ (c : Nat) (conn : Connection) (q : Query), s.connections[c]? = some conn →
      conn.query = .ok q → ∃ (conn' : Connection) (q' : Query), s'.connections[c]? = some conn' ∧
        conn'.query = .ok q' := by
    intro c conn q hconn hquery
    obtain ⟨conn', hconn', hfresh⟩ := he.exists_after hconn
    exact ⟨conn', q, hconn', (Connection.query_eq_of_fresh hfresh).trans hquery⟩
  have hold : ∀ (t : Nat) (d : Driver), s.drivers[t]? = some d →
      d.task.point.isPastQuery = true → ∃ (conn' : Connection) (q' : Query),
        s'.connections[d.connection]? = some conn' ∧ conn'.query = .ok q' := by
    intro t d hd hpast
    obtain ⟨conn, q, hconn, hquery⟩ := h t d hd hpast
    exact hkept _ conn q hconn hquery
  intro t d' hd' hpast
  cases he with
  | quiet hdrivers =>
      rw [hdrivers] at hd'
      exact hold t d' hd' hpast
  | stop _ hdrivers =>
      rw [hdrivers] at hd'
      exact hold t d' hd' hpast
  | connection _ _ _ hdrivers =>
      rw [hdrivers] at hd'
      exact hold t d' hd' hpast
  | loop _ hdrivers =>
      rw [hdrivers] at hd'
      rcases of_getElem?_concat hd' with hd | ⟨-, rfl⟩
      · exact hold t d' hd hpast
      · cases hpast
  | move hd hconn _ hdrivers =>
      rw [hdrivers] at hd'
      rcases of_getElem?_set hd' with ⟨rfl, rfl⟩ | ⟨-, hd'⟩
      · rcases Task.isPastQuery_resume _ hpast with hbefore | ⟨q, hquery⟩
        · have hmover := hold t _ hd hbefore
          exact hmover
        · exact hkept _ _ q hconn hquery
      · exact hold t d' hd' hpast

theorem queried_afterAll (hstart : s.Queried) (acts : List Act)
    (hacts : ∀ a ∈ acts, a.byLoops = true) : (s.afterAll acts).Queried :=
  afterAll_induction _ (motive := fun s _ => s.Queried)
    (fun s _ a ha h => h.effect (after_effect s a ha)) hstart acts hacts

/-- For a target of accepted configurations a query can be built, and it is accepted exactly if the
subscription list of the template is not empty.  In every run a connection that is made for the
target follows this: with subscriptions none of its attempts fails at the query, and without them
none gets past it, while its loop gives nothing back. -/
theorem attempts_of_accepted (g : GatewayConfig) (c : TargetConfiguration)
    (hg : g.validate = .ok ()) (hc : c.validate = .ok ()) (name : String) (d : TargetDescriptor)
    (hmem : (name, d) ∈ c.targets.entries) :
    ∃ request list q, c.requestFor? d = some request ∧ request.subscribe = some list ∧
      Query.build name d request g.connectionSettings.dialTimeout g.connectionSettings.tls = .ok q ∧
      (q.validate = if list.subscription = [] then
        .error (.invalidQuery name QueryFault.emptyList.reason) else .ok ()) ∧
      ∀ (pools : List SlotPool) (locks : LockService) (acts : List Act),
        (∀ a ∈ acts, a.byLoops = true) → ∀ (id : Nat) (conn : Connection) (sink : SinkRef),
          (afterAll { pools, locks } acts).connections[id]? = some conn →
          conn.fresh = .ofTarget g name d request sink →
            (list.subscription ≠ [] → conn.query = .ok q ∧
              ∀ (t : Task) (reply : Reply) (e : GatewayError),
                .report (.queryFailed e) ∉ (t.resume conn reply).outputs) ∧
            (list.subscription = [] → ∀ entry ∈ (afterAll { pools, locks } acts).tasks,
              entry.connection = id → entry.task.point.isPastQuery = false ∧
                (entry.task.point = .preparing →
                  (entry.task.resume conn .proceed).task =
                    { entry.task with point := .pausing })) := by
  have hg := (GatewayConfig.validate_eq_ok_iff g).mp hg
  have hd := (TargetConfiguration.validate_eq_ok_iff c).mp hc name d hmem
  obtain ⟨request, list, q, hrequest, hlist, hbuild, hvalid⟩ :=
    TargetConfiguration.validate_query_of_accepted hg hd
  refine ⟨request, list, q, hrequest, hlist, hbuild, hvalid, ?_⟩
  intro pools locks acts hacts id conn sink hconn hfresh
  have hquery : conn.query = do q.validate; return q := by
    have hsame : conn.query = (Connection.ofTarget g name d request sink).query :=
      Connection.query_eq_of_fresh hfresh
    rw [hsame, Connection.query, Connection.ofTarget, hbuild]
    rfl
  constructor
  · intro hsome
    rw [hvalid, if_neg hsome] at hquery
    have hok : conn.query = .ok q := hquery
    refine ⟨hok, fun t reply e hmem => ?_⟩
    have herror := Task.queryFailed_mem_outputs_resume reply hmem
    rw [hok] at herror
    cases herror
  · intro hempty entry hentry hid
    rw [hvalid, if_pos hempty] at hquery
    have herror : conn.query = .error (.invalidQuery name QueryFault.emptyList.reason) := hquery
    obtain ⟨t, ht⟩ := List.mem_iff_getElem?.mp hentry
    have hdriver := getElem?_drivers ht
    constructor
    · rw [Bool.eq_false_iff]
      intro hpast
      obtain ⟨conn', q', hconn', hquery'⟩ :=
        queried_afterAll (queried_of_nil rfl) acts hacts t entry.driver hdriver hpast
      subst hid
      have hsame := hconn.symm.trans hconn'
      cases hsame
      rw [herror] at hquery'
      cases hquery'
    · have hloop := (coherent_afterAll (coherent_of_nil rfl rfl) acts hacts).isLoop t _ hdriver
      exact fun hpoint => Task.resume_of_refused hloop hpoint herror

/-- A target with a subscription: its query is accepted, and its attempts do not fail at it. -/
theorem attempts_of_accepted_subscription :
    let d : TargetDescriptor := { addresses := ["10.0.0.1"], request := "default" }
    let request : SubscribeRequest := .stream [.ofNames ["system"]]
    let acts : List Act := [.recorder, .connection (.ofTarget {} "leaf1" d request (.recorder 0)),
      .loop 0 0] ++ List.replicate 7 (.step 0)
    let s := afterAll { pools := [{ capacity := 1, available := 1 }], locks := .registry {} } acts
    ∃ q conn, Query.build "leaf1" d request 10000 {} = .ok q ∧ q.validate = .ok () ∧
      s.connections[0]? = some conn ∧ conn.query = .ok q ∧
      ∀ (t : Task) (reply : Reply) (e : GatewayError),
        .report (.queryFailed e) ∉ (t.resume conn reply).outputs := by
  intro d request acts s
  have hfault : (TargetConfiguration.single "leaf1" d request).fault? = none := by decide +kernel
  obtain ⟨_, list, q, hrequest, hlist, hbuild, hvalid, hruns⟩ :=
    attempts_of_accepted {} (.single "leaf1" d request) (by rfl)
      (by rw [TargetConfiguration.validate, hfault]) "leaf1" d (.head _)
  cases hrequest
  cases hlist
  rw [if_neg (by simp)] at hvalid
  obtain ⟨conn, hconn, hphase⟩ : ∃ conn, s.connections[0]? = some conn ∧
      conn.fresh = .ofTarget {} "leaf1" d request (.recorder 0) := by
    have hfresh : (s.connections[0]?).map Connection.fresh =
        some (.ofTarget {} "leaf1" d request (.recorder 0)) := by decide +kernel
    exact Option.map_eq_some_iff.mp hfresh
  obtain ⟨hquery, hsilent⟩ := (hruns _ _ acts (by decide) 0 conn _ hconn hphase).1 (by simp)
  exact ⟨q, conn, hbuild, hvalid, hconn, hquery, hsilent⟩

/-- A target with an empty subscription list: both configurations are accepted and its query is
refused, again and again, while its loop has a slot and the lock. -/
theorem empty_list_refused :
    let d : TargetDescriptor := { addresses := ["10.0.0.1"], request := "default" }
    let request : SubscribeRequest := ⟨some {}⟩
    let c : TargetConfiguration := .single "leaf1" d request
    let acts : List Act := [.recorder, .connection (.ofTarget {} "leaf1" d request (.recorder 0)),
      .loop 0 0] ++ List.replicate 7 (.step 0) ++ [.clock 50] ++ List.replicate 4 (.step 0)
    let s := afterAll { pools := [{ capacity := 1, available := 1 }], locks := .registry {} } acts
    let refusal : GatewayError := .invalidQuery "leaf1" "subscription list is empty"
    ({} : GatewayConfig).validate = .ok () ∧ c.validate = .ok () ∧
      ("leaf1", d) ∈ c.targets.entries ∧
      (¬ ∃ request q, c.requestFor? d = some request ∧
        Query.build "leaf1" d request 10000 {} = .ok q ∧ q.validate = .ok ()) ∧
      s.journal = [⟨"leaf1", .lockAcquired⟩, ⟨"leaf1", .queryFailed refusal⟩,
        ⟨"leaf1", .queryFailed refusal⟩] ∧
      s.tasks.map (fun e => (e.task.hasSlot, e.task.hasLock)) = [(true, true)] := by
  intro d request c acts s refusal
  have hfault : c.fault? = none := by decide +kernel
  refine ⟨by rfl, by rw [TargetConfiguration.validate, hfault], .head _, ?_, by decide +kernel,
    by decide +kernel⟩
  rintro ⟨_, q, hrequest, hbuild, hvalid⟩
  cases hrequest
  cases hbuild
  cases hvalid

end Network

end TelemetryGateway
