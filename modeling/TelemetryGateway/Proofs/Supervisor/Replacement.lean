import TelemetryGateway.Proofs.Supervisor.Reconciliation
import TelemetryGateway.Proofs.Supervisor.Upkeep

/-!
# What a replaced target leaves behind

When a target is replaced its new connection goes on with the cache of the old one.  The old
connection is told to stop and its loop is waited for, so that it can clear the cache and give the
lock back; but the wait is limited, and a loop that has not ended by then is taken away and does
neither.

* `Network.Outfit`: the connection, the loop, the gate and the cache of a target, and how they are
  in step;
* `Succession`: what there is when the new connection of a replaced target has been started;
* `exists_replacing`: where `apply` replaces a target that it tells about;
* `succession_of_replaced`: each replacement of every reachable supervisor is a succession, from
  which on the cache is what the new connection makes of it;
* `stale_leaf_of_abort`: a cache that shows a leaf of each of two subscriptions.
-/

namespace TelemetryGateway

namespace Network

/-- The connection, the loop, the gate and the cache of a target, and how they are in step. -/
structure Outfit (n : Network) (target : SupervisedTarget) (conn : Connection) (loop : TaskEntry)
    (gate id : Nat) (k : TargetCache) : Prop where
  connection : n.connections[target.connection]? = some conn
  feeds : conn.sink = .cache id
  task : n.tasks[target.task]? = some loop
  locksWith : loop.gate = some gate
  /-- The gate has the lock exactly if the loop believes so. -/
  mark : n.locks.marks[gate]? = some loop.task.hasLock
  /-- A loop that has ended has given the lock back, and its connection owns nothing. -/
  ended : loop.task.point.isFinished = true →
    loop.task.hasLock = false ∧ conn.phase.ownsCacheState = false
  cache : n.caches.cache? id = some k
  settled : k.connected = true ∨ k.IsClear
  connected : conn.phase.ownsCacheState = true → k.connected = true

variable {n n' : Network} {crew : Crew} {name : String} {target : SupervisedTarget}
  {conn : Connection} {loop loop' : TaskEntry} {gate id : Nat} {k : TargetCache}

namespace Outfit

theorem isHeldBy (h : n.Outfit target conn loop gate id k) :
    n.locks.isHeldBy gate = loop.task.hasLock := by
  rw [LockService.isHeldBy, h.mark, Option.getD_some]

theorem isClear_iff (h : n.Outfit target conn loop gate id k) :
    k.IsClear ↔ k.connected = false := by
  refine ⟨fun hclear => hclear.1, fun hconnected => h.settled.resolve_left ?_⟩
  rw [hconnected]
  exact Bool.false_ne_true

/-- What a target has depends on nothing else, and not on whether its loop is to be taken away. -/
theorem congr (h : n.Outfit target conn loop gate id k)
    (hconn : n'.connections[target.connection]? = some conn)
    (hcache : n'.caches.cache? id = some k)
    (hmark : n'.locks.marks[gate]? = some loop.task.hasLock)
    (htask : n'.tasks[target.task]? = some loop') (hsame : loop'.driver = loop.driver) :
    n'.Outfit target conn loop' gate id k := by
  have hgate : loop'.gate = loop.gate := congrArg Driver.gate hsame
  have hloop : loop'.task = loop.task := congrArg Driver.task hsame
  exact {
    connection := hconn
    feeds := h.feeds
    task := htask
    locksWith := hgate.trans h.locksWith
    mark := hloop ▸ hmark
    ended := hloop ▸ h.ended
    cache := hcache
    settled := h.settled
    connected := h.connected }

theorem report (h : n.Outfit target conn loop gate id k) (name : String) (o : Occurrence) :
    (n.report name o).Outfit target conn loop gate id k :=
  h.congr h.connection h.cache h.mark h.task rfl

/-- A target keeps what it has when the loop is to be taken away. -/
theorem abort (h : n.Outfit target conn loop gate id k) :
    (n.abort target.task).Outfit target conn { loop with aborted := true } gate id k := by
  refine h.congr h.connection h.cache h.mark ?_ rfl
  simp [Network.abort, modifyTask, h.task]

/-- A target keeps what it has when another connection is made and gets a loop. -/
theorem enlist (h : n.Outfit target conn loop gate id k) {new : Connection} {entry : TaskEntry}
    (hlists : n.Enlists new n') (htasks : n'.tasks = n.tasks ++ [entry])
    (hid : n.caches.get? new.name = some id) : n'.Outfit target conn loop gate id k := by
  refine h.congr ?_ ?_ ?_ ?_ rfl
  · rw [hlists.connections, getElem?_concat_of_getElem? h.connection]
  · rw [hlists.caches, n.caches.getOrAdd_of_get? _ hid]
    exact h.cache
  · rw [hlists.locks, (n.locks.marks_gate new.name).2, getElem?_concat_of_getElem? h.mark]
  · rw [htasks, getElem?_concat_of_getElem? h.task]

end Outfit

/-- Every target of a crew has its outfit.  If no loop that feeds its cache was cut, the cache is
connected only if the connection owns it. -/
theorem Tended.exists_outfit (h : n.Tended crew) (htarget : crew name = some target) :
    ∃ conn loop gate id k, n.Outfit target conn loop gate id k ∧
      n.caches.get? name = some id ∧ loop.aborted = false ∧
      (¬ n.IsCut id → k.connected = true → conn.phase.ownsCacheState = true) := by
  have hpaired := h.crewed.paired
  obtain ⟨hnumber, habort, id, hid, hfeeds⟩ := h.crewed.serving name target htarget
  obtain ⟨conn, hconn, hsink⟩ := exists_of_getElem?_sinks hfeeds
  obtain ⟨loop, hloop, haborted⟩ : ∃ e : TaskEntry, n.tasks[target.task]? = some e ∧
      e.aborted = false := by
    rw [aborts, List.getElem?_map] at habort
    exact Option.map_eq_some_iff.mp habort
  have hd := getElem?_drivers hloop
  obtain ⟨gate, hgate, hmark⟩ := hpaired.gate _ _ hd
  obtain ⟨k, hk⟩ : ∃ k, n.caches.cache? id = some k :=
    ⟨_, List.getElem?_eq_getElem (h.crewed.name_lt name id hid)⟩
  have howned := hpaired.isOwned_iff (fun i hi hsame => h.crewed.eq_task htarget hid hi hsame)
    (hnumber ▸ hconn) habort hsink
  refine ⟨conn, loop, gate, id, k, ?_, hid, haborted, fun hcut hconnected => ?_⟩
  · exact {
      connection := hconn
      feeds := hsink
      task := hloop
      locksWith := hgate
      mark := hmark
      ended := fun hover => ⟨hpaired.hasLock_of_finished hd hover,
        Phase.ownsCacheState_of_isResting
          (hpaired.resting_of_finished hd (hnumber ▸ hconn) habort hover)⟩
      cache := hk
      settled := h.settled id k hk
      connected := fun howns => h.owned id k hk (howned.mpr howns) }
  · exact howned.mp ((h.connected id k hk hconnected).resolve_right hcut)

end Network

namespace Supervisor

variable {s s' : Supervisor} {c : TargetConfiguration} {name : String} {old : SupervisedTarget}
  {conn : Connection} {loop : TaskEntry} {gate id : Nat} {k : TargetCache}

/-! ## Stops and starts -/

/-- How a target is left when it was stopped.  If its loop has not ended it is to be taken away. -/
theorem exists_retired (h : s.Attended) (hold : s.targets.get? name = some old) :
    ∃ conn loop gate id k, (s.stopTarget name).network.Outfit old conn loop gate id k ∧
      s.network.caches.get? name = some id ∧
      (s.stopTarget name).network.caches.get? name = some id ∧
      loop.aborted = !loop.task.point.isFinished ∧
      (¬ s.network.IsCut id → k.connected = true → conn.phase.ownsCacheState = true) := by
  obtain ⟨n, hpasses, hcases⟩ := exists_stopTarget hold
  have hn : n.Tended s.targets.get? :=
    (h.after (a := .disconnect old.connection) rfl).passes hpasses
  obtain ⟨conn, loop, gate, id, k, houtfit, hid, haborted, hconnected⟩ := hn.exists_outfit hold
  have hnames : s.network.caches.get? name = some id := by
    rw [← hid, CacheRegistry.get?, CacheRegistry.get?, hpasses.names,
      (Network.disconnect_frame _ _).2.2]
  have hcut : n.IsCut id ↔ s.network.IsCut id := by
    apply Network.isCut_congr
    · exact hpasses.sinks.trans (Network.sinks_after (a := .disconnect old.connection) rfl)
    · rw [hpasses.aborts, Network.aborts_disconnect]
  rw [hcut] at hconnected
  have hover : n.isFinished old.task = loop.task.point.isFinished := by
    rw [Network.isFinished, Network.taskIs, houtfit.task]
    rfl
  rcases hcases with ⟨hended, hnetwork⟩ | ⟨hopen, hnetwork⟩
  · rw [hnetwork]
    refine ⟨conn, loop, gate, id, k, houtfit, hnames, hid, ?_, hconnected⟩
    rw [haborted, ← hover, hended, Bool.not_true]
  · rw [hnetwork]
    refine ⟨conn, _, gate, id, k, (houtfit.report _ _).abort, hnames, hid, ?_, hconnected⟩
    show true = !loop.task.point.isFinished
    rw [← hover, hopen, Bool.not_false]

/-- What there is when the connection `new` of a target has been started in the place of `old`. -/
structure Succession (mid started : Supervisor) (name : String) (old new : SupervisedTarget)
    (conn : Connection) (loop : TaskEntry) (gate id : Nat) (k : TargetCache) : Prop where
  before : mid.targets.get? name = some old
  after : started.targets.get? name = some new
  /-- The new connection is not the old one, and it feeds the same cache. -/
  fresh : mid.network.connections[new.connection]? = none ∧ ∃ conn' : Connection,
    started.network.connections[new.connection]? = some conn' ∧ conn'.phase = .idle ∧
      conn'.sink = .cache id
  registered : mid.network.caches.get? name = some id ∧
    started.network.caches.get? name = some id
  outfit : started.network.Outfit old conn loop gate id k
  /-- A loop that did not end in time is to be taken away. -/
  aborted : loop.aborted = !loop.task.point.isFinished
  /-- If no loop that feeds the cache was cut before, the cache is clear unless the old connection
  still owns it. -/
  isClear_iff : ¬ mid.network.IsCut id → (k.IsClear ↔ conn.phase.ownsCacheState = false)
  /-- An old loop that has ended in time has given the lock back and cleared the cache. -/
  hygiene : loop.task.point.isFinished = true → started.network.locks.isHeldBy gate = false ∧
    (¬ mid.network.IsCut id → k.IsClear)
  /-- From now on the cache gets what the new connection hands over, and nothing else. -/
  cache : ∀ acts, started.network.admitsAll acts = true →
    (started.network.afterAll acts).caches.cache? id = some
      ((Handover.callsOf new.connection (started.network.history acts)).foldl
        TargetCache.receive k)

/-- A target is started whose cache was fed by another connection before. -/
theorem exists_started (houtfit : s.network.Outfit old conn loop gate id k)
    (hid : s.network.caches.get? name = some id) (d : TargetDescriptor)
    (request : SubscribeRequest) :
    ∃ new conn', (s.startTarget name d request).targets.get? name = some new ∧
      new.connection = s.network.connections.length ∧
      (s.startTarget name d request).network.connections[new.connection]? = some conn' ∧
      conn'.phase = .idle ∧ conn'.sink = .cache id ∧
      (s.startTarget name d request).network.caches.get? name = some id ∧
      (s.startTarget name d request).network.Outfit old conn loop gate id k := by
  obtain ⟨conn', rfl, -, hlists⟩ := s.enlists_startTarget name d request
  have hget := s.network.caches.getOrAdd_of_get? conn'.name hid
  refine ⟨⟨s.network.connections.length, s.network.tasks.length⟩, conn', ?_, rfl, ?_, hlists.idle,
    ?_, ?_, houtfit.enlist hlists rfl hid⟩
  · rw [(starts_startTarget s conn'.name d request).targets, Dictionary.get?_insert, if_pos rfl]
  · rw [hlists.connections]
    exact List.getElem?_concat_length
  · rw [hlists.sink, hget]
  · rw [hlists.caches, hget]
    exact hid

theorem exists_succession (h : s.Attended) (hold : s.targets.get? name = some old) (o : Occurrence)
    (d : TargetDescriptor) (request : SubscribeRequest) :
    ∃ new conn loop gate id k, Succession s (s.restart name o d request) name old new conn loop
      gate id k := by
  have hattended := h.restart name o d request
  obtain ⟨conn, loop, gate, id, k, houtfit, hid, hid', haborted, hconnected⟩ :=
    exists_retired h hold
  obtain ⟨new, conn', hafter, hnumber, hconn', hidle, hsink, hregistered, houtfit'⟩ :=
    exists_started (s := (s.stopTarget name).onNetwork (·.report name o))
      (houtfit.report name o) hid' d request
  have hlength : (s.stopTarget name).network.connections.length =
      s.network.connections.length := by
    have := length_standings_stopTarget s name
    rwa [Network.standings, Network.standings, List.length_map, List.length_map] at this
  have hclear : ¬ s.network.IsCut id → (k.IsClear ↔ conn.phase.ownsCacheState = false) := by
    intro hcut
    rw [houtfit.isClear_iff, ← Bool.not_eq_true, ← Bool.not_eq_true]
    exact not_congr ⟨hconnected hcut, houtfit.connected⟩
  refine ⟨new, conn, loop, gate, id, k, ?_⟩
  exact {
    before := hold
    after := hafter
    fresh := by
      refine ⟨?_, conn', hconn', hidle, hsink⟩
      rw [hnumber]
      exact List.getElem?_eq_none (Nat.le_of_eq hlength.symm)
    registered := ⟨hid, hregistered⟩
    outfit := houtfit'
    aborted := haborted
    isClear_iff := hclear
    hygiene := by
      intro hover
      obtain ⟨hreleased, hrests⟩ := houtfit.ended hover
      exact ⟨houtfit'.isHeldBy.trans hreleased, fun hcut => (hclear hcut).mpr hrests⟩
    cache := fun acts hacts =>
      Network.Tended.cache_afterAll hattended hacts hafter hregistered houtfit'.cache }

/-! ## Replacements -/

/-- Where a target is replaced: the targets before it are up to date in `mid`, and `started` is the
supervisor as soon as the new connection of the target has been started. -/
def Replacing (s : Supervisor) (c : TargetConfiguration) (name : String)
    (mid started : Supervisor) : Prop :=
  ∃ finished d rest summary request, c.targets.entries = finished ++ (name, d) :: rest ∧
    finished.foldlM (reconcile c)
      ((s.departed c).foldl removeTarget s.countApply, { removed := s.departed c }) =
        .ok (mid, summary) ∧
    c.requestFor? d = some request ∧ mid.replaces c (name, d) = true ∧
    started = mid.restart name .targetChanged d request

/-- A target is told to be replaced when it is. -/
theorem mem_replaced_of_reconcile {d : TargetDescriptor} {summary : ApplySummary} {other : String}
    {next : Supervisor × ApplySummary}
    (h : reconcile c (s, summary) (other, d) = .ok next) (hname : name ∈ next.2.replaced) :
    name ∈ summary.replaced ∨
      (name = other ∧ s.replaces c (other, d) = true ∧
        ∃ request, c.requestFor? d = some request) := by
  cases hrequest : c.requestFor? d with
  | none => simp [reconcile, hrequest] at h
  | some request =>
      cases hkeeps : s.keeps c (other, d) with
      | true =>
          rw [reconcile_of_keeps hkeeps] at h
          cases h
          exact .inl hname
      | false =>
          rw [reconcile_of_not_keeps hrequest hkeeps] at h
          cases h
          cases hcontains : s.targets.contains other with
          | false => exact .inl (by simpa [hcontains] using hname)
          | true =>
              rw [hcontains, if_pos rfl] at hname
              rcases List.mem_append.mp hname with hold | hnew
              · exact .inl hold
              · refine .inr ⟨List.mem_singleton.mp hnew, ?_, request, rfl⟩
                rw [replaces, hkeeps, hcontains]
                rfl

/-- Every target that is told to be replaced was replaced at its turn. -/
theorem exists_mid {start : Supervisor} {entries : List (String × TargetDescriptor)}
    {summary : ApplySummary} {next : Supervisor × ApplySummary}
    (h : entries.foldlM (reconcile c) (start, summary) = .ok next)
    (hname : name ∈ next.2.replaced) :
    name ∈ summary.replaced ∨ ∃ finished d rest mid summary' request,
      entries = finished ++ (name, d) :: rest ∧
      finished.foldlM (reconcile c) (start, summary) = .ok (mid, summary') ∧
      c.requestFor? d = some request ∧ mid.replaces c (name, d) = true := by
  induction entries generalizing start summary with
  | nil =>
      cases h
      exact .inl hname
  | cons entry entries ih =>
      obtain ⟨other, d⟩ := entry
      rw [List.foldlM_cons] at h
      cases hfirst : reconcile c (start, summary) (other, d) with
      | error e =>
          rw [hfirst] at h
          cases h
      | ok first =>
          rw [hfirst] at h
          rcases ih h with hearlier | ⟨finished, d', rest, mid, summary', request, hentries,
            hfold, hlater⟩
          · rcases mem_replaced_of_reconcile hfirst hearlier with hold | ⟨rfl, hreplaces, request,
              hrequest⟩
            · exact .inl hold
            · exact .inr ⟨[], d, entries, start, summary, request, rfl, rfl, hrequest, hreplaces⟩
          · refine .inr ⟨(other, d) :: finished, d', rest, mid, summary', request, ?_, ?_, hlater⟩
            · rw [hentries, List.cons_append]
            · rw [List.foldlM_cons, hfirst]
              exact hfold

theorem exists_replacing {summary : ApplySummary} (happly : s.apply c = (.ok summary, s'))
    (hname : name ∈ summary.replaced) : ∃ mid started, s.Replacing c name mid started := by
  obtain ⟨-, hfold⟩ := apply_eq_ok_iff.mp happly
  rcases exists_mid hfold hname with hnone | ⟨finished, d, rest, mid, summary', request, hentries,
    hearlier, hrequest, hreplaces⟩
  · cases hnone
  · exact ⟨mid, _, finished, d, rest, summary', request, hentries, hearlier, hrequest, hreplaces,
      rfl⟩

/-- Whatever the state, the configuration and the grace: the new connection of a replaced target
feeds the cache of the old one, alone.  If the old loop has ended in time its gate does not hold the
lock and, unless an earlier loop was cut, the cache is clear. -/
theorem succession_of_replaced (config : GatewayConfig) (locks : LockService) (s s' : Supervisor)
    (hs : Reachable config locks s) (c : TargetConfiguration) (summary : ApplySummary)
    (happly : s.apply c = (.ok summary, s')) (name : String) (hname : name ∈ summary.replaced) :
    ∃ mid started old new conn loop gate id k, s.Replacing c name mid started ∧
      Succession mid started name old new conn loop gate id k := by
  obtain ⟨mid, started, hreplacing⟩ := exists_replacing happly hname
  obtain ⟨finished, d, rest, summary', request, -, hfold, -, hreplaces, rfl⟩ := id hreplacing
  have hattended : s.Attended := attended_of_reachable hs
  have hremoved : ((s.departed c).foldl removeTarget s.countApply).Attended :=
    foldl_removeTarget_induction (fun name h => h.removeTarget name) _ hattended
  have hmid := foldlM_reconcile_induction (fun name o d request h => h.restart name o d request)
    hremoved hfold
  obtain ⟨old, hold⟩ := Dictionary.contains_iff.mp ((Bool.and_eq_true _ _).mp hreplaces).1
  obtain ⟨new, conn, loop, gate, id, k, hsuccession⟩ :=
    exists_succession hmid hold .targetChanged d request
  exact ⟨mid, _, old, new, conn, loop, gate, id, k, hreplacing, hsuccession⟩

/-! ### Two runs -/

/-- One target at an address. -/
def oneTarget (address : String) : TargetConfiguration where
  targets := .ofList [("leaf1", { addresses := [address], request := "default" })]
  requests := .ofList [("default", .stream [.ofNames ["system"]])]

/-- The acts by which a loop dials and reads the first message of its device, which has one leaf. -/
def delivery (task link : Nat) (leaf : String) : List Act :=
  let message : SubscribeResponse :=
    .ofNotification { update := [.ofValue (.ofNames ["system", leaf]) (.int 7)] }
  List.replicate 12 (.step task) ++ [.send link (.response message), .step task]

/-- A supervisor whose only target has delivered a leaf. -/
def feeding (config : GatewayConfig) : Supervisor :=
  (((Supervisor.new config (.registry {})).toOption.map
      (·.apply (oneTarget "10.0.0.1"))).map (·.2)).elim
    { network := { pools := [], locks := .registry {} }, settings := {}, grace := 0 }
    (·.onNetwork (·.afterAll (delivery 0 0 "uptime")))

/-- A gateway that does not wait for its targets. -/
def noGrace : GatewayConfig := { shutdownGrace := 0 }

theorem Reachable.afterAll {config : GatewayConfig} {locks : LockService}
    (h : Reachable config locks s) {acts : List Act} (hacts : s.network.admitsAll acts = true) :
    Reachable config locks (s.onNetwork (·.afterAll acts)) := by
  induction acts generalizing s with
  | nil => exact h
  | cons a rest ih =>
      obtain ⟨ha, hrest⟩ := (Bool.and_eq_true _ _).mp hacts
      exact ih (h.world ha) hrest

theorem reachable_feeding {config : GatewayConfig}
    (h : ∃ s, Supervisor.new config (.registry {}) = .ok s ∧
      (s.apply (oneTarget "10.0.0.1")).2.network.admitsAll (delivery 0 0 "uptime") = true) :
    Reachable config (.registry {}) (feeding config) := by
  obtain ⟨s, hnew, hacts⟩ := h
  have := Reachable.afterAll (.apply (oneTarget "10.0.0.1") (.new hnew)) hacts
  rwa [feeding, hnew]

/-- With one target there is one replacement at most. -/
theorem eq_of_replacing_one {mid started : Supervisor} {address : String}
    (h : s.Replacing (oneTarget address) "leaf1" mid started)
    (hgone : s.departed (oneTarget address) = []) :
    mid = s.countApply ∧ started = s.countApply.restart "leaf1" .targetChanged
      { addresses := [address], request := "default" } (.stream [.ofNames ["system"]]) := by
  obtain ⟨finished, d, rest, summary, request, hentries, hfold, hrequest, -, rfl⟩ := h
  rw [hgone] at hfold
  cases finished with
  | nil =>
      cases hentries
      cases hfold
      cases hrequest
      exact ⟨rfl, rfl⟩
  | cons entry finished =>
      have hlength := congrArg List.length hentries
      rw [List.length_append, List.length_cons, List.length_cons] at hlength
      have hone : (oneTarget address).targets.entries.length = 1 := rfl
      omega

/-- With the default grace the old loop ends in time when the only target gets another address. -/
theorem succession_of_move : ∃ mid started old new conn loop gate id k,
    (feeding {}).Replacing (oneTarget "10.0.1.1") "leaf1" mid started ∧
      Succession mid started "leaf1" old new conn loop gate id k ∧
      started.network.locks.isHeldBy gate = false ∧ k.IsClear := by
  have hreachable : Reachable {} (.registry {}) (feeding {}) :=
    reachable_feeding ⟨_, rfl, by decide +kernel⟩
  have happly : (feeding {}).apply (oneTarget "10.0.1.1") =
      (.ok { replaced := ["leaf1"] }, ((feeding {}).apply (oneTarget "10.0.1.1")).2) :=
    apply_eq_of_toOption (by decide +kernel)
  obtain ⟨mid, started, old, new, conn, loop, gate, id, k, hreplacing, h⟩ :=
    succession_of_replaced {} (.registry {}) (feeding {}) _ hreachable _ _ happly "leaf1"
      List.mem_cons_self
  obtain ⟨rfl, rfl⟩ := eq_of_replacing_one hreplacing (by decide +kernel)
  refine ⟨_, _, old, new, conn, loop, gate, id, k, hreplacing, h, ?_⟩
  have hold : (feeding {}).countApply.targets.get? "leaf1" = some ⟨0, 0⟩ := by decide +kernel
  have hended : loop.task.point.isFinished = true := by
    obtain rfl := Option.some_inj.mp (hold.symm.trans h.before)
    have htask := congrArg (Option.map (·.task.point.isFinished)) h.outfit.task
    refine Option.some_inj.mp (htask.symm.trans ?_)
    decide +kernel
  have hcut : ¬ (feeding {}).countApply.network.IsCut id := by
    rintro ⟨c, -, habort⟩
    have haborts : (feeding {}).countApply.network.aborts = [false] := by decide +kernel
    rw [haborts] at habort
    cases c <;> simp at habort
  exact ⟨(h.hygiene hended).1, (h.hygiene hended).2 hcut⟩

/-- Without a grace the old loop is taken away.  The new connection finds the lock taken and a leaf
in the cache, which stays there beside its own. -/
theorem stale_leaf_of_abort :
    let s := feeding noGrace
    let moved := s.countApply.restart "leaf1" .targetChanged
      { addresses := ["10.0.1.1"], request := "default" } (.stream [.ofNames ["system"]])
    let later := .destroy 0 :: delivery 1 1 "hostname"
    noGrace.fault? = none ∧ Reachable noGrace (.registry {}) s ∧
      (s.apply (oneTarget "10.0.1.1")).1.toOption = some { replaced := ["leaf1"] } ∧
      s.Replacing (oneTarget "10.0.1.1") "leaf1" s.countApply moved ∧
      moved.network.caches.get? "leaf1" = some 0 ∧
      (moved.network.caches.cache? 0).map (fun k => (k.connected, k.values.keys)) =
        some (true, ["/system/uptime"]) ∧
      (s.network.tasks[0]?.bind (·.gate)) = some 0 ∧ moved.network.locks.isHeldBy 0 = true ∧
      moved.network.admitsAll later = true ∧
      ((moved.network.afterAll later).caches.cache? 0).map (·.values.keys) =
        some ["/system/hostname", "/system/uptime"] := by
  intro s moved later
  refine ⟨by decide +kernel, reachable_feeding ⟨_, rfl, by decide +kernel⟩, by decide +kernel,
    ⟨[], _, [], _, _, rfl, rfl, rfl, by decide +kernel, rfl⟩, by decide +kernel,
    by decide +kernel, by decide +kernel, by decide +kernel, by decide +kernel, by decide +kernel⟩

end Supervisor

end TelemetryGateway
