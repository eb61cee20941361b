import TelemetryGateway.Proofs.Supervisor.Duties

/-!
# The upkeep of the caches

A cache is fed by the connections of one target, one after the other, and whoever feeds it has to
clear it when a subscription ends.  So a cache is clear unless it is connected, and it is connected
while a connection owns its state (`Network.Tended`).  A loop that is taken away clears nothing: it
is the only reason why a cache can stay connected that nobody owns any more.

* `TargetCache.upkeep`: what the calls of one move make of a cache;
* `Network.Crewed.exists_feeds`: a move is about one cache, which nobody else feeds;
* `Network.Tended.after`, `Network.Tended.enter`, `Network.Tended.leave`, `Network.Tended.abort`:
  the caches are tended while time passes, targets come, and targets go;
* `Supervisor.attended_of_reachable`: they are tended in every reachable supervisor.
-/

namespace TelemetryGateway

/-- The calls that go with the phases before and after leave a cache clear or connected, and
connected only if the phase after owns its state, or if it was connected and nobody owned it. -/
theorem TargetCache.upkeep {k : TargetCache} {before after : Bool} {calls : List SinkCall}
    (hcalls : Extends before after calls) (hsettled : k.connected = true ∨ k.IsClear)
    (howned : before = true → k.connected = true) :
    ((calls.foldl receive k).connected = true ∨ (calls.foldl receive k).IsClear) ∧
      (after = true → (calls.foldl receive k).connected = true) ∧
      ((calls.foldl receive k).connected = true →
        after = true ∨ (k.connected = true ∧ before = false)) := by
  by_cases hnil : calls = []
  · subst hnil
    obtain rfl := hcalls.eq_of_nil
    refine ⟨hsettled, howned, fun hconnected => ?_⟩
    cases after with
    | true => exact .inl rfl
    | false => exact .inr ⟨hconnected, rfl⟩
  · obtain ⟨hconnected, hclear⟩ := foldl_receive_of_extends hcalls hnil howned
    rw [hconnected]
    refine ⟨?_, id, .inl⟩
    cases after with
    | true => exact .inl rfl
    | false => exact .inr (hclear rfl)

namespace Network

variable {s s' : Network} {a : Act} {crew crew' : Crew} {name : String} {target : SupervisedTarget}
  {id : Nat}

/-- A crew does all there is to do, and what the caches know is right, except for those that a loop
was feeding when it was taken away. -/
structure Tended (s : Network) (crew : Crew) : Prop where
  crewed : s.Crewed crew
  settled : ∀ (id : Nat) (k : TargetCache), s.caches.cache? id = some k →
    k.connected = true ∨ k.IsClear
  owned : ∀ (id : Nat) (k : TargetCache), s.caches.cache? id = some k → s.IsOwned id →
    k.connected = true
  connected : ∀ (id : Nat) (k : TargetCache), s.caches.cache? id = some k → k.connected = true →
    s.IsOwned id ∨ s.IsCut id

/-- If only one loop that can move feeds a cache, its connection tells whether the cache is
owned. -/
theorem Paired.isOwned_iff (h : s.Paired) {t : Nat} {conn : Connection}
    (hsole : ∀ c, s.IsRunning c → s.sinks[c]? = some (.cache id) → c = t)
    (hconn : s.connections[t]? = some conn) (habort : s.aborts[t]? = some false)
    (hsink : conn.sink = .cache id) : s.IsOwned id ↔ conn.phase.ownsCacheState = true := by
  constructor
  · rintro ⟨c, hclaim, habort'⟩
    obtain ⟨conn', hconn', hfeeds, howns⟩ := exists_of_getElem?_claims hclaim
    obtain rfl := hsole c (h.isRunning_of_owns hconn' habort' howns)
      (hfeeds ▸ getElem?_sinks hconn')
    rw [hconn] at hconn'
    cases hconn'
    exact howns
  · intro howns
    refine ⟨t, ?_, habort⟩
    rw [getElem?_claims hconn, hsink, howns]

/-- What a move of the only loop that feeds a cache means for the caches. -/
structure Feeds (s : Network) (id : Nat) (before after : Bool) (calls : List SinkCall)
    (s' : Network) : Prop where
  extends_calls : Extends before after calls
  owned_before : s.IsOwned id ↔ before = true
  owned_after : s'.IsOwned id ↔ after = true
  owned_other : ∀ other, id ≠ other → (s'.IsOwned other ↔ s.IsOwned other)
  cut : ∀ other, s'.IsCut other ↔ s.IsCut other
  cache : ∀ (other : Nat) (k' : TargetCache), s'.caches.cache? other = some k' →
    ∃ k, s.caches.cache? other = some k ∧
      k' = if id = other then calls.foldl TargetCache.receive k else k

/-- What a move of a loop makes of the caches. -/
theorem cache_after_step {t i : Nat} {m : NextMove} (hmove : s.nextMove? t = some m)
    (hsink : m.connection.sink = .cache i) {k' : TargetCache}
    (hk' : (s.after (.step t)).caches.cache? id = some k')
    (hlt : id < s.caches.caches.length) :
    ∃ k, s.caches.cache? id = some k ∧
      k' = if i = id then (Output.calls m.move.outputs).foldl TargetCache.receive k else k := by
  have hhandovers : s.handovers (.step t) =
      Handover.ofCalls m.entry.connection m.connection.sink (Output.calls m.move.outputs) := by
    simp [handovers, hmove, NextMove.handovers]
  rcases (delivers_step s t).cache id k' hk' with ⟨k, hk, hcalls⟩ | ⟨hnone, -⟩
  · refine ⟨k, hk, ?_⟩
    rw [hcalls, hhandovers, hsink]
    split
    · next heq => rw [heq, Handover.callsTo_ofCalls_self]
    · next hne =>
      rw [Handover.callsTo_ofCalls_of_ne (fun hsame => hne (by injection hsame))]
      rfl
  · simp [hasSink, hlt] at hnone

/-- A move of a loop is about one cache, which nobody else feeds. -/
theorem Crewed.exists_feeds (h : s.Crewed crew) {t : Nat} {m : NextMove}
    (ht : s.passing (.step t) = true) (hmove : s.nextMove? t = some m) :
    ∃ id before after calls, Feeds s id before after calls (s.after (.step t)) := by
  have hpaired := h.paired
  have hsinks := sinks_after (a := .step t) ht
  have haborts := aborts_after (a := .step t) ht
  obtain ⟨he, hconn, reply, -, hm⟩ := nextMove?_eq_some hmove
  have hd := getElem?_drivers he
  have hc : m.entry.connection = t := hpaired.connection t _ hd
  have habort := aborts_of_passing_step he ht
  have hconn' := connection_after_step hmove
  have hconnections := connections_after_step hmove
  rw [hc] at hconn hconn' hconnections
  obtain ⟨id, hsink, -⟩ := h.sink t _ (getElem?_sinks hconn)
  have hfeeds : s.sinks[t]? = some (.cache id) := hsink ▸ getElem?_sinks hconn
  have hsink' : m.move.connection.sink = .cache id := by
    have := (getElem?_sinks hconn').symm.trans (hsinks ▸ hfeeds)
    exact Option.some_inj.mp this
  have hclaims : (s.after (.step t)).claims =
      s.claims.set t (.cache id, m.move.connection.phase.ownsCacheState) := by
    rw [claims, hconnections, List.map_set, hsink']
    rfl
  -- nobody else can say anything about the cache, neither before the move nor after it
  have hsole : ∀ c, s.IsRunning c → s.sinks[c]? = some (.cache id) → c = t := fun c hother hsame =>
    h.eq_of_running hother ⟨_, hd, habort, isFinished_of_nextMove? hmove⟩ hsame hfeeds
  refine ⟨id, m.connection.phase.ownsCacheState, m.move.connection.phase.ownsCacheState,
    Output.calls m.move.outputs, ?_⟩
  exact {
    extends_calls := by
      rw [hm]
      exact Task.extends_resume_of_fits reply (hpaired.fits t _ _ hd hconn habort)
    owned_before := hpaired.isOwned_iff hsole hconn habort hsink
    owned_after := (h.after (a := .step t) ht).paired.isOwned_iff
      (fun c hother hsame => hsole c (isRunning_of_after (a := .step t) ht hother) (hsinks ▸ hsame))
      hconn' (haborts ▸ habort) hsink'
    owned_other := fun other hne =>
      isOwned_iff_of_set (hsink ▸ getElem?_claims hconn) hclaims haborts hne
    cut := fun other => isCut_congr hsinks haborts
    cache := by
      intro other k' hk'
      refine cache_after_step hmove hsink hk' ?_
      rw [← (caches_frame_after (a := .step t) ht).2]
      exact (List.getElem?_eq_some_iff.mp hk').1 }

theorem tended_of_nil (htasks : s.tasks = []) (hconnections : s.connections = [])
    (hcaches : s.caches = {}) : s.Tended fun _ => none where
  crewed := crewed_of_nil htasks hconnections (congrArg CacheRegistry.names hcaches)
  settled id k hk := by simp [hcaches, CacheRegistry.cache?] at hk
  owned id k hk := by simp [hcaches, CacheRegistry.cache?] at hk
  connected id k hk := by simp [hcaches, CacheRegistry.cache?] at hk

namespace Tended

/-- What is known about the caches depends on nothing else. -/
theorem congr (h : s.Tended crew) (hcrewed : s'.Crewed crew')
    (hcaches : s'.caches.caches = s.caches.caches) (howned : ∀ id, s'.IsOwned id → s.IsOwned id)
    (hcut : ∀ id, s.IsOwned id ∨ s.IsCut id → s'.IsOwned id ∨ s'.IsCut id) :
    s'.Tended crew' := by
  have hcache : ∀ id, s'.caches.cache? id = s.caches.cache? id :=
    fun id => congrArg (fun caches => caches[id]?) hcaches
  constructor
  case crewed => exact hcrewed
  case settled => exact fun id k hk => h.settled id k (hcache id ▸ hk)
  case owned => exact fun id k hk hid => h.owned id k (hcache id ▸ hk) (howned id hid)
  case connected =>
    exact fun id k hk hconnected => hcut id (h.connected id k (hcache id ▸ hk) hconnected)

theorem alike (h : s.Tended crew) (hsame : Alike s s') : s'.Tended crew := by
  have howned : ∀ id, s'.IsOwned id ↔ s.IsOwned id :=
    fun _ => isOwned_congr (congrArg (List.map _) hsame.connections) hsame.aborts
  refine h.congr (h.crewed.alike hsame) (congrArg CacheRegistry.caches hsame.caches)
    (fun id => (howned id).mp) fun i => ?_
  rw [howned, isCut_congr (congrArg (List.map _) hsame.connections) hsame.aborts]
  exact id

theorem report (h : s.Tended crew) (name : String) (o : Occurrence) :
    (s.report name o).Tended crew :=
  h.alike ⟨rfl, rfl, rfl, rfl, rfl⟩

/-! ### While time passes -/

/-- The caches stay tended if one is fed by the only loop that may feed it. -/
theorem feed (h : s.Tended crew) (hcrewed : s'.Crewed crew) {before after : Bool}
    {calls : List SinkCall} (hfeeds : Feeds s id before after calls s') : s'.Tended crew := by
  have hupkeep : ∀ k, s.caches.cache? id = some k → _ := fun k hk =>
    TargetCache.upkeep hfeeds.extends_calls (h.settled id k hk) fun howns =>
      h.owned id k hk (hfeeds.owned_before.mpr howns)
  constructor
  case crewed => exact hcrewed
  case settled =>
    intro other k' hk'
    obtain ⟨k, hk, rfl⟩ := hfeeds.cache other k' hk'
    split
    · next heq =>
      subst heq
      exact (hupkeep k hk).1
    · exact h.settled other k hk
  case owned =>
    intro other k' hk' howned
    obtain ⟨k, hk, rfl⟩ := hfeeds.cache other k' hk'
    split
    · next heq =>
      subst heq
      exact (hupkeep k hk).2.1 (hfeeds.owned_after.mp howned)
    · next hne => exact h.owned other k hk ((hfeeds.owned_other other hne).mp howned)
  case connected =>
    intro other k' hk' hconnected
    rw [hfeeds.cut]
    obtain ⟨k, hk, rfl⟩ := hfeeds.cache other k' hk'
    split at hconnected
    · next heq =>
      subst heq
      rcases (hupkeep k hk).2.2 hconnected with howns | ⟨hbefore, hnone⟩
      · exact .inl (hfeeds.owned_after.mpr howns)
      · -- nobody owned the cache, so it has been cut
        refine .inr ((h.connected id k hk hbefore).resolve_left fun howned => ?_)
        rw [hfeeds.owned_before, hnone] at howned
        cases howned
    · next hne =>
      rw [hfeeds.owned_other other hne]
      exact h.connected other k hk hconnected

theorem step (h : s.Tended crew) {t : Nat} (ht : s.passing (.step t) = true) :
    (s.after (.step t)).Tended crew := by
  cases hmove : s.nextMove? t with
  | none => rwa [after_step_of_none hmove]
  | some m =>
      obtain ⟨id, before, after, calls, hfeeds⟩ := h.crewed.exists_feeds ht hmove
      exact h.feed (h.crewed.after (a := .step t) ht) hfeeds

theorem after (h : s.Tended crew) (ha : s.admits a = true) : (s.after a).Tended crew := by
  have hquiet : (s.after a).claims = s.claims → (s.after a).caches = s.caches →
      (s.after a).Tended crew := by
    intro hclaims hcaches
    have howned : ∀ id, (s.after a).IsOwned id ↔ s.IsOwned id :=
      fun id => isOwned_congr hclaims (aborts_after ha)
    refine h.congr (h.crewed.after ha) (congrArg CacheRegistry.caches hcaches)
      (fun id => (howned id).mp) fun i => ?_
    rw [howned, isCut_congr (sinks_after ha) (aborts_after ha)]
    exact id
  rcases admits_cases ha with ⟨t, rfl, ht⟩ | ⟨t, rfl, ht⟩ | ⟨c, rfl⟩ | hsame
  · exact h.step ht
  · exact hquiet (congrArg (List.map _) (connections_destroy s t)) (caches_destroy s t)
  · exact hquiet (claims_disconnect s c) (disconnect_frame s c).2.2
  · exact h.alike hsame

/-- The cache of a target gets what the connection of the target hands over, and nothing else. -/
theorem callsTo_handovers (h : s.Tended crew) (ha : s.admits a = true)
    (htarget : crew name = some target) (hid : s.caches.get? name = some id) :
    Handover.callsTo (.cache id) (s.handovers a) =
      Handover.callsOf target.connection (s.handovers a) := by
  cases a with
  | step t =>
      cases hmove : s.nextMove? t with
      | none => simp [handovers, hmove]
      | some m =>
          obtain ⟨he, hconn, -⟩ := nextMove?_eq_some hmove
          have hd := getElem?_drivers he
          have hc : m.entry.connection = t := h.crewed.paired.connection t _ hd
          have hrunning : s.IsRunning t :=
            ⟨_, hd, aborts_of_passing_step he ha, isFinished_of_nextMove? hmove⟩
          obtain ⟨hnumber, -, i, hi, hfeeds⟩ := h.crewed.serving name target htarget
          obtain rfl := Option.some_inj.mp (hi.symm.trans hid)
          have hhandovers : s.handovers (.step t) = m.handovers := by simp [handovers, hmove]
          rw [hhandovers, NextMove.handovers, hc]
          rw [hc] at hconn
          by_cases hsink : m.connection.sink = .cache i
          · have hown : t = target.connection := hnumber ▸
              h.crewed.eq_task htarget hi hrunning (hsink ▸ getElem?_sinks hconn)
            rw [hsink, Handover.callsTo_ofCalls_self, hown, Handover.callsOf_ofCalls_self]
          · have hother : t ≠ target.connection := by
              rintro rfl
              exact hsink (Option.some_inj.mp ((getElem?_sinks hconn).symm.trans hfeeds))
            rw [Handover.callsTo_ofCalls_of_ne hsink, Handover.callsOf_ofCalls_of_ne hother]
  | _ => rfl

/-- While a target is supervised its cache is what the connection of the target makes of it. -/
theorem cache_afterAll (h : s.Tended crew) {acts : List Act} (hacts : s.admitsAll acts = true)
    (htarget : crew name = some target) (hid : s.caches.get? name = some id) {k : TargetCache}
    (hk : s.caches.cache? id = some k) :
    (s.afterAll acts).caches.cache? id = some
      ((Handover.callsOf target.connection (s.history acts)).foldl TargetCache.receive k) := by
  induction acts generalizing s k with
  | nil => exact hk
  | cons a rest ih =>
      obtain ⟨ha, hrest⟩ := (Bool.and_eq_true _ _).mp hacts
      obtain ⟨hnames, hlength⟩ := caches_frame_after ha
      have hlt : id < s.caches.caches.length := (List.getElem?_eq_some_iff.mp hk).1
      have hid' : (s.after a).caches.get? name = some id := by
        rw [CacheRegistry.get?, hnames]
        exact hid
      have hk' : (s.after a).caches.cache? id = some
          ((Handover.callsOf target.connection (s.handovers a)).foldl TargetCache.receive k) := by
        have hsome :=
          List.getElem?_eq_getElem (hlength ▸ hlt : id < (s.after a).caches.caches.length)
        rcases (delivers_after s a).cache id _ hsome with ⟨before, hbefore, hcalls⟩ | ⟨hnone, -⟩
        · rw [hk] at hbefore
          cases hbefore
          rw [← h.callsTo_handovers ha htarget hid, ← hcalls]
          exact hsome
        · simp [hasSink, hlt] at hnone
      rw [history, Handover.callsOf_append, List.foldl_append]
      exact ih (h.after ha) hrest hid' hk'

theorem passes (h : s.Tended crew) (hpasses : s.Passes s') : s'.Tended crew := by
  induction hpasses with
  | refl => exact h
  | act _ ha ih => exact ih.after (admits_of_passing ha)

/-! ### When targets come and go -/

/-- A target whose loop is over leaves. -/
theorem leave (h : s.Tended crew)
    (hover : ∀ target, crew name = some target → ¬ s.IsRunning target.task) :
    s.Tended (crew.leave name) :=
  h.congr (h.crewed.leave hover) rfl (fun _ => id) fun _ => id

/-- A target leaves while its loop is to be taken away; if it owned its cache, that is cut. -/
theorem abort (h : s.Tended crew) (htarget : crew name = some target) :
    (s.abort target.task).Tended (crew.leave name) := by
  refine h.congr (h.crewed.abort htarget) rfl ?_ ?_
  · rintro id ⟨c, hclaim, habort⟩
    exact ⟨c, hclaim, (aborts_of_abort habort).1⟩
  · rintro id (⟨c, hclaim, habort⟩ | ⟨c, hsink, habort⟩)
    · by_cases hc : target.task = c
      · obtain ⟨conn, hconn, hsink, -⟩ := exists_of_getElem?_claims hclaim
        refine .inr ⟨c, hsink ▸ getElem?_sinks (s := s) hconn, ?_⟩
        rw [getElem?_aborts_abort, habort, decide_eq_true hc]
        rfl
      · refine .inl ⟨c, hclaim, ?_⟩
        rw [getElem?_aborts_abort, habort, decide_eq_false hc]
        rfl
    · refine .inr ⟨c, hsink, ?_⟩
      rw [getElem?_aborts_abort, habort]
      rfl

/-- The name of a cache that nobody in the crew feeds is removed. -/
theorem remove (h : s.Tended crew) (hnone : crew name = none) :
    Tended { s with caches := (s.caches.remove name).2 } crew :=
  h.congr (h.crewed.remove hnone) rfl (fun _ => id) fun _ => id

/-- A target comes; its cache is new or was fed by earlier connections. -/
theorem enter (h : s.Tended crew) {conn : Connection} (hnone : crew conn.name = none)
    (hs' : s.Enlists conn s') :
    s'.Tended (crew.enter conn.name ⟨s.connections.length, s.tasks.length⟩) := by
  have howned : ∀ id, s'.IsOwned id ↔ s.IsOwned id := fun _ => hs'.isOwned_iff h.crewed.paired
  constructor
  case crewed => exact h.crewed.enter hnone hs'
  case settled =>
    intro id k hk
    rcases hs'.cache_cases hk with hold | ⟨-, rfl⟩
    · exact h.settled id k hold
    · exact .inr (TargetCache.isClear_new _)
  case owned =>
    intro id k hk hid
    rw [howned] at hid
    rcases hs'.cache_cases hk with hold | ⟨rfl, -⟩
    · exact h.owned id k hold hid
    · -- nobody could own a cache that was not there
      obtain ⟨c, hclaim, -⟩ := hid
      obtain ⟨other, hother, hfeeds, -⟩ := exists_of_getElem?_claims hclaim
      obtain ⟨i, hi, hlt⟩ := h.crewed.sink c _ (getElem?_sinks hother)
      rw [hfeeds] at hi
      cases hi
      exact absurd hlt (Nat.lt_irrefl _)
  case connected =>
    intro id k hk hconnected
    rw [howned]
    rcases hs'.cache_cases hk with hold | ⟨-, rfl⟩
    · exact (h.connected id k hold hconnected).imp_right hs'.isCut
    · cases hconnected

end Tended

end Network

/-! ## Every supervisor -/

namespace Supervisor

variable {s : Supervisor} {name : String} {target : SupervisedTarget}

/-- The caches of a supervisor are tended by the targets that it supervises. -/
def Attended (s : Supervisor) : Prop := s.network.Tended s.targets.get?

/-- A new target gets a connection that feeds the cache of its name; its loop has not begun. -/
theorem enlists_startTarget (s : Supervisor) (name : String) (d : TargetDescriptor)
    (request : SubscribeRequest) : ∃ conn : Connection, conn.name = name ∧ conn.running = false ∧
      s.network.Enlists conn (s.startTarget name d request).network := by
  obtain ⟨conn, hname, hrecruits⟩ := s.recruits_startTarget name d request
  exact ⟨conn, hname, hrecruits.running, hrecruits.toEnlists⟩

/-- The caches stay tended whatever a supervisor does. -/
theorem isServed_tended : Network.IsServed fun crew _ n => n.Tended crew where
  act h ha := h.after ha
  report name o h := h.report name o
  leave h htarget hover := h.leave fun target htarget' => by
    rw [htarget] at htarget'
    cases htarget'
    exact Network.not_isRunning_of_isFinished hover
  abort h htarget := h.abort htarget
  remove h hnone := h.remove hnone
  enter h hnone hrecruits := h.enter hnone hrecruits.toEnlists

namespace Attended

theorem removeTarget (h : s.Attended) (name : String) : (s.removeTarget name).Attended :=
  served_removeTarget isServed_tended h name

theorem restart (h : s.Attended) (name : String) (o : Occurrence) (d : TargetDescriptor)
    (request : SubscribeRequest) : (s.restart name o d request).Attended :=
  served_restart isServed_tended h name o d request

theorem apply (h : s.Attended) (c : TargetConfiguration) : (s.apply c).2.Attended :=
  served_apply isServed_tended h c

theorem shutdown (h : s.Attended) : s.shutdown.Attended :=
  served_shutdown isServed_tended h

end Attended

/-- The caches of every reachable supervisor are tended. -/
theorem attended_of_reachable {config : GatewayConfig} {locks : LockService}
    (h : Reachable config locks s) : s.Attended := by
  induction h with
  | new hnew =>
      obtain ⟨-, rfl⟩ := new_eq_ok_iff.mp hnew
      exact Network.tended_of_nil rfl rfl rfl
  | apply c _ ih => exact ih.apply c
  | shutdown _ ih => exact ih.shutdown
  | world _ ha ih => exact ih.after ha

end Supervisor

end TelemetryGateway
