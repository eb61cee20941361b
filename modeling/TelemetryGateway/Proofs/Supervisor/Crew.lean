import TelemetryGateway.Proofs.Network.Delivery
import TelemetryGateway.Proofs.Network.Paired
import TelemetryGateway.Proofs.Supervisor.Run

/-!
# Who feeds a cache

The connections that a supervisor makes for a target one after the other feed the same cache.  Only
the supervised one of them can have a loop that is still under way, unless a loop is to be taken
away (`Network.Crewed`): so no two loops that can move feed the same cache.

* `TargetCache.foldl_receive_of_extends`: what the calls of one move make of a cache;
* `Network.Crewed.eq_of_running`, `Network.Crewed.eq_task`: a cache is fed by one loop that can
  move, which is that of its target;
* `Network.Crewed.after`, `Network.Crewed.enter`, `Network.Crewed.leave`, `Network.Crewed.abort`:
  this stays so while time passes, targets come, and targets go.
-/

namespace TelemetryGateway

namespace TargetCache

variable {k : TargetCache} {before after : Bool} {calls : List SinkCall}

/-- The first call of a session makes a cache forget what it was before, and the end of the session
leaves nothing behind. -/
theorem foldl_receive_of_ne_nil (h : Transcript after calls) (hne : calls ≠ []) :
    (calls.foldl receive k).connected = after ∧
      (after = false → (calls.foldl receive k).IsClear) := by
  cases h with
  | between hword =>
      cases hword with
      | nil => exact absurd rfl hne
      | session _ _ =>
          rw [List.foldl_append]
          exact ⟨rfl, fun _ => ⟨rfl, rfl, rfl⟩⟩
  | within _ hdata =>
      refine ⟨?_, nofun⟩
      rw [List.foldl_append, List.foldl_cons, connected_foldl_receive hdata]
      rfl

/-- What calls make of a cache that knows of an open session, if there is one. -/
theorem foldl_receive_of_extends (h : Extends before after calls) (hne : calls ≠ [])
    (hk : before = true → k.connected = true) :
    (calls.foldl receive k).connected = after ∧
      (after = false → (calls.foldl receive k).IsClear) := by
  cases before with
  | false => exact foldl_receive_of_ne_nil (h [] .nil) hne
  | true =>
      -- the session could as well have been opened just now
      let earlier : TargetCache := { k with connected := false, connects := k.connects - 1 }
      have hopened : receive earlier SinkCall.connect = k := by
        show { k with connected := true, connects := k.connects - 1 + 1 } = k
        rw [UInt64.sub_add_cancel, ← hk rfl]
      have hcalls : calls.foldl receive k =
          (SinkCall.connect :: calls).foldl receive earlier := by
        rw [List.foldl_cons, hopened]
      rw [hcalls]
      exact foldl_receive_of_ne_nil (h [.connect] Transcript.nil.connect) nofun

end TargetCache

theorem Extends.eq_of_nil {before after : Bool} (h : Extends before after []) : after = before := by
  have hcount := h.count_connect
  cases before <;> cases after <;> simp at hcount ⊢

namespace CacheRegistry

variable (r : CacheRegistry) (name : String)

theorem get?_getOrAdd (other : String) : (r.getOrAdd name).2.get? other =
    if name = other then some (r.getOrAdd name).1 else r.get? other := by
  unfold getOrAdd
  cases h : r.get? name with
  | none => exact Dictionary.get?_insert _ _ _ _
  | some id =>
      by_cases hname : name = other
      · rw [if_pos hname, ← hname, h]
      · rw [if_neg hname]

/-- The cache of a name is there, or it is made. -/
theorem getOrAdd_cases :
    (r.get? name = some (r.getOrAdd name).1 ∧ (r.getOrAdd name).2.caches = r.caches) ∨
      (r.get? name = none ∧ (r.getOrAdd name).1 = r.caches.length ∧
        (r.getOrAdd name).2.caches = r.caches ++ [({ name } : TargetCache)]) := by
  unfold getOrAdd
  cases h : r.get? name with
  | none => exact .inr ⟨rfl, rfl, rfl⟩
  | some id => exact .inl ⟨rfl, rfl⟩

theorem getOrAdd_of_get? {id : Nat} (h : r.get? name = some id) : r.getOrAdd name = (id, r) := by
  rw [getOrAdd, h]

end CacheRegistry

namespace Network

variable {s s' : Network} {a : Act} {name : String} {target : SupervisedTarget} {id : Nat}

/-! ## Sinks and caches -/

/-- The sinks of the connections, in the order of their numbers. -/
def sinks (s : Network) : List SinkRef := s.connections.map (·.sink)

theorem sinks_eq_map_standings (s : Network) : s.sinks = s.standings.map (·.made.sink) := by
  rw [sinks, standings, List.map_map]
  rfl

theorem getElem?_sinks {c : Nat} {conn : Connection} (h : s.connections[c]? = some conn) :
    s.sinks[c]? = some conn.sink := by
  rw [sinks, List.getElem?_map, h, Option.map_some]

theorem sinks_after (ha : s.admits a = true) : (s.after a).sinks = s.sinks := by
  rw [sinks_eq_map_standings, sinks_eq_map_standings]
  by_cases hstop : ∃ c, a = .disconnect c
  · obtain ⟨c, rfl⟩ := hstop
    rw [after, standings_disconnect]
    apply List.ext_getElem?
    intro i
    rw [List.getElem?_map, List.getElem?_map, List.getElem?_modify, Option.map_eq_map,
      Option.map_map]
    congr 1
    funext st
    by_cases hi : c = i <;> simp [hi, Standing.stop]
  · rw [standings_after (fun conn hact => ?_) fun c hact => hstop ⟨c, hact⟩]
    rw [hact] at ha
    cases ha

theorem aborts_after (ha : s.admits a = true) : (s.after a).aborts = s.aborts := by
  rcases admits_cases ha with ⟨t, rfl, ht⟩ | ⟨t, rfl, ht⟩ | ⟨c, rfl⟩ | hsame
  · exact aborts_after_of_passing ht
  · exact aborts_after_of_passing ht
  · exact aborts_disconnect s c
  · exact hsame.aborts

theorem caches_destroy (s : Network) (t : Nat) : (s.destroy t).caches = s.caches := by
  obtain ⟨_, _, _, _, heq, -⟩ := s.exists_destroy t
  rw [heq]

/-- No cache is made or gets another name. -/
theorem caches_frame_after (ha : s.admits a = true) :
    (s.after a).caches.names = s.caches.names ∧
      (s.after a).caches.caches.length = s.caches.caches.length := by
  rcases admits_cases ha with ⟨t, rfl, ht⟩ | ⟨t, rfl, ht⟩ | ⟨c, rfl⟩ | hsame
  · cases hmove : s.nextMove? t with
    | none =>
        rw [after_step_of_none hmove]
        exact ⟨rfl, rfl⟩
    | some m =>
        obtain ⟨-, -, reply, hreply, -⟩ := nextMove?_eq_some hmove
        have hcaches : (m.noted t).caches = s.caches := (reply?_frame hreply).2.2.2
        rw [after, step_eq_some hmove, Option.getD_some]
        constructor
        · rw [performAll_frame _ _ _ _ (fun n => n.caches.names), hcaches]
          intro n o
          cases o with
          | call call =>
              cases h : m.connection.sink <;> simp [perform, callSink, h, CacheRegistry.modify]
          | _ => rfl
        · rw [performAll_frame _ _ _ _ (fun n => n.caches.caches.length), hcaches]
          intro n o
          cases o with
          | call call =>
              cases h : m.connection.sink <;> simp [perform, callSink, h, CacheRegistry.modify]
          | _ => rfl
  · rw [after, caches_destroy]
    exact ⟨rfl, rfl⟩
  · rw [after, (disconnect_frame s c).2.2]
    exact ⟨rfl, rfl⟩
  · rw [hsame.caches]
    exact ⟨rfl, rfl⟩

theorem exists_of_getElem?_sinks {c : Nat} {sink : SinkRef} (h : s.sinks[c]? = some sink) :
    ∃ conn : Connection, s.connections[c]? = some conn ∧ conn.sink = sink := by
  rw [sinks, List.getElem?_map] at h
  exact Option.map_eq_some_iff.mp h

theorem Passes.sinks (h : s.Passes s') : s'.sinks = s.sinks := by
  induction h with
  | refl => rfl
  | act _ ha ih => exact (sinks_after (admits_of_passing ha)).trans ih

theorem Passes.names (h : s.Passes s') : s'.caches.names = s.caches.names := by
  induction h with
  | refl => rfl
  | act _ ha ih => exact (caches_frame_after (admits_of_passing ha)).1.trans ih

/-! ## Loops that can move -/

/-- Whether a task is neither over nor to be taken away. -/
def IsRunning (s : Network) (t : Nat) : Prop :=
  ∃ d : Driver, s.drivers[t]? = some d ∧ s.aborts[t]? = some false ∧
    d.task.point.isFinished = false

theorem isRunning_congr {t : Nat} (hdrivers : s'.drivers = s.drivers)
    (haborts : s'.aborts = s.aborts) : s'.IsRunning t ↔ s.IsRunning t := by
  rw [IsRunning, IsRunning, hdrivers, haborts]

/-- A task that is over has nothing to ask. -/
theorem isFinished_of_nextMove? {t : Nat} {m : NextMove} (h : s.nextMove? t = some m) :
    m.entry.task.point.isFinished = false := by
  obtain ⟨-, -, reply, hreply, -⟩ := nextMove?_eq_some h
  cases hpoint : m.entry.task.point with
  | finished result => simp [reply?, hpoint, Point.ask] at hreply
  | _ => rfl

theorem not_isRunning_of_isFinished {t : Nat} (h : s.isFinished t = true) : ¬ s.IsRunning t := by
  rintro ⟨d, hd, -, hopen⟩
  rw [drivers, List.getElem?_map] at hd
  obtain ⟨e, he, rfl⟩ := Option.map_eq_some_iff.mp hd
  rw [isFinished, taskIs, he] at h
  exact absurd (h.symm.trans hopen) Bool.noConfusion

/-- A task that may move is not to be taken away. -/
theorem aborts_of_passing_step {t : Nat} {e : TaskEntry} (he : s.tasks[t]? = some e)
    (ht : s.passing (.step t) = true) : s.aborts[t]? = some false := by
  rw [passing, taskIs_aborted] at ht
  rw [aborts, List.getElem?_map, he] at ht ⊢
  simpa using ht

/-- Nobody can start a task who does not own the network. -/
theorem isRunning_of_after {t : Nat} (ha : s.admits a = true) (h : (s.after a).IsRunning t) :
    s.IsRunning t := by
  obtain ⟨d', hd', habort, hopen⟩ := h
  rw [aborts_after ha] at habort
  have hlt : t < s.drivers.length := by
    have := (List.getElem?_eq_some_iff.mp habort).1
    simpa [aborts, drivers] using this
  cases driverAfter hd' with
  | same hd => exact ⟨d', hd, habort, hopen⟩
  | move _ hmove =>
      have hbefore := isFinished_of_nextMove? hmove
      exact ⟨_, getElem?_drivers (nextMove?_eq_some hmove).1, habort, hbefore⟩
  | taken => cases hopen
  | loop ht => omega
  | attempt ht => omega

theorem isRunning_of_abort {t i : Nat} (h : (s.abort t).IsRunning i) :
    s.IsRunning i ∧ t ≠ i := by
  obtain ⟨d, hd, habort, hopen⟩ := h
  have hdrivers : (s.abort t).drivers = s.drivers := drivers_modifyTask s t fun _ => rfl
  obtain ⟨hbefore, hne⟩ := aborts_of_abort habort
  exact ⟨⟨d, hdrivers ▸ hd, hbefore, hopen⟩, hne⟩

/-- What each connection feeds, and whether it owns the state of that. -/
def claims (s : Network) : List (SinkRef × Bool) :=
  s.connections.map fun conn => (conn.sink, conn.phase.ownsCacheState)

theorem getElem?_claims {c : Nat} {conn : Connection} (h : s.connections[c]? = some conn) :
    s.claims[c]? = some (conn.sink, conn.phase.ownsCacheState) := by
  rw [claims, List.getElem?_map, h, Option.map_some]

theorem exists_of_getElem?_claims {c : Nat} {sink : SinkRef} {owns : Bool}
    (h : s.claims[c]? = some (sink, owns)) :
    ∃ conn : Connection, s.connections[c]? = some conn ∧ conn.sink = sink ∧
      conn.phase.ownsCacheState = owns := by
  rw [claims, List.getElem?_map] at h
  obtain ⟨conn, hconn, heq⟩ := Option.map_eq_some_iff.mp h
  exact ⟨conn, hconn, congrArg Prod.fst heq, congrArg Prod.snd heq⟩

theorem claims_disconnect (s : Network) (c : Nat) : (s.disconnect c).claims = s.claims := by
  rw [claims, connections_disconnect]
  apply List.ext_getElem?
  intro i
  simp only [claims, List.getElem?_map, List.getElem?_modify]
  cases s.connections[i]? with
  | none => rfl
  | some conn => by_cases hi : c = i <;> simp [hi, Connection.stop]

/-- Whether a connection whose loop was not taken away owns the state of a cache. -/
def IsOwned (s : Network) (id : Nat) : Prop :=
  ∃ c : Nat, s.claims[c]? = some (.cache id, true) ∧ s.aborts[c]? = some false

/-- Whether a loop that feeds a cache was taken away, or is to be. -/
def IsCut (s : Network) (id : Nat) : Prop :=
  ∃ c : Nat, s.sinks[c]? = some (.cache id) ∧ s.aborts[c]? = some true

theorem isOwned_congr (hclaims : s'.claims = s.claims) (haborts : s'.aborts = s.aborts) :
    s'.IsOwned id ↔ s.IsOwned id := by
  rw [IsOwned, IsOwned, hclaims, haborts]

/-- What a connection does is not about a cache that it does not feed. -/
theorem isOwned_iff_of_set {t i : Nat} {before after : Bool}
    (hclaim : s.claims[t]? = some (.cache i, before))
    (hclaims : s'.claims = s.claims.set t (.cache i, after)) (haborts : s'.aborts = s.aborts)
    (hne : i ≠ id) : s'.IsOwned id ↔ s.IsOwned id := by
  unfold IsOwned
  rw [hclaims, haborts]
  have hsame : ∀ c : Nat, (s.claims.set t (.cache i, after))[c]? = some (.cache id, true) ↔
      s.claims[c]? = some (.cache id, true) := by
    intro c
    by_cases hc : t = c
    · subst hc
      rw [getElem?_set_of_getElem? hclaim, hclaim]
      simp [hne]
    · rw [List.getElem?_set_ne hc]
  simp only [hsame]

theorem isCut_congr (hsinks : s'.sinks = s.sinks) (haborts : s'.aborts = s.aborts) :
    s'.IsCut id ↔ s.IsCut id := by
  rw [IsCut, IsCut, hsinks, haborts]

/-- The loop of a connection that owns the state of a cache can move. -/
theorem Paired.isRunning_of_owns (h : s.Paired) {c : Nat} {conn : Connection}
    (hconn : s.connections[c]? = some conn) (habort : s.aborts[c]? = some false)
    (howns : conn.phase.ownsCacheState = true) : s.IsRunning c := by
  have hlt := (List.getElem?_eq_some_iff.mp hconn).1
  rw [h.length] at hlt
  have hd := List.getElem?_eq_getElem hlt
  refine ⟨_, hd, habort, ?_⟩
  cases hover : s.drivers[c].task.point.isFinished with
  | false => rfl
  | true =>
      have hresting := h.resting_of_finished hd hconn habort hover
      rw [Phase.ownsCacheState_of_isResting hresting] at howns
      cases howns

/-! ## The crew -/

/-- The targets that are supervised, by name. -/
abbrev Crew : Type := String → Option SupervisedTarget

/-- A crew without the target of a name. -/
def Crew.leave (crew : Crew) (name : String) : Crew :=
  fun other => if name = other then none else crew other

/-- A crew with a target for a name. -/
def Crew.enter (crew : Crew) (name : String) (target : SupervisedTarget) : Crew :=
  fun other => if name = other then some target else crew other

theorem Crew.of_leave {crew : Crew} {other : String} (h : crew.leave name other = some target) :
    name ≠ other ∧ crew other = some target := by
  unfold leave at h
  split at h
  · cases h
  · next hne => exact ⟨hne, h⟩

/-- Every loop that can move belongs to the crew, and the crew feeds the caches that stand in the
registry, each of its targets the one of its name. -/
structure Crewed (s : Network) (crew : Crew) : Prop where
  paired : s.Paired
  sink : ∀ (c : Nat) (sink : SinkRef), s.sinks[c]? = some sink →
    ∃ id, sink = .cache id ∧ id < s.caches.caches.length
  name_lt : ∀ (name : String) (id : Nat), s.caches.get? name = some id →
    id < s.caches.caches.length
  name_unique : ∀ (name name' : String) (id : Nat), s.caches.get? name = some id →
    s.caches.get? name' = some id → name = name'
  serving : ∀ (name : String) (target : SupervisedTarget), crew name = some target →
    target.task = target.connection ∧ s.aborts[target.task]? = some false ∧
      ∃ id, s.caches.get? name = some id ∧ s.sinks[target.connection]? = some (.cache id)
  manned : ∀ t : Nat, s.IsRunning t →
    ∃ (name : String) (target : SupervisedTarget), crew name = some target ∧ target.task = t

/-- What has become of a network in which a connection was made for a target and got a loop. -/
structure Enlists (s : Network) (conn : Connection) (s' : Network) : Prop where
  idle : conn.phase = .idle
  sink : conn.sink = .cache (s.caches.getOrAdd conn.name).1
  drivers : s'.drivers =
    s.drivers ++ [⟨s.connections.length, some (s.locks.gate conn.name).1, .loop⟩]
  aborts : s'.aborts = s.aborts ++ [false]
  connections : s'.connections = s.connections ++ [conn]
  locks : s'.locks = (s.locks.gate conn.name).2
  caches : s'.caches = (s.caches.getOrAdd conn.name).2

namespace Enlists

variable {conn : Connection}

theorem sinks_eq (h : s.Enlists conn s') : s'.sinks = s.sinks ++ [conn.sink] := by
  rw [sinks, h.connections, List.map_append]
  rfl

/-- A connection that was made just now owns nothing. -/
theorem claims_eq (h : s.Enlists conn s') : s'.claims = s.claims ++ [(conn.sink, false)] := by
  rw [claims, h.connections, List.map_append, List.map_singleton, h.idle]
  rfl

theorem get?_eq (h : s.Enlists conn s') (other : String) : s'.caches.get? other =
    if conn.name = other then some (s.caches.getOrAdd conn.name).1 else s.caches.get? other := by
  rw [h.caches]
  exact s.caches.get?_getOrAdd conn.name other

theorem length_le (h : s.Enlists conn s') :
    s.caches.caches.length ≤ s'.caches.caches.length := by
  rw [h.caches]
  rcases s.caches.getOrAdd_cases conn.name with ⟨-, hsame⟩ | ⟨-, -, hnew⟩
  · exact Nat.le_of_eq (congrArg List.length hsame.symm)
  · simp [hnew]

/-- Every cache was there before, or it is new and knows of nothing. -/
theorem cache_cases (h : s.Enlists conn s') {k : TargetCache}
    (hk : s'.caches.cache? id = some k) :
    s.caches.cache? id = some k ∨
      id = s.caches.caches.length ∧ k = ({ name := conn.name } : TargetCache) := by
  rw [h.caches, CacheRegistry.cache?] at hk
  rcases s.caches.getOrAdd_cases conn.name with ⟨-, hsame⟩ | ⟨-, -, hmade⟩
  · rw [hsame] at hk
    exact .inl hk
  · rw [hmade] at hk
    exact of_getElem?_concat hk

theorem aborts_of_lt (h : s.Enlists conn s') {t : Nat} (ht : t < s.drivers.length) :
    s'.aborts[t]? = s.aborts[t]? := by
  rw [h.aborts, List.getElem?_append_left (by simpa [Network.aborts, Network.drivers] using ht)]

theorem isRunning_cases (h : s.Enlists conn s') {t : Nat} (ht : s'.IsRunning t) :
    s.IsRunning t ∨ t = s.drivers.length := by
  obtain ⟨d, hd, habort, hopen⟩ := ht
  rw [h.drivers] at hd
  rcases of_getElem?_concat hd with hold | ⟨hnew, -⟩
  · rw [h.aborts_of_lt (List.getElem?_eq_some_iff.mp hold).1] at habort
    exact .inl ⟨d, hold, habort, hopen⟩
  · exact .inr hnew

theorem isOwned_iff (h : s.Enlists conn s') (hpaired : s.Paired) :
    s'.IsOwned id ↔ s.IsOwned id := by
  constructor
  · rintro ⟨c, hclaim, habort⟩
    rw [h.claims_eq] at hclaim
    rcases of_getElem?_concat hclaim with hold | ⟨-, hnew⟩
    · have hlt := (List.getElem?_eq_some_iff.mp hold).1
      rw [claims, List.length_map, hpaired.length] at hlt
      exact ⟨c, hold, h.aborts_of_lt hlt ▸ habort⟩
    · exact absurd (congrArg Prod.snd hnew) Bool.noConfusion
  · rintro ⟨c, hclaim, habort⟩
    exact ⟨c, h.claims_eq ▸ getElem?_concat_of_getElem? hclaim,
      h.aborts ▸ getElem?_concat_of_getElem? habort⟩

theorem isCut (h : s.Enlists conn s') (hcut : s.IsCut id) : s'.IsCut id := by
  obtain ⟨c, hsink, habort⟩ := hcut
  exact ⟨c, h.sinks_eq ▸ getElem?_concat_of_getElem? hsink,
    h.aborts ▸ getElem?_concat_of_getElem? habort⟩

end Enlists

theorem crewed_of_nil (htasks : s.tasks = []) (hconnections : s.connections = [])
    (hnames : s.caches.names = ∅) : s.Crewed fun _ => none where
  paired := .of_nil htasks hconnections
  sink c sink hc := by simp [sinks, hconnections] at hc
  name_lt name id hid := by
    rw [CacheRegistry.get?, hnames] at hid
    cases hid
  name_unique name name' id hid := by
    rw [CacheRegistry.get?, hnames] at hid
    cases hid
  serving _ _ htarget := nomatch htarget
  manned t ht := by
    obtain ⟨d, hd, -⟩ := ht
    simp [drivers, htasks] at hd

namespace Crewed

variable {crew : Crew}

/-- Two targets of a crew that feed the same cache are one. -/
theorem eq_of_sinks (h : s.Crewed crew) {name' : String} {target' : SupervisedTarget}
    (htarget : crew name = some target) (htarget' : crew name' = some target')
    (hsink : s.sinks[target.connection]? = some (.cache id))
    (hsink' : s.sinks[target'.connection]? = some (.cache id)) : name = name' := by
  obtain ⟨-, -, i, hi, hsame⟩ := h.serving name target htarget
  obtain ⟨-, -, i', hi', hsame'⟩ := h.serving name' target' htarget'
  obtain rfl : i = id := by simpa using hsame.symm.trans hsink
  obtain rfl : i' = i := by simpa using hsame'.symm.trans hsink'
  exact h.name_unique name name' i' hi hi'

/-- Two targets of a crew have two loops. -/
theorem eq_of_task (h : s.Crewed crew) {name' : String} {target' : SupervisedTarget}
    (htarget : crew name = some target) (htarget' : crew name' = some target')
    (hsame : target.task = target'.task) : name = name' := by
  obtain ⟨hnumber, -, id, -, hsink⟩ := h.serving name target htarget
  have hnumber' := (h.serving name' target' htarget').1
  refine h.eq_of_sinks htarget htarget' hsink ?_
  rw [← hnumber', ← hsame, hnumber, hsink]

/-- No two loops that can move feed the same cache. -/
theorem eq_of_running (h : s.Crewed crew) {t t' : Nat} (ht : s.IsRunning t) (ht' : s.IsRunning t')
    (hsink : s.sinks[t]? = some (.cache id)) (hsink' : s.sinks[t']? = some (.cache id)) :
    t = t' := by
  obtain ⟨name, target, htarget, rfl⟩ := h.manned t ht
  obtain ⟨name', target', htarget', rfl⟩ := h.manned t' ht'
  rw [(h.serving name target htarget).1] at hsink
  rw [(h.serving name' target' htarget').1] at hsink'
  obtain rfl := h.eq_of_sinks htarget htarget' hsink hsink'
  rw [htarget] at htarget'
  cases htarget'
  rfl

theorem congr (h : s.Crewed crew) (hpaired : s'.Paired) (hsinks : s'.sinks = s.sinks)
    (hnames : s'.caches.names = s.caches.names)
    (hlength : s'.caches.caches.length = s.caches.caches.length) (haborts : s'.aborts = s.aborts)
    (hrunning : ∀ t, s'.IsRunning t → s.IsRunning t) : s'.Crewed crew := by
  have hget : s'.caches.get? = s.caches.get? := by
    funext name
    rw [CacheRegistry.get?, hnames]
    rfl
  constructor
  case paired => exact hpaired
  case sink =>
    rw [hsinks, hlength]
    exact h.sink
  case name_lt =>
    rw [hget, hlength]
    exact h.name_lt
  case name_unique =>
    rw [hget]
    exact h.name_unique
  case serving =>
    rw [hget, hsinks, haborts]
    exact h.serving
  case manned => exact fun t ht => h.manned t (hrunning t ht)

theorem alike (h : s.Crewed crew) (hsame : Alike s s') : s'.Crewed crew :=
  h.congr (h.paired.congr hsame.drivers hsame.connections hsame.locks fun _ hi => hsame.aborts ▸ hi)
    (congrArg (List.map _) hsame.connections) (congrArg CacheRegistry.names hsame.caches)
    (congrArg (·.caches.length) hsame.caches) hsame.aborts
    fun _ => (isRunning_congr hsame.drivers hsame.aborts).mp

theorem after (h : s.Crewed crew) (ha : s.admits a = true) : (s.after a).Crewed crew :=
  h.congr (h.paired.after ha) (sinks_after ha) (caches_frame_after ha).1 (caches_frame_after ha).2
    (aborts_after ha) fun _ => isRunning_of_after ha

/-- The loop of a target is the only one that can move and feeds the cache of the target. -/
theorem eq_task (h : s.Crewed crew) (htarget : crew name = some target)
    (hid : s.caches.get? name = some id) {t : Nat} (ht : s.IsRunning t)
    (hsink : s.sinks[t]? = some (.cache id)) : t = target.task := by
  obtain ⟨other, member, hmember, rfl⟩ := h.manned t ht
  obtain ⟨hnumber, -, i, hi, hfeeds⟩ := h.serving other member hmember
  rw [hnumber, hfeeds] at hsink
  cases hsink
  obtain rfl := h.name_unique _ _ _ hid hi
  rw [htarget] at hmember
  cases hmember
  rfl

/-- A target whose loop is over leaves. -/
theorem leave (h : s.Crewed crew)
    (hover : ∀ target, crew name = some target → ¬ s.IsRunning target.task) :
    s.Crewed (crew.leave name) where
  paired := h.paired
  sink := h.sink
  name_lt := h.name_lt
  name_unique := h.name_unique
  serving other target htarget := h.serving other target (Crew.of_leave htarget).2
  manned t ht := by
    obtain ⟨other, target, htarget, rfl⟩ := h.manned t ht
    refine ⟨other, target, (if_neg ?_).trans htarget, rfl⟩
    rintro rfl
    exact hover target htarget ht

/-- A target leaves while its loop is to be taken away. -/
theorem abort (h : s.Crewed crew) (htarget : crew name = some target) :
    (s.abort target.task).Crewed (crew.leave name) where
  paired := h.paired.abort _
  sink := h.sink
  name_lt := h.name_lt
  name_unique := h.name_unique
  serving other member hmember := by
    obtain ⟨hne, hmember⟩ := Crew.of_leave hmember
    obtain ⟨hnumber, habort, hsink⟩ := h.serving other member hmember
    refine ⟨hnumber, ?_, hsink⟩
    have hother : target.task ≠ member.task :=
      fun hsame => hne (h.eq_of_task htarget hmember hsame)
    rw [getElem?_aborts_abort, habort, decide_eq_false hother]
    rfl
  manned t ht := by
    obtain ⟨ht, hne⟩ := isRunning_of_abort ht
    obtain ⟨other, member, hmember, rfl⟩ := h.manned t ht
    refine ⟨other, member, (if_neg ?_).trans hmember, rfl⟩
    rintro rfl
    rw [htarget] at hmember
    cases hmember
    exact hne rfl

/-- The cache of a name that nobody in the crew has is removed from the registry. -/
theorem remove (h : s.Crewed crew) (hnone : crew name = none) :
    Crewed { s with caches := (s.caches.remove name).2 } crew := by
  have hold : ∀ other i, (s.caches.remove name).2.get? other = some i →
      s.caches.get? other = some i := by
    intro other i hi
    rw [CacheRegistry.remove, CacheRegistry.get?, Dictionary.get?_erase] at hi
    split at hi
    · cases hi
    · exact hi
  constructor
  case paired => exact h.paired.congr rfl rfl rfl fun _ hi => hi
  case sink => exact h.sink
  case name_lt => exact fun other i hi => h.name_lt other i (hold other i hi)
  case name_unique =>
    exact fun other other' i hi hi' =>
      h.name_unique other other' i (hold other i hi) (hold other' i hi')
  case serving =>
    intro other member hmember
    obtain ⟨hnumber, habort, i, hi, hsink⟩ := h.serving other member hmember
    refine ⟨hnumber, habort, i, ?_, hsink⟩
    have hne : name ≠ other := by
      rintro rfl
      rw [hnone] at hmember
      cases hmember
    rw [CacheRegistry.remove, CacheRegistry.get?, Dictionary.get?_erase, if_neg hne]
    exact hi
  case manned => exact h.manned

/-- The cache that a new connection feeds is there. -/
theorem getOrAdd_lt (h : s.Crewed crew) {conn : Connection} (hs' : s.Enlists conn s') :
    (s.caches.getOrAdd conn.name).1 < s'.caches.caches.length := by
  rcases s.caches.getOrAdd_cases conn.name with ⟨hold, -⟩ | ⟨-, hid, hnew⟩
  · exact Nat.lt_of_lt_of_le (h.name_lt _ _ hold) hs'.length_le
  · simp [hs'.caches, hid, hnew]

/-- The cache that a new connection feeds has no other name. -/
theorem eq_of_getOrAdd (h : s.Crewed crew) {other : String}
    (hother : s.caches.get? other = some (s.caches.getOrAdd name).1) : name = other := by
  rcases s.caches.getOrAdd_cases name with ⟨hold, -⟩ | ⟨-, hid, -⟩
  · exact h.name_unique _ _ _ hold hother
  · have := h.name_lt other _ hother
    omega

/-- A connection is made for a target that was not in the crew, and gets a loop. -/
theorem enter (h : s.Crewed crew) {conn : Connection} (hnone : crew conn.name = none)
    (hs' : s.Enlists conn s') :
    s'.Crewed (crew.enter conn.name ⟨s.connections.length, s.tasks.length⟩) := by
  have hsinks : s.sinks.length = s.connections.length := List.length_map _
  have haborts : s.aborts.length = s.tasks.length := List.length_map _
  have hdrivers : s.drivers.length = s.tasks.length := List.length_map _
  constructor
  case paired =>
    exact h.paired.enlist hs'.idle hs'.drivers hs'.connections hs'.locks hs'.aborts
  case sink =>
    intro c sink hc
    rw [hs'.sinks_eq] at hc
    rcases of_getElem?_concat hc with hold | ⟨-, rfl⟩
    · obtain ⟨i, rfl, hlt⟩ := h.sink c sink hold
      exact ⟨i, rfl, Nat.lt_of_lt_of_le hlt hs'.length_le⟩
    · exact ⟨_, hs'.sink, h.getOrAdd_lt hs'⟩
  case name_lt =>
    intro other i hi
    rw [hs'.get?_eq] at hi
    split at hi
    · cases hi
      exact h.getOrAdd_lt hs'
    · exact Nat.lt_of_lt_of_le (h.name_lt other i hi) hs'.length_le
  case name_unique =>
    intro other other' i hi hi'
    rw [hs'.get?_eq] at hi hi'
    split at hi <;> split at hi'
    · next heq heq' => exact heq.symm.trans heq'
    · next heq _ =>
      cases hi
      exact heq.symm.trans (h.eq_of_getOrAdd hi')
    · next heq' =>
      cases hi'
      exact (h.eq_of_getOrAdd hi).symm.trans heq'
    · exact h.name_unique other other' i hi hi'
  case serving =>
    intro other member hmember
    rw [hs'.get?_eq, hs'.aborts, hs'.sinks_eq]
    unfold Crew.enter at hmember
    split at hmember
    · next hname =>
      cases hmember
      refine ⟨?_, ?_, _, if_pos hname, ?_⟩
      · exact (h.paired.length.trans hdrivers).symm
      · rw [← haborts]
        exact List.getElem?_concat_length
      · rw [← hsinks, ← hs'.sink]
        exact List.getElem?_concat_length
    · next hname =>
      obtain ⟨hnumber, habort, i, hi, hfeeds⟩ := h.serving other member hmember
      exact ⟨hnumber, getElem?_concat_of_getElem? habort, i, (if_neg hname).trans hi,
        getElem?_concat_of_getElem? hfeeds⟩
  case manned =>
    intro t ht
    rcases hs'.isRunning_cases ht with hold | rfl
    · obtain ⟨other, member, hmember, rfl⟩ := h.manned t hold
      refine ⟨other, member, (if_neg ?_).trans hmember, rfl⟩
      rintro rfl
      rw [hnone] at hmember
      cases hmember
    · exact ⟨conn.name, _, if_pos rfl, hdrivers.symm⟩

end Crewed

end Network

end TelemetryGateway
