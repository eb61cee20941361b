import TelemetryGateway.Proofs.Network.Admission
import TelemetryGateway.Proofs.Network.Contention
import TelemetryGateway.Proofs.Network.Links
import TelemetryGateway.Proofs.Supervisor.Liveness

/-!
# Networks that a supervisor manages

`Network.Managed` are the networks that come of new slot pools and some locks by all that a
supervisor does, by what goes on in the meantime, and by others who contend for the locks.  Whatever
can be said about all of them is said by one induction each:

* `Network.Managed.tended`, `Network.Managed.lasting`: caches and loops;
* `Network.Managed.slotted`: every slot that is out is in the hands of a loop that is under way;
* `Network.Managed.linksHeld`: so is every link that is not closed, if no loop was taken away;
* `Network.Managed.isEven`: every cache that was not cut off from a loop was disconnected as often
  as it was connected, but for the session that is open;
* `Network.Managed.count_aborts`: how many loops were taken away, or are to be.

The network of every supervisor is one of them (`Supervisor.managed_of_reachableAmong`).
-/

namespace TelemetryGateway

/-! ## The counters of a cache -/

namespace TargetCache

variable {k : TargetCache} {before after : Bool} {calls : List SinkCall}

theorem counters_receive (k : TargetCache) (call : SinkCall) :
    (k.receive call).connects = k.connects + UInt64.ofNat ([call].count .connect) ∧
      (k.receive call).disconnects =
        k.disconnects + UInt64.ofNat ([call].count .disconnect) := by
  cases call with
  | update n => by_cases hroot : hasRootUpdate n <;> simp [receive, update, hroot]
  | _ => simp [receive, connect, disconnect, reset, sync]

theorem counters_foldl_receive (k : TargetCache) (calls : List SinkCall) :
    (calls.foldl receive k).connects = k.connects + UInt64.ofNat (calls.count .connect) ∧
      (calls.foldl receive k).disconnects =
        k.disconnects + UInt64.ofNat (calls.count .disconnect) := by
  induction calls generalizing k with
  | nil => exact ⟨(UInt64.add_zero _).symm, (UInt64.add_zero _).symm⟩
  | cons call rest ih =>
      obtain ⟨hconnects, hdisconnects⟩ := counters_receive k call
      obtain ⟨hconnects', hdisconnects'⟩ := ih (k.receive call)
      rw [List.foldl_cons, hconnects', hdisconnects', hconnects, hdisconnects,
        ← List.singleton_append (l := rest), List.count_append, List.count_append, UInt64.ofNat_add,
        UInt64.ofNat_add, UInt64.add_assoc, UInt64.add_assoc]
      exact ⟨rfl, rfl⟩

/-- A cache was disconnected as often as it was connected, but for the session that is open. -/
def IsEven (k : TargetCache) : Prop :=
  k.connects = k.disconnects + UInt64.ofNat k.connected.toNat

/-- The calls of a move keep the counters in step. -/
theorem IsEven.foldl_receive (h : k.IsEven) (hcalls : Extends before after calls)
    (hbefore : k.connected = before) : (calls.foldl receive k).IsEven := by
  have hafter : (calls.foldl receive k).connected = after := by
    by_cases hnil : calls = []
    · subst hnil
      rw [hcalls.eq_of_nil]
      exact hbefore
    · exact (foldl_receive_of_extends hcalls hnil fun htrue => hbefore.trans htrue).1
  obtain ⟨hconnects, hdisconnects⟩ := counters_foldl_receive k calls
  unfold IsEven at h ⊢
  calc (calls.foldl receive k).connects
      = k.disconnects + UInt64.ofNat k.connected.toNat + UInt64.ofNat (calls.count .connect) := by
        rw [hconnects, h]
    _ = k.disconnects + UInt64.ofNat (calls.count .connect + before.toNat) := by
        rw [hbefore, UInt64.ofNat_add]
        ac_rfl
    _ = k.disconnects + UInt64.ofNat (calls.count .disconnect + after.toNat) := by
        rw [hcalls.count_connect]
    _ = (calls.foldl receive k).disconnects +
          UInt64.ofNat (calls.foldl receive k).connected.toNat := by
        rw [hdisconnects, hafter, UInt64.ofNat_add]
        ac_rfl

theorem IsClear.isEven (hclear : k.IsClear) (h : k.IsEven) : k.connects = k.disconnects := by
  rw [h, hclear.1]
  exact UInt64.add_zero _

end TargetCache

namespace Network

variable {locks locks' : LockService} {crew : Crew} {k : Nat} {s s' : Network} {a : Act}

/-! ## What can happen -/

/-- The networks that come of new pools and some locks in the hands of a supervisor, with the crew
and the number of the loops that were to be taken away. -/
inductive Managed (locks : LockService) : Crew → Nat → Network → Prop
  | new {pools : List SlotPool} : (∀ pool ∈ pools, pool.available = pool.capacity) →
      Managed locks (fun _ => none) 0 { pools, locks }
  | act {crew : Crew} {k : Nat} {s : Network} {a : Act} : Managed locks crew k s →
      s.admits a = true → Managed locks crew k (s.after a)
  | contention {crew : Crew} {k : Nat} {s : Network} {locks' : LockService} :
      Managed locks crew k s → s.locks.Contends (some · ∈ s.gates) locks' →
      Managed locks crew k { s with locks := locks' }
  | report {crew : Crew} {k : Nat} {s : Network} (name : String) (o : Occurrence) :
      Managed locks crew k s → Managed locks crew k (s.report name o)
  | leave {crew : Crew} {k : Nat} {s : Network} {name : String} {target : SupervisedTarget} :
      Managed locks crew k s → crew name = some target → s.isFinished target.task = true →
      Managed locks (crew.leave name) k s
  | abort {crew : Crew} {k : Nat} {s : Network} {name : String} {target : SupervisedTarget} :
      Managed locks crew k s → crew name = some target →
      Managed locks (crew.leave name) (k + 1) (s.abort target.task)
  | remove {crew : Crew} {k : Nat} {s : Network} {name : String} : Managed locks crew k s →
      crew name = none → Managed locks crew k { s with caches := (s.caches.remove name).2 }
  | enter {crew : Crew} {k : Nat} {s s' : Network} {conn : Connection} :
      Managed locks crew k s → crew conn.name = none → s.Recruits conn s' →
      Managed locks (crew.enter conn.name ⟨s.connections.length, s.tasks.length⟩) k s'

/-- A task in the hands of a supervisor goes on from where it was. -/
theorem exists_driver_before (ha : s.admits a = true) {t : Nat} {d' : Driver}
    (h : (s.after a).drivers[t]? = some d') : ∃ d : Driver, s.drivers[t]? = some d ∧
      (d' = d ∨ (∃ conn reply, d.task.point.isFinished = false ∧
          d' = { d with task := (d.task.resume conn reply).task }) ∨
        d' = { d with task := d.task.taken }) := by
  have hlength : (s.after a).drivers.length = s.drivers.length := by
    have := congrArg List.length (gates_after ha)
    simpa [gates] using this
  have hlt : t < s.drivers.length := hlength ▸ (List.getElem?_eq_some_iff.mp h).1
  cases driverAfter h with
  | same hd => exact ⟨d', hd, .inl rfl⟩
  | @move m _ hmove =>
      obtain ⟨he, -, reply, -, hm⟩ := nextMove?_eq_some hmove
      refine ⟨m.entry.driver, getElem?_drivers he, .inr (.inl ⟨m.connection, reply, ?_, ?_⟩)⟩
      · exact isFinished_of_nextMove? hmove
      · rw [hm]
        rfl
  | taken _ hd => exact ⟨_, hd, .inr (.inr rfl)⟩
  | loop ht => omega
  | attempt ht => omega

/-! ## Slots -/

/-- The pools are balanced, and every loop does what loops do. -/
structure Slotted (s : Network) : Prop where
  balanced : s.Balanced
  follows : ∀ (t : Nat) (d : Driver), s.drivers[t]? = some d →
    ∃ operations task, Task.Follows operations task ∧ (d.task = task ∨ d.task = task.taken)

namespace Slotted

theorem holds (h : s.Slotted) {t : Nat} {d : Driver} (hd : s.drivers[t]? = some d) :
    d.task.Holds := by
  obtain ⟨operations, task, hfollows, htask | htask⟩ := h.follows t d hd
  · rw [htask]
    exact hfollows.holds
  · rw [htask]
    exact ⟨nofun, nofun, nofun, nofun, nofun⟩

theorem steady (h : s.Slotted) (a : Act) : Steady s (s.after a) :=
  steady_after h.balanced a fun _ _ he => (h.holds (getElem?_drivers he)).takingSlot

theorem after (h : s.Slotted) (ha : s.admits a = true) : (s.after a).Slotted where
  balanced := h.balanced.steady (h.steady a)
  follows t d' hd' := by
    obtain ⟨d, hd, hcases⟩ := exists_driver_before ha hd'
    obtain ⟨operations, task, hfollows, htask⟩ := h.follows t d hd
    rcases hcases with rfl | ⟨conn, reply, hopen, rfl⟩ | rfl
    · exact ⟨operations, task, hfollows, htask⟩
    · rcases htask with htask | htask
      · exact ⟨_, _, (htask ▸ hfollows).resume conn reply, .inl rfl⟩
      · rw [htask] at hopen
        cases hopen
    · rcases htask with htask | htask
      · exact ⟨operations, task, hfollows, .inr (congrArg Task.taken htask)⟩
      · refine ⟨operations, task, hfollows, .inr ?_⟩
        rw [htask]
        rfl

theorem abort (h : s.Slotted) (t : Nat) : (s.abort t).Slotted where
  balanced := h.balanced.steady (h.steady (.abort t))
  follows := by
    rw [show (s.abort t).drivers = s.drivers from drivers_modifyTask s t fun _ => rfl]
    exact h.follows

theorem enter (h : s.Slotted) {conn : Connection} (hs' : s.Recruits conn s') : s'.Slotted where
  balanced := by
    obtain ⟨e, htasks, hloop⟩ := hs'.exists_task
    refine h.balanced.steady (steady_of_quiet hs'.pools (holders_of_concat htasks ?_))
    rw [hloop]
    rfl
  follows t d hd := by
    rw [hs'.drivers] at hd
    rcases of_getElem?_concat hd with hold | ⟨-, rfl⟩
    · exact h.follows t d hold
    · exact ⟨[], .loop, .entering, .inl rfl⟩

end Slotted

namespace Managed

/-! ## What holds in all of them -/

theorem tended (h : Managed locks crew k s) : s.Tended crew := by
  induction h with
  | new => exact tended_of_nil rfl rfl rfl
  | act _ ha ih => exact ih.after ha
  | contention _ hlocks ih =>
      exact ih.congr (ih.crewed.congr (ih.crewed.paired.contend hlocks) rfl rfl rfl rfl fun _ => id)
        rfl (fun _ => id) fun _ => id
  | report name o _ ih => exact ih.report name o
  | leave _ htarget hover ih => exact Supervisor.isServed_tended.leave (k := 0) ih htarget hover
  | abort _ htarget ih => exact ih.abort htarget
  | remove _ hnone ih => exact ih.remove hnone
  | enter _ hnone hrecruits ih => exact ih.enter hnone hrecruits.toEnlists

theorem paired (h : Managed locks crew k s) : s.Paired := h.tended.crewed.paired

theorem lasting (h : Managed locks crew k s) : s.Lasting := by
  induction h with
  | new => exact ⟨.of_nil rfl rfl, by simp [drivers]⟩
  | act _ ha ih => exact isKept_lasting.after ih ha
  | contention _ hlocks ih => exact ih.congr (ih.paired.contend hlocks) rfl rfl fun _ ht => ht
  | report name o _ ih => exact isKept_lasting.report name o ih
  | leave _ _ _ ih => exact ih
  | abort _ _ ih => exact isKept_lasting.abort _ ih
  | remove _ _ ih => exact isKept_lasting.caches _ ih
  | enter _ _ hrecruits ih => exact ih.enlist hrecruits.toEnlists hrecruits.running

/-- Who keeps the locks faithful in the beginning does so for ever. -/
theorem faithful (h : Managed locks crew k s) (hlocks : locks.Faithful) : s.locks.Faithful := by
  induction h with
  | new => exact hlocks
  | act _ _ ih => exact faithful_after ih _
  | contention _ hcontends ih => exact hcontends.faithful ih
  | enter _ _ hrecruits ih =>
      rw [hrecruits.locks]
      exact ih.gate _
  | _ => assumption

theorem slotted (h : Managed locks crew k s) : s.Slotted := by
  induction h with
  | new hfull => exact ⟨balanced_of_full hfull, by simp [drivers]⟩
  | act _ ha ih => exact ih.after ha
  | contention _ _ ih | report _ _ _ ih | remove _ _ ih => exact ⟨ih.balanced, ih.follows⟩
  | leave _ _ _ ih => exact ih
  | abort _ _ ih => exact ih.abort _
  | enter _ _ hrecruits ih => exact ih.enter hrecruits

/-- The loops that were taken away, or are to be, are counted. -/
theorem count_aborts (h : Managed locks crew k s) : s.aborts.count true = k := by
  induction h with
  | new => rfl
  | act _ ha ih => rw [aborts_after ha, ih]
  | @abort crew k s name target hs htarget ih =>
      obtain ⟨-, habort, -⟩ := hs.tended.crewed.serving name target htarget
      obtain ⟨hlt, hfalse⟩ := List.getElem?_eq_some_iff.mp habort
      have haborts : (s.abort target.task).aborts = s.aborts.set target.task true := by
        apply List.ext_getElem?
        intro c
        rw [getElem?_aborts_abort, List.getElem?_set]
        by_cases hc : target.task = c
        · subst hc
          rw [habort, if_pos rfl, if_pos hlt]
          simp
        · simp [hc]
      rw [haborts, List.count_set hlt, hfalse, ih]
      rfl
  | enter _ _ hrecruits ih =>
      rw [hrecruits.aborts, List.count_append, ih]
      rfl
  | _ => assumption

/-- A link that is not closed is in the hands of a loop as long as no loop was taken away. -/
theorem linksHeld (h : Managed locks crew k s) (hnone : ∀ t : Nat, s.aborts[t]? ≠ some true) :
    LinksHeld s.drivers s.links := by
  induction h with
  | new => constructor <;> simp [drivers]
  | @act crew k s a _ ha ih =>
      rw [aborts_after ha] at hnone
      have hlinks := ih hnone
      by_cases hloops : a.byLoops = true
      · exact hlinks.effect (after_effect s a hloops)
      · -- only a loop that was to be taken away can be destroyed
        cases a with
        | destroy t =>
            have hpassing : s.taskIs (·.aborted) t = true := ha
            rw [taskIs_aborted] at hpassing
            cases habort : s.aborts[t]? with
            | none => simp [habort] at hpassing
            | some b =>
                obtain rfl : b = true := by simpa [habort] using hpassing
                exact absurd habort (hnone t)
        | attempt => cases ha
        | _ => exact absurd rfl hloops
  | @abort _ _ s _ target _ _ ih =>
      have hlinks := ih fun t ht => hnone t <| by
        rw [getElem?_aborts_abort, ht]
        rfl
      rwa [show (s.abort target.task).drivers = s.drivers from
        drivers_modifyTask s target.task fun _ => rfl]
  | @enter _ _ s _ _ _ _ hrecruits ih =>
      rw [hrecruits.drivers, hrecruits.links]
      refine (ih fun t ht => hnone t ?_).loop _ _
      rw [hrecruits.aborts]
      exact getElem?_concat_of_getElem? ht
  | contention _ _ ih | report _ _ _ ih | leave _ _ _ ih | remove _ _ ih => exact ih hnone

/-- A cache that was never cut off from a loop has its counters in step. -/
theorem isEven (h : Managed locks crew k s) {id : Nat} {cache : TargetCache}
    (hcache : s.caches.cache? id = some cache) (hcut : ¬ s.IsCut id) : cache.IsEven := by
  induction h generalizing cache with
  | new => simp [CacheRegistry.cache?] at hcache
  | @act crew k s a hs ha ih =>
      rw [isCut_congr (sinks_after ha) (aborts_after ha)] at hcut
      have hquiet (hcaches : (s.after a).caches = s.caches) : cache.IsEven :=
        ih (hcaches ▸ hcache) hcut
      rcases admits_cases ha with ⟨t, rfl, ht⟩ | ⟨t, rfl, ht⟩ | ⟨c, rfl⟩ | hsame
      · cases hmove : s.nextMove? t with
        | none => exact hquiet (congrArg caches (after_step_of_none hmove))
        | some m =>
            obtain ⟨i, before, after, calls, hfeeds⟩ := hs.tended.crewed.exists_feeds ht hmove
            obtain ⟨old, hold, rfl⟩ := hfeeds.cache id cache hcache
            have heven := ih hold hcut
            split
            · next heq =>
              subst heq
              refine heven.foldl_receive hfeeds.extends_calls ?_
              rw [Bool.eq_iff_iff, ← hfeeds.owned_before]
              exact ⟨fun hconnected =>
                (hs.tended.connected i old hold hconnected).resolve_right hcut,
                hs.tended.owned i old hold⟩
            · exact heven
      · exact hquiet (caches_destroy s t)
      · exact hquiet (disconnect_frame s c).2.2
      · exact hquiet hsame.caches
  | @abort _ _ s _ _ _ _ ih =>
      refine ih hcache fun hbefore => hcut ?_
      obtain ⟨c, hsink, habort⟩ := hbefore
      refine ⟨c, hsink, ?_⟩
      rw [getElem?_aborts_abort, habort]
      rfl
  | enter _ _ hrecruits ih =>
      rcases hrecruits.cache_cases hcache with hold | ⟨-, rfl⟩
      · exact ih hold fun hbefore => hcut (hrecruits.isCut hbefore)
      · rfl
  | contention _ _ ih | report _ _ _ ih | leave _ _ _ ih | remove _ _ ih => exact ih hcache hcut

end Managed

end Network

namespace Supervisor

variable {config : GatewayConfig} {locks : LockService} {s : Supervisor}

/-! ## Every supervisor -/

/-- The supervisors that come of a configuration and some locks, while others contend for the locks.
-/
inductive ReachableAmong (config : GatewayConfig) (locks : LockService) : Supervisor → Prop
  | new {s : Supervisor} : new config locks = .ok s → ReachableAmong config locks s
  | apply {s : Supervisor} (c : TargetConfiguration) : ReachableAmong config locks s →
      ReachableAmong config locks (s.apply c).2
  | shutdown {s : Supervisor} : ReachableAmong config locks s →
      ReachableAmong config locks s.shutdown
  | world {s : Supervisor} {a : Act} : ReachableAmong config locks s →
      s.network.admits a = true → ReachableAmong config locks (s.onNetwork (·.after a))
  | contention {s : Supervisor} {locks' : LockService} : ReachableAmong config locks s →
      s.network.locks.Contends (some · ∈ s.network.gates) locks' →
      ReachableAmong config locks (s.onNetwork ({ · with locks := locks' }))

/-- Nobody has to contend. -/
theorem Reachable.among (h : Reachable config locks s) : ReachableAmong config locks s := by
  induction h with
  | new hnew => exact .new hnew
  | apply c _ ih => exact ih.apply c
  | shutdown _ ih => exact ih.shutdown
  | world _ ha ih => exact ih.world ha

theorem staffed_of_reachableAmong (h : ReachableAmong config locks s) : s.Staffed := by
  induction h with
  | new hnew => exact staffed_of_new hnew
  | apply c _ ih => exact ih.apply c
  | shutdown _ ih => exact ih.shutdown
  | world _ ha ih => exact ih.onNetwork (Network.length_standings_after_of_admits ha)
  | contention _ _ ih => exact ih.onNetwork rfl

/-- A supervisor does nothing but manage its network, and counts the loops that it has had taken
away. -/
theorem isServed_managed (locks : LockService) : Network.IsServed fun crew aborted n =>
    ∃ k, Network.Managed locks crew k n ∧ aborted = UInt64.ofNat k where
  act h ha := h.imp fun _ h => ⟨h.1.act ha, h.2⟩
  report name o h := h.imp fun _ h => ⟨h.1.report name o, h.2⟩
  leave h htarget hover := h.imp fun _ h => ⟨h.1.leave htarget hover, h.2⟩
  abort h htarget := by
    obtain ⟨k, hmanaged, rfl⟩ := h
    exact ⟨k + 1, hmanaged.abort htarget, (UInt64.ofNat_add k 1).symm⟩
  remove h hnone := h.imp fun _ h => ⟨h.1.remove hnone, h.2⟩
  enter h hnone hrecruits := h.imp fun _ h => ⟨h.1.enter hnone hrecruits, h.2⟩

theorem managed_of_reachableAmong (h : ReachableAmong config locks s) :
    s.Obeys fun crew aborted n =>
      ∃ k, Network.Managed locks crew k n ∧ aborted = UInt64.ofNat k := by
  induction h with
  | new hnew =>
      obtain ⟨-, rfl⟩ := new_eq_ok_iff.mp hnew
      refine ⟨0, .new fun p hp => ?_, rfl⟩
      obtain rfl := List.mem_singleton.mp hp
      rfl
  | apply c _ ih => exact served_apply (isServed_managed locks) ih c
  | shutdown _ ih => exact served_shutdown (isServed_managed locks) ih
  | world _ ha ih => exact (isServed_managed locks).act ih ha
  | contention _ hcontends ih =>
      obtain ⟨k, hmanaged, hcount⟩ := ih
      exact ⟨k, hmanaged.contention hcontends, hcount⟩

end Supervisor

end TelemetryGateway
