import TelemetryGateway.Proofs.Supervisor.Management

/-!
# What a shutdown leaves behind

A connection comes to its end on three ways: its target is removed, it is replaced, or the
supervisor shuts down.  On each of them its loop is waited for.  When every loop that was waited for
has come to its end in time, a shutdown leaves nothing behind (`Supervisor.IsDown`), of all the
connections that there ever were: no slot, no lock, no open link, nothing in a cache.  Gates that
belong to others are none of its business: they hold what they have held before.

* `Network.Managed.isFinished`: without a crew every loop is over, unless it was taken away;
* `Supervisor.down_of_shutdown`: what a shutdown leaves behind after any run.
-/

namespace TelemetryGateway

namespace Network

variable {locks : LockService} {crew : Crew} {k : Nat} {s : Network}

/-! ## Networks without a crew -/

namespace Managed

variable (h : Managed locks (fun _ => none) k s) (hended : ∀ e ∈ s.tasks, e.aborted = false)

include h hended

omit h in
theorem aborts_of_ended (t : Nat) : s.aborts[t]? ≠ some true := by
  intro habort
  rw [aborts, List.getElem?_map] at habort
  obtain ⟨e, he, haborted⟩ := Option.map_eq_some_iff.mp habort
  rw [hended e (List.mem_of_getElem? he)] at haborted
  cases haborted

omit h in
theorem getElem?_aborts {t : Nat} {d : Driver} (hd : s.drivers[t]? = some d) :
    s.aborts[t]? = some false := by
  have hlt := (List.getElem?_eq_some_iff.mp hd).1
  cases habort : s.aborts[t]? with
  | none =>
      have := List.getElem?_eq_none_iff.mp habort
      simp only [aborts, drivers, List.length_map] at hlt this
      omega
  | some flag =>
      cases flag with
      | false => rfl
      | true => exact absurd habort (aborts_of_ended hended t)

/-- Nobody supervises a loop that goes on. -/
theorem isFinished {t : Nat} {d : Driver} (hd : s.drivers[t]? = some d) :
    d.task.point.isFinished = true := by
  cases hopen : d.task.point.isFinished with
  | true => rfl
  | false =>
      obtain ⟨_, _, hmember, -⟩ :=
        h.tended.crewed.manned t ⟨d, hd, getElem?_aborts hended hd, hopen⟩
      cases hmember

theorem phase_eq_stopped {conn : Connection} (hconn : conn ∈ s.connections) :
    conn.phase = .stopped := by
  obtain ⟨t, ht⟩ := List.mem_iff_getElem?.mp hconn
  have hlt := (List.getElem?_eq_some_iff.mp ht).1
  rw [h.paired.length] at hlt
  have hd := List.getElem?_eq_getElem hlt
  have hover := h.isFinished hended hd
  have habort := getElem?_aborts hended hd
  have hlasts := h.lasting.lasts t _ conn hd ht habort
  refine Phase.eq_stopped_of_isResting (h.paired.resting_of_finished hd ht habort hover) ?_
  cases hpoint : s.drivers[t].task.point with
  | finished result => rwa [hpoint] at hlasts
  | _ =>
      rw [hpoint] at hover
      cases hover

theorem available_eq_capacity (p : Nat) : (s.pool p).available = (s.pool p).capacity := by
  have hnone : s.holders p = 0 := by
    refine List.countP_eq_zero.mpr fun e he hholds => ?_
    obtain ⟨t, ht⟩ := List.mem_iff_getElem?.mp he
    have hd := getElem?_drivers ht
    have hslot : e.task.hasSlot = true := (Bool.and_eq_true _ _ ▸ hholds).2
    have hover := h.isFinished hended hd
    rw [Point.isFinished_of_isEngaged ((h.slotted.holds hd).isEngaged hslot)] at hover
    cases hover
  have := h.slotted.balanced p
  omega

theorem isHeldBy_of_gate {g : Nat} (hg : some g ∈ s.gates) : s.locks.isHeldBy g = false := by
  obtain ⟨d, hmem, hgate⟩ := List.mem_map.mp hg
  obtain ⟨t, hd⟩ := List.mem_iff_getElem?.mp hmem
  obtain ⟨g', hg', hmark⟩ := h.paired.gate t d hd
  obtain rfl := Option.some_inj.mp (hgate.symm.trans hg')
  rw [LockService.isHeldBy, hmark, h.paired.hasLock_of_finished hd (h.isFinished hended hd)]
  rfl

theorem closeRequested {l : Link} (hl : l ∈ s.links) : l.closeRequested = true := by
  obtain ⟨i, hi⟩ := List.mem_iff_getElem?.mp hl
  cases hclosed : l.closeRequested with
  | true => rfl
  | false =>
      obtain ⟨t, d, hd, hlink⟩ := (h.linksHeld (aborts_of_ended hended)).held i l hi hclosed
      have hover := h.isFinished hended hd
      cases hpoint : d.task.point <;> rw [hpoint] at hlink hover <;> cases hlink <;> cases hover

theorem isClear {id : Nat} {cache : TargetCache} (hcache : s.caches.cache? id = some cache) :
    cache.IsClear ∧ cache.connects = cache.disconnects := by
  have hcut : ¬ s.IsCut id := fun ⟨c, _, habort⟩ => aborts_of_ended hended c habort
  have howned : ¬ s.IsOwned id := by
    rintro ⟨c, hclaim, -⟩
    obtain ⟨conn, hconn, -, howns⟩ := exists_of_getElem?_claims hclaim
    rw [h.phase_eq_stopped hended (List.mem_of_getElem? hconn)] at howns
    cases howns
  have hclear : cache.IsClear :=
    (h.tended.settled id cache hcache).resolve_left fun hconnected =>
      (h.tended.connected id cache hcache hconnected).elim howned hcut
  exact ⟨hclear, hclear.isEven (h.isEven hcache hcut)⟩

end Managed

end Network

namespace Supervisor

variable {config : GatewayConfig} {locks : LockService} {s : Supervisor}

/-! ## Shutdowns -/

/-- What a supervisor has that is down, of everything that it ever had: nothing. -/
structure IsDown (s : Supervisor) : Prop where
  targets : s.targets.keys = []
  status : s.status = []
  phase : ∀ conn ∈ s.network.connections, conn.phase = .stopped
  slots : ∀ p, (s.network.pool p).inUse = 0
  locks : ∀ g, some g ∈ s.network.gates → s.network.locks.isHeldBy g = false
  links : ∀ l ∈ s.network.links, l.closeRequested = true
  caches : ∀ id cache, s.network.caches.cache? id = some cache →
    cache.IsClear ∧ cache.connects = cache.disconnects
  targetsStarted : s.metrics.targetsStarted = s.metrics.targetsStopped
  tasksAborted : s.metrics.tasksAborted = 0

/-- What others have is theirs during a shutdown. -/
theorem spares_shutdown (s : Supervisor) : s.network.Spares s.shutdown.network := by
  refine shutdown_induction (motive := s.network.Spares) (fun name o hn => hn.report name o)
    (fun c hn => hn.after (a := .disconnect c) rfl) ?_ (.refl s.network)
  intro s' name task grace hs'
  obtain ⟨n, hpasses, hcases⟩ := s'.join_cases name task grace
  have hn : s.network.Spares n := hs'.passes hpasses
  rcases hcases with ⟨-, heq⟩ | ⟨-, heq⟩
  · rw [heq]
    exact hn
  · rw [heq]
    exact (hn.report name _).abort task

/-- A supervisor without targets has nothing to shut down. -/
theorem shutdown_of_targets (h : s.targets = ∅) :
    s.shutdown = s.onNetwork (·.report "" .shuttingDown) := by
  unfold shutdown
  rw [h]
  cases s
  cases h
  rfl

/-- After any run, whatever devices did and whoever contended for the locks: if no loop was taken
away by the end of a shutdown, because each that was waited for has come to its end in time, then
nothing of all connections is left.  Gates of others hold what they held before; a registry has only
the names that such gates hold, if it was in order in the beginning.  Another shutdown is noted in
the journal, and that is all. -/
theorem down_of_shutdown (config : GatewayConfig) (locks : LockService) (s : Supervisor)
    (hs : ReachableAmong config locks s)
    (hended : ∀ e ∈ s.shutdown.network.tasks, e.aborted = false) :
    s.shutdown.IsDown ∧
      (∀ g, some g ∉ s.network.gates →
        s.shutdown.network.locks.isHeldBy g = s.network.locks.isHeldBy g) ∧
      (locks.Faithful → ∀ r, s.shutdown.network.locks = .registry r → ∀ name,
        name ∈ r.held ↔ ∃ g, some g ∉ s.network.gates ∧ r.OwnedBy name g) ∧
      s.shutdown.shutdown = s.shutdown.onNetwork (·.report "" .shuttingDown) := by
  obtain ⟨htargets, -⟩ := s.shutdown_frame
  have hspares := s.spares_shutdown
  obtain ⟨k, hmanaged, hcount⟩ := managed_of_reachableAmong hs.shutdown
  have hcrew : s.shutdown.targets.get? = fun _ => none := by rw [htargets]; rfl
  rw [hcrew] at hmanaged
  have hfree : ∀ g, some g ∈ s.network.gates → s.shutdown.network.locks.isHeldBy g = false :=
    fun g hg => hmanaged.isHeldBy_of_gate hended (hspares.gates.symm ▸ hg)
  refine ⟨?_, fun g hg => ?_, fun hlocks r hr name => ?_, shutdown_of_targets htargets⟩
  · constructor
    case targets => rw [htargets]; rfl
    case status => rw [status, htargets]; rfl
    case phase => exact fun conn => hmanaged.phase_eq_stopped hended
    case slots =>
      intro p
      rw [SlotPool.inUse, hmanaged.available_eq_capacity hended, Nat.sub_self]
    case locks => exact fun g hg => hfree g (hspares.gates ▸ hg)
    case links => exact fun l => hmanaged.closeRequested hended
    case caches => exact fun id cache => hmanaged.isClear hended
    case targetsStarted =>
      rw [(staffed_of_reachableAmong hs.shutdown).balance, htargets]
      exact UInt64.add_zero _
    case tasksAborted =>
      have hnone : k = 0 := by
        rw [← hmanaged.count_aborts, List.count_eq_zero]
        intro hmem
        obtain ⟨t, ht⟩ := List.mem_iff_getElem?.mp hmem
        exact Network.Managed.aborts_of_ended hended t ht
      rw [hcount, hnone]
      rfl
  · rw [LockService.isHeldBy, hspares.marks g hg]
    rfl
  · have hfaithful := hmanaged.faithful hlocks
    rw [hr] at hfaithful
    rw [LockRegistry.Faithful.mem_held hfaithful]
    refine exists_congr fun g => (and_iff_right_of_imp fun howned hg => ?_).symm
    -- a gate of a loop holds nothing
    have hheld := hfree g hg
    rw [hr, LockService.isHeldBy, LockService.marks, List.getElem?_map,
      show r.gates[g]? = some ⟨name, true⟩ from howned] at hheld
    cases hheld

/-- Somebody else takes the lock of a target that is about to be configured, and keeps it. -/
def contested : Supervisor :=
  (feeding {}).onNetwork fun n =>
    { n with locks := ((n.locks.gate "leaf2").2.tryAcquire (n.locks.gate "leaf2").1).2 }

theorem reachableAmong_contested : ReachableAmong {} (.registry {}) contested := by
  have hfed : Reachable {} (.registry {}) (feeding {}) :=
    reachable_feeding ⟨_, rfl, by decide +kernel⟩
  refine .contention hfed.among (.trans (.made _ _ "leaf2") (.tried ?_ _))
  decide +kernel

/-- A target that has delivered a leaf, one that waits for a lock that somebody else keeps, and two
that dial: a shutdown ends all of them in time, and the other gate keeps its lock. -/
theorem down_of_contested :
    let s := (contested.apply fourTargets).2
    s.shutdown.IsDown ∧ s.shutdown.network.locks.isHeldBy 1 = true := by
  intro s
  obtain ⟨hdown, hothers, -⟩ := down_of_shutdown {} (.registry {}) s
    (reachableAmong_contested.apply fourTargets) (by decide +kernel)
  refine ⟨hdown, ?_⟩
  rw [hothers 1 (by decide +kernel)]
  decide +kernel

end Supervisor

end TelemetryGateway
