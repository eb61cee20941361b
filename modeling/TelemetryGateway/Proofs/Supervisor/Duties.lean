import TelemetryGateway.Proofs.Supervisor.Crew

/-!
# What a supervisor does to its network

Whatever a supervisor does comes down to a few things that become of its network and of its crew:
time passes or a connection is stopped, a target leaves when its loop is over, or while its loop is
to be taken away, the cache of a name that nobody has is removed, and a connection is made for a new
target.  A property that all of them keep (`Network.IsServed`) is kept by `stopTarget`,
`removeTarget`, `restart`, `apply` and `shutdown`: the case analysis of each is done here, once for
all properties.
-/

namespace TelemetryGateway

namespace Network

variable {s s' : Network} {conn : Connection}

/-- What has become of a network in which a connection was made for a target: it has not been
driven yet, and nobody has lost a slot or a link. -/
structure Recruits (s : Network) (conn : Connection) (s' : Network) : Prop extends
    Enlists s conn s' where
  running : conn.running = false
  pools : s'.pools = s.pools
  links : s'.links = s.links
  exists_task : ∃ e : TaskEntry, s'.tasks = s.tasks ++ [e] ∧ e.task = .loop

/-- Whether a supervisor keeps a property of its crew, of the number of loops that it has had taken
away, and of its network. -/
structure IsServed (motive : Crew → UInt64 → Network → Prop) : Prop where
  act : ∀ {crew : Crew} {k : UInt64} {s : Network} {a : Act}, motive crew k s →
    s.admits a = true → motive crew k (s.after a)
  report : ∀ {crew : Crew} {k : UInt64} {s : Network} (name : String) (o : Occurrence),
    motive crew k s → motive crew k (s.report name o)
  leave : ∀ {crew : Crew} {k : UInt64} {s : Network} {name : String} {target : SupervisedTarget},
    motive crew k s → crew name = some target → s.isFinished target.task = true →
    motive (crew.leave name) k s
  abort : ∀ {crew : Crew} {k : UInt64} {s : Network} {name : String} {target : SupervisedTarget},
    motive crew k s → crew name = some target →
    motive (crew.leave name) (k + 1) (s.abort target.task)
  remove : ∀ {crew : Crew} {k : UInt64} {s : Network} {name : String}, motive crew k s →
    crew name = none → motive crew k { s with caches := (s.caches.remove name).2 }
  enter : ∀ {crew : Crew} {k : UInt64} {s s' : Network} {conn : Connection}, motive crew k s →
    crew conn.name = none → s.Recruits conn s' →
    motive (crew.enter conn.name ⟨s.connections.length, s.tasks.length⟩) k s'

/-- Without the first target the rest of the targets are the crew. -/
theorem Crew.leave_cons {t : String × SupervisedTarget} {rest : List (String × SupervisedTarget)}
    (hsorted : (t :: rest).Pairwise fun a b => a.1 < b.1) :
    Crew.leave (Dictionary.get? ⟨t :: rest, hsorted⟩) t.1 =
      Dictionary.get? ⟨rest, (List.pairwise_cons.mp hsorted).2⟩ := by
  obtain ⟨hhead, htail⟩ := List.pairwise_cons.mp hsorted
  funext other
  unfold leave
  split
  · next hname =>
    symm
    refine Option.eq_none_iff_forall_ne_some.mpr fun target htarget => ?_
    have := hhead _ (Dictionary.mem_entries_iff.mpr htarget)
    exact String.lt_irrefl _ (hname ▸ this)
  · next hname => simp [Dictionary.get?, hname]

end Network

namespace Supervisor

open Network (Crew IsServed)

variable {s : Supervisor} {name : String} {target : SupervisedTarget}

/-- The targets after a stop. -/
theorem get?_stopTarget_eq_leave (s : Supervisor) (name : String) :
    (s.stopTarget name).targets.get? = Crew.leave s.targets.get? name :=
  funext fun other => get?_stopTarget s name other

/-- A new target gets a connection that feeds the cache of its name; its loop has not begun. -/
theorem recruits_startTarget (s : Supervisor) (name : String) (d : TargetDescriptor)
    (request : SubscribeRequest) : ∃ conn : Connection, conn.name = name ∧
      s.network.Recruits conn (s.startTarget name d request).network := by
  let conn : Connection := {
    name, descriptor := d, request, settings := s.settings,
    sink := .cache (s.network.caches.getOrAdd name).1 }
  exact ⟨conn, rfl, {
    idle := rfl
    sink := rfl
    drivers := by
      simp [startTarget, Network.addConnection, Network.spawn, Network.addTask, Network.drivers,
        TaskEntry.driver, conn]
    aborts := by
      simp [startTarget, Network.addConnection, Network.spawn, Network.addTask, Network.aborts]
    connections := rfl
    locks := by simp [startTarget, Network.addConnection, Network.spawn, Network.addTask, conn]
    caches := rfl
    running := rfl
    pools := rfl
    links := rfl
    exists_task := ⟨_, rfl, rfl⟩ }⟩

/-- Whether a property holds for the targets of a supervisor, its count of the loops that were to be
taken away, and its network. -/
def Obeys (motive : Crew → UInt64 → Network → Prop) (s : Supervisor) : Prop :=
  motive s.targets.get? s.metrics.tasksAborted s.network

section IsServed

variable {motive : Crew → UInt64 → Network → Prop} (h : IsServed motive)

include h

theorem served_passes {crew : Crew} {k : UInt64} {n n' : Network} (hn : motive crew k n)
    (hpasses : n.Passes n') : motive crew k n' := by
  induction hpasses with
  | refl => exact hn
  | act _ ha ih => exact h.act ih (Network.admits_of_passing ha)

/-- After a wait for its loop a target leaves, whether the loop has come to its end or not. -/
theorem served_join {crew : Crew} (hs : motive crew s.metrics.tasksAborted s.network)
    (htarget : crew name = some target) (grace : Nat) :
    motive (crew.leave name) (s.join name target.task grace).metrics.tasksAborted
      (s.join name target.task grace).network := by
  obtain ⟨n, hpasses, ⟨hover, heq⟩ | ⟨-, heq⟩⟩ := s.join_cases name target.task grace
  · rw [heq]
    exact h.leave (served_passes h hs hpasses) htarget hover
  · rw [heq]
    exact h.abort (h.report name _ (served_passes h hs hpasses)) htarget

theorem served_stopTarget (hs : s.Obeys motive) (name : String) :
    (s.stopTarget name).Obeys motive := by
  unfold Obeys
  cases htarget : s.targets.get? name with
  | none =>
      rw [stopTarget_of_none htarget]
      exact hs
  | some target =>
      rw [get?_stopTarget_eq_leave]
      simp only [stopTarget, htarget]
      exact served_join h (s := { s with targets := s.targets.erase name }.onNetwork
        (·.disconnect target.connection)) (h.act (a := .disconnect target.connection) hs rfl)
        htarget s.grace

theorem served_removeTarget (hs : s.Obeys motive) (name : String) :
    (s.removeTarget name).Obeys motive :=
  h.report name .targetRemoved (h.remove (served_stopTarget h hs name)
    ((get?_stopTarget s name name).trans (if_pos rfl)))

theorem served_startTarget (hs : s.Obeys motive) (hnone : s.targets.get? name = none)
    (d : TargetDescriptor) (request : SubscribeRequest) :
    (s.startTarget name d request).Obeys motive := by
  obtain ⟨conn, rfl, hrecruits⟩ := s.recruits_startTarget name d request
  have htargets : (s.startTarget conn.name d request).targets.get? =
      Crew.enter s.targets.get? conn.name
        ⟨s.network.connections.length, s.network.tasks.length⟩ := by
    funext other
    rw [(starts_startTarget s conn.name d request).targets]
    exact Dictionary.get?_insert _ _ _ _
  unfold Obeys
  rw [htargets]
  exact h.enter hs hnone hrecruits

theorem served_restart (hs : s.Obeys motive) (name : String) (o : Occurrence)
    (d : TargetDescriptor) (request : SubscribeRequest) :
    (s.restart name o d request).Obeys motive :=
  served_startTarget h (s := (s.stopTarget name).onNetwork (·.report name o))
    (h.report name o (served_stopTarget h hs name))
    ((get?_stopTarget s name name).trans (if_pos rfl)) d request

theorem served_apply (hs : s.Obeys motive) (c : TargetConfiguration) :
    (s.apply c).2.Obeys motive :=
  apply_induction c (fun hs => hs) (fun name hs => served_removeTarget h hs name)
    (fun name o d request hs => served_restart h hs name o d request) hs

/-! ### Shutdowns -/

/-- Whoever is waited for in a shutdown leaves. -/
theorem served_foldl_join (deadline : Nat) {targets : List (String × SupervisedTarget)}
    (hsorted : targets.Pairwise fun a b => a.1 < b.1)
    (hs : motive (Dictionary.get? ⟨targets, hsorted⟩) s.metrics.tasksAborted s.network) :
    let s' := targets.foldl
      (fun s t => (s.join t.1 t.2.task (deadline - s.network.now)).countStopped) s
    motive (fun _ => none) s'.metrics.tasksAborted s'.network := by
  induction targets generalizing s with
  | nil => exact hs
  | cons t rest ih =>
      have htarget : Dictionary.get? ⟨t :: rest, hsorted⟩ t.1 = some t.2 :=
        Dictionary.mem_entries_iff.mp List.mem_cons_self
      refine ih (List.pairwise_cons.mp hsorted).2
        (s := (s.join t.1 t.2.task (deadline - s.network.now)).countStopped) ?_
      rw [← Crew.leave_cons]
      exact served_join h hs htarget _

theorem served_shutdown (hs : s.Obeys motive) : s.shutdown.Obeys motive := by
  have hdisconnect : ∀ (targets : List (String × SupervisedTarget)) (n : Network),
      motive s.targets.get? s.metrics.tasksAborted n →
      motive s.targets.get? s.metrics.tasksAborted
        (targets.foldl (fun n t => n.disconnect t.2.connection) n) := by
    intro targets
    induction targets with
    | nil => exact fun n hn => hn
    | cons t rest ih => exact fun n hn => ih _ (h.act (a := .disconnect t.2.connection) hn rfl)
  unfold Obeys
  rw [s.shutdown_frame.1]
  exact served_foldl_join h _ s.targets.ascending
    (hdisconnect s.targets.entries _ (h.report "" .shuttingDown hs))

end IsServed

end Supervisor

end TelemetryGateway
