import TelemetryGateway.Proofs.Lock.Service
import TelemetryGateway.Proofs.Network.Coherence

/-!
# Loops that share a lock registry

Several connections to one target exclude each other by a lock registry that their loops share, each
loop with a gate of its own.  Three things have to fit together for that, and `Network.Shared` says
how they do: what the registry records, what each gate records for itself, and what each loop
believes to have.  A loop is inside an attempt to connect only with the lock, so no two of them are
(`Network.Shared.unique_connecting`).

* `Network.Shared.lockStep`: in a move a loop keeps what it has, takes a lock that is free, or gives
  the lock back;
* `Network.Shared.effect`: whatever happens, the three stay in agreement.
-/

namespace TelemetryGateway

namespace LockService

variable {outputs : List Output}

/-- However often a gate is given back in one move, it is given back. -/
theorem afterOutputs_of_mem (r : LockRegistry) (gate : Nat) (h : .unlock ∈ outputs) :
    (registry r).afterOutputs (some gate) outputs = registry (r.unlock gate) := by
  induction outputs generalizing r with
  | nil => cases h
  | cons o rest ih =>
      by_cases hrest : .unlock ∈ rest
      · cases o with
        | unlock =>
            show (registry (r.unlock gate)).afterOutputs (some gate) rest = _
            rw [ih (r.unlock gate) hrest, LockRegistry.unlock_unlock]
        | _ => exact ih r hrest
      · rcases List.mem_cons.mp h with rfl | hmem
        · exact afterOutputs_of_notMem _ _ hrest
        · exact absurd hmem hrest

end LockService

namespace Network

/-- The loop of a number has the lock, as far as it knows. -/
def HoldsLock (s : Network) (t : Nat) : Prop :=
  ∃ d : Driver, s.drivers[t]? = some d ∧ d.task.hasLock = true

/-- The loops of connections of one name share a registry: every loop has a gate of its own that
records just what the loop believes, a loop has the lock whenever it is inside an attempt to
connect, and the registry holds the name exactly if one loop has the lock. -/
structure Shared (name : String) (r : LockRegistry) (s : Network) : Prop where
  locks : s.locks = .registry r
  connection_name : ∀ (c : Nat) (conn : Connection), s.connections[c]? = some conn →
    conn.name = name
  gates : r.gates = s.drivers.map fun d => ⟨name, d.task.hasLock⟩
  gate : ∀ (t : Nat) (d : Driver), s.drivers[t]? = some d → d.gate = some t
  keepsLock : ∀ (t : Nat) (d : Driver), s.drivers[t]? = some d → d.task.KeepsLock
  unique : ∀ t t', s.HoldsLock t → s.HoldsLock t' → t = t'
  mem_held : ∀ held, held ∈ r.held ↔ held = name ∧ ∃ t, s.HoldsLock t

/-- What a move of the loop with the gate `t` can do to the lock: whether the loop has it before and
after the move, and the locks after it. -/
inductive LockStep (name : String) (r : LockRegistry) (t : Nat) :
    Bool → Bool → LockService → Prop
  | keep (held : Bool) : LockStep name r t held held (.registry r)
  | take : name ∉ r.held →
      LockStep name r t false true (.registry ⟨name :: r.held, r.gates.set t ⟨name, true⟩⟩)
  | giveBack : LockStep name r t true false
      (.registry ⟨r.held.filter (· != name), r.gates.set t ⟨name, false⟩⟩)

namespace Shared

variable {name : String} {r : LockRegistry} {s s' : Network}

theorem of_new (name : String) (pools : List SlotPool) :
    Shared name {} { pools, locks := .registry {} } := by
  constructor <;> simp [drivers, HoldsLock]

/-- No two loops are inside an attempt to connect. -/
theorem unique_connecting (h : s.Shared name r) {t t' : Nat} {d d' : Driver}
    (hd : s.drivers[t]? = some d) (hd' : s.drivers[t']? = some d')
    (hconnecting : d.task.point.isConnecting = true)
    (hconnecting' : d'.task.point.isConnecting = true) : t = t' :=
  h.unique t t' ⟨d, hd, (h.keepsLock t d hd).hasLock hconnecting⟩
    ⟨d', hd', (h.keepsLock t' d' hd').hasLock hconnecting'⟩

theorem getElem?_gates (h : s.Shared name r) {t : Nat} {d : Driver}
    (hd : s.drivers[t]? = some d) : r.gates[t]? = some ⟨name, d.task.hasLock⟩ := by
  rw [h.gates, List.getElem?_map, hd]
  rfl

/-! ### What a move does to the lock -/

section Move

variable {t : Nat} {d : Driver} (conn : Connection) {reply : Reply} {locks : LockService}
  {links : List Link}

/-- A loop that does not take the lock keeps what it has, or it gives the lock back. -/
theorem lockStep_of_not_taken (h : s.Shared name r) (hd : s.drivers[t]? = some d)
    (hkeeps : (d.task.resume conn reply).task.hasLock = true → d.task.hasLock = true) :
    LockStep name r t d.task.hasLock (d.task.resume conn reply).task.hasLock
      ((LockService.registry r).afterOutputs d.gate (d.task.resume conn reply).outputs) := by
  have hunlock := Task.unlock_mem_outputs_resume (t := d.task) (c := conn) reply
  have hgate := h.getElem?_gates hd
  rw [h.gate t d hd]
  cases hafter : (d.task.resume conn reply).task.hasLock with
  | true =>
      rw [hkeeps hafter, LockService.afterOutputs_of_notMem]
      · exact .keep true
      · rw [hunlock, hafter]
        simp
  | false =>
      cases hbefore : d.task.hasLock with
      | false =>
          rw [LockService.afterOutputs_of_notMem]
          · exact .keep false
          · rw [hunlock, hbefore]
            simp
      | true =>
          rw [hbefore] at hgate
          rw [LockService.afterOutputs_of_mem _ _ (hunlock.mpr ⟨hbefore, hafter⟩),
            LockRegistry.unlock_of_owned hgate]
          exact .giveBack

/-- A loop that asks for the lock has it already, or takes it if it is free. -/
theorem lockStep_of_asked (h : s.Shared name r) (hd : s.drivers[t]? = some d)
    (hpoint : d.task.point = .takingLock)
    (hreply : reply = if ((LockService.registry r).tryAcquire t).1 then .granted else .denied) :
    LockStep name r t d.task.hasLock (d.task.resume conn reply).task.hasLock
      (((LockService.registry r).tryAcquire t).2.afterOutputs d.gate
        (d.task.resume conn reply).outputs) := by
  have hgate := h.getElem?_gates hd
  by_cases hbefore : d.task.hasLock = true
  · rw [hbefore] at hgate
    rw [LockService.tryAcquire, LockRegistry.tryAcquire_of_owned hgate]
    exact h.lockStep_of_not_taken conn hd fun _ => hbefore
  · rw [Bool.not_eq_true] at hbefore
    rw [hbefore] at hgate
    by_cases hheld : name ∈ r.held
    · rw [LockService.tryAcquire, LockRegistry.tryAcquire_of_held hgate hheld] at hreply ⊢
      refine h.lockStep_of_not_taken conn hd fun hafter => ?_
      rcases Task.hasLock_resume reply hafter with hbefore | ⟨-, hgranted⟩
      · exact hbefore
      · rw [hgranted] at hreply
        cases hreply
    · rw [LockService.tryAcquire, LockRegistry.tryAcquire_of_free hgate hheld] at hreply ⊢
      have hgranted : reply = .granted := hreply
      subst hgranted
      have hafter := Task.hasLock_resume_of_granted (c := conn) hpoint
      rw [hbefore, hafter, LockService.afterOutputs_of_notMem]
      · exact .take hheld
      · rw [Task.unlock_mem_outputs_resume, hafter]
        simp

/-- In a move a loop keeps what it has, takes a lock that is free, or gives the lock back. -/
theorem lockStep (h : s.Shared name r) (hd : s.drivers[t]? = some d)
    (hanswer : Answer s d reply locks links) :
    LockStep name r t d.task.hasLock (d.task.resume conn reply).task.hasLock
      (locks.afterOutputs d.gate (d.task.resume conn reply).outputs) := by
  have hwants := Task.hasLock_resume (t := d.task) (c := conn) reply
  cases hanswer with
  | @lock gate hpoint hown =>
      rw [h.gate t d hd] at hown
      cases hown
      rw [h.locks]
      exact h.lockStep_of_asked conn hd hpoint rfl
  | opened =>
      rw [h.locks]
      refine h.lockStep_of_not_taken conn hd fun hafter => ?_
      rcases hwants hafter with hbefore | ⟨-, hreply⟩
      · exact hbefore
      · cases hreply
  | event =>
      rw [h.locks]
      refine h.lockStep_of_not_taken conn hd fun hafter => ?_
      rcases hwants hafter with hbefore | ⟨-, hreply⟩
      · exact hbefore
      · cases hreply
  | other hdenied =>
      rw [h.locks]
      refine h.lockStep_of_not_taken conn hd fun hafter => ?_
      rcases hwants hafter with hbefore | ⟨hpoint, hreply⟩
      · exact hbefore
      · rw [hdenied hpoint] at hreply
        cases hreply

theorem holdsLock_set (hd : s.drivers[t]? = some d) {d' : Driver}
    (hdrivers : s'.drivers = s.drivers.set t d') (t' : Nat) :
    s'.HoldsLock t' ↔ (t' = t ∧ d'.task.hasLock = true) ∨ (t' ≠ t ∧ s.HoldsLock t') := by
  rw [HoldsLock, hdrivers]
  constructor
  · rintro ⟨d'', hd'', hlock⟩
    rcases of_getElem?_set hd'' with ⟨rfl, rfl⟩ | ⟨hne, hold⟩
    · exact .inl ⟨rfl, hlock⟩
    · exact .inr ⟨hne, d'', hold, hlock⟩
  · rintro (⟨rfl, hlock⟩ | ⟨hne, d'', hold, hlock⟩)
    · exact ⟨d', getElem?_set_of_getElem? hd, hlock⟩
    · exact ⟨d'', by rw [List.getElem?_set_ne hne.symm, hold], hlock⟩

section After

variable {d' : Driver} {r' : LockRegistry} (h : s.Shared name r) (hd : s.drivers[t]? = some d)
  (hdrivers : s'.drivers = s.drivers.set t d') (hgate : d'.gate = d.gate)
  (hkeeps : d'.task.KeepsLock)
  (hname : ∀ (c : Nat) (conn : Connection), s'.connections[c]? = some conn → conn.name = name)

include h hd hdrivers hgate hkeeps hname

/-- What has to be said about the registry after a move. -/
theorem of_set (hlocks : s'.locks = .registry r')
    (hgates : r'.gates = r.gates.set t ⟨name, d'.task.hasLock⟩)
    (hunique : ∀ t t', s'.HoldsLock t → s'.HoldsLock t' → t = t')
    (hheld : ∀ held, held ∈ r'.held ↔ held = name ∧ ∃ t, s'.HoldsLock t) :
    s'.Shared name r' := by
  refine ⟨hlocks, hname, ?_, fun t' d'' hd'' => ?_, fun t' d'' hd'' => ?_, hunique, hheld⟩
  · rw [hgates, h.gates, hdrivers, List.map_set]
  · rw [hdrivers] at hd''
    rcases of_getElem?_set hd'' with ⟨rfl, rfl⟩ | ⟨-, hold⟩
    · rw [hgate, h.gate t' d hd]
    · exact h.gate t' d'' hold
  · rw [hdrivers] at hd''
    rcases of_getElem?_set hd'' with ⟨rfl, rfl⟩ | ⟨-, hold⟩
    · exact hkeeps
    · exact h.keepsLock t' d'' hold

theorem of_keep (hsame : d'.task.hasLock = d.task.hasLock) (hlocks : s'.locks = .registry r) :
    s'.Shared name r := by
  have hiff : ∀ t', s'.HoldsLock t' ↔ s.HoldsLock t' := by
    intro t'
    rw [holdsLock_set hd hdrivers]
    by_cases ht : t' = t
    · subst ht
      simp [HoldsLock, hd, hsame]
    · simp [ht]
  apply h.of_set hd hdrivers hgate hkeeps hname hlocks
  · obtain ⟨hlt, hown⟩ := List.getElem?_eq_some_iff.mp (h.getElem?_gates hd)
    rw [hsame, ← hown, List.set_getElem_self]
  · simpa only [hiff] using h.unique
  · simpa only [hiff] using h.mem_held

theorem of_take (htakes : d'.task.hasLock = true) (hfree : name ∉ r.held)
    (hlocks : s'.locks = .registry ⟨name :: r.held, r.gates.set t ⟨name, true⟩⟩) :
    s'.Shared name ⟨name :: r.held, r.gates.set t ⟨name, true⟩⟩ := by
  -- nobody had the lock, or the registry would hold the name
  have hnone : ∀ t', ¬ s.HoldsLock t' :=
    fun t' ht' => hfree ((h.mem_held name).mpr ⟨rfl, t', ht'⟩)
  have hiff : ∀ t', s'.HoldsLock t' ↔ t' = t := by
    intro t'
    rw [holdsLock_set hd hdrivers]
    simp [hnone, htakes]
  apply h.of_set hd hdrivers hgate hkeeps hname hlocks
  · rw [htakes]
  · intro t₁ t₂ h₁ h₂
    rw [(hiff t₁).mp h₁, (hiff t₂).mp h₂]
  · intro held
    rw [List.mem_cons]
    constructor
    · rintro (rfl | hmem)
      · exact ⟨rfl, t, (hiff t).mpr rfl⟩
      · obtain ⟨-, t', ht'⟩ := (h.mem_held held).mp hmem
        exact absurd ht' (hnone t')
    · rintro ⟨rfl, -⟩
      exact .inl rfl

theorem of_giveBack (hbefore : d.task.hasLock = true) (hgives : d'.task.hasLock = false)
    (hlocks : s'.locks = .registry ⟨r.held.filter (· != name), r.gates.set t ⟨name, false⟩⟩) :
    s'.Shared name ⟨r.held.filter (· != name), r.gates.set t ⟨name, false⟩⟩ := by
  -- nobody else had the lock
  have hnone : ∀ t', ¬ s'.HoldsLock t' := by
    intro t' ht'
    rcases (holdsLock_set hd hdrivers t').mp ht' with ⟨-, hlock⟩ | ⟨hne, hlock⟩
    · rw [hgives] at hlock
      cases hlock
    · exact hne (h.unique t' t hlock ⟨d, hd, hbefore⟩)
  apply h.of_set hd hdrivers hgate hkeeps hname hlocks
  · rw [hgives]
  · intro t₁ t₂ h₁ _
    exact absurd h₁ (hnone t₁)
  · intro held
    rw [List.mem_filter]
    constructor
    · rintro ⟨hmem, hne⟩
      rw [((h.mem_held held).mp hmem).1] at hne
      simp at hne
    · rintro ⟨-, t', ht'⟩
      exact absurd ht' (hnone t')

/-- However a move treats the lock, the loops and the registry agree about it afterwards. -/
theorem of_lockStep {locks' : LockService}
    (hstep : LockStep name r t d.task.hasLock d'.task.hasLock locks') (hlocks : s'.locks = locks') :
    ∃ r', s'.Shared name r' := by
  generalize hbefore : d.task.hasLock = before, hafter : d'.task.hasLock = after at hstep
  cases hstep with
  | keep =>
      exact ⟨_, h.of_keep hd hdrivers hgate hkeeps hname (hafter.trans hbefore.symm) hlocks⟩
  | take hfree => exact ⟨_, h.of_take hd hdrivers hgate hkeeps hname hafter hfree hlocks⟩
  | giveBack => exact ⟨_, h.of_giveBack hd hdrivers hgate hkeeps hname hbefore hafter hlocks⟩

end After

end Move

theorem congr (h : s.Shared name r) (hdrivers : s'.drivers = s.drivers)
    (hlocks : s'.locks = s.locks)
    (hname : ∀ (c : Nat) (conn : Connection), s'.connections[c]? = some conn →
      conn.name = name) : s'.Shared name r := by
  have hiff : ∀ t, s'.HoldsLock t ↔ s.HoldsLock t := fun t => by
    rw [HoldsLock, HoldsLock, hdrivers]
  obtain ⟨hregistry, -, hgates, hgate, hkeeps, hunique, hheld⟩ := h
  refine ⟨hlocks.trans hregistry, hname, ?_, ?_, ?_, ?_, ?_⟩
  · rw [hdrivers, hgates]
  · rwa [hdrivers]
  · rwa [hdrivers]
  · simpa only [hiff] using hunique
  · simpa only [hiff] using hheld

theorem loop (h : s.Shared name r) (c : Nat)
    (hdrivers : s'.drivers = s.drivers ++ [⟨c, some (s.locks.gate name).1, .loop⟩])
    (hlocks : s'.locks = (s.locks.gate name).2)
    (hconnections : s'.connections = s.connections) :
    s'.Shared name (r.gate name).2 := by
  have hlength : r.gates.length = s.drivers.length := by rw [h.gates, List.length_map]
  rw [h.locks] at hdrivers hlocks
  have hiff : ∀ t, s'.HoldsLock t ↔ s.HoldsLock t := by
    intro t
    rw [HoldsLock, hdrivers]
    constructor
    · rintro ⟨d, hd, hlock⟩
      rcases of_getElem?_concat hd with hold | ⟨-, rfl⟩
      · exact ⟨d, hold, hlock⟩
      · cases hlock
    · rintro ⟨d, hd, hlock⟩
      exact ⟨d, getElem?_concat_of_getElem? hd, hlock⟩
  refine ⟨hlocks, ?_, ?_, fun t d hd => ?_, fun t d hd => ?_, ?_, ?_⟩
  · rw [hconnections]
    exact h.connection_name
  · rw [hdrivers, List.map_append, ← h.gates]
    rfl
  · rw [hdrivers] at hd
    rcases of_getElem?_concat hd with hold | ⟨rfl, rfl⟩
    · exact h.gate t d hold
    · show some r.gates.length = _
      rw [hlength]
  · rw [hdrivers] at hd
    rcases of_getElem?_concat hd with hold | ⟨-, rfl⟩
    · exact h.keepsLock t d hold
    · constructor <;> intro hfalse <;> cases hfalse
  · simpa only [hiff] using h.unique
  · intro held
    show held ∈ r.held ↔ _
    simpa only [hiff] using h.mem_held held

/-- Whatever happens, the loops of connections of one name exclude each other. -/
theorem effect {a : Act} {handovers : List Handover} (h : s.Shared name r)
    (hcoherent : s.Coherent) (ha : ∀ conn, a = .connection conn → conn.name = name)
    (he : Effect s a s' handovers) : ∃ r', s'.Shared name r' := by
  have hname : ∀ (c : Nat) (conn : Connection), s'.connections[c]? = some conn →
      conn.name = name := by
    intro c conn' hconn'
    rcases he.exists_before hconn' with ⟨conn, hconn, hfresh⟩ | ⟨conn, hact, -, rfl⟩
    · rw [Connection.name_eq_of_fresh hfresh]
      exact h.connection_name c conn hconn
    · exact ha conn hact
  cases he with
  | quiet hdrivers _ hlocks => exact ⟨r, h.congr hdrivers hlocks hname⟩
  | stop _ hdrivers hlocks => exact ⟨r, h.congr hdrivers hlocks hname⟩
  | connection _ _ _ hdrivers hlocks => exact ⟨r, h.congr hdrivers hlocks hname⟩
  | loop hconn hdrivers hlocks hconnections =>
      rw [h.connection_name _ _ hconn] at hdrivers hlocks
      exact ⟨_, h.loop _ hdrivers hlocks hconnections⟩
  | @move t d conn reply _ _ hd _ hanswer hdrivers _ hlocks =>
      have hkeeps := (h.keepsLock t d hd).resume (c := conn) reply (hcoherent.isLoop t d hd)
      exact h.of_lockStep hd hdrivers rfl hkeeps hname (h.lockStep conn hd hanswer) hlocks

end Shared

end Network

end TelemetryGateway
