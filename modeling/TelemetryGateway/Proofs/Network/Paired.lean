import TelemetryGateway.Proofs.Lock.Service
import TelemetryGateway.Proofs.Network.Standing

/-!
# Connections with one loop each

In a network that a supervisor has to itself every connection gets one acquisition loop, made along
with it, and no other task.  Then connection and loop have the same number, and what is known about
a loop and its connection, `Paired`, is kept by everything that can happen, also when loops are
taken away: the gate of a loop records what the loop believes, and the phase of the connection fits
the point of the loop unless the loop is to be taken away.

* `Paired.step`, `Paired.destroy`, `Paired.disconnect`, `Paired.abort`, `Paired.enlist`: the acts
  that change something;
* `Paired.after`: what is known is kept whatever happens;
* `Paired.resting_of_finished`, `Paired.hasLock_of_finished`: what it says about a loop that is
  over.
-/

namespace TelemetryGateway

/-! ## Points and phases -/

namespace Point

/-- The phases in which a connection can be while its only loop is at a point: before the loop
begins and after it is over nothing is under way. -/
def fits (p : Point) (q : Phase) : Bool := if p.isEngaged then p.allows q else q.isResting

theorem fits_stop {p : Point} {q : Phase} (h : p.fits q = true) : p.fits q.stop.phase = true := by
  unfold fits at h ⊢
  split
  · next hengaged =>
    rw [if_pos hengaged] at h
    exact allows_stop h
  · next hengaged =>
    rw [if_neg hengaged] at h
    exact Phase.isResting_stop h

theorem resting_of_fits {p : Point} {q : Phase} (h : p.fits q = true)
    (hover : p.isFinished = true) : q.isResting = true := by
  cases p with
  | finished result => exact h
  | _ => cases hover

end Point

namespace Task

variable {t : Task} {c : Connection} (reply : Reply)

theorem fits_resume (hloop : t.isLoop = true) (h : t.point.fits c.phase = true) :
    (t.resume c reply).task.point.fits (t.resume c reply).connection.phase = true := by
  unfold Point.fits at h ⊢
  cases hengaged : t.point.isEngaged with
  | true =>
      rw [if_pos hengaged] at h
      rcases resume_of_engaged reply hloop hengaged h with ⟨hstays, hallows, -⟩ | ⟨hover, hresting⟩
      · rw [if_pos hstays, hallows]
      · rw [if_neg (Bool.not_eq_true _ ▸ hover), hresting]
  | false =>
      rw [if_neg (Bool.not_eq_true _ ▸ hengaged)] at h
      obtain ⟨-, hphase, ⟨hstays, -⟩ | ⟨-, -, hpoint⟩⟩ :=
        resume_of_not_engaged (c := c) reply hengaged
      · rw [if_neg (Bool.not_eq_true _ ▸ hstays), hphase, h]
      · rw [hpoint, hphase]
        exact h

/-- The calls of a move continue what the sink was told. -/
theorem extends_resume_of_fits (h : t.point.fits c.phase = true) :
    Extends c.phase.ownsCacheState (t.resume c reply).connection.phase.ownsCacheState
      (Output.calls (t.resume c reply).outputs) := by
  unfold Point.fits at h
  cases hengaged : t.point.isEngaged with
  | true =>
      rw [if_pos hengaged] at h
      exact extends_resume reply hengaged h
  | false =>
      obtain ⟨hcalls, hphase, -⟩ := resume_of_not_engaged (c := c) reply hengaged
      rw [hcalls, hphase]
      exact Extends.nil _

theorem keepsLock_loop : loop.KeepsLock := ⟨nofun, nofun⟩

theorem keepsLock_taken (t : Task) : t.taken.KeepsLock := ⟨nofun, nofun⟩

end Task

namespace Network

variable {s s' : Network} {a : Act}

/-! ## The lock in one move -/

section Locks

variable {d : Driver} {conn : Connection} {reply : Reply} {locks : LockService} {links : List Link}
  {g : Nat}

theorem set_mark_self {marks : List Bool} {held : Bool} (h : marks[g]? = some held) :
    marks.set g held = marks := by
  obtain ⟨hlt, rfl⟩ := List.getElem?_eq_some_iff.mp h
  exact List.set_getElem_self hlt

/-- The gate of a loop that does not take the lock goes on recording what the loop believes. -/
theorem marks_of_not_taken (hmark : s.locks.marks[g]? = some d.task.hasLock)
    (hkeeps : (d.task.resume conn reply).task.hasLock = true → d.task.hasLock = true) :
    (s.locks.afterOutputs (some g) (d.task.resume conn reply).outputs).marks =
      s.locks.marks.set g (d.task.resume conn reply).task.hasLock := by
  have hunlock := Task.unlock_mem_outputs_resume (t := d.task) (c := conn) reply
  by_cases hmem : .unlock ∈ (d.task.resume conn reply).outputs
  · rw [LockService.marks_afterOutputs_of_mem _ _ hmem, (hunlock.mp hmem).2]
  · have hsame : (d.task.resume conn reply).task.hasLock = d.task.hasLock := by
      rw [hunlock] at hmem
      cases hafter : (d.task.resume conn reply).task.hasLock with
      | true => exact (hkeeps hafter).symm
      | false => simpa [hafter] using hmem
    rw [LockService.afterOutputs_of_notMem _ _ hmem, hsame, set_mark_self hmark]

/-- After every move the gate of a loop records what the loop believes. -/
theorem marks_of_answer (hanswer : Answer s d reply locks links) (hgate : d.gate = some g)
    (hmark : s.locks.marks[g]? = some d.task.hasLock) :
    (locks.afterOutputs (some g) (d.task.resume conn reply).outputs).marks =
      s.locks.marks.set g (d.task.resume conn reply).task.hasLock := by
  have hwants := Task.hasLock_resume (t := d.task) (c := conn) reply
  cases hanswer with
  | @lock gate hpoint hown =>
      obtain rfl : gate = g := Option.some_inj.mp (hown.symm.trans hgate)
      rcases s.locks.marks_tryAcquire gate with ⟨hgranted, -, hmarks⟩ | ⟨hdenied, hmarks, hfree⟩
      · rw [hgranted, if_pos rfl]
        have hlock := Task.hasLock_resume_of_granted (c := conn) hpoint
        rw [LockService.afterOutputs_of_notMem, hmarks, hlock]
        rw [Task.unlock_mem_outputs_resume, hlock]
        simp
      · rw [hdenied, if_neg Bool.false_ne_true] at hwants ⊢
        have hbefore : d.task.hasLock = false := by
          rw [hmark] at hfree
          simpa using hfree
        have hafter : (d.task.resume conn .denied).task.hasLock = false := by
          cases hlock : (d.task.resume conn .denied).task.hasLock with
          | false => rfl
          | true =>
              rcases hwants hlock with htrue | ⟨-, hgranted⟩
              · rw [hbefore] at htrue
                cases htrue
              · cases hgranted
        rw [LockService.afterOutputs_of_notMem, hmarks, hafter, ← hbefore, set_mark_self hmark]
        rw [Task.unlock_mem_outputs_resume, hbefore]
        simp
  | opened =>
      refine marks_of_not_taken hmark fun hafter => ?_
      rcases hwants hafter with hbefore | ⟨-, hreply⟩
      · exact hbefore
      · cases hreply
  | event =>
      refine marks_of_not_taken hmark fun hafter => ?_
      rcases hwants hafter with hbefore | ⟨-, hreply⟩
      · exact hbefore
      · cases hreply
  | other hdenied =>
      refine marks_of_not_taken hmark fun hafter => ?_
      rcases hwants hafter with hbefore | ⟨hpoint, hreply⟩
      · exact hbefore
      · rw [hdenied hpoint] at hreply
        cases hreply

end Locks

/-! ## Pairs -/

/-- Every connection has one loop, of the same number, and no other task. -/
structure Paired (s : Network) : Prop where
  length : s.connections.length = s.drivers.length
  connection : ∀ (t : Nat) (d : Driver), s.drivers[t]? = some d → d.connection = t
  isLoop : ∀ (t : Nat) (d : Driver), s.drivers[t]? = some d → d.task.isLoop = true
  keepsLock : ∀ (t : Nat) (d : Driver), s.drivers[t]? = some d → d.task.KeepsLock
  gate : ∀ (t : Nat) (d : Driver), s.drivers[t]? = some d →
    ∃ g, d.gate = some g ∧ s.locks.marks[g]? = some d.task.hasLock
  unique : ∀ (t t' : Nat) (d d' : Driver), s.drivers[t]? = some d → s.drivers[t']? = some d' →
    d.gate = d'.gate → t = t'
  fits : ∀ (t : Nat) (d : Driver) (conn : Connection), s.drivers[t]? = some d →
    s.connections[t]? = some conn → s.aborts[t]? = some false →
    d.task.point.fits conn.phase = true

theorem locks_after_step {t : Nat} {m : NextMove} (h : s.nextMove? t = some m) :
    (s.after (.step t)).locks = m.answered.locks.afterOutputs m.entry.gate m.move.outputs := by
  rw [after, step_eq_some h, Option.getD_some, performAll_locks]
  rfl

theorem locks_destroy {t : Nat} {e : TaskEntry} (he : s.tasks[t]? = some e) :
    (s.destroy t).locks = e.gate.elim s.locks s.locks.unlock := by
  rw [destroy_eq he]

theorem drivers_destroy {t : Nat} {e : TaskEntry} (he : s.tasks[t]? = some e) :
    (s.destroy t).drivers = s.drivers.set t { e.driver with task := e.task.taken } := by
  apply List.ext_getElem?
  intro i
  rw [drivers, tasks_destroy he, List.getElem?_map, List.getElem?_modify, List.getElem?_set,
    drivers, List.getElem?_map, List.length_map]
  by_cases hi : t = i
  · subst hi
    rw [he, if_pos rfl, if_pos (List.getElem?_eq_some_iff.mp he).1, Option.map_eq_map,
      Option.map_some, Option.map_some, if_pos rfl]
    rfl
  · simp [hi]

theorem aborts_disconnect (s : Network) (c : Nat) : (s.disconnect c).aborts = s.aborts := by
  obtain ⟨tasks, ready, parked, journal, links, heq, htasks, -⟩ := s.exists_disconnect c
  rw [heq]
  exact htasks _ fun _ => rfl

/-! ## What an act leaves alone -/

/-- Two networks whose connections, tasks, locks and caches are alike. -/
structure Alike (s s' : Network) : Prop where
  drivers : s'.drivers = s.drivers
  aborts : s'.aborts = s.aborts
  connections : s'.connections = s.connections
  locks : s'.locks = s.locks
  caches : s'.caches = s.caches

theorem admits_of_passing (h : s.passing a = true) : s.admits a = true := by
  cases a with
  | step | destroy | clock | schedule => exact h
  | _ => cases h

/-- Moves, removals and stops are the only acts of the world that are not about devices, links or
time. -/
theorem admits_cases (h : s.admits a = true) :
    (∃ t, a = .step t ∧ s.passing (.step t) = true) ∨
      (∃ t, a = .destroy t ∧ s.passing (.destroy t) = true) ∨ (∃ c, a = .disconnect c) ∨
      Alike s (s.after a) := by
  cases a with
  | step t => exact .inl ⟨t, rfl, h⟩
  | destroy t => exact .inr (.inl ⟨t, rfl, h⟩)
  | disconnect c => exact .inr (.inr (.inl ⟨c, rfl⟩))
  | reconnect c =>
      refine .inr (.inr (.inr ?_))
      show Alike s (s.reconnect c)
      unfold reconnect
      split
      · exact ⟨rfl, rfl, rfl, rfl, rfl⟩
      · split <;> exact ⟨rfl, rfl, rfl, rfl, rfl⟩
  | send | dropSender | device | clock | schedule =>
      exact .inr (.inr (.inr ⟨rfl, rfl, rfl, rfl, rfl⟩))
  | _ => cases h

/-- A task that is to be taken away stays so, and another one joins it. -/
theorem getElem?_aborts_abort (s : Network) (t c : Nat) :
    (s.abort t).aborts[c]? = (s.aborts[c]?).map fun before => before || decide (t = c) := by
  simp only [aborts, abort, modifyTask, List.getElem?_map, List.getElem?_modify]
  cases s.tasks[c]? with
  | none => rfl
  | some e => by_cases hc : t = c <;> simp [hc]

theorem aborts_of_abort {t c : Nat} (h : (s.abort t).aborts[c]? = some false) :
    s.aborts[c]? = some false ∧ t ≠ c := by
  rw [getElem?_aborts_abort] at h
  obtain ⟨before, hbefore, hafter⟩ := Option.map_eq_some_iff.mp h
  obtain ⟨rfl, hne⟩ := Bool.or_eq_false_iff.mp hafter
  exact ⟨hbefore, of_decide_eq_false hne⟩

namespace Paired

theorem of_nil (htasks : s.tasks = []) (hconnections : s.connections = []) : s.Paired := by
  constructor <;> simp [drivers, htasks, hconnections]

/-- What is known about the pairs depends on nothing else. -/
theorem congr (h : s.Paired) (hdrivers : s'.drivers = s.drivers)
    (hconnections : s'.connections = s.connections) (hlocks : s'.locks = s.locks)
    (haborts : ∀ t : Nat, s'.aborts[t]? = some false → s.aborts[t]? = some false) : s'.Paired := by
  obtain ⟨hlength, hconnection, hloop, hkeeps, hgate, hunique, hfits⟩ := h
  constructor
  case length => rwa [hconnections, hdrivers]
  case connection => rwa [hdrivers]
  case isLoop => rwa [hdrivers]
  case keepsLock => rwa [hdrivers]
  case gate => rwa [hdrivers, hlocks]
  case unique => rwa [hdrivers]
  case fits =>
    rw [hdrivers, hconnections]
    exact fun t d conn hd hconn habort => hfits t d conn hd hconn (haborts t habort)

section Set

variable {t : Nat} {d d' : Driver} {g : Nat} {held : Bool}

/-- One loop changes, and its gate with it. -/
theorem set (h : s.Paired) (hd : s.drivers[t]? = some d)
    (hdrivers : s'.drivers = s.drivers.set t d') (hconnection : d'.connection = d.connection)
    (hgate : d'.gate = d.gate) (hloop : d'.task.isLoop = true) (hkeeps : d'.task.KeepsLock)
    (hg : d.gate = some g) (hmarks : s'.locks.marks = s.locks.marks.set g d'.task.hasLock)
    (hlength : s'.connections.length = s.connections.length)
    (hfits : ∀ conn', s'.connections[t]? = some conn' → s'.aborts[t]? = some false →
      d'.task.point.fits conn'.phase = true)
    (hothers : ∀ t', t' ≠ t → s'.connections[t']? = s.connections[t']?)
    (haborts : s'.aborts = s.aborts) : s'.Paired := by
  have hold : ∀ (t' : Nat) (d'' : Driver), s'.drivers[t']? = some d'' →
      (t' = t ∧ d'' = d') ∨ (t' ≠ t ∧ s.drivers[t']? = some d'') := by
    intro t' d'' hd''
    rw [hdrivers] at hd''
    exact of_getElem?_set hd''
  have hgates : ∀ (t' : Nat) (d'' : Driver), s'.drivers[t']? = some d'' →
      ∃ d₀ : Driver, s.drivers[t']? = some d₀ ∧ d''.gate = d₀.gate := by
    intro t' d'' hd''
    rcases hold t' d'' hd'' with ⟨rfl, rfl⟩ | ⟨-, hd₀⟩
    · exact ⟨d, hd, hgate⟩
    · exact ⟨d'', hd₀, rfl⟩
  constructor
  case length => rw [hlength, hdrivers, List.length_set, h.length]
  case connection =>
    intro t' d'' hd''
    rcases hold t' d'' hd'' with ⟨rfl, rfl⟩ | ⟨-, hd₀⟩
    · rw [hconnection, h.connection t' d hd]
    · exact h.connection t' d'' hd₀
  case isLoop =>
    intro t' d'' hd''
    rcases hold t' d'' hd'' with ⟨-, rfl⟩ | ⟨-, hd₀⟩
    · exact hloop
    · exact h.isLoop t' d'' hd₀
  case keepsLock =>
    intro t' d'' hd''
    rcases hold t' d'' hd'' with ⟨-, rfl⟩ | ⟨-, hd₀⟩
    · exact hkeeps
    · exact h.keepsLock t' d'' hd₀
  case gate =>
    intro t' d'' hd''
    rw [hmarks]
    rcases hold t' d'' hd'' with ⟨-, rfl⟩ | ⟨hne, hd₀⟩
    · obtain ⟨g', hg', hmark⟩ := h.gate t d hd
      obtain rfl := Option.some_inj.mp (hg'.symm.trans hg)
      exact ⟨g', hgate.trans hg, getElem?_set_of_getElem? hmark⟩
    · obtain ⟨g', hg', hmark⟩ := h.gate t' d'' hd₀
      refine ⟨g', hg', ?_⟩
      -- the gates of two loops are different
      rw [List.getElem?_set_ne ?_, hmark]
      rintro rfl
      exact hne (h.unique t' t d'' d hd₀ hd (hg'.trans hg.symm))
  case unique =>
    intro t₁ t₂ d₁ d₂ hd₁ hd₂ hsame
    obtain ⟨d₁', hd₁', hgate₁⟩ := hgates t₁ d₁ hd₁
    obtain ⟨d₂', hd₂', hgate₂⟩ := hgates t₂ d₂ hd₂
    exact h.unique t₁ t₂ d₁' d₂' hd₁' hd₂' (hgate₁ ▸ hgate₂ ▸ hsame)
  case fits =>
    intro t' d'' conn' hd'' hconn' habort
    rcases hold t' d'' hd'' with ⟨rfl, rfl⟩ | ⟨hne, hd₀⟩
    · exact hfits conn' hconn' habort
    · rw [hothers t' hne] at hconn'
      exact h.fits t' d'' conn' hd₀ hconn' (haborts ▸ habort)

end Set

/-- A loop moves that is not to be taken away. -/
theorem step (h : s.Paired) {t : Nat} (ht : s.passing (.step t) = true) :
    (s.after (.step t)).Paired := by
  cases hmove : s.nextMove? t with
  | none => rwa [after_step_of_none hmove]
  | some m =>
      obtain ⟨he, hconn, reply, hreply, hm⟩ := nextMove?_eq_some hmove
      have hd := getElem?_drivers he
      obtain ⟨g, hg, hmark⟩ := h.gate t _ hd
      have hc : m.entry.connection = t := h.connection t _ hd
      rw [hc] at hconn
      have hconnections := connections_after_step hmove
      rw [hc] at hconnections
      have hloop := h.isLoop t _ hd
      refine h.set hd (drivers_after_step hmove) rfl rfl ?_ ?_ hg ?_ ?_ ?_ ?_
        (aborts_after_of_passing ht)
      · rw [hm]
        exact (Task.isLoop_resume reply).trans hloop
      · rw [hm]
        exact (h.keepsLock t _ hd).resume reply hloop
      · rw [locks_after_step hmove, hm, show m.entry.gate = some g from hg]
        exact marks_of_answer (answer_of_reply? hreply) hg hmark
      · rw [hconnections, List.length_set]
      · intro conn' hconn' habort
        rw [hconnections, getElem?_set_of_getElem? hconn] at hconn'
        cases hconn'
        rw [aborts_after_of_passing ht] at habort
        rw [hm]
        exact Task.fits_resume reply hloop (h.fits t _ _ hd hconn habort)
      · intro t' hne
        rw [hconnections, List.getElem?_set_ne hne.symm]

/-- A loop is taken away. -/
theorem destroy (h : s.Paired) {t : Nat} (ht : s.passing (.destroy t) = true) :
    (s.after (.destroy t)).Paired := by
  cases he : s.tasks[t]? with
  | none =>
      rw [after, Network.destroy, he]
      exact h
  | some e =>
      have hd := getElem?_drivers he
      obtain ⟨g, hg, hmark⟩ := h.gate t _ hd
      have hloop := h.isLoop t _ hd
      refine h.set hd (drivers_destroy he) rfl rfl hloop (Task.keepsLock_taken _) hg ?_ ?_ ?_ ?_
        (aborts_after_of_passing ht)
      · rw [after, locks_destroy he, show e.gate = some g from hg]
        exact LockService.marks_unlock _ _
      · rw [after, connections_destroy]
      · intro conn' _ habort
        rw [aborts_after_of_passing ht] at habort
        rw [passing, taskIs_aborted, habort] at ht
        cases ht
      · intro t' _
        rw [after, connections_destroy]

/-- A connection is stopped. -/
theorem disconnect (h : s.Paired) (c : Nat) : (s.disconnect c).Paired := by
  obtain ⟨hlength, hconnection, hloop, hkeeps, hgate, hunique, hfits⟩ := h
  constructor
  case length => rw [connections_disconnect, List.length_modify, drivers_disconnect, hlength]
  case connection => rwa [drivers_disconnect]
  case isLoop => rwa [drivers_disconnect]
  case keepsLock => rwa [drivers_disconnect]
  case gate => rwa [drivers_disconnect, (disconnect_frame s c).1]
  case unique => rwa [drivers_disconnect]
  case fits =>
    intro t d conn' hd hconn' habort
    rw [drivers_disconnect] at hd
    rw [aborts_disconnect] at habort
    rw [connections_disconnect, List.getElem?_modify] at hconn'
    obtain ⟨conn, hconn, rfl⟩ := Option.map_eq_some_iff.mp hconn'
    have hbefore := hfits t d conn hd hconn habort
    split
    · exact Point.fits_stop hbefore
    · exact hbefore

theorem after (h : s.Paired) (ha : s.admits a = true) : (s.after a).Paired := by
  rcases admits_cases ha with ⟨t, rfl, ht⟩ | ⟨t, rfl, ht⟩ | ⟨c, rfl⟩ | hsame
  · exact h.step ht
  · exact h.destroy ht
  · exact h.disconnect c
  · exact h.congr hsame.drivers hsame.connections hsame.locks fun t ht => hsame.aborts ▸ ht

theorem abort (h : s.Paired) (t : Nat) : (s.abort t).Paired :=
  h.congr (drivers_modifyTask s t fun _ => rfl) rfl rfl fun _ hi => (aborts_of_abort hi).1

/-- A connection is made and gets a loop. -/
theorem enlist (h : s.Paired) {conn : Connection} {name : String} (hidle : conn.phase = .idle)
    (hdrivers : s'.drivers =
      s.drivers ++ [⟨s.connections.length, some (s.locks.gate name).1, .loop⟩])
    (hconnections : s'.connections = s.connections ++ [conn])
    (hlocks : s'.locks = (s.locks.gate name).2) (haborts : s'.aborts = s.aborts ++ [false]) :
    s'.Paired := by
  obtain ⟨hnew, hmarks⟩ := s.locks.marks_gate name
  rw [hnew] at hdrivers
  have hold : ∀ (t : Nat) (d : Driver), s'.drivers[t]? = some d → s.drivers[t]? = some d ∨
      (t = s.drivers.length ∧ d = ⟨s.connections.length, some s.locks.marks.length, .loop⟩) := by
    intro t d hd
    rw [hdrivers] at hd
    exact of_getElem?_concat hd
  have hgate_lt : ∀ (t : Nat) (d : Driver), s.drivers[t]? = some d →
      d.gate ≠ some s.locks.marks.length := by
    intro t d hd hgate
    obtain ⟨g, hg, hmark⟩ := h.gate t d hd
    obtain rfl := Option.some_inj.mp (hg.symm.trans hgate)
    exact absurd (List.getElem?_eq_some_iff.mp hmark).1 (Nat.lt_irrefl _)
  constructor
  case length => rw [hconnections, hdrivers, List.length_append, List.length_append, h.length]; rfl
  case connection =>
    intro t d hd
    rcases hold t d hd with hd | ⟨rfl, rfl⟩
    · exact h.connection t d hd
    · exact h.length
  case isLoop =>
    intro t d hd
    rcases hold t d hd with hd | ⟨-, rfl⟩
    · exact h.isLoop t d hd
    · rfl
  case keepsLock =>
    intro t d hd
    rcases hold t d hd with hd | ⟨-, rfl⟩
    · exact h.keepsLock t d hd
    · exact Task.keepsLock_loop
  case gate =>
    intro t d hd
    rw [hlocks, hmarks]
    rcases hold t d hd with hd | ⟨-, rfl⟩
    · obtain ⟨g, hg, hmark⟩ := h.gate t d hd
      exact ⟨g, hg, getElem?_concat_of_getElem? hmark⟩
    · exact ⟨_, rfl, List.getElem?_concat_length⟩
  case unique =>
    intro t t' d d' hd hd' hsame
    rcases hold t d hd with hd | ⟨rfl, rfl⟩ <;> rcases hold t' d' hd' with hd' | ⟨rfl, rfl⟩
    · exact h.unique t t' d d' hd hd' hsame
    · exact absurd hsame (hgate_lt t d hd)
    · exact absurd hsame.symm (hgate_lt t' d' hd')
    · rfl
  case fits =>
    intro t d conn' hd hconn' habort
    rw [hconnections] at hconn'
    rw [haborts] at habort
    rcases hold t d hd with hd | ⟨rfl, rfl⟩
    · have hlt := (List.getElem?_eq_some_iff.mp hd).1
      have hlength : s.aborts.length = s.drivers.length := by simp [aborts, drivers]
      rw [List.getElem?_append_left (h.length ▸ hlt)] at hconn'
      rw [List.getElem?_append_left (hlength ▸ hlt)] at habort
      exact h.fits t d conn' hd hconn' habort
    · rw [← h.length, List.getElem?_concat_length] at hconn'
      cases hconn'
      rw [hidle]
      rfl

/-! ### What is known -/

/-- A loop that is over has left its connection at rest. -/
theorem resting_of_finished (h : s.Paired) {t : Nat} {d : Driver} {conn : Connection}
    (hd : s.drivers[t]? = some d) (hconn : s.connections[t]? = some conn)
    (habort : s.aborts[t]? = some false) (hover : d.task.point.isFinished = true) :
    conn.phase.isResting = true :=
  Point.resting_of_fits (h.fits t d conn hd hconn habort) hover

/-- A loop that is over has no lock. -/
theorem hasLock_of_finished (h : s.Paired) {t : Nat} {d : Driver} (hd : s.drivers[t]? = some d)
    (hover : d.task.point.isFinished = true) : d.task.hasLock = false := by
  cases hlock : d.task.hasLock with
  | false => rfl
  | true =>
      have hengaged := (h.keepsLock t d hd).isEngaged hlock
      cases hpoint : d.task.point <;> rw [hpoint] at hengaged hover <;> cases hover
      cases hengaged

end Paired

end Network

end TelemetryGateway
