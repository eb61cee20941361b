import TelemetryGateway.Proofs.Network.Alone

/-!
# One loop for a connection

Two loops of one connection do not meet.  A loop that drives its connection has marked it as
running, and no other one can begin to drive it while the mark stands: this is so in every run, also
if somebody connects without a loop and if tasks are taken away.  A second loop is over at its first
move, which changes nothing but itself.

* `Network.exclusive_afterAll`: in every run at most one loop drives a connection;
* `Network.after_step_of_running`: what becomes of a second loop.
-/

namespace TelemetryGateway

namespace Task

variable {t : Task} {c : Connection} (reply : Reply)

/-- Only the end of a loop takes the mark from its connection. -/
theorem running_resume (h : c.running = true) :
    (t.resume c reply).connection.running = true ∨ t.point = .leaving := by
  fun_cases Task.resume t c reply <;> simp_all +zetaDelta [giveUp]

/-- A task that is engaged after a move was so before, or has found the connection unmarked and has
marked it. -/
theorem running_of_isEngaged_resume (h : (t.resume c reply).task.point.isEngaged = true) :
    (t.point.isEngaged = true ∧ (t.resume c reply).connection.running = c.running) ∨
      (t.point.isEngaged = false ∧ c.running = false ∧
        (t.resume c reply).connection.running = true) := by
  revert h
  fun_cases Task.resume t c reply <;> simp_all +zetaDelta [giveUp, Point.isEngaged]

/-- A single attempt is inside its attempt to connect until it is over, and never has anything. -/
structure IsAttempt (t : Task) : Prop where
  point : t.point.isConnecting = true ∨ t.point.isFinished = true
  hasSlot : t.hasSlot = false
  hasLock : t.hasLock = false

theorem IsAttempt.resume (h : t.IsAttempt) (hloop : t.isLoop = false) :
    (t.resume c reply).task.IsAttempt := by
  obtain ⟨hpoint, hslot, hlock⟩ := h
  constructor
  all_goals
    fun_cases Task.resume t c reply <;>
      simp_all +zetaDelta [giveUp, conclude, Point.isConnecting, Point.isFinished]

end Task

/-- A task is an acquisition loop that is engaged with a connection. -/
structure Driver.Drives (d : Driver) (c : Nat) : Prop where
  isLoop : d.task.isLoop = true
  isEngaged : d.task.point.isEngaged = true
  connection : d.connection = c

namespace Network

variable {s : Network} {a : Act}

/-- A loop that drives its connection has marked it and is the only one that does. -/
structure Exclusive (s : Network) : Prop where
  running : ∀ (t c : Nat) (d : Driver) (conn : Connection), s.drivers[t]? = some d → d.Drives c →
    s.connections[c]? = some conn → conn.running = true
  unique : ∀ (t t' c : Nat) (d d' : Driver), s.drivers[t]? = some d → s.drivers[t']? = some d' →
    d.Drives c → d'.Drives c → t = t'
  attempt : ∀ (t : Nat) (d : Driver), s.drivers[t]? = some d → d.task.isLoop = false →
    d.task.IsAttempt

/-- A loop that drives a connection after an act has driven it before, or has found it unmarked. -/
theorem drives_before {t c : Nat} {d' : Driver} (hd' : (s.after a).drivers[t]? = some d')
    (h : d'.Drives c) :
    (∃ d : Driver, s.drivers[t]? = some d ∧ d.Drives c) ∨
      ∃ m : NextMove, a = .step t ∧ s.nextMove? t = some m ∧ m.entry.connection = c ∧
        m.connection.running = false ∧ m.move.connection.running = true := by
  obtain ⟨hloop, hengaged, hc⟩ := h
  cases driverAfter hd' with
  | same hd => exact .inl ⟨_, hd, hloop, hengaged, hc⟩
  | move hact hmove =>
      obtain ⟨he, -, reply, -, hm⟩ := nextMove?_eq_some hmove
      simp only [hm] at hengaged hloop ⊢
      rcases Task.running_of_isEngaged_resume reply hengaged with ⟨hbefore, -⟩ | ⟨-, hfree, hmarked⟩
      · rw [Task.isLoop_resume] at hloop
        exact .inl ⟨_, getElem?_drivers he, hloop, hbefore, hc⟩
      · exact .inr ⟨_, hact, hmove, hc, hfree, by rw [hm]; exact hmarked⟩
  | taken => cases hengaged
  | loop => cases hengaged
  | attempt => cases hloop

namespace Exclusive

theorem of_nil (htasks : s.tasks = []) : s.Exclusive := by
  constructor <;> simp [drivers, htasks]

/-- A task that takes the mark from its connection is the loop that drives it. -/
theorem drives_of_leaving (h : s.Exclusive) {t : Nat} {d : Driver} (hd : s.drivers[t]? = some d)
    (hpoint : d.task.point = .leaving) : d.Drives d.connection := by
  cases hloop : d.task.isLoop with
  | true => exact ⟨hloop, by rw [hpoint]; rfl, rfl⟩
  | false =>
      have := (h.attempt t d hd hloop).point
      simp [hpoint, Point.isConnecting, Point.isFinished] at this

/-- A loop that drives a connection after an act finds its mark there. -/
theorem running_after (h : s.Exclusive) (hsound : s.Sound) {t c : Nat} {d' : Driver}
    {conn' : Connection} (hd' : (s.after a).drivers[t]? = some d') (hdrives : d'.Drives c)
    (hconn' : (s.after a).connections[c]? = some conn') : conn'.running = true := by
  rcases drives_before hd' hdrives with ⟨d, hd, hbefore⟩ | ⟨m, rfl, hmove, rfl, -, hmarked⟩
  · obtain ⟨conn, hconn⟩ := hsound.exists_connection t d hd
    rw [hbefore.connection] at hconn
    have hrunning := h.running t c d conn hd hbefore hconn
    cases connectionAfter hconn hconn' with
    | same => exact hrunning
    | stop => exact hrunning
    | @move u m hact hmove hmc =>
        obtain ⟨he, -, reply, -, hm⟩ := nextMove?_eq_some hmove
        obtain rfl := connection_eq_of_move hmove hmc hconn
        rw [hm]
        rcases Task.running_resume reply hrunning with hmarked | hleaving
        · exact hmarked
        · -- the loop that leaves drives the connection, so it is the one that is engaged still
          have hmover := getElem?_drivers he
          have hleaves := h.drives_of_leaving hmover hleaving
          obtain rfl := h.unique t u c d _ hd hmover hbefore (hmc ▸ hleaves)
          subst hact
          rw [driver_after_step hmove] at hd'
          cases hd'
          have hengaged := hdrives.isEngaged
          simp only [hm] at hengaged
          rcases Task.running_of_isEngaged_resume reply hengaged with ⟨-, hkept⟩ | ⟨-, -, hnew⟩
          · rw [hkept, hrunning]
          · exact hnew
  · rw [connection_after_step hmove] at hconn'
    cases hconn'
    exact hmarked

/-- A loop that finds a connection unmarked finds nobody who drives it. -/
theorem not_drives_of_unmarked (h : s.Exclusive) {t u c : Nat} {d : Driver} {m : NextMove}
    (hmove : s.nextMove? u = some m) (hmc : m.entry.connection = c)
    (hfree : m.connection.running = false) (hd : s.drivers[t]? = some d) : ¬ d.Drives c := by
  intro hdrives
  have hmconn := (nextMove?_eq_some hmove).2.1
  rw [hmc] at hmconn
  rw [h.running t c d _ hd hdrives hmconn] at hfree
  cases hfree

/-- Of two loops that drive a connection after an act one would have begun beside the other. -/
theorem unique_after (h : s.Exclusive) {t t' c : Nat} {d d' : Driver}
    (hd : (s.after a).drivers[t]? = some d) (hd' : (s.after a).drivers[t']? = some d')
    (hdrives : d.Drives c) (hdrives' : d'.Drives c) : t = t' := by
  rcases drives_before hd hdrives with ⟨b, hb, hbefore⟩ | ⟨m, hact, hmove, hmc, hfree, -⟩
  · rcases drives_before hd' hdrives' with ⟨b', hb', hbefore'⟩ | ⟨m, -, hmove, hmc, hfree, -⟩
    · exact h.unique t t' c b b' hb hb' hbefore hbefore'
    · exact absurd hbefore (h.not_drives_of_unmarked hmove hmc hfree hb)
  · rcases drives_before hd' hdrives' with ⟨b', hb', hbefore'⟩ | ⟨m', hact', -⟩
    · exact absurd hbefore' (h.not_drives_of_unmarked hmove hmc hfree hb')
    · rw [hact] at hact'
      cases hact'
      rfl

theorem after (h : s.Exclusive) (hsound : s.Sound) (a : Act) : (s.after a).Exclusive := by
  constructor
  case running =>
    intro t c d' conn' hd' hdrives hconn'
    exact h.running_after hsound hd' hdrives hconn'
  case unique =>
    intro t t' c d d' hd hd' hdrives hdrives'
    exact h.unique_after hd hd' hdrives hdrives'
  case attempt =>
    intro t d' hd' hloop
    cases driverAfter hd' with
    | same hd => exact h.attempt t _ hd hloop
    | move _ hmove =>
        obtain ⟨he, -, reply, -, hm⟩ := nextMove?_eq_some hmove
        simp only [hm] at hloop ⊢
        rw [Task.isLoop_resume] at hloop
        exact (h.attempt t _ (getElem?_drivers he) hloop).resume reply hloop
    | taken => exact ⟨.inr rfl, rfl, rfl⟩
    | loop => cases hloop
    | attempt => exact ⟨.inl rfl, rfl, rfl⟩

end Exclusive

/-- In every run at most one loop drives a connection, and it has marked it. -/
theorem exclusive_afterAll (h : s.Exclusive) (hsound : s.Sound) (acts : List Act) :
    (s.afterAll acts).Exclusive := by
  induction acts generalizing s with
  | nil => exact h
  | cons a rest ih => exact ih (h.after hsound a) (hsound.after a)

/-- A loop that begins on a connection with a mark is refused: it is over at once, and nothing else
has changed. -/
theorem after_step_of_running {t : Nat} {e : TaskEntry} {conn : Connection}
    (he : s.tasks[t]? = some e) (hconn : s.connections[e.connection]? = some conn)
    (hpoint : e.task.point = .entering) (hrunning : conn.running = true) :
    s.after (.step t) = { s with
      tasks := s.tasks.set t { e with
        task := { e.task with point := .finished (.loop (.error (.alreadyRunning conn.name))) }
        signalled := false } } := by
  have hask : e.task.point.ask = .nothing := by rw [hpoint]; rfl
  have hreply : s.reply? e conn = some (.proceed, s) := by simp [reply?, hask]
  have hset : s.connections.set e.connection conn = s.connections := by
    obtain ⟨hlt, rfl⟩ := List.getElem?_eq_some_iff.mp hconn
    exact List.set_getElem_self hlt
  simp [after, step, he, hconn, hreply, Task.resume, hpoint, hrunning, hset, Point.isArmed]

end Network

end TelemetryGateway
