import Mathlib.Data.List.Induction
import TelemetryGateway.Proofs.Network.Exclusion

/-!
# A connection that only loops drive

What a connection records of itself is what its tasks write into it, and a task that connects
without a loop writes over what a loop has written.  Where only loops are started on a connection
the loop that drives it finds there what it has left: a phase that goes with its point, and the link
that it reads.  This holds in every run, also if loops are taken away and whatever happens to other
connections.

* `Network.Attuned.after`: what an act keeps;
* `Network.attuned_afterAll`: a connection on which only loops were started, in every run.
-/

namespace TelemetryGateway

namespace Task

variable {t : Task} {c : Connection} (reply : Reply)

/-- A task that reads a link has read it before, or has just told its connection. -/
theorem client_of_streaming {l : Nat} :
    (t.resume c reply).task.point = .streaming l →
      (t.resume c reply).connection.client = some l ∨
        (t.point = .streaming l ∧ (t.resume c reply).connection.client = c.client) := by
  fun_cases Task.resume t c reply
  all_goals simp_all +zetaDelta [giveUp, conclude]
  -- a slot was granted, or an attempt has ended
  all_goals split <;> simp

end Task

/-- A connection is as a loop expects it: its phase goes with the point of the loop, and it knows
the link that the loop reads. -/
structure Driver.Finds (d : Driver) (conn : Connection) : Prop where
  allows : d.task.point.allows conn.phase = true
  client : ∀ l, d.task.point = .streaming l → conn.client = some l

namespace Network

variable {s : Network} {a : Act} {c : Nat}

/-- Only loops were started on a connection. -/
def OnlyLoops (s : Network) (c : Nat) : Prop :=
  ∀ (t : Nat) (d : Driver), s.drivers[t]? = some d → d.connection = c → d.task.isLoop = true

/-- The loop that drives a connection finds there what it has left, and a connection without a mark
is at rest. -/
structure Attuned (s : Network) (c : Nat) : Prop where
  finds : ∀ (t : Nat) (d : Driver) (conn : Connection), s.drivers[t]? = some d → d.Drives c →
    s.connections[c]? = some conn → d.Finds conn
  resting : ∀ conn : Connection, s.connections[c]? = some conn → conn.running = false →
    conn.phase.isResting = true

theorem OnlyLoops.before (h : (s.after a).OnlyLoops c) : s.OnlyLoops c := by
  intro t d hd hc
  obtain ⟨d', hd', hc'⟩ := exists_driver_after (a := a) hd
  have hloop := h t d' hd' (hc'.trans hc)
  have hlt := (List.getElem?_eq_some_iff.mp hd).1
  cases driverAfter hd' with
  | same hold =>
      obtain rfl := Option.some_inj.mp (hold.symm.trans hd)
      exact hloop
  | move _ hmove =>
      obtain ⟨he, -, reply, -, hm⟩ := nextMove?_eq_some hmove
      obtain rfl := Option.some_inj.mp ((getElem?_drivers he).symm.trans hd)
      simp only [hm, Task.isLoop_resume] at hloop
      exact hloop
  | taken _ hold =>
      obtain rfl := Option.some_inj.mp (hold.symm.trans hd)
      exact hloop
  | loop ht => omega
  | attempt ht => omega

namespace Attuned

theorem of_nil (hconnections : s.connections = []) : s.Attuned c := by
  constructor <;> simp [hconnections]

/-- What a task does to a connection that it does not drive, if somebody else does: nothing. -/
theorem connection_of_other (hexclusive : s.Exclusive) {t : Nat} {d : Driver} {conn : Connection}
    (hd : s.drivers[t]? = some d) (hdrives : d.Drives c) (hconn : s.connections[c]? = some conn)
    (honly : s.OnlyLoops c) {u : Nat} {m : NextMove} (hmove : s.nextMove? u = some m)
    (hmc : m.entry.connection = c) (hu : u ≠ t) : m.move.connection = conn := by
  obtain ⟨he, -, reply, -, hm⟩ := nextMove?_eq_some hmove
  have hmover := getElem?_drivers he
  obtain rfl := connection_eq_of_move hmove hmc hconn
  have hidle : m.entry.task.point.isEngaged = false := by
    cases hengaged : m.entry.task.point.isEngaged with
    | false => rfl
    | true =>
        have hboth : m.entry.driver.Drives c := ⟨honly u _ hmover hmc, hengaged, hmc⟩
        exact absurd (hexclusive.unique u t c _ d hmover hd hboth hdrives) hu
  rw [hm]
  obtain ⟨-, -, ⟨-, hsame⟩ | ⟨hfree, -, -⟩⟩ :=
    Task.resume_of_not_engaged (c := m.connection) reply hidle
  · exact hsame
  · rw [hexclusive.running t c d _ hd hdrives hconn] at hfree
    cases hfree

/-- A loop that goes on driving its connection finds what it has left. -/
theorem finds_after (h : s.Attuned c) (hexclusive : s.Exclusive) (honly : s.OnlyLoops c) {t : Nat}
    {d d' : Driver} {conn conn' : Connection} (hd : s.drivers[t]? = some d) (hdrives : d.Drives c)
    (hconn : s.connections[c]? = some conn) (hd' : (s.after a).drivers[t]? = some d')
    (hdrives' : d'.Drives c) (hconn' : (s.after a).connections[c]? = some conn') :
    d'.Finds conn' := by
  obtain ⟨hallows, hclient⟩ := h.finds t d conn hd hdrives hconn
  have hchange := connectionAfter hconn hconn'
  have hstays (hidle : a = .step t → s.nextMove? t = none) : d' = d := by
    cases driverAfter hd' with
    | same hold => exact Option.some_inj.mp (hold.symm.trans hd)
    | move hact hmove =>
        rw [hidle hact] at hmove
        cases hmove
    | taken => cases hdrives'.isEngaged
    | loop => cases hdrives'.isEngaged
    | attempt => cases hdrives'.isLoop
  cases hchange with
  | same hothers =>
      obtain rfl := hstays fun hact => by
        cases hmove : s.nextMove? t with
        | none => rfl
        | some m =>
            obtain rfl := Option.some_inj.mp
              ((getElem?_drivers (nextMove?_eq_some hmove).1).symm.trans hd)
            exact absurd hdrives.connection (hothers t hact m hmove)
      exact ⟨hallows, hclient⟩
  | stop hact =>
      obtain rfl := hstays fun hstep => by rw [hact] at hstep; cases hstep
      exact ⟨Point.allows_stop hallows, hclient⟩
  | @move u m hact hmove hmc =>
      by_cases hu : u = t
      · subst hu hact
        obtain ⟨he, -, reply, -, hm⟩ := nextMove?_eq_some hmove
        obtain rfl := Option.some_inj.mp ((getElem?_drivers he).symm.trans hd)
        obtain rfl := connection_eq_of_move hmove hmc hconn
        rw [driver_after_step hmove] at hd'
        cases hd'
        have hengaged := hdrives'.isEngaged
        simp only [hm] at hengaged ⊢
        constructor
        · rcases Task.resume_of_engaged reply hdrives.isLoop hdrives.isEngaged hallows with
            ⟨-, hlimits, -⟩ | ⟨hover, -⟩
          · exact hlimits
          · have hover : (m.entry.task.resume m.connection reply).task.point.isEngaged = false :=
              hover
            rw [hengaged] at hover
            cases hover
        · intro l hstreaming
          rcases Task.client_of_streaming reply hstreaming with hknown | ⟨hbefore, hkept⟩
          · exact hknown
          · rw [hkept]
            exact hclient l hbefore
      · obtain rfl := hstays fun hstep => by
          rw [hact] at hstep
          cases hstep
          exact absurd rfl hu
        rw [connection_of_other hexclusive hd hdrives hconn honly hmove hmc hu]
        exact ⟨hallows, hclient⟩

/-- A loop that begins to drive a connection finds it at rest. -/
theorem finds_of_begun (h : s.Attuned c) {t : Nat} {d' : Driver} {conn' : Connection}
    {m : NextMove} (hmove : s.nextMove? t = some m) (hmc : m.entry.connection = c)
    (hfree : m.connection.running = false) (hmarked : m.move.connection.running = true)
    (hd' : (s.after (.step t)).drivers[t]? = some d') (hdrives' : d'.Drives c)
    (hconn' : (s.after (.step t)).connections[c]? = some conn') : d'.Finds conn' := by
  obtain ⟨he, hmconn, reply, -, hm⟩ := nextMove?_eq_some hmove
  subst hmc
  have hresting := h.resting _ hmconn hfree
  rw [driver_after_step hmove] at hd'
  rw [connection_after_step hmove] at hconn'
  cases hd'
  cases hconn'
  have hengaged := hdrives'.isEngaged
  simp only [hm] at hengaged hmarked ⊢
  rcases Task.running_of_isEngaged_resume reply hengaged with ⟨-, hkept⟩ | ⟨hidle, -, -⟩
  · rw [hkept, hfree] at hmarked
    cases hmarked
  · obtain ⟨-, hphase, ⟨hstays, -⟩ | ⟨-, -, hpoint⟩⟩ :=
      Task.resume_of_not_engaged (c := m.connection) reply hidle
    · rw [hstays] at hengaged
      cases hengaged
    · constructor
      · rw [hpoint, hphase]
        exact hresting
      · intro l hstreaming
        rw [hpoint] at hstreaming
        cases hstreaming

/-- A connection without a mark was at rest, or its loop has just left it so. -/
theorem resting_after (h : s.Attuned c) (hexclusive : s.Exclusive) (honly : s.OnlyLoops c)
    {conn' : Connection} (hconn' : (s.after a).connections[c]? = some conn')
    (hfree : conn'.running = false) : conn'.phase.isResting = true := by
  cases hconn : s.connections[c]? with
  | none =>
      obtain ⟨conn, -, -, rfl⟩ := eq_fresh_of_new hconn hconn'
      rfl
  | some conn =>
      cases connectionAfter hconn hconn' with
      | same => exact h.resting conn' hconn hfree
      | stop => exact Phase.isResting_stop (h.resting conn hconn hfree)
      | @move u m hact hmove hmc =>
          obtain ⟨he, -, reply, -, hm⟩ := nextMove?_eq_some hmove
          obtain rfl := connection_eq_of_move hmove hmc hconn
          have hmover := getElem?_drivers he
          rw [hm] at hfree ⊢
          cases hengaged : m.entry.task.point.isEngaged with
          | true =>
              have hdrives : m.entry.driver.Drives c := ⟨honly u _ hmover hmc, hengaged, hmc⟩
              have hallows := (h.finds u _ _ hmover hdrives hconn).allows
              rcases Task.resume_of_engaged reply hdrives.isLoop hengaged hallows with
                ⟨-, -, hkept⟩ | ⟨-, hrest⟩
              · -- only the end of the loop takes the mark away
                have hkept : (m.entry.task.resume m.connection reply).connection.running =
                  m.connection.running := hkept
                rw [hkept, hexclusive.running u c _ _ hmover hdrives hconn] at hfree
                cases hfree
              · exact hrest
          | false =>
              obtain ⟨-, -, ⟨-, hsame⟩ | ⟨-, hmarked, -⟩⟩ :=
                Task.resume_of_not_engaged (c := m.connection) reply hengaged
              · rw [hsame] at hfree ⊢
                exact h.resting _ hconn hfree
              · rw [hmarked] at hfree
                cases hfree

theorem after (h : s.Attuned c) (hexclusive : s.Exclusive) (hsound : s.Sound)
    (honly : s.OnlyLoops c) (a : Act) : (s.after a).Attuned c := by
  refine ⟨fun t d' conn' hd' hdrives' hconn' => ?_, fun conn' hconn' hfree =>
    h.resting_after hexclusive honly hconn' hfree⟩
  rcases drives_before hd' hdrives' with ⟨d, hd, hdrives⟩ | ⟨m, rfl, hmove, hmc, hfree, hmarked⟩
  · obtain ⟨conn, hconn⟩ := hsound.exists_connection t d hd
    rw [hdrives.connection] at hconn
    exact h.finds_after hexclusive honly hd hdrives hconn hd' hdrives' hconn'
  · exact h.finds_of_begun hmove hmc hfree hmarked hd' hdrives' hconn'

end Attuned

/-- In every run a loop finds on its connection what it has left, if only loops were started there.
-/
theorem attuned_afterAll (htasks : s.tasks = []) (hconnections : s.connections = [])
    (acts : List Act) (honly : (s.afterAll acts).OnlyLoops c) : (s.afterAll acts).Attuned c := by
  induction acts using List.reverseRecOn with
  | nil => exact .of_nil hconnections
  | append_singleton acts a ih =>
      rw [afterAll_concat] at honly ⊢
      have hsound := sound_afterAll (sound_of_nil htasks hconnections) acts
      have hexclusive := exclusive_afterAll (.of_nil htasks) (sound_of_nil htasks hconnections) acts
      exact (ih honly.before).after hexclusive hsound honly.before a

end Network

end TelemetryGateway
