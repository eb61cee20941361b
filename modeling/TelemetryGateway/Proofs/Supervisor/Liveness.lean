import TelemetryGateway.Proofs.Supervisor.Replacement

/-!
# Targets that are alive

A supervisor gives out the connections of its targets, and whoever has one can stop it.  The loop of
a supervised target goes on until its connection is stopped (`Network.Lasting`), and a supervisor
stops only connections that it gives up: so a supervised target is alive unless somebody else has
told its connection to stop.  `Supervisor.ReachableWith` keeps a list of the connections that were.

A configuration does not ask for that: a target that is configured as before is kept, alive or not.

* `Network.IsKept`: the properties of a network that nothing a supervisor does can take away;
* `Network.isKept_lasting`: one of them is that a loop that is over has left a stopped connection;
* `Supervisor.heeds_of_reachableWith`: which supervised targets are stopped;
* `Supervisor.live_of_applied`: which configured targets are alive after a configuration was
  applied;
* `Supervisor.kept_after_stop`: a target that is kept and will never be dialed again.
-/

namespace TelemetryGateway

/-! ## Loops that go on -/

/-- What a loop at a point knows of its connection: no loop has driven it when the loop begins, and
it is stopped when the loop leaves. -/
def Point.lasts (p : Point) (conn : Connection) : Bool :=
  match p with
  | .entering => !conn.running
  | .leaving | .finished _ => conn.phase.isStopped
  | _ => true

theorem Point.lasts_stop {p : Point} {conn : Connection} (h : p.lasts conn = true) :
    p.lasts conn.stop = true := by
  cases p with
  | leaving | finished => exact Phase.isStopped_stop conn.phase
  | _ => exact h

theorem Task.lasts_resume {t : Task} {conn : Connection} (reply : Reply) (hloop : t.isLoop = true)
    (h : t.point.lasts conn = true) :
    (t.resume conn reply).task.point.lasts (t.resume conn reply).connection = true := by
  fun_cases Task.resume t conn reply
  all_goals simp_all +zetaDelta [Point.lasts, giveUp, conclude]
  -- a slot was granted
  cases t.hasLock <;> rfl

namespace Network

variable {s s' : Network} {a : Act} {conn : Connection}

/-- A loop that is not taken away is not over before its connection is stopped. -/
structure Lasting (s : Network) : Prop where
  paired : s.Paired
  lasts : ∀ (t : Nat) (d : Driver) (conn : Connection), s.drivers[t]? = some d →
    s.connections[t]? = some conn → s.aborts[t]? = some false → d.task.point.lasts conn = true

/-- Whether nothing that a supervisor does to its network can take a property away. -/
structure IsKept (motive : Network → Prop) : Prop where
  after : ∀ {s : Network} {a : Act}, motive s → s.admits a = true → motive (s.after a)
  report : ∀ {s : Network} (name : String) (o : Occurrence), motive s → motive (s.report name o)
  caches : ∀ {s : Network} (caches : CacheRegistry), motive s → motive { s with caches }
  abort : ∀ {s : Network} (t : Nat), motive s → motive (s.abort t)
  enlist : ∀ {s s' : Network} {conn : Connection}, motive s → s.Enlists conn s' →
    conn.running = false → motive s'

namespace Lasting

/-- What is known about the loops depends on nothing else. -/
theorem congr (h : s.Lasting) (hpaired : s'.Paired) (hdrivers : s'.drivers = s.drivers)
    (hconnections : s'.connections = s.connections)
    (haborts : ∀ t : Nat, s'.aborts[t]? = some false → s.aborts[t]? = some false) :
    s'.Lasting where
  paired := hpaired
  lasts t d conn hd hconn habort :=
    h.lasts t d conn (hdrivers ▸ hd) (hconnections ▸ hconn) (haborts t habort)

theorem step (h : s.Lasting) {t : Nat} (ht : s.passing (.step t) = true) :
    (s.after (.step t)).Lasting := by
  cases hmove : s.nextMove? t with
  | none => rwa [after_step_of_none hmove]
  | some m =>
      obtain ⟨he, hconn, reply, -, hm⟩ := nextMove?_eq_some hmove
      have hd := getElem?_drivers he
      have hc : m.entry.connection = t := h.paired.connection t _ hd
      have hconnections := connections_after_step hmove
      rw [hc] at hconn hconnections
      refine ⟨h.paired.step ht, fun t' d' conn' hd' hconn' habort => ?_⟩
      rw [aborts_after_of_passing ht] at habort
      rw [drivers_after_step hmove] at hd'
      rw [hconnections] at hconn'
      rcases of_getElem?_set hd' with ⟨rfl, rfl⟩ | ⟨hne, hsame⟩
      · rw [getElem?_set_of_getElem? hconn] at hconn'
        cases hconn'
        rw [hm]
        exact Task.lasts_resume reply (h.paired.isLoop _ _ hd) (h.lasts _ _ _ hd hconn habort)
      · rw [List.getElem?_set_ne hne.symm] at hconn'
        exact h.lasts t' d' conn' hsame hconn' habort

/-- A loop that is taken away need not have seen its connection stopped. -/
theorem destroy (h : s.Lasting) {t : Nat} (ht : s.passing (.destroy t) = true) :
    (s.after (.destroy t)).Lasting := by
  cases he : s.tasks[t]? with
  | none =>
      rw [after, Network.destroy, he]
      exact h
  | some e =>
      refine ⟨h.paired.destroy ht, fun t' d' conn' hd' hconn' habort => ?_⟩
      rw [aborts_after_of_passing ht] at habort
      rw [after, connections_destroy] at hconn'
      rw [after, drivers_destroy he] at hd'
      rcases of_getElem?_set hd' with ⟨rfl, -⟩ | ⟨-, hsame⟩
      · rw [passing, taskIs_aborted, habort] at ht
        cases ht
      · exact h.lasts t' d' conn' hsame hconn' habort

theorem disconnect (h : s.Lasting) (c : Nat) : (s.disconnect c).Lasting := by
  refine ⟨h.paired.disconnect c, fun t d conn' hd hconn' habort => ?_⟩
  rw [drivers_disconnect] at hd
  rw [aborts_disconnect] at habort
  rw [connections_disconnect, List.getElem?_modify] at hconn'
  obtain ⟨conn, hconn, rfl⟩ := Option.map_eq_some_iff.mp hconn'
  have hbefore := h.lasts t d conn hd hconn habort
  split
  · exact Point.lasts_stop hbefore
  · exact hbefore

theorem after (h : s.Lasting) (ha : s.admits a = true) : (s.after a).Lasting := by
  rcases admits_cases ha with ⟨t, rfl, ht⟩ | ⟨t, rfl, ht⟩ | ⟨c, rfl⟩ | hsame
  · exact h.step ht
  · exact h.destroy ht
  · exact h.disconnect c
  · exact h.congr (h.paired.after ha) hsame.drivers hsame.connections fun _ ht => hsame.aborts ▸ ht

/-- The loop of a new connection begins. -/
theorem enlist (h : s.Lasting) (hs' : s.Enlists conn s') (hrunning : conn.running = false) :
    s'.Lasting := by
  have hlength : s.connections.length = s.drivers.length := h.paired.length
  refine ⟨h.paired.enlist hs'.idle hs'.drivers hs'.connections hs'.locks hs'.aborts,
    fun t d conn' hd hconn' habort => ?_⟩
  rw [hs'.drivers] at hd
  rw [hs'.connections] at hconn'
  rcases of_getElem?_concat hd with hold | ⟨rfl, rfl⟩
  · have hlt := (List.getElem?_eq_some_iff.mp hold).1
    rw [List.getElem?_append_left (hlength ▸ hlt)] at hconn'
    rw [hs'.aborts_of_lt hlt] at habort
    exact h.lasts t d conn' hold hconn' habort
  · rw [← hlength, List.getElem?_concat_length] at hconn'
    cases hconn'
    show (!conn.running) = true
    rw [hrunning, Bool.not_false]

end Lasting

/-- Connections may come, and none goes. -/
theorem isKept_length (k : Nat) : IsKept fun s => k ≤ s.standings.length where
  after h ha := Nat.le_trans h (Nat.le_of_eq (length_standings_after_of_admits ha).symm)
  report _ _ h := h
  caches _ h := h
  abort _ h := h
  enlist h hs' _ := by
    refine Nat.le_trans h ?_
    simp [standings, hs'.connections]

theorem isKept_lasting : IsKept Lasting where
  after h ha := h.after ha
  report _ _ h := h.congr (h.paired.congr rfl rfl rfl fun _ ht => ht) rfl rfl fun _ ht => ht
  caches _ h := h.congr (h.paired.congr rfl rfl rfl fun _ ht => ht) rfl rfl fun _ ht => ht
  abort t h := h.congr (h.paired.abort t) (drivers_modifyTask _ t fun _ => rfl) rfl
    fun _ ht => (aborts_of_abort ht).1
  enlist h hs' hrunning := h.enlist hs' hrunning

end Network

namespace Supervisor

variable {config : GatewayConfig} {locks : LockService} {s s' : Supervisor} {name : String}
  {told : List Nat}

/-! ## What a supervisor does to its network -/

section IsKept

variable {motive : Network → Prop} (h : Network.IsKept motive)

include h

/-- What nothing can take away is kept whatever the crew is. -/
theorem isServed_of_isKept : Network.IsServed fun _ _ n => motive n where
  act hn ha := h.after hn ha
  report name o hn := h.report name o hn
  leave hn _ _ := hn
  abort hn _ := h.abort _ hn
  remove hn _ := h.caches _ hn
  enter hn _ hrecruits := h.enlist hn hrecruits.toEnlists hrecruits.running

/-- A property of networks that nothing can take away holds for the network of every reachable
supervisor, if it holds where there is nothing yet. -/
theorem kept_of_reachable
    (hnil : ∀ n : Network, n.tasks = [] → n.connections = [] → motive n)
    (hs : Reachable config locks s) : motive s.network := by
  induction hs with
  | new hnew =>
      obtain ⟨-, rfl⟩ := new_eq_ok_iff.mp hnew
      exact hnil _ rfl rfl
  | apply c _ ih => exact served_apply (isServed_of_isKept h) ih c
  | shutdown _ ih => exact served_shutdown (isServed_of_isKept h) ih
  | world _ ha ih => exact h.after ih ha

end IsKept

/-- In every reachable supervisor the loops go on until their connections are stopped. -/
theorem lasting_of_reachable (hs : Reachable config locks s) : s.network.Lasting :=
  kept_of_reachable Network.isKept_lasting
    (fun _ htasks hconnections =>
      ⟨.of_nil htasks hconnections, by simp [Network.drivers, htasks]⟩) hs

end Supervisor

/-! ## Who has stopped a connection -/

namespace Network

variable {s : Network} {a : Act}

/-- The connection that an act tells to stop, if it is there. -/
def told (s : Network) : Act → List Nat
  | .disconnect c => if c < s.connections.length then [c] else []
  | _ => []

/-- The connections that some acts tell to stop, the last one first. -/
def toldAll (s : Network) : List Act → List Nat
  | [] => []
  | a :: rest => (s.after a).toldAll rest ++ s.told a

theorem mem_told_disconnect {c c' : Nat} :
    c ∈ s.told (.disconnect c') ↔ c' = c ∧ c < s.standings.length := by
  rw [told, standings, List.length_map]
  constructor
  · intro h
    split at h
    · next hlt =>
      obtain rfl := List.mem_singleton.mp h
      exact ⟨rfl, hlt⟩
    · cases h
  · rintro ⟨rfl, hlt⟩
    rw [if_pos hlt]
    exact List.mem_singleton.mpr rfl

theorem lt_of_mem_told {c : Nat} (h : c ∈ s.told a) : c < s.standings.length := by
  cases a with
  | disconnect c' => exact (mem_told_disconnect.mp h).2
  | _ => cases h

/-- An act of the world stops the connection that it tells to, and leaves all others standing. -/
theorem getElem?_standings_after (ha : s.admits a = true) {c : Nat} {st : Standing}
    (hst : s.standings[c]? = some st) :
    (s.after a).standings[c]? = some (if c ∈ s.told a then st.stop else st) := by
  cases a with
  | disconnect c' =>
      have hlt := (List.getElem?_eq_some_iff.mp hst).1
      simp only [after, standings_disconnect, List.getElem?_modify, hst, mem_told_disconnect, hlt,
        and_true]
      rfl
  | connection => cases ha
  | _ =>
      rw [standings_after (fun _ => Act.noConfusion) fun _ => Act.noConfusion]
      exact hst

end Network

namespace Supervisor

variable {config : GatewayConfig} {locks : LockService} {s s' : Supervisor} {name : String}
  {told : List Nat} {c : TargetConfiguration} {summary : ApplySummary}

/-- The supervisors that come of a configuration and some locks, with the connections that were told
to stop by others than the supervisor. -/
inductive ReachableWith (config : GatewayConfig) (locks : LockService) :
    List Nat → Supervisor → Prop
  | new {s : Supervisor} : new config locks = .ok s → ReachableWith config locks [] s
  | apply {told : List Nat} {s : Supervisor} (c : TargetConfiguration) :
      ReachableWith config locks told s → ReachableWith config locks told (s.apply c).2
  | shutdown {told : List Nat} {s : Supervisor} : ReachableWith config locks told s →
      ReachableWith config locks told s.shutdown
  | world {told : List Nat} {s : Supervisor} {a : Act} : ReachableWith config locks told s →
      s.network.admits a = true →
      ReachableWith config locks (s.network.told a ++ told) (s.onNetwork (·.after a))

/-- Every supervisor that can be reached can be reached with somebody looking on. -/
theorem reachable_iff : Reachable config locks s ↔ ∃ told, ReachableWith config locks told s := by
  constructor
  · intro h
    induction h with
    | new hnew => exact ⟨[], .new hnew⟩
    | apply c _ ih => exact ih.imp fun _ h => h.apply c
    | shutdown _ ih => exact ih.imp fun _ h => h.shutdown
    | world _ ha ih =>
        obtain ⟨told, h⟩ := ih
        exact ⟨_, h.world ha⟩
  · rintro ⟨told, h⟩
    induction h with
    | new hnew => exact .new hnew
    | apply c _ ih => exact ih.apply c
    | shutdown _ ih => exact ih.shutdown
    | world _ ha ih => exact ih.world ha

theorem ReachableWith.afterAll (h : ReachableWith config locks told s) {acts : List Act}
    (hacts : s.network.admitsAll acts = true) :
    ReachableWith config locks (s.network.toldAll acts ++ told)
      (s.onNetwork (·.afterAll acts)) := by
  induction acts generalizing s told with
  | nil => exact h
  | cons a rest ih =>
      obtain ⟨ha, hrest⟩ := (Bool.and_eq_true _ _).mp hacts
      have := ih (h.world ha) hrest
      rwa [← List.append_assoc] at this

/-- The connection of a supervised target is stopped exactly if somebody else has told it to
stop. -/
structure Heeds (s : Supervisor) (told : List Nat) : Prop where
  staffed : s.Staffed
  lt : ∀ c ∈ told, c < s.network.standings.length
  stopped : ∀ (name : String) (c : Nat) (st : Standing), s.connection? name = some c →
    s.network.standings[c]? = some st → (st.stopped = true ↔ c ∈ told)

namespace Heeds

/-- What is known is kept if every supervised connection either was supervised before, and has been
left alone, or is new. -/
theorem of_cases (h : s.Heeds told) (hstaffed : s'.Staffed)
    (hlength : s.network.standings.length ≤ s'.network.standings.length)
    (hcases : ∀ name c, s'.connection? name = some c →
      (s.connection? name = some c ∧ s'.network.standings[c]? = s.network.standings[c]?) ∨
      (s.network.standings.length ≤ c ∧
        ∃ made, s'.network.standings[c]? = some ⟨made, false⟩)) :
    s'.Heeds told := by
  refine ⟨hstaffed, fun c hc => Nat.lt_of_lt_of_le (h.lt c hc) hlength, ?_⟩
  intro name c st hc hst
  rcases hcases name c hc with ⟨hold, hsame⟩ | ⟨hnew, made, hmade⟩
  · exact h.stopped name c st hold (hsame ▸ hst)
  · rw [hmade] at hst
    cases hst
    -- nobody can have told a connection to stop before it was there
    exact iff_of_false Bool.false_ne_true fun htold => Nat.not_lt.mpr hnew (h.lt c htold)

theorem removeTarget (h : s.Heeds told) (name : String) : (s.removeTarget name).Heeds told := by
  refine h.of_cases (h.staffed.removeTarget name)
    (Nat.le_of_eq (length_standings_stopTarget s name).symm) fun other c hc => .inl ?_
  have hc' : (s.stopTarget name).connection? other = some c := hc
  rw [connection?, get?_stopTarget] at hc'
  split at hc'
  · cases hc'
  · next hne =>
    have hold : s.connection? other = some c := hc'
    refine ⟨hold, (getElem?_standings_stopTarget s name c).trans (if_neg fun hsame => ?_)⟩
    exact hne (h.staffed.eq_of_connection? hsame hold)

theorem restart (h : s.Heeds told) (name : String) (o : Occurrence) (d : TargetDescriptor)
    (request : SubscribeRequest) : (s.restart name o d request).Heeds told := by
  have hrestarts := restarts_restart s name o d request
  refine h.of_cases (h.staffed.restart name o d request) (Nat.le_of_lt hrestarts.length_lt)
    fun other c hc => ?_
  by_cases hname : other = name
  · subst hname
    obtain rfl := Option.some_inj.mp (hrestarts.connection?.symm.trans hc)
    obtain ⟨made, -, -, -, hmade⟩ := hrestarts.started
    exact .inr ⟨Nat.le_refl _, made, hmade⟩
  · have hold : s.connection? other = some c := by
      rwa [connection?, hrestarts.targets other hname] at hc
    obtain ⟨st, hst⟩ := h.staffed.exists_standing hold
    refine .inl ⟨hold, hrestarts.others c (List.getElem?_eq_some_iff.mp hst).1 fun hsame => ?_⟩
    exact hname (h.staffed.eq_of_connection? hold hsame)

theorem apply (h : s.Heeds told) (c : TargetConfiguration) : (s.apply c).2.Heeds told :=
  apply_induction (motive := fun s => s.Heeds told) c
    (fun h => ⟨⟨h.staffed.connection_lt, h.staffed.unique, h.staffed.balance⟩, h.lt, h.stopped⟩)
    (fun name h => h.removeTarget name) (fun name o d request h => h.restart name o d request) h

theorem shutdown (h : s.Heeds told) : s.shutdown.Heeds told := by
  refine h.of_cases h.staffed.shutdown
    (served_shutdown (isServed_of_isKept (Network.isKept_length _)) (s := s) (Nat.le_refl _))
    fun name c hc => ?_
  rw [connection?, s.shutdown_frame.1] at hc
  cases hc

theorem world (h : s.Heeds told) {a : Act} (ha : s.network.admits a = true) :
    (s.onNetwork (·.after a)).Heeds (s.network.told a ++ told) := by
  have hlength := Network.length_standings_after_of_admits ha
  refine ⟨h.staffed.onNetwork hlength, fun c hc => ?_, fun name c st hc hst => ?_⟩
  · refine Nat.lt_of_lt_of_eq ?_ hlength.symm
    rcases List.mem_append.mp hc with hnow | hearlier
    · exact Network.lt_of_mem_told hnow
    · exact h.lt c hearlier
  · obtain ⟨before, hbefore⟩ := h.staffed.exists_standing hc
    have hafter : (s.network.after a).standings[c]? = some st := hst
    rw [Network.getElem?_standings_after ha hbefore] at hafter
    obtain rfl := Option.some_inj.mp hafter
    rw [List.mem_append]
    split
    · next hnow => exact iff_of_true rfl (.inl hnow)
    · next hnot =>
      rw [h.stopped name c _ hc hbefore]
      exact ⟨.inr, fun hor => hor.resolve_left hnot⟩

end Heeds

/-- Which supervised connections are stopped, in every reachable supervisor. -/
theorem heeds_of_reachableWith (h : ReachableWith config locks told s) : s.Heeds told := by
  induction h with
  | new hnew =>
      have hstaffed := staffed_of_new hnew
      obtain ⟨-, rfl⟩ := new_eq_ok_iff.mp hnew
      exact {
        staffed := hstaffed
        lt := fun _ hc => nomatch hc
        stopped := fun _ _ _ hc => nomatch hc }
  | apply c _ ih => exact ih.apply c
  | shutdown _ ih => exact ih.shutdown
  | world _ ha ih => exact ih.world ha

/-! ## Supervised targets -/

/-- What a supervised target has: a connection of its own, and a loop of it that is not taken away.
The connection is stopped exactly if somebody else has told it to stop, and until then the loop goes
on. -/
structure Sustains (s : Supervisor) (told : List Nat) (name : String) (target : SupervisedTarget)
    (conn : Connection) (loop : TaskEntry) : Prop where
  supervised : s.targets.get? name = some target
  connection : s.network.connections[target.connection]? = some conn
  task : s.network.tasks[target.task]? = some loop
  drives : loop.connection = target.connection
  isLoop : loop.task.isLoop = true
  aborted : loop.aborted = false
  isStopped_iff : conn.phase.isStopped = true ↔ target.connection ∈ told
  tries : target.connection ∉ told → loop.task.point.isFinished = false

theorem exists_sustains (h : ReachableWith config locks told s) {target : SupervisedTarget}
    (htarget : s.targets.get? name = some target) :
    ∃ conn loop, s.Sustains told name target conn loop := by
  have hreachable : Reachable config locks s := reachable_iff.mpr ⟨told, h⟩
  have hlasting := lasting_of_reachable hreachable
  obtain ⟨hnumber, habort, id, -, hsink⟩ :=
    (attended_of_reachable hreachable).crewed.serving name target htarget
  obtain ⟨conn, hconn, -⟩ := Network.exists_of_getElem?_sinks hsink
  obtain ⟨loop, hloop, haborted⟩ : ∃ e : TaskEntry, s.network.tasks[target.task]? = some e ∧
      e.aborted = false := by
    rw [Network.aborts, List.getElem?_map] at habort
    exact Option.map_eq_some_iff.mp habort
  have hd := Network.getElem?_drivers hloop
  have hstopped : conn.phase.isStopped = true ↔ target.connection ∈ told := by
    refine (heeds_of_reachableWith h).stopped name target.connection conn.standing ?_ ?_
    · rw [connection?, htarget, Option.map_some]
    · rw [Network.standings, List.getElem?_map, hconn, Option.map_some]
  refine ⟨conn, loop, ?_⟩
  exact {
    supervised := htarget
    connection := hconn
    task := hloop
    drives := (hlasting.paired.connection _ _ hd).trans hnumber
    isLoop := hlasting.paired.isLoop _ _ hd
    aborted := haborted
    isStopped_iff := hstopped
    tries := by
      intro hnot
      rw [← hstopped, Bool.not_eq_true] at hnot
      have hlasts := hlasting.lasts _ _ conn hd (hnumber ▸ hconn) habort
      cases hpoint : loop.task.point with
      | finished result =>
          rw [show loop.driver.task.point = .finished result from hpoint] at hlasts
          exact absurd (hlasts.symm.trans hnot) Bool.noConfusion
      | _ => rfl }

/-- After a configuration was applied every configured target has a connection and a loop.  The
target is alive, unless it was kept and somebody has told its connection to stop; then it is kept as
it is. -/
theorem live_of_applied (config : GatewayConfig) (locks : LockService) (told : List Nat)
    (s s' : Supervisor) (hs : ReachableWith config locks told s) (c : TargetConfiguration)
    (summary : ApplySummary) (happly : s.apply c = (.ok summary, s')) (name : String)
    (hname : name ∈ c.targets.keys) :
    ∃ target conn loop, s'.Sustains told name target conn loop ∧
      (name ∈ summary.kept → s.targets.get? name = some target) ∧
      (conn.phase.isStopped = true ↔ name ∈ summary.kept ∧ target.connection ∈ told) := by
  obtain ⟨summary', s'', happly', hreconciled⟩ :=
    exists_reconciled (heeds_of_reachableWith hs).staffed (apply_eq_ok_iff.mp happly).1
  rw [happly] at happly'
  cases happly'
  have hs' : ReachableWith config locks told s' := by
    have := hs.apply c
    rwa [happly] at this
  obtain ⟨d, hd⟩ := Dictionary.contains_iff.mp (Dictionary.mem_keys_iff.mp hname)
  obtain ⟨target, htarget⟩ :=
    Dictionary.contains_iff.mp (Dictionary.mem_keys_iff.mp (hreconciled.keys ▸ hname))
  obtain ⟨conn, loop, hsustains⟩ := exists_sustains hs' htarget
  refine ⟨target, conn, loop, hsustains, fun hkept => ?_, ?_⟩
  · rw [← (hreconciled.kept name hkept).1, htarget]
  · rw [hsustains.isStopped_iff, iff_and_self]
    intro htold
    have hstopped := hsustains.isStopped_iff.mpr htold
    rcases hreconciled.kept_or_started hname with hkept | hstarted
    · exact hkept
    · -- a connection that was started just now is not stopped
      obtain ⟨i, conn', hi, -, hconn', -, -, -, hopen⟩ := hreconciled.started name d hstarted hd
      rw [connection?, htarget, Option.map_some] at hi
      cases hi
      obtain rfl := Option.some_inj.mp (hconn'.symm.trans hsustains.connection)
      rw [hstopped] at hopen
      cases hopen

/-- Somebody tells the connection of the only target to stop, and its loop comes to its end. -/
def quitting : List Act := .disconnect 0 :: List.replicate 4 (.step 0)

/-- A supervisor whose only target has delivered a leaf and then been stopped by somebody. -/
def abandoned : Supervisor := (feeding {}).onNetwork (·.afterAll quitting)

theorem reachableWith_abandoned : ReachableWith {} (.registry {}) [0] abandoned := by
  obtain ⟨s, hnew, hacts, htold⟩ : ∃ s, Supervisor.new {} (.registry {}) = .ok s ∧
      (s.apply (oneTarget "10.0.0.1")).2.network.admitsAll (delivery 0 0 "uptime") = true ∧
      (s.apply (oneTarget "10.0.0.1")).2.network.toldAll (delivery 0 0 "uptime") = [] :=
    ⟨_, rfl, by decide +kernel, by decide +kernel⟩
  have hfed : ReachableWith {} (.registry {}) [] (feeding {}) := by
    have := ReachableWith.afterAll (.apply (oneTarget "10.0.0.1") (.new hnew)) hacts
    rw [htold] at this
    rwa [feeding, hnew]
  have hquit : (feeding {}).network.toldAll quitting = [0] := by decide +kernel
  have := hfed.afterAll (by decide +kernel : (feeding {}).network.admitsAll quitting = true)
  rwa [hquit] at this

/-- A target that somebody has stopped is alive again as soon as it is configured otherwise. -/
theorem live_of_moved : ∃ target conn loop,
    (abandoned.apply (oneTarget "10.0.1.1")).2.Sustains [0] "leaf1" target conn loop ∧
      conn.phase.isStopped = false ∧ loop.task.point.isFinished = false := by
  have happly : abandoned.apply (oneTarget "10.0.1.1") =
      (.ok { replaced := ["leaf1"] }, (abandoned.apply (oneTarget "10.0.1.1")).2) :=
    apply_eq_of_toOption (by decide +kernel)
  obtain ⟨target, conn, loop, hsustains, -, hstopped⟩ := live_of_applied {} (.registry {}) [0]
    abandoned _ reachableWith_abandoned (oneTarget "10.0.1.1") _ happly "leaf1" (by decide)
  have hopen : conn.phase.isStopped = false :=
    Bool.eq_false_iff.mpr fun h => List.not_mem_nil (hstopped.mp h).1
  refine ⟨target, conn, loop, hsustains, hopen, hsustains.tries fun htold => ?_⟩
  rw [hsustains.isStopped_iff.mpr htold] at hopen
  cases hopen

/-- A target that somebody has stopped, and whose loop is over, is kept as it is when the same
configuration is applied again. -/
theorem kept_after_stop :
    let applied := abandoned.apply (oneTarget "10.0.0.1")
    (feeding {}).connection? "leaf1" = some 0 ∧
      ReachableWith {} (.registry {}) [0] abandoned ∧
      applied.1.toOption = some { kept := ["leaf1"] } ∧
      applied.2.connection? "leaf1" = some 0 ∧
      (applied.2.network.connections[0]?).map (·.phase) = some .stopped ∧
      applied.2.network.isFinished 0 = true := by
  refine ⟨by decide +kernel, reachableWith_abandoned, by decide +kernel, by decide +kernel,
    by decide +kernel, by decide +kernel⟩

end Supervisor

end TelemetryGateway
