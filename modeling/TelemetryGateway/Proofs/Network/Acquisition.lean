import TelemetryGateway.Proofs.Connection.Operations
import TelemetryGateway.Proofs.Network.Exclusion
import TelemetryGateway.Proofs.Network.Subscription

/-!
# The acquisition loops of a network

What `Task.Follows` says about a loop under any surroundings holds for every loop of a network, in
every run: also if other loops take the slots and the locks, if somebody connects without a loop,
and if tasks are taken away.

Two loops of one connection do not meet.  A loop that is engaged has marked its connection as
running, and no other one gets engaged while the mark stands (`Network.Exclusive`); a second loop is
over at its first move, which changes nothing but itself.

* `Network.retraced_afterAll`: the operations of a loop in a run are those of what it meets in it;
* `Network.exclusive_afterAll`: in every run at most one loop is engaged with a connection;
* `Network.after_step_of_running`: what becomes of a second loop.
-/

namespace TelemetryGateway

namespace Task

theorem resumeAll_concat (t : Task) (encounters : List Encounter) (e : Encounter) :
    t.resumeAll (encounters ++ [e]) =
      ((t.resumeAll encounters).resume e.connection e.reply).task := by
  induction encounters generalizing t with
  | nil => rfl
  | cons first rest ih => exact ih _

theorem operationsAll_concat (t : Task) (encounters : List Encounter) (e : Encounter) :
    t.operationsAll (encounters ++ [e]) =
      t.operationsAll encounters ++
        (t.resumeAll encounters).operations e.connection e.reply := by
  induction encounters generalizing t with
  | nil => simp [operationsAll, resumeAll]
  | cons first rest ih =>
      rw [List.cons_append, operationsAll, operationsAll, ih, List.append_assoc]
      rfl

end Task

namespace Network

variable {s : Network} {a : Act}

/-! ## Encounters and operations in a run -/

/-- What a task meets in its next move; `none` if it has to wait or is over. -/
def encounter? (s : Network) (t : Nat) : Option Encounter := do
  let e ← s.tasks[t]?
  let connection ← s.connections[e.connection]?
  let (reply, _) ← s.reply? e connection
  return { connection, reply }

/-- What a task meets in an act. -/
def encounterIn (t : Nat) (s : Network) : Act → List Encounter
  | .step u => if u = t then (s.encounter? t).toList else []
  | _ => []

/-- What a task meets in a run. -/
def encounters (s : Network) (t : Nat) (acts : List Act) : List Encounter :=
  s.collect (encounterIn t) acts

/-- What a task does in an act. -/
def operationsIn (t : Nat) (s : Network) (a : Act) : List Operation :=
  (encounterIn t s a).flatMap fun met =>
    (s.tasks[t]?).elim [] fun e => e.task.operations met.connection met.reply

/-- What a task does in a run. -/
def operations (s : Network) (t : Nat) (acts : List Act) : List Operation :=
  s.collect (operationsIn t) acts

/-- A task that moves meets something, and moves by it. -/
theorem encounterIn_of_move {t : Nat} {m : NextMove} (h : s.nextMove? t = some m) :
    ∃ met : Encounter, encounterIn t s (.step t) = [met] ∧
      m.move = m.entry.task.resume met.connection met.reply := by
  obtain ⟨he, hconn, reply, hreply, hm⟩ := nextMove?_eq_some h
  exact ⟨⟨m.connection, reply⟩, by simp [encounterIn, encounter?, he, hconn, hreply], hm⟩

/-- A task that does not move meets nothing. -/
theorem encounterIn_of_idle {t : Nat} (h : a = .step t → s.nextMove? t = none) :
    encounterIn t s a = [] := by
  cases a with
  | step u =>
      by_cases hu : u = t
      · subst hu
        have hnone := h rfl
        unfold nextMove? at hnone
        simp only [encounterIn, if_true, encounter?]
        cases he : s.tasks[u]? with
        | none => rfl
        | some e =>
            cases hconn : s.connections[e.connection]? with
            | none => simp [hconn]
            | some conn =>
                cases hreply : s.reply? e conn with
                | none => simp [hconn, hreply]
                | some answer => simp [he, hconn, hreply] at hnone
      · exact if_neg hu
  | _ => rfl

/-- A task that is over does not move any more. -/
theorem nextMove?_of_finished {t : Nat} {d : Driver} (hd : s.drivers[t]? = some d)
    (hover : d.task.point.isFinished = true) : s.nextMove? t = none := by
  cases hmove : s.nextMove? t with
  | none => rfl
  | some m =>
      obtain ⟨he, -, reply, hreply, -⟩ := nextMove?_eq_some hmove
      obtain rfl := Option.some_inj.mp (hd.symm.trans (getElem?_drivers he))
      cases hpoint : m.entry.task.point with
      | finished result => simp [reply?, hpoint, Point.ask] at hreply
      | _ => simp [TaskEntry.driver, hpoint, Point.isFinished] at hover

/-- A loop of a run is what its encounters make of a new loop, unless it was taken away, and does
what a new loop does in them. -/
structure Retraced (s : Network) (t : Nat) (encounters : List Encounter)
    (operations : List Operation) : Prop where
  absent : s.drivers[t]? = none → encounters = [] ∧ operations = []
  task : ∀ d : Driver, s.drivers[t]? = some d → d.task.isLoop = true →
    d.task = Task.loop.resumeAll encounters ∨ d.task = (Task.loop.resumeAll encounters).taken
  operations : ∀ d : Driver, s.drivers[t]? = some d → d.task.isLoop = true →
    operations = Task.loop.operationsAll encounters

namespace Retraced

variable {t : Nat} {encounters : List Encounter} {operations : List Operation}

/-- What a loop meets and does in a move is added to what it has met and done. -/
theorem step (h : s.Retraced t encounters operations) {m : NextMove}
    (hmove : s.nextMove? t = some m) :
    (s.after (.step t)).Retraced t (encounters ++ encounterIn t s (.step t))
      (operations ++ operationsIn t s (.step t)) := by
  have he := (nextMove?_eq_some hmove).1
  have hd := getElem?_drivers he
  obtain ⟨met, hmet, hm⟩ := encounterIn_of_move hmove
  have hafter := driver_after_step hmove
  rw [operationsIn, hmet, List.flatMap_singleton, he, Option.elim_some]
  -- a task that was taken away does not move
  have hloop (hisLoop : m.entry.task.isLoop = true) :
      m.entry.task = Task.loop.resumeAll encounters := by
    rcases h.task _ hd hisLoop with hsame | htaken
    · exact hsame
    · have hnone := nextMove?_of_finished hd (by rw [htaken]; rfl)
      rw [hmove] at hnone
      cases hnone
  constructor
  case absent =>
    intro hnone
    rw [hafter] at hnone
    cases hnone
  case task =>
    intro d' hd' hisLoop
    rw [hafter] at hd'
    cases hd'
    rw [hm, Task.isLoop_resume] at hisLoop
    left
    rw [Task.resumeAll_concat, ← hloop hisLoop, hm]
  case operations =>
    intro d' hd' hisLoop
    rw [hafter] at hd'
    cases hd'
    rw [hm, Task.isLoop_resume] at hisLoop
    rw [Task.operationsAll_concat, ← hloop hisLoop, h.operations _ hd hisLoop]

/-- An act in which a task does not move adds nothing. -/
theorem idle (h : s.Retraced t encounters operations) (hidle : a = .step t → s.nextMove? t = none) :
    (s.after a).Retraced t (encounters ++ encounterIn t s a)
      (operations ++ operationsIn t s a) := by
  rw [operationsIn, encounterIn_of_idle hidle, List.flatMap_nil, List.append_nil, List.append_nil]
  constructor
  case absent =>
    intro hnone
    refine h.absent ?_
    cases hd : s.drivers[t]? with
    | none => rfl
    | some d =>
        obtain ⟨d', hd', -⟩ := exists_driver_after (a := a) hd
        rw [hnone] at hd'
        cases hd'
  case task =>
    intro d' hd' hisLoop
    cases driverAfter hd' with
    | same hd => exact h.task _ hd hisLoop
    | move hact hmove =>
        rw [hidle hact] at hmove
        cases hmove
    | taken _ hd =>
        -- to be taken away twice is the same as once
        rcases h.task _ hd hisLoop with hsame | htaken
        · exact .inr (congrArg Task.taken hsame)
        · exact .inr ((congrArg Task.taken htaken).trans rfl)
    | loop ht =>
        rw [(h.absent (List.getElem?_eq_none (Nat.le_of_eq ht))).1]
        exact .inl rfl
    | attempt => cases hisLoop
  case operations =>
    intro d' hd' hisLoop
    cases driverAfter hd' with
    | same hd => exact h.operations _ hd hisLoop
    | move hact hmove =>
        rw [hidle hact] at hmove
        cases hmove
    | taken _ hd => exact h.operations _ hd hisLoop
    | loop ht =>
        obtain ⟨hencounters, hoperations⟩ := h.absent (List.getElem?_eq_none (Nat.le_of_eq ht))
        rw [hencounters, hoperations]
        rfl
    | attempt => cases hisLoop

end Retraced

/-- The loops of a run do what they do under the surroundings that they meet. -/
theorem retraced_afterAll (htasks : s.tasks = []) (t : Nat) (acts : List Act) :
    (s.afterAll acts).Retraced t (s.encounters t acts) (s.operations t acts) := by
  induction acts using List.reverseRecOn with
  | nil => exact ⟨fun _ => ⟨rfl, rfl⟩, by simp [afterAll, drivers, htasks],
      by simp [afterAll, drivers, htasks]⟩
  | append_singleton acts a ih =>
      rw [afterAll_concat, encounters, operations, collect_concat, collect_concat]
      by_cases hstep : a = .step t
      · subst hstep
        cases hmove : (s.afterAll acts).nextMove? t with
        | none => exact ih.idle fun _ => hmove
        | some m => exact ih.step hmove
      · exact ih.idle fun hact => absurd hact hstep

/-- The operations of a loop in a run keep to the law. -/
theorem exists_follows (htasks : s.tasks = []) {t : Nat} {acts : List Act} {d : Driver}
    (hd : (s.afterAll acts).drivers[t]? = some d) (hloop : d.task.isLoop = true) :
    ∃ task : Task, Task.Follows (s.operations t acts) task ∧
      (d.task = task ∨ d.task = task.taken) := by
  have h := retraced_afterAll htasks t acts
  rw [h.operations d hd hloop]
  exact ⟨_, Task.follows_operationsAll _, h.task d hd hloop⟩

/-- A loop has at each point what it needs there. -/
theorem holds_of_isLoop (htasks : s.tasks = []) {t : Nat} {acts : List Act} {d : Driver}
    (hd : (s.afterAll acts).drivers[t]? = some d) (hloop : d.task.isLoop = true) :
    d.task.Holds := by
  obtain ⟨task, hfollows, htask | htask⟩ := exists_follows htasks hd hloop
  · rw [htask]
    exact hfollows.holds
  · rw [htask]
    exact ⟨nofun, nofun, nofun, nofun, nofun⟩

end Network

/-! ## The discipline of acquisition -/

/-- What the operations of a loop are like that has come to a point: they begin a word, and are a
whole one once the loop has returned; a loop that was refused has done nothing.  Whatever is done is
due when it is done. -/
structure Point.Disciplined (p : Point) (operations : List Operation) : Prop where
  exists_word : ∃ progress : Progress, operations <+: progress.word
  exists_word_eq : p = .finished (.loop (.ok ())) →
    ∃ progress : Progress, operations = progress.word
  eq_nil : ∀ e, p = .finished (.loop (.error e)) → operations = []
  isDue : ∀ (first rest : List Operation) (op : Operation),
    operations = first ++ op :: rest → op.IsDue first

theorem Task.Follows.disciplined {t : Task} {operations : List Operation}
    (h : Follows operations t) : t.point.Disciplined operations where
  exists_word := h.exists_word
  exists_word_eq := h.exists_word_eq
  eq_nil _ := h.eq_nil_of_refused
  isDue _ _ _ hsplit := (hsplit ▸ h).isDue

/-- A loop that was taken away has returned nothing. -/
theorem Task.Follows.disciplined_taken {t : Task} {operations : List Operation}
    (h : Follows operations t) : t.taken.point.Disciplined operations where
  exists_word := h.exists_word
  exists_word_eq := nofun
  eq_nil := nofun
  isDue _ _ _ hsplit := (hsplit ▸ h).isDue

namespace Network

theorem disciplined_operations {s : Network} (htasks : s.tasks = []) {t : Nat} {acts : List Act}
    {e : TaskEntry} (he : (s.afterAll acts).tasks[t]? = some e) (hloop : e.task.isLoop = true) :
    e.task.point.Disciplined (s.operations t acts) := by
  obtain ⟨task, hfollows, htask | htask⟩ := exists_follows htasks (getElem?_drivers he) hloop
  · rw [show e.task = task from htask]
    exact hfollows.disciplined
  · rw [show e.task = task.taken from htask]
    exact hfollows.disciplined_taken

/-- Under any surroundings, and in every run of a network, an acquisition loop asks for a slot until
it has one, then for the lock until it has it, with a pause after each refusal, and then makes one
attempt to connect after the other, with a pause after those that fail.  When it sees that its
connection was stopped, and only then, it gives back what it has got, once, and returns.

A second loop for the same connection returns an error at its first move, having done nothing and
changed nothing but itself. -/
theorem acquires_in_order (pools : List SlotPool) (locks : LockService) (acts : List Act) (t : Nat)
    (e : TaskEntry) (conn : Connection)
    (he : (afterAll { pools, locks } acts).tasks[t]? = some e) (hloop : e.task.isLoop = true)
    (hconn : (afterAll { pools, locks } acts).connections[e.connection]? = some conn) :
    let start : Network := { pools, locks }
    let s := start.afterAll acts
    (∀ encounters : List Encounter,
      (Task.loop.resumeAll encounters).point.Disciplined (Task.loop.operationsAll encounters)) ∧
    e.task.point.Disciplined (start.operations t acts) ∧
    (e.task.point.isEngaged = true →
      ∀ (u : Nat) (second : TaskEntry), s.tasks[u]? = some second → second.task = .loop →
        second.connection = e.connection →
        s.after (.step u) = { s with
          tasks := s.tasks.set u { second with
            task := { second.task with
              point := .finished (.loop (.error (.alreadyRunning conn.name))) }
            signalled := false } } ∧
        start.operations u (acts ++ [.step u]) = []) := by
  intro start s
  refine ⟨fun encounters => (Task.follows_operationsAll encounters).disciplined,
    disciplined_operations rfl he hloop, fun hengaged u second hsecond htask hsame => ?_⟩
  have hexclusive : s.Exclusive :=
    exclusive_afterAll (.of_nil rfl) (sound_of_nil rfl rfl) acts
  have hrunning : conn.running = true :=
    hexclusive.running t e.connection e.driver conn (getElem?_drivers he) ⟨hloop, hengaged, rfl⟩
      hconn
  have hpoint : second.task.point = .entering := by rw [htask]; rfl
  have hafter := after_step_of_running hsecond (hsame ▸ hconn) hpoint hrunning
  refine ⟨hafter, ?_⟩
  -- the second loop is refused in this run, so it has done nothing
  have hentry : (start.afterAll (acts ++ [.step u])).tasks[u]? = some { second with
      task := { second.task with point := .finished (.loop (.error (.alreadyRunning conn.name))) }
      signalled := false } := by
    rw [afterAll_concat, hafter]
    exact getElem?_set_of_getElem? hsecond
  refine (disciplined_operations rfl hentry ?_).eq_nil _ rfl
  rw [htask]
  rfl

/-- A loop that dials has asked for a slot and for the lock once each; a second one beside it
returns at once and leaves the connection as it is. -/
theorem acquires_in_order_of_two_loops :
    let start : Network :=
      { pools := [{ capacity := 1, available := 1 }], locks := .registry {} }
    let acts := upToDial ++ [.loop 0 0]
    let s := start.afterAll acts
    start.operations 0 acts = [.slot true, .lock true, .connect] ∧
      Operation.IsDue [.slot true, .lock true] .connect ∧
      s.isFinished 1 = false ∧ (s.after (.step 1)).isFinished 1 = true ∧
      (s.after (.step 1)).connections = s.connections ∧
      start.operations 1 (acts ++ [.step 1]) = [] := by
  intro start acts s
  have hoperations : start.operations 0 acts = [.slot true, .lock true, .connect] := by
    decide +kernel
  let query : Query := (Connection.plain "leaf1" (.recorder 0)).query.toOption.getD default
  let dialing : TaskEntry :=
    { connection := 0, gate := some 0
      task := { isLoop := true, hasSlot := true, hasLock := true
                point := .dialing query 0 query.timeout } }
  let conn : Connection :=
    { Connection.plain "leaf1" (.recorder 0) with phase := .connecting, running := true }
  have hconn : s.connections[0]? = some conn := by decide +kernel
  obtain ⟨-, hdisciplined, hsecond⟩ := acquires_in_order [{ capacity := 1, available := 1 }]
    (.registry {}) acts 0 dialing conn rfl rfl hconn
  obtain ⟨hafter, hnothing⟩ :=
    hsecond rfl 1 { connection := 0, gate := some 1, task := .loop } rfl rfl rfl
  refine ⟨hoperations, ?_, by decide +kernel, by decide +kernel, ?_, hnothing⟩
  · exact hdisciplined.isDue [.slot true, .lock true] [] .connect hoperations
  · rw [hafter]

end Network

end TelemetryGateway
