import TelemetryGateway.Proofs.Network.Run

/-!
# What an act changes

An act of the surroundings, a call on a connection or a move of a task: each changes a few parts of
a network only.  `Effect` lists the possibilities once and for all, as far as the connections, the
tasks that drive them, the locks and the links are concerned, and `Network.after_effect` says that
there are no others.  Invariants of runs are proved from `Effect` alone.

Two things are left out of a task here, the stop signal and the request to take it away: they decide
when it moves and not what it does.  What remains is its `Driver`.  Links are compared by
`Link.Later`: what is in their buffers is left out, but not that a request to close is final.
-/

namespace TelemetryGateway

/-! ## Changes of lists -/

section Lists

variable {α : Type} {l : List α} {i j : Nat} {a b : α}

theorem of_getElem?_set (h : (l.set i a)[j]? = some b) :
    (j = i ∧ b = a) ∨ (j ≠ i ∧ l[j]? = some b) := by
  rw [List.getElem?_set] at h
  by_cases hij : i = j
  · rw [if_pos hij] at h
    split at h <;> cases h
    exact .inl ⟨hij.symm, rfl⟩
  · rw [if_neg hij] at h
    exact .inr ⟨fun hji => hij hji.symm, h⟩

theorem getElem?_set_of_getElem? (h : l[i]? = some b) : (l.set i a)[i]? = some a := by
  obtain ⟨hi, -⟩ := List.getElem?_eq_some_iff.mp h
  exact List.getElem?_set_self hi

theorem of_getElem?_concat (h : (l ++ [a])[j]? = some b) :
    l[j]? = some b ∨ (j = l.length ∧ b = a) := by
  rcases Nat.lt_trichotomy j l.length with hj | hj | hj
  · rw [List.getElem?_append_left hj] at h
    exact .inl h
  · subst hj
    rw [List.getElem?_concat_length] at h
    cases h
    exact .inr ⟨rfl, rfl⟩
  · rw [List.getElem?_eq_none (by simp; omega)] at h
    cases h

theorem getElem?_concat_of_getElem? (h : l[j]? = some b) : (l ++ [a])[j]? = some b := by
  obtain ⟨hj, -⟩ := List.getElem?_eq_some_iff.mp h
  rw [List.getElem?_append_left hj, h]

end Lists

/-! ## Links -/

namespace Link

/-- A link that is finished for its reader is closed. -/
def IsSound (k : Link) : Prop := k.finished = true → k.closeRequested = true

/-- A link after something has happened to it. -/
structure Later (k k' : Link) : Prop where
  closeRequested : k.closeRequested = true → k'.closeRequested = true
  sound : k.IsSound → k'.IsSound

namespace Later

theorem refl (k : Link) : k.Later k := ⟨id, id⟩

theorem trans {k k' k'' : Link} (h : k.Later k') (h' : k'.Later k'') : k.Later k'' :=
  ⟨fun hk => h'.closeRequested (h.closeRequested hk), fun hk => h'.sound (h.sound hk)⟩

end Later

theorem later_close (k : Link) : k.Later k.close := ⟨fun _ => rfl, fun _ _ => rfl⟩

theorem later_dropReader (k : Link) : k.Later k.dropReader := ⟨id, id⟩

theorem later_dropSender (k : Link) : k.Later k.dropSender := ⟨id, id⟩

theorem later_push (k : Link) (e : StreamEvent) : k.Later (k.push e) := ⟨id, id⟩

theorem later_of_next? {k k' : Link} {e : StreamEvent} : k.next? = some (e, k') → k.Later k' := by
  fun_cases next? k
  · rintro ⟨⟩
    exact Later.refl k
  · rintro ⟨⟩
    exact ⟨fun _ => rfl, fun _ _ => rfl⟩
  · rintro ⟨⟩
    exact ⟨id, id⟩
  · rintro ⟨⟩
    exact ⟨fun _ => rfl, fun _ _ => rfl⟩
  · rintro ⟨⟩
    exact ⟨fun _ => rfl, fun _ _ => rfl⟩
  · rintro ⟨⟩

/-- Whoever reads the end of a link has closed it. -/
theorem closeRequested_of_next? {k k' : Link} {reason : String} (hk : k.IsSound) :
    k.next? = some (.closed reason, k') → k'.closeRequested = true := by
  fun_cases next? k with
  | case1 hfinished =>
      rintro ⟨⟩
      exact hk hfinished
  | case3 => rintro ⟨⟩
  | case6 => rintro ⟨⟩
  | _ =>
      rintro ⟨⟩
      rfl

end Link

/-- The links after something has happened to some of them. -/
structure LinksLater (links links' : List Link) : Prop where
  length_eq : links'.length = links.length
  exists_before : ∀ (l : Nat) (k' : Link), links'[l]? = some k' →
    ∃ k : Link, links[l]? = some k ∧ k.Later k'

namespace LinksLater

variable {links links' : List Link}

theorem refl (links : List Link) : LinksLater links links :=
  ⟨rfl, fun _ k h => ⟨k, h, .refl k⟩⟩

theorem exists_after (h : LinksLater links links') {l : Nat} {k : Link} (hk : links[l]? = some k) :
    ∃ k' : Link, links'[l]? = some k' ∧ k.Later k' := by
  have hlt : l < links'.length := by
    rw [h.length_eq]
    exact (List.getElem?_eq_some_iff.mp hk).1
  obtain ⟨same, hsame, hlater⟩ := h.exists_before l _ (List.getElem?_eq_getElem hlt)
  rw [hk] at hsame
  cases hsame
  exact ⟨_, List.getElem?_eq_getElem hlt, hlater⟩

theorem trans {links'' : List Link} (h : LinksLater links links')
    (h' : LinksLater links' links'') : LinksLater links links'' := by
  refine ⟨h'.length_eq.trans h.length_eq, fun l k'' hk'' => ?_⟩
  obtain ⟨k', hk', hlater'⟩ := h'.exists_before l k'' hk''
  obtain ⟨k, hk, hlater⟩ := h.exists_before l k' hk'
  exact ⟨k, hk, hlater.trans hlater'⟩

theorem modify (links : List Link) (l : Nat) {f : Link → Link}
    (hf : ∀ k : Link, k.Later (f k)) : LinksLater links (links.modify l f) := by
  refine ⟨List.length_modify .., fun i k' hk' => ?_⟩
  rw [List.getElem?_modify] at hk'
  obtain ⟨k, hk, rfl⟩ := Option.map_eq_some_iff.mp hk'
  refine ⟨k, hk, ?_⟩
  split
  · exact hf k
  · exact .refl k

theorem set {l : Nat} {k k' : Link} (hk : links[l]? = some k) (hlater : k.Later k') :
    LinksLater links (links.set l k') := by
  refine ⟨List.length_set, fun i after hafter => ?_⟩
  rcases of_getElem?_set hafter with ⟨rfl, rfl⟩ | ⟨-, hold⟩
  · exact ⟨k, hk, hlater⟩
  · exact ⟨after, hold, .refl after⟩

end LinksLater

/-! ## Drivers -/

/-- A task as far as it drives a connection. -/
structure Driver where
  /-- The number of the connection. -/
  connection : Nat
  gate : Option Nat
  task : Task

/-- What a task is as a driver. -/
def TaskEntry.driver (e : TaskEntry) : Driver := ⟨e.connection, e.gate, e.task⟩

namespace Network

/-- The drivers of a network, one for each task. -/
def drivers (s : Network) : List Driver := s.tasks.map TaskEntry.driver

theorem getElem?_drivers {s : Network} {t : Nat} {e : TaskEntry} (h : s.tasks[t]? = some e) :
    s.drivers[t]? = some e.driver := by
  rw [drivers, List.getElem?_map, h]
  rfl

theorem drivers_modifyTask (s : Network) (t : Nat) {f : TaskEntry → TaskEntry}
    (hf : ∀ e, (f e).driver = e.driver) : (s.modifyTask t f).drivers = s.drivers := by
  apply List.ext_getElem?
  intro i
  simp only [drivers, modifyTask, List.getElem?_map, List.getElem?_modify]
  cases s.tasks[i]? with
  | none => rfl
  | some e =>
      by_cases hi : t = i
      · simp [hi, hf]
      · simp [hi]

/-! ## The outputs of a move -/

end Network

/-- The locks after what a task has done in one move, if it has the given gate. -/
def LockService.afterOutputs (locks : LockService) (gate : Option Nat) (outputs : List Output) :
    LockService :=
  outputs.foldl
    (fun locks o =>
      match o with
      | .unlock => gate.elim locks locks.unlock
      | _ => locks)
    locks

namespace Network

section Outputs

variable (s : Network) (e : TaskEntry) (c : Connection) (outputs : List Output)

theorem performAll_cons (o : Output) :
    s.performAll e c (o :: outputs) = (s.perform e c o).performAll e c outputs := rfl

/-- A call of a sink is about the sinks only. -/
theorem exists_perform_call (call : SinkCall) :
    ∃ recorders caches, s.perform e c (.call call) = { s with recorders, caches } := by
  unfold perform callSink
  cases c.sink with
  | recorder id => exact ⟨_, s.caches, rfl⟩
  | cache id => exact ⟨s.recorders, _, rfl⟩

/-- What no output changes, a whole move leaves alone. -/
theorem performAll_frame {α : Type} (f : Network → α)
    (hf : ∀ s o, f (perform s e c o) = f s) : f (s.performAll e c outputs) = f s := by
  induction outputs generalizing s with
  | nil => rfl
  | cons o rest ih => rw [performAll_cons, ih, hf]

theorem performAll_tasks : (s.performAll e c outputs).tasks = s.tasks := by
  apply performAll_frame (f := Network.tasks)
  intro s o
  cases o with
  | call call =>
      obtain ⟨_, _, heq⟩ := exists_perform_call s e c call
      rw [heq]
  | _ => rfl

theorem performAll_connections : (s.performAll e c outputs).connections = s.connections := by
  apply performAll_frame (f := Network.connections)
  intro s o
  cases o with
  | call call =>
      obtain ⟨_, _, heq⟩ := exists_perform_call s e c call
      rw [heq]
  | _ => rfl

theorem performAll_locks :
    (s.performAll e c outputs).locks = s.locks.afterOutputs e.gate outputs := by
  induction outputs generalizing s with
  | nil => rfl
  | cons o rest ih =>
      rw [performAll_cons, ih, LockService.afterOutputs, LockService.afterOutputs, List.foldl_cons]
      congr 1
      cases o with
      | call call =>
          obtain ⟨_, _, heq⟩ := exists_perform_call s e c call
          rw [heq]
      | _ => rfl

theorem linksLater_performAll : LinksLater s.links (s.performAll e c outputs).links := by
  induction outputs generalizing s with
  | nil => exact .refl _
  | cons o rest ih =>
      refine LinksLater.trans ?_ (ih (s.perform e c o))
      cases o with
      | call call =>
          obtain ⟨_, _, heq⟩ := exists_perform_call s e c call
          rw [heq]
          exact .refl _
      | closeLink l => exact .modify _ _ Link.later_close
      | dropLink l => exact .modify _ _ Link.later_dropReader
      | _ => exact .refl _

end Outputs

end Network

/-! ## Answers -/

/-- How a network can answer what a driver asks: the reply, and the locks and links after it. -/
inductive Answer (s : Network) (d : Driver) : Reply → LockService → List Link → Prop
  /-- The lock was tried. -/
  | lock {gate : Nat} : d.task.point = .takingLock → d.gate = some gate →
      Answer s d (if (s.locks.tryAcquire gate).1 then .granted else .denied)
        (s.locks.tryAcquire gate).2 s.links
  /-- The dial has given a new link. -/
  | opened {query : Query} {due giveUp : Nat} : d.task.point = .dialing query due giveUp →
      Answer s d (.opened s.links.length) s.locks (s.links ++ [({} : Link)])
  /-- The next event of the link was read. -/
  | event {l : Nat} {k k' : Link} {e : StreamEvent} {refuses : Notification → Bool} :
      d.task.point = .streaming l → s.links[l]? = some k → k.next? = some (e, k') →
      Answer s d (.event e refuses) s.locks (s.links.set l k')
  /-- Nothing else touches the locks or the links. -/
  | other {reply : Reply} : (d.task.point = .takingLock → reply = .denied) →
      (∀ l, reply ≠ .opened l) → (∀ e refuses, reply ≠ .event e refuses) →
      Answer s d reply s.locks s.links

namespace Network

section Answers

variable {s answered : Network} {e : TaskEntry} {c : Connection} {reply : Reply}

/-- To answer a task changes the pools, the locks, the links and the device at most, and the pools
only if it asks for a slot. -/
theorem exists_answered (h : s.reply? e c = some (reply, answered)) :
    ∃ pools locks links device, answered = { s with pools, locks, links, device } ∧
      (e.task.point.ask ≠ .slot → pools = s.pools) := by
  unfold reply? at h
  cases hask : e.task.point.ask with
  | slot =>
      simp only [hask] at h
      cases h
      exact ⟨_, _, _, _, rfl, fun hother => absurd rfl hother⟩
  | lock =>
      simp only [hask] at h
      split at h <;> cases h <;> exact ⟨_, _, _, _, rfl, fun _ => rfl⟩
  | dial q due giveUp =>
      simp only [hask] at h
      split at h
      · split at h <;> cases h <;> exact ⟨_, _, _, _, rfl, fun _ => rfl⟩
      · split at h
        · cases h
          exact ⟨_, _, _, _, rfl, fun _ => rfl⟩
        · split at h <;> cases h
          exact ⟨_, _, _, _, rfl, fun _ => rfl⟩
  | event l =>
      simp only [hask] at h
      obtain ⟨_, -, hread⟩ := Option.map_eq_some_iff.mp h
      cases hread
      exact ⟨_, _, _, _, rfl, fun _ => rfl⟩
  | wake time =>
      simp only [hask] at h
      split at h <;> cases h
      exact ⟨_, _, _, _, rfl, fun _ => rfl⟩
  | _ =>
      simp only [hask] at h
      cases h <;> exact ⟨_, _, _, _, rfl, fun _ => rfl⟩

theorem reply?_frame (h : s.reply? e c = some (reply, answered)) :
    answered.tasks = s.tasks ∧ answered.connections = s.connections ∧
      answered.recorders = s.recorders ∧ answered.caches = s.caches := by
  obtain ⟨_, _, _, _, rfl, -⟩ := exists_answered h
  exact ⟨rfl, rfl, rfl, rfl⟩

theorem answer_of_reply? (h : s.reply? e c = some (reply, answered)) :
    Answer s e.driver reply answered.locks answered.links := by
  unfold reply? at h
  -- by the point, which says more than the question that is asked at it
  cases hpoint : e.task.point with
  | takingSlot =>
      simp only [hpoint, Point.ask, takeSlot] at h
      cases h
      exact .other (by simp [TaskEntry.driver, hpoint]) (by grind) (by grind)
  | takingLock =>
      simp only [hpoint, Point.ask] at h
      cases hgate : e.gate with
      | none =>
          simp only [hgate] at h
          cases h
          exact .other (by simp) (by simp) (by simp)
      | some gate =>
          simp only [hgate] at h
          cases h
          exact .lock hpoint hgate
  | dialing q due giveUp =>
      simp only [hpoint, Point.ask] at h
      split at h
      · split at h <;> cases h
        · exact .opened hpoint
        · exact .other (by simp [TaskEntry.driver, hpoint]) (by simp) (by simp)
      · split at h
        · cases h
          exact .other (by simp [TaskEntry.driver, hpoint]) (by simp) (by simp)
        · split at h <;> cases h
          exact .other (by simp [TaskEntry.driver, hpoint]) (by simp) (by simp)
  | streaming l =>
      simp only [hpoint, Point.ask] at h
      obtain ⟨⟨event, k'⟩, hread, hreply⟩ := Option.map_eq_some_iff.mp h
      obtain ⟨k, hk, hnext⟩ := Option.bind_eq_some_iff.mp hread
      cases hreply
      exact .event hpoint hk hnext
  | resting time =>
      simp only [hpoint, Point.ask] at h
      split at h <;> cases h
      exact .other (by simp [TaskEntry.driver, hpoint]) (by simp) (by simp)
  | finished => simp [hpoint, Point.ask] at h
  | _ =>
      simp only [hpoint, Point.ask] at h
      cases h
      exact .other (by simp [TaskEntry.driver, hpoint]) (by simp) (by simp)

end Answers

end Network

/-! ## Effects -/

/-- A connection after a request to stop. -/
def Connection.stop (c : Connection) : Connection := { c with phase := c.phase.stop.phase }

/-- What an act can do to a network, with what the connections hand to their sinks in it. -/
inductive Effect (s : Network) (a : Act) (s' : Network) : List Handover → Prop
  /-- No connection notices. -/
  | quiet : s'.drivers = s.drivers → s'.connections = s.connections → s'.locks = s.locks →
      LinksLater s.links s'.links → Effect s a s' []
  /-- A connection is stopped. -/
  | stop {c : Nat} : s'.connections = s.connections.modify c Connection.stop →
      s'.drivers = s.drivers → s'.locks = s.locks → LinksLater s.links s'.links → Effect s a s' []
  /-- A connection is made. -/
  | connection {conn : Connection} : a = .connection conn → s.hasSink conn.sink = true →
      s'.connections = s.connections ++ [conn.fresh] →
      s'.drivers = s.drivers → s'.locks = s.locks → s'.links = s.links → Effect s a s' []
  /-- An acquisition loop is started. -/
  | loop {c : Nat} {conn : Connection} : s.connections[c]? = some conn →
      s'.drivers = s.drivers ++ [⟨c, some (s.locks.gate conn.name).1, .loop⟩] →
      s'.locks = (s.locks.gate conn.name).2 →
      s'.connections = s.connections → s'.links = s.links → Effect s a s' []
  /-- A task makes a move. -/
  | move {t : Nat} {d : Driver} {conn : Connection} {reply : Reply} {locks : LockService}
      {links : List Link} : s.drivers[t]? = some d → s.connections[d.connection]? = some conn →
      Answer s d reply locks links →
      s'.drivers = s.drivers.set t { d with task := (d.task.resume conn reply).task } →
      s'.connections = s.connections.set d.connection (d.task.resume conn reply).connection →
      s'.locks = locks.afterOutputs d.gate (d.task.resume conn reply).outputs →
      LinksLater links s'.links →
      Effect s a s'
        (Handover.ofCalls d.connection conn.sink
          (Output.calls (d.task.resume conn reply).outputs))

/-- A task that is taken away has nothing any more. -/
def Task.taken (t : Task) : Task :=
  { t with hasSlot := false, hasLock := false, point := .finished .aborted }

namespace Network

theorem foldl_report (s : Network) (name : String) (occurrences : List Occurrence) :
    occurrences.foldl (fun s o => s.report name o) s =
      { s with journal := s.journal ++ occurrences.map (⟨name, ·⟩) } := by
  induction occurrences generalizing s with
  | nil => simp
  | cons o rest ih =>
      rw [List.foldl_cons, ih]
      simp [report]

theorem effect_touchLink (a : Act) (s : Network) (l : Nat) {f : Link → Link}
    (hf : ∀ k : Link, k.Later (f k)) : Effect s a (s.touchLink l f) [] :=
  .quiet rfl rfl rfl (.modify _ _ hf)

/-- A request to stop changes the phase of the connection; beside that tasks are signalled and
woken, links are closed, and the journal grows. -/
theorem exists_disconnect (s : Network) (c : Nat) :
    ∃ tasks ready parked journal links,
      s.disconnect c = { s with
        connections := s.connections.modify c Connection.stop
        tasks, ready, parked, journal, links } ∧
      (∀ {α : Type} (f : TaskEntry → α), (∀ e, f { e with signalled := true } = f e) →
        tasks.map f = s.tasks.map f) ∧
      LinksLater s.links links := by
  unfold disconnect
  cases hconn : s.connections[c]? with
  | none =>
      have hsame : s.connections.modify c Connection.stop = s.connections := by
        apply List.ext_getElem?
        intro i
        by_cases hi : c = i
        · subst hi
          simp [hconn]
        · simp [hi]
      exact ⟨s.tasks, s.ready, s.parked, s.journal, s.links, by rw [hsame], fun _ _ => rfl, .refl _⟩
  | some conn =>
      -- the new phase comes from the connection that was looked up, and that one is changed
      have hstop : s.connections.modify c
          (fun conn' => { conn' with phase := conn.phase.stop.phase }) =
            s.connections.modify c Connection.stop := by
        apply List.ext_getElem?
        intro i
        by_cases hi : c = i
        · subst hi
          simp [hconn, Connection.stop]
        · simp [hi]
      have hmap (hears : TaskEntry → Bool) {α : Type} (f : TaskEntry → α)
          (hf : ∀ e, f { e with signalled := true } = f e) :
          (s.tasks.map fun e => if hears e then { e with signalled := true } else e).map f =
            s.tasks.map f := by
        rw [List.map_map]
        congr 1
        funext e
        cases h : hears e <;> simp [h, hf]
      rw [← hstop]
      simp only [foldl_report]
      cases conn.client with
      | none => exact ⟨_, _, _, _, _, rfl, hmap _, .refl _⟩
      | some l => exact ⟨_, _, _, _, _, rfl, hmap _, .modify _ _ Link.later_close⟩

theorem drivers_disconnect (s : Network) (c : Nat) : (s.disconnect c).drivers = s.drivers := by
  obtain ⟨tasks, ready, parked, journal, links, heq, htasks, -⟩ := s.exists_disconnect c
  rw [heq]
  exact htasks _ fun _ => rfl

theorem connections_disconnect (s : Network) (c : Nat) :
    (s.disconnect c).connections = s.connections.modify c Connection.stop := by
  obtain ⟨tasks, ready, parked, journal, links, heq, -⟩ := s.exists_disconnect c
  rw [heq]

/-- A request to stop is not about locks and sinks. -/
theorem disconnect_frame (s : Network) (c : Nat) : (s.disconnect c).locks = s.locks ∧
    (s.disconnect c).recorders = s.recorders ∧ (s.disconnect c).caches = s.caches := by
  obtain ⟨tasks, ready, parked, journal, links, heq, -⟩ := s.exists_disconnect c
  rw [heq]
  exact ⟨rfl, rfl, rfl⟩

theorem linksLater_disconnect (s : Network) (c : Nat) :
    LinksLater s.links (s.disconnect c).links := by
  obtain ⟨tasks, ready, parked, journal, links, heq, -, hlinks⟩ := s.exists_disconnect c
  rwa [heq]

theorem effect_disconnect (a : Act) (s : Network) (c : Nat) : Effect s a (s.disconnect c) [] :=
  .stop (connections_disconnect s c) (drivers_disconnect s c) (disconnect_frame s c).1
    (linksLater_disconnect s c)

/-- When a task is taken away, its slot goes back to its pool and its gate gives the lock back, and
nobody reads its link any more. -/
theorem destroy_eq {s : Network} {t : Nat} {e : TaskEntry} (he : s.tasks[t]? = some e) :
    s.destroy t = { s with
      tasks := s.tasks.modify t fun e => { e with task := e.task.taken }
      pools := if e.task.hasSlot then s.pools.modify e.pool SlotPool.release else s.pools
      locks := e.gate.elim s.locks s.locks.unlock
      links := e.task.point.link?.elim s.links fun l => s.links.modify l Link.dropReader } := by
  simp only [destroy, he]
  cases e.task.point.link? <;> cases e.task.hasSlot <;> rfl

theorem exists_destroy (s : Network) (t : Nat) :
    ∃ tasks pools locks links, s.destroy t = { s with tasks, pools, locks, links } ∧
      (links = s.links ∨ ∃ l, links = s.links.modify l Link.dropReader) := by
  cases he : s.tasks[t]? with
  | none => exact ⟨_, _, _, _, by rw [destroy, he], .inl rfl⟩
  | some e =>
      refine ⟨_, _, _, _, destroy_eq he, ?_⟩
      cases e.task.point.link? with
      | none => exact .inl rfl
      | some l => exact .inr ⟨l, rfl⟩

theorem connections_destroy (s : Network) (t : Nat) :
    (s.destroy t).connections = s.connections := by
  obtain ⟨_, _, _, _, heq, -⟩ := s.exists_destroy t
  rw [heq]

theorem effect_reconnect (a : Act) (s : Network) (c : Nat) : Effect s a (s.reconnect c) [] := by
  unfold reconnect
  split
  · exact .quiet rfl rfl rfl (.refl _)
  · split
    · exact .quiet rfl rfl rfl (.refl _)
    · exact .quiet rfl rfl rfl (.modify _ _ Link.later_close)

theorem effect_step (s : Network) (t : Nat) :
    Effect s (.step t) (s.after (.step t)) (s.handovers (.step t)) := by
  show Effect s _ ((s.step t).getD s) (((s.nextMove? t).map NextMove.handovers).getD [])
  rw [step_eq]
  cases hmove : s.nextMove? t with
  | none => exact .quiet rfl rfl rfl (.refl _)
  | some m =>
      obtain ⟨he, hc, reply, hreply, hm⟩ := nextMove?_eq_some hmove
      obtain ⟨htasks, hconnections, -, -⟩ := reply?_frame hreply
      have hd := getElem?_drivers he
      simp only [Option.map_some, Option.getD_some, NextMove.handovers, hm]
      refine .move hd hc (answer_of_reply? hreply) ?_ ?_ (performAll_locks (m.noted t) _ _ _)
        (linksLater_performAll (m.noted t) _ _ _)
      · rw [drivers, performAll_tasks, NextMove.noted, htasks, drivers, List.map_set, hm]
        rfl
      · rw [performAll_connections, NextMove.noted, hconnections, hm]
        rfl

/-- Every act by which the loops come to their ends has one of these effects. -/
theorem after_effect (s : Network) (a : Act) (ha : a.byLoops = true) :
    Effect s a (s.after a) (s.handovers a) := by
  have hquiet : Effect s a s [] := .quiet rfl rfl rfl (.refl _)
  cases a with
  | connection conn =>
      by_cases hsink : s.hasSink conn.sink = true
      · rw [after, if_pos hsink]
        exact .connection rfl hsink rfl rfl rfl rfl
      · rw [after, if_neg hsink]
        exact hquiet
  | loop c p =>
      by_cases hc : c < s.connections.length
      · rw [after, if_pos hc]
        have hconn := List.getElem?_eq_getElem hc
        refine .loop hconn ?_ ?_ rfl rfl
        · simp [drivers, spawn, addTask, hconn, TaskEntry.driver]
        · simp [spawn, addTask, hconn]
      · rw [after, if_neg hc]
        exact hquiet
  | step t => exact effect_step s t
  | disconnect c => exact effect_disconnect _ s c
  | reconnect c => exact effect_reconnect _ s c
  | abort t =>
      exact .quiet (drivers_modifyTask s t fun _ => rfl) rfl rfl (.refl _)
  | send l e => exact effect_touchLink _ s l fun k => k.later_push e
  | dropSender l => exact effect_touchLink _ s l Link.later_dropSender
  | attempt _ => cases ha
  | destroy _ => cases ha
  | _ => exact .quiet rfl rfl rfl (.refl _)

end Network

/-! ### What stays -/

namespace Effect

variable {s s' : Network} {a : Act} {handovers : List Handover}

/-- A connection keeps its number and all that nothing in its life can change. -/
theorem exists_after (h : Effect s a s' handovers) {c : Nat} {conn : Connection}
    (hconn : s.connections[c]? = some conn) :
    ∃ conn' : Connection, s'.connections[c]? = some conn' ∧ conn'.fresh = conn.fresh := by
  cases h with
  | quiet _ hconnections => exact ⟨conn, by rwa [hconnections], rfl⟩
  | stop hconnections =>
      refine ⟨_, by rw [hconnections, List.getElem?_modify, hconn]; rfl, ?_⟩
      split <;> rfl
  | connection _ _ hconnections =>
      exact ⟨conn, by rw [hconnections, getElem?_concat_of_getElem? hconn], rfl⟩
  | loop _ _ _ hconnections => exact ⟨conn, by rwa [hconnections], rfl⟩
  | @move t d mover _ _ _ _ hmover _ _ hconnections =>
      rw [hconnections]
      by_cases hc : d.connection = c
      · subst hc
        rw [hconn] at hmover
        cases hmover
        exact ⟨_, getElem?_set_of_getElem? hconn, Task.fresh_resume _⟩
      · exact ⟨conn, by rw [List.getElem?_set_ne hc, hconn], rfl⟩

/-- A connection was there before, or it has just been made. -/
theorem exists_before (h : Effect s a s' handovers) {c : Nat} {conn' : Connection}
    (hconn' : s'.connections[c]? = some conn') :
    (∃ conn : Connection, s.connections[c]? = some conn ∧ conn'.fresh = conn.fresh) ∨
      (∃ conn : Connection, a = .connection conn ∧ s.hasSink conn.sink = true ∧
        conn' = conn.fresh) := by
  cases hconn : s.connections[c]? with
  | some conn =>
      obtain ⟨same, hsame, hfresh⟩ := h.exists_after hconn
      rw [hconn'] at hsame
      cases hsame
      exact .inl ⟨conn, rfl, hfresh⟩
  | none =>
      right
      cases h with
      | quiet _ hconnections => simp [hconnections, hconn] at hconn'
      | stop hconnections => simp [hconnections, List.getElem?_modify, hconn] at hconn'
      | connection hact hsink hconnections =>
          rw [hconnections] at hconn'
          rcases of_getElem?_concat hconn' with hold | ⟨-, rfl⟩
          · rw [hconn] at hold
            cases hold
          · exact ⟨_, hact, hsink, rfl⟩
      | loop _ _ _ hconnections => simp [hconnections, hconn] at hconn'
      | move _ hmover _ _ hconnections =>
          rw [hconnections] at hconn'
          rcases of_getElem?_set hconn' with ⟨rfl, -⟩ | ⟨-, hold⟩
          · rw [hmover] at hconn
            cases hconn
          · rw [hconn] at hold
            cases hold

/-- Whatever is handed over comes from a connection and goes to its sink. -/
theorem origin (h : Effect s a s' handovers) : ∀ handover ∈ handovers,
    ∃ conn : Connection, s.connections[handover.connection]? = some conn ∧
      conn.sink = handover.sink := by
  cases h with
  | move _ hconn =>
      intro handover hmem
      obtain ⟨call, -, rfl⟩ := List.mem_map.mp hmem
      exact ⟨_, hconn, rfl⟩
  | _ => simp

end Effect

end TelemetryGateway
