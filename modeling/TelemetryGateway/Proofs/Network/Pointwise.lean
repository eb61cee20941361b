import TelemetryGateway.Proofs.Network.Effect

/-!
# What an act does to one thing

An `Effect` says what an act by which the loops come to their ends does to a network as a whole.
Here every act is looked at, also a single attempt to connect and the removal of a task, but only
what it does to one task, to one connection or to one link.

* `Network.driverAfter`: a task is what it was unless it moves or is taken away;
* `Network.exists_connectionAfter`: a connection changes in the moves of its own tasks and when it
  is stopped;
* `Network.exists_linkAfter`: only its reader takes something from a link;
* `Network.callsOf_handovers`: only its own tasks hand something over for a connection.
-/

namespace TelemetryGateway

/-! ## Outputs and links -/

/-- What a task does to the link of a number. -/
def Link.perform (l : Nat) (k : Link) : Output → Link
  | .closeLink l' => if l' = l then k.close else k
  | .dropLink l' => if l' = l then k.dropReader else k
  | _ => k

theorem Link.foldl_perform_of_notMem {k : Link} {l : Nat} {outputs : List Output}
    (hclose : .closeLink l ∉ outputs) (hdrop : .dropLink l ∉ outputs) :
    outputs.foldl (Link.perform l) k = k := by
  induction outputs with
  | nil => rfl
  | cons o rest ih =>
      have hsame : k.perform l o = k := by
        cases o with
        | closeLink l' => exact if_neg fun h => hclose (by rw [h]; exact List.mem_cons_self)
        | dropLink l' => exact if_neg fun h => hdrop (by rw [h]; exact List.mem_cons_self)
        | _ => rfl
      rw [List.foldl_cons, hsame]
      exact ih (fun h => hclose (List.mem_cons_of_mem _ h))
        fun h => hdrop (List.mem_cons_of_mem _ h)

/-- A task touches no link but the one that it reads. -/
theorem Task.link?_eq_of_mem_outputs {t : Task} {c : Connection} {reply : Reply} {l : Nat} :
    .closeLink l ∈ (t.resume c reply).outputs ∨ .dropLink l ∈ (t.resume c reply).outputs →
      t.point.link? = some l := by
  fun_cases Task.resume t c reply
  all_goals simp_all +zetaDelta [giveUp, Reaction.outputs, Point.link?]
  -- a message has arrived
  split <;> simp_all

namespace Network

variable {s : Network} {a : Act}

theorem getElem?_links_performAll (s : Network) (e : TaskEntry) (c : Connection)
    (outputs : List Output) (l : Nat) :
    (s.performAll e c outputs).links[l]? =
      (s.links[l]?).map fun k => outputs.foldl (Link.perform l) k := by
  induction outputs generalizing s with
  | nil => simp [performAll]
  | cons o rest ih =>
      have hone : (s.perform e c o).links[l]? = (s.links[l]?).map fun k => k.perform l o := by
        cases o with
        | call call =>
            obtain ⟨_, _, heq⟩ := exists_perform_call s e c call
            simp [heq, Link.perform]
        | closeLink l' =>
            by_cases hl : l' = l <;>
              simp [perform, touchLink, modifyLink, wakeWhere, hl, Link.perform]
        | dropLink l' => by_cases hl : l' = l <;> simp [perform, modifyLink, hl, Link.perform]
        | _ => simp [perform, report, freeSlot, Link.perform]
      rw [performAll_cons, ih, hone, Option.map_map]
      rfl

/-! ## The move of a task -/

/-- What a move is made of, as far as one step changes the network. -/
theorem step_eq_some {t : Nat} {m : NextMove} (h : s.nextMove? t = some m) :
    s.step t = some ((m.noted t).performAll m.entry m.connection m.move.outputs) := by
  rw [step_eq, h]
  rfl

theorem tasks_after_step {t : Nat} {m : NextMove} (h : s.nextMove? t = some m) :
    (s.after (.step t)).tasks = s.tasks.set t { m.entry with
      task := m.move.task
      signalled := m.entry.signalled && m.move.task.point.isArmed } := by
  obtain ⟨-, -, reply, hreply, -⟩ := nextMove?_eq_some h
  rw [after, step_eq_some h, Option.getD_some, performAll_tasks, NextMove.noted,
    (reply?_frame hreply).1]

theorem connections_after_step {t : Nat} {m : NextMove} (h : s.nextMove? t = some m) :
    (s.after (.step t)).connections = s.connections.set m.entry.connection m.move.connection := by
  obtain ⟨-, -, reply, hreply, -⟩ := nextMove?_eq_some h
  rw [after, step_eq_some h, Option.getD_some, performAll_connections, NextMove.noted,
    (reply?_frame hreply).2.1]

theorem link_after_step {t : Nat} {m : NextMove} (h : s.nextMove? t = some m) (l : Nat) :
    (s.after (.step t)).links[l]? =
      (m.answered.links[l]?).map fun k => m.move.outputs.foldl (Link.perform l) k := by
  rw [after, step_eq_some h, Option.getD_some, getElem?_links_performAll]
  rfl

theorem drivers_after_step {t : Nat} {m : NextMove} (h : s.nextMove? t = some m) :
    (s.after (.step t)).drivers = s.drivers.set t { m.entry.driver with task := m.move.task } := by
  rw [drivers, tasks_after_step h, List.map_set]
  rfl

theorem driver_after_step {t : Nat} {m : NextMove} (h : s.nextMove? t = some m) :
    (s.after (.step t)).drivers[t]? = some { m.entry.driver with task := m.move.task } := by
  rw [drivers_after_step h, getElem?_set_of_getElem? (getElem?_drivers (nextMove?_eq_some h).1)]

theorem connection_after_step {t : Nat} {m : NextMove} (h : s.nextMove? t = some m) :
    (s.after (.step t)).connections[m.entry.connection]? = some m.move.connection := by
  rw [connections_after_step h, getElem?_set_of_getElem? (nextMove?_eq_some h).2.1]

theorem callsOf_handovers_step {t : Nat} {m : NextMove} (h : s.nextMove? t = some m) :
    Handover.callsOf m.entry.connection (s.handovers (.step t)) = Output.calls m.move.outputs := by
  have hhandovers : s.handovers (.step t) = m.handovers := by simp [handovers, h]
  rw [hhandovers, NextMove.handovers, Handover.callsOf_ofCalls_self]

/-- A task that has to wait, or is over, changes nothing. -/
theorem after_step_of_none {t : Nat} (h : s.nextMove? t = none) : s.after (.step t) = s := by
  rw [after, step_eq, h]
  rfl

/-! ## One task -/

/-- What can become of a task in an act. -/
inductive DriverAfter (s : Network) (a : Act) (t : Nat) : Driver → Prop
  | same {d : Driver} : s.drivers[t]? = some d → (a = .step t → s.nextMove? t = none) →
      a ≠ .destroy t → DriverAfter s a t d
  | move {m : NextMove} : a = .step t → s.nextMove? t = some m →
      DriverAfter s a t { m.entry.driver with task := m.move.task }
  | taken {d : Driver} : a = .destroy t → s.drivers[t]? = some d →
      DriverAfter s a t { d with task := d.task.taken }
  | loop {c : Nat} {conn : Connection} : s.drivers.length = t → s.connections[c]? = some conn →
      DriverAfter s a t ⟨c, some (s.locks.gate conn.name).1, .loop⟩
  | attempt {c : Nat} {conn : Connection} : s.drivers.length = t →
      s.connections[c]? = some conn → DriverAfter s a t ⟨c, none, .attempt⟩

theorem drivers_reconnect (s : Network) (c : Nat) : (s.reconnect c).drivers = s.drivers := by
  unfold reconnect
  split
  · rfl
  · split <;> rfl

theorem tasks_destroy {t : Nat} {e : TaskEntry} (he : s.tasks[t]? = some e) :
    (s.destroy t).tasks = s.tasks.modify t fun e => { e with task := e.task.taken } := by
  rw [destroy_eq he]

/-- A task is what it was, or it has moved or was taken away, or it is new. -/
theorem driverAfter {t : Nat} {d : Driver} (h : (s.after a).drivers[t]? = some d) :
    DriverAfter s a t d := by
  cases a with
  | step u =>
      cases hmove : s.nextMove? u with
      | none =>
          rw [after_step_of_none hmove] at h
          exact .same h (fun hact => by cases hact; exact hmove) (by simp)
      | some m =>
          rw [drivers_after_step hmove] at h
          rcases of_getElem?_set h with ⟨rfl, rfl⟩ | ⟨hne, hold⟩
          · exact .move rfl hmove
          · exact .same hold (fun hact => by cases hact; exact absurd rfl hne) (by simp)
  | loop c p =>
      by_cases hc : c < s.connections.length
      · have hconn := List.getElem?_eq_getElem hc
        have hdrivers : (s.after (.loop c p)).drivers =
            s.drivers ++ [⟨c, some (s.locks.gate s.connections[c].name).1, .loop⟩] := by
          simp [after, hc, drivers, spawn, addTask, TaskEntry.driver]
        rw [hdrivers] at h
        rcases of_getElem?_concat h with hold | ⟨ht, rfl⟩
        · exact .same hold (by simp) (by simp)
        · exact .loop ht.symm hconn
      · rw [after, if_neg hc] at h
        exact .same h (by simp) (by simp)
  | attempt c =>
      by_cases hc : c < s.connections.length
      · have hdrivers : (s.after (.attempt c)).drivers = s.drivers ++ [⟨c, none, .attempt⟩] := by
          simp [after, hc, drivers, connect, addTask, TaskEntry.driver]
        rw [hdrivers] at h
        rcases of_getElem?_concat h with hold | ⟨ht, rfl⟩
        · exact .same hold (by simp) (by simp)
        · exact .attempt ht.symm (List.getElem?_eq_getElem hc)
      · rw [after, if_neg hc] at h
        exact .same h (by simp) (by simp)
  | destroy u =>
      cases he : s.tasks[u]? with
      | none =>
          rw [after, destroy, he] at h
          refine .same h (by simp) fun hact => ?_
          cases hact
          rw [drivers, List.getElem?_map, he] at h
          cases h
      | some e =>
          rw [after, drivers, tasks_destroy he, List.getElem?_map, List.getElem?_modify] at h
          by_cases hu : u = t
          · subst hu
            rw [he] at h
            simp only [if_true, Option.map_eq_map, Option.map_some, Option.some.injEq] at h
            subst h
            exact .taken rfl (getElem?_drivers he)
          · refine .same ?_ (by simp) fun hact => hu (by cases hact; rfl)
            rw [drivers, List.getElem?_map]
            simpa [hu] using h
  | connection conn =>
      rw [after] at h
      split at h <;> exact .same h (by simp) (by simp)
  | disconnect c =>
      rw [after, drivers_disconnect] at h
      exact .same h (by simp) (by simp)
  | reconnect c =>
      rw [after, drivers_reconnect] at h
      exact .same h (by simp) (by simp)
  | abort u =>
      have hdrivers : (s.after (.abort u)).drivers = s.drivers :=
        drivers_modifyTask s u fun _ => rfl
      rw [hdrivers] at h
      exact .same h (by simp) (by simp)
  | _ => exact .same h (by simp) (by simp)

theorem length_tasks_le_after (s : Network) (a : Act) :
    s.tasks.length ≤ (s.after a).tasks.length := by
  cases a with
  | step t =>
      cases hmove : s.nextMove? t with
      | none => exact Nat.le_of_eq (by rw [after_step_of_none hmove])
      | some m => exact Nat.le_of_eq (by rw [tasks_after_step hmove, List.length_set])
  | loop c p =>
      rw [after]
      split <;> simp [spawn, addTask]
  | attempt c =>
      rw [after]
      split <;> simp [connect, addTask]
  | destroy t =>
      cases he : s.tasks[t]? with
      | none => simp [after, destroy, he]
      | some e => exact Nat.le_of_eq (by rw [after, tasks_destroy he, List.length_modify])
  | connection conn =>
      rw [after]
      split <;> exact Nat.le_refl _
  | disconnect c =>
      have h := congrArg List.length (drivers_disconnect s c)
      rw [drivers, drivers, List.length_map, List.length_map] at h
      exact Nat.le_of_eq h.symm
  | reconnect c =>
      have h := congrArg List.length (drivers_reconnect s c)
      rw [drivers, drivers, List.length_map, List.length_map] at h
      exact Nat.le_of_eq h.symm
  | abort t => simp [after, abort, modifyTask]
  | _ => exact Nat.le_refl _

/-- A task keeps its number and its connection. -/
theorem exists_driver_after {t : Nat} {d : Driver} (h : s.drivers[t]? = some d) :
    ∃ d' : Driver, (s.after a).drivers[t]? = some d' ∧ d'.connection = d.connection := by
  have hlt : t < s.drivers.length := (List.getElem?_eq_some_iff.mp h).1
  have hlt' : t < (s.after a).drivers.length := by
    rw [drivers, List.length_map] at hlt ⊢
    exact Nat.lt_of_lt_of_le hlt (length_tasks_le_after s a)
  obtain ⟨d', hd'⟩ : ∃ d', (s.after a).drivers[t]? = some d' :=
    ⟨_, List.getElem?_eq_getElem hlt'⟩
  refine ⟨d', hd', ?_⟩
  cases driverAfter hd' with
  | same hold =>
      rw [h] at hold
      cases hold
      rfl
  | move _ hmove =>
      have hentry := getElem?_drivers (nextMove?_eq_some hmove).1
      rw [h] at hentry
      cases hentry
      rfl
  | taken _ hold =>
      rw [h] at hold
      cases hold
      rfl
  | loop ht => omega
  | attempt ht => omega

/-- A task that was there and does not move is where it was. -/
theorem driver_after_of_ne {t : Nat} {d : Driver} (hd : s.drivers[t]? = some d)
    (hstep : a ≠ .step t) (hdestroy : a ≠ .destroy t) : (s.after a).drivers[t]? = some d := by
  obtain ⟨d', hd', -⟩ := exists_driver_after (a := a) hd
  rw [hd']
  have hlt := (List.getElem?_eq_some_iff.mp hd).1
  cases driverAfter hd' with
  | same hold => exact hold.symm.trans hd
  | move hact => exact absurd hact hstep
  | taken hact => exact absurd hact hdestroy
  | loop ht => omega
  | attempt ht => omega

/-! ## One connection -/

/-- What can become of a connection in an act. -/
inductive ConnectionAfter (s : Network) (a : Act) (c : Nat) (conn : Connection) : Connection → Prop
  | same : (∀ t, a = .step t → ∀ m, s.nextMove? t = some m → m.entry.connection ≠ c) →
      ConnectionAfter s a c conn conn
  | stop : a = .disconnect c → ConnectionAfter s a c conn conn.stop
  | move {t : Nat} {m : NextMove} : a = .step t → s.nextMove? t = some m →
      m.entry.connection = c → ConnectionAfter s a c conn m.move.connection

/-- A connection is what it was, or it was stopped, or one of its tasks has moved. -/
theorem exists_connectionAfter {c : Nat} {conn : Connection} (h : s.connections[c]? = some conn) :
    ∃ conn' : Connection, (s.after a).connections[c]? = some conn' ∧
      ConnectionAfter s a c conn conn' := by
  cases a with
  | step t =>
      cases hmove : s.nextMove? t with
      | none =>
          rw [after_step_of_none hmove]
          exact ⟨conn, h, .same fun t' hact m hm => by cases hact; simp [hmove] at hm⟩
      | some m =>
          rw [connections_after_step hmove]
          by_cases hc : m.entry.connection = c
          · subst hc
            exact ⟨_, getElem?_set_of_getElem? h, .move rfl hmove rfl⟩
          · refine ⟨conn, by rw [List.getElem?_set_ne hc, h], .same fun t' hact m' hm' => ?_⟩
            cases hact
            rw [hmove] at hm'
            cases hm'
            exact hc
  | disconnect c' =>
      rw [after, connections_disconnect, List.getElem?_modify, h]
      by_cases hc : c' = c
      · subst hc
        exact ⟨conn.stop, by simp, .stop rfl⟩
      · exact ⟨conn, by simp [hc], .same (by simp)⟩
  | connection new =>
      rw [after]
      split
      · exact ⟨conn, getElem?_concat_of_getElem? h, .same (by simp)⟩
      · exact ⟨conn, h, .same (by simp)⟩
  | loop c' p =>
      rw [after]
      split <;> exact ⟨conn, h, .same (by simp)⟩
  | attempt c' =>
      rw [after]
      split <;> exact ⟨conn, h, .same (by simp)⟩
  | reconnect c' =>
      refine ⟨conn, ?_, .same (by simp)⟩
      rw [after, reconnect]
      split
      · exact h
      · split <;> exact h
  | destroy t => exact ⟨conn, by rw [after, connections_destroy, h], .same (by simp)⟩
  | _ => exact ⟨conn, h, .same (by simp)⟩

theorem connectionAfter {c : Nat} {conn conn' : Connection} (h : s.connections[c]? = some conn)
    (h' : (s.after a).connections[c]? = some conn') : ConnectionAfter s a c conn conn' := by
  obtain ⟨same, hsame, hchange⟩ := exists_connectionAfter (a := a) h
  rwa [Option.some_inj.mp (h'.symm.trans hsame)]

/-- A connection that was not there before has just been made. -/
theorem eq_fresh_of_new {c : Nat} {conn' : Connection} (hnew : s.connections[c]? = none)
    (h : (s.after a).connections[c]? = some conn') :
    ∃ conn : Connection, a = .connection conn ∧ s.hasSink conn.sink = true ∧
      conn' = conn.fresh := by
  have hsame : s.connections[c]? ≠ some conn' := by simp [hnew]
  cases a with
  | step t =>
      cases hmove : s.nextMove? t with
      | none =>
          rw [after_step_of_none hmove] at h
          exact absurd h hsame
      | some m =>
          rw [connections_after_step hmove] at h
          rcases of_getElem?_set h with ⟨rfl, -⟩ | ⟨-, hold⟩
          · rw [(nextMove?_eq_some hmove).2.1] at hnew
            cases hnew
          · exact absurd hold hsame
  | connection conn =>
      rw [after] at h
      split at h
      · rename_i hsink
        rcases of_getElem?_concat h with hold | ⟨-, rfl⟩
        · exact absurd hold hsame
        · exact ⟨conn, rfl, hsink, rfl⟩
      · exact absurd h hsame
  | disconnect c' =>
      rw [after, connections_disconnect, List.getElem?_modify, hnew] at h
      cases h
  | loop c' p =>
      rw [after] at h
      split at h <;> exact absurd h hsame
  | attempt c' =>
      rw [after] at h
      split at h <;> exact absurd h hsame
  | reconnect c' =>
      rw [after, reconnect] at h
      split at h
      · exact absurd h hsame
      · split at h <;> exact absurd h hsame
  | destroy t =>
      rw [after, connections_destroy] at h
      exact absurd h hsame
  | _ => exact absurd h hsame

/-- Only the tasks of a connection hand something over for it. -/
theorem callsOf_handovers {c : Nat} :
    Handover.callsOf c (s.handovers a) = [] ∨
      ∃ (t : Nat) (m : NextMove), a = .step t ∧ s.nextMove? t = some m ∧
        m.entry.connection = c ∧
        Handover.callsOf c (s.handovers a) = Output.calls m.move.outputs := by
  cases a with
  | step t =>
      cases hmove : s.nextMove? t with
      | none => exact .inl (by simp [handovers, hmove])
      | some m =>
          by_cases hc : m.entry.connection = c
          · subst hc
            exact .inr ⟨t, m, rfl, hmove, rfl, callsOf_handovers_step hmove⟩
          · have hhandovers : s.handovers (.step t) = m.handovers := by simp [handovers, hmove]
            rw [hhandovers]
            exact .inl (Handover.callsOf_ofCalls_of_ne hc _ _)
  | _ => exact .inl rfl

/-! ## One link -/

/-- What can become of a link in an act.  What the task does that reads it is left open. -/
inductive LinkAfter (s : Network) (a : Act) (l : Nat) (k : Link) : Link → Prop
  | same : LinkAfter s a l k k
  | close {c : Nat} {conn : Connection} : a = .disconnect c ∨ a = .reconnect c →
      s.connections[c]? = some conn → conn.client = some l → LinkAfter s a l k k.close
  | push {e : StreamEvent} : a = .send l e → LinkAfter s a l k (k.push e)
  | dropSender : a = .dropSender l → LinkAfter s a l k k.dropSender
  | reader {t : Nat} {d : Driver} (k' : Link) : a = .step t ∨ a = .destroy t →
      s.drivers[t]? = some d → d.task.point.link? = some l → LinkAfter s a l k k'

/-- An answer takes something from the link that the task reads and leaves the others alone. -/
theorem exists_link_of_answer {d : Driver} {reply : Reply} {locks : LockService} {links : List Link}
    {l : Nat} {k : Link} (h : Answer s d reply locks links) (hk : s.links[l]? = some k) :
    ∃ k', links[l]? = some k' ∧ (d.task.point.link? ≠ some l → k' = k) := by
  cases h with
  | lock => exact ⟨k, hk, fun _ => rfl⟩
  | opened => exact ⟨k, getElem?_concat_of_getElem? hk, fun _ => rfl⟩
  | @event l' _ k' _ _ hpoint _ _ =>
      by_cases hl : l' = l
      · subst hl
        exact ⟨k', getElem?_set_of_getElem? hk, fun hne => absurd (by rw [hpoint]; rfl) hne⟩
      · exact ⟨k, by rw [List.getElem?_set_ne hl, hk], fun _ => rfl⟩
  | other => exact ⟨k, hk, fun _ => rfl⟩

/-- A link that a dial gives is a new one. -/
theorem eq_of_answer_opened {d : Driver} {reply : Reply} {locks : LockService} {links : List Link}
    {l : Nat} (h : Answer s d reply locks links) (hreply : reply = .opened l) :
    s.links.length = l ∧ links = s.links ++ [({} : Link)] := by
  cases h with
  | lock => split at hreply <;> cases hreply
  | opened =>
      cases hreply
      exact ⟨rfl, rfl⟩
  | event => cases hreply
  | other _ hne => exact absurd hreply (hne l)

theorem exists_linkAfter_modify {l l' : Nat} {k : Link} {f : Link → Link} {links : List Link}
    (hk : links[l]? = some k) (hf : l' = l → LinkAfter s a l k (f k)) :
    ∃ k', (links.modify l' f)[l]? = some k' ∧ LinkAfter s a l k k' := by
  rw [List.getElem?_modify, hk]
  by_cases hl : l' = l
  · exact ⟨f k, by simp [hl], hf hl⟩
  · exact ⟨k, by simp [hl], .same⟩

/-- The reader of a link is the only task that takes something from it. -/
theorem exists_linkAfter {l : Nat} {k : Link} (h : s.links[l]? = some k) :
    ∃ k' : Link, (s.after a).links[l]? = some k' ∧ LinkAfter s a l k k' := by
  cases a with
  | step t =>
      cases hmove : s.nextMove? t with
      | none =>
          rw [after_step_of_none hmove]
          exact ⟨k, h, .same⟩
      | some m =>
          obtain ⟨he, -, reply, hreply, hm⟩ := nextMove?_eq_some hmove
          have hanswer := answer_of_reply? hreply
          rw [link_after_step hmove]
          by_cases hlink : m.entry.task.point.link? = some l
          · obtain ⟨k', hk', -⟩ := exists_link_of_answer hanswer h
            rw [hk']
            exact ⟨_, rfl, .reader _ (.inl rfl) (getElem?_drivers he) hlink⟩
          · obtain ⟨k', hk', hsame⟩ := exists_link_of_answer hanswer h
            cases hsame hlink
            have hclose : .closeLink l ∉ m.move.outputs := by
              rw [hm]
              exact fun hmem => hlink (Task.link?_eq_of_mem_outputs (.inl hmem))
            have hdrop : .dropLink l ∉ m.move.outputs := by
              rw [hm]
              exact fun hmem => hlink (Task.link?_eq_of_mem_outputs (.inr hmem))
            rw [hk', Option.map_some, Link.foldl_perform_of_notMem hclose hdrop]
            exact ⟨k, rfl, .same⟩
  | destroy t =>
      cases he : s.tasks[t]? with
      | none => exact ⟨k, by rwa [after, destroy, he], .same⟩
      | some e =>
          rw [after, destroy_eq he]
          cases hlink : e.task.point.link? with
          | none => exact ⟨k, h, .same⟩
          | some l' =>
              exact exists_linkAfter_modify h fun hl =>
                .reader _ (.inr rfl) (getElem?_drivers he) (hl ▸ hlink)
  | disconnect c =>
      rw [after, disconnect]
      split
      · exact ⟨k, h, .same⟩
      · rename_i conn hconn
        simp only [foldl_report]
        cases hclient : conn.client with
        | none => exact ⟨k, h, .same⟩
        | some l' =>
            exact exists_linkAfter_modify h fun hl => .close (.inl rfl) hconn (hl ▸ hclient)
  | reconnect c =>
      rw [after, reconnect]
      split
      · exact ⟨k, h, .same⟩
      · rename_i conn hconn
        split
        · exact ⟨k, h, .same⟩
        · rename_i l' hclient
          exact exists_linkAfter_modify h fun hl => .close (.inr rfl) hconn (hl ▸ hclient)
  | send l' e => exact exists_linkAfter_modify h fun hl => .push (by rw [hl])
  | dropSender l' => exact exists_linkAfter_modify h fun hl => .dropSender (by rw [hl])
  | connection conn =>
      rw [after]
      split <;> exact ⟨k, h, .same⟩
  | loop c p =>
      rw [after]
      split <;> exact ⟨k, h, .same⟩
  | attempt c =>
      rw [after]
      split <;> exact ⟨k, h, .same⟩
  | _ => exact ⟨k, h, .same⟩

end Network

end TelemetryGateway
