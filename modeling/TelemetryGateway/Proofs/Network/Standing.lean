import TelemetryGateway.Proofs.Connection.Messages
import TelemetryGateway.Proofs.Network.Pointwise

/-!
# What stays while time passes

Who waits for something in a network lets the tasks move, the tasks that are to be taken away go,
and the clock run; `Passes` is what can become of a network meanwhile.  Through all of it a
connection keeps its `Standing`: what it was made for, and whether it was stopped.

* `Network.passes_waitUntil`: a wait, whatever for and however long, is such a passing of time;
* `Network.Passes.standings`: it changes the standing of no connection;
* `Network.standings_disconnect`: to stop a connection changes the standing of that one alone.
-/

namespace TelemetryGateway

/-- What does not change in a connection when its tasks move. -/
structure Standing where
  /-- The connection as it was made. -/
  made : Connection
  /-- A stop was requested. -/
  stopped : Bool

/-- The standing of a connection that is stopped. -/
def Standing.stop (st : Standing) : Standing := { st with stopped := true }

/-- The standing of a connection. -/
def Connection.standing (c : Connection) : Standing := ⟨c.fresh, c.phase.isStopped⟩

theorem Phase.isStopped_stop (p : Phase) : p.stop.phase.isStopped = true := by cases p <;> rfl

@[simp] theorem Connection.standing_stop (c : Connection) : c.stop.standing = c.standing.stop := by
  simp only [standing, Standing.stop, stop, fresh, Phase.isStopped_stop]

theorem Task.standing_resume (t : Task) (c : Connection) (reply : Reply) :
    (t.resume c reply).connection.standing = c.standing := by
  simp only [Connection.standing, fresh_resume, isStopped_resume]

namespace Network

variable {s s' s'' : Network} {a : Act}

/-! ## The passing of time -/

/-- Whether an act needs nobody from outside.  A task that is to be taken away does not move any
more, and no other one is taken away. -/
def passing (s : Network) : Act → Bool
  | .step t => !s.taskIs (·.aborted) t
  | .destroy t => s.taskIs (·.aborted) t
  | .clock _ | .schedule _ _ => true
  | _ => false

/-- Whether an act can happen to a network whose connections and tasks belong to one owner: time
passes, a device does something, or somebody stops or reconnects a connection. -/
def admits (s : Network) : Act → Bool
  | .disconnect _ | .reconnect _ | .send _ _ | .dropSender _ | .device _ => true
  | a => s.passing a

/-- Whether some acts can happen one after the other. -/
def admitsAll (s : Network) : List Act → Bool
  | [] => true
  | a :: rest => s.admits a && (s.after a).admitsAll rest

/-- What can become of a network while nobody acts on it. -/
inductive Passes (s : Network) : Network → Prop
  | refl : Passes s s
  | act {s' : Network} {a : Act} : Passes s s' → s'.passing a = true → Passes s (s'.after a)

theorem Passes.trans (h : s.Passes s') (h' : s'.Passes s'') : s.Passes s'' := by
  induction h' with
  | refl => exact h
  | act _ ha ih => exact ih.act ha

/-- Which tasks are to be taken away. -/
def aborts (s : Network) : List Bool := s.tasks.map (·.aborted)

theorem taskIs_aborted (s : Network) (t : Nat) :
    s.taskIs (·.aborted) t = (s.aborts[t]?).getD false := by
  rw [taskIs, aborts, List.getElem?_map]

theorem aborts_modifyTask (s : Network) (t : Nat) {f : TaskEntry → TaskEntry}
    (hf : ∀ e, (f e).aborted = e.aborted) : (s.modifyTask t f).aborts = s.aborts := by
  apply List.ext_getElem?
  intro i
  simp only [aborts, modifyTask, List.getElem?_map, List.getElem?_modify]
  cases s.tasks[i]? with
  | none => rfl
  | some e => by_cases hi : t = i <;> simp [hi, hf]

/-- Whether a task is to be taken away does not change while time passes. -/
theorem aborts_after_of_passing (h : s.passing a = true) : (s.after a).aborts = s.aborts := by
  cases a with
  | step t =>
      cases hmove : s.nextMove? t with
      | none => rw [after_step_of_none hmove]
      | some m =>
          have he : s.aborts[t]? = some m.entry.aborted := by
            rw [aborts, List.getElem?_map, (nextMove?_eq_some hmove).1, Option.map_some]
          rw [aborts, tasks_after_step hmove, List.map_set]
          obtain ⟨hlt, hsame⟩ := List.getElem?_eq_some_iff.mp he
          exact (congrArg (s.aborts.set t) hsame.symm).trans (List.set_getElem_self hlt)
  | destroy t =>
      cases he : s.tasks[t]? with
      | none => rw [after, destroy, he]
      | some e =>
          rw [aborts, after, tasks_destroy he]
          exact aborts_modifyTask s t fun _ => rfl
  | clock => rfl
  | schedule => rfl
  | _ => cases h

theorem Passes.aborts (h : s.Passes s') : s'.aborts = s.aborts := by
  induction h with
  | refl => rfl
  | act _ ha ih => exact (aborts_after_of_passing ha).trans ih

/-! ### Waits -/

theorem passes_run (fuel : Nat) {t : Nat} (h : s.taskIs (·.aborted) t = false) :
    s.Passes (run fuel s t) := by
  induction fuel generalizing s with
  | zero => exact .act (a := .schedule (s.ready ++ [t]) s.parked) .refl rfl
  | succ fuel ih =>
      unfold run
      cases hstep : s.step t with
      | some s' =>
          have hafter : s.after (.step t) = s' := by rw [after, hstep, Option.getD_some]
          have hpassing : s.passing (.step t) = true := by rw [passing, h, Bool.not_false]
          have hmoves : s.Passes s' := hafter ▸ .act .refl hpassing
          refine hmoves.trans (ih ?_)
          rw [taskIs_aborted, hmoves.aborts, ← taskIs_aborted, h]
      | none =>
          simp only
          split
          · exact .refl
          · exact .act (a := .schedule s.ready (s.parked ++ [t])) .refl rfl

theorem passes_turn (s : Network) (t : Nat) : s.Passes (s.turn t) := by
  unfold turn
  split
  · exact .refl
  · cases haborted : s.taskIs (·.aborted) t with
    | true => exact .act (a := .destroy t) .refl haborted
    | false => exact passes_run _ haborted

theorem passes_settle (s : Network) : s.Passes s.settle := by
  suffices h : ∀ (ready : List Nat) (s' : Network), s.Passes s' →
      s.Passes (ready.foldl turn s') from
    h s.ready _ (.act (a := .schedule [] s.parked) .refl rfl)
  intro ready
  induction ready with
  | nil => exact fun _ h => h
  | cons t rest ih => exact fun s' h => ih _ (h.trans (passes_turn s' t))

theorem passes_setClock (s : Network) (now : Nat) : s.Passes (s.setClock now) :=
  .act (a := .clock now) .refl rfl

theorem passes_passUntil (done : Network → Bool) (limit fuel : Nat) (s : Network) :
    s.Passes (passUntil done limit fuel s).2 := by
  induction fuel generalizing s with
  | zero => exact .refl
  | succ fuel ih =>
      unfold passUntil
      have hsettle := passes_settle s
      have hlimit := hsettle.trans (passes_setClock s.settle limit)
      cases hdone : done s.settle with
      | true => simpa only [hdone, if_true] using hsettle
      | false =>
          cases hnext : s.settle.nextDeadline with
          | none => simpa only [hdone, hnext, Bool.false_eq_true, if_false] using hlimit
          | some deadline =>
              by_cases hlt : deadline < limit
              · simpa only [hdone, hnext, hlt, Bool.false_eq_true, if_false, if_true] using
                  hsettle.trans ((passes_setClock s.settle deadline).trans (ih _))
              · simpa only [hdone, hnext, hlt, Bool.false_eq_true, if_false] using hlimit

/-- Who waits only lets time pass. -/
theorem passes_waitUntil (s : Network) (done : Network → Bool) (limit : Nat) :
    s.Passes (s.waitUntil done limit).2 := by
  unfold waitUntil
  split
  · exact .refl
  · split
    · exact .refl
    · exact passes_passUntil _ _ _ _

/-! ## Standings -/

/-- The standings of all connections. -/
def standings (s : Network) : List Standing := s.connections.map Connection.standing

theorem exists_of_getElem?_standings {c : Nat} {st : Standing} (h : s.standings[c]? = some st) :
    ∃ conn : Connection, s.connections[c]? = some conn ∧ conn.standing = st := by
  rw [standings, List.getElem?_map] at h
  exact Option.map_eq_some_iff.mp h

/-- Standings change only by new connections and by requests to stop. -/
theorem standings_after (hnew : ∀ conn, a ≠ .connection conn) (hstop : ∀ c, a ≠ .disconnect c) :
    (s.after a).standings = s.standings := by
  apply List.ext_getElem?
  intro c
  rw [standings, standings, List.getElem?_map, List.getElem?_map]
  cases hconn : s.connections[c]? with
  | none =>
      cases hconn' : (s.after a).connections[c]? with
      | none => rfl
      | some conn' =>
          obtain ⟨conn, hact, -⟩ := eq_fresh_of_new hconn hconn'
          exact absurd hact (hnew conn)
  | some conn =>
      obtain ⟨conn', hconn', hafter⟩ := exists_connectionAfter (a := a) hconn
      rw [hconn', Option.map_some, Option.map_some]
      cases hafter with
      | same => rfl
      | stop hact => exact absurd hact (hstop c)
      | move _ hmove hc =>
          obtain ⟨-, hmconn, reply, -, hm⟩ := nextMove?_eq_some hmove
          rw [hc, hconn] at hmconn
          cases hmconn
          rw [hm, Task.standing_resume]

theorem Passes.standings (h : s.Passes s') : s'.standings = s.standings := by
  induction h with
  | refl => rfl
  | @act s' a _ ha ih =>
      refine (standings_after (fun conn hact => ?_) fun c hact => ?_).trans ih
      · rw [hact] at ha
        cases ha
      · rw [hact] at ha
        cases ha

theorem standings_disconnect (s : Network) (c : Nat) :
    (s.disconnect c).standings = s.standings.modify c Standing.stop := by
  rw [standings, connections_disconnect]
  apply List.ext_getElem?
  intro i
  simp only [standings, List.getElem?_map, List.getElem?_modify]
  cases s.connections[i]? with
  | none => rfl
  | some conn => by_cases hi : c = i <;> simp [hi]

theorem length_standings_after_of_admits (h : s.admits a = true) :
    (s.after a).standings.length = s.standings.length := by
  by_cases hstop : ∃ c, a = .disconnect c
  · obtain ⟨c, rfl⟩ := hstop
    rw [after, standings_disconnect, List.length_modify]
  · rw [standings_after (fun conn hact => ?_) fun c hact => hstop ⟨c, hact⟩]
    rw [hact] at h
    cases h

end Network

end TelemetryGateway
