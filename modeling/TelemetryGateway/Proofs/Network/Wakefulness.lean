import TelemetryGateway.Proofs.Network.Alone

/-!
# No wake-up is lost

A task that has to wait is parked, and from then on it depends on others: a dial is answered or
given up in time, a link is written to or closed by somebody else, a pause ends by the clock or by
the stop signal.  Whoever changes what a task waits for has to make the task ready again, or it
sleeps for ever.

`Network.Scheduled` is what a scheduler can bring about.  It may have taken up several tasks at a
time and may have them make their steps in any order, and the surroundings can act between any two
steps.  In all of this a task that is not over is taken up, ready, or parked with nothing to go on
with (`Network.Attended`).  So a task that could move is never left asleep.

* `Network.reply?_eq_none_iff`: when a task has to wait;
* `Network.Attended.after`, `Network.Attended.step`: what acts and steps keep;
* `Network.attended_of_scheduled`: the law;
* `Network.scheduled_settle`: the turns of the scheduler of the network keep to it.
-/

namespace TelemetryGateway

/-- Whether an act comes from the surroundings of a scheduler and not from itself. -/
def Act.isOutside : Act → Bool
  | .step _ | .destroy _ | .schedule _ _ => false
  | _ => true

namespace Network

variable {start s s' : Network} {e : TaskEntry} {taken : List Nat} {due : TaskEntry → Bool}

/-! ## Waiting -/

/-- A reader of a link has nothing to read, or there is no such link. -/
def IsSilent (links : List Link) (l : Nat) : Prop := links[l]?.bind Link.next? = none

/-- A task has nothing to go on with.  Only who dials, reads a link or pauses can be in this
state. -/
def Waits (s : Network) (e : TaskEntry) : Prop :=
  match e.task.point with
  | .dialing _ due giveUp => s.now < due ∧ s.now < giveUp ∧ e.signalled = false
  | .streaming l => IsSilent s.links l
  | .resting time => s.now < time ∧ e.signalled = false
  | _ => False

theorem reply?_eq_none_iff (s : Network) (e : TaskEntry) (c : Connection) :
    s.reply? e c = none ↔ s.Waits e ∨ e.task.point.isFinished = true := by
  unfold reply? Waits IsSilent
  cases hpoint : e.task.point with
  | takingLock => cases e.gate <;> simp [Point.ask, Point.isFinished]
  | dialing q due giveUp =>
      simp only [Point.ask, Point.isFinished, Bool.false_eq_true, or_false]
      split
      · split <;> simp <;> omega
      · split
        · simp; omega
        · cases e.signalled <;> simp
          omega
  | resting time => cases e.signalled <;> simp [Point.ask, Point.isFinished]
  | _ => simp [Point.ask, Point.isFinished]

/-- A task goes on waiting while the clock stands and its link stays silent. -/
theorem Waits.mono (h : s.Waits e) (hnow : s'.now = s.now)
    (hlinks : ∀ l, e.task.point = .streaming l → IsSilent s.links l → IsSilent s'.links l) :
    s'.Waits e := by
  unfold Waits at h ⊢
  cases hpoint : e.task.point with
  | streaming l =>
      rw [hpoint] at h
      exact hlinks l hpoint h
  | dialing | resting =>
      rw [hpoint] at h
      rw [hnow]
      exact h
  | _ =>
      rw [hpoint] at h
      exact h

/-! ### Silent links -/

section Silent

variable {links : List Link} {l l' : Nat}

theorem isSilent_concat (h : IsSilent links l) : IsSilent (links ++ [({} : Link)]) l := by
  unfold IsSilent at h ⊢
  rcases Nat.lt_trichotomy l links.length with hlt | rfl | hgt
  · rwa [List.getElem?_append_left hlt]
  · rw [List.getElem?_concat_length]
    rfl
  · rw [List.getElem?_eq_none (by simp; omega)]
    rfl

theorem isSilent_modify_of_ne (h : IsSilent links l) (hne : l' ≠ l) (f : Link → Link) :
    IsSilent (links.modify l' f) l := by
  unfold IsSilent at h ⊢
  simpa [hne] using h

/-- A reader that goes away leaves nothing to read. -/
theorem isSilent_dropReader (h : IsSilent links l) (l' : Nat) :
    IsSilent (links.modify l' Link.dropReader) l := by
  by_cases hl : l' = l
  · subst hl
    unfold IsSilent at h ⊢
    cases hk : links[l']? with
    | none => simp [hk]
    | some k =>
        rw [hk, Option.bind_some] at h
        simp only [List.getElem?_modify, hk, if_true, Option.map_eq_map, Option.map_some,
          Option.bind_some]
        revert h
        fun_cases Link.next? k <;> simp_all [Link.next?, Link.dropReader]
  · exact isSilent_modify_of_ne h hl _

/-- Nothing was read from a silent link. -/
theorem isSilent_set {k k' : Link} {event : StreamEvent} (h : IsSilent links l)
    (hk : links[l']? = some k) (hnext : k.next? = some (event, k')) :
    IsSilent (links.set l' k') l := by
  by_cases hl : l' = l
  · subst hl
    rw [IsSilent, hk, Option.bind_some, hnext] at h
    cases h
  · unfold IsSilent at h ⊢
    rwa [List.getElem?_set_ne hl]

end Silent

/-- The answer to one task leaves the links silent that were so. -/
theorem isSilent_of_answer {d : Driver} {reply : Reply} {locks : LockService} {links : List Link}
    {l : Nat} (hanswer : Answer s d reply locks links) (h : IsSilent s.links l) :
    IsSilent links l := by
  cases hanswer with
  | lock | other => exact h
  | opened => exact isSilent_concat h
  | event _ hk hnext => exact isSilent_set h hk hnext

/-- An answer leaves the clock and the queues alone. -/
theorem queues_reply? {answered : Network} {c : Connection} {reply : Reply}
    (h : s.reply? e c = some (reply, answered)) :
    answered.now = s.now ∧ answered.ready = s.ready ∧ answered.parked = s.parked := by
  obtain ⟨_, _, _, _, rfl, -⟩ := exists_answered h
  exact ⟨rfl, rfl, rfl⟩

theorem frame_destroy (s : Network) (t : Nat) :
    (s.destroy t).now = s.now ∧ (s.destroy t).ready = s.ready ∧ (s.destroy t).parked = s.parked ∧
      ∀ l, IsSilent s.links l → IsSilent (s.destroy t).links l := by
  obtain ⟨_, _, _, _, heq, hlinks⟩ := s.exists_destroy t
  rw [heq]
  refine ⟨rfl, rfl, rfl, fun l hsilent => ?_⟩
  rcases hlinks with rfl | ⟨l', rfl⟩
  · exact hsilent
  · exact isSilent_dropReader hsilent l'

/-! ## Attendance -/

/-- Every task that is not over is taken up, ready, or parked, and one that is parked has nothing to
go on with or is about to be woken. -/
def AttendedBut (s : Network) (taken : List Nat) (due : TaskEntry → Bool) : Prop :=
  ∀ (t : Nat) (e : TaskEntry), s.tasks[t]? = some e → e.task.point.isFinished = false →
    t ∈ taken ∨ t ∈ s.ready ∨ (t ∈ s.parked ∧ (s.Waits e ∨ due e = true))

/-- Every task that is not over is taken up, ready, or parked with nothing to go on with. -/
def Attended (s : Network) (taken : List Nat) : Prop :=
  ∀ (t : Nat) (e : TaskEntry), s.tasks[t]? = some e → e.task.point.isFinished = false →
    t ∈ taken ∨ t ∈ s.ready ∨ (t ∈ s.parked ∧ s.Waits e)

/-- Once the tasks are woken that are to be, every task is attended to. -/
theorem AttendedBut.wakeWhere (h : s.AttendedBut taken due) : (s.wakeWhere due).Attended taken := by
  intro t e he hover
  rcases h t e he hover with htaken | hready | ⟨hparked, hwaits⟩
  · exact .inl htaken
  · exact .inr (.inl (List.mem_append_left _ hready))
  · have hdue : s.taskIs due t = due e := by rw [taskIs, show s.tasks[t]? = _ from he]; rfl
    cases hwoken : due e with
    | true =>
        exact .inr (.inl (List.mem_append_right _
          (List.mem_filter.mpr ⟨hparked, hdue.trans hwoken⟩)))
    | false =>
        refine .inr (.inr ⟨List.mem_filter.mpr ⟨hparked, by rw [hdue, hwoken]; rfl⟩, ?_⟩)
        rw [hwoken] at hwaits
        exact hwaits.resolve_right Bool.false_ne_true

namespace Attended

theorem of_nil (htasks : s.tasks = []) : s.Attended taken := by
  simp [Attended, htasks]

/-- Attendance goes by the tasks, the queues, the clock and the links only. -/
theorem mono (h : s.Attended taken) (htasks : s'.tasks = s.tasks) (hready : s'.ready = s.ready)
    (hparked : s'.parked = s.parked) (hnow : s'.now = s.now)
    (hlinks : ∀ l, IsSilent s.links l → IsSilent s'.links l) : s'.Attended taken := by
  intro t e he hover
  rw [htasks] at he
  rw [hready, hparked]
  exact (h t e he hover).imp_right <| .imp_right <| .imp_right fun hwaits =>
    hwaits.mono hnow fun l _ => hlinks l

/-- Whoever touches a link wakes its reader. -/
theorem touchLink (h : s.Attended taken) (l : Nat) (f : Link → Link) :
    (s.touchLink l f).Attended taken := by
  refine AttendedBut.wakeWhere fun t e he hover => ?_
  refine (h t e he hover).imp_right <| .imp_right <| .imp_right fun hwaits => ?_
  by_cases hlink : e.task.point.link? = some l
  · exact .inr (by rw [hlink, beq_self_eq_true])
  · refine .inl (hwaits.mono rfl fun l' hpoint hsilent => isSilent_modify_of_ne hsilent ?_ f)
    rintro rfl
    exact hlink (by rw [hpoint]; rfl)

/-- Whoever sets the clock wakes the tasks whose time has come. -/
theorem setClock (h : s.Attended taken) (now : Nat) : (s.setClock now).Attended taken := by
  refine AttendedBut.wakeWhere fun t e he hover => ?_
  refine (h t e he hover).imp_right <| .imp_right <| .imp_right fun hwaits => ?_
  unfold Waits at hwaits ⊢
  cases hpoint : e.task.point with
  | dialing q due giveUp =>
      rw [hpoint] at hwaits
      by_cases hcome : min due giveUp ≤ now
      · exact .inr (by simpa [Point.deadline?] using hcome)
      · have hlater : now < min due giveUp := Nat.lt_of_not_le hcome
        exact .inl ⟨Nat.lt_of_lt_of_le hlater (Nat.min_le_left _ _),
          Nat.lt_of_lt_of_le hlater (Nat.min_le_right _ _), hwaits.2.2⟩
  | resting time =>
      rw [hpoint] at hwaits
      by_cases hcome : time ≤ now
      · exact .inr (by simpa [Point.deadline?] using hcome)
      · exact .inl ⟨Nat.lt_of_not_le hcome, hwaits.2⟩
  | streaming l =>
      rw [hpoint] at hwaits
      exact .inl hwaits
  | _ =>
      rw [hpoint] at hwaits
      exact hwaits.elim

/-- A new task is ready. -/
theorem addTask (h : s.Attended taken) (e : TaskEntry) : (s.addTask e).2.Attended taken := by
  intro t e' he' hover
  rcases of_getElem?_concat he' with hold | ⟨rfl, -⟩
  · exact (h t e' hold hover).imp_right fun h => h.imp_left fun h => List.mem_append_left _ h
  · exact .inr (.inl (List.mem_append_right _ List.mem_cons_self))

theorem abort (h : s.Attended taken) (u : Nat) : (s.abort u).Attended taken := by
  intro t e' he' hover
  have he : ∃ e, s.tasks[t]? = some e ∧ (e' = e ∨ e' = { e with aborted := true }) := by
    rw [Network.abort, modifyTask, List.getElem?_modify] at he'
    obtain ⟨e, he, rfl⟩ := Option.map_eq_some_iff.mp he'
    refine ⟨e, he, ?_⟩
    split
    · exact .inr rfl
    · exact .inl rfl
  obtain ⟨e, he, hsame⟩ := he
  have hpoint : e'.task.point = e.task.point := by rcases hsame with rfl | rfl <;> rfl
  rw [hpoint] at hover
  rcases h t e he hover with htaken | hready | ⟨hparked, hwaits⟩
  · exact .inl htaken
  · refine .inr (.inl ?_)
    show t ∈ if s.parked.contains u then s.ready ++ [u] else s.ready
    split
    · exact List.mem_append_left _ hready
    · exact hready
  · by_cases htu : t = u
    · subst htu
      refine .inr (.inl ?_)
      show t ∈ if s.parked.contains t then s.ready ++ [t] else s.ready
      rw [if_pos (List.contains_iff_mem.mpr hparked)]
      exact List.mem_append_right _ List.mem_cons_self
    · refine .inr (.inr ⟨List.mem_filter.mpr ⟨hparked, by simpa using htu⟩, ?_⟩)
      rcases hsame with rfl | rfl <;> exact hwaits

/-- A request to stop wakes the tasks that it signals and the reader of the link that it closes. -/
theorem disconnect (h : s.Attended taken) (c : Nat) : (s.disconnect c).Attended taken := by
  unfold Network.disconnect
  cases hconn : s.connections[c]? with
  | none => exact h
  | some conn =>
      simp only [foldl_report]
      have hwoken (hears : TaskEntry → Bool)
          (hkeeps : ∀ e, hears { e with signalled := true } = hears e) :
          (Network.wakeWhere { s with
            connections := s.connections.modify c fun conn' =>
              { conn' with phase := conn.phase.stop.phase }
            journal := s.journal ++ conn.phase.stop.occurrences.map fun o => ⟨conn.name, o⟩
            tasks := s.tasks.map fun e => if hears e then { e with signalled := true } else e }
          hears).Attended taken := by
        refine AttendedBut.wakeWhere fun t e' he' hover => ?_
        obtain ⟨e, he, rfl⟩ := Option.map_eq_some_iff.mp ((List.getElem?_map ..).symm.trans he')
        cases hsignal : hears e with
        | true =>
            simp only [hsignal, if_true] at hover ⊢
            exact (h t e he hover).imp_right <| .imp_right <| .imp_right fun _ =>
              .inr ((hkeeps e).trans hsignal)
        | false =>
            simp only [hsignal, Bool.false_eq_true, if_false, or_false] at hover ⊢
            exact h t e he hover
      have hdone := hwoken (fun e => e.connection == c && e.task.point.isArmed) fun _ => rfl
      cases conn.client with
      | none => exact hdone
      | some l => exact hdone.touchLink l _

theorem reconnect (h : s.Attended taken) (c : Nat) : (s.reconnect c).Attended taken := by
  unfold Network.reconnect
  split
  · exact h
  · split
    · exact h
    · exact touchLink (h.mono rfl rfl rfl rfl fun _ => id) _ _

/-- Nothing that happens outside of a scheduler leaves a task asleep that could move. -/
theorem after (h : s.Attended taken) {a : Act} (ha : a.isOutside = true) :
    (s.after a).Attended taken := by
  cases a with
  | connection c =>
      rw [Network.after]
      split <;> exact h.mono rfl rfl rfl rfl fun _ => id
  | loop c p =>
      rw [Network.after]
      split
      · exact addTask (h.mono rfl rfl rfl rfl fun _ => id) _
      · exact h
  | attempt c =>
      rw [Network.after]
      split
      · exact h.addTask _
      · exact h
  | disconnect c => exact h.disconnect c
  | reconnect c => exact h.reconnect c
  | abort t => exact h.abort t
  | send l e => exact h.touchLink l _
  | dropSender l => exact h.touchLink l _
  | clock now => exact h.setClock now
  | recorder | cache | device | refusing => exact h.mono rfl rfl rfl rfl fun _ => id
  | step | destroy | schedule => cases ha

/-! ### The steps of a scheduler -/

theorem performAll (h : s.Attended taken) (e : TaskEntry) (c : Connection)
    (outputs : List Output) : (s.performAll e c outputs).Attended taken := by
  induction outputs generalizing s with
  | nil => exact h
  | cons o rest ih =>
      rw [performAll_cons]
      refine ih ?_
      cases o with
      | call call =>
          obtain ⟨_, _, heq⟩ := exists_perform_call s e c call
          rw [heq]
          exact h.mono rfl rfl rfl rfl fun _ => id
      | closeLink l => exact h.touchLink l _
      | dropLink l => exact h.mono rfl rfl rfl rfl fun _ hsilent => isSilent_dropReader hsilent l
      | report | releaseSlot | unlock => exact h.mono rfl rfl rfl rfl fun _ => id

/-- A task that has been taken up can move as it likes: what others wait for does not come to pass
unnoticed. -/
theorem step (h : s.Attended taken) {t : Nat} (ht : t ∈ taken) :
    (s.after (.step t)).Attended taken := by
  cases hmove : s.nextMove? t with
  | none => rwa [after_step_of_none hmove]
  | some m =>
      obtain ⟨he, -, reply, hreply, -⟩ := nextMove?_eq_some hmove
      rw [Network.after, step_eq_some hmove, Option.getD_some]
      refine performAll (fun u e' he' hover => ?_) _ _ _
      obtain ⟨hnow, hready, hparked⟩ := queues_reply? hreply
      rcases of_getElem?_set he' with ⟨rfl, -⟩ | ⟨-, hold⟩
      · exact .inl ht
      · rw [(reply?_frame hreply).1] at hold
        rw [show (m.noted t).ready = _ from hready, show (m.noted t).parked = _ from hparked]
        refine (h u e' hold hover).imp_right <| .imp_right <| .imp_right fun hwaits => ?_
        have hanswer := answer_of_reply? hreply
        exact hwaits.mono hnow fun l _ => isSilent_of_answer hanswer

/-- A task is put aside ready, parked with nothing to go on with, or for good. -/
theorem erase (h : s.Attended taken) (t : Nat)
    (haside : ∀ e, s.tasks[t]? = some e → e.task.point.isFinished = false →
      t ∈ s.ready ∨ (t ∈ s.parked ∧ s.Waits e)) : s.Attended (taken.erase t) := by
  intro u e he hover
  by_cases hu : u = t
  · subst hu
    exact .inr (haside e he hover)
  · exact (h u e he hover).imp_left (List.mem_erase_of_ne hu).mpr

theorem enqueue (h : s.Attended taken) (ready parked : List Nat) :
    Attended { s with ready := s.ready ++ ready, parked := s.parked ++ parked } taken :=
  fun t e he hover =>
    (h t e he hover).imp_right <|
      .imp (List.mem_append_left _) <| .imp_left (List.mem_append_left _)

theorem takeUp (h : s.Attended taken) (t : Nat) :
    Attended { s with ready := s.ready.erase t } (taken ++ [t]) := by
  intro u e he hover
  by_cases hu : u = t
  · exact .inl (List.mem_append_right _ (by rw [hu]; exact List.mem_cons_self))
  · exact (h u e he hover).imp (List.mem_append_left _) fun h =>
      h.imp_left (List.mem_erase_of_ne hu).mpr

/-- A task that is taken away is over, and its link is left to nobody. -/
theorem destroy (h : s.Attended taken) (t : Nat) : (s.destroy t).Attended (taken.erase t) := by
  cases he : s.tasks[t]? with
  | none =>
      have hsame : s.destroy t = s := by rw [Network.destroy, he]
      rw [hsame]
      exact h.erase t fun e he' => by rw [he] at he'; cases he'
  | some e =>
      obtain ⟨hnow, hready, hparked, hlinks⟩ := frame_destroy s t
      refine erase (fun u e' he' hover => ?_) t fun e' he' hover => ?_
      all_goals rw [tasks_destroy he, List.getElem?_modify] at he'
      · obtain ⟨e₀, he₀, rfl⟩ := Option.map_eq_some_iff.mp he'
        split at hover
        · cases hover
        · rename_i hu
          rw [if_neg hu, hready, hparked]
          exact (h u e₀ he₀ hover).imp_right <| .imp_right <| .imp_right fun hwaits =>
            hwaits.mono hnow fun l _ => hlinks l
      · rw [he, Option.map_eq_map, Option.map_some, if_pos rfl] at he'
        cases he'
        cases hover

end Attended

/-! ## Schedules -/

/-- What a scheduler can bring about from a network, with the tasks that it has taken up.  It takes
up ready tasks and has them make steps, and it puts a task aside when the task was to be taken away,
when it is over, when it has to wait, or, for another turn, at any time.  The surroundings act
whenever they like. -/
inductive Scheduled (start : Network) : List Nat → Network → Prop
  | start : Scheduled start [] start
  | act {taken : List Nat} {s : Network} {a : Act} : Scheduled start taken s →
      a.isOutside = true → Scheduled start taken (s.after a)
  | takeUp {taken : List Nat} {s : Network} {t : Nat} : Scheduled start taken s → t ∈ s.ready →
      Scheduled start (taken ++ [t]) { s with ready := s.ready.erase t }
  | step {taken : List Nat} {s : Network} {t : Nat} : Scheduled start taken s → t ∈ taken →
      Scheduled start taken (s.after (.step t))
  | remove {taken : List Nat} {s : Network} {t : Nat} : Scheduled start taken s → t ∈ taken →
      s.taskIs (·.aborted) t = true → Scheduled start (taken.erase t) (s.destroy t)
  | drop {taken : List Nat} {s : Network} {t : Nat} : Scheduled start taken s → t ∈ taken →
      s.isFinished t = true → Scheduled start (taken.erase t) s
  | park {taken : List Nat} {s : Network} {t : Nat} : Scheduled start taken s → t ∈ taken →
      s.step t = none → Scheduled start (taken.erase t) { s with parked := s.parked ++ [t] }
  | postpone {taken : List Nat} {s : Network} {t : Nat} : Scheduled start taken s → t ∈ taken →
      Scheduled start (taken.erase t) { s with ready := s.ready ++ [t] }

theorem scheduled_acts (h : Scheduled start taken s) (acts : List Act)
    (hacts : ∀ a ∈ acts, a.isOutside = true) : Scheduled start taken (s.afterAll acts) := by
  induction acts generalizing s with
  | nil => exact h
  | cons a rest ih =>
      obtain ⟨ha, hrest⟩ := List.forall_mem_cons.mp hacts
      exact ih (h.act ha) hrest

/-- What a scheduler brings about is a run. -/
theorem Scheduled.exists_acts (h : Scheduled start taken s) :
    ∃ acts, s = start.afterAll acts := by
  have hone {s s' : Network} (a : Act) (hs : ∃ acts, s = start.afterAll acts)
      (hs' : s' = s.after a) : ∃ acts, s' = start.afterAll acts := by
    obtain ⟨acts, rfl⟩ := hs
    exact ⟨acts ++ [a], hs'.trans (afterAll_concat ..).symm⟩
  induction h with
  | start => exact ⟨[], rfl⟩
  | drop _ _ _ ih => exact ih
  | act _ _ ih | step _ _ ih => exact hone _ ih rfl
  | @remove _ _ t _ _ _ ih => exact hone (.destroy t) ih rfl
  | @takeUp _ s t _ _ ih => exact hone (.schedule (s.ready.erase t) s.parked) ih rfl
  | @park _ s t _ _ _ ih => exact hone (.schedule s.ready (s.parked ++ [t])) ih rfl
  | @postpone _ s t _ _ ih => exact hone (.schedule (s.ready ++ [t]) s.parked) ih rfl

theorem waits_of_step_eq_none (hsound : s.Sound) {t : Nat} (he : s.tasks[t]? = some e)
    (hover : e.task.point.isFinished = false) (hstep : s.step t = none) : s.Waits e := by
  obtain ⟨conn, hconn⟩ := hsound.exists_connection t _ (getElem?_drivers he)
  have hconn : s.connections[e.connection]? = some conn := hconn
  have hreply : s.reply? e conn = none := by
    cases hreply : s.reply? e conn with
    | none => rfl
    | some => simp [step, he, hconn, hreply] at hstep
  exact ((s.reply?_eq_none_iff e conn).mp hreply).resolve_right (by simp [hover])

/-- Whatever a scheduler does and whatever happens meanwhile, a task that is not over is taken up,
ready, or parked with nothing to go on with. -/
theorem attended_of_scheduled (htasks : start.tasks = []) (hconnections : start.connections = [])
    (h : Scheduled start taken s) : s.Attended taken := by
  induction h with
  | start => exact .of_nil htasks
  | act _ ha ih => exact ih.after ha
  | takeUp _ _ ih => exact ih.takeUp _
  | step _ ht ih => exact ih.step ht
  | remove _ _ _ ih => exact ih.destroy _
  | drop _ _ hover ih =>
      refine ih.erase _ fun e he hnot => ?_
      rw [isFinished, taskIs, he, Option.map_some, Option.getD_some, hnot] at hover
      cases hover
  | @park _ s t hbefore _ hstep ih =>
      obtain ⟨acts, rfl⟩ := hbefore.exists_acts
      have hsound := sound_afterAll (sound_of_nil htasks hconnections) acts
      have hparked := ih.enqueue [] [t]
      simp only [List.append_nil] at hparked
      refine hparked.erase t fun e he hover => .inr ⟨by simp, ?_⟩
      exact (waits_of_step_eq_none hsound he hover hstep :)
  | @postpone _ s t _ _ ih =>
      have hready := ih.enqueue [t] []
      simp only [List.append_nil] at hready
      exact hready.erase t fun _ _ _ => .inl (by simp)

/-! ### The scheduler of the network -/

theorem scheduled_run (fuel : Nat) {t : Nat} (h : Scheduled start taken s) (ht : t ∈ taken) :
    Scheduled start (taken.erase t) (run fuel s t) := by
  induction fuel generalizing s with
  | zero => exact h.postpone ht
  | succ fuel ih =>
      unfold run
      cases hstep : s.step t with
      | some s' =>
          have hafter : s.after (.step t) = s' := by rw [Network.after, hstep, Option.getD_some]
          exact ih (hafter ▸ h.step ht)
      | none =>
          simp only
          split
          · exact h.drop ht ‹_›
          · exact h.park ht hstep

theorem scheduled_turn {t : Nat} (h : Scheduled start taken s) (ht : t ∈ taken) :
    Scheduled start (taken.erase t) (s.turn t) := by
  unfold turn
  split
  · exact h.drop ht ‹_›
  · split
    · exact h.remove ht ‹_›
    · exact scheduled_run _ h ht

/-- To give every ready task its turn, each until it has to wait or is over, is one way to schedule
them. -/
theorem scheduled_settle (h : Scheduled start [] s) : Scheduled start [] s.settle := by
  have htakeAll (ready : List Nat) (taken : List Nat) (s : Network) (hready : s.ready = ready)
      (h : Scheduled start taken s) : Scheduled start (taken ++ ready) { s with ready := [] } := by
    induction ready generalizing taken s with
    | nil =>
        rw [List.append_nil, ← hready]
        exact h
    | cons t rest ih =>
        have hnext := ih (taken ++ [t]) { s with ready := s.ready.erase t } (by simp [hready])
          (h.takeUp (by simp [hready]))
        simpa using hnext
  have hturns (taken : List Nat) (s : Network) (h : Scheduled start taken s) :
      Scheduled start [] (taken.foldl turn s) := by
    induction taken generalizing s with
    | nil => exact h
    | cons t rest ih =>
        have hturn := scheduled_turn h (List.mem_cons_self (a := t))
        rw [List.erase_cons_head] at hturn
        exact ih _ hturn
  exact hturns _ _ (by simpa using htakeAll s.ready [] s rfl h)

end Network

end TelemetryGateway
