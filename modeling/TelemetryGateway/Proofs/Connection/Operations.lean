import Mathlib.Data.List.Induction
import TelemetryGateway.Proofs.Connection.Moves

/-!
# What an acquisition loop does with a slot and a lock

An acquisition loop asks for a slot until it gets one, then for the lock until it gets that, and
then makes one attempt to connect after the other; it pauses after whatever has failed.  When it
sees that the connection was stopped it gives back what it has got and is over.

Here this is a law about the loop alone, under any surroundings: an `Encounter` is a connection as
the loop may find it and a reply that it may be told, and nothing is assumed about either.  What the
loop does in its moves is a list of `Operation`s.  `Progress` is how far a loop has come, with the
operations that have led there; `Task.Follows` says for each point which operations lie behind a
loop that has come to it.

* `Task.Follows.resume`: every move keeps to the law, whatever the reply;
* `Task.follows_operationsAll`: so does every sequence of moves of a new loop;
* `Task.Follows.exists_word`, `Task.Follows.exists_word_eq`: the operations are the beginning of a
  `Progress.word`, and a whole one once the loop is over;
* `Progress.inOrder_word`: what the words say about the order of any two operations.
-/

namespace TelemetryGateway

/-! ## Operations -/

/-- What an acquisition loop does, as far as its slot, its lock, its attempts to connect and its
pauses are concerned. -/
inductive Operation where
  /-- A slot was asked for. -/
  | slot (granted : Bool)
  /-- The lock was asked for. -/
  | lock (granted : Bool)
  /-- An attempt to connect begins. -/
  | connect
  /-- An attempt to connect has ended. -/
  | outcome (outcome : ConnectOutcome)
  | pause
  /-- The loop has seen that the connection was stopped. -/
  | stopSeen
  | releaseSlot
  | unlock
deriving DecidableEq

/-- A connection as a task finds it, and what the task is told then. -/
structure Encounter where
  connection : Connection
  reply : Reply

namespace Point

/-- What a task has done that is told something at a point. -/
def answered : Point → Reply → List Operation
  | .takingSlot, .granted => [.slot true]
  | .takingSlot, .denied => [.slot false]
  | .takingLock, .granted => [.lock true]
  | .takingLock, .denied => [.lock false]
  | .pausing, .restUntil _ => [.pause]
  | _, _ => []

/-- What a task has done that goes from one point to another.  An attempt to connect has opened a
subscription if it has had a link. -/
def crossed (before after : Point) : List Operation :=
  match before.isConnecting, after.isConnecting with
  | false, true => [.connect]
  | true, false => [.outcome (if before.link?.isSome then .established else .failed)]
  | _, _ =>
      match before, after with
      | .checking, .leaving => [.stopSeen]
      | _, _ => []

end Point

/-- What is given back with an output. -/
def Output.operation? : Output → Option Operation
  | .releaseSlot => some .releaseSlot
  | .unlock => some .unlock
  | .call _ | .report _ | .closeLink _ | .dropLink _ => none

/-- What is given back with some outputs, in their order. -/
def Output.returned (outputs : List Output) : List Operation :=
  outputs.filterMap Output.operation?

namespace Output

@[simp] theorem returned_nil : returned [] = [] := rfl

@[simp] theorem returned_cons (o : Output) (rest : List Output) :
    returned (o :: rest) = o.operation?.toList ++ returned rest := by
  cases o <;> rfl

@[simp] theorem returned_append (first rest : List Output) :
    returned (first ++ rest) = returned first ++ returned rest :=
  List.filterMap_append

@[simp] theorem returned_outputs (r : Reaction) : returned r.outputs = [] := by
  refine List.filterMap_eq_nil_iff.mpr fun o ho => ?_
  rcases List.mem_append.mp ho with ho | ho
  · obtain ⟨call, -, rfl⟩ := List.mem_map.mp ho
    rfl
  · obtain ⟨occurrence, -, rfl⟩ := List.mem_map.mp ho
    rfl

end Output

namespace Task

/-- What a task does in a move. -/
def operations (t : Task) (c : Connection) (reply : Reply) : List Operation :=
  let move := t.resume c reply
  t.point.answered reply ++ t.point.crossed move.task.point ++ Output.returned move.outputs

/-- A task after some moves. -/
def resumeAll (t : Task) : List Encounter → Task
  | [] => t
  | e :: rest => (t.resume e.connection e.reply).task.resumeAll rest

/-- What a task does in some moves. -/
def operationsAll (t : Task) : List Encounter → List Operation
  | [] => []
  | e :: rest =>
      t.operations e.connection e.reply ++
        (t.resume e.connection e.reply).task.operationsAll rest

end Task

/-! ## Words -/

/-- How far an acquisition loop has come: without a slot, with a slot and without the lock, or with
both.  It keeps how often it was refused, and how its attempts to connect have ended. -/
inductive Progress where
  | slotless (refusals : Nat)
  | lockless (refusals lockRefusals : Nat)
  | owning (refusals lockRefusals : Nat) (outcomes : List ConnectOutcome)

namespace Progress

/-- Something was tried in vain some times, with a pause after each time. -/
def retries (op : Operation) (n : Nat) : List Operation := (List.replicate n [op, .pause]).flatten

/-- An attempt to connect, with a pause if it has failed. -/
def attempt : ConnectOutcome → List Operation
  | .established => [.connect, .outcome .established]
  | .failed => [.connect, .outcome .failed, .pause]

/-- What lies behind a loop that has come so far. -/
def operations : Progress → List Operation
  | slotless i => retries (.slot false) i
  | lockless i j => retries (.slot false) i ++ .slot true :: retries (.lock false) j
  | owning i j outcomes =>
      retries (.slot false) i ++ .slot true :: retries (.lock false) j ++
        .lock true :: outcomes.flatMap attempt

/-- What a loop that has come so far gives back at its end. -/
def returns : Progress → List Operation
  | slotless _ => []
  | lockless _ _ => [.releaseSlot]
  | owning _ _ _ => [.releaseSlot, .unlock]

/-- What a loop does in its whole life that sees the stop when it has come so far. -/
def word (p : Progress) : List Operation := p.operations ++ .stopSeen :: p.returns

/-- Whether a loop that has come so far has a slot. -/
def hasSlot : Progress → Bool
  | slotless _ => false
  | lockless _ _ | owning _ _ _ => true

/-- Whether a loop that has come so far has the lock. -/
def hasLock : Progress → Bool
  | slotless _ | lockless _ _ => false
  | owning _ _ _ => true

theorem hasSlot_of_hasLock {p : Progress} (h : p.hasLock = true) : p.hasSlot = true := by
  cases p with
  | slotless => cases h
  | lockless | owning => rfl

theorem retries_succ (op : Operation) (n : Nat) :
    retries op (n + 1) = retries op n ++ [op, .pause] := by
  rw [retries, retries, List.replicate_succ', List.flatten_append, List.flatten_singleton]

theorem operations_slotless_succ (i : Nat) :
    (slotless (i + 1)).operations = (slotless i).operations ++ [.slot false] ++ [.pause] := by
  rw [operations, retries_succ, operations, List.append_assoc]
  rfl

theorem operations_lockless_succ (i j : Nat) :
    (lockless i (j + 1)).operations = (lockless i j).operations ++ [.lock false] ++ [.pause] := by
  simp [operations, retries_succ]

theorem operations_owning_nil (i j : Nat) :
    (owning i j []).operations = (lockless i j).operations ++ [.lock true] := rfl

theorem operations_owning_concat (i j : Nat) (outcomes : List ConnectOutcome)
    (outcome : ConnectOutcome) :
    (owning i j (outcomes ++ [outcome])).operations =
      (owning i j outcomes).operations ++ attempt outcome := by
  simp [operations]

end Progress

/-! ## The order of operations -/

/-- What must have happened before an operation, and what must not: nothing is asked for again once
it was granted, the lock needs a slot, an attempt to connect needs both, and only the stop makes a
loop give something back. -/
def Operation.IsDue (earlier : List Operation) : Operation → Prop
  | .slot _ => .slot true ∉ earlier
  | .lock _ => .slot true ∈ earlier ∧ .lock true ∉ earlier
  | .connect => .slot true ∈ earlier ∧ .lock true ∈ earlier
  | .releaseSlot => .slot true ∈ earlier ∧ .stopSeen ∈ earlier ∧ .releaseSlot ∉ earlier
  | .unlock => .lock true ∈ earlier ∧ .stopSeen ∈ earlier ∧ .unlock ∉ earlier
  | .outcome _ | .pause => .stopSeen ∉ earlier
  | .stopSeen => .stopSeen ∉ earlier

/-- Every one of some operations is due when it comes, after the earlier ones. -/
def Operation.InOrder (earlier : List Operation) : List Operation → Prop
  | [] => True
  | op :: rest => op.IsDue earlier ∧ InOrder (earlier ++ [op]) rest

namespace Operation.InOrder

variable {earlier first rest : List Operation}

theorem append :
    InOrder earlier (first ++ rest) ↔ InOrder earlier first ∧ InOrder (earlier ++ first) rest := by
  induction first generalizing earlier with
  | nil => simp [InOrder]
  | cons op first ih => simp [InOrder, ih, and_assoc]

/-- Where operations are in order, each of them is due after those before it. -/
theorem isDue {op : Operation} (h : InOrder [] (first ++ op :: rest)) : op.IsDue first :=
  (append.mp h).2.1

end Operation.InOrder

namespace Progress

open Operation

variable {earlier : List Operation} {op other : Operation}

theorem mem_retries {n : Nat} :
    other ∈ retries op n ↔ n ≠ 0 ∧ (other = op ∨ other = .pause) := by
  simp [retries, List.mem_flatten, List.mem_replicate]

theorem mem_attempts {outcomes : List ConnectOutcome} (h : other ∈ outcomes.flatMap attempt) :
    other = .connect ∨ other = .pause ∨ ∃ outcome, other = .outcome outcome := by
  obtain ⟨outcome, -, hmem⟩ := List.mem_flatMap.mp h
  cases outcome <;> simp [attempt] at hmem <;> rcases hmem with rfl | rfl | rfl <;> simp

/-- What is tried in vain stays due. -/
theorem inOrder_retries (n : Nat) (hstop : .stopSeen ∉ earlier) (hop : op ≠ .stopSeen)
    (hdue : ∀ n, op.IsDue (earlier ++ retries op n)) : InOrder earlier (retries op n) := by
  induction n with
  | zero => trivial
  | succ n ih =>
      rw [retries_succ, InOrder.append]
      refine ⟨ih, hdue n, ?_, trivial⟩
      simp [IsDue, hstop, mem_retries, hop.symm]

theorem inOrder_attempts (outcomes : List ConnectOutcome) (hstop : .stopSeen ∉ earlier)
    (hslot : .slot true ∈ earlier) (hlock : .lock true ∈ earlier) :
    InOrder earlier (outcomes.flatMap attempt) := by
  induction outcomes using List.reverseRecOn with
  | nil => trivial
  | append_singleton outcomes outcome ih =>
      rw [List.flatMap_append, List.flatMap_singleton, InOrder.append]
      have hfresh : .stopSeen ∉ outcomes.flatMap attempt := fun h => by simpa using mem_attempts h
      refine ⟨ih, ?_⟩
      cases outcome <;> simp [attempt, InOrder, IsDue, hslot, hlock, hstop, hfresh]

/-! What a loop has done until it sees the stop shows what it has got, and nothing of its end. -/

theorem slot_mem_operations (p : Progress) : .slot true ∈ p.operations ↔ p.hasSlot = true := by
  cases p <;> simp [operations, hasSlot, mem_retries]

theorem lock_mem_operations (p : Progress) : .lock true ∈ p.operations ↔ p.hasLock = true := by
  cases p <;> simp [operations, hasLock, mem_retries]

theorem notMem_operations (p : Progress) :
    .stopSeen ∉ p.operations ∧ .releaseSlot ∉ p.operations ∧ .unlock ∉ p.operations := by
  have hattempts (op : Operation) (hop : op = .stopSeen ∨ op = .releaseSlot ∨ op = .unlock)
      (outcomes : List ConnectOutcome) : op ∉ outcomes.flatMap attempt := by
    intro hmem
    rcases hop with rfl | rfl | rfl <;> simpa using mem_attempts hmem
  cases p <;> simp [operations, mem_retries, hattempts]

theorem inOrder_operations (p : Progress) : InOrder [] p.operations := by
  have hslotless (i : Nat) : InOrder [] (slotless i).operations :=
    inOrder_retries i (by simp) (by simp) fun n => by simp [IsDue, mem_retries]
  have hlockless (i j : Nat) : InOrder [] (lockless i j).operations := by
    refine InOrder.append.mpr ⟨hslotless i, ?_, ?_⟩
    · simp [IsDue, mem_retries]
    · exact inOrder_retries j (by simp [mem_retries]) (by simp) fun n => by
        simp [IsDue, mem_retries]
  cases p with
  | slotless i => exact hslotless i
  | lockless i j => exact hlockless i j
  | owning i j outcomes =>
      refine InOrder.append.mpr ⟨hlockless i j, ?_, ?_⟩
      · simp [IsDue, mem_retries]
      · exact inOrder_attempts outcomes (by simp [mem_retries]) (by simp) (by simp)

/-- The operations of every word are in order. -/
theorem inOrder_word (p : Progress) : InOrder [] p.word := by
  obtain ⟨hstop, hslot, hlock⟩ := p.notMem_operations
  refine InOrder.append.mpr ⟨p.inOrder_operations, hstop, ?_⟩
  have hgot := p.slot_mem_operations
  have howns := p.lock_mem_operations
  cases p <;> simp_all [returns, InOrder, IsDue, hasSlot, hasLock]

end Progress

/-! ## The law -/

namespace Task

/-- Which operations lie behind a loop, by its point. -/
inductive Follows : List Operation → Task → Prop
  | entering : Follows [] .loop
  | checking (p : Progress) : Follows p.operations ⟨true, p.hasSlot, p.hasLock, .checking⟩
  | takingSlot (i : Nat) :
      Follows (Progress.slotless i).operations ⟨true, false, false, .takingSlot⟩
  | takingLock (i j : Nat) :
      Follows (Progress.lockless i j).operations ⟨true, true, false, .takingLock⟩
  | connecting (i j : Nat) (outcomes : List ConnectOutcome) {point : Point} :
      point.isConnecting = true →
      Follows ((Progress.owning i j outcomes).operations ++ [.connect]) ⟨true, true, true, point⟩
  | pausing {p : Progress} {earlier : List Operation} : p.operations = earlier ++ [.pause] →
      Follows earlier ⟨true, p.hasSlot, p.hasLock, .pausing⟩
  | resting (p : Progress) (time : Nat) :
      Follows p.operations ⟨true, p.hasSlot, p.hasLock, .resting time⟩
  | leaving (p : Progress) :
      Follows (p.operations ++ [.stopSeen]) ⟨true, p.hasSlot, p.hasLock, .leaving⟩
  | stopped (p : Progress) : Follows p.word ⟨true, false, false, .finished (.loop (.ok ()))⟩
  | refused (e : GatewayError) : Follows [] ⟨true, false, false, .finished (.loop (.error e))⟩

variable {t : Task} {earlier : List Operation} (c : Connection) (reply : Reply)

/-- What a loop does in a move from inside an attempt to connect. -/
theorem resume_of_isConnecting {point : Point} (h : point.isConnecting = true) :
    let t : Task := ⟨true, true, true, point⟩
    (∃ point' : Point, point'.isConnecting = true ∧
        (t.resume c reply).task = ⟨true, true, true, point'⟩ ∧ t.operations c reply = []) ∨
      ((t.resume c reply).task = ⟨true, true, true, .checking⟩ ∧
        t.operations c reply = [.outcome .established]) ∨
      ((t.resume c reply).task = ⟨true, true, true, .pausing⟩ ∧
        t.operations c reply = [.outcome .failed]) := by
  intro t
  unfold operations
  fun_cases Task.resume t c reply
  all_goals simp_all +zetaDelta [Point.isConnecting, giveUp, conclude, Point.answered,
    Point.crossed, Output.operation?, Point.link?]
  -- the dial has given a link, or a message has arrived
  all_goals split <;> rfl

/-- What a loop has, by its point. -/
structure Holds (t : Task) : Prop where
  takingSlot : t.point = .takingSlot → t.hasSlot = false
  takingLock : t.point = .takingLock → t.hasSlot = true ∧ t.hasLock = false
  connecting : t.point.isConnecting = true → t.hasSlot = true ∧ t.hasLock = true
  isEngaged : t.hasSlot = true → t.point.isEngaged = true
  hasSlot : t.hasLock = true → t.hasSlot = true

namespace Follows

variable {c c' : Connection} {reply : Reply} {t' : Task} {outputs : List Output}

theorem of_move (operations : List Operation) (h : Follows (earlier ++ operations) t')
    (hmove : t.resume c reply = ⟨c', t', outputs⟩)
    (hoperations : t.point.answered reply ++ t.point.crossed t'.point ++ Output.returned outputs =
      operations) :
    Follows (earlier ++ t.operations c reply) (t.resume c reply).task := by
  rwa [Task.operations, hmove, hoperations]

/-- A loop that does nothing in its move keeps to the law if it may be where it gets to. -/
theorem of_idle (h : Follows earlier t') (hmove : t.resume c reply = ⟨c', t', outputs⟩)
    (hidle : t.point.answered reply ++ t.point.crossed t'.point ++ Output.returned outputs = []) :
    Follows (earlier ++ t.operations c reply) (t.resume c reply).task :=
  of_move [] (by rwa [List.append_nil]) hmove hidle

/-- A loop that begins another round sees the stop, or goes on with what it has not got yet. -/
theorem resume_checking (p : Progress) (c : Connection) :
    let t : Task := ⟨true, p.hasSlot, p.hasLock, .checking⟩
    Follows (p.operations ++ t.operations c .proceed) (t.resume c .proceed).task := by
  intro t
  cases hstop : c.phase.isStopped with
  | true =>
      have hmove : t.resume c .proceed = ⟨c, ⟨true, p.hasSlot, p.hasLock, .leaving⟩, []⟩ := by
        simp [Task.resume, t, hstop]
      exact (leaving p).of_move [.stopSeen] hmove rfl
  | false =>
      cases p with
      | slotless i =>
          have hmove : t.resume c .proceed = ⟨c, ⟨true, false, false, .takingSlot⟩, []⟩ := by
            simp [Task.resume, t, hstop, Progress.hasSlot, Progress.hasLock]
          exact (takingSlot i).of_idle hmove rfl
      | lockless i j =>
          have hmove : t.resume c .proceed = ⟨c, ⟨true, true, false, .takingLock⟩, []⟩ := by
            simp [Task.resume, t, hstop, Progress.hasSlot, Progress.hasLock]
          exact (takingLock i j).of_idle hmove rfl
      | owning i j outcomes =>
          have hmove : t.resume c .proceed = ⟨c, ⟨true, true, true, .starting⟩, []⟩ := by
            simp [Task.resume, t, hstop, Progress.hasSlot, Progress.hasLock]
          exact (connecting i j outcomes rfl).of_move [.connect] hmove rfl

/-- Every move of a loop keeps to the law.  A reply that does not answer what the loop has asked
moves nothing. -/
theorem resume (h : Follows earlier t) (c : Connection) (reply : Reply) :
    Follows (earlier ++ t.operations c reply) (t.resume c reply).task := by
  cases h with
  | entering =>
      cases reply with
      | proceed =>
          cases hrunning : c.running with
          | true =>
              have hmove : loop.resume c .proceed =
                  ⟨c, ⟨true, false, false, .finished (.loop (.error (.alreadyRunning c.name)))⟩,
                    []⟩ := by
                simp [Task.resume, loop, hrunning]
              exact (refused _).of_idle hmove rfl
          | false =>
              have hmove : loop.resume c .proceed =
                  ⟨{ c with running := true }, ⟨true, false, false, .checking⟩, []⟩ := by
                simp [Task.resume, loop, hrunning]
              exact (checking (.slotless 0)).of_idle hmove rfl
      | _ => exact entering.of_idle rfl rfl
  | checking p =>
      cases reply with
      | proceed => exact resume_checking p c
      | _ => exact (checking p).of_idle rfl rfl
  | takingSlot i =>
      cases reply with
      | granted => exact (takingLock i 0).of_move [.slot true] rfl rfl
      | denied =>
          exact (pausing (Progress.operations_slotless_succ i)).of_move [.slot false] rfl rfl
      | _ => exact (takingSlot i).of_idle rfl rfl
  | takingLock i j =>
      cases reply with
      | granted =>
          have hbegins : Follows ((Progress.owning i j []).operations ++ [.connect])
              ⟨true, true, true, .starting⟩ := connecting i j [] rfl
          rw [Progress.operations_owning_nil, List.append_assoc] at hbegins
          exact hbegins.of_move [.lock true, .connect] rfl rfl
      | denied =>
          exact (pausing (Progress.operations_lockless_succ i j)).of_move [.lock false] rfl rfl
      | _ => exact (takingLock i j).of_idle rfl rfl
  | connecting i j outcomes hpoint =>
      rcases resume_of_isConnecting c reply hpoint with
        ⟨point', hpoint', htask, hoperations⟩ | ⟨htask, hoperations⟩ | ⟨htask, hoperations⟩
      · rw [htask, hoperations, List.append_nil]
        exact connecting i j outcomes hpoint'
      · rw [htask, hoperations, List.append_assoc]
        have hends := checking (.owning i j (outcomes ++ [.established]))
        rwa [Progress.operations_owning_concat] at hends
      · rw [htask, hoperations]
        have hends : (Progress.owning i j (outcomes ++ [.failed])).operations =
            (Progress.owning i j outcomes).operations ++ [.connect] ++ [.outcome .failed] ++
              [.pause] := by
          simp [Progress.operations_owning_concat, Progress.attempt]
        exact pausing hends
  | @pausing p _ hp =>
      cases reply with
      | restUntil time =>
          cases hstop : c.phase.isStopped with
          | true =>
              have hmove : (⟨true, p.hasSlot, p.hasLock, .pausing⟩ : Task).resume c
                  (.restUntil time) = ⟨c, ⟨true, p.hasSlot, p.hasLock, .checking⟩, []⟩ := by
                simp [Task.resume, hstop]
              exact of_move [.pause] (hp ▸ checking p) hmove rfl
          | false =>
              have hmove : (⟨true, p.hasSlot, p.hasLock, .pausing⟩ : Task).resume c
                  (.restUntil time) = ⟨c, ⟨true, p.hasSlot, p.hasLock, .resting time⟩, []⟩ := by
                simp [Task.resume, hstop]
              exact of_move [.pause] (hp ▸ resting p time) hmove rfl
      | _ => exact (pausing hp).of_idle rfl rfl
  | resting p time =>
      cases reply with
      | proceed => exact (checking p).of_idle rfl rfl
      | _ => exact (resting p time).of_idle rfl rfl
  | leaving p =>
      cases reply with
      | proceed =>
          refine of_move p.returns ?_ rfl (by cases p <;> rfl)
          rw [List.append_assoc]
          exact stopped p
      | _ => exact (leaving p).of_idle rfl rfl
  | stopped p =>
      have hmove : (⟨true, false, false, .finished (.loop (.ok ()))⟩ : Task).resume c reply =
          ⟨c, ⟨true, false, false, .finished (.loop (.ok ()))⟩, []⟩ := by
        cases reply <;> rfl
      exact (stopped p).of_idle hmove rfl
  | refused e =>
      have hmove : (⟨true, false, false, .finished (.loop (.error e))⟩ : Task).resume c reply =
          ⟨c, ⟨true, false, false, .finished (.loop (.error e))⟩, []⟩ := by
        cases reply <;> rfl
      exact (refused e).of_idle hmove rfl

/-! ### What the law says -/

/-- What a loop has done is the beginning of a word. -/
theorem exists_word (h : Follows earlier t) : ∃ p : Progress, earlier <+: p.word := by
  cases h with
  | entering => exact ⟨.slotless 0, List.nil_prefix⟩
  | refused => exact ⟨.slotless 0, List.nil_prefix⟩
  | checking p => exact ⟨p, List.prefix_append _ _⟩
  | resting p => exact ⟨p, List.prefix_append _ _⟩
  | takingSlot i => exact ⟨.slotless i, List.prefix_append _ _⟩
  | takingLock i j => exact ⟨.lockless i j, List.prefix_append _ _⟩
  | connecting i j outcomes =>
      refine ⟨.owning i j (outcomes ++ [.failed]), ?_⟩
      rw [Progress.word, Progress.operations_owning_concat, List.append_assoc]
      exact (List.prefix_append_right_inj _).mpr (List.prefix_append [Operation.connect] _)
  | @pausing p _ hp =>
      refine ⟨p, ?_⟩
      rw [Progress.word, hp, List.append_assoc]
      exact List.prefix_append _ _
  | leaving p =>
      refine ⟨p, ?_⟩
      rw [Progress.word]
      exact (List.prefix_append_right_inj _).mpr (List.prefix_append [Operation.stopSeen] _)
  | stopped p => exact ⟨p, List.prefix_refl _⟩

/-- A loop that was stopped has done a whole word. -/
theorem exists_word_eq (h : Follows earlier t) (hpoint : t.point = .finished (.loop (.ok ()))) :
    ∃ p : Progress, earlier = p.word := by
  cases h with
  | stopped p => exact ⟨p, rfl⟩
  | connecting _ _ _ hconnecting =>
      cases hpoint
      cases hconnecting
  | _ => cases hpoint

/-- A loop that was refused has done nothing. -/
theorem eq_nil_of_refused {e : GatewayError} (h : Follows earlier t)
    (hpoint : t.point = .finished (.loop (.error e))) : earlier = [] := by
  cases h with
  | refused => rfl
  | connecting _ _ _ hconnecting =>
      cases hpoint
      cases hconnecting
  | _ => cases hpoint

/-- A loop has at each point what it needs there. -/
theorem holds (h : Follows earlier t) : t.Holds := by
  cases h with
  | connecting i j outcomes hpoint =>
      refine ⟨fun h => ?_, fun h => ?_, fun _ => ⟨rfl, rfl⟩,
        fun _ => Point.isEngaged_of_isConnecting hpoint, fun _ => rfl⟩
      all_goals
        cases h
        cases hpoint
  | takingSlot => exact ⟨fun _ => rfl, nofun, nofun, nofun, nofun⟩
  | takingLock => exact ⟨nofun, fun _ => ⟨rfl, rfl⟩, nofun, fun _ => rfl, nofun⟩
  | entering | stopped | refused => exact ⟨nofun, nofun, nofun, nofun, nofun⟩
  | checking p | pausing | resting p | leaving p =>
      exact ⟨nofun, nofun, nofun, fun _ => rfl, Progress.hasSlot_of_hasLock⟩

/-- The operations of a loop are in order. -/
theorem isDue {first rest : List Operation} {op : Operation}
    (h : Follows (first ++ op :: rest) t) : op.IsDue first := by
  obtain ⟨p, after, hafter⟩ := h.exists_word
  have hword := p.inOrder_word
  rw [← hafter, List.append_assoc, List.cons_append] at hword
  exact hword.isDue

end Follows

/-- Whatever its surroundings tell it, a new loop keeps to the law. -/
theorem follows_operationsAll (encounters : List Encounter) :
    Follows (loop.operationsAll encounters) (loop.resumeAll encounters) := by
  suffices h : ∀ (earlier : List Operation) (t : Task), Follows earlier t →
      Follows (earlier ++ t.operationsAll encounters) (t.resumeAll encounters) from
    h [] loop .entering
  induction encounters with
  | nil =>
      intro earlier t h
      rwa [operationsAll, List.append_nil]
  | cons e rest ih =>
      intro earlier t h
      have := ih _ _ (h.resume e.connection e.reply)
      rwa [List.append_assoc] at this

end Task

end TelemetryGateway
