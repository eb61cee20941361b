import TelemetryGateway.Proofs.Network.Gates

/-!
# Contention for locks

The locks of a network are shared with others: gates that belong to none of its tasks take the lock
of a target and give it back when they like (`LockService.Contends`).  What the tasks know about
their own gates is not touched by that (`Network.Paired.contend`), and neither do the tasks touch
the gates of others (`Network.Spares`).
-/

namespace TelemetryGateway

namespace LockService

variable {own : Nat → Prop} {locks locks' locks'' : LockService} {gate : Nat}

/-- What others than the users of some gates may do to a lock backend. -/
structure Contends (own : Nat → Prop) (locks locks' : LockService) : Prop where
  kept : ∀ gate, own gate → ∀ held, locks.marks[gate]? = some held →
    locks'.marks[gate]? = some held
  faithful : locks.Faithful → locks'.Faithful

namespace Contends

theorem trans (h : locks.Contends own locks') (h' : locks'.Contends own locks'') :
    locks.Contends own locks'' where
  kept gate hgate held hmark := h'.kept gate hgate held (h.kept gate hgate held hmark)
  faithful hfaithful := h'.faithful (h.faithful hfaithful)

/-- Somebody makes a gate. -/
theorem made (own : Nat → Prop) (locks : LockService) (target : String) :
    locks.Contends own (locks.gate target).2 where
  kept gate _ held hmark := by
    rw [(locks.marks_gate target).2]
    exact getElem?_concat_of_getElem? hmark
  faithful h := h.gate target

/-- Somebody tries to take the lock of another gate. -/
theorem tried (hgate : ¬ own gate) (locks : LockService) :
    locks.Contends own (locks.tryAcquire gate).2 where
  kept other hother held hmark := by
    have hne : gate ≠ other := fun heq => hgate (heq.symm ▸ hother)
    rcases locks.marks_tryAcquire gate with ⟨-, -, hmarks⟩ | ⟨-, hmarks, -⟩
    · rwa [hmarks, List.getElem?_set_ne hne]
    · rwa [hmarks]
  faithful h := h.tryAcquire gate

/-- Somebody gives back the lock of another gate. -/
theorem unlocked (hgate : ¬ own gate) (locks : LockService) :
    locks.Contends own (locks.unlock gate) where
  kept other hother held hmark := by
    have hne : gate ≠ other := fun heq => hgate (heq.symm ▸ hother)
    rwa [marks_unlock, List.getElem?_set_ne hne]
  faithful h := h.unlock gate

end Contends

/-- What a task gives back is not about other gates. -/
theorem getElem?_marks_afterOutputs {own : Option Nat} (hgate : own ≠ some gate)
    (locks : LockService) (outputs : List Output) :
    (locks.afterOutputs own outputs).marks[gate]? = locks.marks[gate]? := by
  cases own with
  | none => rw [afterOutputs_none]
  | some other =>
      by_cases hmem : .unlock ∈ outputs
      · rw [marks_afterOutputs_of_mem _ _ hmem,
          List.getElem?_set_ne fun heq => hgate (congrArg some heq)]
      · rw [afterOutputs_of_notMem _ _ hmem]

end LockService

namespace Network

variable {s s' : Network} {a : Act} {g : Nat} {locks : LockService}

/-- The gates of the tasks, in the order of their numbers. -/
def gates (s : Network) : List (Option Nat) := s.drivers.map (·.gate)

theorem gates_set {t : Nat} {d d' : Driver} (hd : s.drivers[t]? = some d)
    (hgate : d'.gate = d.gate) : (s.drivers.set t d').map (·.gate) = s.gates := by
  obtain ⟨hlt, rfl⟩ := List.getElem?_eq_some_iff.mp hd
  rw [List.map_set, hgate, gates, ← List.getElem_map (f := Driver.gate), List.set_getElem_self]
  simpa using hlt

/-- No task ever gets another gate. -/
theorem gates_after (ha : s.admits a = true) : (s.after a).gates = s.gates := by
  rcases admits_cases ha with ⟨t, rfl, -⟩ | ⟨t, rfl, -⟩ | ⟨c, rfl⟩ | hsame
  · cases hmove : s.nextMove? t with
    | none => rw [after_step_of_none hmove]
    | some m =>
        rw [gates, drivers_after_step hmove]
        exact gates_set (getElem?_drivers (nextMove?_eq_some hmove).1) rfl
  · cases he : s.tasks[t]? with
    | none => rw [after, destroy, he]
    | some e =>
        rw [gates, after, drivers_destroy he]
        exact gates_set (getElem?_drivers he) rfl
  · rw [gates, after, drivers_disconnect]
    rfl
  · rw [gates, hsame.drivers]
    rfl

theorem gates_abort (s : Network) (t : Nat) : (s.abort t).gates = s.gates := by
  rw [gates, show (s.abort t).drivers = s.drivers from drivers_modifyTask s t fun _ => rfl]
  rfl

theorem mem_gates {t : Nat} {d : Driver} (hd : s.drivers[t]? = some d) (hgate : d.gate = some g) :
    some g ∈ s.gates :=
  hgate ▸ List.mem_map_of_mem (List.mem_of_getElem? hd)

/-- No task touches the gate of somebody else. -/
theorem getElem?_marks_after (ha : s.admits a = true) (hg : some g ∉ s.gates) :
    (s.after a).locks.marks[g]? = s.locks.marks[g]? := by
  have hother : ∀ {t : Nat} {d : Driver}, s.drivers[t]? = some d → d.gate ≠ some g :=
    fun hd hgate => hg (mem_gates hd hgate)
  rcases admits_cases ha with ⟨t, rfl, -⟩ | ⟨t, rfl, -⟩ | ⟨c, rfl⟩ | hsame
  · cases hmove : s.nextMove? t with
    | none => rw [after_step_of_none hmove]
    | some m =>
        obtain ⟨he, -, reply, hreply, -⟩ := nextMove?_eq_some hmove
        have hown : m.entry.gate ≠ some g := hother (getElem?_drivers he)
        have hanswer := answer_of_reply? hreply
        rw [locks_after_step hmove, LockService.getElem?_marks_afterOutputs hown]
        generalize m.answered.locks = locks, m.answered.links = links at hanswer
        cases hanswer with
        | @lock gate _ hgate =>
            have hne : gate ≠ g := fun heq => hown (heq ▸ hgate)
            rcases s.locks.marks_tryAcquire gate with ⟨-, -, hmarks⟩ | ⟨-, hmarks, -⟩
            · rw [hmarks, List.getElem?_set_ne hne]
            · rw [hmarks]
        | opened | event | other => rfl
  · cases he : s.tasks[t]? with
    | none => rw [after, destroy, he]
    | some e =>
        have hown : e.gate ≠ some g := hother (getElem?_drivers he)
        rw [after, locks_destroy he]
        cases hgate : e.gate with
        | none => rfl
        | some gate =>
            rw [Option.elim_some, LockService.marks_unlock, List.getElem?_set_ne]
            exact fun heq => hown (heq ▸ hgate)
  · rw [after, (disconnect_frame s c).1]
  · rw [hsame.locks]

/-- Whether the tasks have the gates that they had, and the gates of others hold what they held. -/
structure Spares (s s' : Network) : Prop where
  gates : s'.gates = s.gates
  marks : ∀ g, some g ∉ s.gates → s'.locks.marks[g]? = s.locks.marks[g]?

namespace Spares

theorem refl (s : Network) : s.Spares s := ⟨rfl, fun _ _ => rfl⟩

theorem after (h : s.Spares s') (ha : s'.admits a = true) : s.Spares (s'.after a) where
  gates := (gates_after ha).trans h.gates
  marks g hg := (getElem?_marks_after ha (h.gates ▸ hg)).trans (h.marks g hg)

theorem report (h : s.Spares s') (name : String) (o : Occurrence) :
    s.Spares (s'.report name o) where
  gates := h.gates
  marks := h.marks

theorem abort (h : s.Spares s') (t : Nat) : s.Spares (s'.abort t) where
  gates := (gates_abort s' t).trans h.gates
  marks := h.marks

theorem passes (h : s.Spares s') (hpasses : s'.Passes s'') : s.Spares s'' := by
  induction hpasses with
  | refl => exact h
  | act _ ha ih => exact ih.after (admits_of_passing ha)

end Spares

/-- What the loops know of their gates is not touched by the users of other gates. -/
theorem Paired.contend (h : s.Paired)
    (hlocks : s.locks.Contends (some · ∈ s.gates) locks) : Paired { s with locks } where
  length := h.length
  connection := h.connection
  isLoop := h.isLoop
  keepsLock := h.keepsLock
  gate t d hd := by
    obtain ⟨g, hg, hmark⟩ := h.gate t d hd
    exact ⟨g, hg, hlocks.kept g (mem_gates hd hg) _ hmark⟩
  unique := h.unique
  fits := h.fits

end Network

end TelemetryGateway
