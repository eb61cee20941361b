import TelemetryGateway.Proofs.Lock.Directory
import TelemetryGateway.Proofs.Lock.Registry
import TelemetryGateway.Proofs.Network.Effect

/-!
# Gates of either lock backend

Each gate records for itself whether it holds the lock of its target: in a registry by a mark, in a
lock directory by the file that it has locked.  Loops go by what their gates record, so for them the
two backends are the same list of marks (`LockService.marks`), and each operation changes the mark
of one gate.
-/

namespace TelemetryGateway

namespace LockDirectory

/-- A gate is granted the lock if it has it already or gets a file, and else nothing changes. -/
theorem tryAcquire_cases (d : LockDirectory) (gate : Nat) :
    ((d.tryAcquire gate).1 = true ∧
        ∃ g file, d.gates[gate]? = some g ∧ (d.tryAcquire gate).2.gates =
          d.gates.set gate { g with file := some file }) ∨
      ((d.tryAcquire gate).1 = false ∧ (d.tryAcquire gate).2.gates = d.gates ∧
        ∀ g, d.gates[gate]? = some g → g.file = none) := by
  have hattempt := d.attempt gate
  generalize d.tryAcquire gate = result at hattempt
  obtain ⟨answer, d'⟩ := result
  have hnone {target : String} (hgate : d.gates[gate]? = some ⟨target, none⟩) :
      ∀ g, d.gates[gate]? = some g → g.file = none := by
    intro g hg
    rw [hgate] at hg
    cases hg
    rfl
  cases hattempt with
  | missing hgate => exact .inr ⟨rfl, rfl, by simp [hgate]⟩
  | held hgate => exact .inl ⟨rfl, _, _, hgate, congrArg gates (setGate_self hgate).symm⟩
  | closed hgate _ => exact .inr ⟨rfl, rfl, hnone hgate⟩
  | taken hgate _ hopened _ | unwritable hgate _ hopened _ _ =>
      exact .inr ⟨rfl, hopened.gates, hnone hgate⟩
  | @granted target _ id _ _ _ hgate _ hopened _ _ hwritten =>
      refine .inl ⟨rfl, ⟨target, none⟩, id, hgate, ?_⟩
      exact congrArg (·.set gate ⟨target, some id⟩) (hwritten.gates.trans hopened.gates)

end LockDirectory

namespace LockRegistry

/-- A gate is granted the lock if it has it already or the name is free, and else nothing changes.
-/
theorem tryAcquire_cases (r : LockRegistry) (gate : Nat) :
    ((r.tryAcquire gate).1 = true ∧
        ∃ g, r.gates[gate]? = some g ∧
          (r.tryAcquire gate).2.gates = r.gates.set gate { g with owned := true }) ∨
      ((r.tryAcquire gate).1 = false ∧ (r.tryAcquire gate).2.gates = r.gates ∧
        ∀ g, r.gates[gate]? = some g → g.owned = false) := by
  cases hgate : r.gates[gate]? with
  | none => exact .inr ⟨by simp [tryAcquire, hgate], by simp [tryAcquire, hgate], nofun⟩
  | some g =>
      obtain ⟨target, owned⟩ := g
      cases owned with
      | true =>
          rw [tryAcquire_of_owned hgate]
          obtain ⟨hlt, hsame⟩ := List.getElem?_eq_some_iff.mp hgate
          refine .inl ⟨rfl, _, rfl, ?_⟩
          rw [← hsame, List.set_getElem_self]
      | false =>
          by_cases hheld : target ∈ r.held
          · rw [tryAcquire_of_held hgate hheld]
            exact .inr ⟨rfl, rfl, by rintro _ ⟨⟩; rfl⟩
          · rw [tryAcquire_of_free hgate hheld]
            exact .inl ⟨rfl, _, rfl, rfl⟩

end LockRegistry

namespace LockService

variable {outputs : List Output}

/-- What each gate records for itself: whether it holds the lock of its target. -/
def marks : LockService → List Bool
  | .registry r => r.gates.map (·.owned)
  | .directory d => d.gates.map (·.file.isSome)

/-- Whether a gate holds the lock of its target. -/
def isHeldBy (locks : LockService) (gate : Nat) : Bool := (locks.marks[gate]?).getD false

/-- A new gate is the last one and holds nothing. -/
theorem marks_gate (locks : LockService) (target : String) :
    (locks.gate target).1 = locks.marks.length ∧
      (locks.gate target).2.marks = locks.marks ++ [false] := by
  cases locks <;> simp [gate, marks, LockRegistry.gate, LockDirectory.gate]

theorem marks_unlock (locks : LockService) (gate : Nat) :
    (locks.unlock gate).marks = locks.marks.set gate false := by
  have hsame {α : Type} {gates : List α} {g : α} {f : α → Bool} (hgate : gates[gate]? = some g)
      (hf : f g = false) : gates.map f = (gates.map f).set gate false := by
    obtain ⟨hlt, rfl⟩ := List.getElem?_eq_some_iff.mp hgate
    rw [← hf, ← List.getElem_map f, List.set_getElem_self]
    simpa using hlt
  have hout {α : Type} {gates : List α} {f : α → Bool} (hgate : gates[gate]? = none) :
      gates.map f = (gates.map f).set gate false := by
    rw [List.set_eq_of_length_le]
    simpa using List.getElem?_eq_none_iff.mp hgate
  cases locks with
  | registry r =>
      simp only [unlock, marks, LockRegistry.unlock]
      cases hgate : r.gates[gate]? with
      | none => exact hout hgate
      | some g =>
          cases howned : g.owned with
          | true => simp [howned, List.map_set]
          | false => simpa [howned] using hsame hgate howned
  | directory d =>
      simp only [unlock, marks, LockDirectory.unlock]
      cases hgate : d.gates[gate]? with
      | none => exact hout hgate
      | some g =>
          cases hfile : g.file.isSome with
          | true => simp [hfile, (d.changes_removeFile _).gates, List.map_set]
          | false => simpa [hfile] using hsame (f := fun g : FileGate => g.file.isSome) hgate hfile

/-- A gate that asks for the lock has it afterwards exactly if it is granted. -/
theorem marks_tryAcquire (locks : LockService) (gate : Nat) :
    ((locks.tryAcquire gate).1 = true ∧ gate < locks.marks.length ∧
        (locks.tryAcquire gate).2.marks = locks.marks.set gate true) ∨
      ((locks.tryAcquire gate).1 = false ∧ (locks.tryAcquire gate).2.marks = locks.marks ∧
        locks.marks[gate]? ≠ some true) := by
  cases locks with
  | registry r =>
      rcases r.tryAcquire_cases gate with ⟨hgranted, g, hgate, hgates⟩ | ⟨hdenied, hgates, hfree⟩
      · refine .inl ⟨hgranted, ?_, ?_⟩
        · simpa [marks] using (List.getElem?_eq_some_iff.mp hgate).1
        · simp [tryAcquire, marks, hgates, List.map_set]
      · refine .inr ⟨hdenied, by simp [tryAcquire, marks, hgates], fun hmark => ?_⟩
        obtain ⟨g, hgate, howned⟩ := Option.map_eq_some_iff.mp
          (List.getElem?_map (f := LocalGate.owned) ▸ hmark)
        rw [hfree g hgate] at howned
        cases howned
  | directory d =>
      rcases d.tryAcquire_cases gate with
        ⟨hgranted, g, file, hgate, hgates⟩ | ⟨hdenied, hgates, hfree⟩
      · refine .inl ⟨hgranted, ?_, ?_⟩
        · simpa [marks] using (List.getElem?_eq_some_iff.mp hgate).1
        · simp [tryAcquire, marks, hgates, List.map_set]
      · refine .inr ⟨hdenied, by simp [tryAcquire, marks, hgates], fun hmark => ?_⟩
        obtain ⟨g, hgate, hfile⟩ := Option.map_eq_some_iff.mp
          (List.getElem?_map (f := fun g : FileGate => g.file.isSome) ▸ hmark)
        rw [hfree g hgate] at hfile
        cases hfile

/-! ## What a task gives back -/

theorem afterOutputs_of_notMem (locks : LockService) (gate : Option Nat)
    (h : .unlock ∉ outputs) : locks.afterOutputs gate outputs = locks := by
  induction outputs with
  | nil => rfl
  | cons o rest ih =>
      rw [List.mem_cons, not_or] at h
      cases o with
      | unlock => exact absurd rfl h.1
      | _ => exact ih h.2

/-- However often a gate is given back in one move, it holds nothing afterwards. -/
theorem marks_afterOutputs_of_mem (locks : LockService) (gate : Nat) (h : .unlock ∈ outputs) :
    (locks.afterOutputs (some gate) outputs).marks = locks.marks.set gate false := by
  induction outputs generalizing locks with
  | nil => cases h
  | cons o rest ih =>
      by_cases hrest : .unlock ∈ rest
      · cases o with
        | unlock =>
            show ((locks.unlock gate).afterOutputs (some gate) rest).marks = _
            rw [ih _ hrest, marks_unlock, List.set_set]
        | _ => exact ih locks hrest
      · rcases List.mem_cons.mp h with rfl | hmem
        · show ((locks.unlock gate).afterOutputs (some gate) rest).marks = _
          rw [afterOutputs_of_notMem _ _ hrest, marks_unlock]
        · exact absurd hmem hrest

end LockService

end TelemetryGateway
