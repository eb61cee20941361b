import TelemetryGateway.Proofs.Lock.Fleet

/-!
# Exclusion by lock files

Whatever the gates of a lock directory do, and whatever other programs do to everything but the lock
files, at most one gate holds a lock file, and an attempt to take it is answered by who holds it and
what can be written (`LockFleet.Excludes`).  An attempt that fails leaves nothing that anybody would
notice later: the lock file that it may have made is there for everyone, and held by nobody.

Other programs can put a folder in the place of a sidecar.  Then nobody can take the lock until the
folder is gone, and this is the only thing that can be in the way once the holder has given it back.
-/

namespace TelemetryGateway.LockFleet

open LockDirectory

/-- How the gates of a directory exclude each other. -/
structure Excludes (f : LockFleet) : Prop where
  /-- At most one gate holds a lock file. -/
  unique {gate gate' : Nat} {n : String} : f.directory.lockFile? gate = some n →
    f.directory.lockFile? gate' = some n → f.directory.holds gate = true →
    f.directory.holds gate' = true → gate = gate'
  /-- An attempt tells whether the gate holds its lock afterwards. -/
  answer (gate : Nat) : (f.tryAcquire gate).1 = true ↔
    (f.after (.tryAcquire gate)).directory.holds gate = true
  /-- It succeeds exactly if the gate holds the lock already, or nobody does and both files can be
  written. -/
  succeeds (gate : Nat) : (f.tryAcquire gate).1 = true ↔ f.directory.holds gate = true ∨
    ∃ n, f.directory.lockFile? gate = some n ∧
      (∀ other, f.directory.lockFile? other = some n → f.directory.holds other = false) ∧
      f.directory.CanWrite n ∧ f.directory.CanWrite (LockFile.sidecar n)
  /-- An attempt that fails changes nothing for anybody, now or later. -/
  refused {gate : Nat} : (f.tryAcquire gate).1 = false →
    (∀ other, (f.after (.tryAcquire gate)).directory.holds other = f.directory.holds other) ∧
    ∀ later : List LockAct, (∀ a ∈ later, a.SparesLockFiles) →
      (f.after (.tryAcquire gate)).answers later = f.answers later ∧
      ∀ other, ((f.after (.tryAcquire gate)).afterAll later).directory.holds other =
        (f.afterAll later).directory.holds other
  /-- A gate that holds nothing gives nothing back. -/
  idle {gate : Nat} : f.directory.holds gate = false →
    f.after (.unlock gate) = f ∧ f.after (.drop gate) = f
  /-- Once the holder has given the lock back, or has gone out of use, nobody holds it, and any gate
  of that lock file can take it if no folder is in the place of the sidecar. -/
  released {gate : Nat} {n : String} {a : LockAct} : f.directory.lockFile? gate = some n →
    f.directory.holds gate = true → a = .unlock gate ∨ a = .drop gate →
    ∀ other, f.directory.lockFile? other = some n →
      (f.after a).directory.holds other = false ∧
      (((f.after a).tryAcquire other).1 = true ↔
        f.directory.entry? (LockFile.sidecar n) ≠ some .folder)

variable {f : LockFleet} {gate : Nat}

theorem holds_after_tryAcquire (f : LockFleet) (gate other : Nat) :
    (f.after (.tryAcquire gate)).directory.holds other =
      if other = gate then (f.tryAcquire gate).1 else f.directory.holds other :=
  (f.attempt gate).holds other

/-- A directory cannot be told from what an attempt that failed leaves of it. -/
theorem alike_of_refused (W : String → Prop) (h : (f.tryAcquire gate).1 = false) :
    Alike W f.directory (f.after (.tryAcquire gate)).directory := by
  have hattempt := f.attempt gate
  rw [h] at hattempt
  exact (alike_seenBy W f gate).trans (.of_refused hattempt)

theorem tryAcquire_iff (h : f.directory.Exclusive) (gate : Nat) : (f.tryAcquire gate).1 = true ↔
    f.directory.holds gate = true ∨ ∃ n, f.directory.lockFile? gate = some n ∧
      f.directory.IsFree n ∧ f.directory.CanWrite n ∧ f.directory.CanWrite (LockFile.sidecar n) :=
  (exclusive_seenBy h gate).attempt_iff (f.attempt gate)

theorem excludes_of_exclusive (h : f.directory.Exclusive) : f.Excludes where
  unique hlock hlock' hholds hholds' := h.unique hlock hlock' hholds hholds'
  answer gate := by rw [holds_after_tryAcquire, if_pos rfl]
  succeeds gate := tryAcquire_iff h gate
  refused {gate} hrefused := by
    have hlike := alike_of_refused (fun _ => True) hrefused
    refine ⟨fun other => hlike.holds_same fun _ => trivial, fun later hlater => ?_⟩
    obtain ⟨hanswers, hlater⟩ := answers_eq hlike h (exclusive_after h trivial) hlater
    exact ⟨hanswers, fun other => hlater.holds_same fun _ => trivial⟩
  idle {gate} hidle := by
    have hsame : f.directory.unlock gate = f.directory :=
      (f.directory.release gate).eq_of_idle hidle
    exact ⟨by simp only [after, hsame], by simp only [after, hsame]⟩
  released {gate n a} hlock hholds ha other hother := by
    have hafter : (f.after a).directory = f.directory.unlock gate := by
      rcases ha with rfl | rfl <;> rfl
    have hrelease := hafter ▸ f.directory.release gate
    have hexclusive : (f.after a).directory.Exclusive := h.release hrelease
    have hfree := h.isFree_released hlock hholds hrelease
    obtain ⟨hcan, hcan'⟩ := h.canWrite_released hlock hholds hrelease
    have hother' : (f.after a).directory.lockFile? other = some n :=
      (hrelease.lockFile? other).trans hother
    refine ⟨hfree other hother', ?_⟩
    rw [tryAcquire_iff hexclusive, hfree other hother', hother', ← hcan']
    constructor
    · rintro (hheld | ⟨n, ⟨⟩, -, -, hwrite⟩)
      · cases hheld
      · exact hwrite
    · exact fun hwrite => .inr ⟨n, rfl, hfree, hcan, hwrite⟩

/-- From an unused directory on the gates exclude each other, if nobody removes lock files. -/
theorem excludes_afterAll {start : LockFleet} {acts : List LockAct}
    (hstart : start.directory.Unused) (hacts : ∀ a ∈ acts, a.KeepsLockFiles) :
    (start.afterAll acts).Excludes :=
  excludes_of_exclusive (exclusive_afterAll hstart.exclusive hacts)

/-- Two processes want one lock while another program puts a folder in the place of the sidecar and
takes it away again: the first attempt fails, the second one does not suffer from it. -/
theorem excludes_two_processes :
    let start : LockFleet := ⟨{ pid := 7, clock := 0 }, []⟩
    let sidecar := LockFile.sidecar "edge.lock"
    let acts : List LockAct := [.gate 7 "edge", .gate 8 "edge", .makeFolder sidecar, .tryAcquire 0,
      .remove sidecar, .tryAcquire 1, .tryAcquire 0]
    (start.afterAll acts).Excludes ∧ start.answers acts = [false, true, false] := by
  refine ⟨excludes_afterAll (unused_of_empty rfl rfl) ?_, by decide +kernel⟩
  simp [LockAct.KeepsLockFiles, LockFile.not_isLockName_sidecar]

end TelemetryGateway.LockFleet
