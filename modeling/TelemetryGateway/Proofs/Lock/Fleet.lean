import TelemetryGateway.Proofs.Lock.Likeness

/-!
# A lock directory that several processes share

The gates of a lock directory can belong to several processes, each with a number of its own, and
other programs can write in the directory too.  A `LockFleet` is such a directory with the process
of each gate; what happens to it is one `LockAct` after the other.

As long as nobody removes lock files, which the gates never do, the gates exclude each other at
every moment (`LockFleet.exclusive_afterAll`).  Two directories that are alike stay alike whatever
happens to both, if nobody but the gates makes or removes lock files (`LockFleet.alike_after`).
-/

namespace TelemetryGateway

/-- A lock directory with the processes of its gates. -/
structure LockFleet where
  directory : LockDirectory
  processes : List UInt32 := []

/-- One thing that happens to a lock directory. -/
inductive LockAct where
  /-- Somebody begins to use the directory. -/
  | provider
  /-- A process makes a gate. -/
  | gate (process : UInt32) (target : String)
  | tryAcquire (gate : Nat)
  | unlock (gate : Nat)
  /-- A gate goes out of use. -/
  | drop (gate : Nat)
  /-- Somebody asks for the holder of a target's lock. -/
  | holder (target : String)
  /-- Time passes. -/
  | wait (now : UInt64)
  /-- Another program writes a file. -/
  | write (name content : String)
  /-- Another program makes a folder. -/
  | makeFolder (name : String)
  /-- Another program removes an entry. -/
  | remove (name : String)

namespace LockAct

/-- Whether something is done by the gates and those who use them. -/
def IsOwn : LockAct → Prop
  | .write .. | .makeFolder _ | .remove _ => False
  | _ => True

/-- Whether something leaves the lock files that there are. -/
def KeepsLockFiles : LockAct → Prop
  | .remove name => ¬ LockFile.IsLockName name
  | _ => True

/-- Whether something leaves it to the gates to make lock files, and does not remove them. -/
def SparesLockFiles : LockAct → Prop
  | .makeFolder name | .remove name => ¬ LockFile.IsLockName name
  | _ => True

variable {a : LockAct}

theorem IsOwn.sparesLockFiles (h : a.IsOwn) : a.SparesLockFiles := by
  cases a <;> trivial

theorem SparesLockFiles.keepsLockFiles (h : a.SparesLockFiles) : a.KeepsLockFiles := by
  cases a <;> trivial

end LockAct

namespace LockFleet

open LockDirectory

/-- The directory as the process of a gate sees it. -/
def seenBy (f : LockFleet) (gate : Nat) : LockDirectory :=
  { f.directory with pid := (f.processes[gate]?).getD f.directory.pid }

/-- Tries to take the lock of a gate. -/
def tryAcquire (f : LockFleet) (gate : Nat) : Bool × LockDirectory :=
  (f.seenBy gate).tryAcquire gate

/-- The fleet after something has happened. -/
def after (f : LockFleet) : LockAct → LockFleet
  | .provider => { f with directory := f.directory.create }
  | .gate process target => ⟨(f.directory.gate target).2, f.processes ++ [process]⟩
  | .tryAcquire gate => { f with directory := (f.tryAcquire gate).2 }
  | .unlock gate | .drop gate => { f with directory := f.directory.unlock gate }
  | .holder target => { f with directory := (f.directory.inspect target).2 }
  | .wait now => { f with directory := { f.directory with clock := now } }
  | .write name content => { f with directory := (f.directory.writeFile name content).2 }
  | .makeFolder name => { f with directory := (f.directory.makeFolder name).2 }
  | .remove name => { f with directory := f.directory.erase name }

/-- The fleet after one thing after the other has happened. -/
def afterAll (f : LockFleet) (acts : List LockAct) : LockFleet := acts.foldl after f

/-- The answers to the attempts to take a lock. -/
def answers (f : LockFleet) : List LockAct → List Bool
  | [] => []
  | .tryAcquire gate :: rest => (f.tryAcquire gate).1 :: (f.after (.tryAcquire gate)).answers rest
  | a :: rest => (f.after a).answers rest

variable {f f' : LockFleet} {a : LockAct} {acts : List LockAct} {W : String → Prop} {gate : Nat}

theorem afterAll_cons (f : LockFleet) (a : LockAct) (acts : List LockAct) :
    f.afterAll (a :: acts) = (f.after a).afterAll acts := rfl

theorem attempt (f : LockFleet) (gate : Nat) :
    Attempt (f.seenBy gate) gate (f.tryAcquire gate).1 (f.tryAcquire gate).2 :=
  (f.seenBy gate).attempt gate

/-- Asking for the holder changes nothing. -/
@[simp] theorem after_holder (f : LockFleet) (target : String) : f.after (.holder target) = f := by
  rw [after, inspect_eq]

/-! ## Exclusion -/

theorem exclusive_seenBy (h : f.directory.Exclusive) (gate : Nat) : (f.seenBy gate).Exclusive :=
  h.congr rfl rfl rfl

theorem exclusive_after (h : f.directory.Exclusive) (ha : a.KeepsLockFiles) :
    (f.after a).directory.Exclusive := by
  cases a with
  | provider =>
      show f.directory.create.Exclusive
      rwa [create_eq h.there]
  | gate process target => exact h.newGate target
  | tryAcquire gate => exact (exclusive_seenBy h gate).attempt (f.attempt gate)
  | unlock gate | drop gate => exact h.release (f.directory.release gate)
  | holder target => rwa [after_holder]
  | wait now => exact h.congr rfl rfl rfl
  | write name content =>
      show (f.directory.writeFile name content).2.Exclusive
      rcases f.directory.writeFile_cases name content with
        ⟨-, hwrite⟩ | ⟨-, id, d, hwrite, hwritten⟩
      · rwa [hwrite]
      · rw [hwrite]
        exact h.writes hwritten
  | makeFolder name =>
      obtain ⟨e, hchanges, hthere, -⟩ := f.directory.changes_makeFolder name
      refine h.changes hchanges fun {t id content} _ hentry => ⟨content, ?_⟩
      rw [hthere (by simp [hentry]), hentry]
  | remove name => exact h.changes (.of_erase _ name) fun hname _ => absurd ⟨_, hname⟩ ha

theorem exclusive_afterAll (h : f.directory.Exclusive) (hacts : ∀ a ∈ acts, a.KeepsLockFiles) :
    (f.afterAll acts).directory.Exclusive := by
  induction acts generalizing f with
  | nil => exact h
  | cons a rest ih =>
      obtain ⟨ha, hrest⟩ := List.forall_mem_cons.mp hacts
      exact ih (exclusive_after h ha) hrest

/-! ## Likeness -/

theorem alike_seenBy (W : String → Prop) (f : LockFleet) (gate : Nat) :
    Alike W f.directory (f.seenBy gate) :=
  .of_eq rfl rfl

theorem alike_after (hW : Paired W) (h : Alike W f.directory f'.directory)
    (hf : f.directory.Exclusive) (hf' : f'.directory.Exclusive) (ha : a.SparesLockFiles) :
    Alike W (f.after a).directory (f'.after a).directory := by
  cases a with
  | provider =>
      show Alike W f.directory.create f'.directory.create
      rwa [create_eq hf.there, create_eq hf'.there]
  | gate process target => exact h.newGate target
  | tryAcquire gate =>
      have hseen := ((alike_seenBy W f gate).symm.trans h).trans (alike_seenBy W f' gate)
      exact hseen.attempt hW (exclusive_seenBy hf gate) (exclusive_seenBy hf' gate)
        (f.attempt gate) (f'.attempt gate)
  | unlock gate | drop gate =>
      exact h.release hW (f.directory.release gate) (f'.directory.release gate)
  | holder target => rwa [after_holder, after_holder]
  | wait now =>
      have hwait (f : LockFleet) : Alike W f.directory (f.after (.wait now)).directory :=
        .of_eq rfl rfl
      exact ((hwait f).symm.trans h).trans (hwait f')
  | write name content =>
      obtain ⟨e, hchanges, hfolder, hnone⟩ := f.directory.changes_writeFile name content
      obtain ⟨e', hchanges', hfolder', hnone'⟩ := f'.directory.changes_writeFile name content
      refine h.changes hchanges hchanges' (fun hn => ?_) fun hn hlock => ?_
      · rw [hfolder, hfolder', h.folder hn]
      · rw [hnone, hnone', h.canWrite_iff hf hf' hn, h.there hn hlock]
  | makeFolder name =>
      obtain ⟨e, hchanges, hold, hnew⟩ := f.directory.changes_makeFolder name
      obtain ⟨e', hchanges', hold', hnew'⟩ := f'.directory.changes_makeFolder name
      have hboth (hn : W name) :
          (e' = some .folder ↔ e = some .folder) ∧ (e' = none ↔ e = none) := by
        have hnone := h.there hn ha
        by_cases hentry : f.directory.entry? name = none
        · rw [hnew hentry, hnew' (hnone.mpr hentry), hf.there, hf'.there]
          exact ⟨.rfl, .rfl⟩
        · rw [hold hentry, hold' (mt hnone.mp hentry)]
          exact ⟨h.folder hn, hnone⟩
      exact h.changes hchanges hchanges' (fun hn => (hboth hn).1) fun hn _ => (hboth hn).2
  | remove name =>
      exact h.changes (.of_erase _ name) (.of_erase _ name) (fun _ => .rfl) fun _ _ => .rfl

/-- Where two directories are alike on all names, whatever happens to both is answered in the same
way, and they are alike afterwards. -/
theorem answers_eq (h : Alike (fun _ => True) f.directory f'.directory)
    (hf : f.directory.Exclusive) (hf' : f'.directory.Exclusive)
    (hacts : ∀ a ∈ acts, a.SparesLockFiles) :
    f'.answers acts = f.answers acts ∧
      Alike (fun _ => True) (f.afterAll acts).directory (f'.afterAll acts).directory := by
  have hW : Paired fun _ => True := fun _ => .rfl
  induction acts generalizing f f' with
  | nil => exact ⟨rfl, h⟩
  | cons a rest ih =>
      obtain ⟨ha, hrest⟩ := List.forall_mem_cons.mp hacts
      obtain ⟨hanswers, hafter⟩ := ih (alike_after hW h hf hf' ha)
        (exclusive_after hf ha.keepsLockFiles) (exclusive_after hf' ha.keepsLockFiles) hrest
      refine ⟨?_, hafter⟩
      cases a with
      | tryAcquire gate =>
          have hseen := ((alike_seenBy _ f gate).symm.trans h).trans (alike_seenBy _ f' gate)
          rw [answers, answers, hanswers, hseen.answer_eq hW (exclusive_seenBy hf gate)
            (exclusive_seenBy hf' gate) (fun _ => trivial) (f.attempt gate) (f'.attempt gate)]
      | _ => exact hanswers

end LockFleet

end TelemetryGateway
