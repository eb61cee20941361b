import TelemetryGateway.Proofs.Lock.Exclusion
import TelemetryGateway.Proofs.Lock.Sidecar
import TelemetryGateway.Target.Configuration

/-!
# Which targets get in each other's way

A target has its lock file by its name, but not every character of the name can stand in the name of
a file.  Two targets whose names differ only in such characters share a lock file.  The others are
independent of each other: what the gates of the one do makes no difference for the gates of the
other, as is seen by leaving it out of the run (`LockFleet.without`).

Of two targets that share a lock file only one can be served at a time; the other one is told about
a holder that has another target (`LockFleet.independence_of_targets`).
-/

namespace TelemetryGateway.LockFleet

open LockDirectory

/-- Whether a gate of a target takes its lock or gives it back. -/
def concerns (f : LockFleet) (target : String) : LockAct → Bool
  | .tryAcquire gate | .unlock gate | .drop gate => f.target? gate == some target
  | _ => false

/-- What happens, without what the gates of a target do. -/
def without (f : LockFleet) (target : String) : List LockAct → List LockAct
  | [] => []
  | a :: rest =>
      if f.concerns target a then (f.after a).without target rest
      else a :: (f.after a).without target rest

/-- Whether a name is none of the two files of a target. -/
def Elsewhere (target n : String) : Prop :=
  n ≠ LockFile.name target ∧ n ≠ LockFile.sidecar (LockFile.name target)

variable {f f' : LockFleet} {a : LockAct} {acts : List LockAct} {target first second : String}
  {gate : Nat}

theorem paired_elsewhere (target : String) : Paired (Elsewhere target) := by
  intro t
  simp only [Elsewhere, ne_eq, LockFile.sidecar_inj, LockFile.sidecar_ne_name, not_false_eq_true,
    true_and, (LockFile.sidecar_ne_name _ _).symm, and_true]

theorem elsewhere_name (h : LockFile.sanitize first ≠ LockFile.sanitize second) :
    Elsewhere first (LockFile.name second) :=
  ⟨fun hname => h (LockFile.name_inj.mp hname).symm, (LockFile.sidecar_ne_name _ _).symm⟩

theorem lockFile?_of_target? (h : f.target? gate = some target) :
    f.directory.lockFile? gate = some (LockFile.name target) := by
  obtain ⟨g, hgate, rfl⟩ := Option.map_eq_some_iff.mp h
  exact lockFile?_eq hgate

/-- What the gates of a target do leaves no trace elsewhere. -/
theorem alike_of_concerns (h : f.concerns target a = true) :
    Alike (Elsewhere target) f.directory (f.after a).directory := by
  have hW := paired_elsewhere target
  have hout : ¬ Elsewhere target (LockFile.name target) := fun h => h.1 rfl
  cases a with
  | tryAcquire gate =>
      have hlock := lockFile?_of_target? (beq_iff_eq.mp h)
      exact (alike_seenBy _ f gate).trans (.of_attempt hW hlock hout (f.attempt gate))
  | unlock gate | drop gate =>
      have hlock := lockFile?_of_target? (beq_iff_eq.mp h)
      exact .of_release hW hlock hout (f.directory.release gate)
  | _ => cases h

/-- Without what the gates of a target do the directory looks the same elsewhere. -/
theorem alike_without (h : Alike (Elsewhere target) f.directory f'.directory)
    (hf : f.directory.Exclusive) (hf' : f'.directory.Exclusive) (hacts : ∀ a ∈ acts, a.IsOwn) :
    Alike (Elsewhere target) (f.afterAll acts).directory
        (f'.afterAll (f.without target acts)).directory ∧
      (f'.afterAll (f.without target acts)).directory.Exclusive := by
  induction acts generalizing f f' with
  | nil => exact ⟨h, hf'⟩
  | cons a rest ih =>
      obtain ⟨ha, hrest⟩ := List.forall_mem_cons.mp hacts
      have hafter : (f.after a).directory.Exclusive :=
        exclusive_after hf ha.sparesLockFiles.keepsLockFiles
      rw [without, afterAll_cons]
      cases hconcerns : f.concerns target a with
      | true =>
          exact ih ((alike_of_concerns hconcerns).symm.trans h) hafter hf' hrest
      | false =>
          exact ih (alike_after (paired_elsewhere target) h hf hf' ha.sparesLockFiles) hafter
            (exclusive_after hf' ha.sparesLockFiles.keepsLockFiles) hrest

/-- Whoever is named as the holder of a target's lock has the same lock file. -/
theorem Coherent.sanitize_of_inspect (h : f.Coherent) {m : LockMetadata}
    (hm : (f.directory.inspect target).1 = some m) :
    LockFile.sanitize m.target = LockFile.sanitize target := by
  rw [inspect_eq] at hm
  by_cases hfree : f.directory.IsFree (LockFile.name target)
  · rw [h.holder?_eq_none hfree] at hm
    cases hm
  · simp only [IsFree, Classical.not_forall, Bool.not_eq_false] at hfree
    obtain ⟨gate, hlock, hholds⟩ := hfree
    obtain ⟨t, id, hgate, hname⟩ := exists_file hlock hholds
    obtain ⟨sidecarId, m', hentry, rfl, -⟩ := h.exists_sidecar hgate
    rw [h.holder?_eq hgate hentry hname.symm] at hm
    cases hm
    exact LockFile.name_inj.mp hname

/-- While a gate of one target holds a lock file that another target shares, no gate of the other
target gets it, and whoever asks for the holder of the other is told about the one. -/
theorem Coherent.refused_of_shared (h : f.Coherent) (hne : first ≠ second)
    (hfiles : LockFile.sanitize first = LockFile.sanitize second)
    (hgate : f.target? gate = some first) (hholds : f.directory.holds gate = true) :
    (∀ other, f.target? other = some second → (f.tryAcquire other).1 = false) ∧
      ∃ m, (f.directory.inspect second).1 = some m ∧ m.target = first := by
  have hname : LockFile.name second = LockFile.name first := LockFile.name_inj.mpr hfiles.symm
  have hlock := lockFile?_of_target? hgate
  obtain ⟨t, id, hfile⟩ := holds_eq_true_iff.mp hholds
  have ht : t = first := by simpa [target?, hfile] using hgate
  subst ht
  refine ⟨fun other hother => ?_, ?_⟩
  · have hlock' := hname ▸ lockFile?_of_target? hother
    rw [← Bool.not_eq_true, tryAcquire_iff h.exclusive]
    rintro (hheld | ⟨n, hn, hfree, -⟩)
    · cases h.exclusive.unique hlock' hlock hheld hholds
      exact hne (Option.some.inj (hgate.symm.trans hother))
    · cases hlock'.symm.trans hn
      rw [hfree gate hlock] at hholds
      cases hholds
  · obtain ⟨sidecarId, m, hentry, hm, -⟩ := h.exists_sidecar hfile
    exact ⟨m, by rw [inspect_eq, h.holder?_eq hfile hentry hname], hm⟩

/-- Two targets are independent of each other if their lock files are different.  If they are not,
no gate of the one gets the lock while a gate of the other has it, and whoever asks for the holder
of the one is told about the other. -/
theorem independence_of_targets {start : LockFleet} {acts : List LockAct}
    (hentries : start.directory.entries = some ∅) (hgates : start.directory.gates = [])
    (hprocesses : start.processes = []) (hacts : ∀ a ∈ acts, a.IsOwn) {first second : String}
    (hne : first ≠ second) :
    let f := start.afterAll acts
    let alone := start.afterAll (start.without first acts)
    (LockFile.sanitize first ≠ LockFile.sanitize second →
      (∀ gate, f.target? gate = some second →
        (f.tryAcquire gate).1 = (alone.tryAcquire gate).1) ∧
      ∀ m, (f.directory.inspect second).1 = some m → m.target ≠ first) ∧
    (LockFile.sanitize first = LockFile.sanitize second →
      ∀ gate, f.target? gate = some first → f.directory.holds gate = true →
        (∀ other, f.target? other = some second → (f.tryAcquire other).1 = false) ∧
        ∃ m, (f.directory.inspect second).1 = some m ∧ m.target = first) := by
  intro f alone
  have hcoherent : f.Coherent := (Coherent.of_empty hentries hgates hprocesses).afterAll hacts
  have hunused := (unused_of_empty hentries hgates).exclusive
  obtain ⟨hlike, halone⟩ :=
    alike_without (.refl (Elsewhere first) start.directory) hunused hunused hacts
  refine ⟨fun hfiles => ⟨fun gate hgate => ?_, fun m hm heq => ?_⟩,
    fun hfiles gate hgate hholds => hcoherent.refused_of_shared hne hfiles hgate hholds⟩
  · have hseen := ((alike_seenBy _ f gate).symm.trans hlike).trans (alike_seenBy _ alone gate)
    refine (hseen.answer_eq (paired_elsewhere first) (exclusive_seenBy hcoherent.exclusive gate)
      (exclusive_seenBy halone gate) (fun hlock => ?_) (f.attempt gate) (alone.attempt gate)).symm
    cases hlock.symm.trans (lockFile?_of_target? (f := f) hgate)
    exact elsewhere_name hfiles
  · exact hfiles (heq ▸ hcoherent.sanitize_of_inspect hm)

/-- Two targets with lock files of their own: the lock of the one is taken, and the other one gets
its own all the same. -/
theorem independence_of_two_targets :
    let start : LockFleet := ⟨{ pid := 7, clock := 0 }, []⟩
    let acts : List LockAct := [.gate 7 "edge1", .gate 8 "edge2", .tryAcquire 0]
    let f := start.afterAll acts
    LockFile.sanitize "edge1" ≠ LockFile.sanitize "edge2" ∧ f.directory.holds 0 = true ∧
      (f.tryAcquire 1).1 = true ∧
      ∀ m, (f.directory.inspect "edge2").1 = some m → m.target ≠ "edge1" := by
  intro start acts f
  have hfiles : LockFile.sanitize "edge1" ≠ LockFile.sanitize "edge2" := by decide +kernel
  have hown : ∀ a ∈ acts, a.IsOwn := by simp [acts, LockAct.IsOwn]
  have hempty : start.directory.entries = some ∅ := rfl
  obtain ⟨hsame, hholder⟩ :=
    (independence_of_targets hempty rfl rfl hown (by decide : "edge1" ≠ "edge2")).1 hfiles
  refine ⟨hfiles, by decide +kernel, ?_, hholder⟩
  rw [hsame 1 (by decide +kernel)]
  decide +kernel

/-- Two targets that a configuration accepts and that share a lock file: the second one would get
its lock, but while a gate of the first has it it does not, and the first is named as its holder. -/
theorem shared_lock_file :
    let c : TargetConfiguration := {
      targets := .ofList [("edge/1", { addresses := ["10.0.0.1:9339"], request := "default" }),
        ("edge_1", { addresses := ["10.0.0.2:9339"], request := "default" })]
      requests := .ofList [("default", .stream [.ofNames ["system"]])] }
    let start : LockFleet := ⟨{ pid := 7, clock := 0 }, []⟩
    let gates : List LockAct := [.gate 7 "edge/1", .gate 7 "edge_1"]
    let f := start.afterAll (gates ++ [.tryAcquire 0])
    c.validate = .ok () ∧ c.targets.keys = ["edge/1", "edge_1"] ∧
      ((start.afterAll gates).tryAcquire 1).1 = true ∧ (f.tryAcquire 1).1 = false ∧
      (f.directory.inspect "edge_1").1 = some ⟨7, "edge/1", 0, gatewayVersion⟩ := by
  intro c start gates f
  have hfault : c.fault? = none := by decide +kernel
  refine ⟨by rw [TargetConfiguration.validate, hfault], ?_, ?_, ?_, ?_⟩ <;> decide +kernel

end TelemetryGateway.LockFleet
