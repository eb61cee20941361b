import TelemetryGateway.Proofs.Lock.Fleet

/-!
# Sidecars tell who holds a lock

A lock has two files, and only the lock file decides who holds it; the sidecar is written and
removed beside it.  In a directory that only the gates touch the two agree at every moment
(`LockFleet.Coherent`): a sidecar lies there exactly while a gate holds the lock file, and says
which target that gate is for and which process it belongs to.  So whoever asks for the holder is
told the truth, also about a target that shares its lock file with the one that is held.

The agreement is kept act by act: an attempt that fails touches no sidecar, and one that succeeds
finds none, since nobody held the lock file.
-/

namespace TelemetryGateway.LockFleet

open LockDirectory

/-- The target of a gate. -/
def target? (f : LockFleet) (gate : Nat) : Option String :=
  (f.directory.gates[gate]?).map (·.target)

/-- Every sidecar belongs to a gate that holds its lock file, and names the target and the process
of that gate; and every gate that holds a lock has one. -/
structure Coherent (f : LockFleet) : Prop where
  exclusive : f.directory.Exclusive
  length : f.processes.length = f.directory.gates.length
  written {n : String} {e : DirectoryEntry} :
    f.directory.entry? (LockFile.sidecar n) = some e →
    ∃ (gate id sidecarId : Nat) (m : LockMetadata),
      f.directory.gates[gate]? = some ⟨m.target, some id⟩ ∧ LockFile.name m.target = n ∧
      f.processes[gate]? = some m.pid ∧ e = .file sidecarId m.render
  held {gate : Nat} {t : String} {id : Nat} : f.directory.gates[gate]? = some ⟨t, some id⟩ →
    f.directory.entry? (LockFile.sidecar (LockFile.name t)) ≠ none

namespace Coherent

variable {f : LockFleet} {a : LockAct} {acts : List LockAct} {d : LockDirectory} {t n : String}
  {gate id : Nat}

theorem of_empty (hentries : f.directory.entries = some ∅) (hgates : f.directory.gates = [])
    (hprocesses : f.processes = []) : f.Coherent where
  exclusive := (unused_of_empty hentries hgates).exclusive
  length := by rw [hgates, hprocesses, List.length_nil, List.length_nil]
  written h := by
    unfold entry? at h
    rw [hentries, Option.bind_some] at h
    cases h
  held h := by simp [hgates] at h

/-! ## What the sidecar says -/

/-- The sidecar of a lock that is held tells its holder. -/
theorem exists_sidecar (h : f.Coherent) (hgate : f.directory.gates[gate]? = some ⟨t, some id⟩) :
    ∃ (sidecarId : Nat) (m : LockMetadata),
      f.directory.entry? (LockFile.sidecar (LockFile.name t)) = some (.file sidecarId m.render) ∧
      m.target = t ∧ f.processes[gate]? = some m.pid := by
  obtain ⟨e, hentry⟩ := Option.ne_none_iff_exists'.mp (h.held hgate)
  obtain ⟨gate', id', sidecarId, m, hgate', hname, hpid, rfl⟩ := h.written hentry
  have hsame : gate' = gate := h.exclusive.unique (n := LockFile.name t)
    (by rw [lockFile?_eq hgate', hname]) (lockFile?_eq hgate) (holds_eq hgate') (holds_eq hgate)
  subst hsame
  rw [hgate] at hgate'
  cases hgate'
  exact ⟨sidecarId, m, hentry, rfl, hpid⟩

/-- Whoever asks about a lock file that is held is told what its holder wrote. -/
theorem holder?_eq (h : f.Coherent) {m : LockMetadata} {sidecarId : Nat}
    (hgate : f.directory.gates[gate]? = some ⟨t, some id⟩)
    (hentry : f.directory.entry? (LockFile.sidecar (LockFile.name t)) =
      some (.file sidecarId m.render)) {target : String}
    (hname : LockFile.name target = LockFile.name t) : f.directory.holder? target = some m := by
  obtain ⟨content, hlock⟩ := h.exclusive.standing hgate
  have hlocked : f.directory.isLocked id = true := isLocked_iff.mpr ⟨gate, _, hgate, rfl⟩
  simp [holder?, hname, hlock, hlocked, hentry, LockMetadata.parse?_render]

theorem holder?_eq_none (h : f.Coherent) (hfree : f.directory.IsFree (LockFile.name t)) :
    f.directory.holder? t = none := by
  unfold holder?
  cases hentry : f.directory.entry? (LockFile.name t) with
  | none => rfl
  | some e =>
      cases e with
      | folder => rfl
      | file id content => simp [(h.exclusive.isLocked_eq_false_iff hentry).mpr hfree]

/-! ## Steps -/

/-- The process that acts and the time do not matter. -/
theorem congr (h : f.Coherent) (hentries : d.entries = f.directory.entries)
    (hgates : d.gates = f.directory.gates) (hnext : d.nextFile = f.directory.nextFile) :
    Coherent { f with directory := d } := by
  have hexclusive := h.exclusive.congr hentries hgates hnext
  obtain ⟨entries, gates, nextFile, pid, clock, passages, endsInDot⟩ := d
  subst hentries hgates hnext
  exact ⟨hexclusive, h.length, h.written, h.held⟩

/-- A lock file is opened or made. -/
theorem writes (h : f.Coherent) {content : String}
    (hopened : Writes f.directory (LockFile.name t) id content d) :
    Coherent { f with directory := d } where
  exclusive := h.exclusive.writes hopened
  length := by rw [h.length, ← hopened.gates]
  written {n e} hentry := by
    rw [hopened.other _ (LockFile.sidecar_ne_name n t)] at hentry
    simpa only [hopened.gates] using h.written hentry
  held hgate := by
    rw [hopened.gates] at hgate
    rw [hopened.other _ (LockFile.sidecar_ne_name _ t)]
    exact h.held hgate

/-- A gate takes a lock file: it had none, and the sidecar names it. -/
theorem grant (h : f.Coherent) {sidecarId : Nat} {m : LockMetadata}
    (hgate : f.directory.gates[gate]? = some ⟨m.target, none⟩)
    (hpid : f.processes[gate]? = some m.pid)
    (hwritten : Writes f.directory (LockFile.sidecar (LockFile.name m.target)) sidecarId m.render d)
    (hexclusive : (d.setGate gate ⟨m.target, some id⟩).Exclusive) :
    Coherent { f with directory := d.setGate gate ⟨m.target, some id⟩ } := by
  have hgate' : d.gates[gate]? = some ⟨m.target, none⟩ := hwritten.gates ▸ hgate
  have hother {n : String} (hne : n ≠ LockFile.name m.target) :
      d.entry? (LockFile.sidecar n) = f.directory.entry? (LockFile.sidecar n) :=
    hwritten.other _ (mt LockFile.sidecar_inj.mp hne)
  refine ⟨hexclusive, ?_, fun {n e} hentry => ?_, fun {other t' id'} hholder => ?_⟩
  · simp [setGate, h.length, hwritten.gates]
  · rw [entry?_setGate] at hentry
    by_cases hn : n = LockFile.name m.target
    · subst hn
      rw [hwritten.self] at hentry
      cases hentry
      exact ⟨gate, id, sidecarId, m, by rw [getElem?_setGate hgate', if_pos rfl], rfl, hpid, rfl⟩
    · rw [hother hn] at hentry
      obtain ⟨holder, id', sidecarId', m', hholder, hname, hpid', rfl⟩ := h.written hentry
      have hne : holder ≠ gate := by
        rintro rfl
        simp [hgate] at hholder
      exact ⟨holder, id', sidecarId', m', by
        rw [getElem?_setGate hgate', if_neg hne, hwritten.gates, hholder], hname, hpid', rfl⟩
  · rw [entry?_setGate]
    rw [getElem?_setGate hgate'] at hholder
    by_cases hn : LockFile.name t' = LockFile.name m.target
    · rw [hn, hwritten.self]
      exact Option.some_ne_none _
    · rw [hother hn]
      split at hholder
      · cases hholder
        exact absurd rfl hn
      · rw [hwritten.gates] at hholder
        exact h.held hholder

/-- A gate gives a lock file back, and the sidecar goes. -/
theorem giveBack (h : f.Coherent) (hgate : f.directory.gates[gate]? = some ⟨t, some id⟩)
    (hremoved : Changes f.directory (LockFile.sidecar (LockFile.name t)) none d)
    (hexclusive : (d.setGate gate ⟨t, none⟩).Exclusive) :
    Coherent { f with directory := d.setGate gate ⟨t, none⟩ } := by
  have hgate' : d.gates[gate]? = some ⟨t, some id⟩ := hremoved.gates ▸ hgate
  have hother {n : String} (hne : n ≠ LockFile.name t) :
      d.entry? (LockFile.sidecar n) = f.directory.entry? (LockFile.sidecar n) :=
    hremoved.other _ (mt LockFile.sidecar_inj.mp hne)
  refine ⟨hexclusive, ?_, fun {n e} hentry => ?_, fun {other t' id'} hholder => ?_⟩
  · simp [setGate, h.length, hremoved.gates]
  · rw [entry?_setGate] at hentry
    have hn : n ≠ LockFile.name t := by
      rintro rfl
      rw [hremoved.self] at hentry
      cases hentry
    rw [hother hn] at hentry
    obtain ⟨holder, id', sidecarId', m, hholder, rfl, hpid, rfl⟩ := h.written hentry
    have hne : holder ≠ gate := by
      rintro rfl
      rw [hgate] at hholder
      cases hholder
      exact hn rfl
    exact ⟨holder, id', sidecarId', m, by
      rw [getElem?_setGate hgate', if_neg hne, hremoved.gates, hholder], rfl, hpid, rfl⟩
  · rw [getElem?_setGate hgate'] at hholder
    split at hholder
    · cases hholder
    · next hne =>
      rw [hremoved.gates] at hholder
      -- the lock file was held by one gate alone
      have hn : LockFile.name t' ≠ LockFile.name t := fun hname =>
        hne (h.exclusive.unique (lockFile?_eq hholder) (hname ▸ lockFile?_eq hgate)
          (holds_eq hholder) (holds_eq hgate))
      rw [entry?_setGate, hother hn]
      exact h.held hholder

theorem newGate (h : f.Coherent) (process : UInt32) (target : String) :
    Coherent ⟨(f.directory.gate target).2, f.processes ++ [process]⟩ where
  exclusive := h.exclusive.newGate target
  length := by simp [LockDirectory.gate, h.length]
  written hentry := by
    obtain ⟨gate, id, sidecarId, m, hgate, hname, hpid, rfl⟩ := h.written hentry
    have hlt := (List.getElem?_eq_some_iff.mp hgate).1
    refine ⟨gate, id, sidecarId, m, ?_, hname, ?_, rfl⟩
    · rw [getElem?_gate, if_neg (Nat.ne_of_lt hlt), hgate]
    · rw [List.getElem?_append_left (h.length ▸ hlt), hpid]
  held hgate := by
    rw [getElem?_gate] at hgate
    split at hgate
    · cases hgate
    · exact h.held hgate

theorem attempt (h : f.Coherent) {answer : Bool}
    (hattempt : Attempt (f.seenBy gate) gate answer d) : Coherent { f with directory := d } := by
  have hseen : Coherent { f with directory := f.seenBy gate } := h.congr rfl rfl rfl
  have hexclusive := hseen.exclusive.attempt hattempt
  cases hattempt with
  | missing | held | closed => exact hseen
  | taken _ _ hopened _ | unwritable _ _ hopened _ _ => exact hseen.writes hopened
  | @granted t content id sidecarId opened written hgate hcan hopened hfree hcan' hwritten =>
      obtain ⟨p, hp⟩ : ∃ p, f.processes[gate]? = some p := by
        have hlt := (List.getElem?_eq_some_iff.mp hgate).1
        exact ⟨_, List.getElem?_eq_getElem (h.length ▸ hlt)⟩
      have hpid : f.processes[gate]? = some ((f.seenBy gate).metadataFor t).pid := by
        simp [metadataFor, seenBy, hp]
      exact (hseen.writes hopened).grant (m := (f.seenBy gate).metadataFor t)
        (hopened.gates ▸ hgate) hpid hwritten hexclusive

theorem release (h : f.Coherent) (hrelease : Release f.directory gate d) :
    Coherent { f with directory := d } := by
  have hexclusive := h.exclusive.release hrelease
  cases hrelease with
  | idle => exact h
  | released hgate hremoved =>
      obtain ⟨sidecarId, m, hentry, -⟩ := h.exists_sidecar hgate
      rw [hentry] at hremoved
      exact h.giveBack hgate hremoved hexclusive

theorem after (h : f.Coherent) (ha : a.IsOwn) : (f.after a).Coherent := by
  cases a with
  | provider =>
      show Coherent { f with directory := f.directory.create }
      rw [create_eq h.exclusive.there]
      exact h
  | gate process target => exact h.newGate process target
  | tryAcquire gate => exact h.attempt (f.attempt gate)
  | unlock gate | drop gate => exact h.release (f.directory.release gate)
  | holder target => rwa [after_holder]
  | wait now => exact h.congr rfl rfl rfl
  | write | makeFolder | remove => exact ha.elim

theorem afterAll (h : f.Coherent) (hacts : ∀ a ∈ acts, a.IsOwn) : (f.afterAll acts).Coherent := by
  induction acts generalizing f with
  | nil => exact h
  | cons a rest ih =>
      obtain ⟨ha, hrest⟩ := List.forall_mem_cons.mp hacts
      exact ih (h.after ha) hrest

end Coherent

/-! ## What the sidecars tell -/

/-- How the sidecars of a directory go with its locks. -/
structure TellsHolders (f : LockFleet) : Prop where
  /-- A sidecar is there exactly while a gate holds the lock file. -/
  sidecar_iff (t : String) :
    (f.directory.entry? (LockFile.sidecar (LockFile.name t))).isSome = true ↔
      ∃ gate, f.directory.lockFile? gate = some (LockFile.name t) ∧ f.directory.holds gate = true
  /-- While a gate holds the lock file of a target, its sidecar says for which target the gate is
  and which process it belongs to; just this is told to whoever asks for the holder, and asking
  changes nothing. -/
  holder {t : String} {gate : Nat} : f.directory.lockFile? gate = some (LockFile.name t) →
    f.directory.holds gate = true → ∃ sidecarId content m,
      f.directory.entry? (LockFile.sidecar (LockFile.name t)) = some (.file sidecarId content) ∧
      LockMetadata.parse? content = some m ∧
      f.target? gate = some m.target ∧ f.processes[gate]? = some m.pid ∧
      f.directory.inspect t = (some m, f.directory)
  /-- While no gate does, nobody is named, and asking changes nothing either. -/
  nobody {t : String} : f.directory.IsFree (LockFile.name t) →
    f.directory.inspect t = (none, f.directory)
  /-- An attempt that fails leaves every sidecar as it is. -/
  refused {gate : Nat} : (f.tryAcquire gate).1 = false → ∀ n,
    LockDirectory.entry? (f.after (.tryAcquire gate)).directory (LockFile.sidecar n) =
      f.directory.entry? (LockFile.sidecar n)

variable {f : LockFleet}

theorem Coherent.tellsHolders (h : f.Coherent) : f.TellsHolders where
  sidecar_iff t := by
    constructor
    · intro hsome
      obtain ⟨e, hentry⟩ := Option.isSome_iff_exists.mp hsome
      obtain ⟨gate, id, sidecarId, m, hgate, hname, -⟩ := h.written hentry
      exact ⟨gate, by rw [lockFile?_eq hgate, hname], holds_eq hgate⟩
    · rintro ⟨gate, hlock, hholds⟩
      obtain ⟨t', id, hgate, hname⟩ := exists_file hlock hholds
      rw [← hname, Option.isSome_iff_ne_none]
      exact h.held hgate
  holder {t gate} hlock hholds := by
    obtain ⟨t', id, hgate, hname⟩ := exists_file hlock hholds
    obtain ⟨sidecarId, m, hentry, rfl, hpid⟩ := h.exists_sidecar hgate
    refine ⟨sidecarId, m.render, m, hname ▸ hentry, m.parse?_render, ?_, hpid, ?_⟩
    · rw [target?, hgate, Option.map_some]
    · rw [inspect_eq, h.holder?_eq hgate hentry hname.symm]
  nobody hfree := by rw [inspect_eq, h.holder?_eq_none hfree]
  refused {gate} hrefused n := by
    have hattempt := f.attempt gate
    rw [hrefused] at hattempt
    exact hattempt.entry?_sidecar n

/-- From an empty directory on, and as long as only the gates touch it, the sidecars tell who holds
the locks. -/
theorem tellsHolders_afterAll {start : LockFleet} {acts : List LockAct}
    (hentries : start.directory.entries = some ∅) (hgates : start.directory.gates = [])
    (hprocesses : start.processes = []) (hacts : ∀ a ∈ acts, a.IsOwn) :
    (start.afterAll acts).TellsHolders :=
  ((Coherent.of_empty hentries hgates hprocesses).afterAll hacts).tellsHolders

/-- Two processes take one lock in turn; the sidecar names first the one and then the other. -/
theorem tellsHolders_two_processes :
    let start : LockFleet := ⟨{ pid := 7, clock := 0 }, []⟩
    let first : List LockAct := [.gate 7 "edge", .gate 8 "edge", .tryAcquire 0, .tryAcquire 1]
    let second : List LockAct := [.unlock 0, .wait 60, .tryAcquire 1, .drop 0]
    (start.afterAll (first ++ second)).TellsHolders ∧
      ((start.afterAll first).directory.inspect "edge").1 = some ⟨7, "edge", 0, gatewayVersion⟩ ∧
      ((start.afterAll (first ++ second)).directory.inspect "edge").1 =
        some ⟨8, "edge", 60, gatewayVersion⟩ := by
  refine ⟨tellsHolders_afterAll rfl rfl rfl (by simp [LockAct.IsOwn]), ?_, ?_⟩ <;> decide +kernel

end TelemetryGateway.LockFleet
