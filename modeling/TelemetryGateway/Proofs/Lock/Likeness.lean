import TelemetryGateway.Proofs.Lock.Ownership

/-!
# Lock directories that answer alike

Two directories are alike on some names if the gates of these lock files hold the same locks in both
and the same entries are in their way (`LockDirectory.Alike`).  Which number a file has, what is
written in it and whether a lock file is made already do not matter for the answers, so a gate of
these lock files gets the same answer in both, and they stay alike (`Alike.attempt`,
`Alike.release`).

A directory is like itself after an attempt that failed, on all names (`Alike.of_refused`), and
after anything that a gate does, on the names of the other lock files (`Alike.of_attempt`,
`Alike.of_release`).
-/

namespace TelemetryGateway.LockDirectory

/-- On the names `W` the two directories differ in nothing that an attempt to take a lock depends
on. -/
structure Alike (W : String → Prop) (d d' : LockDirectory) : Prop where
  length : d'.gates.length = d.gates.length
  lockFile? : ∀ gate, d'.lockFile? gate = d.lockFile? gate
  holds : ∀ {gate n}, d.lockFile? gate = some n → W n → d'.holds gate = d.holds gate
  folder : ∀ {n}, W n → (d'.entry? n = some .folder ↔ d.entry? n = some .folder)
  /-- Whether a lock file is there already can differ. -/
  there : ∀ {n}, W n → ¬ LockFile.IsLockName n → (d'.entry? n = none ↔ d.entry? n = none)

/-- The names of sidecars are among some names with those of their lock files. -/
def Paired (W : String → Prop) : Prop :=
  ∀ t, W (LockFile.sidecar (LockFile.name t)) ↔ W (LockFile.name t)

namespace Alike

variable {W : String → Prop} {d d' d'' d₁ d₁' : LockDirectory} {name n t : String}
  {e e' : Option DirectoryEntry} {gate : Nat} {answer answer' : Bool}

theorem refl (W : String → Prop) (d : LockDirectory) : Alike W d d :=
  ⟨rfl, fun _ => rfl, fun _ _ => rfl, fun _ => .rfl, fun _ _ => .rfl⟩

theorem symm (h : Alike W d d') : Alike W d' d where
  length := h.length.symm
  lockFile? gate := (h.lockFile? gate).symm
  holds hlock hn := (h.holds (h.lockFile? _ ▸ hlock) hn).symm
  folder hn := (h.folder hn).symm
  there hn hlock := (h.there hn hlock).symm

theorem trans (h : Alike W d d') (h' : Alike W d' d'') : Alike W d d'' where
  length := h'.length.trans h.length
  lockFile? gate := (h'.lockFile? gate).trans (h.lockFile? gate)
  holds hlock hn := (h'.holds ((h.lockFile? _).trans hlock) hn).trans (h.holds hlock hn)
  folder hn := (h'.folder hn).trans (h.folder hn)
  there hn hlock := (h'.there hn hlock).trans (h.there hn hlock)

theorem of_eq (hentries : d'.entries = d.entries) (hgates : d'.gates = d.gates) :
    Alike W d d' := by
  obtain ⟨entries, gates, nextFile, pid, clock, passages, endsInDot⟩ := d'
  subst hentries hgates
  exact ⟨rfl, fun _ => rfl, fun _ _ => rfl, fun _ => .rfl, fun _ _ => .rfl⟩

/-- A gate of one of the lock files, or one that is not there, holds the same in both. -/
theorem holds_same (h : Alike W d d') (hn : ∀ {n}, d.lockFile? gate = some n → W n) :
    d'.holds gate = d.holds gate := by
  cases hlock : d.lockFile? gate with
  | none =>
      rw [holds_eq_false_of_lockFile? hlock,
        holds_eq_false_of_lockFile? ((h.lockFile? gate).trans hlock)]
  | some n => exact h.holds hlock (hn hlock)

/-- A gate has the same lock file in both. -/
theorem name_eq (h : Alike W d d') {t t' : String} {file file' : Option Nat}
    (hgate : d.gates[gate]? = some ⟨t, file⟩) (hgate' : d'.gates[gate]? = some ⟨t', file'⟩) :
    LockFile.name t' = LockFile.name t := by
  have hsame := h.lockFile? gate
  rw [lockFile?_eq hgate, lockFile?_eq hgate'] at hsame
  exact Option.some.inj hsame

/-! ### Changes in both -/

/-- One entry is changed in both. -/
theorem changes (h : Alike W d d') (hchange : Changes d name e d₁)
    (hchange' : Changes d' name e' d₁')
    (hfolder : W name → (e' = some .folder ↔ e = some .folder))
    (hthere : W name → ¬ LockFile.IsLockName name → (e' = none ↔ e = none)) :
    Alike W d₁ d₁' where
  length := by rw [hchange.gates, hchange'.gates, h.length]
  lockFile? gate := by rw [hchange.lockFile?, hchange'.lockFile?, h.lockFile?]
  holds hlock hn := by
    rw [hchange.lockFile?] at hlock
    rw [hchange.holds, hchange'.holds, h.holds hlock hn]
  folder {n} hn := by
    by_cases hname : n = name
    · subst hname
      rw [hchange.self, hchange'.self, hfolder hn]
    · rw [hchange.other n hname, hchange'.other n hname, h.folder hn]
  there {n} hn hlock := by
    by_cases hname : n = name
    · subst hname
      rw [hchange.self, hchange'.self, hthere hn hlock]
    · rw [hchange.other n hname, hchange'.other n hname, h.there hn hlock]

/-- A gate gets or loses its file in both. -/
theorem setGate (h : Alike W d d') {t t' : String} {file file' newFile newFile' : Option Nat}
    (hgate : d.gates[gate]? = some ⟨t, file⟩) (hgate' : d'.gates[gate]? = some ⟨t', file'⟩)
    (hfile : W (LockFile.name t) → newFile'.isSome = newFile.isSome) :
    Alike W (d.setGate gate ⟨t, newFile⟩) (d'.setGate gate ⟨t', newFile'⟩) where
  length := by simp [LockDirectory.setGate, h.length]
  lockFile? other := by
    rw [lockFile?_setGate hgate, lockFile?_setGate hgate', h.lockFile?]
  holds {other n} hlock hn := by
    rw [lockFile?_setGate hgate] at hlock
    rw [holds_setGate hgate, holds_setGate hgate']
    split
    · next heq =>
      rw [heq, lockFile?_eq hgate] at hlock
      cases hlock
      exact hfile hn
    · exact h.holds hlock hn
  folder hn := h.folder hn
  there hn hlock := h.there hn hlock

theorem newGate (h : Alike W d d') (target : String) :
    Alike W (d.gate target).2 (d'.gate target).2 where
  length := by simp [gate, h.length]
  lockFile? other := by rw [lockFile?_gate, lockFile?_gate, h.length, h.lockFile?]
  holds {other n} hlock hn := by
    rw [holds_gate, holds_gate]
    rw [lockFile?_gate] at hlock
    split at hlock
    · next heq =>
      -- the new gate is beyond the old ones
      simp [LockDirectory.holds, heq, h.length]
    · exact h.holds hlock hn
  folder hn := h.folder hn
  there hn hlock := h.there hn hlock

/-! ### Changes in one -/

/-- The lock file of somebody else, or one that is made or opened. -/
theorem of_writes {id : Nat} {content : String} (hcan : d.CanWrite name)
    (hwrites : Writes d name id content d₁) (hname : W name → LockFile.IsLockName name) :
    Alike W d d₁ := by
  refine ((refl W d).changes (.refl d name) hwrites.toChanges (fun _ => ?_) fun hn hlock => ?_)
  · simp [hcan.2.2]
  · exact absurd (hname hn) hlock

/-- Whoever is refused leaves no trace but, perhaps, a lock file that nobody holds. -/
theorem of_refused (hattempt : Attempt d gate false d₁) : Alike W d d₁ := by
  cases hattempt with
  | missing | closed => exact refl W d
  | taken _ hcan hopened _ | unwritable _ hcan hopened _ _ =>
      exact of_writes hcan hopened fun _ => LockFile.isLockName_name _

/-- What a gate of another lock file does leaves no trace. -/
theorem of_attempt (hW : Paired W) (hlock : d.lockFile? gate = some n) (hn : ¬ W n)
    (hattempt : Attempt d gate answer d₁) : Alike W d d₁ := by
  cases hattempt with
  | missing | held | closed => exact refl W d
  | taken _ hcan hopened _ | unwritable _ hcan hopened _ _ =>
      exact of_writes hcan hopened fun _ => LockFile.isLockName_name _
  | @granted t content id sidecarId opened written hgate hcan hopened hfree hcan' hwritten =>
      rw [lockFile?_eq hgate] at hlock
      cases hlock
      have hgate' : written.gates[gate]? = some ⟨t, none⟩ :=
        (hwritten.gates.trans hopened.gates) ▸ hgate
      have hopen : Alike W d opened := of_writes hcan hopened fun _ => LockFile.isLockName_name _
      have hwrite : Alike W opened written :=
        of_writes ((hopened.canWrite_iff (LockFile.sidecar_ne_name _ _)).mpr hcan') hwritten
          fun hside => absurd ((hW t).mp hside) hn
      have hgive : Alike W (written.setGate gate ⟨t, none⟩) (written.setGate gate ⟨t, some id⟩) :=
        (refl W written).setGate hgate' hgate' fun hname => absurd hname hn
      rw [setGate_self hgate'] at hgive
      exact (hopen.trans hwrite).trans hgive

theorem of_release (hW : Paired W) (hlock : d.lockFile? gate = some n) (hn : ¬ W n)
    (hrelease : Release d gate d₁) : Alike W d d₁ := by
  cases hrelease with
  | idle => exact refl W d
  | @released t id removed hgate hremoved =>
      rw [lockFile?_eq hgate] at hlock
      cases hlock
      have hgate' : removed.gates[gate]? = some ⟨t, some id⟩ := hremoved.gates ▸ hgate
      have hremove : Alike W d removed :=
        (refl W d).changes (.refl d _) hremoved (fun hside => absurd ((hW t).mp hside) hn)
          fun hside _ => absurd ((hW t).mp hside) hn
      have hgive : Alike W (removed.setGate gate ⟨t, some id⟩) (removed.setGate gate ⟨t, none⟩) :=
        (refl W removed).setGate hgate' hgate' fun hname => absurd hname hn
      rw [setGate_self hgate'] at hgive
      exact hremove.trans hgive

/-! ### The same operation in both -/

theorem canWrite_iff (h : Alike W d d') (hd : d.Exclusive) (hd' : d'.Exclusive) (hn : W n) :
    d'.CanWrite n ↔ d.CanWrite n := by
  simp only [CanWrite, hd.there, hd'.there, ne_eq, h.folder hn]

/-- A gate of one of the lock files gets the same answer in both. -/
theorem answer_eq (h : Alike W d d') (hW : Paired W) (hd : d.Exclusive) (hd' : d'.Exclusive)
    (hn : ∀ {n}, d.lockFile? gate = some n → W n) (hattempt : Attempt d gate answer d₁)
    (hattempt' : Attempt d' gate answer' d₁') : answer' = answer := by
  rw [Bool.eq_iff_iff, hd.attempt_iff hattempt, hd'.attempt_iff hattempt', h.lockFile?,
    h.holds_same hn]
  refine or_congr .rfl (exists_congr fun n => and_congr_right fun hlock => ?_)
  obtain ⟨t, file, hgate, rfl⟩ := lockFile?_eq_some_iff.mp hlock
  have hfree : d'.IsFree (LockFile.name t) ↔ d.IsFree (LockFile.name t) := by
    simp only [IsFree, h.lockFile?]
    exact forall₂_congr fun gate hgate => by rw [h.holds hgate (hn hlock)]
  rw [hfree, h.canWrite_iff hd hd' (hn hlock), h.canWrite_iff hd hd' ((hW t).mpr (hn hlock))]

/-- A gate is granted its lock in both. -/
theorem granted (h : Alike W d d') (hlock : d.lockFile? gate = some n) (hn : W n)
    (hattempt : Attempt d gate true d₁) (hattempt' : Attempt d' gate true d₁') :
    Alike W d₁ d₁' := by
  have hholds := h.holds hlock hn
  cases hattempt with
  | held hgate =>
      cases hattempt' with
      | held => exact h
      | granted hgate' => simp [holds_eq hgate, holds_eq hgate'] at hholds
  | @granted t content id sidecarId opened written hgate hcan hopened hfree hcan' hwritten =>
      cases hattempt' with
      | held hgate' => simp [holds_eq hgate, holds_eq hgate'] at hholds
      | @granted t' content' id' sidecarId' opened' written' hgate' hcan'' hopened' _ _ hwritten' =>
          rw [h.name_eq hgate hgate'] at hopened' hwritten'
          have hopen : Alike W opened opened' :=
            h.changes hopened.toChanges hopened'.toChanges (by simp)
              fun _ hlock => absurd (LockFile.isLockName_name t) hlock
          have hwrite : Alike W written written' :=
            hopen.changes hwritten.toChanges hwritten'.toChanges (by simp) (by simp)
          exact hwrite.setGate ((hwritten.gates.trans hopened.gates) ▸ hgate)
            ((hwritten'.gates.trans hopened'.gates) ▸ hgate') fun _ => rfl

theorem attempt (h : Alike W d d') (hW : Paired W) (hd : d.Exclusive) (hd' : d'.Exclusive)
    (hattempt : Attempt d gate answer d₁) (hattempt' : Attempt d' gate answer' d₁') :
    Alike W d₁ d₁' := by
  by_cases hn : ∀ {n}, d.lockFile? gate = some n → W n
  · cases h.answer_eq hW hd hd' hn hattempt hattempt'
    cases answer with
    | false => exact ((of_refused hattempt).symm.trans h).trans (of_refused hattempt')
    | true =>
        obtain ⟨n, hlock⟩ := exists_lockFile_of_granted hattempt
        exact h.granted hlock (hn hlock) hattempt hattempt'
  · simp only [Classical.not_forall] at hn
    obtain ⟨n, hlock, hn⟩ := hn
    exact ((of_attempt hW hlock hn hattempt).symm.trans h).trans
      (of_attempt hW ((h.lockFile? gate).trans hlock) hn hattempt')

theorem release (h : Alike W d d') (hW : Paired W) (hrelease : Release d gate d₁)
    (hrelease' : Release d' gate d₁') : Alike W d₁ d₁' := by
  by_cases hn : ∀ {n}, d.lockFile? gate = some n → W n
  · have hholds := h.holds_same hn
    cases hheld : d.holds gate with
    | false =>
        rw [hrelease.eq_of_idle hheld, hrelease'.eq_of_idle (hholds.trans hheld)]
        exact h
    | true =>
        obtain ⟨t, id, removed, hgate, hremoved, rfl⟩ := hrelease.exists_removed hheld
        obtain ⟨t', id', removed', hgate', hremoved', rfl⟩ :=
          hrelease'.exists_removed (hholds.trans hheld)
        rw [h.name_eq hgate hgate'] at hremoved'
        have hremove : Alike W removed removed' :=
          h.changes hremoved hremoved'
            (fun hside => by simp only [withoutFile_eq_folder_iff, h.folder hside])
            fun hside _ => by simp only [withoutFile_eq_none_iff, ne_eq, h.folder hside]
        exact hremove.setGate (hremoved.gates ▸ hgate) (hremoved'.gates ▸ hgate') fun _ => rfl
  · simp only [Classical.not_forall] at hn
    obtain ⟨n, hlock, hn⟩ := hn
    exact ((of_release hW hlock hn hrelease).symm.trans h).trans
      (of_release hW ((h.lockFile? gate).trans hlock) hn hrelease')

end Alike

end TelemetryGateway.LockDirectory
