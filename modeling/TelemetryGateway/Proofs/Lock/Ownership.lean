import TelemetryGateway.Proofs.Lock.Directory

/-!
# Who holds a lock file

A gate holds its lock by the file that it has open, and the lock file that others open is the entry
of the directory.  The two are the same file as long as nobody removes lock files
(`LockDirectory.Exclusive`): then at most one gate holds a lock file (`Exclusive.unique`), and
whether an attempt succeeds depends only on who holds it and on what can be written
(`Exclusive.attempt_iff`).

Every operation keeps this, and it needs one lemma for each way in which a directory changes: an
entry, a gate, a new gate.
-/

namespace TelemetryGateway.LockDirectory

variable {d d' : LockDirectory} {name n t target : String} {e : Option DirectoryEntry}
  {id gate other : Nat} {file : Option Nat}

/-! ## What the gates say -/

/-- The lock file of a gate. -/
def lockFile? (d : LockDirectory) (gate : Nat) : Option String :=
  (d.gates[gate]?).map (LockFile.name ·.target)

/-- Whether a gate holds its lock. -/
def holds (d : LockDirectory) (gate : Nat) : Bool := (d.gates[gate]?).any (·.file.isSome)

/-- Whether no gate holds a lock file. -/
def IsFree (d : LockDirectory) (n : String) : Prop :=
  ∀ gate, d.lockFile? gate = some n → d.holds gate = false

theorem lockFile?_eq (hgate : d.gates[gate]? = some ⟨t, file⟩) :
    d.lockFile? gate = some (LockFile.name t) := by
  rw [lockFile?, hgate, Option.map_some]

theorem holds_eq (hgate : d.gates[gate]? = some ⟨t, file⟩) : d.holds gate = file.isSome := by
  rw [holds, hgate, Option.any_some]

theorem holds_eq_false_of_lockFile? (hlock : d.lockFile? gate = none) : d.holds gate = false := by
  rw [lockFile?, Option.map_eq_none_iff] at hlock
  rw [holds, hlock, Option.any_none]

theorem lockFile?_eq_some_iff :
    d.lockFile? gate = some n ↔
      ∃ t file, d.gates[gate]? = some ⟨t, file⟩ ∧ LockFile.name t = n := by
  rw [lockFile?, Option.map_eq_some_iff]
  exact ⟨fun ⟨⟨t, file⟩, h⟩ => ⟨t, file, h⟩, fun ⟨t, file, h⟩ => ⟨⟨t, file⟩, h⟩⟩

theorem holds_eq_true_iff :
    d.holds gate = true ↔ ∃ t id, d.gates[gate]? = some ⟨t, some id⟩ := by
  unfold holds
  cases d.gates[gate]? with
  | none => simp
  | some g =>
      obtain ⟨t, file⟩ := g
      cases file <;> simp

/-- A gate that holds a lock file does so by a file. -/
theorem exists_file (hlock : d.lockFile? gate = some n) (hholds : d.holds gate = true) :
    ∃ t id, d.gates[gate]? = some ⟨t, some id⟩ ∧ LockFile.name t = n := by
  obtain ⟨t, id, hgate⟩ := holds_eq_true_iff.mp hholds
  rw [lockFile?_eq hgate] at hlock
  exact ⟨t, id, hgate, Option.some.inj hlock⟩

theorem Changes.lockFile? (h : Changes d name e d') (gate : Nat) :
    d'.lockFile? gate = d.lockFile? gate := by
  rw [LockDirectory.lockFile?, LockDirectory.lockFile?, h.gates]

theorem Changes.holds (h : Changes d name e d') (gate : Nat) : d'.holds gate = d.holds gate := by
  rw [LockDirectory.holds, LockDirectory.holds, h.gates]

theorem Changes.isFree_iff (h : Changes d name e d') : d'.IsFree n ↔ d.IsFree n := by
  simp only [IsFree, h.lockFile?, h.holds]

theorem Changes.isLocked (h : Changes d name e d') (id : Nat) : d'.isLocked id = d.isLocked id := by
  rw [LockDirectory.isLocked, LockDirectory.isLocked, h.gates]

theorem getElem?_setGate (hgate : d.gates[gate]? = some ⟨t, file⟩) (g : FileGate) (other : Nat) :
    (d.setGate gate g).gates[other]? = if other = gate then some g else d.gates[other]? := by
  have hlt := (List.getElem?_eq_some_iff.mp hgate).1
  rw [setGate, List.getElem?_set]
  by_cases hother : other = gate
  · rw [if_pos hother.symm, if_pos hlt, if_pos hother]
  · rw [if_neg (Ne.symm hother), if_neg hother]

theorem lockFile?_setGate (hgate : d.gates[gate]? = some ⟨t, file⟩) (file' : Option Nat)
    (other : Nat) : (d.setGate gate ⟨t, file'⟩).lockFile? other = d.lockFile? other := by
  rw [lockFile?, getElem?_setGate hgate]
  split
  · next hother => rw [hother, lockFile?_eq hgate, Option.map_some]
  · rfl

theorem holds_setGate (hgate : d.gates[gate]? = some ⟨t, file⟩) (g : FileGate) (other : Nat) :
    (d.setGate gate g).holds other = if other = gate then g.file.isSome else d.holds other := by
  rw [holds, getElem?_setGate hgate]
  split <;> rfl

theorem getElem?_gate (d : LockDirectory) (target : String) (other : Nat) :
    (d.gate target).2.gates[other]? =
      if other = d.gates.length then some ⟨target, none⟩ else d.gates[other]? := by
  show (d.gates ++ [⟨target, none⟩])[other]? = _
  rcases Nat.lt_trichotomy other d.gates.length with hlt | rfl | hgt
  · rw [List.getElem?_append_left hlt, if_neg (Nat.ne_of_lt hlt)]
  · rw [List.getElem?_concat_length, if_pos rfl]
  · rw [if_neg (Nat.ne_of_gt hgt), List.getElem?_eq_none_iff.mpr (Nat.le_of_lt hgt),
      List.getElem?_eq_none_iff.mpr (by simpa using Nat.succ_le_of_lt hgt)]

theorem lockFile?_gate (d : LockDirectory) (target : String) (other : Nat) :
    (d.gate target).2.lockFile? other =
      if other = d.gates.length then some (LockFile.name target) else d.lockFile? other := by
  rw [lockFile?, getElem?_gate]
  split <;> rfl

/-- A new gate holds nothing. -/
theorem holds_gate (d : LockDirectory) (target : String) (other : Nat) :
    (d.gate target).2.holds other = d.holds other := by
  rw [holds, getElem?_gate]
  split
  · next hother =>
    rw [holds, hother, List.getElem?_eq_none_iff.mpr (Nat.le_refl _)]
    rfl
  · rfl

/-! ## One holder for each lock file -/

/-- A directory that no gate uses yet.  Anything can lie in it, each file with a number of its
own. -/
structure Unused (d : LockDirectory) : Prop where
  there : d.entries.isSome = true
  gates : d.gates = []
  id_lt {n : String} {id : Nat} {content : String} : d.entry? n = some (.file id content) →
    id < d.nextFile
  id_inj {n n' : String} {id : Nat} {content content' : String} :
    d.entry? n = some (.file id content) → d.entry? n' = some (.file id content') → n = n'

/-- Files are told apart by their numbers, and a gate that holds a lock has the very file open that
is its lock file, which no other gate has. -/
structure Exclusive (d : LockDirectory) : Prop where
  there : d.entries.isSome = true
  id_lt {n : String} {id : Nat} {content : String} : d.entry? n = some (.file id content) →
    id < d.nextFile
  id_inj {n n' : String} {id : Nat} {content content' : String} :
    d.entry? n = some (.file id content) → d.entry? n' = some (.file id content') → n = n'
  standing {gate : Nat} {t : String} {id : Nat} : d.gates[gate]? = some ⟨t, some id⟩ →
    ∃ content, d.entry? (LockFile.name t) = some (.file id content)
  single {gate gate' : Nat} {t t' : String} {id : Nat} : d.gates[gate]? = some ⟨t, some id⟩ →
    d.gates[gate']? = some ⟨t', some id⟩ → gate = gate'
  named {gate : Nat} {t : String} {id : Nat} : d.gates[gate]? = some ⟨t, some id⟩ →
    LockFile.isEntryName (LockFile.name t) = true ∧
      LockFile.isEntryName (LockFile.sidecar (LockFile.name t)) = true

theorem unused_of_empty (hentries : d.entries = some ∅) (hgates : d.gates = []) : d.Unused := by
  have hnone (n : String) : d.entry? n = none := by
    unfold entry?
    rw [hentries, Option.bind_some]
    rfl
  refine ⟨by rw [hentries]; rfl, hgates, fun h => ?_, fun h _ => ?_⟩ <;>
    (rw [hnone] at h; cases h)

theorem Unused.exclusive (h : d.Unused) : d.Exclusive where
  there := h.there
  id_lt := h.id_lt
  id_inj := h.id_inj
  standing hgate := by simp [h.gates] at hgate
  single hgate := by simp [h.gates] at hgate
  named hgate := by simp [h.gates] at hgate

namespace Exclusive

/-- At most one gate holds a lock file. -/
theorem unique (h : d.Exclusive) {gate gate' : Nat} (hlock : d.lockFile? gate = some n)
    (hlock' : d.lockFile? gate' = some n) (hholds : d.holds gate = true)
    (hholds' : d.holds gate' = true) : gate = gate' := by
  obtain ⟨t, id, hgate, rfl⟩ := exists_file hlock hholds
  obtain ⟨t', id', hgate', hname⟩ := exists_file hlock' hholds'
  obtain ⟨content, hentry⟩ := h.standing hgate
  obtain ⟨content', hentry'⟩ := h.standing hgate'
  rw [hname, hentry] at hentry'
  cases hentry'
  exact h.single hgate hgate'

/-- A lock file is locked exactly if a gate holds it. -/
theorem isLocked_eq_false_iff (h : d.Exclusive) {content : String}
    (hentry : d.entry? n = some (.file id content)) : d.isLocked id = false ↔ d.IsFree n := by
  rw [← Bool.not_eq_true, isLocked_iff]
  constructor
  · intro hnone gate hlock
    rw [← Bool.not_eq_true]
    intro hholds
    obtain ⟨t, id', hgate, rfl⟩ := exists_file hlock hholds
    obtain ⟨content', hstanding⟩ := h.standing hgate
    rw [hentry] at hstanding
    cases hstanding
    exact hnone ⟨gate, _, hgate, rfl⟩
  · rintro hfree ⟨gate, ⟨t, file⟩, hgate, hfile⟩
    cases hfile
    obtain ⟨content', hstanding⟩ := h.standing hgate
    have hname : LockFile.name t = n := h.id_inj hstanding hentry
    have hidle := hfree gate (by rw [lockFile?_eq hgate, hname])
    rw [holds_eq hgate] at hidle
    cases hidle

/-! ### Steps -/

/-- The process and the time do not matter. -/
theorem congr (h : d.Exclusive) (hentries : d'.entries = d.entries) (hgates : d'.gates = d.gates)
    (hnext : d'.nextFile = d.nextFile) : d'.Exclusive := by
  obtain ⟨entries, gates, nextFile, pid, clock, passages, endsInDot⟩ := d'
  subst hentries hgates hnext
  exact ⟨h.there, h.id_lt, h.id_inj, h.standing, h.single, h.named⟩

/-- An entry is changed; a lock file stays the file that it is. -/
theorem changes (h : d.Exclusive) (hchange : Changes d name e d')
    (hkeep : ∀ {t id content}, name = LockFile.name t → d.entry? name = some (.file id content) →
      ∃ content', e = some (.file id content')) : d'.Exclusive where
  there := hchange.there.trans h.there
  id_lt {n id content} hentry := by
    by_cases hn : n = name
    · rw [hn, hchange.self] at hentry
      rcases hchange.known hentry with ⟨content', hold⟩ | ⟨rfl, hlt⟩
      · exact Nat.lt_of_lt_of_le (h.id_lt hold) hchange.nextFile_le
      · exact hlt
    · rw [hchange.other n hn] at hentry
      exact Nat.lt_of_lt_of_le (h.id_lt hentry) hchange.nextFile_le
  id_inj {n n' id content content'} hentry hentry' := by
    -- a file at another name is older than a new one, and differs from the one that was there
    have hother {n : String} {id : Nat} {content content' : String} (hn : n ≠ name)
        (hentry : d.entry? n = some (.file id content))
        (hself : e = some (.file id content')) : False := by
      rcases hchange.known hself with ⟨content'', hold⟩ | ⟨rfl, -⟩
      · exact hn (h.id_inj hentry hold)
      · exact Nat.lt_irrefl _ (h.id_lt hentry)
    by_cases hn : n = name <;> by_cases hn' : n' = name
    · rw [hn, hn']
    · rw [hn, hchange.self] at hentry
      rw [hchange.other n' hn'] at hentry'
      exact (hother hn' hentry' hentry).elim
    · rw [hn', hchange.self] at hentry'
      rw [hchange.other n hn] at hentry
      exact (hother hn hentry hentry').elim
    · rw [hchange.other n hn] at hentry
      rw [hchange.other n' hn'] at hentry'
      exact h.id_inj hentry hentry'
  standing {gate t id} hgate := by
    rw [hchange.gates] at hgate
    obtain ⟨content, hentry⟩ := h.standing hgate
    by_cases hn : LockFile.name t = name
    · obtain ⟨content', he⟩ := hkeep hn.symm (hn ▸ hentry)
      exact ⟨content', by rw [hn, hchange.self, he]⟩
    · exact ⟨content, by rw [hchange.other _ hn, hentry]⟩
  single hgate hgate' := by
    rw [hchange.gates] at hgate hgate'
    exact h.single hgate hgate'
  named hgate := by
    rw [hchange.gates] at hgate
    exact h.named hgate

theorem writes (h : d.Exclusive) {content : String} (hwrites : Writes d name id content d') :
    d'.Exclusive :=
  h.changes hwrites.toChanges fun _ hentry => ⟨content, by rw [hwrites.same hentry]⟩

/-- A gate gives its file up. -/
theorem setGate_none (h : d.Exclusive) (hgate : d.gates[gate]? = some ⟨t, file⟩) :
    (d.setGate gate ⟨t, none⟩).Exclusive := by
  -- every gate that has a file had it before
  have hold {other : Nat} {t' : String} {id : Nat}
      (hother : (d.setGate gate ⟨t, none⟩).gates[other]? = some ⟨t', some id⟩) :
      d.gates[other]? = some ⟨t', some id⟩ := by
    rw [getElem?_setGate hgate] at hother
    split at hother
    · cases hother
    · exact hother
  exact ⟨h.there, h.id_lt, h.id_inj, fun hother => h.standing (hold hother),
    fun hother hother' => h.single (hold hother) (hold hother'),
    fun hother => h.named (hold hother)⟩

/-- A gate gets the lock file, which no gate has. -/
theorem setGate_some (h : d.Exclusive) (content : String)
    (hgate : d.gates[gate]? = some ⟨t, file⟩)
    (hentry : d.entry? (LockFile.name t) = some (.file id content)) (hfree : d.isLocked id = false)
    (hname : LockFile.isEntryName (LockFile.name t) = true)
    (hsidecar : LockFile.isEntryName (LockFile.sidecar (LockFile.name t)) = true) :
    (d.setGate gate ⟨t, some id⟩).Exclusive := by
  have hnew {other : Nat} {t' : String} {id' : Nat}
      (hother : (d.setGate gate ⟨t, some id⟩).gates[other]? = some ⟨t', some id'⟩) :
      other = gate ∧ t' = t ∧ id' = id ∨ other ≠ gate ∧ d.gates[other]? = some ⟨t', some id'⟩ := by
    rw [getElem?_setGate hgate] at hother
    split at hother
    · next heq =>
      cases hother
      exact .inl ⟨heq, rfl, rfl⟩
    · next hne => exact .inr ⟨hne, hother⟩
  have hunlocked {other : Nat} {t' : String} : d.gates[other]? ≠ some ⟨t', some id⟩ := by
    intro hother
    rw [isLocked_iff.mpr ⟨other, _, hother, rfl⟩] at hfree
    cases hfree
  refine ⟨h.there, h.id_lt, h.id_inj, fun hother => ?_, fun hother hother' => ?_, fun hother => ?_⟩
  · rcases hnew hother with ⟨-, rfl, rfl⟩ | ⟨-, hold⟩
    · exact ⟨content, hentry⟩
    · exact h.standing hold
  · rcases hnew hother with ⟨hgate, -, hid⟩ | ⟨-, hold⟩ <;>
      rcases hnew hother' with ⟨hgate', -, hid'⟩ | ⟨-, hold'⟩
    · exact hgate.trans hgate'.symm
    · exact absurd (hid ▸ hold') hunlocked
    · exact absurd (hid' ▸ hold) hunlocked
    · exact h.single hold hold'
  · rcases hnew hother with ⟨-, rfl, -⟩ | ⟨-, hold⟩
    · exact ⟨hname, hsidecar⟩
    · exact h.named hold

theorem newGate (h : d.Exclusive) (target : String) : (d.gate target).2.Exclusive := by
  have hold {other : Nat} {t' : String} {id : Nat}
      (hother : (d.gate target).2.gates[other]? = some ⟨t', some id⟩) :
      d.gates[other]? = some ⟨t', some id⟩ := by
    rw [getElem?_gate] at hother
    split at hother
    · cases hother
    · exact hother
  exact ⟨h.there, h.id_lt, h.id_inj, fun hother => h.standing (hold hother),
    fun hother hother' => h.single (hold hother) (hold hother'),
    fun hother => h.named (hold hother)⟩

theorem attempt (h : d.Exclusive) {answer : Bool} (hattempt : Attempt d gate answer d') :
    d'.Exclusive := by
  cases hattempt with
  | missing | held | closed => exact h
  | taken _ _ hopened _ | unwritable _ _ hopened _ _ => exact h.writes hopened
  | @granted t content id sidecarId opened written hgate hcan hopened hfree hcan' hwritten =>
      have hgates : written.gates = d.gates := hwritten.gates.trans hopened.gates
      refine ((h.writes hopened).writes hwritten).setGate_some content
        (hgates ▸ hgate) ?_ ?_ hcan.2.1 hcan'.2.1
      · rw [hwritten.other _ (LockFile.sidecar_ne_name _ _).symm, hopened.self]
      · rw [hwritten.isLocked, hopened.isLocked, hfree]

theorem release (h : d.Exclusive) (hrelease : Release d gate d') : d'.Exclusive := by
  cases hrelease with
  | idle => exact h
  | released hgate hremoved =>
      refine (h.changes hremoved fun hname _ => ?_).setGate_none (hremoved.gates ▸ hgate)
      exact absurd hname (LockFile.sidecar_ne_name _ _)

/-- An attempt succeeds exactly if the gate holds the lock already, or nobody does and both files
can be written. -/
theorem attempt_iff (h : d.Exclusive) {answer : Bool} (hattempt : Attempt d gate answer d') :
    answer = true ↔ d.holds gate = true ∨ ∃ n, d.lockFile? gate = some n ∧ d.IsFree n ∧
      d.CanWrite n ∧ d.CanWrite (LockFile.sidecar n) := by
  have hfree {n content : String} {id : Nat} {opened : LockDirectory}
      (hopened : Writes d n id content opened) : d.isLocked id = false ↔ d.IsFree n := by
    rw [← hopened.isLocked, (h.writes hopened).isLocked_eq_false_iff hopened.self,
      hopened.isFree_iff]
  cases hattempt with
  | missing hgate => simp [holds, lockFile?, hgate]
  | held hgate => simp [holds_eq hgate]
  | closed hgate hclosed => simp [holds_eq hgate, lockFile?_eq hgate, hclosed]
  | taken hgate hcan hopened hlocked =>
      have hheld := mt (hfree hopened).mpr (by simp [hlocked])
      simp [holds_eq hgate, lockFile?_eq hgate, hheld]
  | unwritable hgate hcan hopened hunlocked hcannot =>
      simp [holds_eq hgate, lockFile?_eq hgate, hcannot]
  | granted hgate hcan hopened hunlocked hcan' hwritten =>
      simp [lockFile?_eq hgate, (hfree hopened).mp hunlocked, hcan, hcan']

end Exclusive

/-! ## What an operation does to what the gates hold -/

/-- Only a gate that there is can be granted its lock. -/
theorem exists_lockFile_of_granted (h : Attempt d gate true d') :
    ∃ n, d.lockFile? gate = some n := by
  cases h with
  | held hgate | granted hgate => exact ⟨_, lockFile?_eq hgate⟩

/-- After an attempt the gate holds its lock exactly if it succeeded, and the others hold what they
held. -/
theorem Attempt.holds {answer : Bool} (h : Attempt d gate answer d') (other : Nat) :
    d'.holds other = if other = gate then answer else d.holds other := by
  have hsame {d' : LockDirectory} (hd' : ∀ other, d'.holds other = d.holds other)
      (hanswer : d.holds gate = answer) :
      d'.holds other = if other = gate then answer else d.holds other := by
    split
    · next heq => rw [hd', heq, hanswer]
    · exact hd' other
  cases h with
  | missing hgate =>
      exact hsame (fun _ => rfl) (by rw [LockDirectory.holds, hgate, Option.any_none])
  | held hgate | closed hgate => exact hsame (fun _ => rfl) (holds_eq hgate)
  | taken hgate _ hopened _ | unwritable hgate _ hopened _ _ =>
      exact hsame hopened.holds (holds_eq hgate)
  | granted hgate _ hopened _ _ hwritten =>
      have hgates := hwritten.gates.trans hopened.gates
      rw [holds_setGate (hgates ▸ hgate), hwritten.holds, hopened.holds]
      rfl

/-- A gate that holds its lock removes the sidecar and gives the lock file up. -/
theorem Release.exists_removed (h : Release d gate d') (hholds : d.holds gate = true) :
    ∃ t id removed, d.gates[gate]? = some ⟨t, some id⟩ ∧
      Changes d (LockFile.sidecar (LockFile.name t))
        (withoutFile (d.entry? (LockFile.sidecar (LockFile.name t)))) removed ∧
      d' = removed.setGate gate ⟨t, none⟩ := by
  cases h with
  | idle hidle =>
      obtain ⟨t, id, hgate⟩ := holds_eq_true_iff.mp hholds
      cases hidle _ hgate
  | released hgate hremoved => exact ⟨_, _, _, hgate, hremoved, rfl⟩

/-- A gate that holds nothing gives nothing back. -/
theorem Release.eq_of_idle (h : Release d gate d') (hidle : d.holds gate = false) : d' = d := by
  cases h with
  | idle => rfl
  | released hgate => simp [holds_eq hgate] at hidle

theorem Release.lockFile? (h : Release d gate d') (other : Nat) :
    d'.lockFile? other = d.lockFile? other := by
  cases h with
  | idle => rfl
  | released hgate hremoved =>
      rw [lockFile?_setGate (hremoved.gates ▸ hgate), hremoved.lockFile?]

/-- A gate that is given back holds nothing, and the others hold what they held. -/
theorem Release.holds (h : Release d gate d') (other : Nat) :
    d'.holds other = if other = gate then false else d.holds other := by
  cases h with
  | idle hidle =>
      split
      · next heq =>
        rw [heq, LockDirectory.holds]
        cases hgate : d.gates[gate]? with
        | none => rfl
        | some g => simp [hidle g hgate]
      · rfl
  | released hgate hremoved =>
      rw [holds_setGate (hremoved.gates ▸ hgate), hremoved.holds]
      rfl

/-- Where a lock was given back the lock file is there, and the sidecar can be written unless there
is a folder in its place. -/
theorem Exclusive.canWrite_released (h : d.Exclusive) (hlock : d.lockFile? gate = some n)
    (hholds : d.holds gate = true) (hrelease : Release d gate d') :
    d'.CanWrite n ∧
      (d'.CanWrite (LockFile.sidecar n) ↔ d.entry? (LockFile.sidecar n) ≠ some .folder) := by
  obtain ⟨t, id, removed, hgate, hremoved, rfl⟩ := hrelease.exists_removed hholds
  rw [lockFile?_eq hgate] at hlock
  cases hlock
  obtain ⟨content, hentry⟩ := h.standing hgate
  obtain ⟨hname, hsidecar⟩ := h.named hgate
  have hthere : removed.entries.isSome = true := hremoved.there.trans h.there
  have hfile : removed.entry? (LockFile.name t) = some (.file id content) := by
    rw [hremoved.other _ (LockFile.sidecar_ne_name _ _).symm, hentry]
  refine ⟨⟨hthere, hname, ?_⟩, ?_⟩
  · rw [entry?_setGate, hfile]
    simp
  · simp only [CanWrite, entry?_setGate, hremoved.self, ne_eq, withoutFile_eq_folder_iff]
    exact ⟨fun hcan => hcan.2.2, fun hfolder => ⟨hthere, hsidecar, hfolder⟩⟩

/-- Where a lock was given back nobody holds it. -/
theorem Exclusive.isFree_released (h : d.Exclusive) (hlock : d.lockFile? gate = some n)
    (hholds : d.holds gate = true) (hrelease : Release d gate d') : d'.IsFree n := by
  intro other hother
  rw [hrelease.lockFile?] at hother
  rw [hrelease.holds]
  split
  · rfl
  · next hne =>
    rw [← Bool.not_eq_true]
    exact fun hheld => hne (h.unique hother hlock hheld hholds)

end TelemetryGateway.LockDirectory
