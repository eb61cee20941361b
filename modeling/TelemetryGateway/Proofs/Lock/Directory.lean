import TelemetryGateway.Lock.Directory
import TelemetryGateway.Proofs.Lock.Files

/-!
# What an operation does to a lock directory

Every operation changes the entry of one file after the other, and at the end perhaps one gate.  A
change of one entry is described by what is there afterwards (`LockDirectory.Changes`), so opening,
writing and removing a file need one lemma each, and what an attempt to take a lock can come to is
said once (`LockDirectory.Attempt`), with the reason for which it fails.

Asking for the holder takes the very lock it asks about for a moment.  `LockDirectory.inspect` does
so step by step; nothing of it stays (`LockDirectory.inspect_eq`).
-/

namespace TelemetryGateway.LockDirectory

variable {d d' : LockDirectory} {name content target : String} {e : Option DirectoryEntry}
  {id gate : Nat}

/-! ## One entry -/

theorem entry?_setEntry (hthere : d.entries.isSome = true) (name other : String)
    (e : DirectoryEntry) :
    LockDirectory.entry? (d.setEntry name e) other =
      if name = other then some e else d.entry? other := by
  obtain ⟨entries, hentries⟩ := Option.isSome_iff_exists.mp hthere
  unfold entry?
  simp [setEntry, hentries, Dictionary.get?_insert]

/-- Removes the entry of a name, whatever it is. -/
def erase (d : LockDirectory) (name : String) : LockDirectory :=
  { d with entries := d.entries.map (·.erase name) }

theorem entry?_erase (d : LockDirectory) (name other : String) :
    LockDirectory.entry? (d.erase name) other = if name = other then none else d.entry? other := by
  unfold entry?
  cases hentries : d.entries with
  | none => simp [erase, hentries]
  | some entries => simp [erase, hentries, Dictionary.get?_erase]

theorem create_eq (hthere : d.entries.isSome = true) : d.create = d := by
  obtain ⟨entries, hentries⟩ := Option.isSome_iff_exists.mp hthere
  obtain ⟨_, gates, nextFile, pid, clock, passages, endsInDot⟩ := d
  cases hentries
  rfl

/-- Whether a file of this name is there or can be made. -/
def CanWrite (d : LockDirectory) (name : String) : Prop :=
  d.entries.isSome = true ∧ LockFile.isEntryName name = true ∧ d.entry? name ≠ some .folder

instance : Decidable (d.CanWrite name) :=
  inferInstanceAs (Decidable (_ ∧ _ ∧ _))

/-- The second directory has the given entry under a name, and is otherwise the first one.  A file
under that name is the one that was there or a new one. -/
structure Changes (d : LockDirectory) (name : String) (e : Option DirectoryEntry)
    (d' : LockDirectory) : Prop where
  gates : d'.gates = d.gates
  writer : d'.metadataFor = d.metadataFor
  there : d'.entries.isSome = d.entries.isSome
  self : d'.entry? name = e
  other : ∀ other, other ≠ name → d'.entry? other = d.entry? other
  nextFile_le : d.nextFile ≤ d'.nextFile
  known : ∀ {id content}, e = some (.file id content) →
    (∃ content', d.entry? name = some (.file id content')) ∨
      id = d.nextFile ∧ d.nextFile < d'.nextFile

namespace Changes

theorem refl (d : LockDirectory) (name : String) : Changes d name (d.entry? name) d :=
  ⟨rfl, rfl, rfl, rfl, fun _ _ => rfl, Nat.le_refl _, fun h => .inl ⟨_, h⟩⟩

/-- An entry is replaced by a folder or by the same file with another content. -/
theorem of_setEntry {e : DirectoryEntry} (hthere : d.entries.isSome = true)
    (hknown : ∀ {id content}, e = .file id content →
      ∃ content', d.entry? name = some (.file id content')) :
    Changes d name (some e) (d.setEntry name e) where
  gates := rfl
  writer := rfl
  there := Option.isSome_map
  self := by rw [entry?_setEntry hthere, if_pos rfl]
  other other hne := by rw [entry?_setEntry hthere, if_neg hne.symm]
  nextFile_le := Nat.le_refl _
  known h := .inl (hknown (Option.some.inj h))

theorem of_erase (d : LockDirectory) (name : String) : Changes d name none (d.erase name) where
  gates := rfl
  writer := rfl
  there := Option.isSome_map
  self := by rw [entry?_erase, if_pos rfl]
  other other hne := by rw [entry?_erase, if_neg hne.symm]
  nextFile_le := Nat.le_refl _
  known h := nomatch h

/-- Two changes of one entry are a change. -/
theorem trans {e' : Option DirectoryEntry} {d'' : LockDirectory} (h : Changes d name e d')
    (h' : Changes d' name e' d'')
    (hsame : ∀ {id content}, e' = some (.file id content) →
      ∃ content', e = some (.file id content')) :
    Changes d name e' d'' where
  gates := h'.gates.trans h.gates
  writer := h'.writer.trans h.writer
  there := h'.there.trans h.there
  self := h'.self
  other other hne := (h'.other other hne).trans (h.other other hne)
  nextFile_le := Nat.le_trans h.nextFile_le h'.nextFile_le
  known heq := by
    obtain ⟨content', he⟩ := hsame heq
    rcases h.known he with hold | ⟨hid, hlt⟩
    · exact .inl hold
    · exact .inr ⟨hid, Nat.lt_of_lt_of_le hlt h'.nextFile_le⟩

end Changes

/-- The second directory has a file with the given content under a name: the one that was there, if
there was one. -/
structure Writes (d : LockDirectory) (name : String) (id : Nat) (content : String)
    (d' : LockDirectory) : Prop extends Changes d name (some (.file id content)) d' where
  same : ∀ {id' content'}, d.entry? name = some (.file id' content') → id' = id

/-! ## One operation on a file -/

/-- A file is opened if its name can be written. -/
theorem openFile_cases (d : LockDirectory) (name : String) :
    (¬ d.CanWrite name ∧ d.openFile name = none) ∨
      (d.CanWrite name ∧ ∃ id content d', d.openFile name = some (id, d') ∧
        Writes d name id content d') := by
  unfold openFile
  by_cases hname : (d.entries.isSome && LockFile.isEntryName name) = true
  · rw [if_pos hname]
    obtain ⟨hthere, hname⟩ := Bool.and_eq_true_iff.mp hname
    cases hentry : d.entry? name with
    | none =>
        refine .inr ⟨⟨hthere, hname, by simp [hentry]⟩, d.nextFile, "", _, rfl, ?_, fun h => ?_⟩
        · refine ⟨rfl, rfl, Option.isSome_map, ?_, fun other hne => ?_, Nat.le_succ _, ?_⟩
          · exact (entry?_setEntry hthere name name _).trans (if_pos rfl)
          · exact (entry?_setEntry hthere name other _).trans (if_neg hne.symm)
          · rintro _ _ ⟨⟩
            exact .inr ⟨rfl, Nat.lt_succ_self _⟩
        · rw [hentry] at h
          cases h
    | some e =>
        cases e with
        | folder => exact .inl ⟨fun h => h.2.2 hentry, rfl⟩
        | file id content =>
            refine .inr ⟨⟨hthere, hname, by simp [hentry]⟩, id, content, d, rfl, ?_, fun h => ?_⟩
            · exact hentry ▸ Changes.refl d name
            · rw [hentry] at h
              cases h
              rfl
  · rw [if_neg hname]
    refine .inl ⟨fun h => hname ?_, rfl⟩
    rw [h.1, h.2.1]
    rfl

theorem writeFile_cases (d : LockDirectory) (name content : String) :
    (¬ d.CanWrite name ∧ d.writeFile name content = (false, d)) ∨
      (d.CanWrite name ∧ ∃ id d', d.writeFile name content = (true, d') ∧
        Writes d name id content d') := by
  unfold writeFile
  rcases d.openFile_cases name with ⟨hcannot, hopen⟩ | ⟨hcan, id, old, opened, hopen, hopened⟩
  · exact .inl ⟨hcannot, by rw [hopen]⟩
  · have hthere : opened.entries.isSome = true := hopened.there.trans hcan.1
    have hset : Changes opened name (some (.file id content))
        (opened.setEntry name (.file id content)) :=
      .of_setEntry hthere (by rintro _ _ ⟨⟩; exact ⟨old, hopened.self⟩)
    refine .inr ⟨hcan, id, _, by rw [hopen], hopened.trans hset ?_, hopened.same⟩
    rintro _ _ ⟨⟩
    exact ⟨old, rfl⟩

/-- Writing a file leaves a folder where one is, and nothing where there is nothing only if it
fails. -/
theorem changes_writeFile (d : LockDirectory) (name content : String) :
    ∃ e, Changes d name e (d.writeFile name content).2 ∧
      (e = some .folder ↔ d.entry? name = some .folder) ∧
      (e = none ↔ ¬ d.CanWrite name ∧ d.entry? name = none) := by
  rcases d.writeFile_cases name content with ⟨hcannot, hwrite⟩ | ⟨hcan, id, d', hwrite, hwritten⟩
  · rw [hwrite]
    exact ⟨_, .refl d name, .rfl, by simp [hcannot]⟩
  · rw [hwrite]
    exact ⟨_, hwritten.toChanges, by simp [hcan.2.2], by simp [hcan]⟩

/-- A folder is made where there is nothing, if there can be an entry of that name. -/
theorem changes_makeFolder (d : LockDirectory) (name : String) :
    ∃ e, Changes d name e (d.makeFolder name).2 ∧
      (d.entry? name ≠ none → e = d.entry? name) ∧
      (d.entry? name = none → e = if d.entries.isSome && LockFile.isEntryName name then
        some .folder else none) := by
  unfold makeFolder
  cases hentry : d.entry? name with
  | some e =>
      rw [Option.isNone_some, Bool.and_false]
      exact ⟨_, .refl d name, fun _ => hentry, nofun⟩
  | none =>
      rw [Option.isNone_none, Bool.and_true]
      by_cases hname : (d.entries.isSome && LockFile.isEntryName name) = true
      · simp only [hname, if_true]
        exact ⟨_, .of_setEntry (Bool.and_eq_true_iff.mp hname).1 nofun, by simp, fun _ => rfl⟩
      · simp only [hname]
        exact ⟨_, .refl d name, by simp, fun _ => hentry⟩

/-- What is left under a name when a file is removed. -/
def withoutFile : Option DirectoryEntry → Option DirectoryEntry
  | some .folder => some .folder
  | _ => none

@[simp] theorem withoutFile_eq_folder_iff : withoutFile e = some .folder ↔ e = some .folder := by
  cases e with
  | none => rfl
  | some e => cases e <;> simp [withoutFile]

theorem withoutFile_eq_none_iff : withoutFile e = none ↔ e ≠ some .folder := by
  cases e with
  | none => simp [withoutFile]
  | some e => cases e <;> simp [withoutFile]

theorem changes_removeFile (d : LockDirectory) (name : String) :
    Changes d name (withoutFile (d.entry? name)) (d.removeFile name).2 := by
  unfold removeFile
  split
  · next hentry =>
    rw [hentry]
    exact .of_erase d name
  · next hentry =>
    have hsame : withoutFile (d.entry? name) = d.entry? name := by
      cases he : d.entry? name with
      | none => rfl
      | some e =>
          cases e with
          | folder => rfl
          | file id content => exact absurd he (hentry id content)
    rw [hsame]
    exact .refl d name

/-- The other names can be written as before. -/
theorem Changes.canWrite_iff (h : Changes d name e d') {other : String} (hne : other ≠ name) :
    d'.CanWrite other ↔ d.CanWrite other := by
  simp only [CanWrite, h.there, h.other other hne]

/-! ## One operation on a gate -/

/-- Replaces one gate. -/
def setGate (d : LockDirectory) (gate : Nat) (g : FileGate) : LockDirectory :=
  { d with gates := d.gates.set gate g }

@[simp] theorem entry?_setGate (d : LockDirectory) (gate : Nat) (g : FileGate) (name : String) :
    LockDirectory.entry? (d.setGate gate g) name = d.entry? name := rfl

theorem setGate_self {g : FileGate} (hgate : d.gates[gate]? = some g) : d.setGate gate g = d := by
  obtain ⟨hlt, hself⟩ := List.getElem?_eq_some_iff.mp hgate
  have hgates : d.gates.set gate g = d.gates := by rw [← hself, List.set_getElem_self]
  rw [setGate, hgates]

theorem isLocked_iff :
    d.isLocked id = true ↔
      ∃ (gate : Nat) (g : FileGate), d.gates[gate]? = some g ∧ g.file = some id := by
  simp only [isLocked, List.any_eq_true, beq_iff_eq]
  constructor
  · rintro ⟨g, hmem, hfile⟩
    obtain ⟨gate, hgate⟩ := List.mem_iff_getElem?.mp hmem
    exact ⟨gate, g, hgate, hfile⟩
  · rintro ⟨gate, g, hgate, hfile⟩
    exact ⟨g, List.mem_of_getElem? hgate, hfile⟩

/-- What an attempt to take the lock of a gate comes to. -/
inductive Attempt (d : LockDirectory) (gate : Nat) : Bool → LockDirectory → Prop
  /-- There is no such gate. -/
  | missing : d.gates[gate]? = none → Attempt d gate false d
  /-- The gate holds the lock already. -/
  | held {target : String} {id : Nat} : d.gates[gate]? = some ⟨target, some id⟩ →
      Attempt d gate true d
  /-- There is no lock file, and none can be made. -/
  | closed {target : String} : d.gates[gate]? = some ⟨target, none⟩ →
      ¬ d.CanWrite (LockFile.name target) → Attempt d gate false d
  /-- The lock file is there now, but it is locked. -/
  | taken {target content : String} {id : Nat} {opened : LockDirectory} :
      d.gates[gate]? = some ⟨target, none⟩ → d.CanWrite (LockFile.name target) →
      Writes d (LockFile.name target) id content opened →
      d.isLocked id = true → Attempt d gate false opened
  /-- The lock file was locked, and given up again as the sidecar could not be written. -/
  | unwritable {target content : String} {id : Nat} {opened : LockDirectory} :
      d.gates[gate]? = some ⟨target, none⟩ → d.CanWrite (LockFile.name target) →
      Writes d (LockFile.name target) id content opened →
      d.isLocked id = false → ¬ d.CanWrite (LockFile.sidecar (LockFile.name target)) →
      Attempt d gate false opened
  /-- The gate has the lock file now, and the sidecar says so. -/
  | granted {target content : String} {id sidecarId : Nat} {opened written : LockDirectory} :
      d.gates[gate]? = some ⟨target, none⟩ → d.CanWrite (LockFile.name target) →
      Writes d (LockFile.name target) id content opened →
      d.isLocked id = false → d.CanWrite (LockFile.sidecar (LockFile.name target)) →
      Writes opened (LockFile.sidecar (LockFile.name target)) sidecarId
        (d.metadataFor target).render written →
      Attempt d gate true (written.setGate gate ⟨target, some id⟩)

theorem attempt (d : LockDirectory) (gate : Nat) :
    Attempt d gate (d.tryAcquire gate).1 (d.tryAcquire gate).2 := by
  unfold tryAcquire
  cases hgate : d.gates[gate]? with
  | none => exact .missing hgate
  | some g =>
      obtain ⟨target, file⟩ := g
      cases file with
      | some id => exact .held hgate
      | none =>
          rcases d.openFile_cases (LockFile.name target) with
            ⟨hclosed, hopen⟩ | ⟨hcan, id, content, opened, hopen, hopened⟩
          · simp only [hopen]
            exact .closed hgate hclosed
          · simp only [hopen]
            have hlocked : opened.isLocked id = d.isLocked id := by
              simp only [isLocked, hopened.gates]
            cases hheld : d.isLocked id with
            | true =>
                simp only [hlocked, hheld]
                exact .taken hgate hcan hopened hheld
            | false =>
                have hsidecar := hopened.canWrite_iff
                  (LockFile.sidecar_ne_name (LockFile.name target) target)
                simp only [hlocked, hheld]
                rcases opened.writeFile_cases (LockFile.sidecar (LockFile.name target))
                    (opened.metadataFor target).render with
                  ⟨hcannot, hwrite⟩ | ⟨hcan', sidecarId, written, hwrite, hwritten⟩
                · simp only [hwrite]
                  exact .unwritable hgate hcan hopened hheld (mt hsidecar.mpr hcannot)
                · simp only [hwrite]
                  rw [hopened.writer] at hwritten
                  exact .granted hgate hcan hopened hheld (hsidecar.mp hcan') hwritten

/-- An attempt that fails touches no sidecar. -/
theorem Attempt.entry?_sidecar (h : Attempt d gate false d') (n : String) :
    d'.entry? (LockFile.sidecar n) = d.entry? (LockFile.sidecar n) := by
  cases h with
  | missing | closed => rfl
  | taken _ _ hopened _ | unwritable _ _ hopened _ _ =>
      exact hopened.other _ (LockFile.sidecar_ne_name n _)

/-- What giving back the lock of a gate comes to. -/
inductive Release (d : LockDirectory) (gate : Nat) : LockDirectory → Prop
  /-- The gate does not hold it. -/
  | idle : (∀ g, d.gates[gate]? = some g → g.file = none) → Release d gate d
  /-- The sidecar is removed, unless there is a folder in its place. -/
  | released {target : String} {id : Nat} {removed : LockDirectory} :
      d.gates[gate]? = some ⟨target, some id⟩ →
      Changes d (LockFile.sidecar (LockFile.name target))
        (withoutFile (d.entry? (LockFile.sidecar (LockFile.name target)))) removed →
      Release d gate (removed.setGate gate ⟨target, none⟩)

theorem release (d : LockDirectory) (gate : Nat) : Release d gate (d.unlock gate) := by
  unfold unlock
  cases hgate : d.gates[gate]? with
  | none => exact .idle (by simp [hgate])
  | some g =>
      obtain ⟨target, file⟩ := g
      cases file with
      | none => exact .idle (by simp [hgate])
      | some id => exact .released hgate (d.changes_removeFile _)

/-! ## Asking for the holder -/

/-- Asks for the holder of a target's lock: opens the lock file, without making it, and tries to
lock it.  Who gets it closes the file again; who does not reads the sidecar. -/
def inspect (d : LockDirectory) (target : String) : Option LockMetadata × LockDirectory :=
  match d.entry? (LockFile.name target) with
  | some (.file id _) =>
      if d.isLocked id then
        match d.entry? (LockFile.sidecar (LockFile.name target)) with
        | some (.file _ content) => (LockMetadata.parse? content, d)
        | _ => (none, d)
      else
        let locked : LockDirectory := { d with gates := d.gates ++ [⟨target, some id⟩] }
        (none, { locked with gates := locked.gates.dropLast })
  | _ => (none, d)

/-- Whoever asks is told what is written about the holder, and leaves everything as it was. -/
theorem inspect_eq (d : LockDirectory) (target : String) :
    d.inspect target = (d.holder? target, d) := by
  unfold inspect holder?
  cases d.entry? (LockFile.name target) with
  | none => rfl
  | some e =>
      cases e with
      | folder => rfl
      | file id content =>
          cases hlocked : d.isLocked id with
          | false => simp [hlocked]
          | true =>
              simp only [hlocked, if_true]
              cases d.entry? (LockFile.sidecar (LockFile.name target)) with
              | none => rfl
              | some e => cases e <;> rfl

end TelemetryGateway.LockDirectory
