import Mathlib.Logic.ExistsUnique
import TelemetryGateway.Proofs.Lock.Registry
import TelemetryGateway.Proofs.Network.Effect

/-!
# Owners of the locks of a registry

Who owns a lock is recorded twice, by the registry, which holds its name, and by the gate, which has
a mark.  `OwnedBy` reads the mark.  What an operation does to the marks and to the names is said
once for each (`ownedBy_tryAcquire`, `mem_held_tryAcquire` and their likes), and from that the two
records stay in step (`LockRegistry.Faithful`): the names held are those whose lock a gate owns, and
no lock has two owners.

* `LockRegistry.Faithful.tryAcquire`, `LockRegistry.Faithful.unlock`: the agreement in one
  operation;
* `LockRegistry.orderly_afterAll`: what holds of it in every run of a registry, whoever acquires
  twice, gives back what he does not have, or goes out of use.
-/

namespace TelemetryGateway.LockRegistry

variable {r : LockRegistry}

/-- A gate of a registry owns the lock of a name. -/
def OwnedBy (r : LockRegistry) (name : String) (gate : Nat) : Prop :=
  r.gates[gate]? = some ⟨name, true⟩

instance (r : LockRegistry) (name : String) (gate : Nat) : Decidable (r.OwnedBy name gate) :=
  inferInstanceAs (Decidable (_ = _))

/-- A gate that does not own the lock of its name would get it. -/
def IsFreeFor (r : LockRegistry) (name : String) (gate : Nat) : Prop :=
  r.gates[gate]? = some ⟨name, false⟩ ∧ name ∉ r.held

/-! ## Effects -/

section Effects

variable {gate other : Nat} {name target : String}

@[simp] theorem ownedBy_gate : (r.gate target).2.OwnedBy name other ↔ r.OwnedBy name other := by
  refine ⟨fun hother => ?_, getElem?_concat_of_getElem?⟩
  rcases of_getElem?_concat hother with hold | ⟨-, hnew⟩
  · exact hold
  · cases hnew

/-- Only the gate that asks can become an owner. -/
theorem ownedBy_tryAcquire : (r.tryAcquire gate).2.OwnedBy name other ↔
    r.OwnedBy name other ∨ (other = gate ∧ r.IsFreeFor name gate) := by
  cases hgate : r.gates[gate]? with
  | none => simp [tryAcquire, IsFreeFor, hgate]
  | some g =>
      obtain ⟨target, owned⟩ := g
      cases owned with
      | true => simp [tryAcquire_of_owned hgate, IsFreeFor, hgate]
      | false =>
          by_cases hheld : target ∈ r.held
          · have hnot : ¬ r.IsFreeFor name gate := by
              rintro ⟨hsame, hfree⟩
              cases hgate.symm.trans hsame
              exact hfree hheld
            simp [tryAcquire_of_held hgate hheld, hnot]
          · rw [tryAcquire_of_free hgate hheld]
            constructor
            · intro hother
              rcases of_getElem?_set hother with ⟨rfl, hsame⟩ | ⟨-, hold⟩
              · cases hsame
                exact .inr ⟨rfl, hgate, hheld⟩
              · exact .inl hold
            · rintro (hold | ⟨rfl, hsame, -⟩)
              · refine (List.getElem?_set_ne ?_).trans hold
                rintro rfl
                cases hgate.symm.trans hold
              · cases hgate.symm.trans hsame
                exact getElem?_set_of_getElem? hgate

theorem mem_held_tryAcquire :
    name ∈ (r.tryAcquire gate).2.held ↔ name ∈ r.held ∨ r.IsFreeFor name gate := by
  cases hgate : r.gates[gate]? with
  | none => simp [tryAcquire, IsFreeFor, hgate]
  | some g =>
      obtain ⟨target, owned⟩ := g
      cases owned with
      | true => simp [tryAcquire_of_owned hgate, IsFreeFor, hgate]
      | false =>
          simp only [IsFreeFor, hgate, Option.some_inj, LocalGate.mk.injEq, and_true]
          by_cases hheld : target ∈ r.held
          · rw [tryAcquire_of_held hgate hheld]
            refine ⟨.inl, ?_⟩
            rintro (hname | ⟨rfl, -⟩)
            · exact hname
            · exact hheld
          · rw [tryAcquire_of_free hgate hheld, List.mem_cons]
            constructor
            · rintro (rfl | hname)
              · exact .inr ⟨rfl, hheld⟩
              · exact .inl hname
            · rintro (hname | ⟨rfl, -⟩)
              · exact .inr hname
              · exact .inl rfl

theorem tryAcquire_of_refused (h : (r.tryAcquire gate).1 = false) : (r.tryAcquire gate).2 = r := by
  cases hgate : r.gates[gate]? with
  | none => simp [tryAcquire, hgate]
  | some g =>
      obtain ⟨target, owned⟩ := g
      cases owned with
      | true => rw [tryAcquire_of_owned hgate]
      | false =>
          by_cases hheld : target ∈ r.held
          · rw [tryAcquire_of_held hgate hheld]
          · rw [tryAcquire_of_free hgate hheld] at h
            cases h

/-- Only the gate that gives its lock back stops to be an owner. -/
theorem ownedBy_unlock :
    (r.unlock gate).OwnedBy name other ↔ r.OwnedBy name other ∧ other ≠ gate := by
  have hidle (hnot : ∀ target, r.gates[gate]? ≠ some ⟨target, true⟩) (hold : r.OwnedBy name other) :
      other ≠ gate := by
    rintro rfl
    exact hnot name hold
  cases hgate : r.gates[gate]? with
  | none =>
      rw [unlock_of_none hgate]
      exact ⟨fun hold => ⟨hold, hidle (by simp [hgate]) hold⟩, And.left⟩
  | some g =>
      obtain ⟨target, owned⟩ := g
      cases owned with
      | false =>
          rw [unlock_of_not_owned hgate]
          exact ⟨fun hold => ⟨hold, hidle (by simp [hgate]) hold⟩, And.left⟩
      | true =>
          rw [unlock_of_owned hgate]
          constructor
          · intro hother
            rcases of_getElem?_set hother with ⟨-, hsame⟩ | ⟨hne, hold⟩
            · cases hsame
            · exact ⟨hold, hne⟩
          · rintro ⟨hold, hne⟩
            exact (List.getElem?_set_ne hne.symm).trans hold

theorem mem_held_unlock :
    name ∈ (r.unlock gate).held ↔ name ∈ r.held ∧ ¬ r.OwnedBy name gate := by
  cases hgate : r.gates[gate]? with
  | none => simp [unlock_of_none hgate, OwnedBy, hgate]
  | some g =>
      obtain ⟨target, owned⟩ := g
      cases owned with
      | false => simp [unlock_of_not_owned hgate, OwnedBy, hgate]
      | true => simp [unlock_of_owned hgate, OwnedBy, hgate, @eq_comm _ target]

end Effects

/-! ## Agreement -/

/-- The names that a registry records are those whose lock is owned, each by one gate. -/
structure Faithful (r : LockRegistry) : Prop where
  mem_held : ∀ name, name ∈ r.held ↔ ∃ gate, r.OwnedBy name gate
  unique : ∀ name gate gate', r.OwnedBy name gate → r.OwnedBy name gate' → gate = gate'

namespace Faithful

theorem of_new : ({} : LockRegistry).Faithful := by
  constructor <;> simp [OwnedBy]

theorem gate (h : r.Faithful) (target : String) : (r.gate target).2.Faithful := by
  constructor
  · intro name
    simp only [ownedBy_gate]
    exact h.mem_held name
  · intro name gate gate' hgate hgate'
    exact h.unique name gate gate' (ownedBy_gate.mp hgate) (ownedBy_gate.mp hgate')

/-- A lock is taken whose name nobody holds. -/
theorem tryAcquire (h : r.Faithful) (gate : Nat) : (r.tryAcquire gate).2.Faithful := by
  -- nobody owns a name that is not recorded
  have hfree {name : String} {other : Nat} (hfree : r.IsFreeFor name gate)
      (hother : r.OwnedBy name other) : False :=
    hfree.2 ((h.mem_held name).mpr ⟨other, hother⟩)
  constructor
  · intro name
    simp only [mem_held_tryAcquire, ownedBy_tryAcquire, h.mem_held, exists_or, exists_eq_left]
  · intro name g g' hg hg'
    rw [ownedBy_tryAcquire] at hg hg'
    rcases hg with hg | ⟨rfl, hname⟩ <;> rcases hg' with hg' | ⟨rfl, hname'⟩
    · exact h.unique name g g' hg hg'
    · exact (hfree hname' hg).elim
    · exact (hfree hname hg').elim
    · rfl

/-- A lock that is given back was recorded for one gate only. -/
theorem unlock (h : r.Faithful) (gate : Nat) : (r.unlock gate).Faithful := by
  constructor
  · intro name
    simp only [mem_held_unlock, ownedBy_unlock, h.mem_held]
    constructor
    · rintro ⟨⟨other, hother⟩, hnot⟩
      refine ⟨other, hother, ?_⟩
      rintro rfl
      exact hnot hother
    · rintro ⟨other, hother, hne⟩
      exact ⟨⟨other, hother⟩, fun hgate => hne (h.unique name other gate hother hgate)⟩
  · intro name g g' hg hg'
    exact h.unique name g g' (ownedBy_unlock.mp hg).1 (ownedBy_unlock.mp hg').1

end Faithful

/-! ## Runs of a registry -/

/-- One thing that is done with a registry. -/
inductive Act where
  /-- Somebody makes a gate for a name. -/
  | gate (target : String)
  | tryAcquire (gate : Nat)
  | unlock (gate : Nat)
  /-- A gate goes out of use. -/
  | drop (gate : Nat)

/-- The registry after something was done with it. -/
def after (r : LockRegistry) : Act → LockRegistry
  | .gate target => (r.gate target).2
  | .tryAcquire gate => (r.tryAcquire gate).2
  | .unlock gate | .drop gate => r.unlock gate

/-- The registry after one thing after the other was done with it. -/
def afterAll (r : LockRegistry) (acts : List Act) : LockRegistry := acts.foldl after r

/-- The name of a gate. -/
def nameOf? (r : LockRegistry) (gate : Nat) : Option String := r.gates[gate]?.map (·.target)

/-- The name that something is done with. -/
def concerns? (r : LockRegistry) : Act → Option String
  | .gate target => some target
  | .tryAcquire gate | .unlock gate | .drop gate => r.nameOf? gate

theorem faithful_after (h : r.Faithful) (a : Act) : (r.after a).Faithful := by
  cases a with
  | gate target => exact h.gate target
  | tryAcquire gate => exact h.tryAcquire gate
  | unlock gate | drop gate => exact h.unlock gate

theorem faithful_afterAll (h : r.Faithful) (acts : List Act) : (r.afterAll acts).Faithful := by
  induction acts generalizing r with
  | nil => exact h
  | cons a rest ih => exact ih (faithful_after h a)

/-- The locks of a registry, and what the next act does to them. -/
structure Orderly (r : LockRegistry) : Prop where
  /-- A name is held exactly if one gate of that name owns its lock. -/
  held (name : String) : r.isHeld name = true ↔ ∃! gate, r.OwnedBy name gate
  /-- No lock has two owners. -/
  unique {name : String} {gate gate' : Nat} :
    r.OwnedBy name gate → r.OwnedBy name gate' → gate = gate'
  /-- An attempt succeeds exactly if the gate owns the lock already or no gate does. -/
  succeeds {name : String} {gate : Nat} : r.nameOf? gate = some name →
    ((r.tryAcquire gate).1 = true ↔ r.OwnedBy name gate ∨ ∀ other, ¬ r.OwnedBy name other)
  /-- It tells whether the gate owns the lock afterwards. -/
  answer {name : String} {gate : Nat} : r.nameOf? gate = some name →
    ((r.tryAcquire gate).1 = true ↔ (r.after (.tryAcquire gate)).OwnedBy name gate)
  /-- An attempt that fails changes nothing. -/
  refused {gate : Nat} : (r.tryAcquire gate).1 = false → r.after (.tryAcquire gate) = r
  /-- Whether by giving back or by going out of use, a gate releases its name exactly if it owned
  the lock itself; it owns nothing then, and every other gate what it did. -/
  released {name : String} {gate : Nat} {a : Act} : r.nameOf? gate = some name →
    a = .unlock gate ∨ a = .drop gate →
    (r.isHeld name = true ∧ (r.after a).isHeld name = false ↔ r.OwnedBy name gate) ∧
    ∀ name other, (r.after a).OwnedBy name other ↔ r.OwnedBy name other ∧ other ≠ gate
  /-- Nothing changes under a name that an act does not concern. -/
  apart {name : String} {a : Act} : r.concerns? a ≠ some name →
    (r.after a).isHeld name = r.isHeld name ∧
    ∀ gate, (r.after a).OwnedBy name gate ↔ r.OwnedBy name gate

variable {gate other : Nat} {name : String}

theorem nameOf?_of_ownedBy (h : r.OwnedBy name gate) : r.nameOf? gate = some name := by
  rw [nameOf?, h, Option.map_some]

theorem nameOf?_of_isFreeFor (h : r.IsFreeFor name gate) : r.nameOf? gate = some name := by
  rw [nameOf?, h.1, Option.map_some]

/-- What a gate answers: the lock is its own already, or it is free. -/
theorem tryAcquire_iff (h : r.nameOf? gate = some name) :
    (r.tryAcquire gate).1 = true ↔ r.OwnedBy name gate ∨ r.IsFreeFor name gate := by
  obtain ⟨⟨target, owned⟩, hgate, rfl⟩ := Option.map_eq_some_iff.mp h
  cases owned with
  | true => simp [tryAcquire_of_owned hgate, OwnedBy, hgate]
  | false =>
      by_cases hheld : target ∈ r.held
      · simp [tryAcquire_of_held hgate hheld, OwnedBy, IsFreeFor, hgate, hheld]
      · simp [tryAcquire_of_free hgate hheld, IsFreeFor, hgate, hheld]

/-- An act that does not concern a name leaves its lock. -/
theorem ownedBy_after_of_apart {a : Act} (h : r.concerns? a ≠ some name) :
    (r.after a).OwnedBy name other ↔ r.OwnedBy name other := by
  cases a with
  | gate target => exact ownedBy_gate
  | tryAcquire gate =>
      rw [after, ownedBy_tryAcquire, or_iff_left]
      exact fun hfree => h (nameOf?_of_isFreeFor hfree.2)
  | unlock gate | drop gate =>
      rw [after, ownedBy_unlock, and_iff_left_of_imp]
      rintro hother rfl
      exact h (nameOf?_of_ownedBy hother)

theorem Faithful.isHeld_iff (h : r.Faithful) : r.isHeld name = true ↔ ∃ gate, r.OwnedBy name gate :=
  isHeld_eq_true_iff.trans (h.mem_held name)

theorem orderly_of_faithful (h : r.Faithful) : r.Orderly where
  held name := by
    rw [h.isHeld_iff]
    constructor
    · rintro ⟨gate, hgate⟩
      exact ⟨gate, hgate, fun other hother => h.unique name other gate hother hgate⟩
    · exact ExistsUnique.exists
  unique hgate hgate' := h.unique _ _ _ hgate hgate'
  succeeds {name gate} hname := by
    rw [tryAcquire_iff hname, IsFreeFor, h.mem_held, not_exists]
    obtain ⟨⟨target, owned⟩, hgate, rfl⟩ := Option.map_eq_some_iff.mp hname
    cases owned with
    | true => simp [OwnedBy, hgate]
    | false => simp [hgate]
  answer {name gate} hname := by
    rw [tryAcquire_iff hname, after, ownedBy_tryAcquire, eq_self, true_and]
  refused hrefused := tryAcquire_of_refused hrefused
  released {name gate a} hname ha := by
    have hafter : r.after a = r.unlock gate := by rcases ha with rfl | rfl <;> rfl
    rw [hafter]
    refine ⟨?_, fun _ _ => ownedBy_unlock⟩
    rw [← Bool.not_eq_true, isHeld_eq_true_iff, isHeld_eq_true_iff, mem_held_unlock]
    constructor
    · rintro ⟨hheld, hnot⟩
      exact Decidable.byContradiction fun howned => hnot ⟨hheld, howned⟩
    · intro howned
      exact ⟨(h.mem_held name).mpr ⟨gate, howned⟩, fun hstill => hstill.2 howned⟩
  apart {name a} ha := by
    refine ⟨?_, fun _ => ownedBy_after_of_apart ha⟩
    rw [Bool.eq_iff_iff, (faithful_after h a).isHeld_iff, h.isHeld_iff]
    simp only [ownedBy_after_of_apart ha]

/-- Whatever is done with a registry, by any number of gates: its names are held by one gate each,
who asks gets the lock exactly if it is his or nobody's, and nobody but the owner gives it back. -/
theorem orderly_afterAll (acts : List Act) : (({} : LockRegistry).afterAll acts).Orderly :=
  orderly_of_faithful (faithful_afterAll .of_new acts)

/-- A gate that does not own the lock can neither give it back nor take it, until the owner is out
of use. -/
example :
    let r := ({} : LockRegistry).afterAll [.gate "leaf1", .gate "leaf1", .tryAcquire 0,
      .tryAcquire 0, .unlock 1, .drop 1]
    r.isHeld "leaf1" = true ∧ (r.tryAcquire 1).1 = false ∧
      ((r.after (.drop 0)).tryAcquire 1).1 = true := by
  decide

end TelemetryGateway.LockRegistry
