import TelemetryGateway.Slot.Pool

/-!
# The books of a slot pool

A pool counts its free slots and the attempts to take one; the permits that it has given out are
with those who hold them.  Here a pool and its permits are used in any order, and
`SlotLedger.Accounts` says how the counts of the pool agree with the permits that are held and with
what has come of every act so far: what is free and what is held add up to the capacity, and of each
permit there is one grant, which is either held or given back.

* `SlotLedger.moves_perform`: what one act changes, told by what comes of it;
* `SlotLedger.Accounts.concat`, `SlotLedger.accounts_afterAll`: the books stay in order, after one
  act and after every run;
* `SlotLedger.conserved_afterAll`: what this says of the free slots, of the next act and of the two
  counters.
-/

namespace TelemetryGateway

/-- What is done with a pool and the permits that it has given out. -/
inductive SlotAct where
  /-- Ask for a permit. -/
  | acquire
  /-- Hand a permit back to the pool. -/
  | release (permit : Nat)
  /-- Let go of a permit without handing it back. -/
  | drop (permit : Nat)

/-- What comes of an act on a pool. -/
inductive SlotOutcome where
  | granted (permit : Nat)
  | refused
  | returned (permit : Nat)
  /-- Nobody held the permit. -/
  | nothing
deriving DecidableEq

namespace SlotOutcome

/-- Whether a permit was given out. -/
@[simp] def isGranted : SlotOutcome → Bool
  | .granted _ => true
  | _ => false

/-- Whether a permit was given back. -/
@[simp] def isReturned : SlotOutcome → Bool
  | .returned _ => true
  | _ => false

end SlotOutcome

/-- A pool can be made of every number of slots up to the largest; all of them are free. -/
theorem SlotPool.ofCapacity?_eq_some_iff {capacity : Nat} {pool : SlotPool} :
    SlotPool.ofCapacity? capacity = some pool ↔
      capacity ≤ maxCapacity ∧ pool = { capacity, available := capacity } := by
  unfold SlotPool.ofCapacity?
  by_cases hle : capacity ≤ maxCapacity <;> simp [hle, eq_comm]

namespace SlotLedger

/-- Whether a permit was given out and not given back since. -/
def holds (l : SlotLedger) (permit : Nat) : Bool := l.permits[permit]? == some true

/-- Does one act; the first part of the result is what comes of it.  A permit gives its slot back in
the same way whether it is handed back or dropped. -/
def perform (l : SlotLedger) : SlotAct → SlotOutcome × SlotLedger
  | .acquire =>
      match l.acquire with
      | (some permit, l) => (.granted permit, l)
      | (none, l) => (.refused, l)
  | .release permit | .drop permit =>
      match l.giveBack permit with
      | (true, l) => (.returned permit, l)
      | (false, l) => (.nothing, l)

/-- The ledger after some acts. -/
def afterAll (l : SlotLedger) (acts : List SlotAct) : SlotLedger :=
  acts.foldl (fun l a => (l.perform a).2) l

/-- What comes of some acts, in their order. -/
def outcomes (l : SlotLedger) : List SlotAct → List SlotOutcome
  | [] => []
  | a :: rest => (l.perform a).1 :: (l.perform a).2.outcomes rest

variable {l l' : SlotLedger} {permit : Nat} {a : SlotAct} {o : SlotOutcome}

/-! ## One act -/

theorem perform_acquire_of_free (h : 0 < l.pool.available) :
    l.perform .acquire = (.granted l.permits.length,
      { pool := { l.pool with
          available := l.pool.available - 1
          totalAcquired := l.pool.totalAcquired + 1 }
        permits := l.permits ++ [true] }) := by
  simp [perform, acquire, SlotPool.tryAcquire, h]

theorem perform_acquire_of_full (h : l.pool.available = 0) :
    l.perform .acquire =
      (.refused, { l with pool.totalRejected := l.pool.totalRejected + 1 }) := by
  simp [perform, acquire, SlotPool.tryAcquire, h]

/-- A permit is granted exactly if a slot is free. -/
theorem isGranted_perform_acquire :
    (l.perform .acquire).1.isGranted = true ↔ 0 < l.pool.available := by
  rcases Nat.eq_zero_or_pos l.pool.available with hfull | hfree
  · simp [perform_acquire_of_full hfull, SlotOutcome.isGranted, hfull]
  · simp [perform_acquire_of_free hfree, SlotOutcome.isGranted, hfree]

theorem perform_of_holds (ha : a = .release permit ∨ a = .drop permit)
    (h : l.holds permit = true) :
    l.perform a = (.returned permit,
      { pool := { l.pool with available := l.pool.available + 1 }
        permits := l.permits.set permit false }) := by
  have hheld : l.permits[permit]? = some true := beq_iff_eq.mp h
  rcases ha with rfl | rfl <;> simp [perform, giveBack, hheld, SlotPool.release]

theorem perform_of_not_holds (ha : a = .release permit ∨ a = .drop permit)
    (h : l.holds permit = false) : l.perform a = (.nothing, l) := by
  have hheld : l.permits[permit]? ≠ some true := fun heq => by simp [holds, heq] at h
  rcases ha with rfl | rfl <;> simp [perform, giveBack, hheld]

/-- A new permit is held by whoever has asked for it. -/
theorem holds_concat (pool : SlotPool) (other : Nat) :
    holds ⟨pool, l.permits ++ [true]⟩ other =
      (l.holds other || decide (other = l.permits.length)) := by
  unfold holds
  rcases Nat.lt_trichotomy other l.permits.length with hlt | rfl | hgt
  · simp [List.getElem?_append_left hlt, Nat.ne_of_lt hlt]
  · simp
  · have hnone : (l.permits ++ [true])[other]? = none :=
      List.getElem?_eq_none (by rwa [List.length_append, List.length_singleton])
    simp [hnone, Nat.le_of_lt hgt, Nat.ne_of_gt hgt]

theorem holds_set (pool : SlotPool) (other : Nat) :
    holds ⟨pool, l.permits.set permit false⟩ other =
      (l.holds other && decide (other ≠ permit)) := by
  unfold holds
  by_cases hother : permit = other
  · subst hother
    by_cases hlt : permit < l.permits.length <;> simp [hlt]
  · simp [List.getElem?_set_ne hother, Ne.symm hother]

theorem held_set (pool : SlotPool) (h : l.holds permit = true) :
    held ⟨pool, l.permits.set permit false⟩ + 1 = l.held := by
  obtain ⟨hlt, hheld⟩ := List.getElem?_eq_some_iff.mp (beq_iff_eq.mp h)
  have hpos : 0 < l.permits.count true := List.count_pos_iff.mpr (hheld ▸ List.getElem_mem hlt)
  show (l.permits.set permit false).count true + 1 = l.permits.count true
  rw [List.count_set hlt, hheld]
  exact Nat.sub_add_cancel hpos

/-- What an act changes, told by what comes of it. -/
structure Moves (l : SlotLedger) (o : SlotOutcome) (l' : SlotLedger) : Prop where
  capacity : l'.pool.capacity = l.pool.capacity
  available : l'.pool.available + [o].countP (·.isGranted) =
    l.pool.available + [o].countP (·.isReturned)
  held : l'.held + [o].countP (·.isReturned) = l.held + [o].countP (·.isGranted)
  holds : ∀ permit, (l'.holds permit).toNat + [o].count (.returned permit) =
    (l.holds permit).toNat + [o].count (.granted permit)
  length : l'.permits.length = l.permits.length + [o].countP (·.isGranted)
  /-- A new permit has the number of the permits before it. -/
  granted : ∀ permit, o = .granted permit → permit = l.permits.length
  totalAcquired : l'.pool.totalAcquired =
    l.pool.totalAcquired + UInt64.ofNat ([o].countP (·.isGranted))
  totalRejected : l'.pool.totalRejected = l.pool.totalRejected + UInt64.ofNat ([o].count .refused)

theorem moves_acquire (l : SlotLedger) : Moves l (l.perform .acquire).1 (l.perform .acquire).2 := by
  rcases Nat.eq_zero_or_pos l.pool.available with hfull | hfree
  · rw [perform_acquire_of_full hfull]
    constructor <;> simp [held, holds]
  · rw [perform_acquire_of_free hfree]
    have hnew : l.holds l.permits.length = false := by simp [holds]
    constructor
    case holds =>
      intro permit
      rw [holds_concat]
      by_cases heq : permit = l.permits.length
      · simp [heq, hnew]
      · simp [heq, Ne.symm heq]
    case available => exact Nat.sub_add_cancel hfree
    all_goals simp [held]

theorem moves_giveBack (ha : a = .release permit ∨ a = .drop permit) :
    Moves l (l.perform a).1 (l.perform a).2 := by
  cases hheld : l.holds permit with
  | false =>
      rw [perform_of_not_holds ha hheld]
      constructor <;> simp
  | true =>
      rw [perform_of_holds ha hheld]
      constructor
      case held => exact held_set _ hheld
      case holds =>
        intro other
        rw [holds_set]
        by_cases heq : other = permit
        · simp [heq, hheld]
        · simp [heq, Ne.symm heq]
      all_goals simp

theorem moves_perform (l : SlotLedger) (a : SlotAct) : Moves l (l.perform a).1 (l.perform a).2 := by
  cases a with
  | acquire => exact moves_acquire l
  | release permit => exact moves_giveBack (.inl rfl)
  | drop permit => exact moves_giveBack (.inr rfl)

/-! ## The books -/

/-- The books of a pool with a capacity: its counts, the permits that are held and what has come of
every act so far agree. -/
structure Accounts (capacity : Nat) (outcomes : List SlotOutcome) (l : SlotLedger) : Prop where
  size : l.pool.capacity = capacity
  /-- Every slot is free or behind a permit that is held. -/
  balance : l.pool.available + l.held = capacity
  /-- The next permit has a number that was never granted. -/
  fresh : ∀ permit, l.permits.length ≤ permit → outcomes.count (.granted permit) = 0
  /-- No permit is granted twice. -/
  once : ∀ permit, outcomes.count (.granted permit) ≤ 1
  /-- A permit that was granted is held or was given back. -/
  custody : ∀ permit, outcomes.count (.granted permit) =
    (l.holds permit).toNat + outcomes.count (.returned permit)
  grants : outcomes.countP (·.isGranted) = l.held + outcomes.countP (·.isReturned)
  totalAcquired : l.pool.totalAcquired = UInt64.ofNat (outcomes.countP (·.isGranted))
  totalRejected : l.pool.totalRejected = UInt64.ofNat (outcomes.count .refused)

variable {capacity : Nat} {earlier : List SlotOutcome}

theorem accounts_of_new (capacity : Nat) :
    Accounts capacity [] { pool := { capacity, available := capacity } } := by
  constructor <;> simp [held, holds]

theorem Accounts.concat (h : Accounts capacity earlier l) (hmoves : Moves l o l') :
    Accounts capacity (earlier ++ [o]) l' where
  size := hmoves.capacity.trans h.size
  balance := by
    have := h.balance
    have := hmoves.available
    have := hmoves.held
    omega
  fresh permit hle := by
    rw [hmoves.length] at hle
    have hold := h.fresh permit (by omega)
    have hnot : o ≠ .granted permit := by
      rintro rfl
      have hnew := hmoves.granted permit rfl
      have hone : [SlotOutcome.granted permit].countP (·.isGranted) = 1 := rfl
      omega
    rw [List.count_append, hold, List.count_singleton, if_neg (by simpa using hnot)]
  once permit := by
    rw [List.count_append]
    by_cases hgranted : o = .granted permit
    · have hold := h.fresh permit (Nat.le_of_eq (hmoves.granted permit hgranted).symm)
      rw [hold, Nat.zero_add]
      exact List.count_le_length
    · rw [List.count_singleton, if_neg (by simpa using hgranted)]
      exact h.once permit
  custody permit := by
    have := h.custody permit
    have := hmoves.holds permit
    rw [List.count_append, List.count_append]
    omega
  grants := by
    have := h.grants
    have := hmoves.held
    rw [List.countP_append, List.countP_append]
    omega
  totalAcquired := by
    rw [hmoves.totalAcquired, h.totalAcquired, ← UInt64.ofNat_add, List.countP_append]
  totalRejected := by
    rw [hmoves.totalRejected, h.totalRejected, ← UInt64.ofNat_add, List.count_append]

/-- Whatever is done with a pool, its books stay in order. -/
theorem accounts_afterAll (h : Accounts capacity earlier l) (acts : List SlotAct) :
    Accounts capacity (earlier ++ l.outcomes acts) (l.afterAll acts) := by
  induction acts generalizing l earlier with
  | nil => rwa [outcomes, List.append_nil]
  | cons a rest ih =>
      have hrest := ih (h.concat (moves_perform l a))
      rwa [List.append_assoc] at hrest

/-- What the books say of a pool, of the next act on it and of its counters. -/
structure Conserved (capacity : Nat) (outcomes : List SlotOutcome) (l : SlotLedger) : Prop where
  available_add_held : l.pool.available + l.held = capacity
  /-- The number in use is that of the permits held, and its subtraction is never cut off. -/
  inUse : l.pool.inUse = l.held ∧ l.pool.available ≤ l.pool.capacity ∧ l.pool.capacity = capacity
  /-- An attempt succeeds exactly if fewer permits are held than there are slots. -/
  acquires : (l.perform .acquire).1.isGranted = true ↔ l.held < capacity
  /-- A permit is granted once at most, and then it is held or was given back, once. -/
  custody : ∀ permit, outcomes.count (.granted permit) ≤ 1 ∧
    outcomes.count (.granted permit) =
      (l.holds permit).toNat + outcomes.count (.returned permit)
  /-- In either way, to give back a permit that is held frees one slot and leaves the other permits
  alone. -/
  returns : ∀ permit a, a = .release permit ∨ a = .drop permit → l.holds permit = true →
    (l.perform a).1 = .returned permit ∧
      (l.perform a).2.pool.available = l.pool.available + 1 ∧
      (l.perform a).2.held + 1 = l.held ∧
      ∀ other, (l.perform a).2.holds other = (l.holds other && decide (other ≠ permit))
  /-- A permit that is not held gives nothing back. -/
  spent : ∀ permit a, a = .release permit ∨ a = .drop permit → l.holds permit = false →
    l.perform a = (.nothing, l)
  /-- The counters tell the grants and the refusals modulo `2 ^ 64`. -/
  counters : l.pool.totalAcquired = UInt64.ofNat (outcomes.countP (·.isGranted)) ∧
    l.pool.totalRejected = UInt64.ofNat (outcomes.count .refused)
  /-- What was acquired and not given back is in use. -/
  difference : l.pool.totalAcquired - UInt64.ofNat (outcomes.countP (·.isReturned)) =
    UInt64.ofNat l.pool.inUse
  /-- The statistics tell the capacity and the permits held as they are. -/
  stats : l.pool.stats.capacity.toNat = capacity ∧ l.pool.stats.inUse.toNat = l.held

theorem Accounts.conserved (h : Accounts capacity earlier l)
    (hcapacity : capacity ≤ SlotPool.maxCapacity) : Conserved capacity earlier l := by
  have hbalance := h.balance
  have hsize := h.size
  have hinUse : l.pool.inUse = l.held := by
    unfold SlotPool.inUse
    omega
  have hexact : ∀ n, n ≤ capacity → (UInt64.ofNat n).toNat = n := fun n hn =>
    UInt64.toNat_ofNat_of_lt' (Nat.lt_of_le_of_lt (Nat.le_trans hn hcapacity) (by decide))
  constructor
  case available_add_held => exact hbalance
  case inUse => exact ⟨hinUse, by omega, hsize⟩
  case acquires =>
    rw [isGranted_perform_acquire]
    omega
  case custody => exact fun permit => ⟨h.once permit, h.custody permit⟩
  case returns =>
    intro permit a ha hheld
    rw [perform_of_holds ha hheld]
    exact ⟨rfl, rfl, held_set _ hheld, holds_set _⟩
  case spent => exact fun permit a ha hheld => perform_of_not_holds ha hheld
  case counters => exact ⟨h.totalAcquired, h.totalRejected⟩
  case difference =>
    have hle : earlier.countP (·.isReturned) ≤ earlier.countP (·.isGranted) :=
      Nat.le.intro ((Nat.add_comm _ _).trans h.grants.symm)
    rw [h.totalAcquired, ← UInt64.ofNat_sub hle, hinUse, h.grants, Nat.add_sub_cancel]
  case stats =>
    refine ⟨?_, ?_⟩
    · show (UInt64.ofNat l.pool.capacity).toNat = capacity
      rw [hsize, hexact capacity (Nat.le_refl _)]
    · show (UInt64.ofNat l.pool.inUse).toNat = l.held
      rw [hinUse, hexact l.held (by omega)]

/-- A pool of any size it can have keeps count: after any attempts, releases and drops of permits,
free slots and held permits add up to its capacity, each permit has given back one slot or none, and
the counters tell the attempts. -/
theorem conserved_afterAll (capacity : Nat) (pool : SlotPool)
    (hpool : SlotPool.ofCapacity? capacity = some pool) (acts : List SlotAct) :
    let start : SlotLedger := { pool }
    Conserved capacity (start.outcomes acts) (start.afterAll acts) := by
  obtain ⟨hcapacity, rfl⟩ := SlotPool.ofCapacity?_eq_some_iff.mp hpool
  exact (accounts_afterAll (accounts_of_new capacity) acts).conserved hcapacity

/-- Two slots: the third attempt is refused until a permit is given back, which happens once. -/
theorem conserved_of_two_slots :
    let start : SlotLedger := { pool := { capacity := 2, available := 2 } }
    let acts : List SlotAct := [.acquire, .acquire, .acquire, .drop 0, .release 0, .acquire]
    Conserved 2 (start.outcomes acts) (start.afterAll acts) ∧
      start.outcomes acts =
        [.granted 0, .granted 1, .refused, .returned 0, .nothing, .granted 2] ∧
      (start.afterAll acts).held = 2 ∧ (start.afterAll acts).pool.totalAcquired = 3 :=
  ⟨conserved_afterAll 2 _ rfl _, by decide, by decide, by decide⟩

end SlotLedger

end TelemetryGateway
