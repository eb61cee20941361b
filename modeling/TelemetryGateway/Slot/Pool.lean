import TelemetryGateway.Document.Decoder

/-!
# The slot pool

A pool bounds how many targets a gateway connects to at once.  A permit for a slot is given out
while a slot is free, nobody waits for one, and each permit gives back one slot.  The two counters
of the pool count attempts modulo `2 ^ 64`.

A `SlotLedger` is a pool together with the permits that it has given out.
-/

namespace TelemetryGateway

structure SlotPoolStats where
  capacity : UInt64
  inUse : UInt64
  totalAcquired : UInt64
  totalRejected : UInt64
deriving DecidableEq, Inhabited

/-- A number of slots, some of them free. -/
structure SlotPool where
  capacity : Nat
  available : Nat
  totalAcquired : UInt64 := 0
  totalRejected : UInt64 := 0
deriving DecidableEq, Inhabited

namespace SlotPool

/-- The largest number of slots that a pool can have. -/
def maxCapacity : Nat := Nat.pow 2 61 - 1

/-- A pool with all slots free; `none` if it cannot have as many. -/
def ofCapacity? (capacity : Nat) : Option SlotPool :=
  if capacity ≤ maxCapacity then some { capacity, available := capacity } else none

/-- Takes a slot if one is free; tells whether it did. -/
def tryAcquire (p : SlotPool) : Bool × SlotPool :=
  if 0 < p.available then
    (true, { p with available := p.available - 1, totalAcquired := p.totalAcquired + 1 })
  else (false, { p with totalRejected := p.totalRejected + 1 })

def release (p : SlotPool) : SlotPool := { p with available := p.available + 1 }

def inUse (p : SlotPool) : Nat := p.capacity - p.available

def stats (p : SlotPool) : SlotPoolStats where
  capacity := UInt64.ofNat p.capacity
  inUse := UInt64.ofNat p.inUse
  totalAcquired := p.totalAcquired
  totalRejected := p.totalRejected

end SlotPool

namespace SlotPoolStats

open FieldReader Document

def decode : Decoder SlotPoolStats := .record do
  let capacity ← required "capacity" .uint64
  let inUse ← required "in_use" .uint64
  let totalAcquired ← required "total_acquired" .uint64
  let totalRejected ← required "total_rejected" .uint64
  return { capacity, inUse, totalAcquired, totalRejected }

def encode (s : SlotPoolStats) : Document :=
  .record (field "capacity" (.nat s.capacity.toNat) ++ field "in_use" (.nat s.inUse.toNat) ++
    field "total_acquired" (.nat s.totalAcquired.toNat) ++
    field "total_rejected" (.nat s.totalRejected.toNat))

end SlotPoolStats

/-- A pool and the permits that it has given out, in their order; each is still held or not. -/
structure SlotLedger where
  pool : SlotPool
  permits : List Bool := []
deriving DecidableEq, Inhabited

namespace SlotLedger

/-- Asks for a permit; the result is its number. -/
def acquire (l : SlotLedger) : Option Nat × SlotLedger :=
  match l.pool.tryAcquire with
  | (true, pool) => (some l.permits.length, ⟨pool, l.permits ++ [true]⟩)
  | (false, pool) => (none, { l with pool })

/-- Gives a permit back; tells whether it was still held. -/
def giveBack (l : SlotLedger) (permit : Nat) : Bool × SlotLedger :=
  if l.permits[permit]? = some true then
    (true, ⟨l.pool.release, l.permits.set permit false⟩)
  else (false, l)

def held (l : SlotLedger) : Nat := l.permits.count true

end SlotLedger

end TelemetryGateway
