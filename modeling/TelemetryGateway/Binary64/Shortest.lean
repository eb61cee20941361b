import TelemetryGateway.Numeral

/-!
# Shortest decimals

A finite floating-point number is written with the fewest digits that read back as that number; of
several such decimals the nearest is taken, and of two equally near ones the even one.

The reals that round to `m * 2 ^ e` form an interval around it, with its ends exactly if `m` is
even.  For every number of digits the two decimals next to the number are tried; the first number
of digits for which one of them lies in the interval gives the answer.
-/

namespace TelemetryGateway.Binary64

/-- `10 ^ k`, as a quotient of natural numbers. -/
def tenPow (k : Int) : Nat × Nat :=
  if 0 ≤ k then (Nat.pow 10 k.toNat, 1) else (1, Nat.pow 10 (-k).toNat)

/-- Whether `a * 10 ^ k` lies in the interval of the reals that round to `m * 2 ^ e`. -/
def reads (m : Nat) (e : Int) (a : Nat) (k : Int) : Bool :=
  -- in quarters of a unit in the last place: the number is 4m, its neighbours' midpoints around it
  let low := if m = Nat.pow 2 52 ∧ -1074 < e then 4 * m - 1 else 4 * m - 2
  let high := 4 * m + 2
  let unit := ratio 1 (e - 2)
  let ten := tenPow k
  let value := a * ten.1 * unit.2
  let lowEnd := low * unit.1 * ten.2
  let highEnd := high * unit.1 * ten.2
  if m % 2 = 0 then lowEnd ≤ value && value ≤ highEnd else lowEnd < value && value < highEnd

/-- The exponent of the leading decimal digit of a positive quotient. -/
def leadingExponent (num den : Nat) : Int :=
  let guess : Int := ((Nat.log2 num : Int) - Nat.log2 den) * 30103 / 100000
  let atLeast (k : Int) : Bool := (tenPow k).1 * den ≤ num * (tenPow k).2
  if atLeast (guess + 1) then guess + 1 else if atLeast guess then guess else guess - 1

/-- The decimal with `count` digits that reads back as `m * 2 ^ e`, if there is one: a number and
the power of ten that it is multiplied by. -/
def decimalOfLength? (m : Nat) (e : Int) (count : Nat) : Option (Nat × Int) :=
  let q := ratio m e
  let k := leadingExponent q.1 q.2 - count + 1
  let ten := tenPow k
  let num := q.1 * ten.2
  let den := q.2 * ten.1
  let below := num / den
  let above := below + 1
  let remainder := num % den
  match reads m e below k, reads m e above k with
  | true, true =>
      if 2 * remainder < den ∨ (2 * remainder = den ∧ below % 2 = 0) then some (below, k)
      else some (above, k)
  | true, false => some (below, k)
  | false, true => some (above, k)
  | false, false => none

def dropZeros (a : Nat) (k : Int) : Nat × Int :=
  if h : a ≠ 0 ∧ a % 10 = 0 then dropZeros (a / 10) (k + 1) else (a, k)
termination_by a
decreasing_by omega

/-- The shortest decimal of the absolute value of a finite number. -/
def shortest (x : Binary64) : Nat × Int :=
  if x.isZero then (0, 0)
  else
    match (List.range 17).findSome? (fun i => decimalOfLength? x.parts.1 x.parts.2 (i + 1)) with
    | some (a, k) => dropZeros a k
    | none => (0, 0)

/-! ## The layout of the text -/

/-- The numeral that a finite number is written as.  Where the point falls between five places
before the first digit and sixteen places after it the number is written out, with at least one
digit on both sides of the point; else with one digit before the point and an exponent. -/
def toNumeral (x : Binary64) : Numeral :=
  let decimal := x.shortest
  let ds := Numeral.digits decimal.1
  let k := decimal.2
  let point : Int := ds.length + k
  if decimal.1 = 0 then ⟨x.isNegative, 0, ['0'], none⟩
  else if 0 ≤ k ∧ point ≤ 16 then ⟨x.isNegative, decimal.1 * Nat.pow 10 k.toNat, ['0'], none⟩
  else if 0 < point ∧ point ≤ 16 then
    ⟨x.isNegative, decimal.1 / Nat.pow 10 (-k).toNat, ds.drop point.toNat, none⟩
  else if -5 < point ∧ point ≤ 0 then
    ⟨x.isNegative, 0, List.replicate (-point).toNat '0' ++ ds, none⟩
  else
    ⟨x.isNegative, decimal.1 / Nat.pow 10 (ds.length - 1), ds.drop 1, some (point - 1)⟩

end TelemetryGateway.Binary64
