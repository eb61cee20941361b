/-!
# Binary64 numbers

A value of a device can be a floating-point number of 64 bits.  It is kept as its bit pattern, so
that two such numbers are equal exactly when they are the same one (the two zeros differ), and its
arithmetic is done exactly on natural numbers and rounded once.

A finite number is `significand * 2 ^ exponent` with a significand below `2 ^ 53`.
-/

namespace TelemetryGateway

/-- A floating-point number of 64 bits, by its bit pattern. -/
structure Binary64 where
  bits : UInt64
deriving DecidableEq

namespace Binary64

/-- The significand and the exponent of the absolute value of a finite number. -/
def parts (x : Binary64) : Nat × Int :=
  let n := x.bits.toNat
  let fraction : Nat := n % Nat.pow 2 52
  let biased : Nat := n / Nat.pow 2 52 % Nat.pow 2 11
  if biased = 0 then (fraction, -1074) else (fraction + Nat.pow 2 52, (biased : Int) - 1075)

def isNegative (x : Binary64) : Bool := Nat.pow 2 63 ≤ x.bits.toNat

def neg (x : Binary64) : Binary64 := ⟨x.bits ^^^ 0x8000000000000000⟩

def zero : Binary64 := ⟨0⟩

def isZero (x : Binary64) : Bool := x.parts.1 == 0

/-! ## Rounding -/

/-- `num / den * 2 ^ (-exponent)` as a quotient of natural numbers. -/
def scaleDown (num den : Nat) (exponent : Int) : Nat × Nat :=
  if 0 ≤ exponent then (num, den * Nat.pow 2 exponent.toNat)
  else (num * Nat.pow 2 (-exponent).toNat, den)

/-- The integer nearest to a quotient; a half goes to the even neighbour. -/
def roundDiv (num den : Nat) : Nat :=
  let q := num / den
  let r := num % den
  if 2 * r < den then q else if den < 2 * r then q + 1 else q + q % 2

/-- The exponent with which a positive quotient gets a significand of 53 bits, or the least
exponent there is. -/
def exponentOf (num den : Nat) : Int :=
  let guess : Int := (Nat.log2 num : Int) - Nat.log2 den - 52
  let scaled := scaleDown num den guess
  let exponent := if scaled.1 / scaled.2 < Nat.pow 2 52 then guess - 1 else guess
  max exponent (-1074)

/-- The positive number nearest to `num / den`, a half to the even neighbour; `none` beyond the
largest finite number. -/
def ofRatio (num den : Nat) : Option Binary64 :=
  if num = 0 then some zero
  else
    let exponent := exponentOf num den
    let scaled := scaleDown num den exponent
    let significand := roundDiv scaled.1 scaled.2
    let (significand, exponent) :=
      if significand = Nat.pow 2 53 then (Nat.pow 2 52, exponent + 1) else (significand, exponent)
    if 971 < exponent then none
    else if significand < Nat.pow 2 52 then some ⟨UInt64.ofNat significand⟩
    else some ⟨UInt64.ofNat ((exponent + 1074).toNat * Nat.pow 2 52 + significand)⟩

/-- `significand * 2 ^ exponent` as a quotient of natural numbers. -/
def ratio (significand : Nat) (exponent : Int) : Nat × Nat :=
  if 0 ≤ exponent then (significand * Nat.pow 2 exponent.toNat, 1)
  else (significand, Nat.pow 2 (-exponent).toNat)

def mulAbs (x y : Binary64) : Option Binary64 :=
  let q := ratio (x.parts.1 * y.parts.1) (x.parts.2 + y.parts.2)
  ofRatio q.1 q.2

/-- The rounded quotient of two absolute values; the divisor is not zero. -/
def divAbs (x y : Binary64) : Option Binary64 :=
  let q := ratio x.parts.1 (x.parts.2 - y.parts.2)
  ofRatio q.1 (q.2 * y.parts.1)

/-! ## Decimal scaling -/

/-- `10 ^ n` rounded, for `n` up to 308. -/
def powerOfTen (n : Nat) : Binary64 := (ofRatio (Nat.pow 10 n) 1).getD zero

/-- `x * 10 ^ exponent` in the arithmetic of the type: one multiplication or division by a rounded
power of ten where one is enough, and first divisions by `10 ^ 308` where the exponent lies below
`-308`.  `none` where the result is out of range. -/
def scaleByTen (x : Binary64) : Int → Option Binary64
  | .ofNat e => if e ≤ 308 then x.mulAbs (powerOfTen e) else if x.isZero then some x else none
  | .negSucc e => down x (e + 1)
where
  /-- `x / 10 ^ e`. -/
  down (x : Binary64) (e : Nat) : Option Binary64 :=
    if e ≤ 308 then x.divAbs (powerOfTen e)
    else if x.isZero then some x
    else (x.divAbs (powerOfTen 308)).bind (fun y => down y (e - 308))
  termination_by e

end Binary64

end TelemetryGateway
