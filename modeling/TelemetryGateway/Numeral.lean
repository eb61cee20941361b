import TelemetryGateway.Binary64

/-!
# Decimal numerals

A numeral is a number as it is written: sign, digits, fraction and exponent.  Whether it names an
integer is decided by its form and not by its value: `3.0` and `3e0` are no integers, and neither
is `-0`, which names the negative zero.

A numeral is read as a floating-point number from its leading digits, as many as fit 64 bits, and
from the power of ten that the remaining form gives.
-/

namespace TelemetryGateway

/-- A decimal numeral.  An empty fraction means that no point is written. -/
structure Numeral where
  negative : Bool
  whole : Nat
  fraction : List Char
  exponent : Option Int
deriving DecidableEq

namespace Numeral

def ofInt (n : Int) : Numeral := ⟨decide (n < 0), n.natAbs, [], none⟩

/-- The integer that a numeral names, if it is written as one. -/
def toInt? (n : Numeral) : Option Int :=
  if n.fraction = [] ∧ n.exponent = none ∧ ¬ (n.negative = true ∧ n.whole = 0) then
    some (if n.negative then -(n.whole : Int) else n.whole)
  else none

@[simp] theorem toInt?_ofInt (n : Int) : (ofInt n).toInt? = some n := by
  unfold toInt? ofInt
  have hzero : ¬ (decide (n < 0) = true ∧ n.natAbs = 0) := by
    simp only [decide_eq_true_eq]
    omega
  simp only [true_and]
  rw [if_pos hzero]
  congr 1
  by_cases hneg : n < 0
  · simp only [hneg, decide_true, if_true]
    omega
  · simp only [hneg, decide_false]
    simp only [Bool.false_eq_true, if_false]
    omega

def digits (n : Nat) : List Char := Nat.toDigits 10 n

/-- A numeral as it is written; an exponent always has its sign. -/
def text (n : Numeral) : List Char :=
  (if n.negative then ['-'] else []) ++ digits n.whole ++
    (if n.fraction = [] then [] else '.' :: n.fraction) ++
    match n.exponent with
    | none => []
    | some e => 'e' :: (if e < 0 then '-' else '+') :: digits e.natAbs

/-- Whether a text has a minus in front, and the text after its sign. -/
def splitSign : List Char → Bool × List Char
  | '-' :: rest => (true, rest)
  | '+' :: rest => (false, rest)
  | text => (false, text)

/-- The number that a text of decimal digits names; a plus sign may stand in front. -/
def natural? (text : List Char) : Option Nat :=
  let digits :=
    match text with
    | '+' :: rest => rest
    | _ => text
  if digits.isEmpty || !digits.all Char.isDigit then none else some (Nat.ofDigitChars 10 digits 0)

/-! ## Reading a numeral as a floating-point number -/

/-- Appends digits to a number as long as the result fits 64 bits; also tells how many were
taken. -/
def takeDigits : Nat → List Char → Nat × Nat
  | acc, [] => (acc, 0)
  | acc, c :: rest =>
      let next := acc * 10 + (c.toNat - '0'.toNat)
      if next < UInt64.size then
        let r := takeDigits next rest
        (r.1, r.2 + 1)
      else (acc, 0)

/-- The floating-point number that a numeral is read as; `none` if it is out of range.  An exponent
that does not fit 31 bits gives zero, or an overflow where it is positive and some digit counts. -/
def toBinary64? (n : Numeral) : Option Binary64 :=
  let wholeDigits := digits n.whole
  let leading := takeDigits 0 wholeDigits
  let all := takeDigits leading.1 n.fraction
  let dropped : Int := (wholeDigits.length : Int) - leading.2
  let exponent := n.exponent.getD 0
  let magnitude : Option Binary64 :=
    if exponent.natAbs < Nat.pow 2 31 then
      let total := dropped - all.2 + exponent
      (Binary64.ofRatio all.1 1).bind (fun x => x.scaleByTen total)
    else if 0 < exponent ∧ all.1 ≠ 0 then none
    else some Binary64.zero
  magnitude.map (fun x => if n.negative then x.neg else x)

/-- The floating-point number nearest to a numeral; `none` if its magnitude, rounded, is beyond all
of them. -/
def nearest? (n : Numeral) : Option Binary64 :=
  let significand := Nat.ofDigitChars 10 n.fraction n.whole
  let exponent : Int := n.exponent.getD 0 - n.fraction.length
  -- the number lies below `10 ^ magnitude`, and not below a tenth of that
  let magnitude : Int := (digits significand).length + exponent
  let rounded : Option Binary64 :=
    if significand = 0 ∨ magnitude < -330 then some Binary64.zero
    else if 310 < magnitude then none
    else if 0 ≤ exponent then Binary64.ofRatio (significand * Nat.pow 10 exponent.toNat) 1
    else Binary64.ofRatio significand (Nat.pow 10 exponent.natAbs)
  rounded.map fun x => if n.negative then x.neg else x

end Numeral

end TelemetryGateway
