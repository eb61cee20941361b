import TelemetryGateway.Document
import TelemetryGateway.Text.Character
import TelemetryGateway.Toml.Layout

/-!
# Numbers of a TOML text

An integer is decimal, with or without a sign, or has no sign and one of the bases sixteen, eight
and two; it must fit 64 bits with a sign.  A number with a fraction or an exponent is a
floating-point number, which must not overflow upwards.  Between two digits one underscore may
stand.
-/

namespace TelemetryGateway.Toml

/-- The digits in front, without the underscores that stand before a further digit. -/
def readDigits (isDigit : Char → Bool) : List Char → List Char × List Char
  | '_' :: c :: rest =>
      if isDigit c then
        let (digits, rest) := readDigits isDigit rest
        (c :: digits, rest)
      else ([], '_' :: c :: rest)
  | c :: rest =>
      if isDigit c then
        let (digits, rest) := readDigits isDigit rest
        (c :: digits, rest)
      else ([], c :: rest)
  | [] => ([], [])

/-- One or more digits, the first of which has no underscore in front. -/
def readDigits1 (isDigit : Char → Bool) : Scanner (List Char)
  | c :: rest => if isDigit c then some (readDigits isDigit (c :: rest)) else none
  | [] => none

/-- The digits before the point: a zero alone, or a row that does not begin with one. -/
def readWhole : Scanner Nat
  | '0' :: rest => some (0, rest)
  | cs => (readDigits1 Char.isDigit cs).map fun (digits, rest) =>
      (Nat.ofDigitChars 10 digits 0, rest)

/-- The point and the digits after it, if there is a point. -/
def readFraction : Scanner (List Char)
  | '.' :: rest => readDigits1 Char.isDigit rest
  | cs => some ([], cs)

def readExponent : Scanner (Option Int)
  | c :: rest =>
      if c = 'e' ∨ c = 'E' then do
        let (negative, rest) := Numeral.splitSign rest
        let (digits, rest) ← readDigits1 Char.isDigit rest
        let magnitude := Nat.ofDigitChars 10 digits 0
        return (some (if negative then -(magnitude : Int) else magnitude), rest)
      else some (none, c :: rest)
  | [] => some (none, [])

/-- An integer, if it fits 64 bits with a sign. -/
def integer? (n : Int) : Option Document :=
  if -Int.pow 2 63 ≤ n ∧ n < Int.pow 2 63 then some (.int n) else none

/-- The value of digits in one of the bases other than ten. -/
def readBased (base : Nat) (cs : List Char) : Option (Document × List Char) := do
  let isDigit := fun c => ((Text.hexValue? c).map fun digit => decide (digit < base)).getD false
  let (digits, rest) ← readDigits1 isDigit cs
  let value := digits.foldl (fun n c => n * base + (Text.hexValue? c).getD 0) 0
  return (← integer? value, rest)

/-- A decimal number.  What is written as a floating-point number keeps its form. -/
def readDecimal (cs : List Char) : Option (Document × List Char) := do
  let (negative, cs) := Numeral.splitSign cs
  let (whole, cs) ← readWhole cs
  let (fraction, cs) ← readFraction cs
  let (exponent, cs) ← readExponent cs
  let numeral : Numeral := ⟨negative, whole, fraction, exponent⟩
  if fraction.isEmpty && exponent.isNone then
    return (← integer? (if negative then -(whole : Int) else whole), cs)
  else if !negative && numeral.nearest?.isNone then none
  else return (.number numeral, cs)

/-- A number; an infinity and what is not a number can only be skipped. -/
def readNumber (cs : List Char) : Option (Document × List Char) :=
  match cs with
  | '0' :: 'x' :: rest => readBased 16 rest
  | '0' :: 'o' :: rest => readBased 8 rest
  | '0' :: 'b' :: rest => readBased 2 rest
  | _ =>
      match (Numeral.splitSign cs).2 with
      | 'i' :: 'n' :: 'f' :: rest => some (.skipOnly, rest)
      | 'n' :: 'a' :: 'n' :: rest => some (.skipOnly, rest)
      | _ => readDecimal cs

end TelemetryGateway.Toml
