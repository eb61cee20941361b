import TelemetryGateway.Binary64.Shortest
import TelemetryGateway.Log.Pattern

/-!
# Values of fields

A directive can ask for the value of a field.  The text of the value tells its kind: a truth value,
a natural number of 64 bits, an integer of 64 bits, a floating-point number, and all else a pattern.
A number is written anew from its value, so different texts can give the same value.

Values are ordered, for directives to have an order, by their kind and then by what they hold.
-/

namespace TelemetryGateway

namespace Binary64

def infinity : Binary64 := ⟨0x7ff0000000000000⟩

/-- A number by which numbers and infinities are ordered; both zeros have the same one. -/
def orderKey (x : Binary64) : Int :=
  if x.isNegative then Int.pow 2 63 - (x.bits.toNat : Int) else x.bits.toNat

/-- The digits of a decimal with the point where it belongs, without any exponent. -/
def positional (digits : List Char) (exponent : Int) : List Char :=
  let point : Int := digits.length + exponent
  if 0 ≤ exponent then digits ++ List.replicate exponent.toNat '0'
  else if 0 < point then digits.take point.toNat ++ '.' :: digits.drop point.toNat
  else '0' :: '.' :: List.replicate (-point).toNat '0' ++ digits

/-- A number or an infinity, with the fewest digits that read back as it, and without an exponent.
-/
def positionalText (x : Binary64) : List Char :=
  (if x.isNegative then ['-'] else []) ++
    if x = infinity ∨ x = infinity.neg then "inf".toList
    else if x.isZero then ['0']
    else positional (Numeral.digits x.shortest.1) x.shortest.2

end Binary64

/-- A value that a directive asks for. -/
inductive LogValue where
  | truth (value : Bool)
  /-- A floating-point number or an infinity. -/
  | real (value : Binary64)
  | notANumber
  | natural (value : Nat)
  | integer (value : Int)
  | pattern (text : List Char)
deriving DecidableEq

namespace LogValue

/-! ## Reading -/

/-- An integer in decimal digits, with or without a sign. -/
def integer? (text : List Char) : Option Int :=
  let (negative, digits) := Numeral.splitSign text
  if digits.isEmpty || !digits.all Char.isDigit then none
  else
    let magnitude := Nat.ofDigitChars 10 digits 0
    some (if negative then -(magnitude : Int) else magnitude)

/-- A decimal numeral with digits before the point or after it. -/
def numeral? (text : List Char) : Option Numeral :=
  let (negative, text) := Numeral.splitSign text
  let whole := text.takeWhile Char.isDigit
  let rest := text.dropWhile Char.isDigit
  let (fraction, rest) :=
    match rest with
    | '.' :: rest => (rest.takeWhile Char.isDigit, rest.dropWhile Char.isDigit)
    | _ => ([], rest)
  let numeral : Numeral := ⟨negative, Nat.ofDigitChars 10 whole 0, fraction, none⟩
  if whole.isEmpty && fraction.isEmpty then none
  else
    match rest with
    | [] => some numeral
    | e :: rest =>
        if e = 'e' ∨ e = 'E' then
          (integer? rest).map fun exponent => { numeral with exponent := some exponent }
        else none

/-- A floating-point number; one beyond the range gives an infinity. -/
def real? (text : List Char) : Option LogValue :=
  let (negative, rest) := Numeral.splitSign text
  let word := String.ofList (rest.map Char.toLower)
  let infinite : Binary64 := if negative then Binary64.infinity.neg else Binary64.infinity
  match numeral? text with
  | some numeral => some (real (numeral.nearest?.getD infinite))
  | none =>
      if word = "inf" ∨ word = "infinity" then some (real infinite)
      else if word = "nan" then some notANumber
      else none

/-- The value that a text asks for; `none` if it is neither a value nor a well-formed pattern. -/
def parse? (text : List Char) : Option LogValue :=
  if text = "true".toList then some (truth true)
  else if text = "false".toList then some (truth false)
  else
    ((Numeral.natural? text).filter (· < UInt64.size)).map natural
      |>.or (((integer? text).filter fun n => -Int.pow 2 63 ≤ n && n < Int.pow 2 63).map integer)
      |>.or (real? text)
      |>.or (if Pattern.isWellFormed text then some (pattern text) else none)

/-! ## Writing -/

def chars : LogValue → List Char
  | truth value => (if value then "true" else "false").toList
  | real value => value.positionalText
  | notANumber => "NaN".toList
  | natural value => Numeral.digits value
  | integer value => (if value < 0 then ['-'] else []) ++ Numeral.digits value.natAbs
  | pattern text => text

/-! ## Order -/

/-- The place of a value's kind among the kinds. -/
def rank : LogValue → Nat
  | truth _ => 0
  | real _ => 1
  | notANumber => 2
  | natural _ => 3
  | integer _ => 4
  | pattern _ => 5

/-- Orders values by kind, and values of one kind by what they hold. -/
def order (a b : LogValue) : Ordering :=
  match a, b with
  | truth a, truth b => compare a.toNat b.toNat
  | real a, real b => compare a.orderKey b.orderKey
  | natural a, natural b => compare a b
  | integer a, integer b => compare a b
  | pattern a, pattern b => compare (String.ofList a) (String.ofList b)
  | a, b => compare a.rank b.rank

end LogValue

end TelemetryGateway
