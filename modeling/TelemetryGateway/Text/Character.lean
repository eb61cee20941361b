/-!
# Characters

What readers and writers of text ask of a character: whether its code point lies in a table of
ranges, whether it is white space, and which digit it is.

White space is the Unicode property White_Space.  The zero-width space U+200B, the byte order mark
U+FEFF and the separators U+001C to U+001F do not have that property, so a name made of them is not
blank.
-/

namespace TelemetryGateway.Text

/-! ## Ranges -/

/-- Whether a code point lies in one of some ranges, whose ends belong to them. -/
def inRanges (ranges : List (Nat × Nat)) (code : Nat) : Bool :=
  ranges.any fun r => r.1 ≤ code && code ≤ r.2

/-! ## White space -/

/-- The Unicode property White_Space. -/
def isWhite (c : Char) : Bool :=
  let n := c.toNat
  (9 ≤ n && n ≤ 13) || n == 0x20 || n == 0x85 || n == 0xa0 || n == 0x1680 ||
    (0x2000 ≤ n && n ≤ 0x200a) || n == 0x2028 || n == 0x2029 || n == 0x202f || n == 0x205f ||
    n == 0x3000

/-- Whether a text holds nothing but white space. -/
def isBlank (s : String) : Bool := s.toList.all isWhite

/-- A text without the white space at its two ends. -/
def trim (cs : List Char) : List Char :=
  ((cs.dropWhile isWhite).reverse.dropWhile isWhite).reverse

/-! ## Hexadecimal digits -/

/-- The value of a hexadecimal digit, in either case. -/
def hexValue? (c : Char) : Option Nat :=
  if '0' ≤ c ∧ c ≤ '9' then some (c.toNat - '0'.toNat)
  else if 'a' ≤ c ∧ c ≤ 'f' then some (c.toNat - 'a'.toNat + 10)
  else if 'A' ≤ c ∧ c ≤ 'F' then some (c.toNat - 'A'.toNat + 10)
  else none

/-- The digit of a number below sixteen, lower case. -/
def hexDigit (n : Nat) : Char := Nat.digitChar n

theorem hexValue?_hexDigit : ∀ n : Fin 16, hexValue? (hexDigit n) = some n.val := by decide

end TelemetryGateway.Text
