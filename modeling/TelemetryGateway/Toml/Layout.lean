/-!
# Layout of a TOML text

A TOML text is made of lines: blanks are spaces and tabs, a line ends with a line feed, with or
without a carriage return in front, and a comment reaches from a hash sign to the end of its line.
Inside an array, line breaks and comments stand wherever a blank may.
-/

namespace TelemetryGateway.Toml

/-- A reader of what stands at the beginning of a text: its value and the rest of the text. -/
abbrev Scanner (α : Type) := List Char → Option (α × List Char)

def isBlank (c : Char) : Bool := c = ' ' || c = '\t'

/-- A character that may stand for itself: a tab, or any that is no control. -/
def isPlain (c : Char) : Bool := c = '\t' || (0x20 ≤ c.toNat && c.toNat ≠ 0x7f)

def skipBlanks (cs : List Char) : List Char := cs.dropWhile isBlank

/-- The text after a line break, if one stands in front. -/
def lineBreak? : List Char → Option (List Char)
  | '\n' :: rest => some rest
  | '\r' :: '\n' :: rest => some rest
  | _ => none

theorem lineBreak?_length {cs rest : List Char} (h : lineBreak? cs = some rest) :
    rest.length < cs.length := by
  unfold lineBreak? at h
  split at h
  · simp_all
  · simp_all only [Option.some.injEq, List.length_cons]
    omega
  · simp at h

/-- The text after the blanks and line breaks in front. -/
def skipBreaks : List Char → List Char
  | '\r' :: '\n' :: rest => skipBreaks rest
  | c :: rest => if isBlank c || c = '\n' then skipBreaks rest else c :: rest
  | [] => []

theorem skipBreaks_length (cs : List Char) : (skipBreaks cs).length ≤ cs.length := by
  fun_induction skipBreaks cs with
  | case1 rest ih => simp only [List.length_cons]; omega
  | case2 c rest _ _ ih => simp only [List.length_cons]; omega
  | case3 => exact Nat.le_refl _
  | case4 => exact Nat.le_refl _

/-- The text after blanks, line breaks and comments; `none` if a comment does not end with its
line. -/
def skipLayout (inComment : Bool) : List Char → Option (List Char)
  | '\n' :: rest => skipLayout false rest
  | '\r' :: '\n' :: rest => skipLayout false rest
  | c :: rest =>
      if inComment then if isPlain c then skipLayout true rest else none
      else if isBlank c then skipLayout false rest
      else if c = '#' then skipLayout true rest
      else some (c :: rest)
  | [] => if inComment then none else some []

/-- The text of the next line, if nothing but blanks and a comment is left of this one. -/
def nextLine? (cs : List Char) : Option (List Char) :=
  let afterComment :=
    match skipBlanks cs with
    | '#' :: rest => rest.dropWhile isPlain
    | rest => rest
  match afterComment with
  | [] => some []
  | rest => lineBreak? rest

/-- One or more items with a separator between each two of them.  The fuel bounds their number. -/
def readSeparated {α : Type} (item : Scanner α) (separator : Char) : Nat → Scanner (List α)
  | 0, _ => none
  | fuel + 1, cs => do
      let (x, rest) ← item cs
      match rest with
      | c :: next =>
          if c = separator then do
            let (xs, rest) ← readSeparated item separator fuel next
            return (x :: xs, rest)
          else return ([x], rest)
      | [] => return ([x], [])

end TelemetryGateway.Toml
