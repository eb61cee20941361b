import TelemetryGateway.Text.Character
import TelemetryGateway.Toml.Layout

/-!
# Strings of a TOML text

A string is basic, with escapes, or literal, without any; and it stands on one line, or on several
between threefold quotes.  In a string of several lines a line break in front does not count, every
other one is a line feed however it is written, and one or two quotes may stand anywhere, even
directly before the closing ones.
-/

namespace TelemetryGateway.Toml

/-! ## Escapes -/

def escaped? (c : Char) : Option Char :=
  match c with
  | 'b' => some '\x08'
  | 't' => some '\t'
  | 'n' => some '\n'
  | 'f' => some '\x0c'
  | 'r' => some '\r'
  | '"' => some '"'
  | '\\' => some '\\'
  | _ => none

/-- The number that exactly so many hexadecimal digits name. -/
def readCode : Nat → Nat → Scanner Nat
  | 0, code, cs => some (code, cs)
  | _ + 1, _, [] => none
  | count + 1, code, c :: rest =>
      (Text.hexValue? c).bind fun digit => readCode count (code * 16 + digit) rest

theorem readCode_length {count code value : Nat} {cs rest : List Char}
    (h : readCode count code cs = some (value, rest)) : rest.length ≤ cs.length := by
  induction count generalizing code cs with
  | zero =>
    simp only [readCode, Option.some.injEq, Prod.mk.injEq] at h
    exact h.2 ▸ Nat.le_refl _
  | succ count ih =>
    cases cs with
    | nil => simp [readCode] at h
    | cons c next =>
      obtain ⟨digit, _, hrest⟩ := Option.bind_eq_some_iff.1 h
      have := ih hrest
      simp only [List.length_cons]
      omega

/-- The character of a code point; `none` for surrogates and for numbers beyond the last one. -/
def characterOf? (code : Nat) : Option Char :=
  if code.isValidChar then some (Char.ofNat code) else none

/-- The character of an escape, after its backslash. -/
def readEscape : Scanner Char
  | 'u' :: rest => do
      let (code, rest) ← readCode 4 0 rest
      return (← characterOf? code, rest)
  | 'U' :: rest => do
      let (code, rest) ← readCode 8 0 rest
      return (← characterOf? code, rest)
  | c :: rest => do return (← escaped? c, rest)
  | [] => none

theorem readEscape_length {cs rest : List Char} {c : Char}
    (h : readEscape cs = some (c, rest)) : rest.length < cs.length := by
  unfold readEscape at h
  split at h
  · obtain ⟨⟨code, next⟩, hcode, hchar⟩ := Option.bind_eq_some_iff.1 h
    obtain ⟨_, _, hpair⟩ := Option.bind_eq_some_iff.1 hchar
    have := readCode_length hcode
    cases hpair
    simp only [List.length_cons]
    omega
  · obtain ⟨⟨code, next⟩, hcode, hchar⟩ := Option.bind_eq_some_iff.1 h
    obtain ⟨_, _, hpair⟩ := Option.bind_eq_some_iff.1 hchar
    have := readCode_length hcode
    cases hpair
    simp only [List.length_cons]
    omega
  · obtain ⟨_, _, hpair⟩ := Option.bind_eq_some_iff.1 h
    cases hpair
    simp
  · simp at h

/-! ## Strings on one line -/

def readBasic (cs : List Char) : Option (List Char × List Char) :=
  match cs with
  | [] => none
  | '"' :: rest => some ([], rest)
  | '\\' :: rest =>
      match h : readEscape rest with
      | none => none
      | some (c, next) =>
          have := readEscape_length h
          (readBasic next).map fun (text, rest) => (c :: text, rest)
  | c :: rest =>
      if isPlain c then (readBasic rest).map fun (text, rest) => (c :: text, rest) else none
termination_by cs.length
decreasing_by all_goals (simp only [List.length_cons]; omega)

def readLiteral (cs : List Char) : Option (List Char × List Char) :=
  let isInside := fun c => isPlain c && c ≠ '\''
  match cs.dropWhile isInside with
  | '\'' :: rest => some (cs.takeWhile isInside, rest)
  | _ => none

/-! ## Strings on several lines -/

/-- The text after a backslash that ends its line: all blanks and line breaks are left out. -/
def continuation? (cs : List Char) : Option (List Char) :=
  (lineBreak? (skipBlanks cs)).map skipBreaks

theorem continuation?_length {cs rest : List Char} (h : continuation? cs = some rest) :
    rest.length < cs.length := by
  obtain ⟨next, hnext, rfl⟩ := Option.map_eq_some_iff.1 h
  have hbreaks := skipBreaks_length next
  have hline := lineBreak?_length hnext
  have hblanks : (skipBlanks cs).length ≤ cs.length := (List.dropWhile_sublist _).length_le
  omega

/-- A basic string of several lines after its opening quotes. -/
def readBasicLines (cs : List Char) : Option (List Char × List Char) :=
  match cs with
  | '"' :: '"' :: '"' :: '"' :: '"' :: rest => some (['"', '"'], rest)
  | '"' :: '"' :: '"' :: '"' :: rest => some (['"'], rest)
  | '"' :: '"' :: '"' :: rest => some ([], rest)
  | '\r' :: '\n' :: rest => (readBasicLines rest).map fun (text, rest) => ('\n' :: text, rest)
  | '\n' :: rest => (readBasicLines rest).map fun (text, rest) => ('\n' :: text, rest)
  | '\\' :: rest =>
      match hline : continuation? rest with
      | some next =>
          have := continuation?_length hline
          readBasicLines next
      | none =>
          match h : readEscape rest with
          | none => none
          | some (c, next) =>
              have := readEscape_length h
              (readBasicLines next).map fun (text, rest) => (c :: text, rest)
  | c :: rest =>
      if isPlain c then (readBasicLines rest).map fun (text, rest) => (c :: text, rest) else none
  | [] => none
termination_by cs.length
decreasing_by all_goals (simp only [List.length_cons]; omega)

/-- A literal string of several lines after its opening quotes. -/
def readLiteralLines : List Char → Option (List Char × List Char)
  | '\'' :: '\'' :: '\'' :: '\'' :: '\'' :: rest => some (['\'', '\''], rest)
  | '\'' :: '\'' :: '\'' :: '\'' :: rest => some (['\''], rest)
  | '\'' :: '\'' :: '\'' :: rest => some ([], rest)
  | '\r' :: '\n' :: rest => (readLiteralLines rest).map fun (text, rest) => ('\n' :: text, rest)
  | '\n' :: rest => (readLiteralLines rest).map fun (text, rest) => ('\n' :: text, rest)
  | c :: rest =>
      if isPlain c then (readLiteralLines rest).map fun (text, rest) => (c :: text, rest)
      else none
  | [] => none

/-! ## Both kinds -/

def dropLineBreak (cs : List Char) : List Char := (lineBreak? cs).getD cs

def readQuoted (cs : List Char) : Option (String × List Char) := do
  let (text, rest) ←
    match cs with
    | '"' :: rest => readBasic rest
    | '\'' :: rest => readLiteral rest
    | _ => none
  return (String.ofList text, rest)

def readText (cs : List Char) : Option (String × List Char) :=
  match cs with
  | '"' :: '"' :: '"' :: rest => do
      let (text, rest) ← readBasicLines (dropLineBreak rest)
      return (String.ofList text, rest)
  | '\'' :: '\'' :: '\'' :: rest => do
      let (text, rest) ← readLiteralLines (dropLineBreak rest)
      return (String.ofList text, rest)
  | _ => readQuoted cs

end TelemetryGateway.Toml
