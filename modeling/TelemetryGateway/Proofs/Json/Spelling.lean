import TelemetryGateway.Json.Reader
import TelemetryGateway.Json.Writer

/-!
# Reading what was written

A text spells a document if it is a JSON text of it with any white space between the tokens, where a
string may be escaped as the writers do it.  Both sides meet in this relation (`Json.Spells`): the
reader finds the document in each of its spellings, whatever stands behind it, and what a writer
makes of a document is one of them.

Only documents can be found again that hold nothing but what a text can name (`Document.IsPlain`): a
floating-point number is read back as a numeral, and a value that can only be skipped is written as
if it were absent.

* `Json.readPieces_escapeChar`, `Json.readText_writeText`: a string with its escapes;
* `Json.readNumeral_text`: a whole number, if no digit, point or exponent follows;
* `Json.readsSpellings`: every spelling of a document, by induction on the fuel of the reader;
* `Json.read_renderLines`, `Json.read_render`: the text over several lines and the one without white
  space.
-/

namespace TelemetryGateway

/-! ## What can be found again -/

/-- Whether a numeral is a whole number without an exponent. -/
def Numeral.IsWhole (n : Numeral) : Prop := n.fraction = [] ∧ n.exponent = none

theorem Numeral.isWhole_ofInt (n : Int) : (ofInt n).IsWhole := ⟨rfl, rfl⟩

namespace Document

mutual

/-- Whether a document consists of texts, truth values and whole numbers. -/
def IsPlain : Document → Prop
  | .null | .bool _ | .text _ => True
  | .number n => n.IsWhole
  | .list items => ArePlain items
  | .record fields => HavePlain fields
  | .double _ | .skipOnly => False

/-- Whether all items of a list are plain. -/
def ArePlain : List Document → Prop
  | [] => True
  | item :: rest => item.IsPlain ∧ ArePlain rest

/-- Whether all fields of a record are plain. -/
def HavePlain : List (String × Document) → Prop
  | [] => True
  | (_, value) :: rest => value.IsPlain ∧ HavePlain rest

end

theorem isPlain_int (n : Int) : (int n).IsPlain := by
  unfold int IsPlain
  exact Numeral.isWhole_ofInt n

theorem isPlain_nat (n : Nat) : (nat n).IsPlain := isPlain_int n

theorem arePlain_iff {items : List Document} : ArePlain items ↔ ∀ item ∈ items, item.IsPlain := by
  induction items with
  | nil => simp [ArePlain]
  | cons item rest ih => simp [ArePlain, ih]

theorem havePlain_iff {fields : List (String × Document)} :
    HavePlain fields ↔ ∀ f ∈ fields, f.2.IsPlain := by
  induction fields with
  | nil => simp [HavePlain]
  | cons f rest ih => simp [HavePlain, ih]

theorem isPlain_list {items : List Document} : (list items).IsPlain ↔ ArePlain items := .rfl

theorem isPlain_record {fields : List (String × Document)} :
    (record fields).IsPlain ↔ HavePlain fields := .rfl

end Document

namespace Json

/-! ## Strings -/

namespace Piece

/-- What the writers put for a character of a string. -/
def ofChar (c : Char) : Piece :=
  if c.toNat < 0x20 ∧ c ∉ ['\x08', '\x0c', '\n', '\r', '\t'] then .code c.toNat else .char c

end Piece

theorem assemble_ofChar (c : Char) (pieces : List Piece) :
    assemble (.ofChar c :: pieces) = (assemble pieces).map (c :: ·) := by
  unfold Piece.ofChar
  split
  · next hcode =>
    -- a control is no half of a surrogate pair, whatever follows
    have hhigh : isHighSurrogate c.toNat = false := by
      simp only [isHighSurrogate, Bool.and_eq_false_iff, decide_eq_false_iff_not]
      omega
    have hlow : isLowSurrogate c.toNat = false := by
      simp only [isLowSurrogate, Bool.and_eq_false_iff, decide_eq_false_iff_not]
      omega
    cases pieces with
    | nil => simp [assemble, hhigh, hlow, Char.ofNat_toNat]
    | cons next rest => cases next <;> simp [assemble, hhigh, hlow, Char.ofNat_toNat]
  · rfl

theorem assemble_map_ofChar (cs : List Char) : assemble (cs.map .ofChar) = some cs := by
  induction cs with
  | nil => rfl
  | cons c rest ih => rw [List.map_cons, assemble_ofChar, ih, Option.map_some]

theorem hexValue?_hexDigit_of_lt {n : Nat} (h : n < 16) :
    Text.hexValue? (Text.hexDigit n) = some n :=
  Text.hexValue?_hexDigit ⟨n, h⟩

theorem readPieces_escapeChar (c : Char) (cs : List Char) :
    readPieces (escapeChar c ++ cs) =
      (readPieces cs).map fun r => (Piece.ofChar c :: r.1, r.2) := by
  by_cases hshort : c ∈ ['"', '\\', '\x08', '\x0c', '\n', '\r', '\t']
  · simp only [List.mem_cons, List.not_mem_nil, or_false] at hshort
    rcases hshort with rfl | rfl | rfl | rfl | rfl | rfl | rfl <;>
      (simp [escapeChar, readPieces, escaped?, Piece.ofChar]; cases readPieces cs <;> rfl)
  · simp only [List.mem_cons, List.not_mem_nil, or_false, not_or] at hshort
    obtain ⟨hquote, hback, h8, hc, hn, hr, ht⟩ := hshort
    by_cases hcontrol : c.toNat < 0x20
    · have hhigh := hexValue?_hexDigit_of_lt (n := c.toNat / 16) (by omega)
      have hlow := hexValue?_hexDigit_of_lt (n := c.toNat % 16) (by omega)
      have hzero : Text.hexValue? '0' = some 0 := by decide
      have hunit : c.toNat / 16 * 16 + c.toNat % 16 = c.toNat := by omega
      simp [escapeChar, hquote, hback, h8, hc, hn, hr, ht, hcontrol, readPieces, hhigh, hlow, hzero,
        hunit, Piece.ofChar]
      cases readPieces cs <;> rfl
    · simp [escapeChar, hquote, hback, h8, hc, hn, hr, ht, hcontrol, readPieces, Piece.ofChar]
      cases readPieces cs <;> rfl

/-- A string with its escapes is read up to its closing quote. -/
theorem readText_writeText (s : String) (rest : List Char) :
    ∃ cs, writeText s ++ rest = '"' :: cs ∧ readText cs = some (some s, rest) := by
  refine ⟨s.toList.flatMap escapeChar ++ ['"'] ++ rest, rfl, ?_⟩
  have hpieces : ∀ cs : List Char, readPieces (cs.flatMap escapeChar ++ '"' :: rest) =
      some (cs.map .ofChar, rest) := by
    intro cs
    induction cs with
    | nil => simp [readPieces]
    | cons c cs ih =>
        rw [List.flatMap_cons, List.append_assoc, readPieces_escapeChar, ih]
        rfl
  rw [List.append_assoc, List.singleton_append, readText, hpieces]
  simp [assemble_map_ofChar]

/-! ## Numbers -/

/-- Whether a numeral cannot go on in a text. -/
def EndsNumeral (cs : List Char) : Prop :=
  ∀ c ∈ cs.head?, c.isDigit = false ∧ c ≠ '.' ∧ c ≠ 'e' ∧ c ≠ 'E'

theorem takeWhile_isDigit_append {ds rest : List Char} (hds : ∀ c ∈ ds, c.isDigit = true)
    (hrest : EndsNumeral rest) :
    (ds ++ rest).takeWhile Char.isDigit = ds ∧ (ds ++ rest).dropWhile Char.isDigit = rest := by
  rw [List.takeWhile_append_of_pos hds, List.dropWhile_append_of_pos hds]
  cases rest with
  | nil => simp
  | cons c rest =>
      have hc := (hrest c rfl).1
      simp [hc]

/-- The digits of a number other than zero do not begin with a zero. -/
theorem exists_digits_cons {n : Nat} (hn : n ≠ 0) :
    ∃ c ds, Numeral.digits n = c :: ds ∧ c ≠ '0' := by
  unfold Numeral.digits
  induction n using Nat.strongRecOn with
  | ind n ih =>
      by_cases hlt : n < 10
      · have hsmall : ∀ m : Fin 10, m.val ≠ 0 → Nat.digitChar m ≠ '0' := by decide
        exact ⟨Nat.digitChar n, [], Nat.toDigits_of_lt_base hlt, hsmall ⟨n, hlt⟩ hn⟩
      · obtain ⟨c, ds, hds, hc⟩ := ih (n / 10) (by omega) (by omega)
        rw [Nat.toDigits_of_base_le (by decide) (by omega), hds]
        exact ⟨c, _, rfl, hc⟩

theorem readWhole_digits (n : Nat) {rest : List Char} (hrest : EndsNumeral rest) :
    readWhole (Numeral.digits n ++ rest) = some (n, rest) := by
  by_cases hn : n = 0
  · subst hn
    have hzero : Numeral.digits 0 = ['0'] := Nat.toDigits_zero 10
    rw [hzero]
    cases rest with
    | nil => rfl
    | cons c rest => simp [readWhole, (hrest c rfl).1]
  · have hdigits : ∀ c ∈ Numeral.digits n, c.isDigit = true := fun c hc =>
      Nat.isDigit_of_mem_toDigits (by decide) (by decide) hc
    obtain ⟨htake, hdrop⟩ := takeWhile_isDigit_append hdigits hrest
    obtain ⟨c, ds, hds, hc⟩ := exists_digits_cons hn
    have hvalue : digitsValue (Numeral.digits n) = n := Nat.ofDigitChars_ten_toDigits
    have hsome : (Numeral.digits n).isEmpty = false := by rw [hds]; rfl
    rw [readWhole]
    · simp [htake, hdrop, hvalue, hsome]
    · intro rest' heq
      rw [hds] at heq
      exact hc (List.cons.inj heq).1

/-- A whole number is read up to its end. -/
theorem readNumeral_text {n : Numeral} (hn : n.IsWhole) {rest : List Char}
    (hrest : EndsNumeral rest) : readNumeral (n.text ++ rest) = some (n, rest) := by
  obtain ⟨negative, whole, fraction, exponent⟩ := n
  obtain ⟨rfl, rfl⟩ : fraction = [] ∧ exponent = none := hn
  have hwhole := readWhole_digits whole hrest
  have hfraction : readFraction rest = some ([], rest) := by
    unfold readFraction
    split
    · exact absurd rfl (hrest '.' rfl).2.1
    · rfl
  have hexponent : readExponent rest = some (none, rest) := by
    cases rest with
    | nil => rfl
    | cons c rest =>
        obtain ⟨-, -, he, hE⟩ := hrest c rfl
        simp [readExponent, he, hE]
  have hsign : ∀ c ∈ (Numeral.digits whole).head?, c ≠ '-' := by
    intro c hc hminus
    have hdigit : c.isDigit = true :=
      Nat.isDigit_of_mem_toDigits (by decide) (by decide) (List.mem_of_mem_head? hc)
    rw [hminus] at hdigit
    cases hdigit
  cases negative with
  | true => simp [Numeral.text, readNumeral, hwhole, hfraction, hexponent]
  | false =>
      cases hdigits : Numeral.digits whole with
      | nil => exact absurd hdigits Nat.toDigits_ne_nil
      | cons c ds =>
          rw [hdigits] at hwhole hsign
          have hne := hsign c rfl
          simp only [List.cons_append] at hwhole
          simp [Numeral.text, readNumeral, hdigits, hwhole, hfraction, hexponent, hne]

/-! ## Spellings -/

/-- Whether a text is white space. -/
def IsSpacing (cs : List Char) : Prop := ∀ c ∈ cs, isSpace c = true

theorem isSpacing_nil : IsSpacing [] := nofun

theorem isSpacing_blank : IsSpacing [' '] := List.forall_mem_singleton.mpr rfl

mutual

/-- The texts of a document, with white space between the tokens. -/
inductive Spells : Document → List Char → Prop
  | null : Spells .null ['n', 'u', 'l', 'l']
  | true : Spells (.bool true) ['t', 'r', 'u', 'e']
  | false : Spells (.bool false) ['f', 'a', 'l', 's', 'e']
  | number {n : Numeral} : n.IsWhole → Spells (.number n) n.text
  | text (s : String) : Spells (.text s) (writeText s)
  | emptyList : Spells (.list []) ['[', ']']
  | list {items : List Document} {cs : List Char} : SpellsItems items cs →
      Spells (.list items) ('[' :: cs)
  | emptyRecord : Spells (.record []) ['\x7b', '\x7d']
  | record {fields : List (String × Document)} {cs : List Char} : SpellsFields fields cs →
      Spells (.record fields) ('\x7b' :: cs)

/-- The texts of the items of a list up to its closing bracket. -/
inductive SpellsItems : List Document → List Char → Prop
  | last {item : Document} {before cs behind : List Char} : IsSpacing before → Spells item cs →
      IsSpacing behind → SpellsItems [item] (before ++ (cs ++ (behind ++ [']'])))
  | cons {item : Document} {items : List Document} {before cs behind rest : List Char} :
      IsSpacing before → Spells item cs → IsSpacing behind → SpellsItems items rest →
      SpellsItems (item :: items) (before ++ (cs ++ (behind ++ ',' :: rest)))

/-- The texts of the fields of a record up to its closing brace. -/
inductive SpellsFields : List (String × Document) → List Char → Prop
  | last {key : String} {value : Document} {before between cs behind : List Char} :
      IsSpacing before → IsSpacing between → Spells value cs → IsSpacing behind →
      SpellsFields [(key, value)]
        (before ++ (writeText key ++ ':' :: (between ++ (cs ++ (behind ++ ['\x7d'])))))
  | cons {key : String} {value : Document} {fields : List (String × Document)}
      {before between cs behind rest : List Char} :
      IsSpacing before → IsSpacing between → Spells value cs → IsSpacing behind →
      SpellsFields fields rest →
      SpellsFields ((key, value) :: fields)
        (before ++ (writeText key ++ ':' :: (between ++ (cs ++ (behind ++ ',' :: rest)))))

end

/-- Whether a value can begin with a character. -/
def StartsValue (c : Char) : Prop := isSpace c = false ∧ c ≠ ']' ∧ c ≠ '\x7d'

instance : DecidablePred StartsValue := fun c =>
  inferInstanceAs (Decidable (isSpace c = false ∧ c ≠ ']' ∧ c ≠ '\x7d'))

theorem startsValue_of_isDigit {c : Char} (h : c.isDigit = true) : StartsValue c := by
  refine ⟨?_, ?_, ?_⟩
  · unfold isSpace
    simp only [Bool.or_eq_false_iff, decide_eq_false_iff_not]
    refine ⟨⟨⟨?_, ?_⟩, ?_⟩, ?_⟩ <;> (rintro rfl; cases h)
  · rintro rfl
    cases h
  · rintro rfl
    cases h

/-- A numeral begins with its sign or a digit. -/
theorem exists_cons_text (n : Numeral) :
    ∃ c rest, n.text = c :: rest ∧ (c = '-' ∨ c.isDigit = true) := by
  cases hsign : n.negative with
  | true => exact ⟨'-', _, by simp only [Numeral.text, hsign, ite_true]; rfl, .inl rfl⟩
  | false =>
      obtain ⟨c, ds, hds⟩ : ∃ c ds, Numeral.digits n.whole = c :: ds :=
        List.exists_cons_of_ne_nil Nat.toDigits_ne_nil
      have hc : c ∈ Numeral.digits n.whole := hds ▸ List.mem_cons_self
      refine ⟨c, _, by simp only [Numeral.text, hsign, hds]; rfl, .inr ?_⟩
      exact Nat.isDigit_of_mem_toDigits (by decide) (by decide) hc

/-- Every text of a document begins with a token. -/
theorem Spells.exists_cons {d : Document} {cs : List Char} (h : Spells d cs) :
    ∃ c rest, cs = c :: rest ∧ StartsValue c := by
  cases h with
  | number hwhole =>
      obtain ⟨c, rest, htext, rfl | hdigit⟩ := exists_cons_text _
      · exact ⟨_, _, htext, by decide⟩
      · exact ⟨_, _, htext, startsValue_of_isDigit hdigit⟩
  | _ => exact ⟨_, _, rfl, by decide⟩

/-! ## Reading a spelling -/

theorem skipSpace_append {before cs : List Char} {c : Char} (hbefore : IsSpacing before)
    (hc : isSpace c = false) : skipSpace (before ++ c :: cs) = c :: cs := by
  unfold skipSpace
  rw [List.dropWhile_append_of_pos hbefore]
  simp [hc]

/-- A numeral ends where white space and a character follow that is no part of one. -/
theorem endsNumeral_append {behind : List Char} {c : Char} {rest : List Char}
    (hbehind : IsSpacing behind) (hc : c.isDigit = false ∧ c ≠ '.' ∧ c ≠ 'e' ∧ c ≠ 'E') :
    EndsNumeral (behind ++ c :: rest) := by
  cases behind with
  | nil => simpa [EndsNumeral] using hc
  | cons b behind =>
      have hb : isSpace b = true := hbehind b List.mem_cons_self
      simp only [isSpace, Bool.or_eq_true, decide_eq_true_eq] at hb
      rcases hb with ((rfl | rfl) | rfl) | rfl <;> simp [EndsNumeral]

theorem readValue_number (fuel : Nat) {before cs : List Char} {c : Char}
    (hbefore : IsSpacing before) (hc : c = '-' ∨ c.isDigit = true) :
    readValue (fuel + 1) (before ++ c :: cs) =
      (readNumeral (c :: cs)).map fun r => (.number r.1, r.2) := by
  have hspace : isSpace c = false := by
    rcases hc with rfl | hdigit
    · rfl
    · exact (startsValue_of_isDigit hdigit).1
  rw [readValue, skipSpace_append hbefore hspace]
  split <;>
    first
      | (next heq => obtain ⟨rfl, -⟩ := List.cons.inj heq; simp at hc)
      | rfl

/-- What the reader makes of the texts of documents, items and fields with so much fuel. -/
structure ReadsSpellings (fuel : Nat) : Prop where
  value {d : Document} {before cs rest : List Char} : Spells d cs → 2 * cs.length ≤ fuel →
    IsSpacing before → EndsNumeral rest → readValue fuel (before ++ (cs ++ rest)) = some (d, rest)
  items {items : List Document} {cs rest : List Char} : SpellsItems items cs →
    2 * cs.length + 1 ≤ fuel → readItems fuel (cs ++ rest) = some (items, rest)
  fields {fields : List (String × Document)} {cs rest : List Char} : SpellsFields fields cs →
    2 * cs.length + 1 ≤ fuel →
    readFields fuel (cs ++ rest) = some (fields.map fun f => (some f.1, f.2), rest)

namespace ReadsSpellings

variable {fuel : Nat}

theorem readValue_list (h : ReadsSpellings fuel) {before cs rest : List Char}
    {items : List Document} (hbefore : IsSpacing before) (hitems : SpellsItems items cs)
    (hfuel : 2 * cs.length + 1 ≤ fuel) :
    readValue (fuel + 1) (before ++ '[' :: (cs ++ rest)) = some (.list items, rest) := by
  have hread : readItems fuel (cs ++ rest) = some (items, rest) := h.items hitems hfuel
  -- the list is not empty, so what follows its bracket is not the closing one
  have hskip : ∃ c cs', skipSpace (cs ++ rest) = c :: cs' ∧ StartsValue c := by
    cases hitems with
    | last hspace hitem _ | cons hspace hitem _ _ =>
        obtain ⟨c, cs, rfl, hc⟩ := hitem.exists_cons
        simp only [List.append_assoc, List.cons_append]
        exact ⟨c, _, skipSpace_append hspace hc.1, hc⟩
  obtain ⟨c, cs', hskip, hc⟩ := hskip
  rw [readValue, skipSpace_append hbefore (by decide)]
  simp [hskip, hread, hc.2.1]

theorem readValue_record (h : ReadsSpellings fuel) {before cs rest : List Char}
    {fields : List (String × Document)} (hbefore : IsSpacing before)
    (hfields : SpellsFields fields cs) (hfuel : 2 * cs.length + 1 ≤ fuel) :
    readValue (fuel + 1) (before ++ '\x7b' :: (cs ++ rest)) = some (.record fields, rest) := by
  have hread : readFields fuel (cs ++ rest) = some (fields.map fun f => (some f.1, f.2), rest) :=
    h.fields hfields hfuel
  have hskip : ∃ cs', skipSpace (cs ++ rest) = '"' :: cs' := by
    cases hfields with
    | last hspace _ _ _ | cons hspace _ _ _ _ =>
        simp only [List.append_assoc, List.cons_append, writeText]
        exact ⟨_, skipSpace_append hspace (by decide)⟩
  obtain ⟨cs', hskip⟩ := hskip
  rw [readValue, skipSpace_append hbefore (by decide)]
  simp [hskip, hread, Document.ofFields_some]

theorem readValue_succ (h : ReadsSpellings fuel) {d : Document} {before cs rest : List Char}
    (hspells : Spells d cs) (hfuel : 2 * cs.length ≤ fuel + 1) (hbefore : IsSpacing before)
    (hrest : EndsNumeral rest) :
    readValue (fuel + 1) (before ++ (cs ++ rest)) = some (d, rest) := by
  cases hspells with
  | null | true | false | emptyList | emptyRecord =>
      rw [readValue]
      simp only [List.cons_append, List.nil_append]
      rw [skipSpace_append hbefore (by decide)]
      simp [skipSpace, isSpace]
  | number hwhole =>
      obtain ⟨c, cs', htext, hc⟩ := exists_cons_text _
      have hread := readNumeral_text hwhole hrest
      rw [htext, List.cons_append] at hread ⊢
      rw [readValue_number fuel hbefore hc, hread]
      rfl
  | text s =>
      obtain ⟨cs', htext, hread⟩ := readText_writeText s rest
      rw [htext, readValue, skipSpace_append hbefore (by decide)]
      simp [hread]
  | list hitems => exact h.readValue_list hbefore hitems (by simp at hfuel; omega)
  | record hfields => exact h.readValue_record hbefore hfields (by simp at hfuel; omega)

/-- A value is read up to the white space before the next token. -/
theorem value_then (h : ReadsSpellings fuel) (c : Char) (rest : List Char) {d : Document}
    {before cs behind : List Char} (hspells : Spells d cs) (hfuel : 2 * cs.length ≤ fuel)
    (hbefore : IsSpacing before) (hbehind : IsSpacing behind)
    (hc : c = ',' ∨ c = ']' ∨ c = '\x7d') :
    ∃ rest', readValue fuel (before ++ (cs ++ (behind ++ c :: rest))) = some (d, rest') ∧
      skipSpace rest' = c :: rest := by
  refine ⟨_, h.value hspells hfuel hbefore (endsNumeral_append hbehind ?_), ?_⟩
  · rcases hc with rfl | rfl | rfl <;> decide
  · refine skipSpace_append hbehind ?_
    rcases hc with rfl | rfl | rfl <;> decide

theorem readItems_succ (h : ReadsSpellings fuel) {items : List Document} {cs rest : List Char}
    (hspells : SpellsItems items cs) (hfuel : 2 * cs.length + 1 ≤ fuel + 1) :
    readItems (fuel + 1) (cs ++ rest) = some (items, rest) := by
  cases hspells with
  | last hbefore hitem hbehind =>
      simp only [List.append_assoc, List.length_append, List.length_cons, List.cons_append,
        List.nil_append] at hfuel ⊢
      obtain ⟨rest', hread, hskip⟩ :=
        h.value_then ']' rest hitem (by omega) hbefore hbehind (by simp)
      simp [readItems, hread, hskip]
  | @cons item items before cs behind itemsText hbefore hitem hbehind hitems =>
      simp only [List.append_assoc, List.length_append, List.length_cons, List.cons_append]
        at hfuel ⊢
      obtain ⟨rest', hread, hskip⟩ := h.value_then ',' (itemsText ++ rest) hitem
        (by omega) hbefore hbehind (by simp)
      simp [readItems, hread, hskip, h.items hitems (by omega)]

theorem readFields_succ (h : ReadsSpellings fuel) {fields : List (String × Document)}
    {cs rest : List Char} (hspells : SpellsFields fields cs)
    (hfuel : 2 * cs.length + 1 ≤ fuel + 1) :
    readFields (fuel + 1) (cs ++ rest) = some (fields.map fun f => (some f.1, f.2), rest) := by
  have hcolon : ∀ cs, skipSpace (':' :: cs) = ':' :: cs := fun cs => rfl
  cases hspells with
  | @last key value before between cs behind hbefore hbetween hvalue hbehind =>
      simp only [List.append_assoc, List.length_append, List.length_cons, List.cons_append,
        List.nil_append] at hfuel ⊢
      obtain ⟨cs', htext, hkey⟩ :=
        readText_writeText key (':' :: (between ++ (cs ++ (behind ++ '\x7d' :: rest))))
      obtain ⟨rest', hread, hskip⟩ :=
        h.value_then '\x7d' rest hvalue (by omega) hbetween hbehind (by simp)
      rw [htext, readFields, skipSpace_append hbefore (by decide)]
      simp [hkey, hcolon, hread, hskip]
  | @cons key value fields before between cs behind fieldsText hbefore hbetween hvalue hbehind
      hfields =>
      simp only [List.append_assoc, List.length_append, List.length_cons, List.cons_append]
        at hfuel ⊢
      obtain ⟨cs', htext, hkey⟩ := readText_writeText key
        (':' :: (between ++ (cs ++ (behind ++ ',' :: (fieldsText ++ rest)))))
      obtain ⟨rest', hread, hskip⟩ :=
        h.value_then ',' (fieldsText ++ rest) hvalue (by omega) hbetween hbehind
          (by simp)
      rw [htext, readFields, skipSpace_append hbefore (by decide)]
      simp [hkey, hcolon, hread, hskip, h.fields hfields (by omega)]

end ReadsSpellings

/-- By induction on the fuel: nothing is read without any, and no text is empty. -/
theorem readsSpellings (fuel : Nat) : ReadsSpellings fuel := by
  induction fuel with
  | zero =>
      refine ⟨fun hspells hfuel _ _ => ?_, fun _ hfuel => ?_, fun _ hfuel => ?_⟩
      · obtain ⟨c, cs, rfl, -⟩ := hspells.exists_cons
        simp at hfuel
      · omega
      · omega
  | succ fuel ih => exact ⟨ih.readValue_succ, ih.readItems_succ, ih.readFields_succ⟩

/-- The reader finds a document in each of its texts. -/
theorem read_of_spells {d : Document} {cs : List Char} (h : Spells d cs) :
    read (String.ofList cs) = some d := by
  have hread : readValue (2 * cs.length + 2) ([] ++ (cs ++ [])) = some (d, []) :=
    (readsSpellings _).value h (by omega) isSpacing_nil (by simp [EndsNumeral])
  rw [List.nil_append, List.append_nil] at hread
  simp [read, hread, skipSpace]

/-! ## Writing a spelling -/

theorem isSpacing_newLine (depth : Nat) : IsSpacing (newLine depth) := by
  intro c hc
  rcases List.mem_cons.mp hc with rfl | hspace
  · rfl
  · rw [List.eq_of_mem_replicate hspace]
    rfl

open Document in
mutual

theorem spells_writeLines (depth : Nat) :
    ∀ d : Document, d.IsPlain → Spells d (writeLines depth d)
  | .null, _ => .null
  | .bool true, _ => .true
  | .bool false, _ => .false
  | .number _, hplain => .number hplain
  | .text s, _ => .text s
  | .list [], _ => .emptyList
  | .list (item :: rest), hplain =>
      .list (spells_writeItemLines depth (item :: rest) (List.cons_ne_nil _ _) hplain)
  | .record [], _ => .emptyRecord
  | .record (f :: rest), hplain =>
      .record (spells_writeFieldLines depth (f :: rest) (List.cons_ne_nil _ _) hplain)

theorem spells_writeItemLines (depth : Nat) :
    ∀ items : List Document, items ≠ [] → ArePlain items →
      SpellsItems items (writeItemLines depth items ++ [']'])
  | [], hne, _ => absurd rfl hne
  | [item], _, hplain => by
      have hitem := spells_writeLines (depth + 1) item hplain.1
      simpa [writeItemLines] using
        SpellsItems.last (isSpacing_newLine (depth + 1)) hitem (isSpacing_newLine depth)
  | item :: next :: rest, _, hplain => by
      have hitem := spells_writeLines (depth + 1) item hplain.1
      have hrest := spells_writeItemLines depth (next :: rest) (List.cons_ne_nil _ _) hplain.2
      simpa [writeItemLines] using
        SpellsItems.cons (isSpacing_newLine (depth + 1)) hitem isSpacing_nil hrest

theorem spells_writeFieldLines (depth : Nat) :
    ∀ fields : List (String × Document), fields ≠ [] → HavePlain fields →
      SpellsFields fields (writeFieldLines depth fields ++ ['\x7d'])
  | [], hne, _ => absurd rfl hne
  | [(key, value)], _, hplain => by
      have hvalue := spells_writeLines (depth + 1) value hplain.1
      have hfields : SpellsFields [(key, value)] _ := .last (isSpacing_newLine (depth + 1))
        isSpacing_blank hvalue (isSpacing_newLine depth)
      simpa [writeFieldLines] using hfields
  | (key, value) :: next :: rest, _, hplain => by
      have hvalue := spells_writeLines (depth + 1) value hplain.1
      have hrest := spells_writeFieldLines depth (next :: rest) (List.cons_ne_nil _ _) hplain.2
      have hfields : SpellsFields ((key, value) :: next :: rest) _ := .cons
        (isSpacing_newLine (depth + 1)) isSpacing_blank hvalue isSpacing_nil hrest
      simpa [writeFieldLines] using hfields

end

/-- A document is read back from its text over several lines. -/
theorem read_renderLines {d : Document} (h : d.IsPlain) : read (renderLines d) = some d :=
  read_of_spells (spells_writeLines 0 d h)

open Document in
mutual

theorem spells_write : ∀ d : Document, d.IsPlain → Spells d (write d)
  | .null, _ => .null
  | .bool true, _ => .true
  | .bool false, _ => .false
  | .number _, hplain => .number hplain
  | .text s, _ => .text s
  | .list [], _ => .emptyList
  | .list (item :: rest), hplain =>
      .list (spells_writeItems (item :: rest) (List.cons_ne_nil _ _) hplain)
  | .record [], _ => .emptyRecord
  | .record (f :: rest), hplain =>
      .record (spells_writeFields (f :: rest) (List.cons_ne_nil _ _) hplain)

theorem spells_writeItems : ∀ items : List Document, items ≠ [] → ArePlain items →
    SpellsItems items (writeItems items ++ [']'])
  | [], hne, _ => absurd rfl hne
  | [item], _, hplain => by
      have hitem := spells_write item hplain.1
      simpa [writeItems] using SpellsItems.last isSpacing_nil hitem isSpacing_nil
  | item :: next :: rest, _, hplain => by
      have hitem := spells_write item hplain.1
      have hrest := spells_writeItems (next :: rest) (List.cons_ne_nil _ _) hplain.2
      simpa [writeItems] using SpellsItems.cons isSpacing_nil hitem isSpacing_nil hrest

theorem spells_writeFields : ∀ fields : List (String × Document), fields ≠ [] →
    HavePlain fields → SpellsFields fields (writeFields fields ++ ['\x7d'])
  | [], hne, _ => absurd rfl hne
  | [(key, value)], _, hplain => by
      have hvalue := spells_write value hplain.1
      have hfields : SpellsFields [(key, value)] _ :=
        .last isSpacing_nil isSpacing_nil hvalue isSpacing_nil
      simpa [writeFields] using hfields
  | (key, value) :: next :: rest, _, hplain => by
      have hvalue := spells_write value hplain.1
      have hrest := spells_writeFields (next :: rest) (List.cons_ne_nil _ _) hplain.2
      have hfields : SpellsFields ((key, value) :: next :: rest) _ :=
        .cons isSpacing_nil isSpacing_nil hvalue isSpacing_nil hrest
      simpa [writeFields] using hfields

end

/-- A document is read back from its text without white space. -/
theorem read_render {d : Document} (h : d.IsPlain) : read (render d) = some d :=
  read_of_spells (spells_write d h)

end Json

end TelemetryGateway
