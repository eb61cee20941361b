import TelemetryGateway.Numeral

/-!
# Documents

A document is what a text in one of the two formats holds before anything is known about its
meaning: a tree of lists and records over texts, numerals and truth values.  Records keep their
entries as written, repeated ones included, because whether a repetition matters depends on what
the record is read as.
-/

namespace TelemetryGateway

/-- A tree of values. `double` is a floating-point number to be written; one that is read is a
`number`, since only its digits are known. `skipOnly` is a value that nothing here can be read from,
such as a text with half of a surrogate pair; it can still stand in a place that is skipped. -/
inductive Document where
  | null
  | bool (value : Bool)
  | number (value : Numeral)
  | double (value : Binary64)
  | text (value : String)
  | list (items : List Document)
  | record (fields : List (String × Document))
  | skipOnly
deriving Inhabited

namespace Document

def int (n : Int) : Document := .number (.ofInt n)

def nat (n : Nat) : Document := .int n

/-- A record whose keys may fail to be text; one such key and nothing can be read from it. -/
def ofFields (fields : List (Option String × Document)) : Document :=
  match fields.mapM (fun f => f.1.map (fun key => (key, f.2))) with
  | some named => .record named
  | none => .skipOnly

theorem ofFields_some (fields : List (String × Document)) :
    ofFields (fields.map (fun f => (some f.1, f.2))) = .record fields := by
  have h : (fields.map (fun f => (some f.1, f.2))).mapM
      (fun f : Option String × Document => f.1.map (fun key => (key, f.2))) = some fields := by
    induction fields with
    | nil => rfl
    | cons f rest ih => simp [List.mapM_cons, ih]
  unfold ofFields
  rw [h]

end Document

end TelemetryGateway
