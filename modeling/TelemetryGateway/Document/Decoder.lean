import TelemetryGateway.Document
import TelemetryGateway.Dictionary

/-!
# Reading typed values from documents

A `Decoder` reads a value of one type from a document, or refuses it.  A record can be given in two
forms: by name, where unknown fields are ignored and a known one must not be repeated, or as a list
of its fields in their order, where those at the end may be left out if they have a default.

The two document formats differ in two details, which a `Convention` names: what may stand as the
content of a choice that has none, and whether a record given as a list may have items to spare.
-/

namespace TelemetryGateway

/-- The details in which the document formats differ. -/
structure Convention where
  /-- What may stand as the content of a choice without content. -/
  isNoContent : Document → Bool
  /-- Whether a record given as a list may have items to spare. -/
  allowsSpareItems : Bool

namespace Convention

/-- In JSON only `null` stands for no content, and every item of a list belongs to a field. -/
def json : Convention where
  isNoContent
    | .null => true
    | _ => false
  allowsSpareItems := false

/-- In TOML an empty table or array stands for no content, and spare items are ignored. -/
def toml : Convention where
  isNoContent
    | .record [] => true
    | .list [] => true
    | _ => false
  allowsSpareItems := true

end Convention

/-- A reader of values of one type; `none` refuses the document. -/
abbrev Decoder (α : Type) := Convention → Document → Option α

/-- The fields of a record in either form, as far as they are not read yet. -/
inductive Fields where
  | named (fields : List (String × Document))
  | listed (items : List Document)

namespace Fields

/-- The next field: the only one of this name, or the next item.  The result is `none` within `some`
if the field is missing, and `none` if it is repeated. -/
def take (key : String) : Fields → Option (Option Document × Fields)
  | .named fields =>
      match fields.filter (fun f => f.1 == key) with
      | [] => some (none, .named fields)
      | [f] => some (some f.2, .named fields)
      | _ => none
  | .listed [] => some (none, .listed [])
  | .listed (item :: rest) => some (some item, .listed rest)

/-- Whether the reading may end here. -/
def isDone (c : Convention) : Fields → Bool
  | .named _ => true
  | .listed items => items.isEmpty || c.allowsSpareItems

end Fields

/-- A reader of some fields of a record, which passes on those that are left. -/
abbrev FieldReader (α : Type) := ReaderT Convention (StateT Fields Option) α

namespace FieldReader

/-- Reads the document of one field, if the field is there. -/
def document (key : String) : FieldReader (Option Document) :=
  fun _ fields => fields.take key

def decode {α : Type} (decoder : Decoder α) (d : Document) : FieldReader α :=
  fun c fields => (decoder c d).map (·, fields)

def required {α : Type} (key : String) (decoder : Decoder α) : FieldReader α := do
  match ← document key with
  | some d => decode decoder d
  | none => failure

def withDefault {α : Type} (key : String) (default : α) (decoder : Decoder α) : FieldReader α := do
  match ← document key with
  | some d => decode decoder d
  | none => return default

/-- A value that can also be absent, as `null`. -/
def orNull {α : Type} (decoder : Decoder α) : Decoder (Option α) :=
  fun c d =>
    match d with
    | .null => some none
    | d => (decoder c d).map some

/-- A field that may be missing or absent. -/
def optional {α : Type} (key : String) (decoder : Decoder α) : FieldReader (Option α) :=
  withDefault key none (orNull decoder)

/-- A field that may be absent, and missing only where fields are given by name. -/
def optionalByName {α : Type} (key : String) (decoder : Decoder α) :
    FieldReader (Option α) := fun c fields =>
  match fields with
  | .named _ => optional key decoder c fields
  | .listed _ => required key (orNull decoder) c fields

end FieldReader

namespace Decoder

variable {α : Type}

def record (fields : FieldReader α) : Decoder α := fun c d =>
  let run (start : Fields) : Option α := do
    let (value, rest) ← fields c start
    if rest.isDone c then some value else none
  match d with
  | .record named => run (.named named)
  | .list items => run (.listed items)
  | _ => none

def text : Decoder String := fun _ d =>
  match d with
  | .text s => some s
  | _ => none

def bool : Decoder Bool := fun _ d =>
  match d with
  | .bool b => some b
  | _ => none

def int : Decoder Int := fun _ d =>
  match d with
  | .number n => n.toInt?
  | _ => none

def natBelow (bound : Nat) : Decoder Nat := fun c d => do
  let n ← int c d
  if 0 ≤ n ∧ n < bound then some n.toNat else none

def uint8 : Decoder UInt8 := fun c d => (natBelow UInt8.size c d).map UInt8.ofNat

def uint32 : Decoder UInt32 := fun c d => (natBelow UInt32.size c d).map UInt32.ofNat

def uint64 : Decoder UInt64 := fun c d => (natBelow UInt64.size c d).map UInt64.ofNat

def int64 : Decoder Int64 := fun c d => do
  let n ← int c d
  if -Int.pow 2 63 ≤ n ∧ n < Int.pow 2 63 then some (Int64.ofInt n) else none

/-- A floating-point number, for which integers are accepted too. -/
def double : Decoder Binary64 := fun _ d =>
  match d with
  | .number n => n.toBinary64?
  | .double x => some x
  | _ => none

def list (item : Decoder α) : Decoder (List α) := fun c d =>
  match d with
  | .list items => items.mapM (item c)
  | _ => none

/-- A dictionary; of several entries with one key the last one stays. -/
def dictionary (value : Decoder α) : Decoder (Dictionary α) := fun c d =>
  match d with
  | .record fields =>
      (fields.mapM (fun f => (value c f.2).map (f.1, ·))).map Dictionary.ofList
  | _ => none

/-- One of several names, given as a text or as the only field of a record without content. -/
def choice (names : List (String × α)) : Decoder α := fun c d =>
  match d with
  | .text s => names.lookup s
  | .record [(s, content)] => if c.isNoContent content then names.lookup s else none
  | _ => none

/-- One of several kinds of content, given as the only field of a record. -/
def variant (kinds : List (String × Decoder α)) : Decoder α := fun c d =>
  match d with
  | .record [(s, content)] => (kinds.lookup s).bind (fun decoder => decoder c content)
  | _ => none

end Decoder

/-! ## Writing records -/

namespace Document

def field (key : String) (value : Document) : List (String × Document) := [(key, value)]

def fieldUnless (omitted : Bool) (key : String) (value : Document) : List (String × Document) :=
  if omitted then [] else [(key, value)]

def fieldIfSome {α : Type} (key : String) (encode : α → Document) (value : Option α) :
    List (String × Document) :=
  match value with
  | some x => [(key, encode x)]
  | none => []

def ofDictionary {α : Type} (encode : α → Document) (d : Dictionary α) : Document :=
  .record (d.entries.map (fun e => (e.1, encode e.2)))

def ofList {α : Type} (encode : α → Document) (items : List α) : Document :=
  .list (items.map encode)

def ofTexts (d : Dictionary String) : Document := ofDictionary .text d

end Document

end TelemetryGateway
