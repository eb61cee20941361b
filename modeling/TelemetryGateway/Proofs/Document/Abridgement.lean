import Mathlib.Data.List.Forall2
import TelemetryGateway.Proofs.Json.Spelling
import TelemetryGateway.Document.Decoder

/-!
# Documents with fields left out

A field of a record that holds its default need not be written.  A `Schema` says of which fields of
a document that is true, down to any depth; a document abridges another one if it is what remains
after some of these fields were left out (`Schema.Abridges`).  The entries of a dictionary are
fields of a record too, but none of them can be left out (`Schema.entries`).

* `Schema.abridges_list`, `Schema.abridges_record`: what remains of a list and of a record;
* `Schema.Abridges.isPlain`: what remains of a plain document is plain;
* `Schema.Omits.filter_cases`: what remains of the fields of one name.
-/

namespace TelemetryGateway

open Document

/-- Which fields of a document may be left out, and with what value. -/
inductive Schema where
  /-- Nothing may be left out. -/
  | whole
  /-- A list of items. -/
  | list (item : Schema)
  /-- A record: the documents that its fields hold by default, and what may be left out in each of
  its fields. -/
  | record (defaults : List (String × Document)) (parts : String → Schema)

namespace Schema

/-- A record none of whose fields may be left out: the entries of a dictionary, or the only field of
a record that names one of several kinds. -/
def entries (parts : String → Schema) : Schema := .record [] parts

/-- What remains of the fields of a record, in their order.  Each is kept, with a value that is
related to the one that was there, or it is left out, if it held its default. -/
inductive Omits (defaults : List (String × Document))
    (related : String → Document → Document → Prop) :
    List (String × Document) → List (String × Document) → Prop
  | nil : Omits defaults related [] []
  | kept {key : String} {full d : Document} {fields rest : List (String × Document)} :
      related key full d → Omits defaults related fields rest →
      Omits defaults related ((key, full) :: fields) ((key, d) :: rest)
  | omitted {key : String} {full : Document} {fields rest : List (String × Document)} :
      defaults.lookup key = some full → Omits defaults related fields rest →
      Omits defaults related ((key, full) :: fields) rest

/-- Whether the second document is the first one with some fields left out that hold their default,
at any depth.  A document of another form than the schema names has nothing to leave out. -/
def Abridges : Schema → Document → Document → Prop
  | .whole, full, d => d = full
  | .list item, full, d => d = full ∨
      ∃ items rest, full = .list items ∧ d = .list rest ∧ List.Forall₂ item.Abridges items rest
  | .record defaults parts, full, d => d = full ∨
      ∃ fields rest, full = .record fields ∧ d = .record rest ∧
        Omits defaults (fun key => (parts key).Abridges) fields rest

variable {s item : Schema} {parts : String → Schema} {defaults : List (String × Document)}
  {fields rest : List (String × Document)} {full d : Document} {key : String}

/-! ## What remains of a document -/

theorem Abridges.refl (s : Schema) (d : Document) : s.Abridges d d := by
  cases s with
  | whole => rfl
  | list | record => exact .inl rfl

theorem Omits.refl {related : String → Document → Document → Prop}
    (h : ∀ key d, related key d d) (fields : List (String × Document)) :
    Omits defaults related fields fields := by
  induction fields with
  | nil => exact .nil
  | cons f rest ih => exact .kept (h f.1 f.2) ih

theorem Abridges.eq_null (h : s.Abridges .null d) : d = .null := by
  cases s with
  | whole => exact h
  | list item =>
      rcases h with rfl | ⟨_, _, heq, -⟩
      · rfl
      · cases heq
  | record defaults parts =>
      rcases h with rfl | ⟨_, _, heq, -⟩
      · rfl
      · cases heq

theorem abridges_list {items : List Document} : (list item).Abridges (.list items) d ↔
    ∃ rest, d = .list rest ∧ List.Forall₂ item.Abridges items rest := by
  constructor
  · rintro (rfl | ⟨_, rest, heq, rfl, hrest⟩)
    · exact ⟨items, rfl, List.forall₂_same.mpr fun x _ => .refl item x⟩
    · cases heq
      exact ⟨rest, rfl, hrest⟩
  · rintro ⟨rest, rfl, hrest⟩
    exact .inr ⟨items, rest, rfl, rfl, hrest⟩

theorem abridges_record : (record defaults parts).Abridges (.record fields) d ↔
    ∃ rest, d = .record rest ∧ Omits defaults (fun key => (parts key).Abridges) fields rest := by
  constructor
  · rintro (rfl | ⟨_, rest, heq, rfl, hrest⟩)
    · exact ⟨fields, rfl, .refl (fun key d => .refl (parts key) d) fields⟩
    · cases heq
      exact ⟨rest, rfl, hrest⟩
  · rintro ⟨rest, rfl, hrest⟩
    exact .inr ⟨fields, rest, rfl, rfl, hrest⟩

/-- What remains of a record of plain fields is plain, if that holds of each field. -/
theorem Omits.havePlain {related : String → Document → Document → Prop}
    (hrelated : ∀ {key full d}, related key full d → full.IsPlain → d.IsPlain)
    (h : Omits defaults related fields rest) (hplain : HavePlain fields) : HavePlain rest := by
  induction h with
  | nil => exact hplain
  | kept hfield _ ih => exact ⟨hrelated hfield hplain.1, ih hplain.2⟩
  | omitted _ _ ih => exact ih hplain.2

theorem Abridges.isPlain (h : s.Abridges full d) (hplain : full.IsPlain) : d.IsPlain := by
  induction s generalizing full d with
  | whole => exact h ▸ hplain
  | list item ih =>
      rcases h with rfl | ⟨items, rest, rfl, rfl, hrest⟩
      · exact hplain
      rw [isPlain_list] at hplain ⊢
      induction hrest with
      | nil => exact hplain
      | cons hitem _ ih' => exact ⟨ih hitem hplain.1, ih' hplain.2⟩
  | record defaults parts ih =>
      rcases h with rfl | ⟨fields, rest, rfl, rfl, hrest⟩
      · exact hplain
      · exact hrest.havePlain (fun {key _ _} => ih key) hplain

/-! ## What remains of the fields of one name -/

theorem Omits.filter {related : String → Document → Document → Prop}
    (h : Omits defaults related fields rest) (key : String) :
    Omits defaults related (fields.filter (·.1 == key)) (rest.filter (·.1 == key)) := by
  induction h with
  | nil => exact .nil
  | @kept name full d fields rest hfield _ ih =>
      by_cases hname : name = key
      · simpa [hname] using .kept (hname ▸ hfield) ih
      · simpa [hname] using ih
  | @omitted name full fields rest hdefault _ ih =>
      by_cases hname : name = key
      · simpa [hname] using .omitted (hname ▸ hdefault) ih
      · simpa [hname] using ih

/-- A field that was there once is there once or left out. -/
theorem Omits.filter_cases {related : String → Document → Document → Prop}
    (h : Omits defaults related fields rest)
    (hfield : fields.filter (·.1 == key) = field key full) :
    (∃ d, rest.filter (·.1 == key) = [(key, d)] ∧ related key full d) ∨
      (rest.filter (·.1 == key) = [] ∧ defaults.lookup key = some full) := by
  have hfilter := h.filter key
  rw [hfield, field] at hfilter
  generalize rest.filter (·.1 == key) = found at hfilter
  cases hfilter with
  | kept hrelated hnil =>
      cases hnil
      exact .inl ⟨_, rfl, hrelated⟩
  | omitted hdefault hnil =>
      cases hnil
      exact .inr ⟨rfl, hdefault⟩

theorem Omits.filter_eq_nil {related : String → Document → Document → Prop}
    (h : Omits defaults related fields rest) (hfield : fields.filter (·.1 == key) = []) :
    rest.filter (·.1 == key) = [] := by
  have hfilter := h.filter key
  rw [hfield] at hfilter
  generalize rest.filter (·.1 == key) = found at hfilter ⊢
  cases hfilter
  rfl

end Schema

end TelemetryGateway
