import TelemetryGateway.Proofs.Dictionary
import TelemetryGateway.Proofs.Document.Abridgement

/-!
# Reading what remains of a document

A decoder restores a value from a document if it finds the value in all abridgements of it
(`Schema.Restores`), in either document format.  The lemmas follow the decoders: for each way to
make one there is a lemma that says what the new decoder restores if its parts restore theirs.

A record is read field by field, and no field is taken away by that (`FieldReader.Finds`).  What is
read of one field is known from the fields of this name alone, so there is one lemma for each way in
which a field is written: always, unless it holds its default, or if there is a value.

* `Schema.restores_list`, `Schema.restores_dictionary`, `Schema.restores_variant`,
  `Schema.restores_record`: the decoders with parts;
* `Schema.Omits.finds_required`, `Schema.Omits.finds_withDefault`, `Schema.Omits.finds_unless`,
  `Schema.Omits.finds_optional`: the fields;
* `Schema.Restores.readsBack`: what is restored from a plain document is read back from its text.
-/

namespace TelemetryGateway

open Document

variable {α β : Type} {c : Convention}

/-! ## Numbers -/

namespace Decoder

theorem natBelow_nat {n bound : Nat} (h : n < bound) : natBelow bound c (.nat n) = some n := by
  simp [natBelow, int, Document.nat, Document.int, h]

theorem uint8_nat (x : UInt8) : uint8 c (.nat x.toNat) = some x := by
  rw [uint8, natBelow_nat x.toNat_lt, Option.map_some, UInt8.ofNat_toNat]

theorem uint32_nat (x : UInt32) : uint32 c (.nat x.toNat) = some x := by
  rw [uint32, natBelow_nat x.toNat_lt, Option.map_some, UInt32.ofNat_toNat]

theorem uint64_nat (x : UInt64) : uint64 c (.nat x.toNat) = some x := by
  rw [uint64, natBelow_nat x.toNat_lt, Option.map_some, UInt64.ofNat_toNat]

theorem int64_int (x : Int64) : int64 c (.int x.toInt) = some x := by
  have hint : int c (.int x.toInt) = some x.toInt := Numeral.toInt?_ofInt x.toInt
  have hrange : -Int.pow 2 63 ≤ x.toInt ∧ x.toInt < Int.pow 2 63 := ⟨x.le_toInt, x.toInt_lt⟩
  rw [int64, hint, Option.bind_eq_bind, Option.bind_some, if_pos hrange, Int64.ofInt_toInt]

end Decoder

/-! ## Fields -/

namespace FieldReader

/-- Whether a value is read from the fields of a record by name; they are all there afterwards. -/
def Finds (reader : FieldReader α) (c : Convention) (fields : List (String × Document)) (a : α) :
    Prop := reader c (.named fields) = some (a, .named fields)

variable {fields : List (String × Document)} {key : String} {decoder : Decoder α} {a default : α}
  {d : Document}

theorem Finds.bind {reader : FieldReader α} {next : α → FieldReader β} {b : β}
    (h : reader.Finds c fields a) (hnext : (next a).Finds c fields b) :
    (reader >>= next).Finds c fields b := by
  have hbind : (reader >>= next) c (.named fields) =
      (reader c (.named fields)).bind fun r => next r.1 c r.2 := rfl
  rw [Finds, hbind, h, Option.bind_some]
  exact hnext

theorem finds_pure (a : α) : (pure a : FieldReader α).Finds c fields a := rfl

theorem finds_document_of_nil (h : fields.filter (·.1 == key) = []) :
    (document key).Finds c fields none := by
  show Fields.take key (.named fields) = _
  rw [Fields.take, h]

theorem finds_document_of_singleton (h : fields.filter (·.1 == key) = [(key, d)]) :
    (document key).Finds c fields (some d) := by
  show Fields.take key (.named fields) = _
  rw [Fields.take, h]

theorem finds_decode (h : decoder c d = some a) : (decode decoder d).Finds c fields a := by
  show (decoder c d).map (·, Fields.named fields) = _
  rw [h, Option.map_some]

theorem finds_required (h : fields.filter (·.1 == key) = [(key, d)])
    (hdecode : decoder c d = some a) : (required key decoder).Finds c fields a :=
  (finds_document_of_singleton h).bind (finds_decode hdecode)

theorem finds_withDefault_of_nil (h : fields.filter (·.1 == key) = []) :
    (withDefault key default decoder).Finds c fields default :=
  (finds_document_of_nil h).bind (finds_pure default)

theorem finds_withDefault_of_singleton (h : fields.filter (·.1 == key) = [(key, d)])
    (hdecode : decoder c d = some a) : (withDefault key default decoder).Finds c fields a :=
  (finds_document_of_singleton h).bind (finds_decode hdecode)

end FieldReader

namespace Schema

open FieldReader

/-- Whether a decoder finds a value in all that can remain of a document. -/
def Restores (s : Schema) (decoder : Decoder α) (full : Document) (a : α) : Prop :=
  ∀ c d, s.Abridges full d → decoder c d = some a

variable {s item : Schema} {parts : String → Schema} {defaults : List (String × Document)}
  {fields rest : List (String × Document)} {full : Document} {key : String}
  {decoder : Decoder α} {a default : α} {encode : α → Document}

theorem Restores.decode (h : s.Restores decoder full a) : decoder c full = some a :=
  h c full (.refl s full)

/-! ## Decoders without parts -/

theorem restores_whole (h : ∀ c, decoder c full = some a) : whole.Restores decoder full a := by
  rintro c d rfl
  exact h c

theorem restores_text (t : String) : whole.Restores .text (.text t) t :=
  restores_whole fun _ => rfl

theorem restores_bool (b : Bool) : whole.Restores .bool (.bool b) b :=
  restores_whole fun _ => rfl

theorem restores_uint8 (x : UInt8) : whole.Restores .uint8 (.nat x.toNat) x :=
  restores_whole fun _ => Decoder.uint8_nat x

theorem restores_uint32 (x : UInt32) : whole.Restores .uint32 (.nat x.toNat) x :=
  restores_whole fun _ => Decoder.uint32_nat x

theorem restores_uint64 (x : UInt64) : whole.Restores .uint64 (.nat x.toNat) x :=
  restores_whole fun _ => Decoder.uint64_nat x

theorem restores_int64 (x : Int64) : whole.Restores .int64 (.int x.toInt) x :=
  restores_whole fun _ => Decoder.int64_int x

theorem restores_choice {names : List (String × α)} {name : String}
    (h : names.lookup name = some a) : whole.Restores (.choice names) (.text name) a :=
  restores_whole fun _ => h

/-! ## Decoders with parts -/

theorem Restores.map (h : s.Restores decoder full a) (f : α → β) :
    s.Restores (fun c d => (decoder c d).map f) full (f a) := by
  intro c d hd
  show (decoder c d).map f = some (f a)
  rw [h c d hd, Option.map_some]

theorem Restores.orNull (h : s.Restores decoder full a) (hnull : ∀ c, decoder c .null = none) :
    s.Restores (orNull decoder) full (some a) := by
  intro c d hd
  have hdecode : decoder c d = some a := h c d hd
  cases d with
  | null => rw [hnull] at hdecode; cases hdecode
  | _ => exact congrArg (Option.map some) hdecode

/-- A value that is written as `null` where it is absent. -/
theorem restores_orNull {value : Option α} (hnull : ∀ c, decoder c .null = none)
    (h : ∀ a ∈ value, s.Restores decoder (encode a) a) :
    s.Restores (FieldReader.orNull decoder) (value.elim .null encode) value := by
  cases value with
  | none =>
      intro c d hd
      rw [hd.eq_null]
      rfl
  | some a => exact (h a rfl).orNull hnull

theorem restores_list {items : List α} (h : ∀ a ∈ items, item.Restores decoder (encode a) a) :
    (list item).Restores (.list decoder) (ofList encode items) items := by
  intro c d hd
  obtain ⟨rest, rfl, hrest⟩ := abridges_list.mp hd
  clear hd
  show rest.mapM (decoder c) = some items
  induction items generalizing rest with
  | nil =>
      cases hrest
      rfl
  | cons a items ih =>
      obtain ⟨ha, hitems⟩ := List.forall_mem_cons.mp h
      cases hrest with
      | cons hfirst hrest =>
          rw [List.mapM_cons, ha c _ hfirst, ih hitems _ hrest]
          rfl

theorem restores_dictionary {entries : Dictionary α}
    (h : ∀ e ∈ entries.entries, s.Restores decoder (encode e.2) e.2) :
    (Schema.entries fun _ => s).Restores (.dictionary decoder) (ofDictionary encode entries)
      entries := by
  intro c d hd
  obtain ⟨rest, rfl, hrest⟩ := abridges_record.mp hd
  have hread : rest.mapM (fun f => (decoder c f.2).map (f.1, ·)) = some entries.entries := by
    clear hd
    generalize entries.entries = l at h hrest
    induction l generalizing rest with
    | nil =>
        cases hrest
        rfl
    | cons e l ih =>
        obtain ⟨he, hl⟩ := List.forall_mem_cons.mp h
        cases hrest with
        | kept hfirst hrest =>
            rw [List.mapM_cons, he c _ hfirst, ih _ hl hrest]
            rfl
        | omitted hdefault _ => cases hdefault
  show (rest.mapM (fun f => (decoder c f.2).map (f.1, ·))).map Dictionary.ofList = some entries
  rw [hread, Option.map_some, Dictionary.ofList_entries]

theorem restores_texts (entries : Dictionary String) :
    (Schema.entries fun _ => whole).Restores (.dictionary .text) (ofTexts entries) entries :=
  restores_dictionary fun e _ => restores_text e.2

theorem restores_variant {kinds : List (String × Decoder α)}
    (hkind : kinds.lookup key = some decoder) (h : (parts key).Restores decoder full a) :
    (Schema.entries parts).Restores (.variant kinds) (.record (field key full)) a := by
  intro c d hd
  obtain ⟨rest, rfl, hrest⟩ := abridges_record.mp hd
  cases hrest with
  | kept hfield hnil =>
      cases hnil
      show (kinds.lookup key).bind (fun decoder => decoder c _) = some a
      rw [hkind, Option.bind_some, h c _ hfield]
  | omitted hdefault _ => cases hdefault

theorem restores_record {reader : FieldReader α}
    (h : ∀ c rest, Omits defaults (fun key => (parts key).Abridges) fields rest →
      reader.Finds c rest a) :
    (record defaults parts).Restores (.record reader) (.record fields) a := by
  intro c d hd
  obtain ⟨rest, rfl, hrest⟩ := abridges_record.mp hd
  have hfinds : reader c (.named rest) = some (a, .named rest) := h c rest hrest
  show (reader c (.named rest)).bind (fun r => if r.2.isDone c then some r.1 else none) = some a
  rw [hfinds]
  rfl

/-! ## The fields of a record -/

@[simp] theorem filter_field {name : String} :
    (field name full).filter (·.1 == key) = if name = key then field name full else [] := by
  by_cases h : name = key <;> simp [field, h]

@[simp] theorem filter_fieldUnless {isDefault : Bool} {name : String} :
    (fieldUnless isDefault name full).filter (·.1 == key) =
      if name = key then fieldUnless isDefault name full else [] := by
  cases isDefault with
  | true => simp [fieldUnless]
  | false => exact filter_field

@[simp] theorem filter_fieldIfSome {value : Option α} {name : String} :
    (fieldIfSome name encode value).filter (·.1 == key) =
      if name = key then fieldIfSome name encode value else [] := by
  cases value with
  | none => simp [fieldIfSome]
  | some a => exact filter_field

namespace Omits

variable (h : Omits defaults (fun key => (parts key).Abridges) fields rest)

include h

theorem finds_required (hfield : fields.filter (·.1 == key) = field key full)
    (hdefault : defaults.lookup key = none) (hfull : (parts key).Restores decoder full a) :
    (required key decoder).Finds c rest a := by
  rcases h.filter_cases hfield with ⟨d, hrest, hd⟩ | ⟨-, homitted⟩
  · exact FieldReader.finds_required hrest (hfull c d hd)
  · rw [hdefault] at homitted
    cases homitted

/-- A field that is left out held the document of its default, from which the same value is read. -/
theorem finds_withDefault {written : Document}
    (hfield : fields.filter (·.1 == key) = field key full)
    (hdefault : defaults.lookup key = some written)
    (hwritten : ∀ c, decoder c written = some default)
    (hfull : (parts key).Restores decoder full a) :
    (withDefault key default decoder).Finds c rest a := by
  rcases h.filter_cases hfield with ⟨d, hrest, hd⟩ | ⟨hrest, homitted⟩
  · exact finds_withDefault_of_singleton hrest (hfull c d hd)
  · have hsame : written = full := Option.some.inj (hdefault.symm.trans homitted)
    have hvalue : some default = some a := by
      rw [← hwritten c, hsame]
      exact hfull.decode
    cases hvalue
    exact finds_withDefault_of_nil hrest

theorem finds_unless {written : Document} {isDefault : Bool}
    (hfield : fields.filter (·.1 == key) = fieldUnless isDefault key full)
    (hvalue : isDefault = true → a = default)
    (hdefault : defaults.lookup key = some written)
    (hwritten : ∀ c, decoder c written = some default)
    (hfull : (parts key).Restores decoder full a) :
    (withDefault key default decoder).Finds c rest a := by
  cases isDefault with
  | true =>
      rw [hvalue rfl]
      exact finds_withDefault_of_nil (h.filter_eq_nil hfield)
  | false => exact h.finds_withDefault hfield hdefault hwritten hfull

theorem finds_optional {value : Option α}
    (hfield : fields.filter (·.1 == key) = fieldIfSome key encode value)
    (hdefault : defaults.lookup key = some .null) (hnull : ∀ c, decoder c .null = none)
    (hfull : ∀ a ∈ value, (parts key).Restores decoder (encode a) a) :
    (optional key decoder).Finds c rest value := by
  cases value with
  | none => exact finds_withDefault_of_nil (h.filter_eq_nil hfield)
  | some a =>
      exact h.finds_withDefault hfield hdefault (fun _ => rfl) ((hfull a rfl).orNull hnull)

end Omits

/-! ## Reading a text -/

/-- Whether a value is read from the text of a document without white space, and from the text of
every document that remains of it. -/
structure ReadsBack (s : Schema) (decoder : Decoder α) (full : Document) (a : α) : Prop where
  whole : (Json.read (Json.render full)).bind (decoder .json) = some a
  abridged (d : Document) : s.Abridges full d →
    (Json.read (Json.render d)).bind (decoder .json) = some a

theorem Restores.readsBack (h : s.Restores decoder full a) (hplain : full.IsPlain) :
    s.ReadsBack decoder full a := by
  have habridged : ∀ d, s.Abridges full d →
      (Json.read (Json.render d)).bind (decoder .json) = some a := by
    intro d hd
    rw [Json.read_render (hd.isPlain hplain), Option.bind_some, h .json d hd]
  exact ⟨habridged full (.refl s full), habridged⟩

end Schema

/-! ## What is written is plain -/

namespace Document

variable {key : String} {value : Document} {encode : α → Document}

attribute [simp] isPlain_int isPlain_nat isPlain_record

@[simp] theorem isPlain_text (t : String) : (text t).IsPlain := trivial

@[simp] theorem isPlain_bool (b : Bool) : (bool b).IsPlain := trivial

@[simp] theorem isPlain_ofList {items : List α} :
    (ofList encode items).IsPlain ↔ ∀ a ∈ items, (encode a).IsPlain := by
  rw [ofList, isPlain_list, arePlain_iff]
  exact List.forall_mem_map

@[simp] theorem isPlain_ofDictionary {entries : Dictionary α} :
    (ofDictionary encode entries).IsPlain ↔ ∀ e ∈ entries.entries, (encode e.2).IsPlain := by
  rw [ofDictionary, isPlain_record, havePlain_iff]
  exact List.forall_mem_map

@[simp] theorem isPlain_ofTexts (entries : Dictionary String) : (ofTexts entries).IsPlain :=
  isPlain_ofDictionary.mpr fun e _ => isPlain_text e.2

@[simp] theorem havePlain_append {fields more : List (String × Document)} :
    HavePlain (fields ++ more) ↔ HavePlain fields ∧ HavePlain more := by
  simp only [havePlain_iff, List.forall_mem_append]

@[simp] theorem havePlain_field : HavePlain (field key value) ↔ value.IsPlain := by
  rw [havePlain_iff]
  exact List.forall_mem_singleton

@[simp] theorem havePlain_fieldUnless {isDefault : Bool} :
    HavePlain (fieldUnless isDefault key value) ↔ (isDefault = false → value.IsPlain) := by
  cases isDefault with
  | true => simp [fieldUnless, HavePlain]
  | false =>
      show HavePlain (field key value) ↔ _
      simp

@[simp] theorem havePlain_fieldIfSome {value : Option α} :
    HavePlain (fieldIfSome key encode value) ↔ ∀ a ∈ value, (encode a).IsPlain := by
  cases value with
  | none => simp [fieldIfSome, HavePlain]
  | some a =>
      show HavePlain (field key (encode a)) ↔ _
      simp

end Document

end TelemetryGateway
