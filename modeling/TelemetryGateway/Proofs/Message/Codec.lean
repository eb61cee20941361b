import TelemetryGateway.Message.Codec
import TelemetryGateway.Proofs.Document.Restoration

/-!
# Reading messages that were written

For every message type a schema, with the fields that have a default and the document of that
default, and the lemma that its decoder restores a value from the document that its encoder writes.
A field that the encoder never writes with its default is listed as well, so the tables show every
field that the decoder can do without.

A floating-point number is not found again by its digits alone, so values that carry one
(`TypedValue.hasDouble` and so on) are left out here.
-/

namespace TelemetryGateway

open FieldReader Schema

/-! ## Paths -/

namespace PathElem

/-- An element needs a name. -/
def schema : Schema :=
  .record [("key", .record [])] fun
    | "key" => .entries fun _ => .whole
    | _ => .whole

@[simp] theorem isPlain_encode (e : PathElem) : e.encode.IsPlain := by simp [encode]

theorem restores (e : PathElem) : schema.Restores decode e.encode e := by
  refine restores_record fun c rest h => ?_
  have hname : (required "name" .text).Finds c rest e.name :=
    h.finds_required (by simp) rfl (restores_text e.name)
  have hkey : (withDefault "key" ∅ (.dictionary .text)).Finds c rest e.key :=
    h.finds_unless (by simp) Dictionary.eq_empty_of_isEmpty rfl (fun _ => rfl)
      (restores_texts e.key)
  exact hname.bind (hkey.bind (finds_pure e))

end PathElem

namespace Path

/-- Every field of a path has a default. -/
def schema : Schema :=
  .record [("origin", .text ""), ("elem", .list []), ("target", .text "")] fun
    | "elem" => .list PathElem.schema
    | _ => .whole

@[simp] theorem isPlain_encode (p : Path) : p.encode.IsPlain := by simp [encode]

theorem restores (p : Path) : schema.Restores decode p.encode p := by
  refine restores_record fun c rest h => ?_
  have horigin : (withDefault "origin" "" .text).Finds c rest p.origin :=
    h.finds_unless (by simp) String.isEmpty_iff.mp rfl (fun _ => rfl) (restores_text p.origin)
  have helem : (withDefault "elem" [] (.list PathElem.decode)).Finds c rest p.elem :=
    h.finds_withDefault (by simp) rfl (fun _ => rfl) (restores_list fun e _ => e.restores)
  have htarget : (withDefault "target" "" .text).Finds c rest p.target :=
    h.finds_unless (by simp) String.isEmpty_iff.mp rfl (fun _ => rfl) (restores_text p.target)
  exact horigin.bind (helem.bind (htarget.bind (finds_pure p)))

end Path

/-! ## Values and notifications -/

namespace TypedValue

/-- A value has one field, which names its kind. -/
def schema : Schema :=
  .entries fun
    | "bytes" => .list .whole
    | _ => .whole

/-- Whether a value is a floating-point number. -/
def hasDouble : TypedValue → Bool
  | .double _ => true
  | _ => false

theorem isPlain_encode {v : TypedValue} (h : v.hasDouble = false) : v.encode.IsPlain := by
  cases v with
  | double => cases h
  | _ => simp [encode]

theorem restores {v : TypedValue} (h : v.hasDouble = false) :
    schema.Restores decode v.encode v := by
  cases v with
  | text s => exact restores_variant rfl ((restores_text s).map TypedValue.text)
  | int n => exact restores_variant rfl ((restores_int64 n).map TypedValue.int)
  | uint n => exact restores_variant rfl ((restores_uint64 n).map TypedValue.uint)
  | bool b => exact restores_variant rfl ((restores_bool b).map TypedValue.bool)
  | double => cases h
  | bytes bs =>
      have hbytes : (Schema.list .whole).Restores (.list .uint8) _ bs :=
        restores_list fun b _ => restores_uint8 b
      exact restores_variant rfl (hbytes.map TypedValue.bytes)
  | json s => exact restores_variant rfl ((restores_text s).map TypedValue.json)

end TypedValue

namespace Update

/-- An update needs a path. -/
def schema : Schema :=
  .record [("val", .null), ("duplicates", .nat 0)] fun
    | "path" => Path.schema
    | "val" => TypedValue.schema
    | _ => .whole

/-- Whether the new value is a floating-point number. -/
def hasDouble (u : Update) : Bool := u.val.any TypedValue.hasDouble

theorem hasDouble_val {u : Update} (h : u.hasDouble = false) :
    ∀ v ∈ u.val, v.hasDouble = false :=
  (Option.any_eq_false _ _).mp h

theorem isPlain_encode {u : Update} (h : u.hasDouble = false) : u.encode.IsPlain := by
  have hval : ∀ v ∈ u.val, v.encode.IsPlain := fun v hv =>
    TypedValue.isPlain_encode (hasDouble_val h v hv)
  simpa [encode] using hval

theorem restores {u : Update} (h : u.hasDouble = false) : schema.Restores decode u.encode u := by
  refine restores_record fun c rest hrest => ?_
  have hpath : (required "path" Path.decode).Finds c rest u.path :=
    hrest.finds_required (by simp) rfl u.path.restores
  have hval : (optional "val" TypedValue.decode).Finds c rest u.val :=
    hrest.finds_optional (by simp) rfl (fun _ => rfl) fun v hv =>
      TypedValue.restores (hasDouble_val h v hv)
  have hduplicates : (withDefault "duplicates" 0 .uint32).Finds c rest u.duplicates :=
    hrest.finds_withDefault (by simp) rfl (fun _ => rfl) (restores_uint32 u.duplicates)
  exact hpath.bind (hval.bind (hduplicates.bind (finds_pure u)))

end Update

namespace Notification

/-- Every field of a notification has a default. -/
def schema : Schema :=
  .record
    [("timestamp", .int 0), ("prefix", .null), ("update", .list []), ("delete", .list []),
      ("atomic", .bool false)] fun
    | "prefix" => Path.schema
    | "update" => .list Update.schema
    | "delete" => .list Path.schema
    | _ => .whole

/-- Whether some update carries a floating-point number. -/
def hasDouble (n : Notification) : Bool := n.update.any Update.hasDouble

theorem hasDouble_update {n : Notification} (h : n.hasDouble = false) :
    ∀ u ∈ n.update, u.hasDouble = false := by
  simpa [hasDouble] using h

theorem isPlain_encode {n : Notification} (h : n.hasDouble = false) : n.encode.IsPlain := by
  have hupdate : ∀ u ∈ n.update, u.encode.IsPlain := fun u hu =>
    Update.isPlain_encode (hasDouble_update h u hu)
  simpa [encode] using hupdate

theorem restores {n : Notification} (h : n.hasDouble = false) :
    schema.Restores decode n.encode n := by
  refine restores_record fun c rest hrest => ?_
  have htimestamp : (withDefault "timestamp" 0 .int64).Finds c rest n.timestamp :=
    hrest.finds_withDefault (by simp) rfl (fun _ => rfl) (restores_int64 n.timestamp)
  have hbase : (optional "prefix" Path.decode).Finds c rest n.prefixPath :=
    hrest.finds_optional (by simp) rfl (fun _ => rfl) fun p _ => p.restores
  have hupdate : (withDefault "update" [] (.list Update.decode)).Finds c rest n.update :=
    hrest.finds_withDefault (by simp) rfl (fun _ => rfl) <|
      restores_list fun u hu => Update.restores (hasDouble_update h u hu)
  have hdelete : (withDefault "delete" [] (.list Path.decode)).Finds c rest n.delete :=
    hrest.finds_withDefault (by simp) rfl (fun _ => rfl) (restores_list fun p _ => p.restores)
  have hatomic : (withDefault "atomic" false .bool).Finds c rest n.atomic :=
    hrest.finds_withDefault (by simp) rfl (fun _ => rfl) (restores_bool n.atomic)
  exact htimestamp.bind (hbase.bind (hupdate.bind (hdelete.bind (hatomic.bind (finds_pure n)))))

end Notification

/-! ## Responses -/

namespace ErrorMessage

/-- Both fields of an error have a default. -/
def schema : Schema := .record [("code", .nat 0), ("message", .text "")] fun _ => .whole

@[simp] theorem isPlain_encode (e : ErrorMessage) : e.encode.IsPlain := by simp [encode]

theorem restores (e : ErrorMessage) : schema.Restores decode e.encode e := by
  refine restores_record fun c rest h => ?_
  have hcode : (withDefault "code" 0 .uint32).Finds c rest e.code :=
    h.finds_withDefault (by simp) rfl (fun _ => rfl) (restores_uint32 e.code)
  have hmessage : (withDefault "message" "" .text).Finds c rest e.message :=
    h.finds_withDefault (by simp) rfl (fun _ => rfl) (restores_text e.message)
  exact hcode.bind (hmessage.bind (finds_pure e))

end ErrorMessage

namespace Response

/-- The content of a response has one field, which names its kind. -/
def schema : Schema :=
  .entries fun
    | "update" => Notification.schema
    | "error" => ErrorMessage.schema
    | _ => .whole

/-- Whether the content is a notification that carries a floating-point number. -/
def hasDouble : Response → Bool
  | .update n => n.hasDouble
  | .sync _ | .error _ => false

theorem isPlain_encode {r : Response} (h : r.hasDouble = false) : r.encode.IsPlain := by
  cases r with
  | update n => simpa [encode] using Notification.isPlain_encode h
  | sync b => simp [encode]
  | error e => simp [encode]

theorem restores {r : Response} (h : r.hasDouble = false) :
    schema.Restores decode r.encode r := by
  cases r with
  | update n => exact restores_variant rfl ((Notification.restores h).map Response.update)
  | sync b => exact restores_variant rfl ((restores_bool b).map Response.sync)
  | error e => exact restores_variant rfl (e.restores.map Response.error)

end Response

namespace SubscribeResponse

/-- A response may be without content. -/
def schema : Schema :=
  .record [("response", .null)] fun
    | "response" => Response.schema
    | _ => .whole

/-- Whether the content carries a floating-point number. -/
def hasDouble (r : SubscribeResponse) : Bool := r.response.any Response.hasDouble

theorem hasDouble_response {r : SubscribeResponse} (h : r.hasDouble = false) :
    ∀ content ∈ r.response, content.hasDouble = false :=
  (Option.any_eq_false _ _).mp h

theorem isPlain_encode {r : SubscribeResponse} (h : r.hasDouble = false) : r.encode.IsPlain := by
  have hresponse : ∀ content ∈ r.response, content.encode.IsPlain := fun content hcontent =>
    Response.isPlain_encode (hasDouble_response h content hcontent)
  simpa [encode] using hresponse

theorem restores {r : SubscribeResponse} (h : r.hasDouble = false) :
    schema.Restores decode r.encode r := by
  refine restores_record fun c rest hrest => ?_
  have hresponse : (optional "response" Response.decode).Finds c rest r.response :=
    hrest.finds_optional (by simp) rfl (fun _ => rfl) fun content hcontent =>
      Response.restores (hasDouble_response h content hcontent)
  exact hresponse.bind (finds_pure r)

end SubscribeResponse

/-! ## Requests -/

namespace ListMode

@[simp] theorem isPlain_encode (m : ListMode) : m.encode.IsPlain := trivial

theorem restores (m : ListMode) : Schema.whole.Restores decode m.encode m := by
  cases m <;> exact restores_choice rfl

end ListMode

namespace SubscriptionMode

@[simp] theorem isPlain_encode (m : SubscriptionMode) : m.encode.IsPlain := trivial

theorem restores (m : SubscriptionMode) : Schema.whole.Restores decode m.encode m := by
  cases m <;> exact restores_choice rfl

end SubscriptionMode

namespace Encoding

@[simp] theorem isPlain_encode (e : Encoding) : e.encode.IsPlain := trivial

theorem restores (e : Encoding) : Schema.whole.Restores decode e.encode e := by
  cases e <;> exact restores_choice rfl

end Encoding

namespace Subscription

/-- A subscription needs a path. -/
def schema : Schema :=
  .record
    [("mode", .text "target_defined"), ("sample_interval", .nat 0),
      ("suppress_redundant", .bool false), ("heartbeat_interval", .nat 0)] fun
    | "path" => Path.schema
    | _ => .whole

@[simp] theorem isPlain_encode (s : Subscription) : s.encode.IsPlain := by simp [encode]

theorem restores (s : Subscription) : schema.Restores decode s.encode s := by
  refine restores_record fun c rest h => ?_
  have hpath : (required "path" Path.decode).Finds c rest s.path :=
    h.finds_required (by simp) rfl s.path.restores
  have hmode : (withDefault "mode" .targetDefined SubscriptionMode.decode).Finds c rest s.mode :=
    h.finds_withDefault (by simp) rfl (fun _ => rfl) s.mode.restores
  have hsample : (withDefault "sample_interval" 0 .uint64).Finds c rest s.sampleInterval :=
    h.finds_withDefault (by simp) rfl (fun _ => rfl) (restores_uint64 s.sampleInterval)
  have hsuppress : (withDefault "suppress_redundant" false .bool).Finds c rest
      s.suppressRedundant :=
    h.finds_withDefault (by simp) rfl (fun _ => rfl) (restores_bool s.suppressRedundant)
  have hheartbeat : (withDefault "heartbeat_interval" 0 .uint64).Finds c rest
      s.heartbeatInterval :=
    h.finds_withDefault (by simp) rfl (fun _ => rfl) (restores_uint64 s.heartbeatInterval)
  exact hpath.bind (hmode.bind (hsample.bind (hsuppress.bind (hheartbeat.bind (finds_pure s)))))

end Subscription

namespace SubscriptionList

/-- Every field of a subscription list has a default. -/
def schema : Schema :=
  .record
    [("prefix", .null), ("subscription", .list []), ("mode", .text "stream"),
      ("encoding", .text "json"), ("updates_only", .bool false)] fun
    | "prefix" => Path.schema
    | "subscription" => .list Subscription.schema
    | _ => .whole

@[simp] theorem isPlain_encode (l : SubscriptionList) : l.encode.IsPlain := by simp [encode]

theorem restores (l : SubscriptionList) : schema.Restores decode l.encode l := by
  refine restores_record fun c rest h => ?_
  have hbase : (optional "prefix" Path.decode).Finds c rest l.prefixPath :=
    h.finds_optional (by simp) rfl (fun _ => rfl) fun p _ => p.restores
  have hsubscription : (withDefault "subscription" [] (.list Subscription.decode)).Finds c rest
      l.subscription :=
    h.finds_withDefault (by simp) rfl (fun _ => rfl) (restores_list fun s _ => s.restores)
  have hmode : (withDefault "mode" .stream ListMode.decode).Finds c rest l.mode :=
    h.finds_withDefault (by simp) rfl (fun _ => rfl) l.mode.restores
  have hencoding : (withDefault "encoding" .json Encoding.decode).Finds c rest l.encoding :=
    h.finds_withDefault (by simp) rfl (fun _ => rfl) l.encoding.restores
  have hupdates : (withDefault "updates_only" false .bool).Finds c rest l.updatesOnly :=
    h.finds_withDefault (by simp) rfl (fun _ => rfl) (restores_bool l.updatesOnly)
  exact hbase.bind
    (hsubscription.bind (hmode.bind (hencoding.bind (hupdates.bind (finds_pure l)))))

end SubscriptionList

namespace SubscribeRequest

/-- A request may be without a subscription list. -/
def schema : Schema :=
  .record [("subscribe", .null)] fun
    | "subscribe" => SubscriptionList.schema
    | _ => .whole

@[simp] theorem isPlain_encode (r : SubscribeRequest) : r.encode.IsPlain := by simp [encode]

theorem restores (r : SubscribeRequest) : schema.Restores decode r.encode r := by
  refine restores_record fun c rest h => ?_
  have hsubscribe : (optional "subscribe" SubscriptionList.decode).Finds c rest r.subscribe :=
    h.finds_optional (by simp) rfl (fun _ => rfl) fun l _ => l.restores
  exact hsubscribe.bind (finds_pure r)

end SubscribeRequest

end TelemetryGateway
