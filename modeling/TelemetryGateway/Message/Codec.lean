import TelemetryGateway.Document.Decoder
import TelemetryGateway.Message.Response
import TelemetryGateway.Message.Request

/-!
# Messages as documents

For every message type a decoder and an encoder.  Fields with a default may be missing when they
are read; of those an absent prefix path, value or content, an empty origin or target and an empty
set of keys are left out when they are written.
-/

namespace TelemetryGateway

open FieldReader Document

namespace PathElem

def decode : Decoder PathElem := .record do
  let name ← required "name" .text
  let key ← withDefault "key" ∅ (.dictionary .text)
  return { name, key }

def encode (e : PathElem) : Document :=
  .record (field "name" (.text e.name) ++ fieldUnless e.key.isEmpty "key" (ofTexts e.key))

end PathElem

namespace Path

def decode : Decoder Path := .record do
  let origin ← withDefault "origin" "" .text
  let elem ← withDefault "elem" [] (.list PathElem.decode)
  let target ← withDefault "target" "" .text
  return { origin, elem, target }

def encode (p : Path) : Document :=
  .record (fieldUnless p.origin.isEmpty "origin" (.text p.origin) ++
    field "elem" (ofList PathElem.encode p.elem) ++
    fieldUnless p.target.isEmpty "target" (.text p.target))

end Path

namespace TypedValue

def decode : Decoder TypedValue := .variant
  [("string", fun c d => (Decoder.text c d).map .text),
    ("int", fun c d => (Decoder.int64 c d).map .int),
    ("uint", fun c d => (Decoder.uint64 c d).map .uint),
    ("bool", fun c d => (Decoder.bool c d).map .bool),
    ("double", fun c d => (Decoder.double c d).map .double),
    ("bytes", fun c d => (Decoder.list .uint8 c d).map .bytes),
    ("json", fun c d => (Decoder.text c d).map .json)]

def encode : TypedValue → Document
  | .text s => .record (field "string" (.text s))
  | .int n => .record (field "int" (.int n.toInt))
  | .uint n => .record (field "uint" (.nat n.toNat))
  | .bool b => .record (field "bool" (.bool b))
  | .double x => .record (field "double" (.double x))
  | .bytes bs => .record (field "bytes" (ofList (fun b => .nat b.toNat) bs))
  | .json s => .record (field "json" (.text s))

end TypedValue

namespace Update

def decode : Decoder Update := .record do
  let path ← required "path" Path.decode
  let val ← optional "val" TypedValue.decode
  let duplicates ← withDefault "duplicates" 0 .uint32
  return { path, val, duplicates }

def encode (u : Update) : Document :=
  .record (field "path" u.path.encode ++ fieldIfSome "val" TypedValue.encode u.val ++
    field "duplicates" (.nat u.duplicates.toNat))

end Update

namespace Notification

def decode : Decoder Notification := .record do
  let timestamp ← withDefault "timestamp" 0 .int64
  let prefixPath ← optional "prefix" Path.decode
  let update ← withDefault "update" [] (.list Update.decode)
  let delete ← withDefault "delete" [] (.list Path.decode)
  let atomic ← withDefault "atomic" false .bool
  return { timestamp, prefixPath, update, delete, atomic }

def encode (n : Notification) : Document :=
  .record (field "timestamp" (.int n.timestamp.toInt) ++
    fieldIfSome "prefix" Path.encode n.prefixPath ++
    field "update" (ofList Update.encode n.update) ++
    field "delete" (ofList Path.encode n.delete) ++
    field "atomic" (.bool n.atomic))

end Notification

namespace ErrorMessage

def decode : Decoder ErrorMessage := .record do
  let code ← withDefault "code" 0 .uint32
  let message ← withDefault "message" "" .text
  return { code, message }

def encode (e : ErrorMessage) : Document :=
  .record (field "code" (.nat e.code.toNat) ++ field "message" (.text e.message))

end ErrorMessage

namespace Response

def decode : Decoder Response := .variant
  [("update", fun c d => (Notification.decode c d).map .update),
    ("sync_response", fun c d => (Decoder.bool c d).map .sync),
    ("error", fun c d => (ErrorMessage.decode c d).map .error)]

def encode : Response → Document
  | .update n => .record (field "update" n.encode)
  | .sync b => .record (field "sync_response" (.bool b))
  | .error e => .record (field "error" e.encode)

end Response

namespace SubscribeResponse

def decode : Decoder SubscribeResponse := .record do
  let response ← optional "response" Response.decode
  return { response }

def encode (r : SubscribeResponse) : Document :=
  .record (fieldIfSome "response" Response.encode r.response)

end SubscribeResponse

namespace ListMode

def names : List (String × ListMode) := [("stream", .stream), ("once", .once), ("poll", .poll)]

def decode : Decoder ListMode := .choice names

def name : ListMode → String
  | .stream => "stream"
  | .once => "once"
  | .poll => "poll"

def encode (m : ListMode) : Document := .text m.name

end ListMode

namespace SubscriptionMode

def names : List (String × SubscriptionMode) :=
  [("target_defined", .targetDefined), ("on_change", .onChange), ("sample", .sample)]

def decode : Decoder SubscriptionMode := .choice names

def name : SubscriptionMode → String
  | .targetDefined => "target_defined"
  | .onChange => "on_change"
  | .sample => "sample"

def encode (m : SubscriptionMode) : Document := .text m.name

end SubscriptionMode

namespace Encoding

def names : List (String × Encoding) :=
  [("json", .json), ("bytes", .bytes), ("proto", .proto), ("ascii", .ascii),
    ("json_ietf", .jsonIetf)]

def decode : Decoder Encoding := .choice names

def name : Encoding → String
  | .json => "json"
  | .bytes => "bytes"
  | .proto => "proto"
  | .ascii => "ascii"
  | .jsonIetf => "json_ietf"

def encode (e : Encoding) : Document := .text e.name

end Encoding

namespace Subscription

def decode : Decoder Subscription := .record do
  let path ← required "path" Path.decode
  let mode ← withDefault "mode" .targetDefined SubscriptionMode.decode
  let sampleInterval ← withDefault "sample_interval" 0 .uint64
  let suppressRedundant ← withDefault "suppress_redundant" false .bool
  let heartbeatInterval ← withDefault "heartbeat_interval" 0 .uint64
  return { path, mode, sampleInterval, suppressRedundant, heartbeatInterval }

def encode (s : Subscription) : Document :=
  .record (field "path" s.path.encode ++ field "mode" s.mode.encode ++
    field "sample_interval" (.nat s.sampleInterval.toNat) ++
    field "suppress_redundant" (.bool s.suppressRedundant) ++
    field "heartbeat_interval" (.nat s.heartbeatInterval.toNat))

end Subscription

namespace SubscriptionList

def decode : Decoder SubscriptionList := .record do
  let prefixPath ← optional "prefix" Path.decode
  let subscription ← withDefault "subscription" [] (.list Subscription.decode)
  let mode ← withDefault "mode" .stream ListMode.decode
  let encoding ← withDefault "encoding" .json Encoding.decode
  let updatesOnly ← withDefault "updates_only" false .bool
  return { prefixPath, subscription, mode, encoding, updatesOnly }

def encode (l : SubscriptionList) : Document :=
  .record (fieldIfSome "prefix" Path.encode l.prefixPath ++
    field "subscription" (ofList Subscription.encode l.subscription) ++
    field "mode" l.mode.encode ++ field "encoding" l.encoding.encode ++
    field "updates_only" (.bool l.updatesOnly))

end SubscriptionList

namespace SubscribeRequest

def decode : Decoder SubscribeRequest := .record do
  let subscribe ← optional "subscribe" SubscriptionList.decode
  return { subscribe }

def encode (r : SubscribeRequest) : Document :=
  .record (fieldIfSome "subscribe" SubscriptionList.encode r.subscribe)

end SubscribeRequest

end TelemetryGateway
