import TelemetryGateway.Document.Decoder
import TelemetryGateway.Text.Quoted

/-!
# Target descriptors

How to reach one device.  Two descriptors stand for the same target if they name the same addresses
in the same order and the same credentials; the request and the metadata may differ.

A descriptor can be shown in a log, with its password left out.
-/

namespace TelemetryGateway

structure Credentials where
  username : String
  password : String
deriving DecidableEq, Inhabited

/-- How to reach a target: its addresses in the order in which they are tried, and the name of the
request template to subscribe with. -/
structure TargetDescriptor where
  addresses : List String
  credentials : Option Credentials := none
  request : String := ""
  metadata : Dictionary String := ∅
deriving DecidableEq, Inhabited

namespace Credentials

open FieldReader Document

def decode : Decoder Credentials := .record do
  let username ← required "username" .text
  let password ← required "password" .text
  return { username, password }

def encode (c : Credentials) : Document :=
  .record (field "username" (.text c.username) ++ field "password" (.text c.password))

/-- The credentials for a log, without the password. -/
def describe (c : Credentials) : String :=
  "Credentials \x7b username: " ++ Text.quote c.username ++ ", password: \"<redacted>\" \x7d"

end Credentials

namespace TargetDescriptor

open FieldReader Document

/-- Whether two descriptors stand for the same target. -/
def sameTarget (a b : TargetDescriptor) : Bool :=
  a.addresses == b.addresses && a.credentials == b.credentials

def decode : Decoder TargetDescriptor := .record do
  let addresses ← required "addresses" (.list .text)
  let credentials ← optional "credentials" Credentials.decode
  let request ← withDefault "request" "" .text
  let metadata ← withDefault "meta" ∅ (.dictionary .text)
  return { addresses, credentials, request, metadata }

def encode (d : TargetDescriptor) : Document :=
  .record (field "addresses" (ofList .text d.addresses) ++
    fieldIfSome "credentials" Credentials.encode d.credentials ++
    field "request" (.text d.request) ++ fieldUnless d.metadata.isEmpty "meta" (ofTexts d.metadata))

def describe (d : TargetDescriptor) : String :=
  let addresses := ", ".intercalate (d.addresses.map Text.quote)
  let credentials :=
    match d.credentials with
    | none => "None"
    | some c => "Some(" ++ c.describe ++ ")"
  let entries :=
    ", ".intercalate (d.metadata.entries.map fun e => Text.quote e.1 ++ ": " ++ Text.quote e.2)
  "TargetDescriptor \x7b addresses: [" ++ addresses ++ "], credentials: " ++ credentials ++
    ", request: " ++ Text.quote d.request ++ ", meta: \x7b" ++ entries ++ "\x7d \x7d"

end TargetDescriptor

end TelemetryGateway
