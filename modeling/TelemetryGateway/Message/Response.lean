import TelemetryGateway.Message.Update

/-!
# Responses

What a device sends on a subscription: notifications, the mark that its first snapshot is complete,
and errors.
-/

namespace TelemetryGateway

/-- An error that a device reports in place of data. -/
structure ErrorMessage where
  code : UInt32 := 0
  message : String := ""
deriving DecidableEq, Inhabited

inductive Response where
  | update (notification : Notification)
  | sync (marker : Bool)
  | error (message : ErrorMessage)
deriving DecidableEq, Inhabited

/-- One message of a device; without content if the device sent something unknown. -/
structure SubscribeResponse where
  response : Option Response := none
deriving DecidableEq, Inhabited

namespace ErrorMessage

def render (e : ErrorMessage) : String := "code " ++ toString e.code.toNat ++ ": " ++ e.message

end ErrorMessage

namespace SubscribeResponse

def ofNotification (n : Notification) : SubscribeResponse := ⟨some (.update n)⟩

/-- The message that the first snapshot is complete. -/
def synced : SubscribeResponse := ⟨some (.sync true)⟩

def ofError (code : UInt32) (message : String) : SubscribeResponse :=
  ⟨some (.error { code, message })⟩

end SubscribeResponse

end TelemetryGateway
