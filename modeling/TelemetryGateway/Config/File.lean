import TelemetryGateway.Config.Gateway
import TelemetryGateway.Json.Reader
import TelemetryGateway.Target.Configuration
import TelemetryGateway.Toml.Reader

/-!
# Configuration files

A configuration is read from a text and then checked for faults.  Gateway settings are always TOML;
a target configuration is JSON if its file has the extension `json` and TOML otherwise.
-/

namespace TelemetryGateway

/-- The text of a file from its bytes; `none` if there is no file or it is no UTF-8. -/
def fileText (bytes : Option ByteArray) : Option String := bytes.bind String.fromUTF8?

/-- The extension of a file name: what follows the last dot.  A dot at the beginning does not
count. -/
def fileExtension? (name : String) : Option String :=
  let reversed := name.toList.reverse
  let stem := reversed.dropWhile (· != '.')
  if stem.length ≤ 1 || name == ".." then none
  else some (String.ofList (reversed.takeWhile (· != '.')).reverse)

namespace GatewayConfig

def ofToml (text : String) : Except GatewayError GatewayConfig :=
  match (Toml.read text).bind (decode .toml) with
  | none => .error .toml
  | some config => config.validate.map fun _ => config

def load (text : Option String) : Except GatewayError GatewayConfig :=
  match text with
  | none => .error (.io "the file cannot be read")
  | some text => ofToml text

end GatewayConfig

namespace TargetConfiguration

def load (name : String) (text : Option String) : Except GatewayError TargetConfiguration :=
  match text with
  | none => .error (.io "the file cannot be read")
  | some text => do
      let config ←
        if fileExtension? name = some "json" then
          ((Json.read text).bind (decode .json)).elim (.error .json) .ok
        else ((Toml.read text).bind (decode .toml)).elim (.error .toml) .ok
      config.validate
      return config

end TargetConfiguration

end TelemetryGateway
