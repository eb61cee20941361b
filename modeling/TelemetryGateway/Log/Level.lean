import TelemetryGateway.Numeral

/-!
# Log levels

How much is logged, from nothing to everything.  A level is given by its name in any case or by its
number.
-/

namespace TelemetryGateway

/-- The least important records that are still logged. -/
inductive LogLevel where
  | off
  | error
  | warn
  | info
  | debug
  | trace
deriving DecidableEq, Inhabited

namespace LogLevel

def name : LogLevel → String
  | .off => "off"
  | .error => "error"
  | .warn => "warn"
  | .info => "info"
  | .debug => "debug"
  | .trace => "trace"

/-- All levels, the one that logs least first. -/
def all : List LogLevel := [.off, .error, .warn, .info, .debug, .trace]

/-- The level that a text names; no text at all names the level of errors. -/
def parse? (text : List Char) : Option LogLevel :=
  match (Numeral.natural? text).bind (all[·]?) with
  | some level => some level
  | none =>
      if text.isEmpty then some .error
      else all.find? fun level => level.name.toList == text.map Char.toLower

end LogLevel

end TelemetryGateway
