import TelemetryGateway.Config.Gateway
import TelemetryGateway.Log.Directive

/-!
# The log filter

Which records are logged.  A filter given from outside counts before the configured level; one that
cannot be read is passed over, and where neither can be read, everything from the level of
information on is logged.

A filter is a list of directives, separated by commas; it may have none.
-/

namespace TelemetryGateway

/-- Directives by how specific they are, the most specific first; those that match by target alone
are kept apart from those that look at spans and fields. -/
structure LogFilter where
  statics : List LogDirective
  dynamics : List LogDirective
deriving DecidableEq

namespace LogFilter

/-- The filter of some directives, of which a later one replaces an equally specific earlier one. -/
def ofDirectives (ds : List LogDirective) : LogFilter :=
  let dynamic := ds.filter LogDirective.isDynamic
  let static := ds.filter (fun d => !d.isDynamic)
  let statics := (static ++ dynamic).filterMap LogDirective.static?
  let sort (ds : List LogDirective) :=
    ds.foldl (fun sorted d => LogDirective.insertInto d sorted) []
  ⟨sort statics, sort dynamic⟩

def pieces : List Char → List (List Char)
  | [] => [[]]
  | c :: rest =>
      if c = ',' then [] :: pieces rest
      else
        match pieces rest with
        | [] => [[c]]
        | p :: ps => (c :: p) :: ps

/-- The filter that a text holds; pieces without text are passed over. -/
def parse? (text : String) : Option LogFilter :=
  (((pieces text.toList).filter (!·.isEmpty)).mapM LogDirective.parse?).map ofDirectives

def render (f : LogFilter) : String :=
  String.ofList ([','].intercalate ((f.statics ++ f.dynamics).map LogDirective.chars))

/-- The filter that only information and more important records pass. -/
def fallback : LogFilter := ⟨[{ level := .info }], []⟩

/-- The filter to log with: the one from outside if there is one that can be read, else the
configured one if it can be read. -/
def choose (config : LoggingConfig) (outside : Option String) : LogFilter :=
  ((outside.bind parse?).or (parse? config.level)).getD fallback

end LogFilter

end TelemetryGateway
