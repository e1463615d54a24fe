import Gateway.ByteSize
import Gateway.Error

/-!
Configured sizes. A route without a limit for captured bodies, or with a blank one, has the standard
limit.
-/

namespace Gateway

def configuredSize (text : String) : Except ConfigError Nat :=
  match ByteSize.read text with
  | .ok size => .ok size
  | .error fault => .error (.invalidSize text fault.message)

namespace BodyLimit

/-- The limit of an endpoint that is made without any. -/
def standard : Nat := 64 * 1024 * 1024

/-- How a route that configures no limit is taken to configure one. -/
def standardText : String := "64MiB"

def parse : Option String → Except ConfigError Nat
  | none => configuredSize standardText
  | some text =>
      if Text.isBlankText text then configuredSize standardText else configuredSize text

end BodyLimit

end Gateway
