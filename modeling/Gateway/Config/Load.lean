import Gateway.Config.Blocks
import Gateway.Yaml.Document

/-!
Loading a configuration from the contents of a file.
-/

namespace Gateway.Config

/-- Reads a file that holds one document of a kind. The contents are missing if the file cannot be
read. -/
def load {Value : Type} (read : Reader Value) (contents : Option Bytes) :
    Except ConfigError Value :=
  match contents.bind Utf8.decode? with
  | none => .error .unreadable
  | some text =>
      if Text.isBlankText text then .error .emptyFile
      else
        match (Yaml.parse? text).bind fun node => read (Tree.ofNode node) with
        | some value => .ok value
        | none => .error .parse

def loadRoute (contents : Option Bytes) : Except ConfigError RouteConfig := do
  let config ← load route contents
  config.validate
  .ok config

end Gateway.Config
