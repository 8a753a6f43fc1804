import Conduit.Config.Basic
import Conduit.Json.Value

/-!
The JSON document of a queue's settings: an object with the capacity first. The members and
their order are those of the settings, and how they are written is assumed of the JSON library.
-/

namespace Conduit.Config

/-- The settings as a JSON object. -/
def toJson (config : Config) : Json.Value :=
  .obj
    [("capacity", .int config.capacity),
      ("label", match config.label with | none => .null | some label => .str label)]

/-- The settings as compact JSON text. -/
def document (config : Config) : String := config.toJson.text

end Conduit.Config
