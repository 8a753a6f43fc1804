import Conduit.Text.Quoted

/-!
Settings of a queue, and why a queue cannot be built from them.
-/

namespace Conduit

/-- A queue could not be built as asked. -/
inductive ConfigError
  | zeroCapacity
  /-- The initial contents did not fit. -/
  | tooManyElements (capacity : Nat)
  deriving DecidableEq, Repr

namespace ConfigError

def message : ConfigError → String
  | zeroCapacity => "queue capacity must be at least one"
  | tooManyElements capacity =>
    "initial contents exceed queue capacity of " ++ toString capacity

/-- The identifier of the cause in diagnostic output. -/
def identifier : ConfigError → String
  | zeroCapacity => "ZeroCapacity"
  | tooManyElements _ => "TooManyElements"

/-- The cause with its details. -/
def describe : ConfigError → String
  | zeroCapacity => "ZeroCapacity"
  | tooManyElements capacity =>
    "TooManyElements \x7b capacity: " ++ toString capacity ++ " \x7d"

end ConfigError

/-- How many elements a queue buffers at most, and the name it goes by in diagnostics. -/
structure Config where
  capacity : Nat := 1024
  label : Option String := none
  deriving DecidableEq, Repr

namespace Config

/-- Settings without a label. -/
def ofCapacity (capacity : Nat) : Config := { capacity }

def withLabel (config : Config) (label : String) : Config := { config with label := some label }

/-- Nothing can be buffered in no space at all. -/
def validate (config : Config) : Except ConfigError Unit :=
  if config.capacity = 0 then .error .zeroCapacity else .ok ()

/-- The settings in diagnostic output. -/
def describe (config : Config) : String :=
  "QueueConfig \x7b capacity: " ++ toString config.capacity
    ++ ", label: " ++ Text.quotedOption config.label ++ " \x7d"

end Config

end Conduit
