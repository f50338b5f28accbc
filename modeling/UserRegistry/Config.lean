import UserRegistry.Seed

/-!
# Configurations

What a configuration holds, its defaults, how it is read from the root table of
a configuration text, and the conditions on its values.
-/

namespace UserRegistry

/-- How a run logs; the values here are those of a text that does not set them. -/
structure Logging where
  level : String := "info"
  format : String := "json"
  console : Bool := false

/-- How many users the store is to have room for from the start. -/
structure Memory where
  userCapacity : Nat := 1024

/-- Everything a configuration text can set, with the defaults of what it does not. -/
structure Config where
  logging : Logging := {}
  memory : Memory := {}
  users : List Seed := []

/-- The largest capacity that a configuration may ask for. -/
def maxUserCapacity : Nat :=
  16777216

namespace Logging

def fields : List (Field Logging) :=
  [ { name := "level"
      read := fun value => do
        let text ← value.readString .toml
        .ok fun logging => { logging with level := text } },
    { name := "format"
      read := fun value => do
        let text ← value.readString .toml
        .ok fun logging => { logging with format := text } },
    { name := "console"
      read := fun value => do
        let console ← value.readBoolean .toml
        .ok fun logging => { logging with console := console } } ]

/-- Reads the logging of a configuration, from a table or from an array of its fields. -/
def read (value : Value) : Except ReadError Logging :=
  Field.readRecord "LoggingConfig" fields {} value

end Logging

namespace Memory

def fields : List (Field Memory) :=
  [ { name := "user_capacity"
      read := fun value => do
        let capacity ← value.readSize .toml
        .ok fun memory => { memory with userCapacity := capacity } } ]

/-- Reads the memory of a configuration, from a table or from an array of its field. -/
def read (value : Value) : Except ReadError Memory :=
  Field.readRecord "MemoryConfig" fields {} value

end Memory

namespace Config

/-- Reads the seeds, up to the first that is refused. -/
def readSeeds (value : Value) : Except ReadError (List Seed) := do
  let items ← value.readSequence .toml
  items.mapM (Seed.read .toml)

def fields : List (Field Config) :=
  [ { name := "logging"
      read := fun value => do
        let logging ← Logging.read value
        .ok fun config => { config with logging := logging } },
    { name := "memory"
      read := fun value => do
        let memory ← Memory.read value
        .ok fun config => { config with memory := memory } },
    { name := "users"
      read := fun value => do
        let users ← readSeeds value
        .ok fun config => { config with users := users } } ]

/-- Reads the root table.  What it does not set keeps its default. -/
def read (entries : Entries) : Except ReadError Config :=
  Field.readEntries fields {} entries

/-- A condition on values that does not hold. -/
inductive Fault where
  | level (text : String)
  | format (text : String)
  | noCapacity
  | excessiveCapacity (capacity : Nat)
  deriving DecidableEq

/-- The levels that a configuration may log at, in this spelling only. -/
def levels : List String :=
  ["trace", "debug", "info", "warn", "error"]

def formats : List String :=
  ["json", "console"]

/-- What the report of a run says about a condition that does not hold. -/
def Fault.message : Fault → String
  | .level text =>
    String.join ["Invalid log level '", text, "'. Must be one of: ", ", ".intercalate levels]
  | .format text =>
    String.join ["Invalid log format '", text, "'. Must be one of: ", ", ".intercalate formats]
  | .noCapacity => "user_capacity must be greater than 0"
  | .excessiveCapacity capacity =>
    String.join
      ["user_capacity (", shownNat capacity, ") must not exceed ", shownNat maxUserCapacity]

/-- The first condition that does not hold: on the level, the format and the
capacity, in this order. -/
def fault? (config : Config) : Option Fault :=
  if config.logging.level ∉ levels then some (.level config.logging.level)
  else if config.logging.format ∉ formats then some (.format config.logging.format)
  else if config.memory.userCapacity = 0 then some .noCapacity
  else if maxUserCapacity < config.memory.userCapacity then
    some (.excessiveCapacity config.memory.userCapacity)
  else none

end Config

end UserRegistry
