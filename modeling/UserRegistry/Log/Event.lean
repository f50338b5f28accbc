import UserRegistry.Config
import UserRegistry.Store

/-!
# Events

What a run of the program tells about itself, each event with its severity, the
part of the program it comes from, its message and its fields.
-/

namespace UserRegistry.Log

/-- How severe an event is, from the most severe on. -/
inductive Severity where
  | error
  | warn
  | info
  | debug
  | trace
  deriving DecidableEq

/-- The place of a severity, from the most severe at 1; the verbosity at which
its events are first shown. -/
def Severity.verbosity : Severity → Nat
  | .error => 1
  | .warn => 2
  | .info => 3
  | .debug => 4
  | .trace => 5

def Severity.name : Severity → String
  | .error => "ERROR"
  | .warn => "WARN"
  | .info => "INFO"
  | .debug => "DEBUG"
  | .trace => "TRACE"

/-- What a run tells: that it starts, of each user as it is stored, and twice of all users
at the end, with the number of administrators. -/
inductive Event where
  | starting (path : String) (config : Config)
  | seeded (user : User)
  | populated (seeds users admins : Nat)
  | completed (users admins : Nat)

/-- What a field of an event tells: numbers are kept apart from texts in JSON. -/
inductive FieldValue where
  | number (value : Nat)
  | text (value : String)

def FieldValue.shown : FieldValue → String
  | .number value => shownNat value
  | .text value => value

def FieldValue.toJson : FieldValue → Json
  | .number value => .integer value
  | .text value => .string value

namespace Event

/-- Single users are of interest only when something is looked for. -/
def severity : Event → Severity
  | .seeded _ => .debug
  | _ => .info

/-- The part of the program that an event comes from. -/
def target : Event → String
  | .starting _ _ => "roster"
  | .completed _ _ => "roster"
  | .seeded _ => "roster::core::startup"
  | .populated _ _ _ => "roster::core::startup"

def message : Event → String
  | .starting _ _ => "roster starting"
  | .seeded _ => "Seeded user"
  | .populated _ _ _ => "User store populated from configuration"
  | .completed _ _ => "Startup complete"

/-- The fields of an event, in the order in which they are told. -/
def fields : Event → List (String × FieldValue)
  | .starting path config =>
    [ ("config_path", .text path),
      ("user_capacity", .number config.memory.userCapacity),
      ("seeds", .number config.users.length),
      ("log_level", .text config.logging.level),
      ("log_format", .text config.logging.format) ]
  | .seeded user => [("user_id", .text user.id.text), ("username", .text user.username)]
  | .populated seeds users admins =>
    [("seeded", .number seeds), ("users", .number users), ("admins", .number admins)]
  | .completed users admins => [("users", .number users), ("admins", .number admins)]

/-- The fields of an event as an object, the message first. -/
def fieldsJson (event : Event) : Json :=
  .object
    (("message", .string event.message)
      :: event.fields.map fun field => (field.1, field.2.toJson))

/-- An event on one line, as it is written for a terminal. -/
def line (event : Event) : String :=
  event.fields.foldl (fun line field => line ++ " " ++ field.1 ++ "=" ++ field.2.shown)
    event.message

end Event

end UserRegistry.Log
