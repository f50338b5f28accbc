import UserRegistry.Config
import UserRegistry.Toml.Printer

/-!
# Writing configurations

The canonical text of a configuration: a table for logging, a table for memory,
and for each seed an element of `users` with a table for its metadata.
-/

namespace UserRegistry

/-- The table of logging, with all three of its fields. -/
def Logging.written (logging : Logging) : List Char :=
  Toml.header "logging"
    ++ Toml.assignment "level".toList (Toml.quoted logging.level)
    ++ Toml.assignment "format".toList (Toml.quoted logging.format)
    ++ Toml.assignment "console".toList (Toml.written (.boolean logging.console))

def Memory.written (memory : Memory) : List Char :=
  Toml.header "memory"
    ++ Toml.assignment "user_capacity".toList (Numeral.decimal memory.userCapacity)

/-- The line of a seed's roles, if it has any list of them. -/
def Seed.writtenRoles : Option (List String) → List Char
  | none => []
  | some roles => Toml.assignment "roles".toList (Toml.written (.array (roles.map .string)))

/-- An element of `users` and, always, the table of its metadata. -/
def Seed.written (seed : Seed) : List Char :=
  Toml.elementHeader "users"
    ++ Toml.assignment "username".toList (Toml.quoted seed.username)
    ++ Toml.assignment "email".toList (Toml.quoted seed.email)
    ++ writtenRoles seed.roles
    ++ Toml.header "users.metadata"
    ++ seed.metadata.flatMap fun member =>
      Toml.assignment (Toml.quoted member.1) (Toml.written member.2)

def Config.written (config : Config) : List Char :=
  config.logging.written ++ config.memory.written ++ config.users.flatMap Seed.written

/-- The canonical text of a configuration, defaults written out. -/
def Config.text (config : Config) : String :=
  String.ofList config.written

end UserRegistry
