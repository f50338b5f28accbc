import UserRegistry.Config
import UserRegistry.Store

/-!
# Registries

A configuration and the store of its users, as a run and a load of a session make
them.
-/

namespace UserRegistry

/-- A configuration with the store that its users go into. -/
structure Registry where
  config : Config
  users : Store

/-- The registry of a configuration: its store has room for as many users as the
configuration asks for, and holds none. -/
def Registry.ofConfig (config : Config) : Registry where
  config := config
  users := .withCapacity config.memory.userCapacity

@[simp] theorem Registry.config_ofConfig (config : Config) :
    (ofConfig config).config = config :=
  rfl

@[simp] theorem Registry.entries_ofConfig (config : Config) :
    (ofConfig config).users.entries = [] :=
  rfl

end UserRegistry
