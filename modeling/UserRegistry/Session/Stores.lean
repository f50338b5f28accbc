import UserRegistry.Config
import UserRegistry.Store

/-!
# Stores and local users of a session

Whether the store of the loaded configuration is the current store is a case of
`Stores`, so that a change of one is a change of the other exactly while they are
joined.  Local users are copies, known by handles.
-/

namespace UserRegistry

/-- The stores of a session: no configuration was loaded yet, the store of the
loaded configuration is the current one, or the two are apart. -/
inductive Stores where
  | unloaded (current : Store)
  | joined (config : Config) (store : Store)
  | apart (config : Config) (loaded current : Store)

namespace Stores

def current : Stores → Store
  | .unloaded current => current
  | .joined _ store => store
  | .apart _ _ current => current

/-- The configuration loaded last and its store. -/
def loaded? : Stores → Option (Config × Store)
  | .unloaded _ => none
  | .joined config store => some (config, store)
  | .apart config loaded _ => some (config, loaded)

/-- Replaces the current store, and with it that of the configuration while they are
joined. -/
def setCurrent (store : Store) : Stores → Stores
  | .unloaded _ => .unloaded store
  | .joined config _ => .joined config store
  | .apart config loaded _ => .apart config loaded store

/-- Replaces the store of the configuration, and with it the current one while they are
joined. -/
def setLoaded (store : Store) : Stores → Stores
  | .unloaded current => .unloaded current
  | .joined config _ => .joined config store
  | .apart config _ current => .apart config store current

/-- Makes a store of nobody the current one; that of the configuration stays behind. -/
def renew : Stores → Stores
  | .unloaded _ => .unloaded .empty
  | .joined config store => .apart config store .empty
  | .apart config loaded _ => .apart config loaded .empty

end Stores

/-- Users by the handles they are known by, each handle once. -/
abbrev Locals := List (String × User)

/-- Keeps a user under a handle, in place of the user kept there before. -/
def Locals.keep (handle : String) (user : User) (locals : Locals) : Locals :=
  (handle, user) :: locals.filter fun entry => entry.1 ≠ handle

def Locals.get? (handle : String) (locals : Locals) : Option User :=
  locals.lookup handle

end UserRegistry
