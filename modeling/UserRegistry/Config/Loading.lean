import UserRegistry.Config
import UserRegistry.Toml.Document

/-!
# Loading configurations

A configuration is loaded from a text or from the bytes of a file: the text must
be a document, the document must read as a configuration, and its values must
meet the conditions, in this order.
-/

namespace UserRegistry

/-- Why no text was found at a path: the file system has none to give, or its bytes are no
UTF-8.  Of faults that are not told apart the account is kept. -/
inductive FileFault where
  | notFound
  | isDirectory
  | notDirectory
  | nameTooLong
  | zeroByte
  | notText
  | other (account : String)
  deriving DecidableEq

def FileFault.message : FileFault → String
  | .notFound => "No such file or directory (os error 2)"
  | .isDirectory => "Is a directory (os error 21)"
  | .notDirectory => "Not a directory (os error 20)"
  | .nameTooLong => "File name too long (os error 36)"
  | .zeroByte => "file name contained an unexpected NUL byte"
  | .notText => "stream did not contain valid UTF-8"
  | .other account => account

/-- Why a configuration was not loaded.  `malformed` names its cause unless the
text is no document. -/
inductive LoadError where
  | unreadable (path : String) (fault : FileFault)
  | malformed (cause : Option ReadError)
  | invalid (fault : Config.Fault)
  deriving DecidableEq

/-- The message of a load error, without its cause. -/
def LoadError.message : LoadError → String
  | .unreadable path _ => String.join ["Failed to read config file: ", path]
  | .malformed _ => "Failed to parse config file"
  | .invalid fault => fault.message

/-- The cause of a load error, if there is one to be told. -/
def LoadError.cause? : LoadError → Option String
  | .unreadable _ fault => some fault.message
  | .malformed cause => cause.map ReadError.message
  | .invalid _ => none

namespace Config

/-- Reads a document as a configuration. -/
def ofDocument (entries : Entries) : Except LoadError Config :=
  match Config.read entries with
  | .ok config => .ok config
  | .error cause => .error (.malformed (some cause))

/-- The configuration itself, if its values meet all conditions. -/
def validate (config : Config) : Except LoadError Config :=
  match config.fault? with
  | some fault => .error (.invalid fault)
  | none => .ok config

/-- Reads a text as a configuration.  The values are looked at only after the whole
document was read. -/
def parse (text : String) : Except LoadError Config :=
  match Toml.parse? text with
  | none => .error (.malformed none)
  | some entries => do
    let config ← ofDocument entries
    config.validate

/-- Loads a configuration from the bytes found at a path. -/
def load (path : String) (found : Except FileFault ByteArray) : Except LoadError Config :=
  match found with
  | .error fault => .error (.unreadable path fault)
  | .ok bytes =>
    match String.fromUTF8? bytes with
    | none => .error (.unreadable path .notText)
    | some text => parse text

end Config

end UserRegistry
