import UserRegistry.Config.Loading
import UserRegistry.Log.Filter
import UserRegistry.Registry
import UserRegistry.Seeding

/-!
# The program

One run: load the configuration, choose the filter of its events, seed a store with
its users and print all of them.  Nothing is printed unless every seed is stored.
-/

namespace UserRegistry

/-- The account of a failed run: what failed, and its causes from the outermost
to the innermost.  `more` tells that a further cause goes unprinted. -/
structure Report where
  headline : String
  causes : List String
  more : Bool := false

namespace Report

/-- The lines of a cause.  A number stands before the first of them if there are
several causes; the others keep the indentation. -/
def causeLines (number : Option Nat) (cause : String) : List String :=
  let (first, others) :=
    match number with
    | none => ("    ", "    ")
    | some number =>
      let digits := Numeral.decimal number
      (String.ofList (List.replicate (5 - digits.length) ' ' ++ digits) ++ ": ", "       ")
  match cause.splitOn "\n" with
  | [] => [first]
  | line :: lines => (first ++ line) :: lines.map (others ++ ·)

/-- The lines of a report.  Causes are numbered unless there is only one. -/
def lines (report : Report) : List String :=
  let numbered := report.more || 1 < report.causes.length
  let causes := report.causes.zipIdx.flatMap fun (cause, number) =>
    causeLines (if numbered then some number else none) cause
  ("Error: " ++ report.headline).splitOn "\n" ++ ["", "Caused by:"] ++ causes

end Report

/-- The message of a run whose configuration at `path` was not loaded. -/
def LoadError.headline (path : String) : String :=
  String.join
    ["Failed to load configuration from '", path, "'. If this is your first time running ",
      "roster, copy config.example.toml to config.toml and adjust the values."]

/-- The report of a run whose configuration at `path` was not loaded.  What a
text lacks to be a configuration goes unprinted. -/
def LoadError.report (path : String) (error : LoadError) : Report :=
  match error with
  | .unreadable _ fault => ⟨headline path, [error.message, fault.message], false⟩
  | .malformed _ => ⟨headline path, [error.message], true⟩
  | .invalid _ => ⟨headline path, [error.message], false⟩

/-- How events are written: as objects of JSON, or for a terminal. -/
inductive LogStyle where
  | json
  | console
  deriving DecidableEq

def Logging.style (logging : Logging) : LogStyle :=
  if logging.console ∨ logging.format = "console" then .console else .json

/-- How a run ends.  A crash gives no report. -/
inductive Ending where
  | success
  | failure (report : Report)
  | crash

/-- What a run leaves behind: its printed text, the events shown and their style,
and how it ended. -/
structure Run where
  output : String
  style : LogStyle
  events : List Log.Event
  ending : Ending

namespace Run

/-- The report of a run that failed, but not of one that crashed. -/
def report (run : Run) : Option Report :=
  match run.ending with
  | .failure report => some report
  | _ => none

/-- The code by which the caller of the program tells how it ended. -/
def exitCode (run : Run) : Nat :=
  match run.ending with
  | .success => 0
  | .failure _ => 1
  | .crash => 101

def succeeded (run : Run) : Bool :=
  run.exitCode == 0

end Run

namespace Program

/-- The path of the configuration: the first argument, if there is one. -/
def configPath (arguments : List String) : String :=
  arguments.head?.getD "config.toml"

/-- The events of a run from the start to the last seed that was stored. -/
def seedingEvents (path : String) (config : Config) (seeding : Seeding) : List Log.Event :=
  .starting path config :: seeding.stored.map .seeded

/-- The events of a run after all seeds were stored.  Administrators are counted
once in the store and once among the users to be printed. -/
def closingEvents (config : Config) (store : Store) : List Log.Event :=
  [ .populated config.users.length store.size store.admins.length,
    .completed store.all.length (store.all.filter User.isAdmin).length ]

/-- A run on a loaded configuration.  The filter comes first: where reading it ends
the program, nobody is seeded. -/
def serve (source : Source) (environment : Option String) (path : String) (config : Config) :
    Run :=
  match Log.Filter.choose environment config.logging.level with
  | none => ⟨"", config.logging.style, [], .crash⟩
  | some filter =>
    let registry := Registry.ofConfig config
    let seeding := registry.users.sow source 0 registry.config.users
    let before := seedingEvents path config seeding
    match seeding.failure with
    | some error =>
      { output := ""
        style := config.logging.style
        events := before.filter filter.shows
        ending := .failure ⟨error.message, [error.cause.message], false⟩ }
    | none =>
      { output := User.prettyList seeding.store.all ++ "\n"
        style := config.logging.style
        events := (before ++ closingEvents config seeding.store).filter filter.shows
        ending := .success }

/-- A run of the program.  `files` gives the bytes found at a path, and
`environment` the filter set from outside. -/
def run (source : Source) (environment : Option String) (arguments : List String)
    (files : String → Except FileFault ByteArray) : Run :=
  let path := configPath arguments
  match Config.load path (files path) with
  | .error error => ⟨"", .json, [], .failure (error.report path)⟩
  | .ok config => serve source environment path config

end Program

end UserRegistry
