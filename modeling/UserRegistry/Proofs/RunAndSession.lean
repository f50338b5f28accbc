import UserRegistry.Program
import UserRegistry.Proofs.LogFilters
import UserRegistry.Proofs.PrettyText
import UserRegistry.Proofs.SeedingOutcome
import UserRegistry.Proofs.UserText
import UserRegistry.Session

/-!
# Runs and sessions

A run of the program does what a session does that loads the same text and seeds its
users.  Both read the text by `Config.parse` and store the users by `Store.sow`, so
that each comes out in one of three ways: the text is refused, seeding stops, or all
users are stored.  A run has one more way to end, which only the filter of the
environment decides.
-/

namespace UserRegistry

theorem Config.load_toUTF8 (path text : String) :
    Config.load path (.ok text.toUTF8) = Config.parse text := by
  have decoded : String.fromUTF8? text.toUTF8 = some text := by
    rw [String.fromUTF8?, String.toUTF8_eq_toByteArray, dif_pos text.isValidUTF8]
    rfl
  simp only [load, decoded]

/-! ## Seeding into an empty store -/

/-- Seeding stops only at a taken identifier, and the seeds before it are stored. -/
theorem Store.sow_of_failure {store : Store} {source : Source} {created : Nat}
    {seeds : List Seed} {error : SeedingError}
    (failure : (store.sow source created seeds).failure = some error) :
    ∃ k, ∃ inside : k < seeds.length, error.seed = seeds[k] ∧
      (store.sow source created seeds).store.entries =
        store.entries ++ source.entries created (seeds.take k) := by
  rcases store.free_or_first_taken source created seeds.length with
    free | ⟨k, inside, taken, first⟩
  · rw [(sow_of_free free).1] at failure
    contradiction
  · obtain ⟨stopped, stored, _⟩ := sow_of_taken inside taken first
    rw [stopped] at failure
    cases failure
    exact ⟨k, inside, rfl, stored⟩

/-! ## Sessions that load and seed -/

namespace Session

variable {source : Source} {text : String} {config : Config}

/-- The session that loads a text and then seeds the users of its configuration. -/
def ofText (source : Source) (text : String) :
    Session × List (Except Failure Answer × Nat) :=
  start.run source [.onState (.load text), .onState (.seed none)]

theorem ofText_of_refused {cause : LoadError} (refused : Config.parse text = .error cause) :
    ofText source text =
      (start, [(.error (.notLoaded cause), 0), (.error .nothingLoaded, 0)]) := by
  have loaded : start.step source (.onState (.load text)) =
      (start, .error (.notLoaded cause)) := by
    simp [step, stepState, refused, fail]
  simp only [ofText, run, loaded]
  rfl

theorem step_load_of_parsed (parsed : Config.parse text = .ok config) :
    start.step source (.onState (.load text)) =
      (⟨.joined config (Registry.ofConfig config).users, [], 0⟩, .ok (.config config)) := by
  simp only [step, stepState, parsed]
  rfl

theorem step_seed_of_joined (source : Source) (config : Config) (store : Store)
    (locals : Locals) (created : Nat) :
    let seeding := store.sow source created config.users
    step source ⟨.joined config store, locals, created⟩ (.onState (.seed none)) =
      (⟨.joined config seeding.store, locals, seeding.created⟩,
        match seeding.answer config.users with
        | .ok count => .ok (.seeds count)
        | .error cause => .error (.stopped cause)) :=
  rfl

section Parsed

variable {seeding : Seeding} (parsed : Config.parse text = .ok config)
  (seeded : (Registry.ofConfig config).users.sow source 0 config.users = seeding)

include parsed seeded

theorem ofText_of_stored (stored : seeding.failure = none) :
    ofText source text =
      (⟨.joined config seeding.store, [], seeding.created⟩,
        [ (.ok (.config config), 0),
          (.ok (.seeds config.users.length), seeding.store.size) ]) := by
  simp only [ofText, run, step_load_of_parsed parsed, step_seed_of_joined, seeded,
    Seeding.answer, stored]
  rfl

theorem ofText_of_stopped {error : SeedingError} (stopped : seeding.failure = some error) :
    ofText source text =
      (⟨.joined config seeding.store, [], seeding.created⟩,
        [ (.ok (.config config), 0),
          (.error (.stopped error), seeding.store.size) ]) := by
  simp only [ofText, run, step_load_of_parsed parsed, step_seed_of_joined, seeded,
    Seeding.answer, stopped]
  rfl

end Parsed

theorem failure_of_stopped {error : SeedingError}
    (stopped : .error (.stopped error) ∈ (ofText source text).2.map Prod.fst) :
    ∃ config, Config.parse text = .ok config ∧
      ((Registry.ofConfig config).users.sow source 0 config.users).failure = some error := by
  cases parsed : Config.parse text with
  | error cause =>
      rw [ofText_of_refused parsed] at stopped
      simp at stopped
  | ok config =>
      refine ⟨config, rfl, ?_⟩
      cases outcome : ((Registry.ofConfig config).users.sow source 0 config.users).failure with
      | none =>
          rw [ofText_of_stored parsed rfl outcome] at stopped
          simp at stopped
      | some named =>
          rw [ofText_of_stopped parsed rfl outcome] at stopped
          have same : error = named := by simpa using stopped
          rw [same]

end Session

/-! ## Printed users -/

/-- The object of a user's six fields, in the order in which they are printed. -/
def User.sixFields (user : User) : Json :=
  .object
    [ ("id", .string user.id.text),
      ("username", .string user.username),
      ("email", .string user.email),
      ("created_at", .string user.createdAt.text),
      ("roles", .array (user.roles.map .string)),
      ("metadata", .object user.metadata) ]

/-- Whether a text shows users, and nothing else: it is the page of the array of their
objects, and it is read as that array. -/
structure ShowsUsers (text : String) (users : List User) : Prop where
  page : text = String.ofList
    (Json.page ((Json.array (users.map User.sixFields)).lines 0 [] []))
  readsBack : (∀ user ∈ users, Json.EverywhereMembers Json.Exact user.metadata) →
    Json.parse? text = some (.array (users.map User.sixFields))

theorem showsUsers_prettyList (users : List User) :
    ShowsUsers (User.prettyList users ++ "\n") users where
  page := Json.pretty_page (.array (users.map User.sixFields))
  readsBack exact := by
    have delimited : Text.Delimited ['\n'] := Text.delimited_cons [] (by decide)
    have read := Json.parse?_written_append (User.exact_array_toJson exact) .pretty
      delimited rfl
    rw [String.ofList_append] at read
    exact read

/-! ## Runs -/

namespace Program

variable {source : Source} {environment : Option String} {arguments : List String}
  {files : String → Except FileFault ByteArray} {config : Config}

theorem run_of_refused {error : LoadError}
    (refused : Config.load (configPath arguments) (files (configPath arguments)) =
      .error error) :
    run source environment arguments files =
      ⟨"", .json, [], .failure (error.report (configPath arguments))⟩ := by
  simp only [run, refused]

theorem run_of_loaded
    (loaded : Config.load (configPath arguments) (files (configPath arguments)) =
      .ok config) :
    run source environment arguments files =
      serve source environment (configPath arguments) config := by
  simp only [run, loaded]

theorem serve_of_fatal (fatal : Log.Filter.Fatal environment) (source : Source)
    (path : String) (config : Config) :
    serve source environment path config = ⟨"", config.logging.style, [], .crash⟩ := by
  simp only [serve, Log.Filter.choose_of_fatal fatal]

section Chosen

variable {filter : Log.Filter} {seeding : Seeding}
  (chosen : Log.Filter.choose environment config.logging.level = some filter)
  (seeded : (Registry.ofConfig config).users.sow source 0 config.users = seeding)

include chosen seeded

theorem serve_eq_of_stopped {error : SeedingError} (path : String)
    (stopped : seeding.failure = some error) :
    serve source environment path config =
      { output := ""
        style := config.logging.style
        events := (seedingEvents path config seeding).filter filter.shows
        ending := .failure ⟨error.message, [error.cause.message], false⟩ } := by
  simp only [serve, chosen, Registry.config_ofConfig, seeded, stopped]

theorem serve_eq_of_stored (path : String) (stored : seeding.failure = none) :
    serve source environment path config =
      { output := User.prettyList seeding.store.all ++ "\n"
        style := config.logging.style
        events := (seedingEvents path config seeding ++
          closingEvents config seeding.store).filter filter.shows
        ending := .success } := by
  simp only [serve, chosen, Registry.config_ofConfig, seeded, stored]

end Chosen

section Readable

variable (readable : ¬ Log.Filter.Fatal environment)

include readable

theorem serve_of_stopped {error : SeedingError} (path : String)
    (stopped : ((Registry.ofConfig config).users.sow source 0 config.users).failure =
      some error) :
    (serve source environment path config).output = "" ∧
      (serve source environment path config).ending =
        .failure ⟨error.message, [error.cause.message], false⟩ := by
  obtain ⟨filter, chosen⟩ := Log.Filter.exists_choose readable config.logging.level
  rw [serve_eq_of_stopped chosen rfl path stopped]
  exact ⟨rfl, rfl⟩

theorem serve_of_stored (path : String)
    (stored : ((Registry.ofConfig config).users.sow source 0 config.users).failure = none) :
    (serve source environment path config).output =
        User.prettyList
          ((Registry.ofConfig config).users.sow source 0 config.users).store.all ++ "\n" ∧
      (serve source environment path config).ending = .success := by
  obtain ⟨filter, chosen⟩ := Log.Filter.exists_choose readable config.logging.level
  rw [serve_eq_of_stored chosen rfl path stored]
  exact ⟨rfl, rfl⟩

end Readable

end Program

/-- A run agrees with a session if it succeeds and shows the users of the session's
store when every step was answered, and fails and prints nothing when one failed. -/
structure Run.Agrees (run : Run) (session : Session × List (Except Failure Answer × Nat)) :
    Prop where
  succeeds : (∀ answer ∈ session.2, answer.1.isOk = true) →
    run.exitCode = 0 ∧ run.output = User.prettyList session.1.current.all ++ "\n" ∧
      ShowsUsers run.output session.1.current.all
  fails : (∃ answer ∈ session.2, answer.1.isOk = false) →
    run.exitCode = 1 ∧ run.output = ""

namespace Run.Agrees

variable {run : Run} {session : Session × List (Except Failure Answer × Nat)}

theorem of_answered (answered : ∀ answer ∈ session.2, answer.1.isOk = true)
    (ending : run.ending = .success)
    (output : run.output = User.prettyList session.1.current.all ++ "\n") :
    run.Agrees session := by
  constructor
  · intro _
    refine ⟨by rw [exitCode, ending], output, ?_⟩
    rw [output]
    exact showsUsers_prettyList _
  · rintro ⟨answer, inside, failed⟩
    rw [answered answer inside] at failed
    contradiction

theorem of_failed {report : Report} (failed : ∃ answer ∈ session.2, answer.1.isOk = false)
    (ending : run.ending = .failure report) (output : run.output = "") :
    run.Agrees session := by
  constructor
  · intro answered
    obtain ⟨answer, inside, failed⟩ := failed
    rw [answered answer inside] at failed
    contradiction
  · intro _
    exact ⟨by rw [exitCode, ending], output⟩

end Run.Agrees

namespace Program

section File

variable {source : Source} {environment : Option String} {arguments : List String}
  {files : String → Except FileFault ByteArray} {text : String}
  (found : files (configPath arguments) = .ok text.toUTF8)

include found

theorem load_of_found :
    Config.load (configPath arguments) (files (configPath arguments)) = Config.parse text := by
  rw [found, Config.load_toUTF8]

theorem agrees_of_readable (readable : ¬ Log.Filter.Fatal environment) :
    (run source environment arguments files).Agrees (Session.ofText source text) := by
  cases parsed : Config.parse text with
  | error cause =>
      rw [run_of_refused ((load_of_found found).trans parsed), Session.ofText_of_refused parsed]
      exact .of_failed ⟨_, List.mem_cons_self, rfl⟩ rfl rfl
  | ok config =>
      rw [run_of_loaded ((load_of_found found).trans parsed)]
      cases outcome : ((Registry.ofConfig config).users.sow source 0 config.users).failure with
      | none =>
          obtain ⟨output, ending⟩ := serve_of_stored readable (configPath arguments) outcome
          rw [Session.ofText_of_stored parsed rfl outcome]
          refine .of_answered ?_ ending output
          intro answer inside
          simp only [List.mem_cons, List.not_mem_nil, or_false] at inside
          rcases inside with rfl | rfl
          · rfl
          · rfl
      | some error =>
          obtain ⟨output, ending⟩ := serve_of_stopped readable (configPath arguments) outcome
          rw [Session.ofText_of_stopped parsed rfl outcome]
          exact .of_failed ⟨_, .tail _ (.head _), rfl⟩ ending output

/-- A session with a failed step is the session of a run that fails, whatever the filter
of the environment does. -/
theorem fails_of_failed
    (failed : ∃ answer ∈ (Session.ofText source text).2, answer.1.isOk = false) :
    (run source environment arguments files).succeeded = false ∧
      (run source environment arguments files).output = "" := by
  by_cases fatal : Log.Filter.Fatal environment
  · cases loaded : Config.load (configPath arguments) (files (configPath arguments)) with
    | error cause =>
        rw [run_of_refused loaded]
        exact ⟨rfl, rfl⟩
    | ok config =>
        rw [run_of_loaded loaded, serve_of_fatal fatal]
        exact ⟨rfl, rfl⟩
  · have agrees : (run source environment arguments files).Agrees (Session.ofText source text) :=
      agrees_of_readable found fatal
    obtain ⟨code, output⟩ := agrees.fails failed
    exact ⟨by rw [Run.succeeded, code]; rfl, output⟩

end File

/-- A run on a file with a text agrees with the session that loads the text and seeds
its users, unless the filter of the environment ends it; then too it fails without output
where the session does.  If seeding stops, the report names the seed, and the users that
the session has stored, which the run does not print, are those of the seeds before it.  A
file that cannot be loaded fails the run without output, whatever it holds. -/
theorem run_agrees_with_session (source : Source) (environment : Option String)
    (arguments : List String) (files : String → Except FileFault ByteArray) :
    let run := Program.run source environment arguments files
    (∀ text, files (configPath arguments) = .ok text.toUTF8 →
      let session := Session.ofText source text
      (¬ Log.Filter.Fatal environment → run.Agrees session) ∧
      ((∃ answer ∈ session.2, answer.1.isOk = false) →
        run.succeeded = false ∧ run.output = "") ∧
      ∀ error, .error (.stopped error) ∈ session.2.map Prod.fst →
        (¬ Log.Filter.Fatal environment →
          run.report = some ⟨error.message, [error.cause.message], false⟩) ∧
          ∃ config k, ∃ inside : k < config.users.length,
            Config.parse text = .ok config ∧ error.seed = config.users[k] ∧
              session.1.current.users =
                (source.entries 0 (config.users.take k)).map Prod.snd) ∧
      ∀ error,
        Config.load (configPath arguments) (files (configPath arguments)) = .error error →
          run.exitCode = 1 ∧ run.output = "" := by
  intro run
  refine ⟨fun text found => ⟨agrees_of_readable found, fails_of_failed found, ?_⟩, ?_⟩
  · intro error stopped
    obtain ⟨config, parsed, failure⟩ := Session.failure_of_stopped stopped
    refine ⟨fun readable => ?_, ?_⟩
    · obtain ⟨_, ending⟩ := serve_of_stopped readable (configPath arguments) failure
      rw [← run_of_loaded ((load_of_found found).trans parsed)] at ending
      simp only [run, Run.report, ending]
    · obtain ⟨k, inside, seed, entries⟩ := Store.sow_of_failure failure
      rw [Session.ofText_of_stopped parsed rfl failure]
      exact ⟨config, k, inside, parsed, seed, congrArg (List.map Prod.snd) entries⟩
  · intro error refused
    have same : run = _ := run_of_refused refused
    rw [same]
    exact ⟨rfl, rfl⟩

/-- Two users with identifiers of their own are printed.  If the second gets the
identifier of the first, the session keeps the first, and the run prints nothing. -/
theorem run_agrees_with_session_of_two_users :
    let text := "[[users]]\nusername = 'ann'\nemail = ''\n\n[[users]]\nusername = 'bob'\nemail = ''\n"
    let run (source : Source) := Program.run source none [] fun _ => .ok text.toUTF8
    let session (source : Source) := Session.ofText source text
    let distinct := Source.ofLists [7, 8] []
    let colliding := Source.ofLists [7, 7] []
    ((run distinct).exitCode = 0 ∧
      ShowsUsers (run distinct).output (session distinct).1.current.all ∧
        (session distinct).1.current.users.map User.username = ["ann", "bob"]) ∧
      (run colliding).exitCode = 1 ∧ (run colliding).output = "" ∧
        (session colliding).1.current.users.map User.username = ["ann"] := by
  intro text run session distinct colliding
  have agrees (source : Source) : (run source).Agrees (session source) :=
    ((run_agrees_with_session source none [] fun _ => .ok text.toUTF8).1 text rfl).1
      Log.Filter.not_fatal_none
  have answered : (session distinct).2.all (fun answer => answer.1.isOk) = true := by
    decide +kernel
  have stopped : (session colliding).2.any (fun answer => !answer.1.isOk) = true := by
    decide +kernel
  refine ⟨?_, ?_⟩
  · obtain ⟨code, _, shown⟩ := (agrees distinct).succeeds (List.all_eq_true.mp answered)
    exact ⟨code, shown, by decide +kernel⟩
  · obtain ⟨answer, inside, failed⟩ := List.any_eq_true.mp stopped
    obtain ⟨code, output⟩ := (agrees colliding).fails ⟨answer, inside, by simpa using failed⟩
    exact ⟨code, output, by decide +kernel⟩

end Program

end UserRegistry
