import UserRegistry.Proofs.ConfigAcceptance
import UserRegistry.Proofs.Listings
import UserRegistry.Proofs.RunAndSession

/-!
# Events of a run

A run tells of itself while it goes on: of each seed once its user is stored, and of the
whole store at the end, whose administrators it counts in two ways.  What it tells agrees
with the store that seeding leaves behind and with the users that it prints, however many
seeds there are and wherever seeding stops.  A level shows all events, all but those of
single seeds, or none.
-/

namespace UserRegistry

namespace Log

/-! ## What is shown at a level -/

theorem Filter.shows_ofLevel {level : String} {verbosity : Nat}
    (named : namedVerbosity? level.toList = some verbosity) (event : Event) :
    (Filter.ofLevel level).shows event = decide (event.severity.verbosity ≤ verbosity) := by
  rw [Filter.ofLevel, named]
  rfl

theorem Event.severity_eq (event : Event) :
    event.severity = .info ∨ event.severity = .debug := by
  cases event with
  | starting path config => exact .inl rfl
  | seeded user => exact .inr rfl
  | populated seeds users admins => exact .inl rfl
  | completed users admins => exact .inl rfl

theorem Event.verbosity_severity (event : Event) :
    3 ≤ event.severity.verbosity ∧ event.severity.verbosity ≤ 4 := by
  rcases event.severity_eq with info | debug
  · rw [info]
    decide
  · rw [debug]
    decide

variable {level : String} {verbosity : Nat}

theorem filter_of_verbose (named : namedVerbosity? level.toList = some verbosity)
    (verbose : 4 ≤ verbosity) (events : List Event) :
    events.filter (Filter.ofLevel level).shows = events := by
  refine List.filter_eq_self.mpr fun event _ => ?_
  rw [Filter.shows_ofLevel named]
  exact decide_eq_true (event.verbosity_severity.2.trans verbose)

theorem filter_of_terse (named : namedVerbosity? level.toList = some verbosity)
    (terse : verbosity ≤ 2) (events : List Event) :
    events.filter (Filter.ofLevel level).shows = [] := by
  refine List.filter_eq_nil_iff.mpr fun event _ => ?_
  rw [Filter.shows_ofLevel named, decide_eq_true_iff]
  have least := event.verbosity_severity.1
  omega

theorem filter_of_info (named : namedVerbosity? level.toList = some 3) (first : Event)
    (users : List User) {closing : List Event} (shown : first.severity = .info)
    (allShown : ∀ event ∈ closing, event.severity = .info) :
    (first :: users.map .seeded ++ closing).filter (Filter.ofLevel level).shows =
      first :: closing := by
  have hidden : (users.map Event.seeded).filter (Filter.ofLevel level).shows = [] := by
    refine List.filter_eq_nil_iff.mpr fun event member => ?_
    obtain ⟨user, _, rfl⟩ := List.mem_map.mp member
    rw [Filter.shows_ofLevel named]
    exact (by decide : ¬ decide (Severity.debug.verbosity ≤ 3) = true)
  have kept {event : Event} (info : event.severity = .info) :
      (Filter.ofLevel level).shows event = true := by
    rw [Filter.shows_ofLevel named, info]
    decide
  rw [List.cons_append, List.filter_cons_of_pos (kept shown), List.filter_append, hidden,
    List.filter_eq_self.mpr fun event member => kept (allShown event member)]
  rfl

/-! ## What is told -/

/-- A message and its fields. -/
abbrev Told := String × List (String × FieldValue)

def Event.told (event : Event) : Told :=
  (event.message, event.fields)

def toldStart (path : String) (config : Config) : Told :=
  ("roster starting",
    [ ("config_path", .text path),
      ("user_capacity", .number config.memory.userCapacity),
      ("seeds", .number config.users.length),
      ("log_level", .text config.logging.level),
      ("log_format", .text config.logging.format) ])

def toldSeeded (user : User) : Told :=
  ("Seeded user", [("user_id", .text user.id.text), ("username", .text user.username)])

/-- The end of a run that stored and printed all its users. -/
def toldEnd (users admins : Nat) : List Told :=
  [ ("User store populated from configuration",
      [("seeded", .number users), ("users", .number users), ("admins", .number admins)]),
    ("Startup complete", [("users", .number users), ("admins", .number admins)]) ]

end Log

/-! ## What is stored -/

namespace Store

variable {store : Store} {source : Source} {created : Nat} {seeds : List Seed}

theorem users_sow :
    (store.sow source created seeds).store.users =
      store.users ++ (store.sow source created seeds).stored := by
  induction seeds generalizing store created with
  | nil => exact (List.append_nil store.users).symm
  | cons seed seeds induction =>
      cases attempt : store.insert (source.sow created seed) with
      | error cause =>
          rw [sow_cons_of_refused seeds attempt]
          exact (List.append_nil store.users).symm
      | ok next =>
          rw [sow_cons_of_inserted seeds attempt, induction, users_insert attempt,
            List.append_assoc]
          rfl

theorem users_entries (source : Source) (seeds : List Seed) :
    (source.entries 0 seeds).map Prod.snd = seeds.mapIdx source.sow := by
  simp only [Source.entries, List.mapIdx_eq_zipIdx_map, List.map_map, Nat.zero_add]
  refine List.map_congr_left fun place _ => ?_
  exact (Source.sow_eq source _ _).symm

end Store

/-- Whether a source hands out the identifier of its user number `n` a second time. -/
def Source.Repeats (source : Source) (n : Nat) : Prop :=
  ∃ earlier < n, source.newId earlier = source.newId n

section Nobody

variable {store : Store} (nobody : store.entries = [])

include nobody

theorem Store.taken_iff_of_nobody {source : Source} {n : Nat} :
    store.Taken source 0 n ↔ source.Repeats n := by
  simp [Taken, Source.Repeats, contains, get?, nobody]

/-- How far seeding gets in a store of nobody: to the first identifier that is handed out
a second time. -/
theorem Store.sow_of_nobody (source : Source) (seeds : List Seed) :
    let seeding := store.sow source 0 seeds
    ∃ count ≤ seeds.length,
      seeding.store.users = (seeds.take count).mapIdx source.sow ∧
        (∀ n < count, ¬ source.Repeats n) ∧
        (count < seeds.length → source.Repeats count ∧
          ∃ error, seeding.failure = some error) ∧
        (count = seeds.length → seeding.failure = none) := by
  intro seeding
  have taken {n : Nat} : store.Taken source 0 n ↔ source.Repeats n :=
    taken_iff_of_nobody nobody
  have users {listed : List Seed}
      (entries : seeding.store.entries = store.entries ++ source.entries 0 listed) :
      seeding.store.users = listed.mapIdx source.sow := by
    rw [Store.users, entries, nobody, List.nil_append, users_entries]
  rcases store.free_or_first_taken source 0 seeds.length with free | ⟨k, inside, again, first⟩
  · obtain ⟨failure, entries, _⟩ := sow_of_free free
    refine ⟨seeds.length, le_rfl, ?_, ?_, ?_, ?_⟩
    · rw [List.take_length, users entries]
    · exact fun n before repeats => free n before (taken.mpr repeats)
    · exact fun less => absurd less (Nat.lt_irrefl _)
    · exact fun _ => failure
  · obtain ⟨failure, entries, _⟩ := sow_of_taken inside again first
    refine ⟨k, inside.le, users entries, ?_, ?_, ?_⟩
    · exact fun n before repeats => first n before (taken.mpr repeats)
    · exact fun _ => ⟨taken.mp again, _, failure⟩
    · exact fun all => absurd all inside.ne

end Nobody

namespace Program

open Log

variable {source : Source} {path : String} {config : Config}

/-- The administrators that the store counts are those among its listed users, and both
counts of users are that of the seeds. -/
theorem told_closingEvents {store : Store} (all : store.users.length = config.users.length) :
    (closingEvents config store).map Event.told =
      toldEnd config.users.length
        (store.all.filter fun user => "admin" ∈ user.roles).length := by
  have size : store.size = config.users.length := by
    rw [← all, Store.users, List.length_map, Store.size]
  have listed : store.all.length = config.users.length := store.all_perm.length_eq.trans all
  have admins : store.admins.length = (store.all.filter User.isAdmin).length :=
    (store.listing_perm User.isAdmin).length_eq.trans
      (store.all_perm.filter User.isAdmin).length_eq.symm
  rw [closingEvents, size, listed, admins]
  rfl

/-- A level of a configuration shows everything, all but the events of single seeds, or
nothing. -/
theorem told_at_levels (level : String) (path : String) (config : Config) (users : List User)
    {closing : List Event} (allShown : ∀ event ∈ closing, event.severity = .info) :
    let events := (Event.starting path config :: users.map .seeded ++ closing).filter
      (Filter.ofLevel level).shows
    (level ∈ ["debug", "trace"] →
        events.map Event.told =
          toldStart path config :: users.map toldSeeded ++ closing.map Event.told) ∧
      (level = "info" →
        events.map Event.told = toldStart path config :: closing.map Event.told) ∧
      (level ∈ ["warn", "error"] → events = []) := by
  intro events
  refine ⟨?_, ?_, ?_⟩
  · intro verbose
    have everything : events = Event.starting path config :: users.map .seeded ++ closing := by
      simp only [List.mem_cons, List.not_mem_nil, or_false] at verbose
      rcases verbose with rfl | rfl
      · exact filter_of_verbose (rfl : namedVerbosity? "debug".toList = some 4) (by decide) _
      · exact filter_of_verbose (rfl : namedVerbosity? "trace".toList = some 5) (by decide) _
    rw [everything, List.map_append, List.map_cons, List.map_map]
    rfl
  · rintro rfl
    have whole : events = Event.starting path config :: closing :=
      filter_of_info rfl _ users rfl allShown
    rw [whole, List.map_cons]
    rfl
  · intro terse
    simp only [List.mem_cons, List.not_mem_nil, or_false] at terse
    rcases terse with rfl | rfl
    · exact filter_of_terse (rfl : namedVerbosity? "warn".toList = some 2) (by decide) _
    · exact filter_of_terse (rfl : namedVerbosity? "error".toList = some 1) (by decide) _

/-- The events of a run before any of them is left out: those of the start and of the
stored users, and then the closing ones unless seeding stopped. -/
theorem events_of_serve (source : Source) (path : String) (config : Config) :
    let seeding := (Registry.ofConfig config).users.sow source 0 config.users
    ∃ closing : List Event,
      (serve source none path config).events =
          (Event.starting path config :: seeding.store.users.map .seeded ++ closing).filter
            (Filter.ofLevel config.logging.level).shows ∧
        (seeding.failure ≠ none → closing = []) ∧
        (seeding.failure = none → closing = closingEvents config seeding.store) := by
  intro seeding
  have stored : seeding.store.users = seeding.stored := Store.users_sow
  have chosen : Filter.choose none config.logging.level =
      some (.ofLevel config.logging.level) := rfl
  cases failure : seeding.failure with
  | some error =>
      refine ⟨[], ?_, fun _ => rfl, fun completed => absurd completed (Option.some_ne_none error)⟩
      rw [serve_eq_of_stopped chosen rfl path failure, List.append_nil, stored]
      rfl
  | none =>
      refine ⟨closingEvents config seeding.store, ?_, fun stopped => absurd rfl stopped,
        fun _ => rfl⟩
      rw [serve_eq_of_stored chosen rfl path failure, stored]
      rfl

theorem severity_of_mem_closingEvents {store : Store} {event : Event}
    (member : event ∈ closingEvents config store) : event.severity = .info := by
  simp only [closingEvents, List.mem_cons, List.not_mem_nil, or_false] at member
  rcases member with rfl | rfl
  · rfl
  · rfl

/-- A run without a filter from outside tells of its start, of each user that it stores,
and, if it stores one for every seed, twice of the whole store, with the number of
administrators among the users that it prints.  Seeding goes on up to the first identifier
that is handed out again; then nothing more is told.  The level `info` leaves out the
single users, and the levels below it everything. -/
theorem events_tell_of_the_run (source : Source) (arguments : List String)
    (files : String → Except FileFault ByteArray) (config : Config)
    (loaded : Config.load (configPath arguments) (files (configPath arguments)) = .ok config) :
    let run := Program.run source none arguments files
    let store := ((Registry.ofConfig config).users.sow source 0 config.users).store
    let start := toldStart (configPath arguments) config
    ∃ count ≤ config.users.length, ∃ closing,
      store.users = (config.users.take count).mapIdx source.sow ∧
        (∀ n < count, ¬ source.Repeats n) ∧
        (count < config.users.length →
          source.Repeats count ∧ run.output = "" ∧ closing = []) ∧
        (count = config.users.length →
          ∃ printed, printed.Perm store.users ∧
            run.output = User.prettyList printed ++ "\n" ∧ ShowsUsers run.output printed ∧
            closing = toldEnd config.users.length
              (printed.filter fun user => "admin" ∈ user.roles).length) ∧
        (config.logging.level ∈ ["debug", "trace"] →
          run.events.map Event.told = start :: store.users.map toldSeeded ++ closing) ∧
        (config.logging.level = "info" → run.events.map Event.told = start :: closing) ∧
        (config.logging.level ∈ ["warn", "error"] → run.events = []) ∧
        config.logging.level ∈ ["trace", "debug", "info", "warn", "error"] := by
  intro run store start
  have serving : run = serve source none (configPath arguments) config := run_of_loaded loaded
  obtain ⟨count, within, users, first, stops, completes⟩ :=
    Store.sow_of_nobody (Registry.entries_ofConfig config) source config.users
  obtain ⟨closing, events, stopped, completed⟩ :=
    events_of_serve source (configPath arguments) config
  have allShown : ∀ event ∈ closing, event.severity = .info := by
    by_cases failure :
        ((Registry.ofConfig config).users.sow source 0 config.users).failure = none
    · rw [completed failure]
      exact fun event member => severity_of_mem_closingEvents member
    · simp [stopped failure]
  rw [← serving] at events
  obtain ⟨verbose, info, terse⟩ := told_at_levels config.logging.level (configPath arguments)
    config store.users allShown
  refine ⟨count, within, closing.map Event.told, users, first, ?_, ?_, ?_, ?_, ?_,
    (Config.valid_of_load loaded).level⟩
  · intro less
    obtain ⟨repeated, error, failure⟩ := stops less
    have output := (serve_of_stopped Filter.not_fatal_none (configPath arguments) failure).1
    rw [stopped (failure ▸ Option.some_ne_none error)]
    exact ⟨repeated, serving ▸ output, rfl⟩
  · intro all
    have failure := completes all
    have output := (serve_of_stored Filter.not_fatal_none (configPath arguments) failure).1
    have length : store.users.length = config.users.length := by
      rw [users, List.length_mapIdx, all, List.take_length]
    rw [completed failure, told_closingEvents length]
    rw [serving, output]
    exact ⟨store.all, store.all_perm, rfl, showsUsers_prettyList store.all, rfl⟩
  · exact events ▸ verbose
  · exact events ▸ info
  · exact events ▸ terse

/-- Two users, of whom the second is an administrator. -/
def twoUsers : String :=
  "logging.level = 'debug'\nusers = [['ann', ''], ['bob', '', ['admin']]]\n"

theorem load_twoUsers :
    ∃ config ann bob, Config.load "config.toml" (.ok twoUsers.toUTF8) = .ok config ∧
      config.users = [ann, bob] ∧ config.logging.level = "debug" ∧
      (ann.username = "ann" ∧ ann.roles = none) ∧
      (bob.username = "bob" ∧ bob.roles = some ["admin"]) ∧
      toldStart "config.toml" config =
        ("roster starting",
          [ ("config_path", .text "config.toml"), ("user_capacity", .number 1024),
            ("seeds", .number 2), ("log_level", .text "debug"),
            ("log_format", .text "json") ]) := by
  have told : (Config.load "config.toml" (.ok twoUsers.toUTF8)).map (fun config =>
      (config.users.map fun seed => (seed.username, seed.roles), config.logging.level,
        config.logging.format, config.memory.userCapacity)) =
      .ok ([("ann", none), ("bob", some ["admin"])], "debug", "json", 1024) := by
    decide +kernel
  obtain ⟨config, loaded, facts⟩ := map_eq_ok_iff.mp told
  obtain ⟨seeds, settings⟩ := Prod.mk.inj facts
  obtain ⟨level, format, capacity⟩ : config.logging.level = "debug" ∧
      config.logging.format = "json" ∧ config.memory.userCapacity = 1024 := by
    simpa using settings
  obtain ⟨ann, others, users, annTold, othersTold⟩ := List.map_eq_cons_iff.mp seeds
  obtain ⟨bob, rfl, bobTold⟩ := List.map_eq_singleton_iff.mp othersTold
  refine ⟨config, ann, bob, loaded, users, level, Prod.mk.inj annTold, Prod.mk.inj bobTold, ?_⟩
  rw [toldStart, capacity, users, level, format]
  rfl

theorem toldSeeded_sow (source : Source) (n : Nat) (seed : Seed) :
    toldSeeded (source.sow n seed) =
      ("Seeded user",
        [("user_id", .text (source.newId n).text), ("username", .text seed.username)]) :=
  rfl

/-- With identifiers of their own both users are told of, and at the end the one
administrator.  If the second gets the identifier of the first, only the first is told of
and nothing is printed. -/
theorem events_tell_of_two_runs :
    let run (source : Source) := Program.run source none [] fun _ => .ok twoUsers.toUTF8
    let start : Told :=
      ("roster starting",
        [ ("config_path", .text "config.toml"), ("user_capacity", .number 1024),
          ("seeds", .number 2), ("log_level", .text "debug"), ("log_format", .text "json") ])
    let seeded (id name : String) : Told :=
      ("Seeded user", [("user_id", .text id), ("username", .text name)])
    (run (.ofLists [7, 8] [])).events.map Event.told =
        [ start, seeded "00000000-0000-4000-8000-000000000007" "ann",
          seeded "00000000-0000-4000-8000-000000000008" "bob",
          ("User store populated from configuration",
            [("seeded", .number 2), ("users", .number 2), ("admins", .number 1)]),
          ("Startup complete", [("users", .number 2), ("admins", .number 1)]) ] ∧
      (run (.ofLists [7, 7] [])).output = "" ∧
      (run (.ofLists [7, 7] [])).events.map Event.told =
        [start, seeded "00000000-0000-4000-8000-000000000007" "ann"] := by
  intro run start seeded
  obtain ⟨config, ann, bob, loaded, users, level, ⟨annName, annRoles⟩, ⟨bobName, bobRoles⟩,
    told⟩ := load_twoUsers
  have seven : Uuid.text ((Source.ofLists [7, 8] []).newId 0) =
      "00000000-0000-4000-8000-000000000007" := by
    decide +kernel
  have eight : Uuid.text ((Source.ofLists [7, 8] []).newId 1) =
      "00000000-0000-4000-8000-000000000008" := by
    decide +kernel
  have length : config.users.length = 2 := by
    rw [users]
    rfl
  have tells (source : Source) :=
    events_tell_of_the_run source [] (fun _ => .ok twoUsers.toUTF8) config loaded
  constructor
  · obtain ⟨count, within, closing, stored, _, stops, completes, verbose, _⟩ :=
      tells (.ofLists [7, 8] [])
    have all : count = config.users.length := by
      by_contra some
      obtain ⟨⟨earlier, before, same⟩, _⟩ := stops (by omega)
      obtain ⟨rfl, rfl⟩ : count = 1 ∧ earlier = 0 := by omega
      exact absurd same (by decide)
    obtain ⟨printed, listed, _, _, rfl⟩ := completes all
    rw [all, List.take_length, users] at stored
    have admins : (printed.filter fun user => "admin" ∈ user.roles).length = 1 := by
      rw [(listed.filter _).length_eq, users, stored]
      simp [Source.sow, Source.create, User.create, annRoles, bobRoles, Roles.ofList, Roles.add]
    rw [verbose (by simp [level]), admins, length, users, stored]
    simp only [List.mapIdx_cons, List.mapIdx_nil, List.map_cons, List.map_nil, toldSeeded_sow,
      Nat.zero_add, seven, eight, annName, bobName]
    exact congrArg (· :: _) told
  · obtain ⟨count, within, closing, stored, first, stops, _, verbose, _⟩ :=
      tells (.ofLists [7, 7] [])
    have one : count = 1 := by
      have below : count ≤ 1 := by
        by_contra more
        exact first 1 (by omega) ⟨0, by decide, rfl⟩
      have some : 0 < count := by
        by_contra nothing
        obtain ⟨⟨earlier, before, _⟩, _⟩ := stops (by omega)
        omega
      omega
    obtain ⟨_, output, rfl⟩ := stops (by omega)
    refine ⟨output, ?_⟩
    rw [one, users] at stored
    rw [verbose (by simp [level]), users, stored]
    simp only [List.take_succ_cons, List.take_zero, List.mapIdx_cons, List.mapIdx_nil,
      List.map_cons, List.map_nil, toldSeeded_sow, annName]
    exact congrArg (· :: [_]) told

end Program

end UserRegistry
