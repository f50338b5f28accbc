import UserRegistry.Proofs.SessionEffect

/-!
# Shared stores

From a load on, the current store is the store of the loaded configuration: steps on the
store and seeding work on the same one.  A renewal parts them until the next load.  That
they are the same means more than that they are equal at every moment: a session does
what is done to stores that are kept at addresses and written in place, where the current
store and the loaded one share an address.
-/

namespace UserRegistry

/-- Whether a step loads a configuration. -/
def Step.Loads : Step → Prop
  | .onState (.load text) => (Config.parse text).isOk = true
  | _ => False

/-- The store of a loaded configuration after a seeding step.  It keeps what was stored
before a taken identifier stopped the seeding. -/
def Config.seeded (source : Source) (created : Nat) (seeds : Option (List Json))
    (store : Store) (config : Config) : Store :=
  match config.chosenSeeds seeds with
  | .error _ => store
  | .ok chosen => (store.sow source created chosen).store

theorem Stores.setLoaded_loaded {stores : Stores} {config : Config} {store : Store}
    (loaded : stores.loaded? = some (config, store)) : stores.setLoaded store = stores := by
  cases stores with
  | unloaded current => contradiction
  | joined held store =>
      cases loaded
      rfl
  | apart held store current =>
      cases loaded
      rfl

namespace Session

variable {source : Source} {session : Session} {config : Config} {store loaded : Store}

/-! ## The stores after a step -/

theorem stores_seed_of_loaded (found : session.stores.loaded? = some (config, store))
    (seeds : Option (List Json)) :
    (session.step source (.onState (.seed seeds))).1.stores =
      session.stores.setLoaded (config.seeded source session.created seeds store) := by
  rw [step, stepState_seed_of_loaded found, Config.seeded]
  cases config.chosenSeeds seeds with
  | error cause => exact (Stores.setLoaded_loaded found).symm
  | ok chosen => rfl

theorem stores_seed_of_unloaded (unloaded : session.stores.loaded? = none)
    (seeds : Option (List Json)) :
    (session.step source (.onState (.seed seeds))).1.stores = session.stores := by
  rw [step, stepState_seed_of_unloaded unloaded]
  rfl

theorem step_load_of_refused {text : String} {cause : LoadError}
    (refused : Config.parse text = .error cause) :
    session.step source (.onState (.load text)) = session.fail (.notLoaded cause) := by
  rw [step, stepState, refused]

theorem stores_load_of_parsed (source : Source) (session : Session) {text : String}
    (parsed : Config.parse text = .ok config) :
    (session.step source (.onState (.load text))).1.stores =
      .joined config (.withCapacity config.memory.userCapacity) := by
  rw [step, stepState, parsed]
  rfl

theorem stores_load_of_not_loads {text : String}
    (steady : ¬ Step.Loads (.onState (.load text))) :
    (session.step source (.onState (.load text))).1.stores = session.stores := by
  cases parsed : Config.parse text with
  | error cause => rw [step_load_of_refused parsed, fail]
  | ok config =>
      refine absurd ?_ steady
      rw [Step.Loads, parsed]
      rfl

/-! ## While the stores are one -/

theorem step_of_joined (source : Source) (joined : session.stores = .joined config store)
    {step : Step} (steady : ¬ step.Loads) (unrenewed : step ≠ .onState .renew) :
    ∃ next, (session.step source step).1.stores = .joined config next := by
  cases step with
  | onUser step => exact ⟨store, (stores_stepUser source session step).trans joined⟩
  | onStore step =>
      rw [Session.step, stores_stepStore, joined]
      exact ⟨_, rfl⟩
  | onState step =>
      cases step with
      | renew => exact absurd rfl unrenewed
      | load text => exact ⟨store, (stores_load_of_not_loads steady).trans joined⟩
      | seed seeds =>
          have found : session.stores.loaded? = some (config, store) := by
            rw [joined]
            rfl
          rw [stores_seed_of_loaded found, joined]
          exact ⟨_, rfl⟩

theorem run_of_joined (source : Source) {steps : List Step}
    (joined : session.stores = .joined config store)
    (steady : ∀ step ∈ steps, ¬ step.Loads) (unrenewed : .onState .renew ∉ steps) :
    ∃ next, (session.run source steps).1.stores = .joined config next := by
  induction steps generalizing session store with
  | nil => exact ⟨store, joined⟩
  | cons step steps induction =>
      obtain ⟨other, restUnrenewed⟩ := not_or.mp (mt List.mem_cons.mpr unrenewed)
      obtain ⟨next, joinedNext⟩ :=
        step_of_joined source joined (steady step List.mem_cons_self) (Ne.symm other)
      exact induction joinedNext
        (fun later inside => steady later (List.mem_cons_of_mem step inside)) restUnrenewed

theorem stores_of_joined (joined : session.stores = .joined config store) :
    session.stores = .joined config session.current := by
  rw [current, joined]
  rfl

/-- Then a step on the store and a seeding both work on the one store. -/
theorem works_on_joined (one : session.stores = .joined config session.current) :
    (∀ step, (session.step source (.onStore step)).1.stores =
      .joined config (step.applied session.locals session.current)) ∧
      ∀ seeds, (session.step source (.onState (.seed seeds))).1.stores =
        .joined config (config.seeded source session.created seeds session.current) := by
  constructor
  · intro step
    rw [Session.step, stores_stepStore, one]
    rfl
  · intro seeds
    have found : session.stores.loaded? = some (config, session.current) := by
      rw [one]
      rfl
    rw [stores_seed_of_loaded found, one]
    rfl

/-! ## While the stores are two -/

theorem step_of_apart (source : Source)
    (apart : session.stores = .apart config loaded store) {step : Step} (steady : ¬ step.Loads) :
    ∃ nextLoaded next, (session.step source step).1.stores = .apart config nextLoaded next := by
  cases step with
  | onUser step => exact ⟨loaded, store, (stores_stepUser source session step).trans apart⟩
  | onStore step =>
      rw [Session.step, stores_stepStore, apart]
      exact ⟨_, _, rfl⟩
  | onState step =>
      cases step with
      | renew =>
          rw [Session.step, stepState, apart]
          exact ⟨_, _, rfl⟩
      | load text => exact ⟨loaded, store, (stores_load_of_not_loads steady).trans apart⟩
      | seed seeds =>
          have found : session.stores.loaded? = some (config, loaded) := by
            rw [apart]
            rfl
          rw [stores_seed_of_loaded found, apart]
          exact ⟨_, _, rfl⟩

theorem run_of_apart (source : Source) {steps : List Step}
    (apart : session.stores = .apart config loaded store)
    (steady : ∀ step ∈ steps, ¬ step.Loads) :
    ∃ nextLoaded next, (session.run source steps).1.stores = .apart config nextLoaded next := by
  induction steps generalizing session loaded store with
  | nil => exact ⟨loaded, store, apart⟩
  | cons step steps induction =>
      obtain ⟨nextLoaded, next, apartNext⟩ :=
        step_of_apart source apart (steady step List.mem_cons_self)
      exact induction apartNext
        fun later inside => steady later (List.mem_cons_of_mem step inside)

theorem stores_of_apart (apart : session.stores = .apart config loaded store) :
    session.stores = .apart config loaded session.current := by
  rw [current, apart]
  rfl

/-- Then each of the two kinds of steps works on a store of its own. -/
theorem works_on_apart (two : session.stores = .apart config loaded session.current) :
    (∀ step, (session.step source (.onStore step)).1.stores =
      .apart config loaded (step.applied session.locals session.current)) ∧
      ∀ seeds, (session.step source (.onState (.seed seeds))).1.stores =
        .apart config (config.seeded source session.created seeds loaded)
          session.current := by
  constructor
  · intro step
    rw [Session.step, stores_stepStore, two]
    rfl
  · intro seeds
    have found : session.stores.loaded? = some (config, loaded) := by
      rw [two]
      rfl
    rw [stores_seed_of_loaded found, two]
    rfl

theorem stores_renew_of_loaded (source : Source)
    (found : session.stores.loaded? = some (config, store)) :
    (session.step source (.onState .renew)).1.stores = .apart config store .empty := by
  rw [step, stepState]
  cases stores : session.stores with
  | unloaded current =>
      rw [stores] at found
      contradiction
  | joined held joint =>
      rw [stores] at found
      cases found
      rfl
  | apart held other current =>
      rw [stores] at found
      cases found
      rfl

end Session

/-! ## Stores at addresses -/

/-- Stores at addresses, the address of the current store, and the loaded configuration
with the address of its store. -/
structure Heap where
  cells : List Store
  current : Nat
  loaded : Option (Config × Nat)

namespace Heap

def start : Heap :=
  ⟨[.empty], 0, none⟩

def read (heap : Heap) (address : Nat) : Store :=
  heap.cells.getD address .empty

def write (heap : Heap) (address : Nat) (store : Store) : Heap :=
  { heap with cells := heap.cells.set address store }

/-- Puts a store at a new address and makes it the current store. -/
def add (heap : Heap) (store : Store) : Heap :=
  { heap with cells := heap.cells ++ [store], current := heap.cells.length }

/-- What a step of a session does to stores at addresses: only a renewal and a load make
a store, and everything else is written in place. -/
def step (source : Source) (session : Session) (heap : Heap) : Step → Heap
  | .onUser _ => heap
  | .onStore step =>
    heap.write heap.current (step.applied session.locals (heap.read heap.current))
  | .onState .renew => heap.add .empty
  | .onState (.load text) =>
    match Config.parse text with
    | .error _ => heap
    | .ok config =>
      let added := heap.add (.withCapacity config.memory.userCapacity)
      { added with loaded := some (config, added.current) }
  | .onState (.seed seeds) =>
    match heap.loaded with
    | none => heap
    | some (config, address) =>
      heap.write address (config.seeded source session.created seeds (heap.read address))

/-- Stores at addresses beside the run of a session. -/
def run (source : Source) : Session → Heap → List Step → Heap
  | _, heap, [] => heap
  | session, heap, step :: steps =>
    run source (session.step source step).1 (heap.step source session step) steps

/-- The stores of a session: one if the two addresses are one. -/
def view (heap : Heap) : Stores :=
  match heap.loaded with
  | none => .unloaded (heap.read heap.current)
  | some (config, address) =>
    if address = heap.current then .joined config (heap.read address)
    else .apart config (heap.read address) (heap.read heap.current)

/-- Both addresses are in use. -/
structure Valid (heap : Heap) : Prop where
  current : heap.current < heap.cells.length
  loaded : ∀ config address, heap.loaded = some (config, address) →
    address < heap.cells.length

variable {heap : Heap} {source : Source} {session : Session}

theorem read_write {address : Nat} (inside : address < heap.cells.length) (store : Store) :
    (heap.write address store).read address = store := by
  simp [read, write, inside]

theorem read_write_of_ne (heap : Heap) {address written : Nat} (different : address ≠ written)
    (store : Store) : (heap.write written store).read address = heap.read address := by
  simp [read, write, Ne.symm different]

theorem read_add {address : Nat} (inside : address < heap.cells.length) (store : Store) :
    (heap.add store).read address = heap.read address := by
  simp [read, add, List.getElem?_append_left inside]

theorem read_add_current (heap : Heap) (store : Store) :
    (heap.add store).read (heap.add store).current = store := by
  simp [read, add]

theorem Valid.write (valid : heap.Valid) (address : Nat) (store : Store) :
    (heap.write address store).Valid where
  current := by simpa [Heap.write] using valid.current
  loaded := by simpa [Heap.write] using valid.loaded

theorem Valid.add (valid : heap.Valid) (store : Store) : (heap.add store).Valid where
  current := by simp [Heap.add]
  loaded := by
    intro config address found
    have inside := valid.loaded config address found
    simp only [Heap.add, List.length_append, List.length_singleton]
    omega

/-! ### What is seen of the addresses -/

section View

variable {config : Config} {address : Nat}

theorem view_of_unloaded (heap : Heap) (unloaded : heap.loaded = none) :
    heap.view = .unloaded (heap.read heap.current) := by
  rw [view, unloaded]

theorem view_of_joined (heap : Heap) (found : heap.loaded = some (config, heap.current)) :
    heap.view = .joined config (heap.read heap.current) := by
  simp only [view, found, if_true]

theorem view_of_apart (heap : Heap) (found : heap.loaded = some (config, address))
    (different : address ≠ heap.current) :
    heap.view = .apart config (heap.read address) (heap.read heap.current) := by
  simp only [view, found, if_neg different]

theorem view_cases (heap : Heap) :
    heap.loaded = none ∨ (∃ config, heap.loaded = some (config, heap.current)) ∨
      ∃ config address, heap.loaded = some (config, address) ∧ address ≠ heap.current := by
  cases found : heap.loaded with
  | none => exact .inl rfl
  | some loaded =>
      obtain ⟨config, address⟩ := loaded
      by_cases same : address = heap.current
      · subst same
        exact .inr (.inl ⟨config, rfl⟩)
      · exact .inr (.inr ⟨config, address, rfl, same⟩)

theorem current_view (heap : Heap) : heap.view.current = heap.read heap.current := by
  rcases heap.view_cases with
    unloaded | ⟨config, found⟩ | ⟨config, address, found, different⟩
  · rw [heap.view_of_unloaded unloaded, Stores.current]
  · rw [heap.view_of_joined found, Stores.current]
  · rw [heap.view_of_apart found different, Stores.current]

theorem loaded?_view (heap : Heap) :
    heap.view.loaded? = heap.loaded.map fun loaded => (loaded.1, heap.read loaded.2) := by
  rcases heap.view_cases with
    unloaded | ⟨config, found⟩ | ⟨config, address, found, different⟩
  · rw [heap.view_of_unloaded unloaded, unloaded]
    rfl
  · rw [heap.view_of_joined found, found]
    rfl
  · rw [heap.view_of_apart found different, found]
    rfl

/-- To write at the address of the current store is to set the current store, and with it
that of the configuration if the addresses are one. -/
theorem view_write_current (valid : heap.Valid) (store : Store) :
    (heap.write heap.current store).view = heap.view.setCurrent store := by
  let written := heap.write heap.current store
  have here := read_write valid.current store
  rcases heap.view_cases with
    unloaded | ⟨config, found⟩ | ⟨config, address, found, different⟩
  · rw [heap.view_of_unloaded unloaded]
    exact (view_of_unloaded written unloaded).trans (congrArg Stores.unloaded here)
  · rw [heap.view_of_joined found]
    exact (view_of_joined written found).trans (congrArg (Stores.joined config) here)
  · have there := heap.read_write_of_ne different store
    rw [heap.view_of_apart found different]
    exact (view_of_apart written found different).trans
      (congrArg₂ (Stores.apart config) there here)

theorem view_write_loaded (valid : heap.Valid)
    (found : heap.loaded = some (config, address)) (store : Store) :
    (heap.write address store).view = heap.view.setLoaded store := by
  let written := heap.write address store
  have here := read_write (valid.loaded config address found) store
  by_cases same : address = heap.current
  · subst same
    rw [heap.view_of_joined found]
    exact (view_of_joined written found).trans (congrArg (Stores.joined config) here)
  · have there := heap.read_write_of_ne (Ne.symm same) store
    rw [heap.view_of_apart found same]
    exact (view_of_apart written found same).trans (congrArg₂ (Stores.apart config) here there)

/-- A new store is at no address in use, so that it parts the stores. -/
theorem view_add_empty (valid : heap.Valid) : (heap.add .empty).view = heap.view.renew := by
  let added := heap.add .empty
  have new : added.read added.current = .empty := heap.read_add_current .empty
  have parts {config : Config} {address : Nat}
      (found : heap.loaded = some (config, address)) :
      added.view = .apart config (heap.read address) .empty := by
    have inside := valid.loaded config address found
    have old := read_add inside .empty
    exact (added.view_of_apart found (Nat.ne_of_lt inside)).trans
      (congrArg₂ (Stores.apart config) old new)
  rcases heap.view_cases with
    unloaded | ⟨config, found⟩ | ⟨config, address, found, different⟩
  · rw [heap.view_of_unloaded unloaded]
    exact (added.view_of_unloaded unloaded).trans (congrArg Stores.unloaded new)
  · rw [heap.view_of_joined found, parts found]
    rfl
  · rw [heap.view_of_apart found different, parts found]
    rfl

theorem view_load (heap : Heap) (config : Config) (store : Store) :
    ({ heap.add store with loaded := some (config, (heap.add store).current) } : Heap).view =
      .joined config store :=
  (view_of_joined _ rfl).trans (congrArg (Stores.joined config) (heap.read_add_current store))

end View

/-! ### Runs -/

theorem Valid.step (valid : heap.Valid) (step : Step) :
    (heap.step source session step).Valid := by
  cases step with
  | onUser step => exact valid
  | onStore step => exact valid.write _ _
  | onState step =>
      cases step with
      | renew => exact valid.add .empty
      | load text =>
          rw [Heap.step]
          cases Config.parse text with
          | error cause => exact valid
          | ok config =>
              have added := valid.add (.withCapacity config.memory.userCapacity)
              refine ⟨added.current, ?_⟩
              intro held address found
              cases found
              exact added.current
      | seed seeds =>
          rw [Heap.step]
          cases heap.loaded with
          | none => exact valid
          | some loaded => exact valid.write _ _

/-- A step of a session does to its stores what it does to them at their addresses. -/
theorem view_step (valid : heap.Valid) (same : session.stores = heap.view) (step : Step) :
    (session.step source step).1.stores = (heap.step source session step).view := by
  have current : session.current = heap.read heap.current := by
    rw [Session.current, same, current_view]
  cases step with
  | onUser step => exact (Session.stores_stepUser source session step).trans same
  | onStore step =>
      rw [Session.step, Session.stores_stepStore, Heap.step, view_write_current valid, same,
        current]
  | onState step =>
      cases step with
      | renew =>
          rw [Session.step, Session.stepState, Heap.step, view_add_empty valid, same]
      | load text =>
          rw [Heap.step]
          cases parsed : Config.parse text with
          | error cause =>
              rw [Session.step_load_of_refused parsed]
              exact same
          | ok config =>
              rw [Session.stores_load_of_parsed source session parsed]
              exact (view_load heap config _).symm
      | seed seeds =>
          rw [Heap.step]
          have found := loaded?_view heap
          rw [← same] at found
          cases held : heap.loaded with
          | none =>
              rw [held] at found
              exact (Session.stores_seed_of_unloaded found seeds).trans same
          | some loaded =>
              obtain ⟨config, address⟩ := loaded
              rw [held] at found
              rw [Session.stores_seed_of_loaded found seeds, same]
              exact (view_write_loaded valid held _).symm

theorem view_run (valid : heap.Valid) (same : session.stores = heap.view)
    (steps : List Step) :
    (session.run source steps).1.stores = (heap.run source session steps).view := by
  induction steps generalizing session heap with
  | nil => exact same
  | cons step steps induction =>
      exact induction (valid.step step) (view_step valid same step)

theorem valid_start : start.Valid where
  current := Nat.zero_lt_one
  loaded := by simp [start]

end Heap

namespace Session

/-- From a successful load until the next renewal or successful load, the current store
and the store of the loaded configuration are one, which starts empty: steps on the store
and seedings, stopped ones too, work on what the others have left.  After a renewal they
are two, each with steps of its own, until the next successful load.  A load that fails
changes nothing.  And all along a session from the start, its stores are those of two
addresses, of which a renewal replaces one and a load both. -/
theorem store_shared_until_renewed (source : Source) (session : Session) :
    (∀ text config, Config.parse text = .ok config →
      (session.step source (.onState (.load text))).1.stores =
        .joined config (.withCapacity config.memory.userCapacity) ∧
      ∀ steps, (∀ step ∈ steps, ¬ step.Loads) → .onState .renew ∉ steps →
        let shared := (session.run source (.onState (.load text) :: steps)).1
        shared.stores = .joined config shared.current ∧
        (∀ step, (shared.step source (.onStore step)).1.stores =
          .joined config (step.applied shared.locals shared.current)) ∧
        ∀ seeds, (shared.step source (.onState (.seed seeds))).1.stores =
          .joined config (config.seeded source shared.created seeds shared.current)) ∧
      (∀ config store, session.stores.loaded? = some (config, store) →
        (session.step source (.onState .renew)).1.stores = .apart config store .empty ∧
        ∀ steps, (∀ step ∈ steps, ¬ step.Loads) →
          let parted := (session.run source (.onState .renew :: steps)).1
          ∃ loaded, parted.stores = .apart config loaded parted.current ∧
            (∀ step, (parted.step source (.onStore step)).1.stores =
              .apart config loaded (step.applied parted.locals parted.current)) ∧
            ∀ seeds, (parted.step source (.onState (.seed seeds))).1.stores =
              .apart config (config.seeded source parted.created seeds loaded)
                parted.current) ∧
      (∀ text cause, Config.parse text = .error cause →
        session.step source (.onState (.load text)) = (session, .error (.notLoaded cause))) ∧
      ∀ steps, (start.run source steps).1.stores = (Heap.start.run source start steps).view := by
  refine ⟨?_, ?_, ?_, fun steps => Heap.view_run Heap.valid_start rfl steps⟩
  · intro text config parsed
    have loading := stores_load_of_parsed source session parsed
    refine ⟨loading, ?_⟩
    intro steps steady unrenewed shared
    obtain ⟨store, joined⟩ := run_of_joined source loading steady unrenewed
    have one : shared.stores = .joined config shared.current := stores_of_joined joined
    exact ⟨one, works_on_joined one⟩
  · intro config store found
    have renewed := stores_renew_of_loaded source found
    refine ⟨renewed, ?_⟩
    intro steps steady parted
    obtain ⟨loaded, current, apart⟩ := run_of_apart source renewed steady
    have two : parted.stores = .apart config loaded parted.current := stores_of_apart apart
    exact ⟨loaded, two, works_on_apart two⟩
  · intro text cause refused
    exact step_load_of_refused refused

/-- Two users to be seeded. -/
def twoSeeds : String :=
  "[[users]]\nusername = 'u'\nemail = ''\n[[users]]\nusername = 'v'\nemail = ''\n"

/-- The first identifier comes again: it is that of the second seed too. -/
def repeated : Source :=
  .ofLists [5, 6, 5] []

/-- A session that files a user of its own between the load and the seeding. -/
def filing : List Step :=
  [.onUser (.create "a" "ann" "" none), .onStore (.insert "a")]

def filed : Session :=
  (start.run repeated (.onState (.load twoSeeds) :: filing)).1

/-- The seeding is stopped at the identifier of the user filed after the load, and the
first seed stays beside that user. -/
theorem store_shared_until_stopped_seeding :
    ∃ config, Config.parse twoSeeds = .ok config ∧
      (filed.step repeated (.onState (.seed none))).1.stores =
        .joined config (config.seeded repeated filed.created none filed.current) ∧
      (filed.step repeated (.onState (.seed none))).1.current.users.map User.username =
        ["ann", "u"] := by
  have accepted : (Config.parse twoSeeds).isOk = true := by decide +kernel
  have steady : ∀ step ∈ filing, ¬ step.Loads := by simp [filing, Step.Loads]
  have unrenewed : .onState .renew ∉ filing := by simp [filing]
  cases parsed : Config.parse twoSeeds with
  | error cause =>
      rw [parsed] at accepted
      contradiction
  | ok config =>
      have sharing :=
        ((store_shared_until_renewed repeated start).1 twoSeeds config parsed).2
      have seeding := (sharing filing steady unrenewed).2.2 none
      refine ⟨config, rfl, ?_, by decide +kernel⟩
      -- the unifier would run the session to see that the two are one
      unfold filed
      exact seeding

end Session

end UserRegistry
