import Mathlib.Logic.Function.Basic
import UserRegistry.Proofs.SeedReading
import UserRegistry.Proofs.SessionParts

/-!
# Histories of metadata

Steps on the metadata of a user answer like the same steps on a map from keys to values,
and leave the members of that map in key order.  Members in key order are the map, so that
nothing is left of the order in which keys were bound, bound again and removed.
-/

namespace UserRegistry

/-! ## Steps on a map -/

/-- What can be done to the metadata of a user. -/
inductive MetadataStep where
  | set (key : String) (value : Json)
  | get (key : String)
  | remove (key : String)
  | clear

namespace MetadataStep

/-- The step on the user kept under a handle. -/
def on (handle : String) : MetadataStep → Step
  | .set key value => .onUser (.setMetadata handle key value)
  | .get key => .onUser (.getMetadata handle key)
  | .remove key => .onUser (.removeMetadata handle key)
  | .clear => .onUser (.clearMetadata handle)

/-- What the step makes of a map.  A value is bound as it is held, with the members of its
objects in key order. -/
def apply (bound : String → Option Json) : MetadataStep → String → Option Json
  | .set key value => Function.update bound key (some value.canonical)
  | .get _ => bound
  | .remove key => Function.update bound key none
  | .clear => fun _ => none

/-- What the map says of the key of the step, before the step. -/
def answer (bound : String → Option Json) : MetadataStep → Answer
  | .set key _ => .value (bound key)
  | .get key => .value (bound key)
  | .remove key => .value (bound key)
  | .clear => .nothing

def applyAll (bound : String → Option Json) (steps : List MetadataStep) :
    String → Option Json :=
  steps.foldl apply bound

def answers (bound : String → Option Json) : List MetadataStep → List Answer
  | [] => []
  | step :: steps => step.answer bound :: answers (step.apply bound) steps

end MetadataStep

/-! ## Users and maps -/

/-- A user as the source makes it, and what its metadata binds: nothing, or what the
metadata of a seed does. -/
inductive Source.Starts (source : Source) : User → (String → Option Json) → Prop where
  | created (n : Nat) (username email : String) (roles : Option (List String)) :
      Starts source (source.create n username email roles) fun _ => none
  | sown (n : Nat) {format : Format} {value : Value} {seed : Seed}
      (read : Seed.read format value = .ok seed) :
      Starts source (source.sow n seed) fun key => seed.metadata.get? key

/-- Metadata in key order that binds what a map does. -/
structure User.Follows (user : User) (bound : String → Option Json) : Prop where
  ordered : user.metadata.Ordered
  binds : ∀ key, user.metadata.get? key = bound key

namespace User.Follows

variable {user : User} {bound : String → Option Json}

theorem of_starts {source : Source} (starts : source.Starts user bound) :
    user.Follows bound := by
  cases starts with
  | created n username email roles => exact ⟨List.Pairwise.nil, fun _ => rfl⟩
  | @sown n format value seed read =>
      have ordered := Seed.ordered_of_read read
      have metadata : (source.sow n seed).metadata = seed.metadata :=
        Json.Members.ofEntries_of_ordered ordered
      refine ⟨?_, ?_⟩
      · rw [metadata]
        exact ordered
      · intro key
        rw [metadata]

theorem set (follows : user.Follows bound) (key : String) (value : Json) :
    (user.setMetadata key value).Follows (Function.update bound key (some value)) := by
  refine ⟨Json.Members.ordered_insert follows.ordered key value, ?_⟩
  intro sought
  rw [setMetadata, Json.Members.get?_insert, follows.binds, Function.update_apply]

theorem erase (follows : user.Follows bound) (key : String) :
    (user.eraseMetadata key).Follows (Function.update bound key none) := by
  refine ⟨follows.ordered.erase key, ?_⟩
  intro sought
  rw [eraseMetadata, Json.Members.get?_erase, follows.binds, Function.update_apply]

theorem clear (user : User) : user.clearMetadata.Follows fun _ => none :=
  ⟨List.Pairwise.nil, fun _ => rfl⟩

end User.Follows

/-! ## Steps of a session -/

namespace Session

variable {source : Source} {session : Session} {handle : String} {user : User}
  {bound : String → Option Json}

/-- A step on the metadata of a user answers like the map and follows it. -/
theorem step_metadata (known : session.locals.get? handle = some user)
    (follows : user.Follows bound) (step : MetadataStep) :
    ∃ members : Json.Members,
      (session.step source (step.on handle)).1.locals.get? handle =
          some { user with metadata := members } ∧
        ({ user with metadata := members } : User).Follows (step.apply bound) ∧
        (session.step source (step.on handle)).2 = .ok (step.answer bound) := by
  have kept (changed : User) :
      (session.keep handle changed).locals.get? handle = some changed := by
    rw [keep, Locals.get?_keep, if_pos rfl]
  cases step with
  | set key value =>
      refine ⟨user.metadata.insert key value.canonical, ?_, follows.set key value.canonical, ?_⟩
      · simp only [MetadataStep.on, Session.step, stepUser, withUser, known]
        exact kept _
      · simp only [MetadataStep.on, Session.step, stepUser, withUser, known,
          MetadataStep.answer, follows.binds]
  | get key =>
      refine ⟨user.metadata, ?_, follows, ?_⟩
      · simp only [MetadataStep.on, Session.step, stepUser, withUser, known]
        exact known
      · simp only [MetadataStep.on, Session.step, stepUser, withUser, known,
          MetadataStep.answer, follows.binds]
        rfl
  | remove key =>
      refine ⟨user.metadata.erase key, ?_, follows.erase key, ?_⟩
      · simp only [MetadataStep.on, Session.step, stepUser, withUser, known]
        exact kept _
      · simp only [MetadataStep.on, Session.step, stepUser, withUser, known,
          MetadataStep.answer, follows.binds]
  | clear =>
      refine ⟨[], ?_, .clear user, ?_⟩
      · simp only [MetadataStep.on, Session.step, stepUser, withUser, known]
        exact kept _
      · simp only [MetadataStep.on, Session.step, stepUser, withUser, known,
          MetadataStep.answer]

theorem run_metadata (known : session.locals.get? handle = some user)
    (follows : user.Follows bound) (steps : List MetadataStep) :
    ∃ members : Json.Members,
      (session.run source (steps.map (MetadataStep.on handle))).1.locals.get? handle =
          some { user with metadata := members } ∧
        ({ user with metadata := members } : User).Follows
          (MetadataStep.applyAll bound steps) ∧
        (session.run source (steps.map (MetadataStep.on handle))).2.map Prod.fst =
          (MetadataStep.answers bound steps).map .ok := by
  induction steps generalizing session user bound with
  | nil => exact ⟨user.metadata, known, follows, rfl⟩
  | cons step steps induction =>
      obtain ⟨members, after, followsAfter, answered⟩ := step_metadata known follows step
      obtain ⟨last, final, followsFinal, others⟩ := induction after followsAfter
      refine ⟨last, ?_, followsFinal, ?_⟩
      · rw [List.map_cons, run_cons]
        exact final
      · rw [List.map_cons, run_cons]
        simp only [List.map_cons, others, answered]
        rfl

end Session

/-! ## Equality -/

theorem Finite64.sameNumber_self (x : Finite64) : x.sameNumber x = true := by
  simp [sameNumber]

namespace Json

mutual

theorem same_self (v : Json) : v.same v = true := by
  cases v with
  | null => rfl
  | boolean value => simp [same]
  | integer value => simp [same]
  | float number => simpa [same] using number.sameNumber_self
  | string text => simp [same]
  | array items => simpa [same] using sameItems_self items
  | object members => simpa [same] using sameMembers_self members

theorem sameItems_self (items : List Json) : sameItems items items = true := by
  cases items with
  | nil => rfl
  | cons item items => simp [sameItems, same_self item, sameItems_self items]

theorem sameMembers_self (members : List (String × Json)) :
    sameMembers members members = true := by
  cases members with
  | nil => rfl
  | cons member members =>
      simp [sameMembers, same_self member.2, sameMembers_self members]

end

end Json

/-! ## Histories -/

/-- A history of metadata answers like the same history of a map and leaves the members of
that map in key order, each once.  Two histories that leave one map leave metadata that is
equal and is printed alike. -/
theorem Session.metadata_of_history {source otherSource : Source}
    {session otherSession : Session} {handle otherHandle : String} {user otherUser : User}
    {bound otherBound : String → Option Json} (starts : source.Starts user bound)
    (known : session.locals.get? handle = some user)
    (otherStarts : otherSource.Starts otherUser otherBound)
    (otherKnown : otherSession.locals.get? otherHandle = some otherUser)
    (steps otherSteps : List MetadataStep) :
    ∃ members otherMembers : Json.Members,
      (session.run source (steps.map (MetadataStep.on handle))).2.map Prod.fst =
          (MetadataStep.answers bound steps).map .ok ∧
        (session.run source (steps.map (MetadataStep.on handle))).1.locals.get? handle =
          some { user with metadata := members } ∧
        (members.map Prod.fst).Nodup ∧ members.Ordered ∧
        (∀ key, members.get? key = MetadataStep.applyAll bound steps key) ∧
        (otherSession.run otherSource
              (otherSteps.map (MetadataStep.on otherHandle))).1.locals.get? otherHandle =
          some { otherUser with metadata := otherMembers } ∧
        (MetadataStep.applyAll bound steps = MetadataStep.applyAll otherBound otherSteps →
          members = otherMembers ∧ Json.sameMembers members otherMembers = true ∧
            (Json.object members).compact = (Json.object otherMembers).compact ∧
            (Json.object members).pretty = (Json.object otherMembers).pretty) := by
  obtain ⟨members, final, follows, answered⟩ := run_metadata known (.of_starts starts) steps
  obtain ⟨otherMembers, otherFinal, otherFollows, _⟩ :=
    run_metadata otherKnown (.of_starts otherStarts) otherSteps
  refine ⟨members, otherMembers, answered, final, follows.ordered.distinct, follows.ordered,
    follows.binds, otherFinal, ?_⟩
  intro same
  have equal : members = otherMembers := by
    apply follows.ordered.eq_of_get?_eq otherFollows.ordered
    intro key
    rw [follows.binds, same]
    exact (otherFollows.binds key).symm
  subst otherMembers
  exact ⟨rfl, Json.sameMembers_self members, rfl, rfl⟩

/-- A new user and the user of a seed whose metadata come to bind the same. -/
theorem Session.metadata_of_two_histories :
    let source : Source := .ofLists [] []
    let seed : Seed := ⟨"ben", "ben@example.com", none, [("b", .integer 1)]⟩
    let user := source.create 0 "ann" "ann@example.com" none
    let other := source.sow 0 seed
    let session : Session := ⟨.unloaded .empty, [("u", user), ("s", other)], 2⟩
    let steps : List MetadataStep :=
      [.set "é" (.integer 1), .set "a" .null, .set "b" (.integer 3), .remove "é"]
    let otherSteps : List MetadataStep := [.set "b" (.integer 3), .set "a" .null]
    source.Starts user (fun _ => none) ∧
      source.Starts other (fun key => seed.metadata.get? key) ∧
      (session.run source (steps.map (MetadataStep.on "u"))).2.map Prod.fst =
        [.ok (.value none), .ok (.value none), .ok (.value none),
          .ok (.value (some (.integer 1)))] ∧
      ∃ members : Json.Members, members.Ordered ∧
        (session.run source (steps.map (MetadataStep.on "u"))).1.locals.get? "u" =
          some { user with metadata := members } ∧
        (session.run source (otherSteps.map (MetadataStep.on "s"))).1.locals.get? "s" =
          some { other with metadata := members } := by
  intro source seed user other session steps otherSteps
  have starts : source.Starts user fun _ => none := .created 0 "ann" "ann@example.com" none
  have read : Seed.read .toml (.table [("username", .string "ben"),
      ("email", .string "ben@example.com"), ("metadata", .table [("b", .integer 1)])]) =
      .ok seed := rfl
  have otherStarts : source.Starts other fun key => seed.metadata.get? key := .sown 0 read
  have same : MetadataStep.applyAll (fun _ => none) steps =
      MetadataStep.applyAll (fun key => seed.metadata.get? key) otherSteps := by
    funext key
    simp only [MetadataStep.applyAll, MetadataStep.apply, steps, otherSteps, List.foldl_cons,
      List.foldl_nil, Function.update_apply, seed, Json.Members.get?,
      Associations.lookup_cons_eq_ite]
    by_cases a : key = "a" <;> by_cases b : key = "b" <;> by_cases e : key = "é" <;> simp_all
  have known : session.locals.get? "u" = some user := rfl
  have otherKnown : session.locals.get? "s" = some other := rfl
  obtain ⟨members, otherMembers, answers, final, _, ordered, _, otherFinal, equal⟩ :=
    metadata_of_history starts known otherStarts otherKnown steps otherSteps
  obtain ⟨rfl, _⟩ := equal same
  exact ⟨starts, otherStarts, answers, members, ordered, final, otherFinal⟩

end UserRegistry
