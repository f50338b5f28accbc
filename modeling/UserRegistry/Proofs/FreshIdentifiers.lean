import Mathlib.Data.Set.Function
import UserRegistry.Proofs.SessionSoundness

/-!
# Fresh identifiers

Every user that a session holds, in a store or under a handle, descends from a user that
it has made: a copy, with other roles or metadata at most.  So its identifier was handed
out before, whatever was copied, removed or stored again meanwhile.  While a source hands
out no identifier twice, the next one is therefore free everywhere, seeding never stops,
and a user is refused only if a copy of it is stored.
-/

namespace UserRegistry

/-! ## Descent -/

/-- One user is a copy of another, with other roles or metadata at most. -/
abbrev User.Descends : User → User → Prop :=
  Relation.ReflTransGen User.Edit

theorem User.Edit.id_eq {user edited : User} (edit : user.Edit edited) :
    edited.id = user.id := by
  cases edit with
  | copy => rfl
  | addRole role => rfl
  | setMetadata key value => rfl
  | eraseMetadata key => rfl
  | clearMetadata => rfl

theorem User.Descends.id_eq {birth user : User} (descends : birth.Descends user) :
    user.id = birth.id := by
  induction descends with
  | refl => rfl
  | tail _ edit induction => exact edit.id_eq.trans induction

theorem Source.Makes.id_eq {source : Source} {n : Nat} {user : User}
    (made : source.Makes n user) : user.id = source.newId n := by
  cases made with
  | create username email roles => rfl
  | sow seed => rfl

namespace Uuid

/-! ## Random bits -/

/-- Random bits make one identifier exactly when they agree where the stamp leaves them
free. -/
theorem random_eq_iff {left right : BitVec 128} :
    random left = random right ↔ left &&& freeBits = right &&& freeBits := by
  constructor
  · intro same
    have unstamped (bits : BitVec 128) :
        (bits &&& freeBits ||| stamp) &&& freeBits = bits &&& freeBits := by
      have disjoint : stamp &&& freeBits = 0#128 := by decide
      rw [BitVec.and_or_distrib_right, disjoint, BitVec.and_assoc, BitVec.and_self,
        BitVec.or_zero]
    have masked := congrArg (fun id => id.bits &&& freeBits) same
    simpa only [random, unstamped] using masked
  · intro same
    rw [random, random, same]

theorem setWidth_and_freeBits (bits : BitVec 128) :
    (bits &&& freeBits).setWidth 62 = bits.setWidth 62 := by
  have free : freeBits.setWidth 62 = BitVec.allOnes 62 := by decide
  rw [BitVec.setWidth_and, free, BitVec.and_allOnes]

end Uuid

namespace Source

/-- The first identifiers of a source are pairwise distinct. -/
def Distinct (source : Source) (count : Nat) : Prop :=
  Set.InjOn source.newId {n | n < count}

/-- Counting upwards stays within the lowest bits for long. -/
theorem distinct_ofLists_nil (times : List Instant) (count : Nat)
    (few : count < Nat.pow 2 62) : (ofLists [] times).Distinct count := by
  intro m first n second same
  have low := congrArg (BitVec.setWidth 62) (Uuid.random_eq_iff.mp same)
  rw [Uuid.setWidth_and_freeBits, Uuid.setWidth_and_freeBits] at low
  have numbers := congrArg BitVec.toNat low
  have range : count < 0x4000000000000000 := few
  have firstBelow : m < count := first
  have secondBelow : n < count := second
  simp only [ofLists, List.getD_nil, BitVec.toNat_setWidth, BitVec.toNat_ofNat] at numbers
  omega

end Source

/-- A user descends from one of the users that were made. -/
def User.FromOne (births : List User) (user : User) : Prop :=
  ∃ birth ∈ births, birth.Descends user

namespace User.FromOne

variable {births : List User} {user edited : User}

theorem of_mem (member : user ∈ births) : user.FromOne births :=
  ⟨user, member, .refl⟩

theorem edit (origin : user.FromOne births) (edit : user.Edit edited) :
    edited.FromOne births := by
  obtain ⟨birth, member, descends⟩ := origin
  exact ⟨birth, member, descends.tail edit⟩

theorem append (origin : user.FromOne births) (later : List User) :
    user.FromOne (births ++ later) := by
  obtain ⟨birth, member, descends⟩ := origin
  exact ⟨birth, List.mem_append_left later member, descends⟩

end User.FromOne

/-- A source makes these users one after the other, the first as its number `created`. -/
def Source.MakesAll (source : Source) (created : Nat) (births : List User) : Prop :=
  ∀ n birth, births[n]? = some birth → source.Makes (created + n) birth

theorem Source.makesAll_nil (source : Source) (created : Nat) : source.MakesAll created [] := by
  simp [MakesAll]

theorem Source.MakesAll.cons {source : Source} {created : Nat} {first : User}
    {births : List User} (rest : source.MakesAll (created + 1) births)
    (makes : source.Makes created first) : source.MakesAll created (first :: births) := by
  intro n birth found
  cases n with
  | zero =>
      cases found
      exact makes
  | succ n =>
      have number : created + (n + 1) = created + 1 + n := by omega
      rw [number]
      exact rest n birth found

namespace Store

theorem sow_births (source : Source) (store : Store) (created : Nat) (seeds : List Seed) :
    ∃ births, source.MakesAll created births ∧
      (store.sow source created seeds).created = created + births.length ∧
      ∀ user ∈ (store.sow source created seeds).store.users,
        user ∈ store.users ∨ user ∈ births := by
  induction seeds generalizing store created with
  | nil => exact ⟨[], source.makesAll_nil created, rfl, fun user stored => .inl stored⟩
  | cons seed seeds induction =>
      let first := source.sow created seed
      have makes : source.Makes created first := .sow seed
      cases attempt : store.insert first with
      | error cause =>
          rw [sow_cons_of_refused seeds attempt]
          exact ⟨[first], (source.makesAll_nil _).cons makes, rfl,
            fun user stored => .inl stored⟩
      | ok next =>
          obtain ⟨births, rest, count, origins⟩ := induction next (created + 1)
          rw [sow_cons_of_inserted seeds attempt]
          refine ⟨first :: births, rest.cons makes, ?_, ?_⟩
          · rw [count, List.length_cons]
            omega
          · intro user stored
            rcases origins user stored with old | new
            · rw [users_insert attempt] at old
              rcases List.mem_append.mp old with older | own
              · exact .inl older
              · rw [List.mem_singleton.mp own]
                exact .inr List.mem_cons_self
            · exact .inr (List.mem_cons_of_mem first new)

end Store

/-! ## The history of a session -/

namespace Session

/-- These are the users that a session has made so far, and every user that it holds
descends from one of them. -/
structure Traced (source : Source) (births : List User) (session : Session) : Prop where
  makes : source.MakesAll 0 births
  count : session.created = births.length
  stores : ∀ store, session.stores.Holds store → ∀ user ∈ store.users, user.FromOne births
  locals : ∀ handle user, (handle, user) ∈ session.locals → user.FromOne births

namespace Traced

variable {source : Source} {births : List User} {session : Session}

theorem current (traced : session.Traced source births) {user : User}
    (stored : user ∈ session.current.users) : user.FromOne births :=
  traced.stores _ (.inl rfl) user stored

theorem known (traced : session.Traced source births) {handle : String} {user : User}
    (known : session.locals.get? handle = some user) : user.FromOne births :=
  traced.locals handle user (Locals.mem_of_get? known)

theorem grown (traced : session.Traced source births) :
    ∃ later, session.Traced source (births ++ later) :=
  ⟨[], (List.append_nil births).symm ▸ traced⟩

/-- Making further users takes nothing back. -/
theorem later (traced : session.Traced source births) {later : List User}
    (makes : source.MakesAll session.created later) :
    ({ session with created := session.created + later.length } : Session).Traced source
      (births ++ later) := by
  refine ⟨?_, ?_, ?_, ?_⟩
  · intro n birth found
    rw [List.getElem?_append] at found
    split at found
    · exact traced.makes n birth found
    · rename_i behind
      have made := makes (n - births.length) birth found
      rw [traced.count] at made
      have number : births.length + (n - births.length) = 0 + n := by omega
      exact number ▸ made
  · simp [traced.count]
  · intro store held user stored
    exact (traced.stores store held user stored).append later
  · intro handle user member
    exact (traced.locals handle user member).append later

theorem keep (traced : session.Traced source births) (handle : String) {user : User}
    (origin : user.FromOne births) : (session.keep handle user).Traced source births := by
  refine ⟨traced.makes, traced.count, traced.stores, ?_⟩
  intro known present member
  rcases Locals.mem_keep member with rfl | old
  · exact origin
  · exact traced.locals known present old

theorem setCurrent (traced : session.Traced source births) {store : Store}
    (origins : ∀ user ∈ store.users, user.FromOne births) :
    (session.setCurrent store).Traced source births := by
  refine ⟨traced.makes, traced.count, ?_, traced.locals⟩
  intro other held
  rcases held.of_setCurrent with rfl | old
  · exact origins
  · exact traced.stores other old

theorem perform (traced : session.Traced source births) {operation : Store.Operation}
    (filed : ∀ user, operation.inserted? = some user → user.FromOne births) :
    (session.setCurrent (session.current.perform operation).1).Traced source births := by
  refine traced.setCurrent ?_
  intro user stored
  rcases Store.mem_users_of_change (session.current.change_perform operation) stored with
    old | inserted | ⟨old, oldStored, role, rfl⟩
  · exact traced.current old
  · exact filed user inserted
  · exact (traced.current oldStored).edit (.addRole role)

/-- Every effect of a step keeps the history, with the users that it makes behind. -/
theorem effect (traced : session.Traced source births) {next : Session}
    (effect : Effect source session next) :
    ∃ later, next.Traced source (births ++ later) := by
  cases effect with
  | nothing => exact traced.grown
  | @make handle user made =>
      have makes : source.MakesAll session.created [user] :=
        (source.makesAll_nil _).cons made
      have own : user.FromOne (births ++ [user]) :=
        .of_mem (List.mem_append_right births (List.mem_singleton_self user))
      exact ⟨[user], (traced.later makes).keep handle own⟩
  | edit handle known edit =>
      exact grown (traced.keep handle ((traced.known known).edit edit))
  | perform operation inserted =>
      refine grown (traced.perform ?_)
      intro user filed
      obtain ⟨origin, known⟩ := inserted user filed
      exact traced.known known
  | find operation handle filesNobody stored =>
      refine grown (Traced.keep (traced.perform ?_) handle (traced.current stored))
      intro user filed
      rw [filesNobody] at filed
      contradiction
  | renew =>
      refine grown ⟨traced.makes, traced.count, ?_, traced.locals⟩
      intro store held
      rcases held.of_renew with rfl | old
      · intro user stored
        cases stored
      · exact traced.stores store old
  | load config =>
      refine grown ⟨traced.makes, traced.count, ?_, traced.locals⟩
      intro store held user stored
      rw [Stores.Holds.of_joined held] at stored
      cases stored
  | @seed config store seeds loaded =>
      obtain ⟨later, makes, count, origins⟩ :=
        store.sow_births source session.created seeds
      have longer := traced.later makes
      refine ⟨later, ⟨longer.makes, count.trans longer.count, ?_, longer.locals⟩⟩
      intro other held user stored
      rcases held.of_setLoaded with rfl | old
      · rcases origins user stored with before | new
        · exact (traced.stores store (.inr ⟨config, loaded⟩) user before).append later
        · exact .of_mem (List.mem_append_right births new)
      · exact longer.stores other old user stored

theorem run (traced : session.Traced source births) (steps : List Step) :
    ∃ later, (session.run source steps).1.Traced source (births ++ later) := by
  induction steps generalizing session births with
  | nil => exact traced.grown
  | cons step steps induction =>
      obtain ⟨first, afterStep⟩ := traced.effect (effect_step source session step)
      obtain ⟨others, afterRun⟩ := induction afterStep
      exact ⟨first ++ others, List.append_assoc births first others ▸ afterRun⟩

theorem number (traced : session.Traced source births) {user : User}
    (origin : user.FromOne births) :
    ∃ n < session.created, user.id = source.newId n ∧
      ∃ birth, births[n]? = some birth ∧ birth.Descends user := by
  obtain ⟨birth, member, descends⟩ := origin
  obtain ⟨n, inside, rfl⟩ := List.getElem_of_mem member
  have found : births[n]? = some births[n] := List.getElem?_eq_getElem inside
  have made : source.Makes n births[n] := by simpa using traced.makes n _ found
  exact ⟨n, traced.count ▸ inside, descends.id_eq.trans made.id_eq, _, found, descends⟩

/-- While no identifier is handed out twice, users with one identifier are copies of one
user. -/
theorem common_birth (traced : session.Traced source births)
    (distinct : source.Distinct session.created) {user other : User}
    (origin : user.FromOne births) (otherOrigin : other.FromOne births)
    (same : user.id = other.id) :
    ∃ birth ∈ births, birth.Descends user ∧ birth.Descends other := by
  obtain ⟨n, used, number, birth, made, descends⟩ := traced.number origin
  obtain ⟨m, otherUsed, otherNumber, otherBirth, otherMade, otherDescends⟩ :=
    traced.number otherOrigin
  have sameNumber : n = m :=
    distinct used otherUsed (number.symm.trans (same.trans otherNumber))
  subst sameNumber
  cases made.symm.trans otherMade
  exact ⟨birth, List.mem_of_getElem? made, descends, otherDescends⟩

end Traced

/-! ## While no identifier is handed out twice -/

section Distinct

variable {source : Source} {births : List User} {session : Session} {bound : Nat}
  (sound : session.Sound) (traced : session.Traced source births)
  (distinct : source.Distinct bound)

include sound traced distinct

theorem get?_of_unused {n : Nat} (unused : session.created ≤ n) (inside : n < bound)
    {store : Store} (held : session.stores.Holds store) :
    store.get? (source.newId n) = none := by
  cases found : store.get? (source.newId n) with
  | none => rfl
  | some user =>
      have filed := Store.mem_entries_of_get? found
      have own : user.id = source.newId n :=
        (sound.stores store held).reachable.keyed.filed _ user filed
      have stored : user ∈ store.users := List.mem_map_of_mem filed
      obtain ⟨m, used, number, _⟩ := traced.number (traced.stores store held user stored)
      have same : n = m :=
        distinct inside (show m < bound by omega) (own.symm.trans number)
      omega

theorem not_taken {position : Nat} (inside : session.created + position < bound)
    {store : Store} (held : session.stores.Holds store) :
    ¬ store.Taken source session.created position := by
  rintro (filed | ⟨earlier, before, same⟩)
  · have free := get?_of_unused sound traced distinct (Nat.le_add_right _ position)
      inside held
    rw [Store.contains, free] at filed
    contradiction
  · have earlierInside : session.created + earlier < bound := by omega
    have equal := distinct earlierInside inside same
    omega

/-- Seeding never stops.  Only the identifiers that it uses itself have to be distinct,
which are those up to the first taken one if there is any. -/
theorem sow_of_distinct {store : Store} (held : session.stores.Holds store)
    (seeds : List Seed) (uses : (store.sow source session.created seeds).created = bound) :
    (store.sow source session.created seeds).failure = none ∧
      (store.sow source session.created seeds).store.size = store.size + seeds.length := by
  rcases store.free_or_first_taken source session.created seeds.length with
    free | ⟨k, inside, taken, first⟩
  · obtain ⟨failure, entries, _⟩ := Store.sow_of_free free
    refine ⟨failure, ?_⟩
    rw [Store.size, entries]
    simp [Store.size, Source.entries]
  · obtain ⟨_, _, count⟩ := Store.sow_of_taken inside taken first
    exact absurd taken (not_taken sound traced distinct (by omega) held)

end Distinct

theorem seedLoaded_of_distinct {source : Source} {births : List User} {session : Session}
    (sound : session.Sound) (traced : session.Traced source births)
    {config : Config} {store : Store} (loaded : session.stores.loaded? = some (config, store))
    {seeds : List Seed}
    (distinct : source.Distinct (session.seedLoaded source store seeds).1.created) :
    (session.seedLoaded source store seeds).2 = .ok (.seeds seeds.length) ∧
      ∃ next, (session.seedLoaded source store seeds).1.stores.loaded? = some (config, next) ∧
        next.size = store.size + seeds.length := by
  obtain ⟨failure, size⟩ :=
    sow_of_distinct sound traced distinct (.inr ⟨config, loaded⟩) seeds rfl
  refine ⟨?_, _, Stores.loaded?_setLoaded loaded _, size⟩
  rw [seedLoaded, Seeding.answer]
  simp only [failure]

theorem step_seed_of_distinct {source : Source} {births : List User} {session : Session}
    (sound : session.Sound) (traced : session.Traced source births)
    {seeds : Option (List Json)}
    (distinct :
      source.Distinct (session.step source (.onState (.seed seeds))).1.created) :
    (∀ error, (session.step source (.onState (.seed seeds))).2 ≠ .error (.stopped error)) ∧
      ∀ config store chosen, session.stores.loaded? = some (config, store) →
        config.chosenSeeds seeds = .ok chosen →
          (session.step source (.onState (.seed seeds))).2 = .ok (.seeds chosen.length) ∧
          ∃ next, (session.step source (.onState (.seed seeds))).1.stores.loaded? =
              some (config, next) ∧
            next.size = store.size + chosen.length := by
  rw [step] at distinct ⊢
  cases loaded : session.stores.loaded? with
  | none =>
      rw [stepState_seed_of_unloaded loaded]
      refine ⟨fun error stopped => (nomatch stopped), ?_⟩
      intro config store chosen impossible
      contradiction
  | some pair =>
      obtain ⟨config, store⟩ := pair
      rw [stepState_seed_of_loaded loaded] at distinct ⊢
      cases read : config.chosenSeeds seeds with
      | error cause =>
          refine ⟨fun error stopped => (nomatch stopped), ?_⟩
          intro other otherStore chosen same impossible
          cases same
          rw [read] at impossible
          contradiction
      | ok chosen =>
          rw [read] at distinct
          have seeded := seedLoaded_of_distinct sound traced loaded distinct
          refine ⟨?_, ?_⟩
          · intro error stopped
            exact nomatch seeded.1.symm.trans stopped
          · intro other otherStore others same otherRead
            cases same
            rw [read] at otherRead
            cases otherRead
            exact seeded

theorem stored_of_refused_insert {source : Source} {session : Session} {handle : String}
    {cause : StoreError}
    (refused : (session.step source (.onStore (.insert handle))).2 = .error (.refused cause)) :
    ∃ user stored, session.locals.get? handle = some user ∧
      session.current.get? user.id = some stored ∧ cause = .duplicateUser user.id := by
  rw [step, stepStore, withUser] at refused
  cases known : session.locals.get? handle with
  | none => simp [known, fail] at refused
  | some user =>
      rw [known] at refused
      simp only [Session.perform, Store.perform] at refused
      cases attempt : session.current.insert user with
      | ok next => simp [attempt] at refused
      | error found =>
          simp only [attempt, fail, Except.error.injEq, Failure.refused.injEq] at refused
          obtain ⟨taken, duplicate⟩ := Store.insert_eq_error_iff.mp attempt
          obtain ⟨stored, present⟩ := Option.isSome_iff_exists.mp taken
          exact ⟨user, stored, rfl, present, refused ▸ duplicate⟩

theorem traced_start (source : Source) : start.Traced source [] where
  makes := by simp [Source.MakesAll]
  count := rfl
  stores := by
    rintro store (rfl | ⟨config, loaded⟩)
    · intro user stored
      cases stored
    · cases loaded
  locals := by simp [start]

/-- After any steps, every identifier that a store or a local user holds was handed out
before.  If the source repeats none of those it hands out, seeding a loaded configuration
never stops at a duplicate and stores one user for each seed; and an insertion is refused
only if a copy of the same created user is stored.  The source that counts upwards
repeats none among fewer than `2^62`. -/
theorem held_identifiers_were_handed_out (source : Source) (steps : List Step) :
    let session := (start.run source steps).1
    ∃ births, session.Traced source births ∧
      (∀ store, session.stores.Holds store → ∀ id user, (id, user) ∈ store.entries →
        user.id = id ∧ ∃ n < session.created, id = source.newId n) ∧
      (∀ handle user, (handle, user) ∈ session.locals →
        ∃ n < session.created, user.id = source.newId n) ∧
      (∀ seeds,
        let outcome := session.step source (.onState (.seed seeds))
        source.Distinct outcome.1.created →
          (∀ error, outcome.2 ≠ .error (.stopped error)) ∧
          ∀ config store chosen, session.stores.loaded? = some (config, store) →
            config.chosenSeeds seeds = .ok chosen →
              outcome.2 = .ok (.seeds chosen.length) ∧
              ∃ next, outcome.1.stores.loaded? = some (config, next) ∧
                next.size = store.size + chosen.length) ∧
      (∀ handle cause, source.Distinct session.created →
        (session.step source (.onStore (.insert handle))).2 = .error (.refused cause) →
          ∃ user stored, session.locals.get? handle = some user ∧
            session.current.get? user.id = some stored ∧
            ∃ birth ∈ births, birth.Descends user ∧ birth.Descends stored) ∧
      ∀ times count, count < Nat.pow 2 62 → (Source.ofLists [] times).Distinct count := by
  intro session
  have sound : session.Sound := sound_start.run source steps
  obtain ⟨births, traced⟩ := (traced_start source).run steps
  rw [List.nil_append] at traced
  refine ⟨births, traced, ?_, ?_, ?_, ?_, Source.distinct_ofLists_nil⟩
  · intro store held id user filed
    have own := (sound.stores store held).reachable.keyed.filed id user filed
    obtain ⟨n, used, number, _⟩ :=
      traced.number (traced.stores store held user (List.mem_map_of_mem filed))
    exact ⟨own, n, used, own.symm.trans number⟩
  · intro handle user member
    obtain ⟨n, used, number, _⟩ := traced.number (traced.locals handle user member)
    exact ⟨n, used, number⟩
  · intro seeds outcome distinct
    exact step_seed_of_distinct sound traced distinct
  · intro handle cause distinct refused
    obtain ⟨user, stored, known, present, _⟩ := stored_of_refused_insert refused
    refine ⟨user, stored, known, present, ?_⟩
    have filed := Store.mem_entries_of_get? present
    have own := sound.current.reachable.keyed.filed _ stored filed
    exact traced.common_birth distinct (traced.known known)
      (traced.current (List.mem_map_of_mem filed)) own.symm

/-- A configuration is seeded, and a user is created, filed, removed and filed again. -/
def refilling : List Step :=
  [ .onState (.load "[[users]]\nusername = 'u'\nemail = ''\n"), .onState (.seed none),
    .onUser (.create "a" "ann" "" none), .onStore (.insert "a"),
    .onStore (.remove (.handle "a") none), .onStore (.insert "a") ]

/-- A user is filed, and its local copy gets a role. -/
def diverging : List Step :=
  [.onUser (.create "a" "ann" "" none), .onStore (.insert "a"), .onUser (.addRole "a" "admin")]

/-- The source that counts upwards. -/
def counting : Source :=
  .ofLists [] []

/-- Seeding for a second time adds a user, and a changed copy of a filed user is refused. -/
theorem held_identifiers_of_repeated_seeding :
    (∃ config store next,
      (start.run counting refilling).1.stores.loaded? = some (config, store) ∧
        store.size = 2 ∧
        ((start.run counting refilling).1.step counting
          (.onState (.seed none))).1.stores.loaded? = some (config, next) ∧ next.size = 3) ∧
      ∃ user stored birth : User,
        (start.run counting diverging).1.locals.get? "a" = some user ∧
          (start.run counting diverging).1.current.get? user.id = some stored ∧
            birth.Descends user ∧ birth.Descends stored := by
  have loaded : ((start.run counting refilling).1.stores.loaded?.map fun pair =>
      (pair.1.users.length, pair.2.size)) = some (1, 2) := by decide +kernel
  have few : ((start.run counting refilling).1.step counting
      (.onState (.seed none))).1.created < Nat.pow 2 62 := by decide +kernel
  have one : (start.run counting diverging).1.created < Nat.pow 2 62 := by decide +kernel
  have refused : ((start.run counting diverging).1.step counting
      (.onStore (.insert "a"))).2 = .error (.refused (.duplicateUser (.random 1))) := rfl
  obtain ⟨⟨config, store⟩, found, sizes⟩ := Option.map_eq_some_iff.mp loaded
  obtain ⟨users, size⟩ := Prod.mk.inj sizes
  obtain ⟨_, _, _, _, seeding, _, distinct⟩ :=
    held_identifiers_were_handed_out counting refilling
  obtain ⟨_, next, after, grown⟩ :=
    (seeding none (distinct [] _ few)).2 config store config.users found rfl
  obtain ⟨_, _, _, _, _, inserting, _⟩ :=
    held_identifiers_were_handed_out counting diverging
  obtain ⟨user, stored, known, present, birth, _, descends, storedDescends⟩ :=
    inserting "a" _ (distinct [] _ one) refused
  refine ⟨⟨config, store, next, found, size, after, ?_⟩,
    user, stored, birth, known, present, descends, storedDescends⟩
  rw [grown, size, users]

end Session

end UserRegistry
