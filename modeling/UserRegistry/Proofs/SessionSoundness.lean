import UserRegistry.Proofs.SeedingOutcome
import UserRegistry.Proofs.SessionEffect

/-!
# Soundness of sessions

At every moment of a session, every store it holds files its users under their own
identifiers, each once, and no user repeats a role.  Users move freely between the
stores and the local users, so neither half can be kept alone: the roles of a store
rest on those of the local users inserted into it, and the other way round.
-/

namespace UserRegistry

/-! ## Roles of single users -/

theorem User.Edit.roles_nodup {user edited : User} (edit : user.Edit edited)
    (distinct : user.roles.Nodup) : edited.roles.Nodup := by
  cases edit with
  | copy => exact distinct
  | addRole role => exact Roles.nodup_add distinct role
  | setMetadata key value => exact distinct
  | eraseMetadata key => exact distinct
  | clearMetadata => exact distinct

theorem Source.Makes.roles_nodup {source : Source} {n : Nat} {user : User}
    (made : source.Makes n user) : user.roles.Nodup := by
  cases made with
  | create username email roles => exact Roles.nodup_ofList _
  | sow seed => exact Roles.nodup_ofList _

/-! ## Sound stores -/

namespace Store

/-- A store that operations lead to, of users that repeat no role. -/
structure Sound (store : Store) : Prop where
  reachable : store.Reachable
  roles_nodup : ∀ user ∈ store.users, user.roles.Nodup

theorem sound_withCapacity (capacity : Nat) : (withCapacity capacity).Sound where
  reachable := .withCapacity capacity
  roles_nodup := by simp [withCapacity, users]

/-- After an operation the stored users are old ones, the user it files, and old
ones with a further role. -/
theorem mem_users_of_change {store next : Store} {operation : Operation}
    (change : store.Change operation next) {user : User}
    (stored : user ∈ next.users) :
    user ∈ store.users ∨ operation.inserted? = some user ∨
      ∃ old ∈ store.users, ∃ role, user = old.addRole role := by
  obtain ⟨entry, member, rfl⟩ := List.mem_map.mp stored
  cases change with
  | nothing => exact .inl stored
  | insert inserted =>
      obtain ⟨_, rfl⟩ := insert_eq_ok_iff.mp inserted
      rcases List.mem_append.mp member with old | new
      · exact .inl (List.mem_map_of_mem old)
      · rw [List.mem_singleton.mp new]
        exact .inr (.inl rfl)
  | erase id =>
      exact .inl (List.mem_map_of_mem (List.mem_of_mem_filter member))
  | @addRole id role _ added =>
      obtain ⟨_, rfl⟩ := addRole_eq_ok_iff.mp added
      obtain ⟨old, oldMember, rfl⟩ := List.mem_map.mp member
      have oldStored : old.2 ∈ store.users := List.mem_map_of_mem oldMember
      dsimp only
      split
      · exact .inr (.inr ⟨old.2, oldStored, role, rfl⟩)
      · exact .inl oldStored
  | clear => cases member

theorem Sound.perform {store : Store} (sound : store.Sound)
    {operation : Operation}
    (filed : ∀ user, operation.inserted? = some user → user.roles.Nodup) :
    (store.perform operation).1.Sound := by
  refine ⟨sound.reachable.perform operation, ?_⟩
  intro user stored
  rcases mem_users_of_change (store.change_perform operation) stored with
    old | inserted | ⟨old, oldStored, role, rfl⟩
  · exact sound.roles_nodup user old
  · exact filed user inserted
  · exact Roles.nodup_add (sound.roles_nodup old oldStored) role

theorem Sound.performAll {store : Store} (sound : store.Sound)
    {operations : List Operation}
    (filed : ∀ operation ∈ operations, ∀ user,
      operation.inserted? = some user → user.roles.Nodup) :
    (store.performAll operations).1.Sound := by
  induction operations generalizing store with
  | nil => exact sound
  | cons operation operations induction =>
      obtain ⟨first, rest⟩ := List.forall_mem_cons.mp filed
      exact induction (sound.perform first) rest

theorem Sound.sow {store : Store} (sound : store.Sound) (source : Source)
    (created : Nat) (seeds : List Seed) :
    (store.sow source created seeds).store.Sound := by
  refine sow_keeps Sound sound ?_ seeds
  intro store next n seed inserted sound
  let user := source.sow n seed
  have performed : (store.perform (.insert user)).1.Sound := by
    refine sound.perform ?_
    intro filed same
    cases same
    exact (Source.Makes.sow seed : source.Makes n user).roles_nodup
  simpa [Store.perform, user, inserted] using performed

end Store

/-! ## Sound sessions -/

/-- Whether a store is the current one or that of the loaded configuration. -/
def Stores.Holds (stores : Stores) (store : Store) : Prop :=
  store = stores.current ∨ ∃ config, stores.loaded? = some (config, store)

namespace Stores

variable {stores : Stores} {config : Config} {next store : Store}

theorem Holds.of_setCurrent (held : (stores.setCurrent next).Holds store) :
    store = next ∨ stores.Holds store := by
  cases stores with
  | unloaded current =>
      rcases held with new | ⟨_, loaded⟩
      · exact .inl new
      · cases loaded
  | joined config joint =>
      -- the loaded store is the current one, and so it was set as well
      rcases held with new | ⟨_, loaded⟩
      · exact .inl new
      · cases loaded
        exact .inl rfl
  | apart config other current =>
      rcases held with new | loaded
      · exact .inl new
      · exact .inr (.inr loaded)

theorem Holds.of_setLoaded (held : (stores.setLoaded next).Holds store) :
    store = next ∨ stores.Holds store := by
  cases stores with
  | unloaded current => exact .inr held
  | joined config joint =>
      rcases held with new | ⟨_, loaded⟩
      · exact .inl new
      · cases loaded
        exact .inl rfl
  | apart config other current =>
      rcases held with old | ⟨_, loaded⟩
      · exact .inr (.inl old)
      · cases loaded
        exact .inl rfl

theorem Holds.of_renew (held : stores.renew.Holds store) :
    store = .empty ∨ stores.Holds store := by
  cases stores with
  | unloaded current =>
      rcases held with new | ⟨_, loaded⟩
      · exact .inl new
      · cases loaded
  | joined config joint =>
      -- the store that was both is from now on the loaded one only
      rcases held with new | loaded
      · exact .inl new
      · exact .inr (.inr loaded)
  | apart config other current =>
      rcases held with new | loaded
      · exact .inl new
      · exact .inr (.inr loaded)

theorem Holds.of_joined (held : (joined config next).Holds store) :
    store = next := by
  rcases held with current | ⟨_, loaded⟩
  · exact current
  · cases loaded
    rfl

end Stores

theorem Locals.mem_keep {locals : Locals} {handle known : String}
    {kept user : User} (member : (known, user) ∈ locals.keep handle kept) :
    user = kept ∨ (known, user) ∈ locals := by
  rcases List.mem_cons.mp member with new | old
  · cases new
    exact .inl rfl
  · exact .inr (List.mem_of_mem_filter old)

theorem Locals.mem_of_get? {locals : Locals} {handle : String} {user : User}
    (known : locals.get? handle = some user) : (handle, user) ∈ locals :=
  Associations.mem_of_lookup known

namespace Session

/-- All stores of a session are sound, and no local user repeats a role. -/
structure Sound (session : Session) : Prop where
  stores : ∀ store, session.stores.Holds store → store.Sound
  locals : ∀ handle user, (handle, user) ∈ session.locals → user.roles.Nodup

theorem sound_start : start.Sound where
  stores := by
    rintro store (rfl | ⟨config, loaded⟩)
    · exact Store.sound_withCapacity 0
    · cases loaded
  locals := by simp [start]

theorem Sound.current {session : Session} (sound : session.Sound) :
    session.current.Sound :=
  sound.stores _ (.inl rfl)

theorem Sound.known {session : Session} (sound : session.Sound)
    {handle : String} {user : User}
    (known : session.locals.get? handle = some user) : user.roles.Nodup :=
  sound.locals handle user (Locals.mem_of_get? known)

theorem Sound.keep {session : Session} (sound : session.Sound)
    (handle : String) {user : User} (distinct : user.roles.Nodup) :
    (session.keep handle user).Sound := by
  refine ⟨sound.stores, ?_⟩
  intro known present member
  rcases Locals.mem_keep member with rfl | old
  · exact distinct
  · exact sound.locals known present old

theorem Sound.setCurrent {session : Session} (sound : session.Sound)
    {store : Store} (soundStore : store.Sound) :
    (session.setCurrent store).Sound := by
  refine ⟨?_, sound.locals⟩
  intro other held
  rcases held.of_setCurrent with rfl | old
  · exact soundStore
  · exact sound.stores other old

theorem Sound.effect {source : Source} {session next : Session}
    (sound : session.Sound) (effect : Effect source session next) :
    next.Sound := by
  cases effect with
  | nothing => exact sound
  | make handle made =>
      have kept := sound.keep handle made.roles_nodup
      exact ⟨kept.stores, kept.locals⟩
  | edit handle known edit =>
      exact sound.keep handle (edit.roles_nodup (sound.known known))
  | perform operation inserted =>
      refine sound.setCurrent (sound.current.perform ?_)
      intro user filed
      obtain ⟨origin, known⟩ := inserted user filed
      exact sound.known known
  | find operation handle filesNobody stored =>
      have found := sound.current.roles_nodup _ stored
      refine Sound.keep (sound.setCurrent (sound.current.perform ?_)) handle found
      intro user filed
      rw [filesNobody] at filed
      contradiction
  | renew =>
      refine ⟨?_, sound.locals⟩
      intro store held
      rcases held.of_renew with rfl | old
      · exact Store.sound_withCapacity 0
      · exact sound.stores store old
  | load config =>
      refine ⟨?_, sound.locals⟩
      intro store held
      rw [Stores.Holds.of_joined held]
      exact Store.sound_withCapacity _
  | @seed config store seeds loaded =>
      have seeded : store.Sound := sound.stores store (.inr ⟨config, loaded⟩)
      refine ⟨?_, sound.locals⟩
      intro other held
      rcases held.of_setLoaded with rfl | old
      · exact seeded.sow source session.created seeds
      · exact sound.stores other old

theorem Sound.run {session : Session} (sound : session.Sound) (source : Source)
    (steps : List Step) : (session.run source steps).1.Sound := by
  induction steps generalizing session with
  | nil => exact sound
  | cons step steps induction =>
      exact induction (sound.effect (effect_step source session step))

/-- After any steps, failed or not, the current store and the store of the loaded
configuration file every user under its own identifier and no identifier twice,
and neither a stored nor a local user repeats a role. -/
theorem users_keyed_and_roles_distinct (source : Source) (steps : List Step) :
    (∀ store, (start.run source steps).1.stores.Holds store →
      (∀ id user, (id, user) ∈ store.entries → user.id = id) ∧
        (store.entries.map Prod.fst).Nodup ∧
        ∀ id user, (id, user) ∈ store.entries → user.roles.Nodup) ∧
      ∀ handle user, (handle, user) ∈ (start.run source steps).1.locals →
        user.roles.Nodup := by
  have sound := sound_start.run source steps
  refine ⟨?_, sound.locals⟩
  intro store held
  have soundStore := sound.stores store held
  have keyed := soundStore.reachable.keyed
  refine ⟨keyed.filed, keyed.distinct, ?_⟩
  intro id user member
  exact soundStore.roles_nodup user (List.mem_map_of_mem member)

end Session

end UserRegistry
