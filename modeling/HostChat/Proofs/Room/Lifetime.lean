import HostChat.Proofs.Room.Frame

/-! # Making, finding and removing rooms

Attaching follows both names of a room to a store that holds one. Making a room either finds others
running in the old one, and changes nothing, or gives both names to new objects, or fails and at most
takes the two names away. Removing a room takes both names away.
-/

namespace HostChat

variable {σ : Type}

theorem except_bind_eq_ok_iff {ε α β : Type} {action : Except ε α} {next : α → Except ε β}
    {value : β} :
    (action >>= next) = .ok value ↔ ∃ middle, action = .ok middle ∧ next middle = .ok value := by
  cases action <;> simp [bind, Except.bind]

theorem mapError_eq_ok_iff {ε φ α : Type} {action : Except ε α} {change : ε → φ} {value : α} :
    action.mapError change = .ok value ↔ action = .ok value := by
  cases action <;> simp [Except.mapError]

theorem Host.isRoom_iff {host : Host σ} {store : Nat} :
    host.IsRoom store ↔
      ¬(host.stores.objects[store]?).elim 0 Store.size < RoomMemory.byteSize ∧
        (host.memory store).header.check = .ok () := by
  cases found : host.stores.objects[store]? with
  | none =>
    have positive : 0 < RoomMemory.byteSize := by decide
    simp [IsRoom, found, positive]
  | some object => simp [IsRoom, memory, found]

namespace Room

variable {host after : Host σ} {ns : String} {id : ParticipantId} {room : Room}
  {running : ParticipantId → Bool}

theorem attach_eq_ok_iff :
    attach ns id host = .ok room ↔
      ∃ store lock, host.stores.find? .store (RoomNames.ofRoom ns id).store = some store ∧
        host.IsRoom store ∧ host.locks.find? .lock (RoomNames.ofRoom ns id).lock = some lock ∧
          room = ⟨id, .ofRoom ns id, store, lock⟩ := by
  simp only [attach, except_bind_eq_ok_iff, Directory.openObject_eq_ok_iff, Host.isRoom_iff]
  constructor
  · rintro ⟨store, found, success⟩
    split_ifs at success with small
    · obtain ⟨_, wrong, -⟩ := except_bind_eq_ok_iff.mp success
      cases wrong
    · obtain ⟨_, checked, rest⟩ := except_bind_eq_ok_iff.mp success
      obtain ⟨lock, opened, same⟩ := except_bind_eq_ok_iff.mp rest
      cases same
      exact ⟨store, lock, found, ⟨small, mapError_eq_ok_iff.mp checked⟩,
        Directory.openObject_eq_ok_iff.mp opened, rfl⟩
  · rintro ⟨store, lock, found, ⟨large, checked⟩, opened, rfl⟩
    refine ⟨store, found, ?_⟩
    rw [if_neg large]
    refine except_bind_eq_ok_iff.mpr ⟨(), mapError_eq_ok_iff.mpr checked, ?_⟩
    exact except_bind_eq_ok_iff.mpr ⟨lock, Directory.openObject_eq_ok_iff.mpr opened, rfl⟩

theorem occupants_host (running : ParticipantId → Bool) (ns : String) (id : ParticipantId)
    (host : Host σ) : (occupants running ns id host).2 = host := by
  simp only [occupants]
  split
  next => rfl
  next room _ =>
    cases looked : room.inspect host fun memory => memory.registry.participants.countP
        fun participant => decide (participant ≠ id) && running participant with
    | none => rfl
    | some outcome => exact inspect_eq_some looked

theorem occupants_of_attach (attached : attach ns id host = .ok room)
    (unlocked : room.Unlocked host) :
    (occupants running ns id host).1 = (room.memory host).registry.participants.countP
      fun participant => participant ≠ id && running participant := by
  simp only [occupants, attached, inspect_of_unlocked _ unlocked, Option.getD_some]

theorem occupants_of_error {error : RoomError} (refused : attach ns id host = .error error) :
    (occupants running ns id host).1 = 0 := by
  simp only [occupants, refused]

theorem unlinkStore_eq_ok {names : RoomNames} (success : unlinkStore names host = .ok after) :
    ∃ stores present, host.stores.unlink .store names.store = .ok (present, stores) ∧
      after = { host with stores } := by
  simp only [unlinkStore] at success
  cases result : host.stores.unlink .store names.store with
  | error error =>
    rw [result] at success
    cases success
  | ok outcome =>
    rw [result] at success
    cases success
    exact ⟨outcome.2, outcome.1, rfl, rfl⟩

theorem unlinkLock_eq_ok {names : RoomNames} (success : unlinkLock names host = .ok after) :
    ∃ locks present, host.locks.unlink .lock names.lock = .ok (present, locks) ∧
      after = { host with locks } := by
  simp only [unlinkLock] at success
  cases result : host.locks.unlink .lock names.lock with
  | error error =>
    rw [result] at success
    cases success
  | ok outcome =>
    rw [result] at success
    cases success
    exact ⟨outcome.2, outcome.1, rfl, rfl⟩

/-- The names of `names` may be gone, and nothing else has happened to what was there before. -/
structure Forgets (names : RoomNames) (host after : Host σ) : Prop where
  spares : host.Spares after
  stores : host.stores.Loses .store names.store after.stores
  locks : host.locks.Loses .lock names.lock after.locks

theorem Forgets.refl (names : RoomNames) (host : Host σ) : Forgets names host host :=
  ⟨.refl host, .refl, .refl⟩

theorem Forgets.trans {names : RoomNames} {middle : Host σ} (first : Forgets names host middle)
    (second : Forgets names middle after) : Forgets names host after :=
  ⟨first.spares.trans second.spares, first.stores.trans second.stores,
    first.locks.trans second.locks⟩

theorem forgets_of_unlinkStore {names : RoomNames} (success : unlinkStore names host = .ok after) :
    Forgets names host after := by
  obtain ⟨stores, present, removed, rfl⟩ := unlinkStore_eq_ok success
  exact ⟨.of_objects rfl (Directory.unlink_objects removed) rfl,
    Directory.loses_of_unlink removed, .refl⟩

theorem forgets_of_unlinkLock {names : RoomNames} (success : unlinkLock names host = .ok after) :
    Forgets names host after := by
  obtain ⟨locks, present, removed, rfl⟩ := unlinkLock_eq_ok success
  exact ⟨.of_objects rfl rfl (Directory.unlink_objects removed), .refl,
    Directory.loses_of_unlink removed⟩

/-- However removing a room ends, it only takes names away. -/
theorem forgets_unlink (room : Room) (host : Host σ) :
    Forgets room.names host (room.unlink host).2 := by
  simp only [unlink]
  cases store : unlinkStore room.names host with
  | ok middle =>
    have first := forgets_of_unlinkStore store
    cases lock : unlinkLock room.names middle with
    | ok last =>
      simp only [lock]
      exact first.trans (forgets_of_unlinkLock lock)
    | error error =>
      simp only [lock]
      exact first
  | error error =>
    cases lock : unlinkLock room.names host with
    | ok last => exact forgets_of_unlinkLock lock
    | error error => exact .refl _ _

/-- No object goes away with its name. -/
theorem unlink_objects (room : Room) (host : Host σ) :
    (room.unlink host).2.stores.objects = host.stores.objects ∧
      (room.unlink host).2.locks.objects = host.locks.objects := by
  simp only [unlink]
  cases store : unlinkStore room.names host with
  | ok middle =>
    obtain ⟨stores, _, removedStore, rfl⟩ := unlinkStore_eq_ok store
    have kept := Directory.unlink_objects removedStore
    cases lock : unlinkLock room.names { host with stores } with
    | ok last =>
      obtain ⟨locks, _, removedLock, rfl⟩ := unlinkLock_eq_ok lock
      simp only [lock]
      exact ⟨kept, Directory.unlink_objects removedLock⟩
    | error error =>
      simp only [lock, and_true]
      exact kept
  | error error =>
    cases lock : unlinkLock room.names host with
    | ok last =>
      obtain ⟨locks, _, removedLock, rfl⟩ := unlinkLock_eq_ok lock
      exact ⟨rfl, Directory.unlink_objects removedLock⟩
    | error error => exact ⟨rfl, rfl⟩

private theorem unlinkStore_modifyLock (names : RoomNames) (host : Host σ) (lock : Nat)
    (change : Nat → Nat) :
    unlinkStore names (host.modifyLock lock change) =
      (unlinkStore names host).map (·.modifyLock lock change) := by
  simp only [unlinkStore, Host.modifyLock]
  cases host.stores.unlink .store names.store <;> rfl

private theorem unlinkLock_modifyLock (names : RoomNames) (host : Host σ) (lock : Nat)
    (change : Nat → Nat) :
    unlinkLock names (host.modifyLock lock change) =
      (unlinkLock names host).map (·.modifyLock lock change) := by
  simp only [unlinkLock, Host.modifyLock, Directory.unlink_modify]
  cases host.locks.unlink .lock names.lock <;> rfl

theorem unlink_modifyLock (room : Room) (host : Host σ) (lock : Nat) (change : Nat → Nat) :
    room.unlink (host.modifyLock lock change) =
      ((room.unlink host).1, (room.unlink host).2.modifyLock lock change) := by
  simp only [unlink, unlinkStore_modifyLock, unlinkLock_modifyLock]
  cases unlinkStore room.names host with
  | ok middle =>
    simp only [Except.map, unlinkLock_modifyLock]
    cases unlinkLock room.names middle <;> rfl
  | error error => cases unlinkLock room.names host <;> rfl

theorem unlinkStore_of_key {names : RoomNames} {storeKey : String}
    (legal : objectKey .store names.store = .ok storeKey) (host : Host σ) :
    unlinkStore names host =
      .ok { host with stores := { host.stores with names := host.stores.names.erase storeKey } } := by
  simp only [unlinkStore, Directory.unlink_of_key legal]
  rfl

theorem unlinkLock_of_key {names : RoomNames} {lockKey : String}
    (legal : objectKey .lock names.lock = .ok lockKey) (host : Host σ) :
    unlinkLock names host =
      .ok { host with locks := { host.locks with names := host.locks.names.erase lockKey } } := by
  simp only [unlinkLock, Directory.unlink_of_key legal]
  rfl

/-- Removing a room whose names are proper takes away both of them. -/
theorem unlink_of_keys {storeKey lockKey : String}
    (legalStore : objectKey .store room.names.store = .ok storeKey)
    (legalLock : objectKey .lock room.names.lock = .ok lockKey) (host : Host σ) :
    room.unlink host = (.ok (), { host with
      stores := { host.stores with names := host.stores.names.erase storeKey }
      locks := { host.locks with names := host.locks.names.erase lockKey } }) := by
  simp only [unlink, unlinkStore_of_key legalStore, unlinkLock_of_key legalLock]

/-- A room that was made: both its names lead to new objects, and all else is as before. -/
structure Made (host after : Host σ) (room : Room) (storeKey lockKey : String) : Prop where
  spares : host.Spares after
  legalStore : objectKey .store room.names.store = .ok storeKey
  legalLock : objectKey .lock room.names.lock = .ok lockKey
  store : room.store = host.stores.objects.size
  lock : room.lock = host.locks.objects.size
  fresh : after.stores.objects[room.store]? = some .fresh
  unlocked : after.locks.objects[room.lock]? = some 1
  stores_find? : ∀ key, after.stores.names.find? key =
    if storeKey = key then some room.store else host.stores.names.find? key
  locks_find? : ∀ key, after.locks.names.find? key =
    if lockKey = key then some room.lock else host.locks.names.find? key

theorem createFresh_cases {names : RoomNames} {result : Except RoomError Room}
    (outcome : createFresh id names host = (result, after)) :
    (∃ error, result = .error error ∧ Forgets names host after) ∨
      ∃ room storeKey lockKey, result = .ok room ∧ room.id = id ∧ room.names = names ∧
        Made host after room storeKey lockKey := by
  simp only [createFresh] at outcome
  cases created : host.stores.create .store names.store .fresh with
  | error error =>
    rw [created] at outcome
    cases outcome
    exact .inl ⟨error, rfl, .refl _ _⟩
  | ok pair =>
    obtain ⟨store, stores⟩ := pair
    obtain ⟨storeKey, legalStore, freeStore, rfl, rfl⟩ := Directory.create_eq_ok created
    simp only [created, createLock] at outcome
    cases lockCreated : host.locks.create .lock names.lock 1 with
    | error error =>
      simp only [lockCreated, unlinkStore_of_key legalStore] at outcome
      cases outcome
      refine .inl ⟨error, rfl, Host.spares_pushStore host _, ?_, .refl⟩
      exact Directory.loses_of_insert_erase _ _ freeStore
    | ok pair =>
      obtain ⟨lock, locks⟩ := pair
      obtain ⟨lockKey, legalLock, freeLock, rfl, rfl⟩ := Directory.create_eq_ok lockCreated
      simp only [lockCreated] at outcome
      cases outcome
      refine .inr ⟨_, storeKey, lockKey, rfl, rfl, rfl, ?_⟩
      exact
        { spares := (Host.spares_pushStore host _).trans (Host.spares_pushLock _ _)
          legalStore := legalStore
          legalLock := legalLock
          store := rfl
          lock := rfl
          fresh := Array.getElem?_push_size
          unlocked := Array.getElem?_push_size
          stores_find? := fun key => Table.find?_insert _ _ _ _
          locks_find? := fun key => Table.find?_insert _ _ _ _ }

theorem Forgets.made {names : RoomNames} {middle : Host σ} {storeKey lockKey : String}
    (forgets : Forgets names host middle) (same : room.names = names)
    (objects : middle.stores.objects = host.stores.objects)
    (locks : middle.locks.objects = host.locks.objects)
    (made : Made middle after room storeKey lockKey) : Made host after room storeKey lockKey where
  spares := forgets.spares.trans made.spares
  legalStore := made.legalStore
  legalLock := made.legalLock
  store := by rw [made.store, objects]
  lock := by rw [made.lock, locks]
  fresh := made.fresh
  unlocked := made.unlocked
  stores_find? key := by
    rw [made.stores_find?]
    split_ifs with own
    · rfl
    · refine forgets.stores.find?_eq fun legal => own ?_
      rw [← same, made.legalStore] at legal
      exact Except.ok.inj legal
  locks_find? key := by
    rw [made.locks_find?]
    split_ifs with own
    · rfl
    · refine forgets.locks.find?_eq fun legal => own ?_
      rw [← same, made.legalLock] at legal
      exact Except.ok.inj legal

theorem create_of_occupied {count : Nat} (occupied : (occupants running ns id host).1 = count + 1) :
    create running ns id host =
      (.error (.inUse (RoomNames.ofRoom ns id).store (count + 1)), host) := by
  have both : occupants running ns id host = (count + 1, host) :=
    Prod.ext occupied (occupants_host running ns id host)
  simp only [create, both]

theorem create_of_vacant {result : Except RoomError Room}
    (vacant : (occupants running ns id host).1 = 0)
    (outcome : create running ns id host = (result, after)) :
    (∃ error, result = .error error ∧ Forgets (.ofRoom ns id) host after) ∨
      ∃ room storeKey lockKey, result = .ok room ∧ room.id = id ∧ room.names = .ofRoom ns id ∧
        Made host after room storeKey lockKey := by
  have both : occupants running ns id host = (0, host) :=
    Prod.ext vacant (occupants_host running ns id host)
  simp only [create, both] at outcome
  cases store : unlinkStore (.ofRoom ns id) host with
  | error error =>
    simp only [store] at outcome
    cases outcome
    exact .inl ⟨error, rfl, .refl _ _⟩
  | ok middle =>
    simp only [store] at outcome
    have first := forgets_of_unlinkStore store
    cases lock : unlinkLock (.ofRoom ns id) middle with
    | error error =>
      simp only [lock] at outcome
      cases outcome
      exact .inl ⟨error, rfl, first⟩
    | ok last =>
      simp only [lock] at outcome
      have both := first.trans (forgets_of_unlinkLock lock)
      rcases createFresh_cases outcome with ⟨error, rfl, forgets⟩ | ⟨room, storeKey, lockKey, rfl, id, names, made⟩
      · exact .inl ⟨error, rfl, both.trans forgets⟩
      · refine .inr ⟨room, storeKey, lockKey, rfl, id, names, ?_⟩
        obtain ⟨stores, _, removedStore, rfl⟩ := unlinkStore_eq_ok store
        obtain ⟨locks, _, removedLock, rfl⟩ := unlinkLock_eq_ok lock
        exact both.made names (Directory.unlink_objects removedStore)
          (Directory.unlink_objects removedLock) made

theorem spares_create (running : ParticipantId → Bool) (ns : String) (id : ParticipantId)
    (host : Host σ) : host.Spares (create running ns id host).2 := by
  cases count : (occupants running ns id host).1 with
  | zero =>
    rcases outcome : create running ns id host with ⟨result, after⟩
    rcases create_of_vacant count outcome with ⟨_, -, forgets⟩ | ⟨_, _, _, -, -, -, made⟩
    · exact forgets.spares
    · exact made.spares
  | succ present =>
    rw [create_of_occupied count]
    exact .refl host

/-- A room that was made took no place of one that others are running in. -/
theorem made_of_create (outcome : create running ns id host = (.ok room, after)) :
    ∃ storeKey lockKey, room.id = id ∧ room.names = .ofRoom ns id ∧
      Made host after room storeKey lockKey := by
  cases count : (occupants running ns id host).1 with
  | zero =>
    rcases create_of_vacant count outcome with ⟨_, wrong, -⟩ | ⟨_, storeKey, lockKey, same, rest⟩
    · cases wrong
    · cases same
      exact ⟨storeKey, lockKey, rest⟩
  | succ present =>
    rw [create_of_occupied count] at outcome
    cases outcome

end Room

end HostChat
