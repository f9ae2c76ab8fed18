import HostChat.Proofs.Session.Held

/-! # The effects of session operations

What each operation of a session changes in the registries, in the contents of the mailboxes and
under the names of a host. Operations on messages touch neither registries nor names. Registering
changes one registry, and leaving changes one registry and one mailbox and may take two names away.
-/

namespace HostChat

variable {σ : Type}

namespace Host

variable {host after last : Host σ} {store : Nat}

/-- The same rooms with the same participants. -/
structure SameMembers (host after : Host σ) : Prop where
  rooms : host.SameRooms after
  registry : ∀ store, after.registry store = host.registry store

theorem SameMembers.refl (host : Host σ) : host.SameMembers host := ⟨.refl host, fun _ => rfl⟩

theorem SameMembers.trans (first : host.SameMembers after) (second : after.SameMembers last) :
    host.SameMembers last :=
  ⟨first.rooms.trans second.rooms, fun store => (second.registry store).trans (first.registry store)⟩

theorem sameMembers_carrier (host : Host σ) (carrier : σ) : host.SameMembers { host with carrier } :=
  ⟨sameRooms_carrier host carrier, fun _ => rfl⟩

theorem sameMembers_setMailbox (mailbox : Mailbox) (made : store < host.stores.objects.size) :
    host.SameMembers (host.setMemory store { host.memory store with mailbox }) :=
  ⟨sameRooms_setMemory host store (host.memory store).registry mailbox,
    fun _ => registry_setMailbox mailbox made⟩

theorem sameMembers_notify [Carrier σ] {sender target : ParticipantId} {notification : Notification}
    (success : host.notify sender target notification = .ok after) : host.SameMembers after := by
  obtain ⟨carrier, -, rfl⟩ := notify_eq_ok success
  exact sameMembers_carrier host carrier

end Host

namespace Session

variable {session : Session} {host after : Host σ}

/-- The participant has claimed a place in its room, and nothing else has happened. -/
structure Registers (session : Session) (host after : Host σ) : Prop where
  rooms : host.SameRooms after
  carrier : after.carrier = host.carrier
  contents : after.contents = host.contents
  registry : ∃ place claimed,
    (host.registry session.room.store).claim session.me = .ok (place, claimed) ∧
      ∀ other, after.registry other =
        if other = session.room.store then claimed else host.registry other

private theorem registerHeld_of_claim (session : Session) {place : Fin maxParticipants}
    {claimed : Registry} (made : session.room.store < host.stores.objects.size)
    (claims : (host.registry session.room.store).claim session.me = .ok (place, claimed)) :
    ∃ after, session.registerHeld host = (.ok place, after) ∧ session.Registers host after := by
  have held : session.registerHeld host = (.ok place, session.room.setMemory host
      { session.room.memory host with registry := claimed }) := by
    rw [Host.registry] at claims
    simp only [registerHeld, Room.memory, claims]
  refine ⟨_, held, ?_⟩
  exact
    { rooms := Host.sameRooms_setMemory host session.room.store claimed _
      carrier := rfl
      contents := Host.contents_setRegistry claimed made
      registry := ⟨place, claimed, claims, fun other => Host.registry_setMemory _ made⟩ }

theorem registerHeld_of_error (session : Session) {error : RoomError}
    (refused : (host.registry session.room.store).claim session.me = .error error) :
    session.registerHeld host = (.error (.ofRoom error), host) := by
  rw [Host.registry] at refused
  simp only [registerHeld, Room.memory, refused]

/-- Registering either takes effect, or is refused and changes nothing. -/
theorem register_cases (session : Session) {result : Except ChatError (Fin maxParticipants)}
    (made : session.room.store < host.stores.objects.size)
    (outcome : session.register host = some (result, after)) :
    (∃ error, result = .error error ∧ after = host) ∨
      ∃ place, result = .ok place ∧ session.Registers host after := by
  obtain ⟨-, held⟩ := register_eq_some_iff.mp outcome
  cases claims : (host.registry session.room.store).claim session.me with
  | error error =>
    rw [registerHeld_of_error session claims] at held
    cases held
    exact .inl ⟨_, rfl, rfl⟩
  | ok claim =>
    obtain ⟨place, claimed⟩ := claim
    obtain ⟨registered, success, effect⟩ := registerHeld_of_claim session made claims
    rw [success] at held
    cases held
    exact .inr ⟨place, rfl, effect⟩

/-- A participant and its messages have gone from the memory of its room, and at most the names of
that room have gone with them. -/
structure Vacates (session : Session) (host after : Host σ) : Prop where
  size : after.stores.objects.size = host.stores.objects.size
  locks : after.locks.objects = host.locks.objects
  carrier : after.carrier = host.carrier
  isRoom : ∀ {store}, host.IsRoom store → after.IsRoom store
  storeNames : host.stores.Loses .store session.room.names.store after.stores
  lockNames : host.locks.Loses .lock session.room.names.lock after.locks
  contents : after.contents = host.contents.without session.me session.room.store
  registry : ∀ other, after.registry other =
    if other = session.room.store then ((host.registry session.room.store).release session.me).2
    else host.registry other

/-- In the ledger of messages a departure is an entry of its own. -/
theorem Vacates.applied (vacates : session.Vacates host after) :
    Entry.effect? host.contents (.left session.me session.room.store) = some after.contents :=
  congrArg some vacates.contents.symm

theorem vacates_vacate (session : Session) (made : session.room.store < host.stores.objects.size) :
    session.Vacates host (session.vacate host) where
  size := Host.setMemory_size ..
  locks := rfl
  carrier := rfl
  isRoom room := room.setMemory rfl
  storeNames := ⟨id, fun found _ => found⟩
  lockNames := .refl
  contents := by
    funext store slot
    simp only [vacate, Room.setMemory, Host.contents_setMemory _ made, Contents.without]
    split_ifs with same
    · rw [Mailbox.content?_purgeFor, same]
      rfl
    · rfl
  registry _ := Host.registry_setMemory _ made

theorem Vacates.forgets {middle : Host σ} (vacates : session.Vacates host middle)
    (forgets : Room.Forgets session.room.names middle after)
    (size : after.stores.objects.size = middle.stores.objects.size)
    (locks : after.locks.objects = middle.locks.objects) : session.Vacates host after where
  size := size.trans vacates.size
  locks := locks.trans vacates.locks
  carrier := forgets.spares.carrier.trans vacates.carrier
  isRoom room := forgets.spares.isRoom (vacates.isRoom room)
  storeNames := vacates.storeNames.trans forgets.stores
  lockNames := vacates.lockNames.trans forgets.locks
  contents := forgets.spares.contents.trans vacates.contents
  registry other := (forgets.spares.registry other).trans (vacates.registry other)

theorem leaveHeld_of_remaining
    (remaining : ((host.registry session.room.store).release session.me).2.participants ≠ []) :
    ∃ dropped, session.leaveHeld host = (.ok ⟨dropped, false⟩, session.vacate host) := by
  rw [Host.registry, ne_eq, ← Registry.isEmpty_iff] at remaining
  exact ⟨_, by rw [leaveHeld, Room.memory, if_neg remaining]⟩

theorem leaveHeld_of_last
    (last : ((host.registry session.room.store).release session.me).2.participants = []) :
    ∃ dropped, session.leaveHeld host =
      match session.room.unlink (session.vacate host) with
      | (.ok (), host) => (.ok ⟨dropped, true⟩, host)
      | (.error error, host) => (.error (.ofRoom error), host) := by
  rw [Host.registry, ← Registry.isEmpty_iff] at last
  refine ⟨((session.room.memory host).mailbox.purgeFor session.me).1, ?_⟩
  rcases unlinked : session.room.unlink (session.vacate host) with ⟨_ | _, after⟩ <;>
    simp only [leaveHeld, Room.memory, last, if_true, unlinked]

/-- Whatever a departure answers, the participant and its messages are gone. -/
theorem leave_vacates {result : Except ChatError Departure}
    (made : session.room.store < host.stores.objects.size)
    (outcome : session.leave host = some (result, after)) : session.Vacates host after := by
  obtain ⟨-, held⟩ := leave_eq_some_iff.mp outcome
  have vacates := vacates_vacate session made
  by_cases last : ((host.registry session.room.store).release session.me).2.participants = []
  · obtain ⟨dropped, same⟩ := leaveHeld_of_last last
    have forgets := Room.forgets_unlink session.room (session.vacate host)
    obtain ⟨stores, locks⟩ := Room.unlink_objects session.room (session.vacate host)
    rw [same] at held
    generalize session.room.unlink (session.vacate host) = unlinked at held forgets stores locks
    have reached : after = unlinked.2 := by
      rcases unlinked with ⟨_ | _, kept⟩ <;> cases held <;> rfl
    rw [reached]
    exact vacates.forgets forgets (congrArg Array.size stores) locks
  · obtain ⟨dropped, same⟩ := leaveHeld_of_remaining last
    rw [same] at held
    cases held
    exact vacates

/-- The names of a room that others are still in stay. -/
theorem leave_of_remaining {result : Except ChatError Departure}
    (remaining : ((host.registry session.room.store).release session.me).2.participants ≠ [])
    (outcome : session.leave host = some (result, after)) :
    (∃ dropped, result = .ok ⟨dropped, false⟩) ∧ after.stores.names = host.stores.names ∧
      after.locks = host.locks := by
  obtain ⟨-, held⟩ := leave_eq_some_iff.mp outcome
  obtain ⟨dropped, same⟩ := leaveHeld_of_remaining remaining
  rw [same] at held
  cases held
  exact ⟨⟨dropped, rfl⟩, rfl, rfl⟩

/-- The last one to leave takes both names away. -/
theorem leave_of_last {result : Except ChatError Departure} {storeKey lockKey : String}
    (legalStore : objectKey .store session.room.names.store = .ok storeKey)
    (legalLock : objectKey .lock session.room.names.lock = .ok lockKey)
    (last : ((host.registry session.room.store).release session.me).2.participants = [])
    (outcome : session.leave host = some (result, after)) :
    (∃ dropped, result = .ok ⟨dropped, true⟩) ∧
      after.stores.names = host.stores.names.erase storeKey ∧
        after.locks.names = host.locks.names.erase lockKey := by
  obtain ⟨-, held⟩ := leave_eq_some_iff.mp outcome
  obtain ⟨dropped, same⟩ := leaveHeld_of_last last
  rw [same, Room.unlink_of_keys legalStore legalLock] at held
  cases held
  exact ⟨⟨dropped, rfl⟩, rfl, rfl⟩

/-- A new room under names that are its own, with its creator alone in it. -/
structure Opens (session : Session) (host after : Host σ) (storeKey lockKey : String) : Prop where
  legalStore : objectKey .store session.room.names.store = .ok storeKey
  legalLock : objectKey .lock session.room.names.lock = .ok lockKey
  carrier : after.carrier = host.carrier
  contents : after.contents = host.contents
  store : session.room.store = host.stores.objects.size
  isRoom : after.IsRoom session.room.store
  unlocked : after.locks.objects[session.room.lock]? = some 1
  size : host.stores.objects.size ≤ after.stores.objects.size
  rooms : ∀ {store}, host.IsRoom store → after.IsRoom store
  locks : ∀ lock < host.locks.objects.size, after.locks.objects[lock]? = host.locks.objects[lock]?
  storeNames : ∀ key, after.stores.names.find? key =
    if storeKey = key then some session.room.store else host.stores.names.find? key
  lockNames : ∀ key, after.locks.names.find? key =
    if lockKey = key then some session.room.lock else host.locks.names.find? key
  participants : (after.registry session.room.store).participants = [session.me]
  sound : (after.registry session.room.store).Sound
  registry : ∀ other, other ≠ session.room.store → after.registry other = host.registry other

theorem registry_of_made {room : Room} {storeKey lockKey : String}
    (made : Room.Made host after room storeKey lockKey) : after.registry room.store = .empty := by
  simp [Host.registry, Host.memory, made.fresh, Store.fresh, RoomMemory.fresh]

theorem Registers.opens {middle : Host σ} {storeKey lockKey : String}
    (registers : session.Registers middle after)
    (made : Room.Made host middle session.room storeKey lockKey) :
    session.Opens host after storeKey lockKey := by
  obtain ⟨place, claimed, claims, registry⟩ := registers.registry
  rw [registry_of_made made] at claims
  exact
    { legalStore := made.legalStore
      legalLock := made.legalLock
      carrier := registers.carrier.trans made.spares.carrier
      contents := registers.contents.trans made.spares.contents
      store := made.store
      isRoom := registers.rooms.isRoom ⟨_, made.fresh, Nat.le_refl _, rfl⟩
      unlocked := by
        rw [registers.rooms.locks]
        exact made.unlocked
      size := by
        rw [registers.rooms.size]
        exact made.spares.stores_size
      rooms := fun room => registers.rooms.isRoom (made.spares.isRoom room)
      locks := by
        rw [registers.rooms.locks]
        exact made.spares.locks
      storeNames := by
        rw [registers.rooms.names]
        exact made.stores_find?
      lockNames := by
        rw [registers.rooms.locks]
        exact made.locks_find?
      participants := by
        rw [registry, if_pos rfl]
        simpa using Registry.participants_claim claims (by simp)
      sound := by
        rw [registry, if_pos rfl]
        exact Registry.Sound.empty.claim claims
      registry := by
        intro other different
        rw [registry, if_neg different]
        exact made.spares.registry other }

/-- Somebody has come into one room, and nothing else has happened in any. -/
structure Joins (session : Session) (host after : Host σ) : Prop where
  carrier : after.carrier = host.carrier
  contents : after.contents = host.contents
  size : host.stores.objects.size ≤ after.stores.objects.size
  made : session.room.store < after.stores.objects.size
  members : ∀ id, id ∈ (after.registry session.room.store).participants ↔
    id = session.me ∨ id ∈ (host.registry session.room.store).participants
  sound : (host.registry session.room.store).Sound → (after.registry session.room.store).Sound
  registry : ∀ other, other ≠ session.room.store → after.registry other = host.registry other

theorem Registers.joins (registers : session.Registers host after)
    (made : session.room.store < host.stores.objects.size) : session.Joins host after := by
  obtain ⟨place, claimed, claims, registry⟩ := registers.registry
  have own : after.registry session.room.store = claimed := by rw [registry, if_pos rfl]
  exact
    { carrier := registers.carrier
      contents := registers.contents
      size := Nat.le_of_eq registers.rooms.size.symm
      made := by rwa [registers.rooms.size]
      members := fun id => by rw [own, Registry.mem_participants_claim claims]
      sound := fun sound => by
        rw [own]
        exact sound.claim claims
      registry := fun other different => by rw [registry, if_neg different] }

theorem Opens.joins {storeKey lockKey : String} (opens : session.Opens host after storeKey lockKey) :
    session.Joins host after where
  carrier := opens.carrier
  contents := opens.contents
  size := opens.size
  made := opens.isRoom.made
  members id := by
    have beyond : host.registry session.room.store = .empty := by
      rw [opens.store, Host.registry, Host.memory_of_size_le (Nat.le_refl _)]
      rfl
    rw [opens.participants, beyond, List.mem_singleton]
    simp
  sound _ := opens.sound
  registry := opens.registry

theorem create_of_occupied {running : ParticipantId → Bool} {ns : String} {me : ParticipantId}
    {count : Nat} (occupied : (Room.occupants running ns me host).1 = count + 1) :
    create running ns me host = some (.error (.sharedResource
      (.inUse (RoomNames.ofRoom ns me).store (count + 1))), host) := by
  rw [create, Room.create_of_occupied occupied]
  rfl

/-- Making a room that nobody is in either ends in a session in a new room, or fails, and then at most
the two names are gone that the room was to have. -/
theorem create_cases {running : ParticipantId → Bool} {ns : String} {me : ParticipantId}
    {result : Except ChatError Session} (vacant : (Room.occupants running ns me host).1 = 0)
    (outcome : create running ns me host = some (result, after)) :
    (∃ error, result = .error error ∧ Room.Forgets (.ofRoom ns me) host after) ∨
      ∃ room storeKey lockKey, result = .ok ⟨me, .creator, room⟩ ∧ room.id = me ∧
        room.names = .ofRoom ns me ∧ Opens ⟨me, .creator, room⟩ host after storeKey lockKey := by
  simp only [create] at outcome
  rcases made : Room.create running ns me host with ⟨error | room, middle⟩
  · simp only [made] at outcome
    cases outcome
    rcases Room.create_of_vacant vacant made with ⟨_, -, forgets⟩ | ⟨_, _, _, wrong, -⟩
    · exact .inl ⟨_, rfl, forgets⟩
    · cases wrong
  · simp only [made] at outcome
    rcases Room.create_of_vacant vacant made with
      ⟨_, wrong, -⟩ | ⟨_, storeKey, lockKey, same, id, names, effect⟩
    · cases wrong
    · cases same
      obtain ⟨⟨answer, registered⟩, register, rest⟩ := Option.map_eq_some_iff.mp outcome
      have there : room.store < middle.stores.objects.size :=
        (Array.getElem?_eq_some_iff.mp effect.fresh).1
      rcases register_cases ⟨me, .creator, room⟩ there register with
        ⟨error, rfl, rfl⟩ | ⟨place, rfl, registers⟩
      · -- nobody is turned down by an empty registry
        obtain ⟨-, held⟩ := register_eq_some_iff.mp register
        obtain ⟨place, claimed, claims⟩ :=
          Registry.Sound.empty.claim_of_room me (by simp; decide)
        rw [← registry_of_made effect] at claims
        obtain ⟨_, success, -⟩ :=
          registerHeld_of_claim ⟨me, .creator, room⟩ there claims
        rw [success] at held
        cases held
      · cases rest
        exact .inr ⟨room, storeKey, lockKey, rfl, id, names, registers.opens effect⟩

/-- Creating ends in a session in a new room, or fails and takes away no names but the room's. -/
theorem create_forgets_or_opens {running : ParticipantId → Bool} {ns : String} {me : ParticipantId}
    {result : Except ChatError Session} (outcome : create running ns me host = some (result, after)) :
    (∃ error, result = .error error ∧ Room.Forgets (.ofRoom ns me) host after) ∨
      ∃ session storeKey lockKey, result = .ok session ∧ session.me = me ∧
        session.Opens host after storeKey lockKey := by
  cases count : (Room.occupants running ns me host).1 with
  | zero =>
    rcases create_cases count outcome with forgets | ⟨room, storeKey, lockKey, rfl, -, -, opens⟩
    · exact .inl forgets
    · exact .inr ⟨_, storeKey, lockKey, rfl, rfl, opens⟩
  | succ present =>
    rw [create_of_occupied count] at outcome
    cases outcome
    exact .inl ⟨_, rfl, .refl _ host⟩

/-- Creating a room sends nothing. -/
theorem carrier_of_create {running : ParticipantId → Bool} {ns : String} {me : ParticipantId}
    {result : Except ChatError Session} (outcome : create running ns me host = some (result, after)) :
    after.carrier = host.carrier := by
  rcases create_forgets_or_opens outcome with ⟨_, -, forgets⟩ | ⟨_, _, _, -, -, opens⟩
  · exact forgets.spares.carrier
  · exact opens.carrier

theorem carrier_of_register {result : Except ChatError (Fin maxParticipants)}
    (made : session.room.store < host.stores.objects.size)
    (outcome : session.register host = some (result, after)) : after.carrier = host.carrier := by
  rcases register_cases session made outcome with ⟨_, -, rfl⟩ | ⟨_, -, registers⟩
  · rfl
  · exact registers.carrier

theorem role_of_create {running : ParticipantId → Bool} {ns : String} {me : ParticipantId}
    (outcome : create running ns me host = some (.ok session, after)) : session.role = .creator := by
  simp only [create] at outcome
  split at outcome
  · cases outcome
  · obtain ⟨⟨_ | _, _⟩, -, same⟩ := Option.map_eq_some_iff.mp outcome
    · cases same
    · cases same
      rfl

/-- How an attempt to enter a room can end: with the host as it was, or with the participant
registered in a room that it has attached to. -/
def Enters (ns : String) (me : ParticipantId) (result : Except ChatError Session)
    (host after : Host σ) : Prop :=
  (∃ error, result = .error error ∧ after = host) ∨
    ∃ id room, Room.attach ns id host = .ok room ∧ result = .ok ⟨me, .joiner, room⟩ ∧
      Registers ⟨me, .joiner, room⟩ host after

theorem enters_of_enter {ns : String} {me id : ParticipantId} {result : Except ChatError Session}
    (outcome : enter ns me id host = some (result, after)) : Enters ns me result host after := by
  simp only [enter] at outcome
  cases attached : Room.attach ns id host with
  | error error =>
    simp only [attached] at outcome
    cases outcome
    exact .inl ⟨_, rfl, rfl⟩
  | ok room =>
    simp only [attached] at outcome
    obtain ⟨⟨answer, registered⟩, register, rest⟩ := Option.map_eq_some_iff.mp outcome
    obtain ⟨store, lock, -, isRoom, -, rfl⟩ := Room.attach_eq_ok_iff.mp attached
    rcases register_cases ⟨me, .joiner, _⟩ isRoom.made register with
      ⟨error, rfl, rfl⟩ | ⟨place, rfl, registers⟩
    · cases rest
      exact .inl ⟨error, rfl, rfl⟩
    · cases rest
      exact .inr ⟨id, _, attached, rfl, registers⟩

theorem resumeJoin_cases {ns : String} {me : ParticipantId} {inbox : Inbox} {joining : Joining}
    {queue : List Envelope} (outcome : resumeJoin ns me inbox host = some (joining, queue, after)) :
    (joining = .waiting ∧ after = host) ∨
      ∃ result, joining = .over result ∧ Enters ns me result host after := by
  simp only [resumeJoin] at outcome
  rcases awaited : awaitApproval inbox.closed inbox.queue with ⟨_ | error | room, rest⟩ <;>
    simp only [awaited] at outcome
  · cases outcome
    exact .inl ⟨rfl, rfl⟩
  · cases outcome
    exact .inr ⟨_, rfl, .inl ⟨error, rfl, rfl⟩⟩
  · obtain ⟨⟨result, entered⟩, success, same⟩ := Option.map_eq_some_iff.mp outcome
    cases same
    exact .inr ⟨result, rfl, enters_of_enter success⟩

theorem requestJoin_eq_ok [Carrier σ] {me known : ParticipantId}
    (success : requestJoin me known host = .ok after) :
    host.notify me known .joinRequest = .ok after := by
  simp only [requestJoin] at success
  exact mapError_eq_ok_iff.mp success

end Session

end HostChat
