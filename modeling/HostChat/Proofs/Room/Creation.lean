import HostChat.Proofs.Participant
import HostChat.Proofs.Room.Lifetime
import HostChat.Proofs.Session.Effects

/-! # What making a room does to the rooms before it

Making a room has three ends. It is refused for the participants that run in the room already under
its names, and then everything is as before; or both names lead to new objects, which no handle from
before can touch; or it fails with an error of the system, and then at most the two names are gone.

Whether somebody runs in the room before is only found out through its lock. So a room whose store
is as it should be gives way all the same if the name of its lock is missing.
-/

namespace HostChat

variable {σ : Type}

namespace Directory

variable {α : Type} {directory : Directory α} {kind : ObjectKind} {name : String} {error : RoomError}

private theorem unlink_eq_error (failed : directory.unlink kind name = .error error) :
    ∃ call fault, error = .system call name fault := by
  simp only [unlink] at failed
  split at failed <;> cases failed <;> exact ⟨_, _, rfl⟩

private theorem create_eq_error {object : α}
    (failed : directory.create kind name object = .error error) :
    ∃ call fault, error = .system call name fault := by
  simp only [create] at failed
  cases legal : objectKey kind name with
  | error fault =>
    simp only [legal] at failed
    cases fault <;> cases failed <;> exact ⟨_, _, rfl⟩
  | ok key =>
    cases found : directory.names.find? key with
    | some number =>
      simp only [legal, found] at failed
      cases failed
      exact ⟨_, _, rfl⟩
    | none =>
      simp only [legal, found] at failed
      cases failed

end Directory

namespace Room

variable {host after : Host σ} {ns : String} {id : ParticipantId} {room : Room}
  {running : ParticipantId → Bool} {names : RoomNames} {error : RoomError}

/-- A system call on one of the two names has failed. -/
inductive Fails (names : RoomNames) : RoomError → Prop where
  | store (call : String) (fault : Fault) : Fails names (.system call names.store fault)
  | lock (call : String) (fault : Fault) : Fails names (.system call names.lock fault)

private theorem fails_of_unlinkStore (failed : unlinkStore names host = .error error) :
    Fails names error := by
  simp only [unlinkStore] at failed
  cases unlinked : host.stores.unlink .store names.store with
  | ok pair =>
    rw [unlinked] at failed
    cases failed
  | error wrong =>
    rw [unlinked] at failed
    cases failed
    obtain ⟨call, fault, rfl⟩ := Directory.unlink_eq_error unlinked
    exact .store call fault

private theorem fails_of_unlinkLock (failed : unlinkLock names host = .error error) :
    Fails names error := by
  simp only [unlinkLock] at failed
  cases unlinked : host.locks.unlink .lock names.lock with
  | ok pair =>
    rw [unlinked] at failed
    cases failed
  | error wrong =>
    rw [unlinked] at failed
    cases failed
    obtain ⟨call, fault, rfl⟩ := Directory.unlink_eq_error unlinked
    exact .lock call fault

private theorem fails_of_createFresh (failed : createFresh id names host = (.error error, after)) :
    Fails names error := by
  simp only [createFresh] at failed
  cases created : host.stores.create .store names.store .fresh with
  | error wrong =>
    simp only [created] at failed
    cases failed
    obtain ⟨call, fault, rfl⟩ := Directory.create_eq_error created
    exact .store call fault
  | ok pair =>
    simp only [created, createLock] at failed
    cases locked : host.locks.create .lock names.lock 1 with
    | error wrong =>
      simp only [locked] at failed
      cases failed
      obtain ⟨call, fault, rfl⟩ := Directory.create_eq_error locked
      exact .lock call fault
    | ok pair =>
      simp only [locked] at failed
      cases failed

/-- What making a room does once nobody is found in the room before it. -/
theorem create_of_vacant_eq (vacant : (occupants running ns id host).1 = 0) :
    create running ns id host =
      match unlinkStore (.ofRoom ns id) host with
      | .error error => (.error error, host)
      | .ok middle =>
          match unlinkLock (.ofRoom ns id) middle with
          | .error error => (.error error, middle)
          | .ok last => createFresh id (.ofRoom ns id) last := by
  have both : occupants running ns id host = (0, host) :=
    Prod.ext vacant (occupants_host running ns id host)
  cases store : unlinkStore (.ofRoom ns id) host with
  | error error => simp only [create, both, store]
  | ok middle =>
    cases lock : unlinkLock (.ofRoom ns id) middle with
    | error error => simp only [create, both, store, lock]
    | ok last => simp only [create, both, store, lock]

theorem fails_of_create (vacant : (occupants running ns id host).1 = 0)
    (failed : create running ns id host = (.error error, after)) : Fails (.ofRoom ns id) error := by
  rw [create_of_vacant_eq vacant] at failed
  split at failed
  next wrong unlinked =>
    cases failed
    exact fails_of_unlinkStore unlinked
  next middle _ =>
    split at failed
    next wrong unlinked =>
      cases failed
      exact fails_of_unlinkLock unlinked
    next last _ => exact fails_of_createFresh failed

/-- The system takes both names. -/
structure Legal (names : RoomNames) : Prop where
  store : ∃ key, objectKey .store names.store = .ok key
  lock : ∃ key, objectKey .lock names.lock = .ok key

/-- Nothing can go wrong once nobody is found in the room before and both names are legal. -/
theorem create_of_legal (vacant : (occupants running ns id host).1 = 0)
    (legal : Legal (.ofRoom ns id)) :
    ∃ room after, create running ns id host = (.ok room, after) := by
  obtain ⟨storeKey, legalStore⟩ := legal.store
  obtain ⟨lockKey, legalLock⟩ := legal.lock
  simp only [create_of_vacant_eq vacant, unlinkStore_of_key legalStore, unlinkLock_of_key legalLock,
    createFresh, Directory.create_erased legalStore, createLock, Directory.create_erased legalLock]
  exact ⟨_, _, rfl⟩

/-- The name of a store that nobody is found in does not lead there any more, whatever comes of the
new room. -/
theorem number_of_vacant {storeKey : String} {number : Nat}
    (vacant : (occupants running ns id host).1 = 0)
    (legal : objectKey .store (RoomNames.ofRoom ns id).store = .ok storeKey)
    (found : (create running ns id host).2.stores.names.find? storeKey = some number) :
    number = host.stores.objects.size := by
  have gone : (host.stores.names.erase storeKey).find? storeKey = none := by
    rw [Table.find?_erase, if_pos rfl]
  rw [create_of_vacant_eq vacant, unlinkStore_of_key legal] at found
  simp only at found
  split at found
  next => cases gone.symm.trans found
  next last unlinked =>
    obtain ⟨locks, _, -, rfl⟩ := unlinkLock_eq_ok unlinked
    generalize fresh : createFresh id (.ofRoom ns id) _ = outcome at found
    rcases createFresh_cases fresh with ⟨_, -, forgets⟩ | ⟨room, key, _, -, -, -, made⟩
    · cases gone.symm.trans (forgets.stores.old found)
    · rw [made.stores_find?] at found
      split_ifs at found
      · cases found
        rw [made.store]
      · cases gone.symm.trans found

end Room

namespace Host

variable {host : Host σ} {name : String} {room : Room}

/-- Nobody holds a lock, and every lock that has a name is there. -/
structure LocksFree (host : Host σ) : Prop where
  free : ∀ value ∈ host.locks.objects, 0 < value
  named : ∀ key lock, host.locks.names.find? key = some lock → lock < host.locks.objects.size

theorem LocksFree.unlocked (locks : host.LocksFree)
    (found : host.locks.find? .lock name = some room.lock) : room.Unlocked host := by
  obtain ⟨key, -, found⟩ := Directory.find?_eq_some_iff.mp found
  have there := locks.named key room.lock found
  obtain ⟨value, same⟩ := Nat.exists_eq_succ_of_ne_zero
    (Nat.ne_of_gt (locks.free host.locks.objects[room.lock] (Array.getElem_mem there)))
  exact ⟨value, by rw [Array.getElem?_eq_getElem there, same]⟩

end Host

namespace Room

variable {host after : Host σ} {ns : String} {id : ParticipantId} {room : Room}
  {running : ParticipantId → Bool} {names : RoomNames}

/-- The participants in a registry that keep `id` from making a room in place of theirs. -/
def keepers (running : ParticipantId → Bool) (id : ParticipantId) (registry : Registry) : Nat :=
  registry.participants.countP fun participant => participant ≠ id && running participant

private theorem keepers_pos {registry : Registry} {other : ParticipantId}
    (present : other ∈ registry.participants) (different : other ≠ id)
    (runs : running other = true) : 0 < keepers running id registry :=
  List.countP_pos_iff.mpr ⟨other, present, by simp [different, runs]⟩

/-- A room is there under the names of `id`, and others run in it. -/
structure Occupied (running : ParticipantId → Bool) (ns : String) (id : ParticipantId) (host : Host σ)
    (store count : Nat) : Prop where
  named : host.stores.find? .store (RoomNames.ofRoom ns id).store = some store
  isRoom : host.IsRoom store
  /-- Its lock is there, too, and nobody holds it. -/
  lock : ∃ lock value, host.locks.find? .lock (RoomNames.ofRoom ns id).lock = some lock ∧
    host.locks.objects[lock]? = some (value + 1)
  counted : keepers running id (host.registry store) = count + 1

/-- Whoever is found in a room is found through its lock. -/
theorem occupants_eq_succ_iff {count : Nat} :
    (occupants running ns id host).1 = count + 1 ↔
      ∃ store, Occupied running ns id host store count := by
  constructor
  · intro found
    cases attached : attach ns id host with
    | error error => cases (occupants_of_error attached).symm.trans found
    | ok room =>
      have blind : LockBlind fun host : Host σ =>
          (keepers running id (room.memory host).registry, host) :=
        ⟨fun _ _ _ => rfl, fun _ => rfl⟩
      cases looked : room.inspect host fun memory => keepers running id memory.registry with
      | some outcome =>
        obtain ⟨unlocked, -⟩ := (guarded_eq_some_iff blind).mp looked
        have counted := (occupants_of_attach attached unlocked).symm.trans found
        obtain ⟨store, lock, named, isRoom, there, rfl⟩ := attach_eq_ok_iff.mp attached
        obtain ⟨value, free⟩ := unlocked
        exact ⟨store, named, isRoom, ⟨lock, value, there, free⟩, counted⟩
      | none =>
        have nobody : (occupants running ns id host).1 = 0 := by
          rw [occupants, attached]
          exact congrArg (fun looked => (Option.getD looked (0, host)).1) looked
        cases nobody.symm.trans found
  · rintro ⟨store, named, isRoom, ⟨lock, value, there, free⟩, counted⟩
    have attached : attach ns id host = .ok ⟨id, .ofRoom ns id, store, lock⟩ :=
      attach_eq_ok_iff.mpr ⟨store, lock, named, isRoom, there, rfl⟩
    exact (occupants_of_attach attached ⟨value, free⟩).trans counted

theorem occupants_eq_zero_iff :
    (occupants running ns id host).1 = 0 ↔
      ∀ store count, ¬Occupied running ns id host store count := by
  constructor
  · intro nobody store count occupied
    cases nobody.symm.trans (occupants_eq_succ_iff.mpr ⟨store, occupied⟩)
  · intro vacant
    cases found : (occupants running ns id host).1 with
    | zero => rfl
    | succ count =>
      obtain ⟨store, occupied⟩ := occupants_eq_succ_iff.mp found
      exact absurd occupied (vacant store count)

/-- Making a room spares one that others run in if and only if the name of its lock leads to a lock.
If it leads to none, the name of the store leads to that store no more. -/
theorem spares_occupied_iff_lock_named {store : Nat} {other : ParticipantId} (locks : host.LocksFree)
    (named : host.stores.find? .store (RoomNames.ofRoom ns id).store = some store)
    (isRoom : host.IsRoom store) (present : other ∈ (host.registry store).participants)
    (different : other ≠ id) (runs : running other = true) :
    (create running ns id host =
        (.error (.inUse (RoomNames.ofRoom ns id).store (keepers running id (host.registry store))), host) ↔
      ∃ lock, host.locks.find? .lock (RoomNames.ofRoom ns id).lock = some lock) ∧
    (host.locks.find? .lock (RoomNames.ofRoom ns id).lock = none →
      (create running ns id host).2.stores.find? .store (RoomNames.ofRoom ns id).store ≠
        some store) := by
  have lost (missing : host.locks.find? .lock (RoomNames.ofRoom ns id).lock = none) :
      (create running ns id host).2.stores.find? .store (RoomNames.ofRoom ns id).store ≠
        some store := by
    have vacant : (occupants running ns id host).1 = 0 := by
      cases attached : attach ns id host with
      | error error => exact occupants_of_error attached
      | ok room =>
        obtain ⟨_, lock, -, -, there, -⟩ := attach_eq_ok_iff.mp attached
        cases missing.symm.trans there
    intro still
    obtain ⟨storeKey, legal, reached⟩ := Directory.find?_eq_some_iff.mp still
    have new := number_of_vacant vacant legal reached
    exact absurd isRoom.made (Nat.not_lt.mpr (Nat.le_of_eq new.symm))
  refine ⟨⟨?_, ?_⟩, lost⟩
  · intro refused
    cases lock : host.locks.find? .lock (RoomNames.ofRoom ns id).lock with
    | some number => exact ⟨number, rfl⟩
    | none =>
      have gone := lost lock
      rw [refused] at gone
      exact absurd named gone
  · rintro ⟨lock, there⟩
    have attached : attach ns id host = .ok ⟨id, .ofRoom ns id, store, lock⟩ :=
      attach_eq_ok_iff.mpr ⟨store, lock, named, isRoom, there, rfl⟩
    obtain ⟨count, same⟩ :=
      Nat.exists_eq_succ_of_ne_zero (Nat.ne_of_gt (keepers_pos present different runs))
    rw [same]
    exact create_of_occupied ((occupants_of_attach attached (locks.unlocked there)).trans same)

/-- bert's room, for example runs. -/
def bertsRoom : Room := ⟨bert, .ofRoom "x" bert, 0, 0⟩

/-- anna is in the room that bert has made. -/
def annaVisits : Host Unit :=
  let host := (create (fun _ => true) "x" bert (.empty ())).2
  (Session.register ⟨anna, .joiner, bertsRoom⟩ host).elim host (·.2)

theorem locksFree_annaVisits : annaVisits.LocksFree := by
  have values : annaVisits.locks.objects = #[1] := by decide +kernel
  have names : annaVisits.locks.names = Table.insert .empty "x_lock_42" 0 := by decide +kernel
  constructor
  · rw [values]
    simp
  · rw [values, names]
    intro key lock found
    rw [Table.find?_insert] at found
    split_ifs at found
    · cases found
      decide
    · cases found

theorem occupied_room_spared :
    create (fun _ => true) "x" bert annaVisits = (.error (.inUse "/x_room_42" 1), annaVisits) := by
  have facts : annaVisits.stores.find? .store (RoomNames.ofRoom "x" bert).store = some 0 ∧
      anna ∈ (annaVisits.registry 0).participants ∧
        keepers (fun _ => true) bert (annaVisits.registry 0) = 1 ∧
          annaVisits.locks.find? .lock (RoomNames.ofRoom "x" bert).lock = some 0 := by
    decide +kernel
  have isRoom : annaVisits.IsRoom 0 := Host.isRoom_iff.mpr (by decide +kernel)
  obtain ⟨named, present, counted, lock⟩ := facts
  have spared : create (fun _ => true) "x" bert annaVisits =
      (.error (.inUse _ (keepers (fun _ => true) bert (annaVisits.registry 0))), annaVisits) :=
    (spares_occupied_iff_lock_named locksFree_annaVisits named isRoom present (by decide) rfl).1.mpr
      ⟨0, lock⟩
  rw [counted] at spared
  exact spared

/-- The name of the lock has gone. -/
def locklessVisit : Host Unit :=
  { annaVisits with locks := { annaVisits.locks with names := .empty } }

/-- bert makes a room in place of the one that anna is in. -/
theorem occupied_room_replaced : locklessVisit.LocksFree ∧
    locklessVisit.stores.find? .store (RoomNames.ofRoom "x" bert).store = some 0 ∧
      locklessVisit.IsRoom 0 ∧ anna ∈ (locklessVisit.registry 0).participants ∧ anna ≠ bert ∧
        (create (fun _ => true) "x" bert locklessVisit).1 = .ok ⟨bert, .ofRoom "x" bert, 1, 1⟩ ∧
          (create (fun _ => true) "x" bert locklessVisit).2.stores.find? .store
            (RoomNames.ofRoom "x" bert).store = some 1 := by
  have locks : locklessVisit.LocksFree :=
    ⟨locksFree_annaVisits.free, fun _ _ found => by cases found⟩
  have isRoom : locklessVisit.IsRoom 0 := Host.isRoom_iff.mpr (by decide +kernel)
  refine ⟨locks, ?_, isRoom, ?_⟩
  · decide +kernel
  · decide +kernel

/-- What a participant does to the memory of a room with its lock held. Without the lock, nothing. -/
def edit (room : Room) (change : RoomMemory → RoomMemory) (host : Host σ) : Host σ :=
  (room.guarded host fun host => ((), room.setMemory host (change (room.memory host)))).elim host (·.2)

private theorem edit_cases (room : Room) (change : RoomMemory → RoomMemory) (host : Host σ) :
    room.edit change host = host ∨
      room.edit change host = room.setMemory host (change (room.memory host)) := by
  have blind : LockBlind fun host : Host σ => ((), room.setMemory host (change (room.memory host))) :=
    ⟨fun _ _ _ => rfl, fun _ => rfl⟩
  simp only [edit]
  cases outcome : room.guarded host fun host => ((), room.setMemory host (change (room.memory host))) with
  | none => exact .inl rfl
  | some pair =>
    obtain ⟨-, rfl⟩ := (guarded_eq_some_iff blind).mp outcome
    exact .inr rfl

/-- A handle that was opened on a host or before. -/
structure OpenedOn (host : Host σ) (room : Room) : Prop where
  store : room.store < host.stores.objects.size
  lock : room.lock < host.locks.objects.size

/-- A room is empty, nobody holds its lock, and the names are those of another host. -/
structure Untouched (room : Room) (after reached : Host σ) : Prop where
  store : reached.stores.objects[room.store]? = some .fresh
  lock : reached.locks.objects[room.lock]? = some 1
  storeNames : reached.stores.names = after.stores.names
  lockNames : reached.locks.names = after.locks.names

theorem Untouched.edit {reached : Host σ} (untouched : room.Untouched after reached) {handle : Room}
    (different : handle.store ≠ room.store) (change : RoomMemory → RoomMemory) :
    room.Untouched after (handle.edit change reached) := by
  rcases edit_cases handle change reached with same | same <;> rw [same]
  · exact untouched
  · refine ⟨?_, untouched.lock, untouched.storeNames, untouched.lockNames⟩
    simpa [setMemory, Host.setMemory, Directory.modify, Array.getElem?_modify, different]
      using untouched.store

/-- A new room under its names, out of reach for all who have opened handles before. -/
structure Replaces (names : RoomNames) (host after : Host σ) (room : Room) : Prop where
  storeName : after.stores.find? .store names.store = some room.store
  lockName : after.locks.find? .lock names.lock = some room.lock
  storeNew : host.stores.objects.size ≤ room.store
  lockNew : host.locks.objects.size ≤ room.lock
  fresh : after.stores.objects[room.store]? = some .fresh
  unlocked : after.locks.objects[room.lock]? = some 1
  /-- Handles on what was there before still see it. -/
  seen : ∀ handle, OpenedOn host handle → handle.memory after = handle.memory host
  /-- What is done through them leaves the new room as it is. -/
  apart : ∀ edits : List (Room × (RoomMemory → RoomMemory)), (∀ each ∈ edits, OpenedOn host each.1) →
    room.Untouched after (edits.foldl (fun reached each => each.1.edit each.2 reached) after)

theorem Made.replaces {storeKey lockKey : String} (made : Made host after room storeKey lockKey) :
    Replaces room.names host after room where
  storeName := Directory.find?_eq_some_iff.mpr
    ⟨storeKey, made.legalStore, by rw [made.stores_find?, if_pos rfl]⟩
  lockName := Directory.find?_eq_some_iff.mpr
    ⟨lockKey, made.legalLock, by rw [made.locks_find?, if_pos rfl]⟩
  storeNew := Nat.le_of_eq made.store.symm
  lockNew := Nat.le_of_eq made.lock.symm
  fresh := made.fresh
  unlocked := made.unlocked
  seen handle opened := by
    simp only [memory, Host.memory, made.spares.stores handle.store opened.store]
  apart edits opened := by
    have untouched : room.Untouched after after := ⟨made.fresh, made.unlocked, rfl, rfl⟩
    refine List.foldlRecOn edits _ untouched fun reached still each member => ?_
    have old := (opened each member).store
    exact still.edit (Nat.ne_of_lt (made.store ▸ old)) each.2

/-- The ends of making a room, and when each of them comes up. -/
inductive Outcome (running : ParticipantId → Bool) (ns : String) (id : ParticipantId) (host : Host σ) :
    Except RoomError Room → Host σ → Prop where
  | inUse {store count : Nat} (occupied : Occupied running ns id host store count) :
      Outcome running ns id host (.error (.inUse (RoomNames.ofRoom ns id).store (count + 1))) host
  | made {room : Room} {after : Host σ}
      (vacant : ∀ store count, ¬Occupied running ns id host store count)
      (legal : Legal (.ofRoom ns id)) (same : room.id = id) (names : room.names = .ofRoom ns id)
      (replaces : Replaces (.ofRoom ns id) host after room) :
      Outcome running ns id host (.ok room) after
  | failed {error : RoomError} {after : Host σ}
      (vacant : ∀ store count, ¬Occupied running ns id host store count)
      (illegal : ¬Legal (.ofRoom ns id)) (fails : Fails (.ofRoom ns id) error)
      (storeName : ∀ store, after.stores.find? .store (RoomNames.ofRoom ns id).store = some store →
        host.stores.find? .store (RoomNames.ofRoom ns id).store = some store)
      (lockName : ∀ lock, after.locks.find? .lock (RoomNames.ofRoom ns id).lock = some lock →
        host.locks.find? .lock (RoomNames.ofRoom ns id).lock = some lock) :
      Outcome running ns id host (.error error) after

/-- Nothing has happened but under the two names. -/
structure Contained (names : RoomNames) (host after : Host σ) : Prop where
  spares : host.Spares after
  storeNames : ∀ key, objectKey .store names.store ≠ .ok key →
    after.stores.names.find? key = host.stores.names.find? key
  lockNames : ∀ key, objectKey .lock names.lock ≠ .ok key →
    after.locks.names.find? key = host.locks.names.find? key

theorem Forgets.contained (forgets : Forgets names host after) : Contained names host after :=
  ⟨forgets.spares, fun _ other => forgets.stores.find?_eq other,
    fun _ other => forgets.locks.find?_eq other⟩

theorem Made.contained {storeKey lockKey : String} (made : Made host after room storeKey lockKey) :
    Contained room.names host after where
  spares := made.spares
  storeNames key other := by
    rw [made.stores_find?, if_neg]
    rintro rfl
    exact other made.legalStore
  lockNames key other := by
    rw [made.locks_find?, if_neg]
    rintro rfl
    exact other made.legalLock

theorem contained_create (running : ParticipantId → Bool) (ns : String) (id : ParticipantId)
    (host : Host σ) : Contained (.ofRoom ns id) host (create running ns id host).2 := by
  cases count : (occupants running ns id host).1 with
  | succ present =>
    rw [create_of_occupied count]
    exact (Forgets.refl _ host).contained
  | zero =>
    rcases outcome : create running ns id host with ⟨result, after⟩
    rcases create_of_vacant count outcome with
      ⟨error, -, forgets⟩ | ⟨room, storeKey, lockKey, -, -, names, made⟩
    · exact forgets.contained
    · exact names ▸ made.contained

/-- Making a room, on whatever host and under whatever names, has one of its three ends, and nothing
happens but under the two names. -/
theorem create_outcome (running : ParticipantId → Bool) (ns : String) (id : ParticipantId)
    (host : Host σ) :
    Outcome running ns id host (create running ns id host).1 (create running ns id host).2 ∧
      Contained (.ofRoom ns id) host (create running ns id host).2 := by
  refine ⟨?_, contained_create running ns id host⟩
  cases count : (occupants running ns id host).1 with
  | succ present =>
    rw [create_of_occupied count]
    obtain ⟨store, occupied⟩ := occupants_eq_succ_iff.mp count
    exact .inUse occupied
  | zero =>
    have vacant := occupants_eq_zero_iff.mp count
    rcases outcome : create running ns id host with ⟨result, after⟩
    rcases create_of_vacant count outcome with
      ⟨error, rfl, forgets⟩ | ⟨room, storeKey, lockKey, rfl, same, names, made⟩
    · have illegal : ¬Legal (.ofRoom ns id) := by
        intro legal
        obtain ⟨room, last, success⟩ := create_of_legal count legal
        cases outcome.symm.trans success
      refine .failed vacant illegal (fails_of_create count outcome) ?_ ?_
      · intro store found
        obtain ⟨key, legal, reached⟩ := Directory.find?_eq_some_iff.mp found
        exact Directory.find?_eq_some_iff.mpr ⟨key, legal, forgets.stores.old reached⟩
      · intro lock found
        obtain ⟨key, legal, reached⟩ := Directory.find?_eq_some_iff.mp found
        exact Directory.find?_eq_some_iff.mpr ⟨key, legal, forgets.locks.old reached⟩
    · have legal : Legal (.ofRoom ns id) :=
        names ▸ ⟨⟨storeKey, made.legalStore⟩, ⟨lockKey, made.legalLock⟩⟩
      exact .made vacant legal same names (names ▸ made.replaces)

end Room

end HostChat
