import HostChat.Exchange
import HostChat.Proofs.Locking.Reach
import HostChat.Proofs.Room.Naming

/-! # Rooms keep to themselves

The names of a room's resources tell its namespace and its id, and tell stores from locks. So whatever
is done with one room, the names of another lead where they led, and whether they lead anywhere is not
noticed.
-/

namespace HostChat

variable {σ : Type}

section Forgetting

variable {κ ν : Type} [DecidableEq κ]

private theorem Table.erase_comm (table : Table κ ν) (first second : κ) :
    (table.erase first).erase second = (table.erase second).erase first := by
  simp only [erase, List.filter_filter, Bool.and_comm]

private theorem Table.erase_insert {table : Table κ ν} {added removed : κ}
    (different : added ≠ removed) (value : ν) :
    (table.insert added value).erase removed = (table.erase removed).insert added value := by
  have kept : decide (added ≠ removed) = true := decide_eq_true different
  simp only [insert, erase, List.filter_cons, kept, if_true, List.filter_filter, Bool.and_comm]

end Forgetting

namespace Directory

variable {α : Type} {directory changed : Directory α} {kind : ObjectKind} {name other : String}
  {number : Nat} {object : α}

/-- No object has both names. -/
def NamesApart (kind : ObjectKind) (name other : String) : Prop :=
  ∀ key, objectKey kind name = .ok key → objectKey kind other ≠ .ok key

/-- The directory without a name. -/
def forget (directory : Directory α) (kind : ObjectKind) (name : String) : Directory α :=
  match objectKey kind name with
  | .ok key => { directory with names := directory.names.erase key }
  | .error _ => directory

@[simp] theorem forget_objects (directory : Directory α) (kind : ObjectKind) (name : String) :
    (directory.forget kind name).objects = directory.objects := by
  rw [forget]
  split <;> rfl

private theorem forget_modify (directory : Directory α) (kind : ObjectKind) (name : String)
    (number : Nat) (change : α → α) :
    (directory.modify number change).forget kind name =
      (directory.forget kind name).modify number change := by
  rw [forget, forget]
  split <;> rfl

private theorem find?_forget_names (apart : NamesApart kind name other) {key : String}
    (legal : objectKey kind name = .ok key) :
    (directory.forget kind other).names.find? key = directory.names.find? key := by
  rw [forget]
  split
  next removed found =>
    rw [Table.find?_erase, if_neg]
    rintro rfl
    exact apart _ legal found
  next => rfl

theorem openObject_forget (apart : NamesApart kind name other) :
    (directory.forget kind other).openObject kind name = directory.openObject kind name := by
  cases legal : objectKey kind name with
  | error fault => simp only [openObject, legal]
  | ok key => simp only [openObject, legal, find?_forget_names apart legal]

theorem create_forget (apart : NamesApart kind name other) :
    (directory.forget kind other).create kind name object =
      (directory.create kind name object).map fun (made, after) => (made, after.forget kind other) := by
  cases legal : objectKey kind name with
  | error fault =>
    simp only [create, legal]
    rfl
  | ok key =>
    simp only [create, legal, find?_forget_names apart legal, forget_objects]
    cases directory.names.find? key with
    | some taken => rfl
    | none =>
      simp only [forget]
      cases gone : objectKey kind other with
      | error fault => rfl
      | ok removed =>
        have different : key ≠ removed := by
          rintro rfl
          exact apart _ legal gone
        simp only [Except.map, Table.erase_insert different]

theorem unlink_forget (apart : NamesApart kind name other) :
    (directory.forget kind other).unlink kind name =
      (directory.unlink kind name).map fun (present, after) => (present, after.forget kind other) := by
  cases legal : objectKey kind name with
  | error fault => cases fault <;> simp only [unlink, legal] <;> rfl
  | ok key =>
    simp only [unlink, legal, find?_forget_names apart legal]
    simp only [forget]
    cases objectKey kind other with
    | error fault => rfl
    | ok removed => simp only [Except.map, Table.erase_comm]

/-- A name leads where it led if nothing has happened but to another. -/
theorem find?_of_others_kept (apart : NamesApart kind name other)
    (kept : ∀ key, objectKey kind name ≠ .ok key →
      changed.names.find? key = directory.names.find? key) :
    changed.find? kind other = directory.find? kind other := by
  cases sought : objectKey kind other with
  | error fault => simp only [find?, sought]
  | ok found =>
    simp only [find?, sought]
    exact kept found fun own => apart found own sought

theorem find?_of_create_apart (apart : NamesApart kind name other)
    (success : directory.create kind name object = .ok (number, changed)) :
    changed.find? kind other = directory.find? kind other := by
  obtain ⟨key, legal, -, -, rfl⟩ := create_eq_ok success
  refine find?_of_others_kept apart fun found different => ?_
  rw [Table.find?_insert, if_neg]
  rintro rfl
  exact different legal

theorem find?_of_unlink_apart {present : Bool} (apart : NamesApart kind name other)
    (success : directory.unlink kind name = .ok (present, changed)) :
    changed.find? kind other = directory.find? kind other :=
  find?_of_others_kept apart fun _ different => (loses_of_unlink success).find?_eq different

end Directory

/-- No object has a name of both rooms. -/
structure RoomNames.Apart (names other : RoomNames) : Prop where
  store : Directory.NamesApart .store names.store other.store
  lock : Directory.NamesApart .lock names.lock other.lock

namespace Host

variable {host : Host σ} {names other : RoomNames}

/-- The host without the names of a room. -/
def without (host : Host σ) (names : RoomNames) : Host σ :=
  { host with
    stores := host.stores.forget .store names.store
    locks := host.locks.forget .lock names.lock }

@[simp] theorem memory_without (store : Nat) : (host.without names).memory store = host.memory store := by
  simp only [memory, without, Directory.forget_objects]

@[simp] theorem setMemory_without (store : Nat) (memory : RoomMemory) :
    (host.without names).setMemory store memory = (host.setMemory store memory).without names := by
  simp only [setMemory, without, Directory.forget_modify]

@[simp] theorem release_without (lock : Nat) :
    (host.without names).release lock = (host.release lock).without names := by
  simp only [release, without, Directory.forget_modify]

@[simp] theorem acquire_without (lock : Nat) :
    (host.without names).acquire lock = (host.acquire lock).map (·.without names) := by
  simp only [acquire, without, Directory.forget_objects]
  cases host.locks.objects[lock]? with
  | none => rfl
  | some value =>
    cases value with
    | zero => rfl
    | succ value => simp only [Option.map_some, Directory.forget_modify]

/-- The names of a room lead to the same objects on two hosts. -/
structure SameNamed (names : RoomNames) (host after : Host σ) : Prop where
  store : after.stores.find? .store names.store = host.stores.find? .store names.store
  lock : after.locks.find? .lock names.lock = host.locks.find? .lock names.lock

end Host

namespace Call

variable {host after : Host σ} {names other : RoomNames} {call : Call}

theorem openRoomStore_without (apart : names.Apart other) :
    openRoomStore names (host.without other) = openRoomStore names host := by
  have opens : (host.without other).stores.openObject .store names.store =
      host.stores.openObject .store names.store := Directory.openObject_forget apart.store
  cases opened : host.stores.openObject .store names.store with
  | error error =>
    rw [openRoomStore, openRoomStore, opens, opened]
    rfl
  | ok number =>
    have objects : (host.without other).stores.objects = host.stores.objects :=
      Directory.forget_objects ..
    rw [openRoomStore_of_open (opens.trans opened), openRoomStore_of_open opened, objects,
      Host.memory_without]

variable [Carrier σ]

/-- A call for one room goes as it would without the names of another. -/
theorem perform_without (within : call.Within names) (apart : names.Apart other) :
    call.perform (host.without other) =
      (call.perform host).map fun (answer, after) => (answer, after.without other) := by
  cases call with
  | openStore own =>
    obtain rfl := within own rfl
    exact congrArg (fun answer => some (answer, _)) (openRoomStore_without apart)
  | openLock own =>
    obtain rfl := within own rfl
    exact congrArg (fun answer => some (answer, _)) (Directory.openObject_forget apart.lock)
  | createStore own =>
    obtain rfl := within own rfl
    simp only [perform, Host.without, Directory.create_forget apart.store]
    cases host.stores.create .store own.store .fresh <;> rfl
  | createLock own =>
    obtain rfl := within own rfl
    simp only [perform, Host.without, Directory.create_forget apart.lock]
    cases host.locks.create .lock own.lock 1 <;> rfl
  | unlinkStore own =>
    obtain rfl := within own rfl
    simp only [perform, Room.unlinkStore, Host.without, Directory.unlink_forget apart.store]
    cases host.stores.unlink .store own.store <;> rfl
  | unlinkLock own =>
    obtain rfl := within own rfl
    simp only [perform, Room.unlinkLock, Host.without, Directory.unlink_forget apart.lock]
    cases host.locks.unlink .lock own.lock <;> rfl
  | wait room =>
    simp only [perform, Host.acquire_without]
    cases host.acquire room.lock <;> rfl
  | waitBriefly room =>
    simp only [perform, Host.acquire_without]
    cases host.acquire room.lock <;> rfl
  | post room => exact congrArg (fun after => some ((), after)) (Host.release_without room.lock)
  | read room => exact congrArg (fun answer => some (answer, _)) (Host.memory_without room.store)
  | write room memory =>
    exact congrArg (fun after => some ((), after)) (Host.setMemory_without room.store memory)
  | notify sender target notification =>
    simp only [perform, Host.notify, Host.without]
    cases Carrier.notify host.carrier sender target notification <;> rfl

/-- A call for one room leaves the names of another where they are. -/
theorem sameNamed_of_perform {answer : call.Answer} (within : call.Within names)
    (apart : names.Apart other) (performs : call.perform host = some (answer, after)) :
    Host.SameNamed other host after := by
  cases call with
  | createStore own =>
    obtain rfl := within own rfl
    simp only [perform] at performs
    split at performs <;> cases performs
    next created => exact ⟨Directory.find?_of_create_apart apart.store created, rfl⟩
    next => exact ⟨rfl, rfl⟩
  | createLock own =>
    obtain rfl := within own rfl
    simp only [perform] at performs
    split at performs <;> cases performs
    next created => exact ⟨rfl, Directory.find?_of_create_apart apart.lock created⟩
    next => exact ⟨rfl, rfl⟩
  | unlinkStore own =>
    obtain rfl := within own rfl
    simp only [perform] at performs
    cases unlinked : Room.unlinkStore own host with
    | error error =>
      rw [unlinked] at performs
      cases performs
      exact ⟨rfl, rfl⟩
    | ok removed =>
      rw [unlinked] at performs
      cases performs
      obtain ⟨stores, present, gone, rfl⟩ := Room.unlinkStore_eq_ok unlinked
      exact ⟨Directory.find?_of_unlink_apart apart.store gone, rfl⟩
  | unlinkLock own =>
    obtain rfl := within own rfl
    simp only [perform] at performs
    cases unlinked : Room.unlinkLock own host with
    | error error =>
      rw [unlinked] at performs
      cases performs
      exact ⟨rfl, rfl⟩
    | ok removed =>
      rw [unlinked] at performs
      cases performs
      obtain ⟨locks, present, gone, rfl⟩ := Room.unlinkLock_eq_ok unlinked
      exact ⟨rfl, Directory.find?_of_unlink_apart apart.lock gone⟩
  | wait room =>
    obtain ⟨held, acquired, same⟩ := Option.map_eq_some_iff.mp performs
    cases same
    obtain ⟨value, -, rfl⟩ := Host.acquire_eq_some_iff.mp acquired
    exact ⟨rfl, rfl⟩
  | waitBriefly room =>
    simp only [perform] at performs
    cases acquired : host.acquire room.lock with
    | none =>
      rw [acquired] at performs
      cases performs
      exact ⟨rfl, rfl⟩
    | some held =>
      rw [acquired] at performs
      cases performs
      obtain ⟨value, -, rfl⟩ := Host.acquire_eq_some_iff.mp acquired
      exact ⟨rfl, rfl⟩
  | notify sender target notification =>
    simp only [perform] at performs
    cases notified : host.notify sender target notification with
    | error fault =>
      rw [notified] at performs
      cases performs
      exact ⟨rfl, rfl⟩
    | ok sent =>
      rw [notified] at performs
      cases performs
      obtain ⟨carrier, -, rfl⟩ := Host.notify_eq_ok notified
      exact ⟨rfl, rfl⟩
  | openStore | openLock | post | read | write =>
    cases performs
    exact ⟨rfl, rfl⟩

end Call

namespace Script

variable [Carrier σ] {α : Type} {host after : Host σ} {names other : RoomNames} {script : Script α}
  {known : α → Prop}

theorem run_without (within : script.Within names known) (apart : names.Apart other) :
    script.run (host.without other) =
      (script.run host).map fun (result, after) => (result, after.without other) := by
  induction script generalizing host with
  | done result => rfl
  | calls call next ih =>
    rw [run, run, Call.perform_without within.1 apart, Option.bind_map, Option.map_bind]
    congr 1
    funext answered
    exact ih answered.1 (within.2 answered.1)

theorem sameNamed_of_run {result : α} (within : script.Within names known) (apart : names.Apart other)
    (ran : script.run host = some (result, after)) : Host.SameNamed other host after := by
  induction script generalizing host with
  | done result =>
    cases ran
    exact ⟨rfl, rfl⟩
  | calls call next ih =>
    obtain ⟨⟨answer, middle⟩, performs, rest⟩ := Option.bind_eq_some_iff.mp ran
    have first := Call.sameNamed_of_perform within.1 apart performs
    have second := ih answer (within.2 answer) rest
    exact ⟨second.store.trans first.store, second.lock.trans first.lock⟩

end Script

/-- The file that a call opens, makes or removes. -/
def Call.file? : Call → Option String
  | .openStore names | .createStore names | .unlinkStore names => objectFile? .store names.store
  | .openLock names | .createLock names | .unlinkLock names => objectFile? .lock names.lock
  | _ => none

theorem Call.Within.file {names : RoomNames} {call : Call} {file : String} (within : call.Within names)
    (touched : file ∈ call.file?) : file ∈ names.files := by
  rw [RoomNames.files, List.mem_append, Option.mem_toList, Option.mem_toList]
  cases call with
  | openStore own | createStore own | unlinkStore own =>
    obtain rfl := within own rfl
    exact .inl touched
  | openLock own | createLock own | unlinkLock own =>
    obtain rfl := within own rfl
    exact .inr touched
  | _ => cases touched

/-- An operation has nothing to do with the resources of a room. -/
structure RoomOperation.Avoids (σ : Type) [Carrier σ] (names : RoomNames) (operation : RoomOperation) :
    Prop where
  /-- Whatever the system answers, no call opens, makes or removes a file of the room. -/
  calls : operation.script.Only (fun call => ∀ file ∈ call.file?, file ∉ names.files) Script.anything
  /-- The names of the room lead where they led. -/
  spares : ∀ (host : Host σ) answer after, operation.perform host = some (answer, after) →
    Host.SameNamed names host after
  /-- Without those names the operation goes just the same. -/
  blind : ∀ host : Host σ, operation.perform (host.without names) =
    (operation.perform host).map fun (answer, after) => (answer, after.without names)

namespace RoomNames

variable {ns other : String} {room another : ParticipantId}

theorem apart_of_ne (valid : checkNamespace ns = .ok ()) (validOther : checkNamespace other = .ok ())
    (different : ¬(ns = other ∧ room = another)) :
    (ofRoom ns room).Apart (ofRoom other another) := by
  have same (stems : stem ns = stem other) : ns = other := by
    rw [stem_of_checkNamespace valid, stem_of_checkNamespace validOther] at stems
    exact String.toList_injective stems
  constructor
  · intro key own foreign
    obtain ⟨stems, rooms⟩ := storeKey_inj own foreign
    exact different ⟨same stems, rooms⟩
  · intro key own foreign
    obtain ⟨stems, rooms⟩ := lockKey_inj own foreign
    exact different ⟨same stems, rooms⟩

/-- What the names of the resources of two rooms say. -/
structure Distinct (σ : Type) [Carrier σ] (ns : String) (room : ParticipantId) (other : String)
    (another : ParticipantId) : Prop where
  stores : (ofRoom ns room).store = (ofRoom other another).store → ns = other ∧ room = another
  locks : (ofRoom ns room).lock = (ofRoom other another).lock → ns = other ∧ room = another
  /-- Stores and locks share no names, nor do their files. -/
  kinds : (ofRoom ns room).store ≠ (ofRoom other another).lock ∧
    (ofRoom ns room).store ≠ "/sem." ++ fileName "lock" other another
  legalStore : LegalName (ofRoom ns room).store (fileName "room" ns room)
  legalLock : LegalName (ofRoom ns room).lock (fileName "lock" ns room)
  secluded : ¬(ns = other ∧ room = another) → ∀ operation : RoomOperation,
    operation.names = ofRoom ns room → operation.Avoids σ (ofRoom other another)

/-- Whatever namespaces have in them, the names of rooms are never mistaken for each other. -/
theorem names_distinct (σ : Type) [Carrier σ] (valid : checkNamespace ns = .ok ())
    (validOther : checkNamespace other = .ok ()) (room another : ParticipantId) :
    Distinct σ ns room other another := by
  constructor
  case stores => exact store_inj
  case locks => exact lock_inj
  case kinds =>
    rw [store_eq, lock_eq]
    constructor
    · intro same
      exact fileName_ne "" (((String.append_right_inj _).mp same).trans String.empty_append.symm)
    · intro same
      have split : "/sem." = "/" ++ "sem." := rfl
      rw [split, String.append_assoc] at same
      exact fileName_ne "sem." ((String.append_right_inj _).mp same)
  case legalStore => exact legalName_store valid room
  case legalLock => exact legalName_lock valid room
  case secluded =>
    intro different operation own
    have within := operation.within_script
    rw [own] at within
    have apart := apart_of_ne valid validOther different
    constructor
    case calls =>
      refine within.mono (fun call within file touched => ?_) fun _ holds => holds
      exact files_disjoint valid validOther different (within.file touched)
    case spares =>
      intro host answer after performed
      rw [← operation.run_script] at performed
      exact Script.sameNamed_of_run within apart performed
    case blind =>
      intro host
      rw [← operation.run_script, ← operation.run_script]
      exact Script.run_without within apart

/-- A namespace that ends like the name of a store and one that ends like the name of a lock. -/
theorem names_distinct_of_lookalikes :
    checkNamespace "a_room_42" = .ok () ∧ checkNamespace "sem.a_lock_" = .ok () ∧
      Distinct Exchange "a_room_42" anna "sem.a_lock_" bert ∧
      (RoomOperation.create (fun _ => true) "a_room_42" anna).Avoids Exchange
        (ofRoom "sem.a_lock_" bert) := by
  have valid : checkNamespace "a_room_42" = .ok () := by decide +kernel
  have validOther : checkNamespace "sem.a_lock_" = .ok () := by decide +kernel
  have distinct := names_distinct Exchange valid validOther anna bert
  exact ⟨valid, validOther, distinct, distinct.secluded (by decide) _ rfl⟩

end RoomNames

end HostChat
