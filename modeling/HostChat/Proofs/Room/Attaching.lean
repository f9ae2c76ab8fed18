import HostChat.Proofs.Locking.Reach
import HostChat.Proofs.Memory.Layout

/-! # Attaching to rooms

Attaching looks at the name of the store, at its size, at its first twelve bytes and at the name of the
lock, in this order, and reports the first of them that is not as it should be. So the rooms that can be
attached to are those of initialized stores, whatever stands behind the twelve bytes.
-/

namespace HostChat

variable {σ : Type}

namespace RoomMemory

private theorem readBytes_magic (memory : RoomMemory) :
    memory.readBytes 0 8 = memory.header.magic.toList := by
  have laid : memory.LaidOut memory.byte := laidOut_iff.mpr fun _ _ => rfl
  apply List.ext_getElem
  · simp [readBytes]
  · intro index inside _
    simp only [readBytes, List.length_map, List.length_range] at inside
    simp only [readBytes, List.getElem_map, List.getElem_range, Nat.zero_add, Vector.getElem_toList]
    exact (laid.magic ⟨index, inside⟩).symm

private theorem readWord_version (memory : RoomMemory) :
    readWord memory.byte 8 = memory.header.version :=
  (laidOut_iff.mpr fun _ _ => rfl : memory.LaidOut memory.byte).version.symm

end RoomMemory

namespace Host

variable {host : Host σ} {store : Nat}

/-- How many bytes there are in the store of a number. -/
def storeSize (host : Host σ) (store : Nat) : Nat :=
  (host.stores.objects[store]?).elim 0 Store.size

/-- A store with the bytes of an initialized room at its front. The reserved word and all that follows
may be anything. -/
structure Initialized (host : Host σ) (store : Nat) : Prop where
  size : RoomMemory.byteSize ≤ host.storeSize store
  magic : (host.memory store).readBytes 0 8 = Header.roomMagic.toList
  version : readWord (host.memory store).byte 8 = Header.roomVersion

private theorem check_of_other_magic
    (other : (host.memory store).readBytes 0 8 ≠ Header.roomMagic.toList) :
    (host.memory store).header.check = .error .badMagic := by
  rw [RoomMemory.readBytes_magic] at other
  exact if_pos fun same => other (congrArg Vector.toList same)

private theorem check_of_other_version
    (magic : (host.memory store).readBytes 0 8 = Header.roomMagic.toList)
    (other : readWord (host.memory store).byte 8 ≠ Header.roomVersion) :
    (host.memory store).header.check = .error .badVersion := by
  rw [RoomMemory.readBytes_magic] at magic
  rw [RoomMemory.readWord_version] at other
  rw [Header.check, if_neg (not_not.mpr (Vector.toList_inj.mp magic)), if_pos other]

theorem Initialized.check (initialized : host.Initialized store) :
    (host.memory store).header.check = .ok () := by
  obtain ⟨-, magic, version⟩ := initialized
  rw [RoomMemory.readBytes_magic] at magic
  rw [RoomMemory.readWord_version] at version
  rw [Header.check, if_neg (not_not.mpr (Vector.toList_inj.mp magic)), if_neg (not_not.mpr version)]

theorem isRoom_iff_initialized : host.IsRoom store ↔ host.Initialized store := by
  rw [isRoom_iff]
  constructor
  · rintro ⟨large, checked⟩
    have magic : (host.memory store).readBytes 0 8 = Header.roomMagic.toList := by
      by_contra other
      cases (check_of_other_magic other).symm.trans checked
    refine ⟨Nat.not_lt.mp large, magic, ?_⟩
    by_contra other
    cases (check_of_other_version magic other).symm.trans checked
  · intro initialized
    exact ⟨Nat.not_lt.mpr initialized.size, initialized.check⟩

end Host

namespace Directory

variable {α : Type} {directory : Directory α} {kind : ObjectKind} {name : String}

theorem openObject_of_illegal {fault : ObjectNameFault}
    (illegal : objectKey kind name = .error fault) :
    directory.openObject kind name = .error (fault.onOpen kind name) := by
  simp only [openObject, illegal]

theorem openObject_of_missing {key : String} (legal : objectKey kind name = .ok key)
    (missing : directory.names.find? key = none) :
    directory.openObject kind name = .error (.system kind.openCall name .notFound) := by
  simp only [openObject, legal, missing]

/-- Looking for a name finds an object, or it is no name, or nothing has it. -/
private theorem find?_cases (directory : Directory α) (kind : ObjectKind) (name : String) :
    (∃ number, directory.find? kind name = some number) ∨
      (∃ fault, objectKey kind name = .error fault) ∨
        ∃ key, objectKey kind name = .ok key ∧ directory.names.find? key = none := by
  cases legal : objectKey kind name with
  | error fault => exact .inr (.inl ⟨fault, rfl⟩)
  | ok key =>
    cases found : directory.names.find? key with
    | none => exact .inr (.inr ⟨key, rfl, found⟩)
    | some number => exact .inl ⟨number, find?_eq_some_iff.mpr ⟨key, legal, found⟩⟩

end Directory

namespace Room

variable {host after : Host σ} {names : RoomNames} {ns : String} {id : ParticipantId} {room : Room}
  {error : RoomError}

/-- The first condition that fails when a room is looked for under its names, and what is said of it. -/
inductive Declines (names : RoomNames) (host : Host σ) : RoomError → Prop where
  | storeName {fault : ObjectNameFault} (illegal : objectKey .store names.store = .error fault) :
      Declines names host (fault.onOpen .store names.store)
  | storeMissing {key : String} (legal : objectKey .store names.store = .ok key)
      (missing : host.stores.names.find? key = none) :
      Declines names host (.system "shm_open" names.store .notFound)
  | tooSmall {store : Nat} (named : host.stores.find? .store names.store = some store)
      (small : host.storeSize store < RoomMemory.byteSize) :
      Declines names host (.layout names.store .tooSmall)
  | badMagic {store : Nat} (named : host.stores.find? .store names.store = some store)
      (large : RoomMemory.byteSize ≤ host.storeSize store)
      (magic : (host.memory store).readBytes 0 8 ≠ Header.roomMagic.toList) :
      Declines names host (.layout names.store .badMagic)
  | badVersion {store : Nat} (named : host.stores.find? .store names.store = some store)
      (large : RoomMemory.byteSize ≤ host.storeSize store)
      (magic : (host.memory store).readBytes 0 8 = Header.roomMagic.toList)
      (version : readWord (host.memory store).byte 8 ≠ Header.roomVersion) :
      Declines names host (.layout names.store .badVersion)
  | lockName {store : Nat} {fault : ObjectNameFault}
      (named : host.stores.find? .store names.store = some store)
      (initialized : host.Initialized store)
      (illegal : objectKey .lock names.lock = .error fault) :
      Declines names host (fault.onOpen .lock names.lock)
  | lockMissing {store : Nat} {key : String}
      (named : host.stores.find? .store names.store = some store)
      (initialized : host.Initialized store) (legal : objectKey .lock names.lock = .ok key)
      (missing : host.locks.names.find? key = none) :
      Declines names host (.system "sem_open" names.lock .notFound)

theorem attach_of_openRoomStore_error
    (failed : Call.openRoomStore (.ofRoom ns id) host = .error error) :
    attach ns id host = .error error := by
  rw [Script.attach_eq_bind, failed]
  rfl

theorem attach_of_openObject_error {store : Nat}
    (opened : Call.openRoomStore (.ofRoom ns id) host = .ok store)
    (failed : host.locks.openObject .lock (RoomNames.ofRoom ns id).lock = .error error) :
    attach ns id host = .error error := by
  rw [Script.attach_eq_bind, opened, failed]
  rfl

theorem openRoomStore_of_named {store : Nat}
    (named : host.stores.find? .store names.store = some store) :
    Call.openRoomStore names host =
      if host.storeSize store < RoomMemory.byteSize then .error (.layout names.store .tooSmall)
      else ((host.memory store).header.check.mapError (.layout names.store)).map fun _ => store :=
  Call.openRoomStore_of_open (Directory.openObject_eq_ok_iff.mpr named)

theorem openRoomStore_of_initialized {store : Nat}
    (named : host.stores.find? .store names.store = some store)
    (initialized : host.Initialized store) : Call.openRoomStore names host = .ok store := by
  rw [openRoomStore_of_named named, if_neg (Nat.not_lt.mpr initialized.size), initialized.check]
  rfl

theorem attach_of_declines (declines : Declines (.ofRoom ns id) host error) :
    attach ns id host = .error error := by
  cases declines with
  | storeName illegal =>
    apply attach_of_openRoomStore_error
    rw [Call.openRoomStore, Directory.openObject_of_illegal illegal]
    rfl
  | storeMissing legal missing =>
    apply attach_of_openRoomStore_error
    rw [Call.openRoomStore, Directory.openObject_of_missing legal missing]
    rfl
  | tooSmall named small =>
    apply attach_of_openRoomStore_error
    rw [openRoomStore_of_named named, if_pos small]
  | badMagic named large magic =>
    apply attach_of_openRoomStore_error
    rw [openRoomStore_of_named named, if_neg (Nat.not_lt.mpr large), Host.check_of_other_magic magic]
    rfl
  | badVersion named large magic version =>
    apply attach_of_openRoomStore_error
    rw [openRoomStore_of_named named, if_neg (Nat.not_lt.mpr large),
      Host.check_of_other_version magic version]
    rfl
  | lockName named initialized illegal =>
    exact attach_of_openObject_error (openRoomStore_of_initialized named initialized)
      (Directory.openObject_of_illegal illegal)
  | lockMissing named initialized legal missing =>
    exact attach_of_openObject_error (openRoomStore_of_initialized named initialized)
      (Directory.openObject_of_missing legal missing)

/-- A room is there to be attached to, or a first condition fails. -/
theorem named_or_declines (names : RoomNames) (host : Host σ) :
    (∃ store lock, host.stores.find? .store names.store = some store ∧ host.Initialized store ∧
      host.locks.find? .lock names.lock = some lock) ∨ ∃ error, Declines names host error := by
  rcases Directory.find?_cases host.stores .store names.store with
    ⟨store, named⟩ | ⟨fault, illegal⟩ | ⟨key, legal, missing⟩
  · by_cases large : RoomMemory.byteSize ≤ host.storeSize store
    · by_cases magic : (host.memory store).readBytes 0 8 = Header.roomMagic.toList
      · by_cases version : readWord (host.memory store).byte 8 = Header.roomVersion
        · have initialized : host.Initialized store := ⟨large, magic, version⟩
          rcases Directory.find?_cases host.locks .lock names.lock with
            ⟨lock, there⟩ | ⟨fault, illegal⟩ | ⟨key, legal, missing⟩
          · exact .inl ⟨store, lock, named, initialized, there⟩
          · exact .inr ⟨_, .lockName named initialized illegal⟩
          · exact .inr ⟨_, .lockMissing named initialized legal missing⟩
        · exact .inr ⟨_, .badVersion named large magic version⟩
      · exact .inr ⟨_, .badMagic named large magic⟩
    · exact .inr ⟨_, .tooSmall named (Nat.lt_of_not_le large)⟩
  · exact .inr ⟨_, .storeName illegal⟩
  · exact .inr ⟨_, .storeMissing legal missing⟩

theorem attach_eq_ok_iff_initialized :
    attach ns id host = .ok room ↔
      ∃ store lock, host.stores.find? .store (RoomNames.ofRoom ns id).store = some store ∧
        host.Initialized store ∧ host.locks.find? .lock (RoomNames.ofRoom ns id).lock = some lock ∧
          room = ⟨id, .ofRoom ns id, store, lock⟩ := by
  simp only [attach_eq_ok_iff, Host.isRoom_iff_initialized]

theorem attach_eq_error_iff :
    attach ns id host = .error error ↔ Declines (.ofRoom ns id) host error := by
  refine ⟨fun failed => ?_, attach_of_declines⟩
  rcases named_or_declines (.ofRoom ns id) host with
    ⟨store, lock, named, initialized, there⟩ | ⟨other, declines⟩
  · have found := attach_eq_ok_iff_initialized.mpr ⟨store, lock, named, initialized, there, rfl⟩
    cases failed.symm.trans found
  · have same := failed.symm.trans (attach_of_declines declines)
    cases same
    exact declines

end Room

end HostChat
