import HostChat.Proofs.Host.Directory
import HostChat.Proofs.Locking.Script

/-! # Access to registries and mailboxes

Memory is read and written through the handle of a room. All other calls do the same, and answer the
same, whatever there is in the registries and mailboxes of the stores, and leave that as it is.
-/

namespace HostChat

variable {σ : Type}

namespace Directory

variable {α : Type} {directory : Directory α} {number : Nat} {change : α → α}

private theorem openObject_modify (kind : ObjectKind) (name : String) :
    (directory.modify number change).openObject kind name = directory.openObject kind name := rfl

/-- New objects come after those that are there. -/
private theorem create_modify (kind : ObjectKind) (name : String) (object : α)
    (made : number < directory.objects.size) :
    (directory.modify number change).create kind name object =
      (directory.create kind name object).map fun (new, after) => (new, after.modify number change) := by
  have pushed : (directory.objects.modify number change).push object =
      (directory.objects.push object).modify number change := by
    apply Array.ext
    · simp
    · intro index _ _
      simp only [Array.getElem_push, Array.getElem_modify, Array.size_modify]
      split_ifs <;> first | rfl | omega
  simp only [create]
  cases objectKey kind name with
  | error fault => rfl
  | ok key =>
    simp only [modify]
    cases directory.names.find? key with
    | some other => rfl
    | none =>
      simp only [Array.size_modify, pushed]
      rfl

end Directory

namespace Host

variable {host : Host σ} {store other : Nat} {registry : Registry} {mailbox : Mailbox}

/-- The host with another registry and another mailbox in a store. -/
def refill (host : Host σ) (store : Nat) (registry : Registry) (mailbox : Mailbox) : Host σ :=
  { host with stores := host.stores.modify store fun object =>
      { object with memory := { object.memory with registry, mailbox } } }

private theorem acquire_refill (lock : Nat) :
    (host.refill store registry mailbox).acquire lock =
      (host.acquire lock).map (·.refill store registry mailbox) := by
  have same : (host.refill store registry mailbox).locks = host.locks := rfl
  rw [acquire, acquire, same]
  cases host.locks.objects[lock]? with
  | none => rfl
  | some value => cases value <;> rfl

private theorem header_refill : ((host.refill store registry mailbox).memory other).header =
    (host.memory other).header := by
  simp only [memory, refill, Directory.modify, Array.getElem?_modify]
  split_ifs with same
  · subst same
    cases host.stores.objects[store]? <;> rfl
  · rfl

private theorem size_refill :
    ((host.refill store registry mailbox).stores.objects[other]?).elim 0 Store.size =
      (host.stores.objects[other]?).elim 0 Store.size := by
  simp only [refill, Directory.modify, Array.getElem?_modify]
  split_ifs with same
  · subst same
    cases host.stores.objects[store]? <;> rfl
  · rfl

end Host

namespace Call

variable {host : Host σ} {store : Nat} {registry : Registry} {mailbox : Mailbox}

/-- The handle through which a call gets at registries and mailboxes. -/
def accessed? : Call → Option Room
  | .read room | .write room _ => some room
  | _ => none

theorem openRoomStore_of_open {names : RoomNames} {number : Nat}
    (opened : host.stores.openObject .store names.store = .ok number) :
    openRoomStore names host =
      if (host.stores.objects[number]?).elim 0 Store.size < RoomMemory.byteSize then
        .error (.layout names.store .tooSmall)
      else ((host.memory number).header.check.mapError (.layout names.store)).map fun _ => number := by
  rw [openRoomStore, opened]
  change (if _ then _ else _) = _
  split_ifs
  · rfl
  · cases (host.memory number).header.check <;> rfl

theorem openRoomStore_refill (names : RoomNames) :
    openRoomStore names (host.refill store registry mailbox) = openRoomStore names host := by
  cases opened : host.stores.openObject .store names.store with
  | error error =>
    rw [openRoomStore, openRoomStore, Host.refill, Directory.openObject_modify, opened]
    rfl
  | ok number =>
    have still : (host.refill store registry mailbox).stores.openObject .store names.store =
        .ok number := opened
    rw [openRoomStore_of_open still, openRoomStore_of_open opened, Host.size_refill,
      Host.header_refill]

theorem perform_refill [Carrier σ] {call : Call} (other : call.accessed? = none)
    (made : store < host.stores.objects.size) (registry : Registry) (mailbox : Mailbox) :
    call.perform (host.refill store registry mailbox) =
      (call.perform host).map fun (answer, after) =>
        (answer, after.refill store registry mailbox) := by
  cases call with
  | openStore names => exact congrArg (fun answer => some (answer, _)) (openRoomStore_refill names)
  | openLock names => rfl
  | createStore names =>
    rw [perform, perform, Host.refill, Directory.create_modify _ _ _ made]
    cases host.stores.create .store names.store .fresh <;> rfl
  | createLock names =>
    rw [perform, perform, Host.refill]
    cases host.locks.create .lock names.lock 1 <;> rfl
  | unlinkStore names =>
    rw [perform, perform, Host.refill, Room.unlinkStore, Room.unlinkStore, Directory.unlink_modify]
    cases host.stores.unlink .store names.store <;> rfl
  | unlinkLock names =>
    rw [perform, perform, Host.refill, Room.unlinkLock, Room.unlinkLock]
    cases host.locks.unlink .lock names.lock <;> rfl
  | wait room =>
    rw [perform, perform, Host.acquire_refill]
    cases host.acquire room.lock <;> rfl
  | waitBriefly room =>
    rw [perform, perform, Host.acquire_refill]
    cases host.acquire room.lock <;> rfl
  | post room => rfl
  | read room => cases other
  | write room memory => cases other
  | notify sender target notification =>
    rw [perform, perform, Host.refill, Host.notify, Host.notify]
    cases Carrier.notify host.carrier sender target notification <;> rfl

end Call

end HostChat
