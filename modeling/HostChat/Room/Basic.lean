import HostChat.Host.Basic
import HostChat.Room.Names

/-! # Rooms

A room is a store under one name and a lock under another. A participant has a handle on both; the
handle stays good when the names are gone or lead to another room. The memory is read and written
with the lock held, but for the header, which nobody changes once the room is known to others.

What waits for a lock that is not given back has no result, and is `none` here.
-/

namespace HostChat

/-- A handle on a room: its id and names, and the numbers of the store and the lock. -/
structure Room where
  id : ParticipantId
  names : RoomNames
  store : Nat
  lock : Nat
deriving DecidableEq, Repr

namespace Room

variable {σ : Type}

def describe (room : Room) : String :=
  "Room \x7b id: " ++ room.id.describe ++ ", names: " ++ room.names.describe ++ ", .. \x7d"

def memory (room : Room) (host : Host σ) : RoomMemory :=
  host.memory room.store

def setMemory (room : Room) (host : Host σ) (memory : RoomMemory) : Host σ :=
  host.setMemory room.store memory

/-- Runs `body` with the lock held. -/
def guarded {α : Type} (room : Room) (host : Host σ) (body : Host σ → α × Host σ) :
    Option (α × Host σ) :=
  (host.acquire room.lock).map fun host =>
    let (result, host) := body host
    (result, host.release room.lock)

/-- Reads the memory with the lock held. -/
def inspect {α : Type} (room : Room) (host : Host σ) (read : RoomMemory → α) :
    Option (α × Host σ) :=
  room.guarded host fun host => (read (room.memory host), host)

/-- Finds the room that `id` created, if what is there under its names is one. -/
def attach (ns : String) (id : ParticipantId) (host : Host σ) : Except RoomError Room := do
  let names := RoomNames.ofRoom ns id
  let store ← host.stores.openObject .store names.store
  let size := (host.stores.objects[store]?).elim 0 Store.size
  if size < RoomMemory.byteSize then
    throw (.layout names.store .tooSmall)
  (host.memory store).header.check.mapError (.layout names.store)
  let lock ← host.locks.openObject .lock names.lock
  return ⟨id, names, store, lock⟩

/-- The participants of a room already under the names of `id` that are still running. There are none
if there is no proper room, or if its lock is stuck; an entry under `id` itself is out of date. -/
def occupants (running : ParticipantId → Bool) (ns : String) (id : ParticipantId) (host : Host σ) :
    Nat × Host σ :=
  match attach ns id host with
  | .error _ => (0, host)
  | .ok room =>
      let count := fun memory : RoomMemory =>
        memory.registry.participants.countP fun participant =>
          participant ≠ id && running participant
      (room.inspect host count).getD (0, host)

def unlinkStore (names : RoomNames) (host : Host σ) : Except RoomError (Host σ) := do
  let (_, stores) ← host.stores.unlink .store names.store
  return { host with stores }

def unlinkLock (names : RoomNames) (host : Host σ) : Except RoomError (Host σ) := do
  let (_, locks) ← host.locks.unlink .lock names.lock
  return { host with locks }

/-- Makes the lock of a new room whose store is there already. If that fails, the name of the store
goes away again. -/
def createLock (id : ParticipantId) (names : RoomNames) (store : Nat) (host : Host σ) :
    Except RoomError Room × Host σ :=
  match host.locks.create .lock names.lock 1 with
  | .ok (lock, locks) => (.ok ⟨id, names, store, lock⟩, { host with locks })
  | .error error => (.error error, (unlinkStore names host).toOption.getD host)

/-- Makes a room under names that nothing is known by. -/
def createFresh (id : ParticipantId) (names : RoomNames) (host : Host σ) :
    Except RoomError Room × Host σ :=
  match host.stores.create .store names.store .fresh with
  | .error error => (.error error, host)
  | .ok (store, stores) => createLock id names store { host with stores }

/-- Makes a room, in place of one that no running participant but `id` is in. -/
def create (running : ParticipantId → Bool) (ns : String) (id : ParticipantId) (host : Host σ) :
    Except RoomError Room × Host σ :=
  let names := RoomNames.ofRoom ns id
  match occupants running ns id host with
  | (count + 1, host) => (.error (.inUse names.store (count + 1)), host)
  | (0, host) =>
      match unlinkStore names host with
      | .error error => (.error error, host)
      | .ok host =>
          match unlinkLock names host with
          | .error error => (.error error, host)
          | .ok host => createFresh id names host

/-- Removes both names. The second is removed even if that fails for the first. -/
def unlink (room : Room) (host : Host σ) : Except RoomError Unit × Host σ :=
  match unlinkStore room.names host with
  | .ok host =>
      match unlinkLock room.names host with
      | .ok host => (.ok (), host)
      | .error error => (.error error, host)
  | .error error => (.error error, (unlinkLock room.names host).toOption.getD host)

end Room

end HostChat
