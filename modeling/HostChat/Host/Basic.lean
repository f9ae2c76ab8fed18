import HostChat.Host.Directory
import HostChat.Memory.Bytes
import HostChat.Notification.Basic

/-! # The host

What the processes of one host have in common: stores and locks under names, and a carrier for their
notifications. A lock is a semaphore, and its value is 1 while nobody holds it.
-/

namespace HostChat

/-- A shared memory object: how many bytes it has, and those of them that are room memory. Bytes past
its end are zero, and bytes past a room's are not kept. -/
structure Store where
  size : Nat
  memory : RoomMemory
deriving DecidableEq, Repr

namespace Store

/-- A store of just the size of a room, with an empty room in it. -/
def fresh : Store := ⟨RoomMemory.byteSize, .fresh⟩

/-- A store cut to a size, or extended to it with zeros. -/
def resize (store : Store) (size : Nat) : Store :=
  ⟨size, if size < store.size then store.memory.truncate size else store.memory⟩

/-- Writes bytes into the store, which grows if they go past its end. -/
def write (store : Store) (start : Nat) (bytes : List UInt8) : Store :=
  if bytes.isEmpty then store
  else ⟨max store.size (start + bytes.length), store.memory.writeBytes start bytes⟩

end Store

structure Host (σ : Type) where
  stores : Directory Store
  /-- The values of the semaphores. -/
  locks : Directory Nat
  carrier : σ
deriving DecidableEq, Repr

namespace Host

variable {σ : Type}

def empty (carrier : σ) : Host σ := ⟨.empty, .empty, carrier⟩

/-- The memory in the store of a number. -/
def memory (host : Host σ) (store : Nat) : RoomMemory :=
  match host.stores.objects[store]? with
  | some store => store.memory
  | none => .zero

def setMemory (host : Host σ) (store : Nat) (memory : RoomMemory) : Host σ :=
  { host with stores := host.stores.modify store fun store => { store with memory } }

/-- Takes a lock, if nobody holds it. -/
def acquire (host : Host σ) (lock : Nat) : Option (Host σ) :=
  match host.locks.objects[lock]? with
  | some (value + 1) => some { host with locks := host.locks.modify lock fun _ => value }
  | _ => none

def release (host : Host σ) (lock : Nat) : Host σ :=
  { host with locks := host.locks.modify lock (· + 1) }

def notify [Carrier σ] (host : Host σ) (sender target : ParticipantId)
    (notification : Notification) : Except Fault (Host σ) :=
  (Carrier.notify host.carrier sender target notification).map fun carrier => { host with carrier }

end Host

end HostChat
