import HostChat.Proofs.Memory.Contents
import HostChat.Proofs.Room.Frame
import HostChat.Proofs.Room.Ledger

/-! # Registries and messages in the stores of a host

Writing the registry or the mailbox of one store changes no names, no locks and no other store.
-/

namespace HostChat

namespace Host

variable {σ : Type} {host after last : Host σ} {store other slot : Nat}

def registry (host : Host σ) (store : Nat) : Registry :=
  (host.memory store).registry

/-- The messages in the slots of all stores. -/
def contents (host : Host σ) : Contents :=
  fun store slot => (host.memory store).mailbox.content? slot

/-- The same rooms under the same names, with the same locks. -/
structure SameRooms (host after : Host σ) : Prop where
  names : after.stores.names = host.stores.names
  size : after.stores.objects.size = host.stores.objects.size
  locks : after.locks = host.locks
  isRoom : ∀ {store}, host.IsRoom store → after.IsRoom store

theorem SameRooms.refl (host : Host σ) : host.SameRooms host := ⟨rfl, rfl, rfl, id⟩

theorem SameRooms.trans (first : host.SameRooms after) (second : after.SameRooms last) :
    host.SameRooms last where
  names := second.names.trans first.names
  size := second.size.trans first.size
  locks := second.locks.trans first.locks
  isRoom room := second.isRoom (first.isRoom room)

theorem sameRooms_setMemory (host : Host σ) (store : Nat) (registry : Registry) (mailbox : Mailbox) :
    host.SameRooms (host.setMemory store { host.memory store with registry, mailbox }) :=
  ⟨rfl, setMemory_size .., rfl, fun room => room.setMemory rfl⟩

theorem sameRooms_carrier (host : Host σ) (carrier : σ) : host.SameRooms { host with carrier } :=
  ⟨rfl, rfl, rfl, id⟩

theorem registry_setMemory (memory : RoomMemory) (made : store < host.stores.objects.size) :
    (host.setMemory store memory).registry other =
      if other = store then memory.registry else host.registry other := by
  split_ifs with same
  · rw [same, registry, memory_setMemory host memory made]
  · rw [registry, memory_setMemory_of_ne host memory same, registry]

theorem contents_setMemory (memory : RoomMemory) (made : store < host.stores.objects.size) :
    (host.setMemory store memory).contents other slot =
      if other = store then memory.mailbox.content? slot else host.contents other slot := by
  split_ifs with same
  · rw [same, contents, memory_setMemory host memory made]
  · rw [contents, memory_setMemory_of_ne host memory same, contents]

theorem contents_of_size_le (beyond : host.stores.objects.size ≤ store) :
    host.contents store slot = none := by
  rw [contents, memory_of_size_le beyond]
  simp [RoomMemory.zero]

theorem registry_setMailbox (mailbox : Mailbox) (made : store < host.stores.objects.size) :
    (host.setMemory store { host.memory store with mailbox }).registry other = host.registry other := by
  rw [registry_setMemory _ made]
  split_ifs with same
  · rw [same, registry]
  · rfl

theorem contents_setRegistry (registry : Registry) (made : store < host.stores.objects.size) :
    (host.setMemory store { host.memory store with registry }).contents = host.contents := by
  funext other slot
  rw [contents_setMemory _ made]
  split_ifs with same
  · rw [same, contents]
  · rfl

theorem Spares.contents (spares : host.Spares after) : after.contents = host.contents := by
  funext store slot
  rw [Host.contents, spares.mailbox, Host.contents]

end Host

end HostChat
