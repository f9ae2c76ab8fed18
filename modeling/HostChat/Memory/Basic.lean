import HostChat.Memory.Header
import HostChat.Memory.Mailbox
import HostChat.Memory.Registry

/-! # The memory of a room -/

namespace HostChat

/-- All that the participants of a room share. -/
structure RoomMemory where
  header : Header
  registry : Registry
  mailbox : Mailbox
deriving DecidableEq, Repr

namespace RoomMemory

def zero : RoomMemory := ⟨.zero, .empty, .empty⟩

/-- An empty room. -/
def fresh : RoomMemory := ⟨.room, .empty, .empty⟩

end RoomMemory

end HostChat
