import HostChat.Host.Fault
import HostChat.Limits

/-! # Room errors

What can go wrong with a room, by cause, and the one place that words it.
-/

namespace HostChat

/-- Why a store does not hold a room. -/
inductive LayoutFault where
  | tooSmall
  | badMagic
  | badVersion
deriving DecidableEq, Repr

def LayoutFault.message : LayoutFault → String
  | .tooSmall => "store is smaller than a room"
  | .badMagic => "not a room store (bad magic)"
  | .badVersion => "incompatible room layout version"

inductive RoomError where
  /-- A system call on a named resource failed. -/
  | system (call name : String) (fault : Fault)
  /-- The store exists but holds no room. -/
  | layout (name : String) (fault : LayoutFault)
  /-- The room under this name still has running participants. -/
  | inUse (name : String) (running : Nat)
  | roomFull
  | mailboxFull
  /-- The text has more bytes than a slot. -/
  | overflow (bytes : Nat)
  /-- A message without text could not be told from a free slot. -/
  | emptyMessage
deriving DecidableEq, Repr

def RoomError.message : RoomError → String
  | .system call name fault => s!"{call} {name}: {fault.message}"
  | .layout name fault => s!"{name}: {fault.message}"
  | .inUse name running => s!"{name} is still in use by {running} running participant(s)"
  | .roomFull => s!"room is full ({maxParticipants} participants)"
  | .mailboxFull => s!"mailbox is full ({mailboxSlots} pending messages)"
  | .overflow bytes => s!"message is {bytes} bytes, the limit is {maxMessageBytes}"
  | .emptyMessage => "message is empty"

end HostChat
