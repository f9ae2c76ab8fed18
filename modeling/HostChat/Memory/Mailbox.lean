import HostChat.Memory.FirstIndex
import HostChat.Message
import HostChat.Room.Error

/-! # The mailbox

A pool of slots for messages on their way. A slot is free if its length is zero, and it is occupied
from the moment a sender stores a message in it until its recipient takes the message out. Every
process on the host may write the slots, so no operation relies on what it finds in one.
-/

namespace HostChat

structure Slot where
  len : UInt32
  sender : Int32
  recipient : Int32
  pad : UInt32
  data : Vector UInt8 maxMessageBytes
deriving DecidableEq, Repr

namespace Slot

def empty : Slot := ⟨0, 0, 0, 0, .replicate maxMessageBytes 0⟩

def isFree (slot : Slot) : Bool :=
  slot.len == 0

/-- As many bytes as the length says, but no more than there are. -/
def payload (slot : Slot) : List UInt8 :=
  slot.data.toList.take slot.len.toNat

/-- A text as the data of a slot: zeros behind it, and nothing beyond the slot's end. -/
def dataOf (text : List UInt8) : Vector UInt8 maxMessageBytes :=
  let bytes := text.toArray
  .ofFn fun index => bytes.getD index 0

def isFor (slot : Slot) (recipient : ParticipantId) : Bool :=
  !slot.isFree && slot.recipient == recipient.raw

/-- The message in a slot that is occupied, addressed to `recipient` and has a proper sender. -/
def message? (slot : Slot) (recipient : ParticipantId) : Option Message :=
  if slot.isFor recipient then
    (ParticipantId.ofRaw? slot.sender).map fun sender => ⟨sender, recipient, slot.payload⟩
  else none

end Slot

structure Mailbox where
  slots : Vector Slot mailboxSlots
deriving DecidableEq, Repr

namespace Mailbox

def empty : Mailbox := ⟨.replicate mailboxSlots .empty⟩

def slot? (mailbox : Mailbox) (index : Nat) : Option Slot :=
  mailbox.slots[index]?

/-- Puts a message into the first free slot. A text that is empty or too long, or a mailbox without a
free slot, leaves every slot as it is. -/
def store (mailbox : Mailbox) (sender recipient : ParticipantId) (text : List UInt8) :
    Except RoomError (Fin mailboxSlots × Mailbox) :=
  if text.isEmpty then .error .emptyMessage
  else if maxMessageBytes < text.length then .error (.overflow text.length)
  else
    match firstIndex? mailbox.slots Slot.isFree with
    | none => .error .mailboxFull
    | some index =>
        let slot : Slot :=
          { len := UInt32.ofNat text.length
            sender := sender.raw
            recipient := recipient.raw
            pad := mailbox.slots[index].pad
            data := Slot.dataOf text }
        .ok (index, ⟨mailbox.slots.set index slot⟩)

/-- Frees a slot, whatever it holds. -/
def release (mailbox : Mailbox) (index : Nat) : Mailbox :=
  ⟨mailbox.slots.setIfInBounds index .empty⟩

/-- Takes the message for `recipient` out of a slot and frees the slot. -/
def take (mailbox : Mailbox) (index : Nat) (recipient : ParticipantId) : Option Message × Mailbox :=
  match (mailbox.slot? index).bind (·.message? recipient) with
  | some message => (some message, mailbox.release index)
  | none => (none, mailbox)

/-- Frees every slot that holds something for `recipient`, and counts them. -/
def purgeFor (mailbox : Mailbox) (recipient : ParticipantId) : Nat × Mailbox :=
  (mailbox.slots.toList.countP (·.isFor recipient),
    ⟨mailbox.slots.map fun slot => if slot.isFor recipient then .empty else slot⟩)

/-- The number of occupied slots. -/
def occupied (mailbox : Mailbox) : Nat :=
  mailbox.slots.toList.countP (!·.isFree)

end Mailbox

end HostChat
