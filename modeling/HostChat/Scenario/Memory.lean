import HostChat.Memory.Bytes

/-! # Scripted access to the memory of a room

A script is a list of steps, each of which may be repeated; every execution of a step has an outcome.
-/

namespace HostChat.Scenario

/-- Executes a step a number of times. -/
def repeatStep {α β : Type} (step : β → α × β) : Nat → β → List α × β
  | 0, state => ([], state)
  | count + 1, state =>
      let (outcome, state) := step state
      let (outcomes, state) := repeatStep step count state
      (outcome :: outcomes, state)

inductive MemoryStep where
  /-- Makes the memory an empty room. -/
  | init
  | initHeader
  | checkHeader
  | claim (id : ParticipantId)
  | release (id : ParticipantId)
  | contains (id : ParticipantId)
  | participants
  | clearRegistry
  | clearMailbox
  | store (sender recipient : ParticipantId) (text : List UInt8)
  | take (slot : Nat) (id : ParticipantId)
  | readSlot (slot : Nat)
  | freeSlot (slot : Nat)
  | purge (id : ParticipantId)
  | readBytes (start length : Nat)
  | writeBytes (start : Nat) (bytes : List UInt8)

inductive MemoryOutcome where
  | done
  | header (result : Except LayoutFault Unit)
  | index (result : Except RoomError Nat)
  | place (index : Option Nat)
  | present (found : Bool)
  | participants (ids : List ParticipantId)
  | message (message : Option Message)
  | slot (slot : Option Slot)
  | count (count : Nat)
  | bytes (bytes : List UInt8)
  /-- The bytes asked for are not all there. -/
  | outOfRange

/-- What the memory looks like from the outside: the words of the registry and the number of occupied
slots. -/
structure MemorySummary where
  entries : List Int32
  occupied : Nat

def MemorySummary.of (memory : RoomMemory) : MemorySummary :=
  ⟨memory.registry.entries.toList, memory.mailbox.occupied⟩

def inRange (start length : Nat) : Bool :=
  start + length ≤ RoomMemory.byteSize

def MemoryStep.run (step : MemoryStep) (memory : RoomMemory) : MemoryOutcome × RoomMemory :=
  match step with
  | .init => (.done, .fresh)
  | .initHeader => (.done, { memory with header := .room })
  | .checkHeader => (.header memory.header.check, memory)
  | .claim id =>
      match memory.registry.claim id with
      | .ok (place, registry) => (.index (.ok place), { memory with registry })
      | .error error => (.index (.error error), memory)
  | .release id =>
      let (place, registry) := memory.registry.release id
      (.place (place.map (·.val)), { memory with registry })
  | .contains id => (.present (memory.registry.contains id), memory)
  | .participants => (.participants memory.registry.participants, memory)
  | .clearRegistry => (.done, { memory with registry := .empty })
  | .clearMailbox => (.done, { memory with mailbox := .empty })
  | .store sender recipient text =>
      match memory.mailbox.store sender recipient text with
      | .ok (slot, mailbox) => (.index (.ok slot), { memory with mailbox })
      | .error error => (.index (.error error), memory)
  | .take slot id =>
      let (message, mailbox) := memory.mailbox.take slot id
      (.message message, { memory with mailbox })
  | .readSlot slot => (.slot (memory.mailbox.slot? slot), memory)
  | .freeSlot slot => (.done, { memory with mailbox := memory.mailbox.release slot })
  | .purge id =>
      let (count, mailbox) := memory.mailbox.purgeFor id
      (.count count, { memory with mailbox })
  | .readBytes start length =>
      if inRange start length then (.bytes (memory.readBytes start length), memory)
      else (.outOfRange, memory)
  | .writeBytes start bytes =>
      if inRange start bytes.length then (.done, memory.writeBytes start bytes)
      else (.outOfRange, memory)

/-- The occupied slots with their numbers. -/
def occupiedSlots (memory : RoomMemory) : List (Nat × Slot) :=
  (memory.mailbox.slots.toList.zipIdx.filter (!·.1.isFree)).map fun (slot, index) => (index, slot)

end HostChat.Scenario
