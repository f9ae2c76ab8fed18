import HostChat.Memory.FirstIndex
import HostChat.Participant
import HostChat.Room.Error

/-! # The registry

A table of the participants of a room. An entry is the id of a participant or zero; the first zero
entry is given out, and an id that is present keeps its place. The entries are bare words, because
every process on the host may write them: a negative word is neither free nor a participant.
-/

namespace HostChat

structure Registry where
  entries : Vector Int32 maxParticipants
deriving DecidableEq, Repr

namespace Registry

def empty : Registry := ⟨.replicate maxParticipants 0⟩

def position (registry : Registry) (id : ParticipantId) : Option (Fin maxParticipants) :=
  firstIndex? registry.entries (· == id.raw)

def contains (registry : Registry) (id : ParticipantId) : Bool :=
  (registry.position id).isSome

/-- Gives `id` a place, the one it has if it is present. A full registry stays as it is. -/
def claim (registry : Registry) (id : ParticipantId) :
    Except RoomError (Fin maxParticipants × Registry) :=
  match registry.position id with
  | some index => .ok (index, registry)
  | none =>
      match firstIndex? registry.entries (· == 0) with
      | some index => .ok (index, ⟨registry.entries.set index id.raw⟩)
      | none => .error .roomFull

/-- Frees the place of `id`, if it has one. -/
def release (registry : Registry) (id : ParticipantId) :
    Option (Fin maxParticipants) × Registry :=
  match registry.position id with
  | some index => (some index, ⟨registry.entries.set index 0⟩)
  | none => (none, registry)

/-- The participants in the order of their places. -/
def participants (registry : Registry) : List ParticipantId :=
  registry.entries.toList.filterMap ParticipantId.ofRaw?

def size (registry : Registry) : Nat :=
  registry.participants.length

def isEmpty (registry : Registry) : Bool :=
  registry.participants.isEmpty

end Registry

end HostChat
