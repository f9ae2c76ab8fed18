import HostChat.Participant

/-! # Names of a room's resources

A room has a store and a lock. Both names follow from a namespace and the id of the room, which is
the id of the participant that created it, so that whoever learns the id finds the room.
-/

namespace HostChat

structure RoomNames where
  store : String
  lock : String
deriving DecidableEq, Repr

namespace RoomNames

def ofRoom (ns : String) (room : ParticipantId) : RoomNames where
  store := s!"/{ns}_room_{room}"
  lock := s!"/{ns}_lock_{room}"

def describe (names : RoomNames) : String :=
  "RoomNames \x7b store: " ++ Text.quoted names.store ++ ", lock: " ++ Text.quoted names.lock ++ " \x7d"

end RoomNames

def defaultNamespace : String := "tgchat"

def maxNamespaceBytes : Nat := 200

/-- Why a text cannot be part of a resource name. -/
inductive NamespaceProblem where
  | empty
  | tooLong
  | reservedCharacter
deriving DecidableEq, Repr

def NamespaceProblem.message : NamespaceProblem → String
  | .empty => "namespace must not be empty"
  | .tooLong => s!"namespace must be at most {maxNamespaceBytes} bytes"
  | .reservedCharacter => "namespace must not contain '/' or NUL"

def checkNamespace (ns : String) : Except NamespaceProblem Unit :=
  if ns.isEmpty then .error .empty
  else if maxNamespaceBytes < ns.utf8ByteSize then .error .tooLong
  else if ns.toList.any fun c => c == '/' || c == '\x00' then .error .reservedCharacter
  else .ok ()

end HostChat
