import HostChat.Room.Error

/-! # Names of system objects

Stores and locks are objects of the system, known by names. A name is taken without the slashes at
its front; what is left has no slash and no NUL in it and is the name of a file of at most 255
bytes, the four that the system puts before the name of a lock counted. A name that is longer by no
more than four bytes is too long; a name that is longer still, or has a slash in it, is no name of an
object at all.
-/

namespace HostChat

inductive ObjectKind where
  | store
  | lock
deriving DecidableEq, Repr

namespace ObjectKind

/-- The bytes that the system puts before a name. -/
def reservedBytes : ObjectKind → Nat
  | .store => 0
  | .lock => 4

def openCall : ObjectKind → String
  | .store => "shm_open"
  | .lock => "sem_open"

def unlinkCall : ObjectKind → String
  | .store => "shm_unlink"
  | .lock => "sem_unlink"

end ObjectKind

def maxObjectNameBytes : Nat := 255

inductive ObjectNameFault where
  /-- There is a NUL after so many bytes. -/
  | nulByte (position : Nat)
  | malformed
  | tooLong
deriving DecidableEq, Repr

/-- The name of an object's file. -/
def objectKey (kind : ObjectKind) (name : String) : Except ObjectNameFault String :=
  let beforeNul := name.toList.takeWhile (· != '\x00')
  let key := String.ofList (name.toList.dropWhile (· == '/'))
  let bytes := key.utf8ByteSize + kind.reservedBytes
  if name.toList.contains '\x00' then .error (.nulByte (String.ofList beforeNul).utf8ByteSize)
  else if key.isEmpty || key.toList.contains '/' then .error .malformed
  else if maxObjectNameBytes + 4 < bytes then .error .malformed
  else if maxObjectNameBytes < bytes then .error .tooLong
  else .ok key

/-- Why an object cannot be opened under such a name. -/
def ObjectNameFault.onOpen (kind : ObjectKind) (name : String) : ObjectNameFault → RoomError
  | .nulByte position => .system "name" name (.nulByte position)
  | .malformed => .system kind.openCall name .invalidArgument
  | .tooLong => .system kind.openCall name .nameTooLong

end HostChat
