import HostChat.Host.ObjectName
import HostChat.Table

/-! # Directories of objects

Objects are numbered in the order of their making, and a directory leads from names to numbers. An
object outlives its name: whoever has opened it goes on using it under its number.
-/

namespace HostChat

structure Directory (α : Type) where
  objects : Array α
  names : Table String Nat
deriving DecidableEq, Repr

namespace Directory

variable {α : Type}

def empty : Directory α := ⟨#[], .empty⟩

/-- The number of the object under a name. -/
def find? (directory : Directory α) (kind : ObjectKind) (name : String) : Option Nat :=
  match objectKey kind name with
  | .ok key => directory.names.find? key
  | .error _ => none

def openObject (directory : Directory α) (kind : ObjectKind) (name : String) :
    Except RoomError Nat :=
  match objectKey kind name with
  | .error fault => .error (fault.onOpen kind name)
  | .ok key =>
      match directory.names.find? key with
      | some number => .ok number
      | none => .error (.system kind.openCall name .notFound)

/-- Makes an object under a name that is free. -/
def create (directory : Directory α) (kind : ObjectKind) (name : String) (object : α) :
    Except RoomError (Nat × Directory α) :=
  match objectKey kind name with
  | .error fault => .error (fault.onOpen kind name)
  | .ok key =>
      match directory.names.find? key with
      | some _ => .error (.system kind.openCall name .alreadyExists)
      | none =>
          let number := directory.objects.size
          .ok (number, ⟨directory.objects.push object, directory.names.insert key number⟩)

/-- Removes a name and says whether it was there. A malformed name is never there. -/
def unlink (directory : Directory α) (kind : ObjectKind) (name : String) :
    Except RoomError (Bool × Directory α) :=
  match objectKey kind name with
  | .error (.nulByte position) => .error (.system "name" name (.nulByte position))
  | .error .malformed => .ok (false, directory)
  | .error .tooLong => .error (.system kind.unlinkCall name .nameTooLong)
  | .ok key =>
      .ok ((directory.names.find? key).isSome,
        { directory with names := directory.names.erase key })

def modify (directory : Directory α) (number : Nat) (change : α → α) : Directory α :=
  { directory with objects := directory.objects.modify number change }

end Directory

end HostChat
