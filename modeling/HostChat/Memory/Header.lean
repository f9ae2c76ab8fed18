import HostChat.Room.Error

/-! # The header of a room's memory

Eight magic bytes tell a room from any other store, and a version number tells its layout. The
reserved word is not looked at.
-/

namespace HostChat

structure Header where
  magic : Vector UInt8 8
  version : UInt32
  pad : UInt32
deriving DecidableEq, Repr

namespace Header

/-- The bytes of `TGROOM` and two zeros. -/
def roomMagic : Vector UInt8 8 := #v[0x54, 0x47, 0x52, 0x4f, 0x4f, 0x4d, 0, 0]

def roomVersion : UInt32 := 1

def zero : Header := ⟨.replicate 8 0, 0, 0⟩

def room : Header := ⟨roomMagic, roomVersion, 0⟩

def check (header : Header) : Except LayoutFault Unit :=
  if header.magic ≠ roomMagic then .error .badMagic
  else if header.version ≠ roomVersion then .error .badVersion
  else .ok ()

end Header

end HostChat
