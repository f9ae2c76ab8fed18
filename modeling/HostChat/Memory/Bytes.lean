import HostChat.Memory.Basic

/-! # Room memory as bytes

The layout that all processes of a host agree on, little-endian and without gaps:

* bytes 0 to 15, the header: eight magic bytes, the version, a reserved word;
* bytes 16 to 55, the registry: ten words;
* from byte 56, the mailbox: 256 slots of 272 bytes, each a length, a sender, a recipient, a reserved
  word and the 256 bytes of the text.

`byte` reads one byte of a structured memory and `ofBytes` builds the structure from all of them, so
any bytes at all are some room memory.
-/

namespace HostChat

/-- Byte `index` of a little-endian word. -/
def wordByte (word : UInt32) (index : Nat) : UInt8 :=
  UInt8.ofNat (word.toNat >>> (8 * index))

/-- The little-endian word at offset `start`. -/
def readWord (byte : Nat → UInt8) (start : Nat) : UInt32 :=
  UInt32.ofNat ((byte start).toNat + 256 * ((byte (start + 1)).toNat +
    256 * ((byte (start + 2)).toNat + 256 * (byte (start + 3)).toNat)))

namespace Header

def byteSize : Nat := 16

def byte (header : Header) (index : Nat) : UInt8 :=
  if index < 8 then header.magic.getD index 0
  else if index < 12 then wordByte header.version (index - 8)
  else wordByte header.pad (index - 12)

def ofBytes (byte : Nat → UInt8) : Header where
  magic := .ofFn fun index => byte index
  version := readWord byte 8
  pad := readWord byte 12

end Header

namespace Registry

def byteSize : Nat := 4 * maxParticipants

def byte (registry : Registry) (index : Nat) : UInt8 :=
  wordByte (registry.entries.getD (index / 4) 0).toUInt32 (index % 4)

def ofBytes (byte : Nat → UInt8) : Registry where
  entries := .ofFn fun index => (readWord byte (4 * index)).toInt32

end Registry

namespace Slot

def byteSize : Nat := 16 + maxMessageBytes

def byte (slot : Slot) (index : Nat) : UInt8 :=
  if index < 4 then wordByte slot.len index
  else if index < 8 then wordByte slot.sender.toUInt32 (index - 4)
  else if index < 12 then wordByte slot.recipient.toUInt32 (index - 8)
  else if index < 16 then wordByte slot.pad (index - 12)
  else slot.data.getD (index - 16) 0

def ofBytes (byte : Nat → UInt8) : Slot where
  len := readWord byte 0
  sender := (readWord byte 4).toInt32
  recipient := (readWord byte 8).toInt32
  pad := readWord byte 12
  data := .ofFn fun index => byte (16 + index)

end Slot

namespace Mailbox

def byteSize : Nat := mailboxSlots * Slot.byteSize

def byte (mailbox : Mailbox) (index : Nat) : UInt8 :=
  (mailbox.slots.getD (index / Slot.byteSize) .empty).byte (index % Slot.byteSize)

def ofBytes (byte : Nat → UInt8) : Mailbox where
  slots := .ofFn fun index => .ofBytes fun offset => byte (Slot.byteSize * index + offset)

end Mailbox

namespace RoomMemory

def registryStart : Nat := Header.byteSize

def mailboxStart : Nat := registryStart + Registry.byteSize

def byteSize : Nat := mailboxStart + Mailbox.byteSize

def byte (memory : RoomMemory) (index : Nat) : UInt8 :=
  if index < registryStart then memory.header.byte index
  else if index < mailboxStart then memory.registry.byte (index - registryStart)
  else memory.mailbox.byte (index - mailboxStart)

def ofBytes (byte : Nat → UInt8) : RoomMemory where
  header := .ofBytes byte
  registry := .ofBytes fun index => byte (registryStart + index)
  mailbox := .ofBytes fun index => byte (mailboxStart + index)

def readBytes (memory : RoomMemory) (start length : Nat) : List UInt8 :=
  (List.range length).map fun offset => memory.byte (start + offset)

/-- Overwrites bytes from offset `start` on; what would go past the end is dropped. -/
def writeBytes (memory : RoomMemory) (start : Nat) (bytes : List UInt8) : RoomMemory :=
  let bytes := bytes.toArray
  ofBytes fun index =>
    if start ≤ index ∧ index < start + bytes.size then bytes.getD (index - start) 0
    else memory.byte index

/-- The memory with zeros from byte `length` on. -/
def truncate (memory : RoomMemory) (length : Nat) : RoomMemory :=
  ofBytes fun index => if index < length then memory.byte index else 0

end RoomMemory

end HostChat
