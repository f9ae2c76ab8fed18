import HostChat.Memory.Bytes
import Mathlib.Tactic.SplitIfs

/-! # The layout of room memory

The structures of a room and its bytes are two views of one memory: each word stands little-endian at
its place, each place holds a word, and there is nothing between them. So any bytes are a memory, and
memories with the same bytes are the same.
-/

namespace HostChat

section Words

variable {word : UInt32} {byte : Nat → UInt8} {start index : Nat}

private theorem toNat_wordByte (word : UInt32) (index : Nat) :
    (wordByte word index).toNat = (word.toNat >>> (8 * index)) % 256 := by
  rw [wordByte, UInt8.toNat_ofNat']

private theorem toNat_readWord (byte : Nat → UInt8) (start : Nat) :
    (readWord byte start).toNat = (byte start).toNat + 256 * ((byte (start + 1)).toNat +
      256 * ((byte (start + 2)).toNat + 256 * (byte (start + 3)).toNat)) := by
  have first := (byte start).toNat_lt
  have second := (byte (start + 1)).toNat_lt
  have third := (byte (start + 2)).toNat_lt
  have fourth := (byte (start + 3)).toNat_lt
  rw [readWord, UInt32.toNat_ofNat']
  omega

/-- The bytes of a word are read back as the word. -/
theorem readWord_eq (there : ∀ index < 4, byte (start + index) = wordByte word index) :
    readWord byte start = word := by
  have first := there 0 (by omega)
  have second := there 1 (by omega)
  have third := there 2 (by omega)
  have fourth := there 3 (by omega)
  have bound := word.toNat_lt
  apply UInt32.toNat_inj.mp
  rw [toNat_readWord]
  rw [Nat.add_zero] at first
  rw [first, second, third, fourth]
  simp only [toNat_wordByte, Nat.shiftRight_eq_div_pow]
  omega

/-- The bytes of the word that is read at a place are those at that place. -/
private theorem wordByte_readWord (inside : index < 4) :
    wordByte (readWord byte start) index = byte (start + index) := by
  have first := (byte start).toNat_lt
  have second := (byte (start + 1)).toNat_lt
  have third := (byte (start + 2)).toNat_lt
  have fourth := (byte (start + 3)).toNat_lt
  apply UInt8.toNat_inj.mp
  rw [toNat_wordByte, toNat_readWord, Nat.shiftRight_eq_div_pow]
  obtain rfl | rfl | rfl | rfl : index = 0 ∨ index = 1 ∨ index = 2 ∨ index = 3 := by omega
  · change _ = (byte start).toNat
    rw [Nat.mul_zero, Nat.pow_zero, Nat.div_one]
    omega
  all_goals omega

end Words

section Entries

variable {α : Type} {size index : Nat} {entries : Vector α size} {default : α}

private theorem getD_of_lt (inside : index < size) : entries.getD index default = entries[index] := by
  simp [Vector.getD, inside]

end Entries

namespace Header

variable {header : Header} {byte : Nat → UInt8} {index : Nat}

theorem ofBytes_eq (same : ∀ index < byteSize, byte index = header.byte index) :
    ofBytes byte = header := by
  rcases header with ⟨magic, version, pad⟩
  rw [byteSize] at same
  rw [ofBytes, Header.mk.injEq]
  refine ⟨?_, ?_, ?_⟩
  · apply Vector.ext
    intro index inside
    rw [Vector.getElem_ofFn, same index (by omega), Header.byte, if_pos inside, getD_of_lt inside]
  · apply readWord_eq
    intro index inside
    rw [same (8 + index) (by omega), Header.byte, if_neg (by omega), if_pos (by omega),
      Nat.add_sub_cancel_left]
  · apply readWord_eq
    intro index inside
    rw [same (12 + index) (by omega), Header.byte, if_neg (by omega), if_neg (by omega),
      Nat.add_sub_cancel_left]

theorem byte_ofBytes (inside : index < byteSize) : (ofBytes byte).byte index = byte index := by
  rw [byteSize] at inside
  rw [Header.byte]
  split_ifs with magic version
  · rw [getD_of_lt magic, ofBytes, Vector.getElem_ofFn]
  · rw [ofBytes, wordByte_readWord (by omega), Nat.add_sub_cancel' (by omega)]
  · rw [ofBytes, wordByte_readWord (by omega), Nat.add_sub_cancel' (by omega)]

end Header

namespace Registry

variable {registry : Registry} {byte : Nat → UInt8} {index : Nat}

/-- Entry by entry, a registry is its words. -/
theorem byte_eq (registry : Registry) (place : Fin maxParticipants) (inside : index < 4) :
    registry.byte (4 * place + index) = wordByte (registry.entries.get place).toUInt32 index := by
  have entry : (4 * place.val + index) / 4 = place := by omega
  have offset : (4 * place.val + index) % 4 = index := by omega
  rw [Registry.byte, entry, offset, getD_of_lt place.isLt]
  rfl

theorem ofBytes_eq (same : ∀ index < byteSize, byte index = registry.byte index) :
    ofBytes byte = registry := by
  rcases registry with ⟨entries⟩
  rw [byteSize] at same
  rw [ofBytes, Registry.mk.injEq]
  apply Vector.ext
  intro place inside
  have word : readWord byte (4 * place) = entries[place].toUInt32 := by
    apply readWord_eq
    intro index small
    rw [same (4 * place + index) (by omega)]
    exact byte_eq ⟨entries⟩ ⟨place, inside⟩ small
  rw [Vector.getElem_ofFn, word, Int32.toInt32_toUInt32]

theorem byte_ofBytes (inside : index < byteSize) : (ofBytes byte).byte index = byte index := by
  rw [byteSize] at inside
  have place : index / 4 < maxParticipants := by omega
  have offset : index % 4 < 4 := by omega
  rw [Registry.byte, getD_of_lt place, ofBytes, Vector.getElem_ofFn, UInt32.toUInt32_toInt32,
    wordByte_readWord offset, Nat.div_add_mod]

end Registry

namespace Slot

variable {slot : Slot} {byte : Nat → UInt8} {index : Nat}

theorem ofBytes_eq (same : ∀ index < byteSize, byte index = slot.byte index) :
    ofBytes byte = slot := by
  rcases slot with ⟨len, sender, recipient, pad, data⟩
  rw [byteSize] at same
  have word (start : Nat) (word : UInt32) (inside : start + 4 ≤ 16)
      (there : ∀ index < 4, Slot.byte ⟨len, sender, recipient, pad, data⟩ (start + index) =
        wordByte word index) : readWord byte start = word := by
    apply readWord_eq
    intro index small
    rw [same (start + index) (by omega), there index small]
  rw [ofBytes, Slot.mk.injEq]
  refine ⟨?_, ?_, ?_, ?_, ?_⟩
  · apply word 0 len (by omega)
    intro index small
    rw [Slot.byte, if_pos (by omega), Nat.zero_add]
  · rw [word 4 sender.toUInt32 (by omega), Int32.toInt32_toUInt32]
    intro index small
    rw [Slot.byte, if_neg (by omega), if_pos (by omega), Nat.add_sub_cancel_left]
  · rw [word 8 recipient.toUInt32 (by omega), Int32.toInt32_toUInt32]
    intro index small
    rw [Slot.byte, if_neg (by omega), if_neg (by omega), if_pos (by omega), Nat.add_sub_cancel_left]
  · apply word 12 pad (by omega)
    intro index small
    rw [Slot.byte, if_neg (by omega), if_neg (by omega), if_neg (by omega), if_pos (by omega),
      Nat.add_sub_cancel_left]
  · apply Vector.ext
    intro index inside
    rw [Vector.getElem_ofFn, same (16 + index) (by omega), Slot.byte, if_neg (by omega),
      if_neg (by omega), if_neg (by omega), if_neg (by omega), Nat.add_sub_cancel_left,
      getD_of_lt inside]

theorem byte_ofBytes (inside : index < byteSize) : (ofBytes byte).byte index = byte index := by
  rw [byteSize] at inside
  rw [Slot.byte]
  split_ifs with len sender recipient pad
  · rw [ofBytes, wordByte_readWord len, Nat.zero_add]
  · rw [ofBytes, UInt32.toUInt32_toInt32, wordByte_readWord (by omega),
      Nat.add_sub_cancel' (by omega)]
  · rw [ofBytes, UInt32.toUInt32_toInt32, wordByte_readWord (by omega),
      Nat.add_sub_cancel' (by omega)]
  · rw [ofBytes, wordByte_readWord (by omega), Nat.add_sub_cancel' (by omega)]
  · rw [getD_of_lt (by omega), ofBytes, Vector.getElem_ofFn, Nat.add_sub_cancel' (by omega)]

end Slot

namespace Mailbox

variable {mailbox : Mailbox} {byte : Nat → UInt8} {index : Nat}

theorem byte_eq (mailbox : Mailbox) (slot : Fin mailboxSlots) (inside : index < Slot.byteSize) :
    mailbox.byte (Slot.byteSize * slot + index) = (mailbox.slots.get slot).byte index := by
  have number : (Slot.byteSize * slot.val + index) / Slot.byteSize = slot := by
    rw [Slot.byteSize, maxMessageBytes] at inside ⊢
    omega
  have offset : (Slot.byteSize * slot.val + index) % Slot.byteSize = index := by
    rw [Slot.byteSize, maxMessageBytes] at inside ⊢
    omega
  rw [Mailbox.byte, number, offset, getD_of_lt slot.isLt]
  rfl

theorem ofBytes_eq (same : ∀ index < byteSize, byte index = mailbox.byte index) :
    ofBytes byte = mailbox := by
  rcases mailbox with ⟨slots⟩
  rw [ofBytes, Mailbox.mk.injEq]
  apply Vector.ext
  intro slot inside
  rw [Vector.getElem_ofFn]
  apply Slot.ofBytes_eq
  intro index small
  rw [same (Slot.byteSize * slot + index)]
  · exact byte_eq ⟨slots⟩ ⟨slot, inside⟩ small
  · rw [byteSize]
    rw [Slot.byteSize, maxMessageBytes] at small ⊢
    omega

theorem byte_ofBytes (inside : index < byteSize) : (ofBytes byte).byte index = byte index := by
  rw [byteSize, Slot.byteSize, maxMessageBytes] at inside
  have slot : index / Slot.byteSize < mailboxSlots := by
    rw [Slot.byteSize, maxMessageBytes]
    omega
  have offset : index % Slot.byteSize < Slot.byteSize := Nat.mod_lt _ (by decide)
  rw [Mailbox.byte, getD_of_lt slot, ofBytes, Vector.getElem_ofFn, Slot.byte_ofBytes offset,
    Nat.div_add_mod]

end Mailbox

namespace RoomMemory

variable {memory other : RoomMemory} {byte : Nat → UInt8} {index : Nat}

theorem byteSize_eq : byteSize = 69688 := rfl

theorem byte_of_header (inside : index < 16) : memory.byte index = memory.header.byte index := by
  rw [RoomMemory.byte, if_pos (by exact inside)]

theorem byte_of_registry (inside : index < 40) :
    memory.byte (16 + index) = memory.registry.byte index := by
  have after : ¬16 + index < registryStart := Nat.not_lt.mpr (Nat.le_add_right 16 index)
  have before : 16 + index < mailboxStart := Nat.add_lt_add_left inside 16
  rw [RoomMemory.byte, if_neg after, if_pos before]
  exact congrArg memory.registry.byte (Nat.add_sub_cancel_left ..)

theorem byte_of_mailbox (memory : RoomMemory) (index : Nat) :
    memory.byte (56 + index) = memory.mailbox.byte index := by
  have header : ¬56 + index < registryStart := by
    rw [registryStart, Header.byteSize]
    omega
  have registry : ¬56 + index < mailboxStart := Nat.not_lt.mpr (Nat.le_add_right 56 index)
  rw [RoomMemory.byte, if_neg header, if_neg registry]
  exact congrArg memory.mailbox.byte (Nat.add_sub_cancel_left ..)

/-- An entry of the registry stands in four bytes. -/
theorem byte_of_entry (memory : RoomMemory) (place : Fin maxParticipants) (inside : index < 4) :
    memory.byte (16 + (4 * place + index)) =
      wordByte (memory.registry.entries.get place).toUInt32 index := by
  have bound : place.val < 10 := place.isLt
  rw [byte_of_registry (by omega), Registry.byte_eq _ _ inside]

/-- A slot of the mailbox stands in 272 bytes. -/
theorem byte_of_slot (memory : RoomMemory) (slot : Fin mailboxSlots) (inside : index < 272) :
    memory.byte (56 + (272 * slot + index)) = (memory.mailbox.slots.get slot).byte index := by
  rw [byte_of_mailbox]
  exact Mailbox.byte_eq _ _ inside

/-- Every byte stands in the header, in an entry or in a slot. -/
theorem byte_cases (inside : index < byteSize) : index < 16 ∨
    (∃ (place : Fin maxParticipants) (offset : Nat), offset < 4 ∧
      index = 16 + (4 * place + offset)) ∨
    ∃ (slot : Fin mailboxSlots) (offset : Nat), offset < 272 ∧
      index = 56 + (272 * slot + offset) := by
  rw [byteSize_eq] at inside
  by_cases header : index < 16
  · exact .inl header
  by_cases registry : index < 56
  · have place : (index - 16) / 4 < maxParticipants := by
      rw [maxParticipants]
      omega
    refine .inr (.inl ⟨⟨_, place⟩, (index - 16) % 4, ?_, ?_⟩)
    · omega
    · dsimp only
      omega
  · have slot : (index - 56) / 272 < mailboxSlots := by
      rw [mailboxSlots]
      omega
    refine .inr (.inr ⟨⟨_, slot⟩, (index - 56) % 272, ?_, ?_⟩)
    · omega
    · dsimp only
      omega

theorem ofBytes_eq (same : ∀ index < byteSize, byte index = memory.byte index) :
    ofBytes byte = memory := by
  rcases memory with ⟨header, registry, mailbox⟩
  rw [byteSize_eq] at same
  rw [ofBytes, RoomMemory.mk.injEq]
  refine ⟨?_, ?_, ?_⟩
  · apply Header.ofBytes_eq
    intro index inside
    rw [Header.byteSize] at inside
    rw [same index (by omega), byte_of_header inside]
  · apply Registry.ofBytes_eq
    intro index inside
    rw [Registry.byteSize, maxParticipants] at inside
    exact (same (16 + index) (by omega)).trans (byte_of_registry inside)
  · apply Mailbox.ofBytes_eq
    intro index inside
    have bound : index < 69632 := inside
    exact (same (56 + index) (by omega)).trans (byte_of_mailbox _ index)

theorem byte_ofBytes (inside : index < byteSize) : (ofBytes byte).byte index = byte index := by
  rw [byteSize_eq] at inside
  by_cases header : index < 16
  · rw [byte_of_header header]
    exact Header.byte_ofBytes header
  by_cases registry : index < 56
  · obtain ⟨offset, rfl⟩ := Nat.exists_eq_add_of_le (Nat.le_of_not_lt header)
    have small : offset < 40 := by omega
    rw [byte_of_registry small]
    exact Registry.byte_ofBytes small
  · obtain ⟨offset, rfl⟩ := Nat.exists_eq_add_of_le (Nat.le_of_not_lt registry)
    have small : offset < Mailbox.byteSize := by
      rw [Mailbox.byteSize, Slot.byteSize, mailboxSlots, maxMessageBytes]
      omega
    rw [byte_of_mailbox]
    exact @Mailbox.byte_ofBytes (fun index => byte (56 + index)) offset small

/-- Memories with the same bytes are the same. -/
theorem eq_of_byte (same : ∀ index < byteSize, memory.byte index = other.byte index) :
    memory = other :=
  (ofBytes_eq fun _ _ => rfl).symm.trans (ofBytes_eq same)

/-- The places of all fields. -/
structure LaidOut (memory : RoomMemory) (byte : Nat → UInt8) : Prop where
  magic : ∀ index : Fin 8, memory.header.magic.get index = byte index
  version : memory.header.version = readWord byte 8
  reserved : memory.header.pad = readWord byte 12
  entries : ∀ place : Fin maxParticipants,
    memory.registry.entries.get place = (readWord byte (16 + 4 * place)).toInt32
  lengths : ∀ slot : Fin mailboxSlots,
    (memory.mailbox.slots.get slot).len = readWord byte (56 + 272 * slot)
  senders : ∀ slot : Fin mailboxSlots,
    (memory.mailbox.slots.get slot).sender = (readWord byte (56 + 272 * slot + 4)).toInt32
  recipients : ∀ slot : Fin mailboxSlots,
    (memory.mailbox.slots.get slot).recipient = (readWord byte (56 + 272 * slot + 8)).toInt32
  pads : ∀ slot : Fin mailboxSlots,
    (memory.mailbox.slots.get slot).pad = readWord byte (56 + 272 * slot + 12)
  texts : ∀ (slot : Fin mailboxSlots) (index : Fin maxMessageBytes),
    (memory.mailbox.slots.get slot).data.get index = byte (56 + 272 * slot + 16 + index)

theorem laidOut_ofBytes (byte : Nat → UInt8) : (ofBytes byte).LaidOut byte := by
  have slot (slot : Fin mailboxSlots) : (ofBytes byte).mailbox.slots.get slot =
      .ofBytes fun offset => byte (56 + (272 * slot + offset)) :=
    Vector.getElem_ofFn slot.isLt
  have word (slot : Fin mailboxSlots) (start : Nat) :
      readWord (fun offset => byte (56 + (272 * slot + offset))) start =
        readWord byte (56 + 272 * slot + start) := by
    simp only [readWord, Nat.add_assoc]
  constructor
  case magic => exact fun index => Vector.getElem_ofFn index.isLt
  case version => rfl
  case reserved => rfl
  case entries =>
    intro place
    refine (Vector.getElem_ofFn place.isLt).trans ?_
    have shifted : readWord (fun offset => byte (16 + offset)) (4 * place) =
        readWord byte (16 + 4 * place) := by
      simp only [readWord, Nat.add_assoc]
    exact congrArg UInt32.toInt32 shifted
  case lengths =>
    intro number
    rw [slot, Slot.ofBytes]
    exact word number 0
  case senders =>
    intro number
    rw [slot, Slot.ofBytes]
    exact congrArg UInt32.toInt32 (word number 4)
  case recipients =>
    intro number
    rw [slot, Slot.ofBytes]
    exact congrArg UInt32.toInt32 (word number 8)
  case pads =>
    intro number
    rw [slot, Slot.ofBytes]
    exact word number 12
  case texts =>
    intro number index
    rw [slot, Slot.ofBytes]
    refine (Vector.getElem_ofFn index.isLt).trans ?_
    rw [Nat.add_assoc, Nat.add_assoc]

theorem LaidOut.unique (one : memory.LaidOut byte) (two : other.LaidOut byte) : memory = other := by
  have header : memory.header = other.header := by
    apply (Header.mk.injEq ..).mpr
    refine ⟨?_, one.version.trans two.version.symm, one.reserved.trans two.reserved.symm⟩
    apply Vector.ext
    intro index inside
    exact (one.magic ⟨index, inside⟩).trans (two.magic ⟨index, inside⟩).symm
  have entries : memory.registry.entries = other.registry.entries := by
    apply Vector.ext
    intro place inside
    exact (one.entries ⟨place, inside⟩).trans (two.entries ⟨place, inside⟩).symm
  have slots : memory.mailbox.slots = other.mailbox.slots := by
    apply Vector.ext
    intro number inside
    let slot : Fin mailboxSlots := ⟨number, inside⟩
    apply (Slot.mk.injEq ..).mpr
    refine ⟨(one.lengths slot).trans (two.lengths slot).symm,
      (one.senders slot).trans (two.senders slot).symm,
      (one.recipients slot).trans (two.recipients slot).symm,
      (one.pads slot).trans (two.pads slot).symm, ?_⟩
    apply Vector.ext
    intro index small
    exact (one.texts slot ⟨index, small⟩).trans (two.texts slot ⟨index, small⟩).symm
  apply (RoomMemory.mk.injEq ..).mpr
  exact ⟨header, congrArg Registry.mk entries, congrArg Mailbox.mk slots⟩

/-- A memory is laid out as bytes exactly if they are its bytes. -/
theorem laidOut_iff : memory.LaidOut byte ↔ ∀ index < byteSize, memory.byte index = byte index := by
  constructor
  · intro laid
    rw [laid.unique (laidOut_ofBytes byte)]
    exact fun index => byte_ofBytes
  · intro same
    rw [← ofBytes_eq fun index inside => (same index inside).symm]
    exact laidOut_ofBytes byte

end RoomMemory

end HostChat
