import HostChat.Memory.Bytes
import HostChat.Proofs.Memory.Contents
import Mathlib.Logic.Relation

/-! # Room memory in order

What an operation on the memory of a room leaves behind is a registry without words of nobody's, and
slots that are all zeros or just what a message to a registered participant makes of zeros. The
operations of a session are a few kinds of changes, and each of them keeps that.
-/

namespace HostChat

namespace Registry

variable {registry : Registry}

theorem Sound.nonneg (sound : registry.Sound) {entry : Int32} (member : entry ∈ registry.entries) :
    0 ≤ entry := by
  rcases sound.proper entry (Vector.mem_toList_iff.mpr member) with rfl | some
  · decide
  · obtain ⟨id, found⟩ := Option.isSome_iff_exists.mp some
    rw [ParticipantId.ofRaw?_eq_some_iff.mp found]
    exact Int32.le_of_lt id.raw_pos

/-- The positive words are those of the participants. -/
theorem filter_pos (entries : List Int32) :
    entries.filter (0 < ·) = (entries.filterMap ParticipantId.ofRaw?).map ParticipantId.raw := by
  induction entries with
  | nil => rfl
  | cons entry rest ih =>
    by_cases positive : 0 < entry
    · simp [ParticipantId.ofRaw?, positive, ih]
    · simp [ParticipantId.ofRaw?, positive, ih]

/-- No participant has two places. -/
theorem Sound.nodup_pos (sound : registry.Sound) :
    (registry.entries.toList.filter (0 < ·)).Nodup := by
  rw [filter_pos]
  exact sound.nodup.map fun _ _ same => ParticipantId.ext_raw same

end Registry

namespace Slot

variable {slot : Slot} {members others : List ParticipantId} {message : Message}

/-- What storing a message makes of a slot that is all zeros. -/
def holding (message : Message) : Slot where
  len := UInt32.ofNat message.text.length
  sender := message.sender.raw
  recipient := message.recipient.raw
  pad := 0
  data := dataOf message.text

/-- All zeros, or just a message that fits to one of `members`. -/
def Kept (members : List ParticipantId) (slot : Slot) : Prop :=
  slot = .empty ∨ ∃ message : Message, slot = .holding message ∧ message.text ≠ [] ∧
    message.text.length ≤ maxMessageBytes ∧ message.recipient ∈ members

theorem content?_holding (some : message.text ≠ []) (bound : message.text.length ≤ maxMessageBytes) :
    (holding message).content? = Option.some message :=
  content?_stored (holding message) some bound rfl rfl rfl rfl

theorem Kept.mono (kept : slot.Kept members) (still : ∀ id, slot.isFor id → id ∈ members → id ∈ others) :
    slot.Kept others := by
  rcases kept with rfl | ⟨message, rfl, some, bound, member⟩
  · exact .inl rfl
  · refine .inr ⟨message, rfl, some, bound, still _ ?_ member⟩
    exact (isFor_iff_of_content (content?_holding some bound)).mpr rfl

theorem Kept.empty_of_isFree (kept : slot.Kept members) (free : slot.isFree = true) :
    slot = .empty := by
  rcases kept with rfl | ⟨message, rfl, some, bound, -⟩
  · rfl
  · have nothing := content?_of_isFree free
    rw [content?_holding some bound] at nothing
    cases nothing

/-- The message in a slot determines all of the slot. -/
theorem Kept.eq_of_content (kept : slot.Kept members) : slot = slot.content?.elim .empty .holding := by
  rcases kept with rfl | ⟨message, rfl, some, bound, -⟩
  · rfl
  · rw [content?_holding some bound, Option.elim_some]

/-- A slot with a message in it, field by field: nothing is left of what was there before. -/
structure Carries (registry : Registry) (slot : Slot) : Prop where
  len_pos : 1 ≤ slot.len.toNat
  len_le : slot.len.toNat ≤ maxMessageBytes
  sender : 0 < slot.sender
  pad : slot.pad = 0
  rest : ∀ byte ∈ slot.data.toList.drop slot.len.toNat, byte = 0
  recipient : ∃ id, registry.contains id = true ∧ slot.recipient = id.raw

private theorem drop_dataOf (text : List UInt8) :
    (dataOf text).toList.drop text.length = List.replicate (maxMessageBytes - text.length) 0 := by
  apply List.ext_getElem
  · simp
  · intro index _ _
    simp [dataOf]

private theorem carries_holding {registry : Registry} (some : message.text ≠ [])
    (bound : message.text.length ≤ maxMessageBytes)
    (member : message.recipient ∈ registry.participants) : (holding message).Carries registry := by
  have length : (holding message).len.toNat = message.text.length := toNat_length bound
  exact
    { len_pos := by
        rw [length]
        exact List.length_pos_iff.mpr some
      len_le := by rwa [length]
      sender := message.sender.raw_pos
      pad := rfl
      rest := fun byte behind => by
        rw [length, holding, drop_dataOf] at behind
        exact List.eq_of_mem_replicate behind
      recipient := ⟨message.recipient, Registry.contains_iff.mpr member, rfl⟩ }

theorem byte_empty (offset : Nat) : empty.byte offset = 0 := by
  have word (index : Nat) : wordByte 0 index = 0 := by simp [wordByte]
  have signed : (0 : Int32).toUInt32 = 0 := rfl
  have data : (Vector.replicate maxMessageBytes (0 : UInt8)).getD (offset - 16) 0 = 0 := by
    by_cases inside : offset - 16 < maxMessageBytes <;> simp [Vector.getD, inside]
  simp only [byte, empty, signed, word, data, ite_self]

end Slot

namespace Mailbox

variable {mailbox stored : Mailbox} {members others : List ParticipantId}
  {sender recipient : ParticipantId} {text : List UInt8} {slot : Fin mailboxSlots}

/-- All slots are in order. -/
def Kept (members : List ParticipantId) (mailbox : Mailbox) : Prop :=
  ∀ slot ∈ mailbox.slots, slot.Kept members

theorem Kept.empty : Mailbox.empty.Kept members := by
  intro slot member
  exact .inl (Vector.mem_replicate.mp member).2

theorem Kept.release (kept : mailbox.Kept members) (index : Nat) :
    (mailbox.release index).Kept members := by
  intro slot member
  rw [Mailbox.release, ← Vector.mem_toList_iff, Vector.toList_setIfInBounds] at member
  rcases List.mem_or_eq_of_mem_set member with old | rfl
  · exact kept slot (Vector.mem_toList_iff.mp old)
  · exact .inl rfl

theorem Kept.store (kept : mailbox.Kept members) (listed : recipient ∈ members)
    (success : mailbox.store sender recipient text = .ok (slot, stored)) : stored.Kept members := by
  simp only [Mailbox.store] at success
  split_ifs at success with blank long
  cases free : firstIndex? mailbox.slots Slot.isFree with
  | none =>
    rw [free] at success
    cases success
  | some index =>
    rw [free] at success
    cases success
    have clean := (kept mailbox.slots[slot] (Vector.getElem_mem _)).empty_of_isFree
      (firstIndex?_eq_some_iff.mp free).1
    intro filled member
    rw [← Vector.mem_toList_iff, Vector.toList_set] at member
    rcases List.mem_or_eq_of_mem_set member with old | rfl
    · exact kept filled (Vector.mem_toList_iff.mp old)
    · refine .inr ⟨⟨sender, recipient, text⟩, ?_, ?_, Nat.not_lt.mp long, listed⟩
      · rw [clean]
        rfl
      · simpa using blank

theorem Kept.take (kept : mailbox.Kept members) (index : Nat) (reader : ParticipantId) :
    (mailbox.take index reader).2.Kept members := by
  simp only [Mailbox.take]
  split
  · exact kept.release index
  · exact kept

/-- Once the messages to somebody are gone, nothing says that it is a member. -/
theorem Kept.purgeFor (kept : mailbox.Kept members) (id : ParticipantId)
    (still : ∀ other ∈ members, other ≠ id → other ∈ others) :
    (mailbox.purgeFor id).2.Kept others := by
  intro slot member
  obtain ⟨before, old, rfl⟩ := Vector.mem_map.mp member
  split_ifs with own
  · exact .inl rfl
  · refine (kept before old).mono fun other reads listed => still other listed ?_
    rintro rfl
    exact own reads

end Mailbox

namespace RoomMemory

variable {memory next : RoomMemory}

/-- What sessions keep the memory of their room in. -/
structure Kept (memory : RoomMemory) : Prop where
  header : memory.header = .room
  registry : memory.registry.Sound
  mailbox : memory.mailbox.Kept memory.registry.participants

theorem Kept.fresh : RoomMemory.fresh.Kept := ⟨rfl, .empty, .empty⟩

/-- Room memory as its participants rely on it. -/
structure InOrder (memory : RoomMemory) : Prop where
  header : memory.header.check = .ok ()
  entries : ∀ entry ∈ memory.registry.entries, 0 ≤ entry
  apart : (memory.registry.entries.toList.filter (0 < ·)).Nodup
  slots : ∀ slot ∈ memory.mailbox.slots,
    (∀ offset < Slot.byteSize, slot.byte offset = 0) ∨ slot.Carries memory.registry
  /-- Nothing waits for somebody who is not registered. -/
  addressed : ∀ slot ∈ memory.mailbox.slots, slot.isFree = false →
    ∃ id, memory.registry.contains id = true ∧ slot.recipient = id.raw
  /-- The message in a slot, or that there is none, determines all bytes of the slot. -/
  determined : ∀ slot ∈ memory.mailbox.slots, slot = slot.content?.elim .empty .holding

theorem Kept.carries (kept : memory.Kept) {slot : Slot} (member : slot ∈ memory.mailbox.slots) :
    slot = .empty ∨ slot.Carries memory.registry := by
  rcases kept.mailbox slot member with clean | ⟨message, rfl, some, bound, listed⟩
  · exact .inl clean
  · exact .inr (Slot.carries_holding some bound listed)

theorem Kept.inOrder (kept : memory.Kept) : memory.InOrder where
  header := by
    rw [kept.header]
    rfl
  entries _ member := kept.registry.nonneg member
  apart := kept.registry.nodup_pos
  slots slot member := by
    rcases kept.carries member with rfl | carries
    · exact .inl fun offset _ => Slot.byte_empty offset
    · exact .inr carries
  addressed slot member occupied := by
    rcases kept.carries member with rfl | carries
    · cases occupied
    · exact carries.recipient
  determined slot member := (kept.mailbox slot member).eq_of_content

/-- A change that a session makes to the memory of its room with the lock held. -/
inductive Change (memory : RoomMemory) : RoomMemory → Prop where
  | claim {id : ParticipantId} {place : Fin maxParticipants} {registry : Registry}
      (claims : memory.registry.claim id = .ok (place, registry)) :
      Change memory { memory with registry }
  | store {sender target : ParticipantId} {text : List UInt8} {slot : Fin mailboxSlots}
      {mailbox : Mailbox} (listed : target ∈ memory.registry.participants)
      (stores : memory.mailbox.store sender target text = .ok (slot, mailbox)) :
      Change memory { memory with mailbox }
  | release (slot : Nat) : Change memory { memory with mailbox := memory.mailbox.release slot }
  | take (slot : Nat) (reader : ParticipantId) :
      Change memory { memory with mailbox := (memory.mailbox.take slot reader).2 }
  | vacate (id : ParticipantId) : Change memory { memory with
      registry := (memory.registry.release id).2
      mailbox := (memory.mailbox.purgeFor id).2 }

theorem Kept.change (kept : memory.Kept) (change : memory.Change next) : next.Kept := by
  cases change with
  | claim claims =>
    refine ⟨kept.header, kept.registry.claim claims, fun slot within => (kept.mailbox slot within).mono ?_⟩
    intro id _ member
    exact (Registry.mem_participants_claim claims).mpr (.inr member)
  | store listed stores => exact ⟨kept.header, kept.registry, kept.mailbox.store listed stores⟩
  | release slot => exact ⟨kept.header, kept.registry, kept.mailbox.release slot⟩
  | take slot reader => exact ⟨kept.header, kept.registry, kept.mailbox.take slot reader⟩
  | vacate id =>
    refine ⟨kept.header, kept.registry.release id, kept.mailbox.purgeFor id ?_⟩
    intro other member different
    exact kept.registry.mem_release.mpr ⟨member, different⟩

theorem Kept.changes (kept : memory.Kept) (changes : Relation.ReflTransGen Change memory next) :
    next.Kept := by
  induction changes with
  | refl => exact kept
  | tail _ last ih => exact ih.change last

end RoomMemory

end HostChat
