import HostChat.Proofs.Memory.Layout
import HostChat.Proofs.Memory.Pending
import HostChat.Proofs.Memory.Places
import HostChat.Scenario.Memory

/-! # What accesses to room memory touch

Any bytes may stand in the memory of a room, and still each access to it comes to an end, changes
nothing outside of the entry, slot or range that it is about, and changes nothing at all if it has
nothing to do.
-/

namespace HostChat

theorem Registry.entries_claim {registry claimed : Registry} {id : ParticipantId}
    {place other : Fin maxParticipants} (claims : registry.claim id = .ok (place, claimed))
    (different : other ≠ place) : claimed.entries.get other = registry.entries.get other := by
  obtain ⟨-, rfl⟩ := claim_eq_ok_iff.mp claims
  rw [entries_put, if_neg different]

theorem Registry.entries_release_of_ne {registry : Registry} {id : ParticipantId}
    {other : Fin maxParticipants} (different : (registry.release id).1 ≠ some other) :
    (registry.release id).2.entries.get other = registry.entries.get other := by
  rw [release] at different ⊢
  cases found : registry.position id with
  | none => rfl
  | some place =>
    rw [found] at different
    exact (get_set_eq_ite ..).trans (if_neg fun same => different (congrArg some same.symm))

theorem Mailbox.slots_store {mailbox stored : Mailbox} {sender recipient : ParticipantId}
    {text : List UInt8} {slot other : Fin mailboxSlots}
    (stores : mailbox.store sender recipient text = .ok (slot, stored)) (different : other ≠ slot) :
    stored.slots.get other = mailbox.slots.get other := by
  obtain ⟨-, filled, -, rfl⟩ := store_eq_ok stores
  exact (get_set_eq_ite ..).trans (if_neg different)

namespace RoomMemory

variable {memory : RoomMemory} {index : Nat}

/-- The bytes of an entry of the registry. -/
def InEntry (place index : Nat) : Prop :=
  16 + 4 * place ≤ index ∧ index < 16 + 4 * place + 4

/-- The bytes of a slot of the mailbox. -/
def InSlot (slot index : Nat) : Prop :=
  56 + 272 * slot ≤ index ∧ index < 56 + 272 * slot + 272

private theorem byte_setHeader (header : Header) (inside : index < byteSize) (outside : 16 ≤ index) :
    { memory with header }.byte index = memory.byte index := by
  rcases byte_cases inside with low | ⟨place, offset, small, rfl⟩ | ⟨slot, offset, small, rfl⟩
  · omega
  · rw [byte_of_entry _ _ small, byte_of_entry _ _ small]
  · rw [byte_of_slot _ _ small, byte_of_slot _ _ small]

/-- A byte keeps its value if no entry that it lies in is changed. -/
private theorem byte_setRegistry {registry : Registry} (inside : index < byteSize)
    (outside : ∀ place : Fin maxParticipants, InEntry place index →
      registry.entries.get place = memory.registry.entries.get place) :
    { memory with registry }.byte index = memory.byte index := by
  rcases byte_cases inside with low | ⟨place, offset, small, rfl⟩ | ⟨slot, offset, small, rfl⟩
  · rw [byte_of_header low, byte_of_header low]
  · have same := outside place ⟨by omega, by omega⟩
    rw [byte_of_entry _ _ small, byte_of_entry _ _ small, same]
  · rw [byte_of_slot _ _ small, byte_of_slot _ _ small]

/-- A byte keeps its value if no slot that it lies in is changed. -/
private theorem byte_setMailbox {mailbox : Mailbox} (inside : index < byteSize)
    (outside : ∀ slot : Fin mailboxSlots, InSlot slot index →
      mailbox.slots.get slot = memory.mailbox.slots.get slot) :
    { memory with mailbox }.byte index = memory.byte index := by
  rcases byte_cases inside with low | ⟨place, offset, small, rfl⟩ | ⟨slot, offset, small, rfl⟩
  · rw [byte_of_header low, byte_of_header low]
  · rw [byte_of_entry _ _ small, byte_of_entry _ _ small]
  · have same := outside slot ⟨by omega, by omega⟩
    rw [byte_of_slot _ _ small, byte_of_slot _ _ small, same]

/-- As many bytes of the text of a slot as its length says are there, and no more than there are. -/
private theorem readBytes_text (memory : RoomMemory) (slot : Fin mailboxSlots) :
    memory.readBytes (56 + 272 * slot + 16)
      (min (memory.mailbox.slots.get slot).len.toNat maxMessageBytes) =
        (memory.mailbox.slots.get slot).payload := by
  have laid : memory.LaidOut memory.byte := laidOut_iff.mpr fun _ _ => rfl
  apply List.ext_getElem
  · simp [readBytes, Slot.payload]
  · intro index inside bound
    have small : index < maxMessageBytes := by
      simp only [readBytes, List.length_map, List.length_range] at inside
      omega
    simp only [readBytes, Slot.payload, List.getElem_map, List.getElem_range, List.getElem_take]
    exact (laid.texts slot ⟨index, small⟩).symm

end RoomMemory

theorem Slot.isFor_iff {slot : Slot} {id : ParticipantId} :
    slot.isFor id = true ↔ slot.len ≠ 0 ∧ slot.recipient = id.raw := by
  simp [isFor, isFree]

theorem Slot.message?_eq_some_iff {slot : Slot} {id : ParticipantId} {message : Message} :
    slot.message? id = some message ↔ slot.len ≠ 0 ∧ slot.recipient = id.raw ∧
      message.sender.raw = slot.sender ∧ message.recipient = id ∧ message.text = slot.payload := by
  simp only [message?, isFor_iff]
  split_ifs with reads
  · rw [Option.map_eq_some_iff]
    constructor
    · rintro ⟨sender, proper, rfl⟩
      exact ⟨reads.1, reads.2, (ParticipantId.ofRaw?_eq_some_iff.mp proper).symm, rfl, rfl⟩
    · rintro ⟨-, -, proper, recipient, text⟩
      refine ⟨message.sender, ParticipantId.ofRaw?_eq_some_iff.mpr proper.symm, ?_⟩
      rw [← recipient, ← text]
  · constructor
    · intro wrong
      cases wrong
    · rintro ⟨occupied, addressed, -⟩
      exact absurd ⟨occupied, addressed⟩ reads

private theorem Mailbox.take_fst_eq_some_iff {mailbox : Mailbox} {number : Nat} {id : ParticipantId}
    {message : Message} : (mailbox.take number id).1 = some message ↔
      ∃ slot : Fin mailboxSlots, slot = number ∧
        (mailbox.slots.get slot).message? id = some message := by
  have taken : (mailbox.take number id).1 = (mailbox.slot? number).bind (·.message? id) := by
    rw [take]
    cases (mailbox.slot? number).bind (·.message? id) <;> rfl
  rw [taken, Option.bind_eq_some_iff]
  constructor
  · rintro ⟨slot, found, reads⟩
    obtain ⟨inside, rfl⟩ := Vector.getElem?_eq_some_iff.mp found
    exact ⟨⟨number, inside⟩, rfl, reads⟩
  · rintro ⟨slot, rfl, reads⟩
    exact ⟨_, Vector.getElem?_eq_some_iff.mpr ⟨slot.isLt, rfl⟩, reads⟩

namespace Scenario.MemoryStep

open RoomMemory

variable {memory : RoomMemory} {step : MemoryStep} {outcome : MemoryOutcome} {index : Nat}

/-- The bytes that an access with an outcome may change. Those that only look at the memory and those
that fail have none. -/
inductive Touches (memory : RoomMemory) (index : Nat) : MemoryStep → MemoryOutcome → Prop where
  | init : Touches memory index .init .done
  | initHeader (header : index < 16) : Touches memory index .initHeader .done
  | claim {id : ParticipantId} {place : Nat} (entry : InEntry place index) :
      Touches memory index (.claim id) (.index (.ok place))
  | release {id : ParticipantId} {place : Nat} (entry : InEntry place index) :
      Touches memory index (.release id) (.place (some place))
  | clearRegistry (registry : 16 ≤ index ∧ index < 56) : Touches memory index .clearRegistry .done
  | clearMailbox (mailbox : 56 ≤ index) : Touches memory index .clearMailbox .done
  | store {sender recipient : ParticipantId} {text : List UInt8} {slot : Nat}
      (within : InSlot slot index) :
      Touches memory index (.store sender recipient text) (.index (.ok slot))
  | take {slot : Nat} {id : ParticipantId} {message : Message} (within : InSlot slot index) :
      Touches memory index (.take slot id) (.message (some message))
  | freeSlot {slot : Nat} (within : InSlot slot index) :
      Touches memory index (.freeSlot slot) .done
  | purge {id : ParticipantId} {slot : Fin mailboxSlots} {count : Nat}
      (occupied : (memory.mailbox.slots.get slot).len ≠ 0)
      (addressed : (memory.mailbox.slots.get slot).recipient = id.raw)
      (within : InSlot slot index) : Touches memory index (.purge id) (.count count)
  | writeBytes {start : Nat} {bytes : List UInt8}
      (within : start ≤ index ∧ index < start + bytes.length) :
      Touches memory index (.writeBytes start bytes) .done

theorem run_frame (inside : index < byteSize)
    (untouched : ¬Touches memory index step (step.run memory).1) :
    (step.run memory).2.byte index = memory.byte index := by
  cases step with
  | init => exact absurd .init untouched
  | initHeader =>
    apply byte_setHeader _ inside
    exact Nat.le_of_not_lt fun low => untouched (.initHeader low)
  | claim id =>
    simp only [run] at untouched ⊢
    cases claims : memory.registry.claim id with
    | error error => rfl
    | ok claimed =>
      rw [claims] at untouched
      apply byte_setRegistry inside
      intro other within
      apply Registry.entries_claim claims
      rintro rfl
      exact untouched (.claim within)
  | release id =>
    apply byte_setRegistry inside
    intro other within
    apply Registry.entries_release_of_ne
    intro found
    simp only [run, found] at untouched
    exact untouched (.release within)
  | clearRegistry =>
    apply byte_setRegistry inside
    intro place within
    have bound : place.val < 10 := place.isLt
    obtain ⟨low, high⟩ := within
    exact absurd (.clearRegistry ⟨by omega, by omega⟩) untouched
  | clearMailbox =>
    apply byte_setMailbox inside
    intro slot within
    have low : 56 + 272 * slot.val ≤ index := within.1
    exact absurd (.clearMailbox (by omega)) untouched
  | store sender recipient text =>
    simp only [run] at untouched ⊢
    cases stores : memory.mailbox.store sender recipient text with
    | error error => rfl
    | ok stored =>
      rw [stores] at untouched
      apply byte_setMailbox inside
      intro other within
      apply Mailbox.slots_store stores
      rintro rfl
      exact untouched (.store within)
  | take slot id =>
    simp only [run, Mailbox.take] at untouched ⊢
    cases taken : (memory.mailbox.slot? slot).bind (·.message? id) with
    | none => rfl
    | some message =>
      rw [taken] at untouched
      apply byte_setMailbox inside
      intro other within
      rw [Mailbox.slots_release, if_neg]
      rintro rfl
      exact untouched (.take within)
  | freeSlot slot =>
    apply byte_setMailbox inside
    intro other within
    rw [Mailbox.slots_release, if_neg]
    rintro rfl
    exact untouched (.freeSlot within)
  | purge id =>
    apply byte_setMailbox inside
    intro other within
    refine (Mailbox.slots_purgeFor _ id other).trans (if_neg fun reads => ?_)
    obtain ⟨occupied, addressed⟩ := Slot.isFor_iff.mp reads
    exact untouched (.purge occupied addressed within)
  | writeBytes start bytes =>
    simp only [run] at untouched ⊢
    split_ifs at untouched ⊢ with fits
    · rw [RoomMemory.writeBytes, byte_ofBytes inside, if_neg]
      intro within
      exact untouched (.writeBytes within)
    · rfl
  | readBytes start length =>
    simp only [run]
    split_ifs <;> rfl
  | checkHeader | contains id | participants | readSlot slot => rfl

/-- The outcomes of an access that had nothing to do or could not do it. -/
inductive Fails : MemoryOutcome → Prop where
  | header {fault : LayoutFault} : Fails (.header (.error fault))
  | index {error : RoomError} : Fails (.index (.error error))
  | place : Fails (.place none)
  | message : Fails (.message none)
  | slot : Fails (.slot none)
  | outOfRange : Fails .outOfRange

theorem not_touches_of_fails (fails : Fails outcome) : ¬Touches memory index step outcome := by
  intro touches
  cases touches <;> cases fails

theorem eq_of_fails (fails : Fails (step.run memory).1) : (step.run memory).2 = memory := by
  apply eq_of_byte
  intro index inside
  exact run_frame inside (not_touches_of_fails fails)

/-- Every byte of a slot that is purged is zero. -/
theorem byte_purge {id : ParticipantId} {slot : Fin mailboxSlots}
    (occupied : (memory.mailbox.slots.get slot).len ≠ 0)
    (addressed : (memory.mailbox.slots.get slot).recipient = id.raw) (within : InSlot slot index) :
    ((MemoryStep.purge id).run memory).2.byte index = 0 := by
  obtain ⟨offset, rfl⟩ := Nat.exists_eq_add_of_le within.1
  have small : offset < 272 := by
    have := within.2
    omega
  rw [Nat.add_assoc, byte_of_slot _ _ small]
  have purged := Mailbox.slots_purgeFor memory.mailbox id slot
  rw [if_pos (Slot.isFor_iff.mpr ⟨occupied, addressed⟩)] at purged
  exact (congrArg (Slot.byte · offset) purged).trans (Slot.byte_empty offset)

theorem take_message_iff {number : Nat} {id : ParticipantId} {message : Message} :
    ((MemoryStep.take number id).run memory).1 = .message (some message) ↔
      ∃ slot : Fin mailboxSlots, slot = number ∧
        (memory.mailbox.slots.get slot).message? id = some message := by
  rw [← Mailbox.take_fst_eq_some_iff]
  exact ⟨MemoryOutcome.message.inj, congrArg MemoryOutcome.message⟩

/-- What the accesses to a memory do and find. -/
structure Exact (memory : RoomMemory) : Prop where
  /-- An access changes no bytes but those that are its own. -/
  frame : ∀ (step : MemoryStep) index, index < byteSize →
    ¬Touches memory index step (step.run memory).1 →
      (step.run memory).2.byte index = memory.byte index
  failure : ∀ step : MemoryStep, Fails (step.run memory).1 → (step.run memory).2 = memory
  purged : ∀ (id : ParticipantId) (slot : Fin mailboxSlots) index,
    (memory.mailbox.slots.get slot).len ≠ 0 →
    (memory.mailbox.slots.get slot).recipient = id.raw → InSlot slot index →
      ((MemoryStep.purge id).run memory).2.byte index = 0
  taken : ∀ number id,
    (∃ message, ((MemoryStep.take number id).run memory).1 = .message (some message)) ↔
    ∃ slot : Fin mailboxSlots, slot = number ∧ (memory.mailbox.slots.get slot).len ≠ 0 ∧
      (memory.mailbox.slots.get slot).recipient = id.raw ∧
        0 < (memory.mailbox.slots.get slot).sender
  /-- A message says no more than its slot holds, whatever the length of it. -/
  message : ∀ (slot : Fin mailboxSlots) id message,
    ((MemoryStep.take slot id).run memory).1 = .message (some message) →
      message.sender.raw = (memory.mailbox.slots.get slot).sender ∧ message.recipient = id ∧
      message.text = memory.readBytes (56 + 272 * slot + 16)
        (min (memory.mailbox.slots.get slot).len.toNat maxMessageBytes)
  participants : ∃ ids, (MemoryStep.participants.run memory).1 = .participants ids ∧
    ids.map ParticipantId.raw = memory.registry.entries.toList.filter (0 < ·)
  /-- A room is made of its header, its registry and its mailbox, and what was there before does not
  matter. -/
  init : ∀ other, (MemoryStep.init.run memory).2 = (MemoryStep.init.run other).2 ∧
    (clearMailbox.run (clearRegistry.run (initHeader.run memory).2).2).2 =
      (MemoryStep.init.run other).2
  /-- The structures of a memory and its bytes determine each other. -/
  layout : ∀ byte, memory.LaidOut byte ↔ ∀ index < byteSize, memory.byte index = byte index

/-- Any bytes are the memory of a room, and every access to it keeps to what it is about. -/
theorem exact_of_any_bytes :
    byteSize = 69688 ∧ (∀ byte, ∀ index < byteSize, (ofBytes byte).byte index = byte index) ∧
      ∀ memory, Exact memory := by
  refine ⟨byteSize_eq, fun byte index => byte_ofBytes, fun memory => ?_⟩
  constructor
  case frame => exact fun step index => run_frame
  case failure => exact fun step => eq_of_fails
  case purged => exact fun id slot index => byte_purge
  case taken =>
    intro number id
    simp only [take_message_iff, Slot.message?_eq_some_iff]
    constructor
    · rintro ⟨message, slot, same, occupied, addressed, sender, -⟩
      exact ⟨slot, same, occupied, addressed, sender ▸ message.sender.raw_pos⟩
    · rintro ⟨slot, same, occupied, addressed, positive⟩
      exact ⟨⟨⟨_, positive⟩, id, _⟩, slot, same, occupied, addressed, rfl, rfl, rfl⟩
  case message =>
    intro slot id message found
    obtain ⟨other, same, reads⟩ := take_message_iff.mp found
    obtain rfl := Fin.ext same
    obtain ⟨-, -, sender, recipient, text⟩ := Slot.message?_eq_some_iff.mp reads
    exact ⟨sender, recipient, text.trans (readBytes_text memory other).symm⟩
  case participants => exact ⟨_, rfl, (Registry.filter_pos _).symm⟩
  case init => exact fun other => ⟨rfl, rfl⟩
  case layout => exact fun byte => laidOut_iff

end Scenario.MemoryStep

end HostChat
