import HostChat.Memory.Mailbox
import HostChat.Proofs.Memory.Participants
import Mathlib.Tactic.SplitIfs

/-! # The contents of a mailbox

A mailbox is seen as a map from slot numbers to messages. Storing a message adds it at a number that
was free, taking it out removes it, and a purge removes the messages to one recipient; everything
else stays where it is.
-/

namespace HostChat

namespace Slot

variable {slot : Slot} {recipient : ParticipantId} {message : Message}

/-- The message that a slot holds, whoever it is for. -/
def content? (slot : Slot) : Option Message :=
  if slot.isFree then none
  else
    (ParticipantId.ofRaw? slot.sender).bind fun sender =>
      (ParticipantId.ofRaw? slot.recipient).map fun recipient => ⟨sender, recipient, slot.payload⟩

@[simp] theorem content?_empty : empty.content? = none := rfl

theorem content?_of_isFree (free : slot.isFree = true) : slot.content? = none := by
  simp [content?, free]

theorem isFor_iff_of_content (held : slot.content? = some message) :
    slot.isFor recipient = true ↔ message.recipient = recipient := by
  simp only [content?] at held
  split_ifs at held with free
  obtain ⟨sender, _, held⟩ := Option.bind_eq_some_iff.mp held
  obtain ⟨target, found, rfl⟩ := Option.map_eq_some_iff.mp held
  rw [ParticipantId.ofRaw?_eq_some_iff] at found
  simp only [isFor, free, found, Bool.not_false, Bool.true_and, beq_iff_eq]
  exact ⟨ParticipantId.ext_raw, congrArg ParticipantId.raw⟩

theorem message?_eq_filter (slot : Slot) (recipient : ParticipantId) :
    slot.message? recipient = slot.content?.filter (·.recipient = recipient) := by
  by_cases free : slot.isFree
  · simp [message?, isFor, free, content?]
  · by_cases same : slot.recipient = recipient.raw
    · cases found : ParticipantId.ofRaw? slot.sender with
      | none => simp [message?, isFor, free, content?, same, found]
      | some sender => simp [message?, isFor, free, content?, same, found, Option.filter_some]
    · have other : slot.isFor recipient = false := by simp [isFor, same]
      rw [message?, other, if_neg Bool.false_ne_true]
      cases held : slot.content? with
      | none => rfl
      | some message =>
        have different : message.recipient ≠ recipient := fun equal => by
          rw [(isFor_iff_of_content held).mpr equal] at other
          cases other
        simp [Option.filter_some, different]

/-- The length field is wide enough for every text that fits into a slot. -/
theorem toNat_length {text : List UInt8} (bound : text.length ≤ maxMessageBytes) :
    (UInt32.ofNat text.length).toNat = text.length := by
  have small : maxMessageBytes < 2 ^ 32 := by decide
  rw [UInt32.toNat_ofNat', Nat.mod_eq_of_lt (by omega)]

private theorem payload_dataOf {text : List UInt8} (slot : Slot)
    (bound : text.length ≤ maxMessageBytes)
    (len : slot.len = UInt32.ofNat text.length) (data : slot.data = dataOf text) :
    slot.payload = text := by
  have length : slot.len.toNat = text.length := by rw [len, toNat_length bound]
  apply List.ext_getElem
  · simp [payload, length, bound]
  · intro index _ inside
    simp [payload, data, dataOf, inside]

theorem content?_stored {text : List UInt8} {sender : ParticipantId} (slot : Slot)
    (some : text ≠ []) (bound : text.length ≤ maxMessageBytes)
    (len : slot.len = UInt32.ofNat text.length) (source : slot.sender = sender.raw)
    (target : slot.recipient = recipient.raw) (data : slot.data = dataOf text) :
    slot.content? = Option.some ⟨sender, recipient, text⟩ := by
  have occupied : slot.isFree = false := by
    simp only [isFree, beq_eq_false_iff_ne, len]
    intro zero
    have length := toNat_length bound
    rw [zero] at length
    exact some (List.length_eq_zero_iff.mp length.symm)
  simp [content?, occupied, source, target, payload_dataOf slot bound len data]

end Slot

namespace Mailbox

variable {mailbox : Mailbox} {sender recipient : ParticipantId} {text : List UInt8} {message : Message}

/-- The message under a slot number. -/
def content? (mailbox : Mailbox) (index : Nat) : Option Message :=
  (mailbox.slot? index).bind Slot.content?

@[simp] theorem content?_empty (index : Nat) : empty.content? index = none := by
  simp only [content?, slot?, empty, Vector.getElem?_replicate]
  split <;> rfl

theorem content?_release (mailbox : Mailbox) (slot index : Nat) :
    (mailbox.release slot).content? index = if index = slot then none else mailbox.content? index := by
  simp only [content?, slot?, release, Vector.getElem?_setIfInBounds]
  by_cases same : slot = index
  · subst same
    by_cases bound : slot < mailboxSlots <;> simp [bound]
  · simp [same, Ne.symm same]

/-- A message is never stored over another one, and it can be read in its slot. -/
theorem store_eq_ok {slot : Fin mailboxSlots} {stored : Mailbox}
    (success : mailbox.store sender recipient text = .ok (slot, stored)) :
    mailbox.content? slot = none ∧
      ∃ filled : Slot, filled.content? = some ⟨sender, recipient, text⟩ ∧
        stored = ⟨mailbox.slots.set slot filled slot.isLt⟩ := by
  simp only [store] at success
  split_ifs at success with blank long
  cases free : firstIndex? mailbox.slots Slot.isFree with
  | none =>
    rw [free] at success
    cases success
  | some index =>
    rw [free] at success
    cases success
    have found : mailbox.slot? slot = some mailbox.slots[slot] := by simp [slot?]
    refine ⟨?_, _, ?_, rfl⟩
    · rw [content?, found]
      exact Slot.content?_of_isFree (firstIndex?_eq_some_iff.mp free).1
    · exact Slot.content?_stored _ (by simpa using blank) (Nat.not_lt.mp long) rfl rfl rfl rfl

theorem content?_store {slot : Fin mailboxSlots} {stored : Mailbox}
    (success : mailbox.store sender recipient text = .ok (slot, stored)) (index : Nat) :
    stored.content? index =
      if index = slot then some ⟨sender, recipient, text⟩ else mailbox.content? index := by
  obtain ⟨-, filled, content, rfl⟩ := store_eq_ok success
  simp only [content?, slot?, Vector.getElem?_set]
  by_cases same : slot.val = index
  · simp [same, content]
  · simp [same, Ne.symm same]

/-- A text that fits is stored as long as a slot is free. -/
theorem store_of_free (some : text ≠ []) (bound : text.length ≤ maxMessageBytes)
    (free : ∃ slot ∈ mailbox.slots, slot.isFree = true) :
    ∃ slot stored, mailbox.store sender recipient text = .ok (slot, stored) := by
  have fits : ¬text.isEmpty = true ∧ ¬maxMessageBytes < text.length :=
    ⟨by simpa using some, Nat.not_lt.mpr bound⟩
  rw [store, if_neg fits.1, if_neg fits.2]
  cases first : firstIndex? mailbox.slots Slot.isFree with
  | some index => exact ⟨_, _, rfl⟩
  | none =>
    obtain ⟨slot, member, empty⟩ := free
    obtain ⟨index, inside, rfl⟩ := Vector.mem_iff_getElem.mp member
    have taken := firstIndex?_eq_none_iff.mp first ⟨index, inside⟩
    cases empty.symm.trans taken

theorem take_eq (mailbox : Mailbox) (index : Nat) (recipient : ParticipantId) :
    mailbox.take index recipient =
      match (mailbox.content? index).filter (·.recipient = recipient) with
      | some message => (some message, mailbox.release index)
      | none => (none, mailbox) := by
  have same : (mailbox.slot? index).bind (·.message? recipient) =
      (mailbox.content? index).filter (·.recipient = recipient) := by
    cases found : mailbox.slot? index with
    | none => simp [content?, found]
    | some slot => simp [content?, found, Slot.message?_eq_filter]
  cases held : (mailbox.content? index).filter (·.recipient = recipient) with
  | none => simp only [take, same, held]
  | some message => simp only [take, same, held]

theorem take_of_content {index : Nat} (held : mailbox.content? index = some message) :
    mailbox.take index message.recipient = (some message, mailbox.release index) := by
  simp [take_eq, held, Option.filter_some]

theorem take_eq_some {index : Nat} {taken : Mailbox}
    (success : mailbox.take index recipient = (some message, taken)) :
    mailbox.content? index = some message ∧ message.recipient = recipient ∧
      taken = mailbox.release index := by
  rw [take_eq] at success
  cases held : (mailbox.content? index).filter (·.recipient = recipient) with
  | none =>
    rw [held] at success
    cases success
  | some found =>
    rw [held] at success
    cases success
    obtain ⟨content, same⟩ := Option.filter_eq_some_iff.mp held
    exact ⟨content, by simpa using same, rfl⟩

theorem take_eq_none {index : Nat} {taken : Mailbox}
    (nothing : mailbox.take index recipient = (none, taken)) :
    taken = mailbox ∧
      ∀ message, mailbox.content? index = some message → message.recipient ≠ recipient := by
  rw [take_eq] at nothing
  cases held : (mailbox.content? index).filter (·.recipient = recipient) with
  | some found =>
    rw [held] at nothing
    cases nothing
  | none =>
    rw [held] at nothing
    cases nothing
    refine ⟨rfl, fun message content => ?_⟩
    simpa [content, Option.filter_some] using held

theorem content?_purgeFor (mailbox : Mailbox) (recipient : ParticipantId) (index : Nat) :
    (mailbox.purgeFor recipient).2.content? index =
      (mailbox.content? index).filter (·.recipient ≠ recipient) := by
  simp only [content?, slot?, purgeFor, Vector.getElem?_map]
  cases mailbox.slots[index]? with
  | none => rfl
  | some slot =>
    simp only [Option.map_some, Option.bind_some]
    cases held : slot.content? with
    | none => split_ifs <;> simp [held]
    | some message =>
      by_cases same : message.recipient = recipient
      · simp [(Slot.isFor_iff_of_content held).mpr same, Option.filter_some, same]
      · have other : slot.isFor recipient = false := by
          rw [← Bool.not_eq_true, Slot.isFor_iff_of_content held]
          exact same
        simp [other, held, Option.filter_some, same]

end Mailbox

end HostChat
