import HostChat.Proofs.Memory.Upkeep

/-! # Room memory that can be used

What a session relies on is less than what sessions keep: nobody has two places in the registry, and a
slot is all zeros or holds a message to somebody who is registered. Words of nobody's may stand in the
registry, and anything may stand behind the text of a message.
-/

namespace HostChat

namespace Registry

variable {registry : Registry} {id other : ParticipantId}

private theorem nodup_claim {place : Fin maxParticipants} {claimed : Registry}
    (apart : registry.participants.Nodup) (success : registry.claim id = .ok (place, claimed)) :
    claimed.participants.Nodup := by
  by_cases member : id ∈ registry.participants
  · obtain ⟨kept, same⟩ := claim_of_mem member
    rw [same] at success
    cases success
    exact apart
  · rw [(participants_claim success member).nodup_iff, List.nodup_cons]
    exact ⟨member, apart⟩

private theorem nodup_release (apart : registry.participants.Nodup) (id : ParticipantId) :
    (registry.release id).2.participants.Nodup := by
  by_cases member : id ∈ registry.participants
  · exact (List.nodup_cons.mp ((participants_release member).nodup_iff.mp apart)).2
  · rwa [release_of_notMem member]

/-- Releasing the place of a participant clears the words that are its own. -/
theorem entries_release (apart : registry.participants.Nodup) (id : ParticipantId)
    (place : Fin maxParticipants) :
    (registry.release id).2.entries.get place =
      if registry.entries.get place = id.raw then 0 else registry.entries.get place := by
  change (registry.release id).2.entries[place] =
    if registry.entries[place] = id.raw then 0 else registry.entries[place]
  have gone : id ∉ (registry.release id).2.participants := fun member =>
    (mem_release_iff apart).mp member |>.2 rfl
  split_ifs with own
  · cases found : registry.position id with
    | none =>
      refine absurd (mem_participants.mpr ⟨place, ?_⟩) (position_eq_none_iff.mp found)
      simpa using own
    | some first =>
      by_cases same : first = place
      · subst same
        simp [release, found]
      · -- a second place would still be the participant's
        refine absurd (mem_participants.mpr ⟨place, ?_⟩) gone
        have apart : first.val ≠ place.val := fun equal => same (Fin.ext equal)
        simpa [release, found, Vector.getElem_set, apart] using own
  · cases found : registry.position id with
    | none => simp [release, found]
    | some first =>
      have taken : registry.entries[first] = id.raw := by simpa using position_eq_some found
      have apart : first.val ≠ place.val := by
        intro equal
        obtain rfl := Fin.ext equal
        exact own taken
      simp [release, found, apart]

end Registry

/-- All zeros, or a message to one of `members`. -/
def Slot.Usable (members : List ParticipantId) (slot : Slot) : Prop :=
  slot = .empty ∨ ∃ message, slot.content? = some message ∧ message.recipient ∈ members

theorem Slot.Kept.usable {members : List ParticipantId} {slot : Slot} (kept : slot.Kept members) :
    slot.Usable members := by
  rcases kept with rfl | ⟨message, rfl, some, bound, member⟩
  · exact .inl rfl
  · exact .inr ⟨message, content?_holding some bound, member⟩

theorem Slot.Usable.empty_of_isFree {members : List ParticipantId} {slot : Slot}
    (usable : slot.Usable members) (free : slot.isFree = true) : slot = .empty := by
  rcases usable with rfl | ⟨message, held, -⟩
  · rfl
  · rw [content?_of_isFree free] at held
    cases held

theorem Slot.Usable.mono {members others : List ParticipantId} {slot : Slot}
    (usable : slot.Usable members)
    (still : ∀ id, slot.isFor id = true → id ∈ members → id ∈ others) : slot.Usable others := by
  rcases usable with rfl | ⟨message, held, member⟩
  · exact .inl rfl
  · exact .inr ⟨message, held, still _ ((isFor_iff_of_content held).mpr rfl) member⟩

namespace Mailbox

variable {mailbox stored : Mailbox} {members : List ParticipantId} {sender recipient : ParticipantId}
  {text : List UInt8} {slot : Fin mailboxSlots}

def Usable (members : List ParticipantId) (mailbox : Mailbox) : Prop :=
  ∀ slot ∈ mailbox.slots, slot.Usable members

theorem Usable.release (usable : mailbox.Usable members) (index : Nat) :
    (mailbox.release index).Usable members := by
  intro slot member
  rw [Mailbox.release, ← Vector.mem_toList_iff, Vector.toList_setIfInBounds] at member
  rcases List.mem_or_eq_of_mem_set member with old | rfl
  · exact usable slot (Vector.mem_toList_iff.mp old)
  · exact .inl rfl

theorem Usable.store (usable : mailbox.Usable members) (listed : recipient ∈ members)
    (success : mailbox.store sender recipient text = .ok (slot, stored)) :
    stored.Usable members := by
  obtain ⟨-, filled, content, rfl⟩ := store_eq_ok success
  intro other member
  rw [← Vector.mem_toList_iff, Vector.toList_set] at member
  rcases List.mem_or_eq_of_mem_set member with old | rfl
  · exact usable other (Vector.mem_toList_iff.mp old)
  · exact .inr ⟨_, content, listed⟩

/-- Freeing the slot of a message just stored restores the mailbox. -/
theorem Usable.release_store (usable : mailbox.Usable members)
    (success : mailbox.store sender recipient text = .ok (slot, stored)) :
    stored.release slot = mailbox := by
  simp only [Mailbox.store] at success
  split_ifs at success with blank long
  cases free : firstIndex? mailbox.slots Slot.isFree with
  | none =>
    rw [free] at success
    cases success
  | some index =>
    rw [free] at success
    cases success
    have clean : mailbox.slots[slot] = .empty :=
      (usable mailbox.slots[slot] (Vector.getElem_mem _)).empty_of_isFree
        (firstIndex?_eq_some_iff.mp free).1
    rw [Mailbox.release]
    congr 1
    apply Vector.ext
    intro index inside
    rw [Vector.getElem_setIfInBounds]
    split_ifs with own
    · subst own
      exact clean.symm
    · exact Vector.getElem_set_ne slot.isLt inside own

theorem slots_purgeFor (mailbox : Mailbox) (id : ParticipantId) (index : Fin mailboxSlots) :
    (mailbox.purgeFor id).2.slots.get index =
      if (mailbox.slots.get index).isFor id = true then .empty else mailbox.slots.get index := by
  change (mailbox.purgeFor id).2.slots[index] =
    if mailbox.slots[index].isFor id = true then .empty else mailbox.slots[index]
  simp [Mailbox.purgeFor]

/-- No slot is addressed to somebody whose messages are gone. -/
theorem Usable.recipient_purgeFor (usable : mailbox.Usable members) (id : ParticipantId)
    {slot : Slot} (member : slot ∈ (mailbox.purgeFor id).2.slots) : slot.recipient ≠ id.raw := by
  have nobody : (0 : Int32) ≠ id.raw := Int32.ne_of_lt id.raw_pos
  obtain ⟨before, old, rfl⟩ := Vector.mem_map.mp member
  split_ifs with own
  · exact nobody
  · intro same
    cases free : before.isFree with
    | true =>
      rw [(usable before old).empty_of_isFree free] at same
      exact nobody same
    | false =>
      refine own ?_
      simp [Slot.isFor, free, same]

end Mailbox

namespace RoomMemory

variable {memory next : RoomMemory}

/-- What sessions rely on in the memory of their room. -/
structure Usable (memory : RoomMemory) : Prop where
  apart : memory.registry.participants.Nodup
  mailbox : memory.mailbox.Usable memory.registry.participants

theorem Kept.usable (kept : memory.Kept) : memory.Usable :=
  ⟨kept.registry.nodup, fun slot member => (kept.mailbox slot member).usable⟩

theorem Usable.change (usable : memory.Usable) (change : memory.Change next) : next.Usable := by
  cases change with
  | claim claims =>
    refine ⟨Registry.nodup_claim usable.apart claims, fun slot within =>
      (usable.mailbox slot within).mono fun id _ member => ?_⟩
    exact (Registry.mem_participants_claim claims).mpr (.inr member)
  | store listed stores => exact ⟨usable.apart, usable.mailbox.store listed stores⟩
  | release slot => exact ⟨usable.apart, usable.mailbox.release slot⟩
  | take slot reader =>
    refine ⟨usable.apart, ?_⟩
    simp only [Mailbox.take]
    split
    · exact usable.mailbox.release slot
    · exact usable.mailbox
  | vacate id =>
    refine ⟨Registry.nodup_release usable.apart id, fun slot member => ?_⟩
    obtain ⟨before, old, rfl⟩ := Vector.mem_map.mp member
    split_ifs with own
    · exact .inl rfl
    · refine (usable.mailbox before old).mono fun other reads listed => ?_
      refine (Registry.mem_release_iff usable.apart).mpr ⟨listed, ?_⟩
      rintro rfl
      exact own reads

theorem Usable.changes (usable : memory.Usable)
    (changes : Relation.ReflTransGen Change memory next) : next.Usable := by
  induction changes with
  | refl => exact usable
  | tail _ last ih => exact ih.change last

end RoomMemory

end HostChat
