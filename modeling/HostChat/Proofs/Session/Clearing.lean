import HostChat.Proofs.Session.Working

/-! # What leaving clears

Leaving takes one participant out of the registry of its room, frees the slots with messages to it, and
takes the names of the room away from an empty registry. Word for word and slot for slot, everything
else stays, even if a name cannot be taken away.
-/

namespace HostChat

private theorem Directory.find?_of_unlink {α : Type} {directory changed : Directory α}
    {kind : ObjectKind} {name : String} {present : Bool}
    (success : directory.unlink kind name = .ok (present, changed)) :
    changed.find? kind name = none := by
  cases found : changed.find? kind name with
  | none => rfl
  | some number =>
    obtain ⟨key, legal, leads⟩ := find?_eq_some_iff.mp found
    exact absurd legal ((unlink_find? success).mp leads).2

namespace Room

variable {σ : Type} {room : Room} {host after : Host σ}

/-- A room that has been removed has neither of its names. -/
private theorem find?_of_unlink (success : room.unlink host = (.ok (), after)) :
    after.stores.find? .store room.names.store = none ∧
      after.locks.find? .lock room.names.lock = none := by
  simp only [unlink] at success
  cases store : unlinkStore room.names host with
  | error error =>
    rw [store] at success
    cases success
  | ok middle =>
    simp only [store] at success
    obtain ⟨stores, _, removedStore, rfl⟩ := unlinkStore_eq_ok store
    cases lock : unlinkLock room.names { host with stores } with
    | error error =>
      rw [lock] at success
      cases success
    | ok last =>
      rw [lock] at success
      cases success
      obtain ⟨locks, _, removedLock, rfl⟩ := unlinkLock_eq_ok lock
      exact ⟨Directory.find?_of_unlink removedStore, Directory.find?_of_unlink removedLock⟩

end Room

namespace Session

variable {σ : Type} {session : Session} {host after : Host σ}
  {departure : Except ChatError Departure}

/-- What leaving changes, and what it does not. -/
structure Clears (session : Session) (host : Host σ) (departure : Except ChatError Departure)
    (after : Host σ) : Prop where
  absent : session.me ∉ (after.registry session.room.store).participants
  unaddressed : ∀ slot ∈ (after.memory session.room.store).mailbox.slots,
    slot.recipient ≠ session.me.raw
  entries : ∀ place : Fin maxParticipants,
    (after.memory session.room.store).registry.entries.get place =
      if (host.memory session.room.store).registry.entries.get place = session.me.raw then 0
      else (host.memory session.room.store).registry.entries.get place
  slots : ∀ index : Fin mailboxSlots,
    (after.memory session.room.store).mailbox.slots.get index =
      if ((host.memory session.room.store).mailbox.slots.get index).isFor session.me = true then .empty
      else (host.memory session.room.store).mailbox.slots.get index
  header : (after.memory session.room.store).header = (host.memory session.room.store).header
  others : ∀ other, other ≠ session.room.store → after.memory other = host.memory other
  carrier : after.carrier = host.carrier
  locks : after.locks.objects = host.locks.objects
  /-- The names stay as long as somebody is left. -/
  named : (after.registry session.room.store).participants ≠ [] →
    (∃ dropped, departure = .ok ⟨dropped, false⟩) ∧
      after.stores.names = host.stores.names ∧ after.locks.names = host.locks.names
  /-- The last one takes both names away, unless that fails. -/
  unnamed : (after.registry session.room.store).participants = [] → ∀ answer, departure = .ok answer →
    after.stores.find? .store session.room.names.store = none ∧
      after.locks.find? .lock session.room.names.lock = none

/-- Removing names writes no memory. -/
private theorem leave_objects (outcome : session.leave host = some (departure, after)) :
    after.stores.objects = (session.vacate host).stores.objects := by
  obtain ⟨-, held⟩ := leave_eq_some_iff.mp outcome
  by_cases last : ((host.registry session.room.store).release session.me).2.participants = []
  · obtain ⟨dropped, same⟩ := leaveHeld_of_last last
    have kept := (Room.unlink_objects session.room (session.vacate host)).1
    rw [same] at held
    rcases unlinked : session.room.unlink (session.vacate host) with ⟨_ | _, middle⟩ <;>
      rw [unlinked] at held kept <;> cases held <;> exact kept
  · obtain ⟨dropped, same⟩ := leaveHeld_of_remaining last
    rw [same] at held
    cases held
    rfl

theorem exists_leave (unlocked : session.room.Unlocked host) :
    ∃ departure after, session.leave host = some (departure, after) :=
  ⟨_, _, leave_eq_some_iff.mpr ⟨unlocked, rfl⟩⟩

/-- Whatever leaving answers, this is what it does in a room that works. -/
theorem clears_of_leave (works : session.room.Working host)
    (outcome : session.leave host = some (departure, after)) : session.Clears host departure after := by
  have made := works.made
  have usable := works.usable
  have objects := leave_objects outcome
  have read (other : Nat) : after.memory other = (session.vacate host).memory other := by
    simp only [Host.memory, objects]
  have own : after.memory session.room.store =
      { host.memory session.room.store with
        registry := ((host.memory session.room.store).registry.release session.me).2
        mailbox := ((host.memory session.room.store).mailbox.purgeFor session.me).2 } :=
    (read _).trans (Host.memory_setMemory host _ made)
  have left : (after.registry session.room.store) =
      ((host.registry session.room.store).release session.me).2 := by
    rw [Host.registry, own]
    rfl
  have vacates := leave_vacates made outcome
  refine
    { absent := ?_, unaddressed := ?_, entries := ?_, slots := ?_, header := ?_, others := ?_,
      carrier := vacates.carrier, locks := vacates.locks, named := ?_, unnamed := ?_ }
  · rw [left]
    exact fun member => ((Registry.mem_release_iff usable.apart).mp member).2 rfl
  · intro slot member
    rw [own] at member
    exact usable.mailbox.recipient_purgeFor session.me member
  · intro place
    simp only [own]
    exact Registry.entries_release usable.apart session.me place
  · intro index
    simp only [own]
    exact Mailbox.slots_purgeFor _ session.me index
  · rw [own]
  · intro other different
    rw [read]
    exact Host.memory_setMemory_of_ne host _ different
  · intro remaining
    rw [left] at remaining
    obtain ⟨answer, stores, locks⟩ := leave_of_remaining remaining outcome
    exact ⟨answer, stores, congrArg Directory.names locks⟩
  · rintro last answer rfl
    rw [left] at last
    obtain ⟨-, held⟩ := leave_eq_some_iff.mp outcome
    obtain ⟨dropped, same⟩ := leaveHeld_of_last last
    rw [same] at held
    rcases unlinked : session.room.unlink (session.vacate host) with ⟨error | _, middle⟩
    · rw [unlinked] at held
      cases held
    · rw [unlinked] at held
      cases held
      exact Room.find?_of_unlink unlinked

end Session

end HostChat
