import HostChat.Proofs.Meeting.Housing

/-! # The rooms of a meeting

Where a meeting begins without names, every name and every handle leads to a store that the meeting has
made, and the locks of its rooms are free between two turns.
-/

namespace HostChat

namespace Meeting

variable {base : Nat} {meeting next : Meeting} {id : ParticipantId} {member changed : Member}
  {session : Session} {after : Host Exchange} {log : List Entry} {turn : Turn}

/-- Stores below `base` are out of reach, and no lock in reach is taken. -/
structure Founded (base : Nat) (meeting : Meeting) : Prop where
  storeNames : ∀ key store, meeting.host.stores.names.find? key = some store → base ≤ store
  lockNames : ∀ key lock, meeting.host.locks.names.find? key = some lock →
    meeting.host.locks.objects[lock]? = some 1
  handles : ∀ id member session, meeting.members.find? id = some member →
    member.phase.handle? = some session →
      base ≤ session.room.store ∧ meeting.host.locks.objects[session.room.lock]? = some 1

namespace Founded

theorem start {stores : Directory Store} {locks : Directory Nat}
    (nameless : (Meeting.start stores locks).host.Nameless) :
    (Meeting.start stores locks).Founded stores.objects.size where
  storeNames key store found := by
    rw [nameless.1 key] at found
    cases found
  lockNames key lock found := by
    rw [nameless.2 key] at found
    cases found
  handles _ _ _ found := by cases found

theorem session_of (founded : meeting.Founded base) (found : meeting.members.find? id = some member)
    (inside : member.phase = .inside session) :
    base ≤ session.room.store ∧ session.room.Unlocked meeting.host := by
  obtain ⟨made, unlocked⟩ := founded.handles id member session found (by rw [inside]; rfl)
  exact ⟨made, 0, unlocked⟩

theorem setMember (founded : meeting.Founded base)
    (handle : ∀ session, changed.phase.handle? = some session →
      base ≤ session.room.store ∧ meeting.host.locks.objects[session.room.lock]? = some 1) :
    (meeting.setMember id changed).Founded base where
  storeNames := founded.storeNames
  lockNames := founded.lockNames
  handles other own session there held := by
    rw [find?_setMember] at there
    split_ifs at there
    · cases there
      exact handle session held
    · exact founded.handles other own session there held

/-- A change of the host that brings no names and takes no locks. -/
theorem host (founded : meeting.Founded base)
    (stores : ∀ key store, after.stores.names.find? key = some store →
      meeting.host.stores.names.find? key = some store)
    (lockNames : ∀ key lock, after.locks.names.find? key = some lock →
      meeting.host.locks.names.find? key = some lock)
    (locks : ∀ lock : Nat, meeting.host.locks.objects[lock]? = some 1 →
      after.locks.objects[lock]? = some 1) :
    Founded base { meeting with host := after, log } where
  storeNames key store found := founded.storeNames key store (stores key store found)
  lockNames key lock found := locks lock (founded.lockNames key lock (lockNames key lock found))
  handles other own session there held := by
    obtain ⟨made, unlocked⟩ := founded.handles other own session there held
    exact ⟨made, locks _ unlocked⟩

theorem sameRooms (founded : meeting.Founded base) (rooms : meeting.host.SameRooms after) :
    Founded base { meeting with host := after, log } :=
  founded.host (fun _ _ found => rooms.names ▸ found) (fun _ _ found => rooms.locks ▸ found)
    fun _ unlocked => by rwa [rooms.locks]

theorem carry (founded : meeting.Founded base) (carrier : Exchange) :
    (meeting.carry carrier).Founded base :=
  founded.sameRooms (Host.sameRooms_carrier meeting.host carrier)

theorem forgets (founded : meeting.Founded base) {names : RoomNames}
    (forgets : Room.Forgets names meeting.host after) :
    Founded base { meeting with host := after, log } :=
  founded.host (fun _ _ found => forgets.stores.old found) (fun _ _ found => forgets.locks.old found)
    fun lock unlocked => by
      rwa [forgets.spares.locks lock (Array.getElem?_eq_some_iff.mp unlocked).1]

theorem vacates (founded : meeting.Founded base) (vacates : session.Vacates meeting.host after) :
    (({ meeting with host := after, log } : Meeting).setMember id
      { member with phase := .outside }).Founded base := by
  have left : Founded base { meeting with host := after, log } :=
    founded.host (fun _ _ found => vacates.storeNames.old found)
      (fun _ _ found => vacates.lockNames.old found) fun _ unlocked => by rwa [vacates.locks]
  exact left.setMember fun _ wrong => by cases wrong

/-- A new room is made by the meeting, and nobody has its lock. -/
theorem opens (founded : meeting.Founded base) (grown : base ≤ meeting.host.stores.objects.size)
    {storeKey lockKey : String} (opens : session.Opens meeting.host after storeKey lockKey) :
    (({ meeting with host := after, log } : Meeting).setMember id
      { member with seated := true, phase := .inside session }).Founded base := by
  have made : base ≤ session.room.store := opens.store ▸ grown
  have locks (lock : Nat) (unlocked : meeting.host.locks.objects[lock]? = some 1) :
      after.locks.objects[lock]? = some 1 := by
    rwa [opens.locks lock (Array.getElem?_eq_some_iff.mp unlocked).1]
  have entered : Founded base { meeting with host := after, log } :=
    { storeNames := fun key store found => by
        change after.stores.names.find? key = some store at found
        rw [opens.storeNames] at found
        split_ifs at found
        · cases found
          exact made
        · exact founded.storeNames key store found
      lockNames := fun key lock found => by
        change after.locks.names.find? key = some lock at found
        rw [opens.lockNames] at found
        split_ifs at found
        · cases found
          exact opens.unlocked
        · exact locks lock (founded.lockNames key lock found)
      handles := fun other own held there handle => by
        obtain ⟨before, unlocked⟩ := founded.handles other own held there handle
        exact ⟨before, locks _ unlocked⟩ }
  exact entered.setMember fun held same => by
    cases same
    exact ⟨made, opens.unlocked⟩

theorem step (founded : meeting.Founded base) (regular : meeting.Regular base)
    (moves : meeting.Moves turn next) : next.Founded base := by
  cases moves with
  | connect new => exact (founded.carry _).setMember fun _ wrong => by cases wrong
  | disconnect => exact founded.carry _
  | close => exact founded.carry _
  | @drop id member found =>
    exact (founded.carry _).setMember fun held => founded.handles id member held found
  | create found outside outcome =>
    rcases Session.create_forgets_or_opens outcome with
      ⟨error, rfl, forgets⟩ | ⟨session, _, _, rfl, -, opens⟩
    · have failed : Founded base { meeting with host := _ } := founded.forgets forgets
      exact failed.setMember fun _ wrong => by cases wrong
    · exact founded.opens regular.housed.grown opens
  | request found outside requested =>
    have rooms := (Host.sameMembers_notify (Session.requestJoin_eq_ok requested)).rooms
    have asked : Founded base { meeting with host := _ } := founded.sameRooms rooms
    exact asked.setMember fun _ wrong => by cases wrong
  | wait found waiting awaited =>
    refine (founded.carry _).setMember fun _ wrong => ?_
    rw [Phase.handle?_ofAnswer] at wrong
    cases wrong
  | attach found approved attached =>
    refine founded.setMember fun held same => ?_
    cases same
    obtain ⟨store, lock, there, -, named, rfl⟩ := Room.attach_eq_ok_iff.mp attached
    obtain ⟨_, -, there⟩ := Directory.find?_eq_some_iff.mp there
    obtain ⟨_, -, named⟩ := Directory.find?_eq_some_iff.mp named
    exact ⟨founded.storeNames _ store there, founded.lockNames _ lock named⟩
  | astray found approved => exact founded.setMember fun _ wrong => by cases wrong
  | register found attached outcome =>
    obtain ⟨-, made⟩ := regular.housed.handles _ _ _ found (by rw [attached]; rfl)
    have handle := founded.handles _ _ _ found (by rw [attached]; rfl)
    rcases Session.register_cases _ made outcome with ⟨error, rfl, rfl⟩ | ⟨place, rfl, registers⟩
    · exact founded.setMember fun _ wrong => by cases wrong
    · have entered : Founded base { meeting with host := _ } := founded.sameRooms registers.rooms
      refine entered.setMember fun held same => ?_
      cases same
      exact ⟨handle.1, registers.rooms.locks ▸ handle.2⟩
  | tell found inside outcome =>
    obtain ⟨-, made⟩ := regular.housed.session_of found inside
    exact founded.sameRooms (Session.tell_sameMembers made outcome).rooms
  | say found inside outcome =>
    obtain ⟨-, made⟩ := regular.housed.session_of found inside
    exact founded.sameRooms (Session.say_sameMembers made outcome).rooms
  | @handle id member session envelope later answer after found inside receives queued outcome =>
    have carried := founded.carry (meeting.host.carrier.keep member.channel later)
    obtain ⟨-, made⟩ := (regular.keep member.channel later).housed.session_of found inside
    exact carried.sameRooms (Session.handle_sameMembers made outcome).rooms
  | leave found inside outcome =>
    obtain ⟨-, made⟩ := regular.housed.session_of found inside
    exact founded.vacates (Session.leave_vacates made outcome)
  | forge sent => exact founded.carry _
  | nothing => exact founded

end Founded

end Meeting

end HostChat
