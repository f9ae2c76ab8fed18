import HostChat.Proofs.Meeting.Wiring

/-! # Who is registered where

The registry of a room that a meeting has made lists exactly those who are inside it with a session,
and a message lies in such a room only if its recipient is listed there.
-/

namespace HostChat

namespace Meeting

variable {base : Nat} {meeting next : Meeting} {id : ParticipantId} {member changed : Member}
  {session : Session} {after : Host Exchange} {log : List Entry} {turn : Turn}

/-- Stores below `base` were there before the meeting. -/
structure Housed (base : Nat) (meeting : Meeting) : Prop where
  grown : base ≤ meeting.host.stores.objects.size
  handles : ∀ id member session, meeting.members.find? id = some member →
    member.phase.handle? = some session →
      session.me = id ∧ session.room.store < meeting.host.stores.objects.size
  registered : ∀ store id, base ≤ store →
    (id ∈ (meeting.host.registry store).participants ↔
      ∃ session, meeting.session? id = some session ∧ session.room.store = store)
  sound : ∀ store, base ≤ store → (meeting.host.registry store).Sound
  addressed : ∀ posting : Posting, base ≤ posting.store →
    meeting.host.contents posting.store posting.slot = some posting.message →
      posting.message.recipient ∈ (meeting.host.registry posting.store).participants

namespace Housed

theorem start (stores : Directory Store) (locks : Directory Nat) :
    (Meeting.start stores locks).Housed stores.objects.size := by
  have empty : ∀ store, stores.objects.size ≤ store →
      (Meeting.start stores locks).host.memory store = .zero :=
    fun store beyond => Host.memory_of_size_le beyond
  exact
    { grown := Nat.le_refl _
      handles := fun _ _ _ found => by cases found
      registered := fun store id beyond => by
        rw [Host.registry, empty store beyond]
        constructor
        · intro member
          exact absurd member (by simp [RoomMemory.zero])
        · rintro ⟨_, inside, -⟩
          cases inside
      sound := fun store beyond => by
        rw [Host.registry, empty store beyond]
        exact .empty
      addressed := fun posting beyond lies => by
        rw [Host.contents_of_size_le beyond] at lies
        cases lies }

theorem session_of (housed : meeting.Housed base) (found : meeting.members.find? id = some member)
    (inside : member.phase = .inside session) :
    session.me = id ∧ session.room.store < meeting.host.stores.objects.size :=
  housed.handles id member session found (by rw [inside]; rfl)

/-- A participant that is not inside a room has no messages in any. -/
theorem none_addressed (housed : meeting.Housed base) (outside : meeting.session? id = none)
    {posting : Posting} (made : base ≤ posting.store)
    (lies : meeting.host.contents posting.store posting.slot = some posting.message) :
    posting.message.recipient ≠ id := by
  intro same
  obtain ⟨session, inside, -⟩ :=
    (housed.registered posting.store _ made).mp (housed.addressed posting made lies)
  rw [same, outside] at inside
  cases inside

/-- A participant that moves without entering or leaving a room. -/
theorem setMember (housed : meeting.Housed base)
    (same : changed.phase.session? = meeting.session? id)
    (handle : ∀ session, changed.phase.handle? = some session →
      session.me = id ∧ session.room.store < meeting.host.stores.objects.size) :
    (meeting.setMember id changed).Housed base where
  grown := housed.grown
  handles other own session found own? := by
    rw [find?_setMember] at found
    split_ifs at found with equal
    · cases found
      exact equal ▸ handle session own?
    · exact housed.handles other own session found own?
  registered store other made := by
    have sessions : (meeting.setMember id changed).session? other = meeting.session? other := by
      rw [session?_setMember]
      split_ifs with equal
      · rw [same, equal]
      · rfl
    rw [sessions]
    exact housed.registered store other made
  sound := housed.sound
  addressed := housed.addressed

/-- A change of the host that leaves the registries alone and brings no messages for strangers. -/
theorem host (housed : meeting.Housed base)
    (size : meeting.host.stores.objects.size ≤ after.stores.objects.size)
    (registry : ∀ store, after.registry store = meeting.host.registry store)
    (contents : ∀ posting : Posting, base ≤ posting.store →
      after.contents posting.store posting.slot = some posting.message →
        posting.message.recipient ∈ (meeting.host.registry posting.store).participants) :
    Housed base { meeting with host := after, log } where
  grown := Nat.le_trans housed.grown size
  handles other own session found own? := by
    obtain ⟨me, made⟩ := housed.handles other own session found own?
    exact ⟨me, Nat.lt_of_lt_of_le made size⟩
  registered store other made := by
    rw [registry]
    exact housed.registered store other made
  sound store made := by
    rw [registry]
    exact housed.sound store made
  addressed posting made lies := by
    rw [registry]
    exact contents posting made lies

theorem spares (housed : meeting.Housed base) (spares : meeting.host.Spares after) :
    Housed base { meeting with host := after, log } :=
  housed.host spares.stores_size spares.registry fun posting made lies => by
    rw [spares.contents] at lies
    exact housed.addressed posting made lies

theorem carry (housed : meeting.Housed base) (carrier : Exchange) :
    Housed base { meeting with host := { meeting.host with carrier }, log } :=
  housed.host (Nat.le_refl _) (fun _ => rfl) housed.addressed

theorem refuses (housed : meeting.Housed base) (refuses : Session.Refuses meeting.host after) :
    Housed base { meeting with host := after, log } :=
  housed.host (Nat.le_of_eq refuses.members.rooms.size.symm) refuses.members.registry
    fun posting made lies => by
      rw [refuses.contents] at lies
      exact housed.addressed posting made lies

theorem posts (housed : meeting.Housed base) {target : ParticipantId} {text : List UInt8}
    {slot : Fin mailboxSlots}
    (listed : target ∈ (meeting.host.registry session.room.store).participants)
    (posts : session.Posts target text slot meeting.host after) :
    Housed base { meeting with host := after, log } := by
  refine housed.host (Nat.le_of_eq posts.members.rooms.size.symm) posts.members.registry
    fun posting made lies => ?_
  rcases Posting.effect?_lies posts.applied lies with same | ⟨-, before⟩
  · cases same
    exact listed
  · exact housed.addressed posting made before

theorem takes (housed : meeting.Housed base) {slot : Nat} {answer : Option Message}
    (takes : session.Takes slot answer meeting.host after) :
    Housed base { meeting with host := after, log } :=
  housed.host (Nat.le_of_eq takes.members.rooms.size.symm) takes.members.registry
    fun posting made lies => housed.addressed posting made (takes.lies lies).1

/-- Whoever gets a session is registered in the room of the session, and nowhere else. -/
theorem joins (housed : meeting.Housed base) (outside : meeting.session? session.me = none)
    (joins : session.Joins meeting.host after) :
    (({ meeting with host := after } : Meeting).setMember session.me
      { member with seated := true, phase := .inside session }).Housed base where
  grown := Nat.le_trans housed.grown joins.size
  handles other own held found own? := by
    rw [find?_setMember] at found
    split_ifs at found with equal
    · cases found
      cases own?
      exact ⟨equal, joins.made⟩
    · obtain ⟨me, made⟩ := housed.handles other own held found own?
      exact ⟨me, Nat.lt_of_lt_of_le made joins.size⟩
  registered store other made := by
    have before := housed.registered store other made
    rw [session?_setMember]
    by_cases here : store = session.room.store
    · subst here
      change other ∈ (after.registry session.room.store).participants ↔ _
      rw [joins.members]
      split_ifs with equal
      · exact ⟨fun _ => ⟨session, rfl, rfl⟩, fun _ => .inl equal.symm⟩
      · rw [before]
        exact ⟨fun either => either.resolve_left (Ne.symm equal), .inr⟩
    · change other ∈ (after.registry store).participants ↔ _
      rw [joins.registry store here]
      split_ifs with equal
      · subst equal
        rw [before, outside]
        constructor
        · rintro ⟨_, inside, -⟩
          cases inside
        · rintro ⟨_, inside, same⟩
          cases inside
          exact absurd same.symm here
      · exact before
  sound store made := by
    change (after.registry store).Sound
    by_cases here : store = session.room.store
    · exact here ▸ joins.sound (here ▸ housed.sound store made)
    · rw [joins.registry store here]
      exact housed.sound store made
  addressed posting made lies := by
    change after.contents posting.store posting.slot = some posting.message at lies
    rw [joins.contents] at lies
    have before := housed.addressed posting made lies
    change posting.message.recipient ∈ (after.registry posting.store).participants
    by_cases here : posting.store = session.room.store
    · rw [here] at before ⊢
      exact (joins.members _).mpr (.inr before)
    · rwa [joins.registry posting.store here]

/-- Whoever leaves is registered nowhere any more. -/
theorem vacates (housed : meeting.Housed base) (found : meeting.members.find? session.me = some member)
    (inside : member.phase = .inside session) (vacates : session.Vacates meeting.host after) :
    (({ meeting with host := after, log } : Meeting).setMember session.me
      { member with phase := .outside }).Housed base where
  grown := Nat.le_trans housed.grown (Nat.le_of_eq vacates.size.symm)
  handles other own held found own? := by
    rw [find?_setMember] at found
    split_ifs at found
    · cases found
      cases own?
    · obtain ⟨me, made⟩ := housed.handles other own held found own?
      exact ⟨me, Nat.lt_of_lt_of_le made (Nat.le_of_eq vacates.size.symm)⟩
  registered store other made := by
    have before := housed.registered store other made
    have own : meeting.session? session.me = some session := by
      rw [session?_of found, inside]
      rfl
    rw [session?_setMember]
    change other ∈ (after.registry store).participants ↔ _
    rw [vacates.registry]
    split_ifs with here equal equal
    · rw [← here, (housed.sound store made).mem_release]
      constructor
      · exact fun kept => absurd equal.symm kept.2
      · rintro ⟨_, wrong, -⟩
        cases wrong
    · rw [← here, (housed.sound store made).mem_release, before]
      exact ⟨And.left, fun kept => ⟨kept, Ne.symm equal⟩⟩
    · subst equal
      rw [before, own]
      constructor
      · rintro ⟨_, same, there⟩
        cases same
        exact absurd there.symm here
      · rintro ⟨_, wrong, -⟩
        cases wrong
    · exact before
  sound store made := by
    change (after.registry store).Sound
    rw [vacates.registry]
    split_ifs with here
    · exact (here ▸ housed.sound store made).release session.me
    · exact housed.sound store made
  addressed posting made lies := by
    change after.contents posting.store posting.slot = some posting.message at lies
    change posting.message.recipient ∈ (after.registry posting.store).participants
    rw [vacates.registry]
    rcases Posting.effect?_lies vacates.applied lies with wrong | ⟨kept, before⟩
    · cases wrong
    · have listed := housed.addressed posting made before
      split_ifs with here
      · rw [← here, (housed.sound posting.store made).mem_release]
        exact ⟨listed, fun same => kept ⟨same.symm, here.symm⟩⟩
      · exact listed

end Housed

/-- What every turn keeps, whatever is allowed. -/
structure Regular (base : Nat) (meeting : Meeting) : Prop where
  wired : meeting.Wired
  housed : meeting.Housed base

namespace Regular

theorem start (stores : Directory Store) (locks : Directory Nat) :
    (Meeting.start stores locks).Regular stores.objects.size :=
  ⟨.start stores locks, .start stores locks⟩

/-- A change of what lies in one channel. -/
theorem carry (regular : meeting.Regular base) {carrier : Exchange}
    (size : carrier.channels.size = meeting.host.carrier.channels.size)
    (routes : ∀ id number, carrier.routes.find? id = some number →
      meeting.host.carrier.routes.find? id = some number) : (meeting.carry carrier).Regular base :=
  ⟨regular.wired.carry size routes, regular.housed.carry carrier⟩

theorem keep (regular : meeting.Regular base) (number : Nat) (queue : List Envelope) :
    (meeting.carry (meeting.host.carrier.keep number queue)).Regular base :=
  regular.carry (Exchange.modifyChannel_size ..) fun _ _ route => route

theorem notify (regular : meeting.Regular base) {sender target : ParticipantId}
    {notification : Notification}
    (sent : meeting.host.notify sender target notification = .ok after) :
    Regular base { meeting with host := after, log } := by
  obtain ⟨carrier, notified, rfl⟩ := Host.notify_eq_ok sent
  exact ⟨regular.wired.notify notified, regular.housed.carry carrier⟩

/-- A participant that moves without entering or leaving a room. -/
theorem setMember (regular : meeting.Regular base) (found : meeting.members.find? id = some member)
    (channel : changed.channel = member.channel)
    (same : changed.phase.session? = member.phase.session?)
    (handle : ∀ session, changed.phase.handle? = some session →
      session.me = id ∧ session.room.store < meeting.host.stores.objects.size) :
    (meeting.setMember id changed).Regular base :=
  ⟨regular.wired.setMember found channel,
    regular.housed.setMember (same.trans (session?_of found).symm) handle⟩

theorem refuses (regular : meeting.Regular base) (refuses : Session.Refuses meeting.host after) :
    Regular base { meeting with host := after, log } :=
  ⟨regular.wired.of_carrier refuses.carrier, regular.housed.refuses refuses⟩

theorem posts (regular : meeting.Regular base) {target : ParticipantId} {text : List UInt8}
    {slot : Fin mailboxSlots}
    (listed : target ∈ (meeting.host.registry session.room.store).participants)
    (posts : session.Posts target text slot meeting.host after) :
    Regular base { meeting with host := after, log } :=
  ⟨regular.wired.notify posts.sent, regular.housed.posts listed posts⟩

theorem takes (regular : meeting.Regular base) {slot : Nat} {answer : Option Message}
    (takes : session.Takes slot answer meeting.host after) :
    Regular base { meeting with host := after, log } :=
  ⟨regular.wired.of_carrier takes.carrier, regular.housed.takes takes⟩

/-- An attempt to get into a room that ends with a session or outside. -/
theorem settle (regular : meeting.Regular base) (found : meeting.members.find? id = some member)
    (outside : member.phase.session? = none) {result : Except ChatError Session}
    (ends : (∃ error, result = .error error ∧ meeting.host.Spares after) ∨
      ∃ session, result = .ok session ∧ session.me = id ∧ session.Joins meeting.host after) :
    (meeting.settle id member result after).Regular base := by
  rcases ends with ⟨error, rfl, spares⟩ | ⟨session, rfl, rfl, joins⟩
  · refine ⟨regular.wired.settle found spares.carrier, ?_⟩
    have spared : Housed base { meeting with host := after } := regular.housed.spares spares
    refine spared.setMember (outside.symm.trans (session?_of found).symm) fun _ wrong => ?_
    cases wrong
  · exact ⟨regular.wired.settle found joins.carrier,
      regular.housed.joins ((session?_of found).trans outside) joins⟩

theorem vacates (regular : meeting.Regular base)
    (found : meeting.members.find? session.me = some member) (inside : member.phase = .inside session)
    (vacates : session.Vacates meeting.host after) :
    (({ meeting with host := after, log } : Meeting).setMember session.me
      { member with phase := .outside }).Regular base := by
  have carried : Wired { meeting with host := after, log } := regular.wired.of_carrier vacates.carrier
  exact ⟨carried.setMember found rfl, regular.housed.vacates found inside vacates⟩

theorem step (regular : meeting.Regular base) (moves : meeting.Moves turn next) :
    next.Regular base := by
  cases moves with
  | connect new =>
    refine ⟨regular.wired.connect _, (regular.housed.carry _).setMember ?_ fun _ wrong => ?_⟩
    · change _ = meeting.session? _
      rw [session?, new]
      rfl
    · cases wrong
  | disconnect =>
    refine regular.carry rfl fun other number route => ?_
    change (meeting.host.carrier.routes.erase _).find? other = some number at route
    rw [Table.find?_erase] at route
    split_ifs at route
    exact route
  | close => exact regular.carry (Exchange.modifyChannel_size ..) fun _ _ route => route
  | @drop id member found =>
    have carried : (meeting.carry (meeting.host.carrier.drop member.channel)).Regular base :=
      regular.carry (Exchange.modifyChannel_size ..) fun _ _ route => route
    exact carried.setMember found rfl rfl fun session => regular.housed.handles id member session found
  | create found outside outcome =>
    refine regular.settle found (by rw [outside]; rfl) ?_
    rcases Session.create_forgets_or_opens outcome with
      ⟨error, rfl, forgets⟩ | ⟨session, _, _, rfl, me, opens⟩
    · exact .inl ⟨error, rfl, forgets.spares⟩
    · exact .inr ⟨session, rfl, me, opens.joins⟩
  | request found outside requested =>
    have asked : Regular base { meeting with host := _ } :=
      regular.notify (Session.requestJoin_eq_ok requested)
    exact asked.setMember found rfl (by rw [outside]; rfl) fun _ wrong => by cases wrong
  | wait found waiting awaited =>
    refine (regular.keep _ _).setMember found rfl ?_ fun session wrong => ?_
    · rw [waiting, Phase.session?_ofAnswer]
      rfl
    · rw [Phase.handle?_ofAnswer] at wrong
      cases wrong
  | attach found approved attached =>
    refine regular.setMember found rfl (by rw [approved]; rfl) fun session same => ?_
    cases same
    obtain ⟨store, lock, -, isRoom, -, rfl⟩ := Room.attach_eq_ok_iff.mp attached
    exact ⟨rfl, isRoom.made⟩
  | astray found approved =>
    exact regular.setMember found rfl (by rw [approved]; rfl) fun _ wrong => by cases wrong
  | register found attached outcome =>
    obtain ⟨me, made⟩ := regular.housed.handles _ _ _ found (by rw [attached]; rfl)
    refine regular.settle found (by rw [attached]; rfl) ?_
    rcases Session.register_cases _ made outcome with ⟨error, rfl, rfl⟩ | ⟨place, rfl, registers⟩
    · exact .inl ⟨error, rfl, .refl _⟩
    · exact .inr ⟨_, rfl, me, registers.joins made⟩
  | tell found inside outcome =>
    obtain ⟨-, made⟩ := regular.housed.session_of found inside
    exact Session.tell_invariant (fun host log => Regular base { meeting with host, log }) made outcome
      (fun _ refuses => regular.refuses refuses) fun _ _ _ listed posts => regular.posts listed posts
  | say found inside outcome =>
    obtain ⟨-, made⟩ := regular.housed.session_of found inside
    refine Session.say_invariant (fun host log => Regular base { meeting with host, log }) meeting.log
      made outcome regular (fun _ _ _ _ held refuses => held.refuses refuses) ?_
    intro middle log target bytes slot last members held listed posts
    exact held.posts (members.registry _ ▸ listed) posts
  | @handle id member session envelope later answer after found inside receives queued outcome =>
    have kept := regular.keep member.channel later
    obtain ⟨-, made⟩ := kept.housed.session_of found inside
    rcases Session.handle_cases made outcome with ⟨-, -, rfl | sent⟩ | ⟨slot, -, takes⟩
    · exact ⟨kept.wired.of_carrier rfl, kept.housed.carry _⟩
    · exact kept.notify sent
    · exact kept.takes takes
  | leave found inside outcome =>
    obtain ⟨me, made⟩ := regular.housed.session_of found inside
    subst me
    exact regular.vacates found inside (Session.leave_vacates made outcome)
  | forge sent =>
    exact ⟨regular.wired.notify sent, regular.housed.carry _⟩
  | nothing => exact regular

end Regular

end Meeting

end HostChat
