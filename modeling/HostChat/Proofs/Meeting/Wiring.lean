import HostChat.Proofs.Meeting.System

/-! # Participants and their channels

Every participant has a channel of its own, and whatever is sent to a participant goes to the end of
that channel. So the inboxes of all others stay as they are.
-/

namespace HostChat

namespace Meeting

variable {meeting next : Meeting} {id other sender target : ParticipantId} {member changed : Member}
  {notification : Notification} {carrier : Exchange}

/-- Nobody shares a channel, and every route leads to the channel of its participant. -/
structure Wired (meeting : Meeting) : Prop where
  made : ∀ id member, meeting.members.find? id = some member →
    member.channel < meeting.host.carrier.channels.size
  apart : ∀ first second one two, meeting.members.find? first = some one →
    meeting.members.find? second = some two → one.channel = two.channel → first = second
  routed : ∀ id number, meeting.host.carrier.routes.find? id = some number →
    ∃ member, meeting.members.find? id = some member ∧ member.channel = number

theorem find?_setMember (meeting : Meeting) (id other : ParticipantId) (member : Member) :
    (meeting.setMember id member).members.find? other =
      if id = other then some member else meeting.members.find? other :=
  Table.find?_insert _ _ _ _

theorem find?_setMember_of_ne (different : id ≠ other) (member : Member) :
    (meeting.setMember id member).members.find? other = meeting.members.find? other := by
  rw [find?_setMember, if_neg different]

theorem queue_of (found : meeting.members.find? id = some member) :
    meeting.queue id = meeting.host.carrier.queue member.channel := by
  rw [queue, found]
  rfl

theorem queue_setMember (found : meeting.members.find? id = some member)
    (channel : changed.channel = member.channel) (other : ParticipantId) :
    (meeting.setMember id changed).queue other = meeting.queue other := by
  simp only [queue, find?_setMember]
  split_ifs with same
  · rw [← same, found, Option.elim_some, Option.elim_some, channel]
    rfl
  · rfl

/-- Whoever comes for the first time finds an empty inbox, and the other inboxes are as they were. -/
theorem queue_connect (new : meeting.members.find? id = none) (other : ParticipantId) :
    ((meeting.carry (meeting.host.carrier.connect id).2).setMember id
      ⟨meeting.host.carrier.channels.size, true, false, .outside⟩).queue other =
        meeting.queue other := by
  simp only [queue, find?_setMember]
  split_ifs with same
  · rw [← same, new]
    exact (Exchange.queue_connect ..).trans (by simp [Exchange.queue])
  · cases found : meeting.members.find? other with
    | none => simp only [Meeting.carry, found, Option.elim_none]
    | some own =>
      simp only [Meeting.carry, found, Option.elim_some]
      exact Exchange.queue_connect ..

theorem queue_close (meeting : Meeting) (number : Nat) (other : ParticipantId) :
    (meeting.carry (meeting.host.carrier.close number)).queue other = meeting.queue other := by
  simp only [queue, Meeting.carry]
  congr 1
  funext own
  exact Exchange.queue_modifyChannel_of_queue _ fun _ => rfl

/-- Inboxes are a matter of the carrier alone. -/
theorem queue_of_carrier {host : Host Exchange} {log : List Entry}
    (same : host.carrier = meeting.host.carrier) (other : ParticipantId) :
    queue { meeting with host, log } other = meeting.queue other := by
  simp only [queue, same]

theorem queue_record {host : Host Exchange} (entries : List Entry)
    (same : host.carrier = meeting.host.carrier) (other : ParticipantId) :
    (meeting.record host entries).queue other = meeting.queue other :=
  queue_of_carrier same other

theorem queue_settle (found : meeting.members.find? id = some member)
    {result : Except ChatError Session} {after : Host Exchange}
    (carrier : after.carrier = meeting.host.carrier) (other : ParticipantId) :
    (meeting.settle id member result after).queue other = meeting.queue other := by
  have same : queue { meeting with host := after } other = meeting.queue other :=
    queue_of_carrier carrier other
  have there : ({ meeting with host := after } : Meeting).members.find? id = some member := found
  rw [← same]
  cases result with
  | ok session =>
    apply queue_setMember there
    rfl
  | error error =>
    apply queue_setMember there
    rfl

theorem session?_of (found : meeting.members.find? id = some member) :
    meeting.session? id = member.phase.session? := by
  rw [session?, found]
  rfl

theorem session?_setMember (meeting : Meeting) (id : ParticipantId) (member : Member)
    (other : ParticipantId) :
    (meeting.setMember id member).session? other =
      if id = other then member.phase.session? else meeting.session? other := by
  simp only [session?, find?_setMember]
  split_ifs <;> rfl

theorem session?_eq_some {session : Session} (inside : meeting.session? id = some session) :
    ∃ member, meeting.members.find? id = some member ∧ member.phase = .inside session := by
  obtain ⟨member, found, phase⟩ := Option.bind_eq_some_iff.mp inside
  exact ⟨member, found, Phase.session?_eq_some_iff.mp phase⟩

namespace Wired

theorem start (stores : Directory Store) (locks : Directory Nat) :
    (Meeting.start stores locks).Wired where
  made _ _ found := by cases found
  apart _ _ _ _ found := by cases found
  routed _ _ found := by cases found

/-- A carrier with the same channels and no more routes. -/
theorem carry (wired : meeting.Wired) {host : Host Exchange} {log : List Entry}
    (size : host.carrier.channels.size = meeting.host.carrier.channels.size)
    (routes : ∀ id number, host.carrier.routes.find? id = some number →
      meeting.host.carrier.routes.find? id = some number) :
    Wired { meeting with host, log } where
  made id member found := by
    rw [size]
    exact wired.made id member found
  apart := wired.apart
  routed id number route := wired.routed id number (routes id number route)

theorem of_carrier (wired : meeting.Wired) {host : Host Exchange} {log : List Entry}
    (same : host.carrier = meeting.host.carrier) : Wired { meeting with host, log } :=
  wired.carry (by rw [same]) fun id number route => same ▸ route

theorem setMember (wired : meeting.Wired) (found : meeting.members.find? id = some member)
    (channel : changed.channel = member.channel) : (meeting.setMember id changed).Wired where
  made other own there := by
    rw [find?_setMember] at there
    split_ifs at there with same
    · cases there
      rw [channel]
      exact wired.made id member found
    · exact wired.made other own there
  apart first second one two foundOne foundTwo equal := by
    rw [find?_setMember] at foundOne foundTwo
    split_ifs at foundOne foundTwo with sameOne sameTwo sameTwo
    · exact sameOne.symm.trans sameTwo
    · cases foundOne
      rw [channel] at equal
      exact sameOne.symm.trans (wired.apart id second member two found foundTwo equal)
    · cases foundTwo
      rw [channel] at equal
      exact (wired.apart first id one member foundOne found equal).trans sameTwo
    · exact wired.apart first second one two foundOne foundTwo equal
  routed other number route := by
    obtain ⟨own, there, equal⟩ := wired.routed other number route
    rw [find?_setMember]
    split_ifs with same
    · subst same
      rw [found, Option.some.injEq] at there
      exact ⟨changed, rfl, by rw [channel, there, equal]⟩
    · exact ⟨own, there, equal⟩

theorem connect (wired : meeting.Wired) (id : ParticipantId) :
    ((meeting.carry (meeting.host.carrier.connect id).2).setMember id
      ⟨meeting.host.carrier.channels.size, true, false, .outside⟩).Wired where
  made other own there := by
    have size : (meeting.host.carrier.connect id).2.channels.size =
        meeting.host.carrier.channels.size + 1 := Array.size_push ..
    change own.channel < (meeting.host.carrier.connect id).2.channels.size
    rw [find?_setMember] at there
    rw [size]
    split_ifs at there
    · cases there
      exact Nat.lt_succ_self _
    · exact Nat.lt_succ_of_lt (wired.made other own there)
  apart first second one two foundOne foundTwo equal := by
    rw [find?_setMember] at foundOne foundTwo
    split_ifs at foundOne foundTwo with sameOne sameTwo sameTwo
    · exact sameOne.symm.trans sameTwo
    · cases foundOne
      exact absurd (equal ▸ wired.made second two foundTwo) (Nat.lt_irrefl _)
    · cases foundTwo
      exact absurd (equal ▸ wired.made first one foundOne) (Nat.lt_irrefl _)
    · exact wired.apart first second one two foundOne foundTwo equal
  routed other number route := by
    change (meeting.host.carrier.routes.insert id meeting.host.carrier.channels.size).find? other =
      some number at route
    rw [Table.find?_insert] at route
    rw [find?_setMember]
    split_ifs at route ⊢ with same
    · cases route
      exact ⟨_, rfl, rfl⟩
    · exact wired.routed other number route

/-- Changes of one channel leave the inboxes of all others alone. -/
theorem queue_other (wired : meeting.Wired) (found : meeting.members.find? id = some member)
    (different : other ≠ id)
    (spares : ∀ number, number ≠ member.channel →
      carrier.queue number = meeting.host.carrier.queue number) :
    (meeting.carry carrier).queue other = meeting.queue other := by
  simp only [queue, Meeting.carry]
  cases there : meeting.members.find? other with
  | none => rfl
  | some own =>
    refine spares own.channel fun equal => ?_
    exact different (wired.apart other id own member there found equal)

/-- What a participant leaves in its inbox stays there. -/
theorem queue_keep (wired : meeting.Wired) (found : meeting.members.find? id = some member)
    (kept : List Envelope) (other : ParticipantId) :
    (meeting.carry (meeting.host.carrier.keep member.channel kept)).queue other =
      if other = id then kept else meeting.queue other := by
  have queues (number : Nat) : (meeting.host.carrier.keep member.channel kept).queue number =
      if number = member.channel then kept else meeting.host.carrier.queue number :=
    Exchange.queue_keep kept (wired.made id member found)
  split_ifs with same
  · have there : (meeting.carry (meeting.host.carrier.keep member.channel kept)).members.find? other =
        some member := same ▸ found
    rw [queue_of there]
    exact (queues member.channel).trans (if_pos rfl)
  · exact wired.queue_other found same fun number different => by rw [queues, if_neg different]

/-- What was handled is taken out of one inbox. -/
theorem queue_handled (wired : meeting.Wired) (found : meeting.members.find? id = some member)
    {host : Host Exchange} {kept : List Envelope} (entries : List Entry)
    (same : host.carrier = meeting.host.carrier.keep member.channel kept) (other : ParticipantId) :
    (meeting.record host entries).queue other = if other = id then kept else meeting.queue other := by
  rw [← wired.queue_keep found]
  have carried : host.carrier =
    (meeting.carry (meeting.host.carrier.keep member.channel kept)).host.carrier := same
  exact queue_of_carrier carried other

theorem queue_drop (wired : meeting.Wired) (found : meeting.members.find? id = some member)
    (other : ParticipantId) :
    (meeting.carry (meeting.host.carrier.drop member.channel)).queue other =
      if other = id then [] else meeting.queue other := by
  split_ifs with same
  · have there : (meeting.carry (meeting.host.carrier.drop member.channel)).members.find? other =
        some member := same ▸ found
    rw [queue_of there]
    exact (Exchange.queue_drop ..).trans (if_pos rfl)
  · exact wired.queue_other found same fun number different => by
      rw [Exchange.queue_drop, if_neg different]

/-- A notification that is sent is the last one in the inbox of its target. -/
theorem queue_notify (wired : meeting.Wired) {host : Host Exchange} {log : List Entry}
    (sent : Carrier.notify meeting.host.carrier sender target notification = .ok host.carrier)
    (other : ParticipantId) :
    queue { meeting with host, log } other =
      if other = target then meeting.queue other ++ [⟨sender, notification⟩]
      else meeting.queue other := by
  obtain ⟨number, route, -, -, queues⟩ := Exchange.notify_eq_ok sent
  obtain ⟨member, found, channel⟩ := wired.routed target number route
  split_ifs with same
  · subst same
    have there : ({ meeting with host, log } : Meeting).members.find? other = some member := found
    rw [queue_of there, queue_of found, channel]
    change host.carrier.queue number = _
    rw [queues, if_pos rfl]
  · refine wired.queue_other found same fun other different => ?_
    rw [queues, if_neg (channel ▸ different)]

theorem queue_record (wired : meeting.Wired) {host : Host Exchange} (entries : List Entry)
    (sent : Carrier.notify meeting.host.carrier sender target notification = .ok host.carrier)
    (other : ParticipantId) :
    (meeting.record host entries).queue other =
      if other = target then meeting.queue other ++ [⟨sender, notification⟩]
      else meeting.queue other :=
  wired.queue_notify sent other

theorem notify (wired : meeting.Wired) {host : Host Exchange} {log : List Entry}
    (sent : Carrier.notify meeting.host.carrier sender target notification = .ok host.carrier) :
    Wired { meeting with host, log } := by
  obtain ⟨number, -, routes, size, -⟩ := Exchange.notify_eq_ok sent
  exact wired.carry size fun id number route => routes ▸ route

theorem settle (wired : meeting.Wired) (found : meeting.members.find? id = some member)
    {result : Except ChatError Session} {after : Host Exchange}
    (carrier : after.carrier = meeting.host.carrier) : (meeting.settle id member result after).Wired := by
  have carried : Wired { meeting with host := after } := wired.of_carrier carrier
  cases result with
  | ok session => exact carried.setMember found rfl
  | error error => exact carried.setMember found rfl

end Wired

end Meeting

end HostChat
