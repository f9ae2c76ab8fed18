import HostChat.Proofs.Meeting.Order

/-! # Waiting for a notification

A notification in an inbox waits for its recipient to take what lies before it. Whatever all others do
meanwhile, the inbox only grows at its end, and the recipient obtains nothing by it. So once those
before it are taken, the notification is the next one, and the message that it was sent with is the
oldest of the backlog.
-/

namespace HostChat

namespace Turn

/-- The participant leaves its room or gives up its inbox. -/
def departs (id : ParticipantId) (turn : Turn) : Bool :=
  match turn.deed with
  | .leave | .drop => turn.id == id
  | _ => false

/-- The participant takes the next envelope out of its inbox. -/
def takes (id : ParticipantId) (turn : Turn) : Bool :=
  match turn.deed with
  | .handle => turn.id == id
  | _ => false

theorem takes_iff {id : ParticipantId} {turn : Turn} :
    turn.takes id = true ↔ turn = ⟨id, .handle⟩ := by
  obtain ⟨other, deed⟩ := turn
  cases deed <;> simp [takes]

end Turn

namespace Meeting

variable {base : Nat} {meeting middle next : Meeting} {id other sender target : ParticipantId}
  {member changed : Member} {session : Session} {posting : Posting} {ahead : List Envelope}
  {notification : Notification} {after : Host Exchange} {log : List Entry} {turn : Turn}

/-- What happens to a participant while it takes nothing and stays where it is. -/
structure Grows (id : ParticipantId) (meeting next : Meeting) : Prop where
  member : next.members.find? id = meeting.members.find? id
  queue : meeting.queue id <+: next.queue id
  log : ∃ entries, next.log = meeting.log ++ entries ∧ obtainedBy id entries = []

namespace Grows

theorem of_queue (member : next.members.find? id = meeting.members.find? id)
    (queue : next.queue id = meeting.queue id) (log : next.log = meeting.log) :
    Grows id meeting next :=
  ⟨member, queue ▸ List.prefix_rfl, [], by rw [log, List.append_nil], rfl⟩

theorem refl (id : ParticipantId) (meeting : Meeting) : Grows id meeting meeting :=
  of_queue rfl rfl rfl

/-- Others move as they like. -/
theorem setMember (grows : Grows id meeting next) (found : next.members.find? other = some member)
    (channel : changed.channel = member.channel) (different : other ≠ id) :
    Grows id meeting (next.setMember other changed) where
  member := (find?_setMember_of_ne different changed).trans grows.member
  queue := by
    rw [queue_setMember found channel]
    exact grows.queue
  log := grows.log

theorem carrier (grows : Grows id meeting next) (same : after.carrier = next.host.carrier) :
    Grows id meeting { next with host := after } where
  member := grows.member
  queue := by
    rw [queue_of_carrier same]
    exact grows.queue
  log := grows.log

theorem settle (found : meeting.members.find? other = some member) (different : other ≠ id)
    {result : Except ChatError Session} (same : after.carrier = meeting.host.carrier) :
    Grows id meeting (meeting.settle other member result after) := by
  have carried : Grows id meeting { meeting with host := after } := (refl id meeting).carrier same
  cases result with
  | ok session => exact carried.setMember found rfl different
  | error error => exact carried.setMember found rfl different

/-- A notification goes to the end of one inbox. -/
theorem notify (grows : Grows id meeting next) (wired : next.Wired)
    (sent : Carrier.notify next.host.carrier sender target notification = .ok after.carrier) :
    Grows id meeting { next with host := after } where
  member := grows.member
  queue := by
    refine grows.queue.trans ?_
    rw [wired.queue_notify sent]
    split_ifs
    · exact List.prefix_append ..
    · exact List.prefix_rfl
  log := grows.log

theorem record (grows : Grows id meeting { meeting with host := after, log }) {entries : List Entry}
    (nothing : obtainedBy id entries = []) :
    Grows id meeting { meeting with host := after, log := log ++ entries } where
  member := grows.member
  queue := grows.queue
  log := by
    obtain ⟨earlier, same, none⟩ := grows.log
    refine ⟨earlier ++ entries, ?_, by rw [obtainedBy_append, none, nothing, List.append_nil]⟩
    rw [← List.append_assoc]
    exact congrArg (· ++ entries) same

end Grows

/-- What refusals and acceptances of the messages of others do to a participant. -/
private theorem grows_tell {result : Except ChatError (Fin mailboxSlots)} {text : String}
    (wired : meeting.Wired) (made : session.room.store < meeting.host.stores.objects.size)
    (outcome : session.tell target text meeting.host = some (result, after)) :
    Grows id meeting (meeting.record after (session.told target (Text.utf8 text) result)) := by
  have before := Grows.refl id meeting
  refine Session.tell_invariant (fun host log => Grows id meeting { meeting with host, log }) made
    outcome (fun last refuses => before.carrier refuses.carrier) fun bytes slot last _ posts => ?_
  have notified : Grows id meeting { meeting with host := last } := before.notify wired posts.sent
  exact notified.record (obtainedBy_accepted ..)

private theorem grows_say {result : Except ChatError Broadcast} {text : String}
    (wired : meeting.Wired) (made : session.room.store < meeting.host.stores.objects.size)
    (outcome : session.say text meeting.host = some (result, after)) :
    Grows id meeting (meeting.record after (session.said text meeting.host)) := by
  refine (Session.say_invariant (fun host log => Wired { meeting with host, log } ∧
    Grows id meeting { meeting with host, log }) meeting.log made outcome ⟨wired, .refl id meeting⟩
      (fun middle log last _ held refuses => ?_) fun middle log _ _ _ last _ held _ posts => ?_).2
  · obtain ⟨wired, grows⟩ := held
    exact ⟨wired.of_carrier refuses.carrier, grows.carrier refuses.carrier⟩
  · obtain ⟨wired, grows⟩ := held
    have notified : Grows id meeting { meeting with host := last, log } := grows.notify wired posts.sent
    exact ⟨wired.notify posts.sent, notified.record (obtainedBy_accepted ..)⟩

/-- An envelope is handled by somebody else. -/
private theorem grows_handle {envelope : Envelope} {later : List Envelope} {answer : Option Message}
    (regular : meeting.Regular base) (found : meeting.members.find? other = some member)
    (inside : member.phase = .inside session) (different : other ≠ id)
    (outcome : session.handle envelope { meeting.host with
      carrier := meeting.host.carrier.keep member.channel later } = some (answer, after)) :
    Grows id meeting (meeting.record after (session.handled envelope.notification answer)) := by
  have kept := regular.keep member.channel later
  obtain ⟨me, made⟩ := kept.housed.session_of found inside
  have carried : Grows id meeting
      (meeting.carry (meeting.host.carrier.keep member.channel later)) := by
    refine Grows.of_queue rfl ?_ rfl
    rw [regular.wired.queue_keep found, if_neg (Ne.symm different)]
  rcases Session.handle_cases made outcome with ⟨-, nothing, rest⟩ | ⟨slot, announces, takes⟩
  · rw [nothing, record_nil]
    rcases rest with rfl | sent
    · exact carried
    · obtain ⟨carrier, notified, rfl⟩ := Host.notify_eq_ok sent
      exact carried.notify kept.wired notified
  · have handled : Grows id meeting { meeting with host := after } := by
      refine Grows.of_queue rfl ?_ rfl
      have queues := regular.wired.queue_handled found [] takes.carrier id
      rwa [record_nil, if_neg (Ne.symm different)] at queues
    refine handled.record ?_
    rw [announces]
    cases answer with
    | none => rfl
    | some message => rw [Session.handled, obtainedBy_returned, me, if_neg different]

/-- Whatever is done, a participant that is inside a room stays there, and finds its inbox longer at
most, unless it departs or takes something itself. -/
theorem grows_of_moves (regular : meeting.Regular base) (inside : meeting.session? id = some session)
    (moves : meeting.Moves turn next) (stays : turn.departs id = false)
    (waits : turn.takes id = false) : Grows id meeting next := by
  have wired := regular.wired
  obtain ⟨own, there, within⟩ := session?_eq_some inside
  -- whoever is not inside is somebody else
  have elsewhere {other : ParticipantId} {member : Member}
      (found : meeting.members.find? other = some member) (outside : member.phase.session? = none) :
      other ≠ id := by
    rintro rfl
    cases found.symm.trans there
    rw [within] at outside
    cases outside
  cases moves with
  | connect new =>
    refine .of_queue (find?_setMember_of_ne ?_ _) (queue_connect new id) rfl
    rintro rfl
    cases new.symm.trans there
  | disconnect => exact .of_queue rfl rfl rfl
  | close => exact .of_queue rfl (queue_close ..) rfl
  | @drop other member found =>
    have different : other ≠ id := by simpa [Turn.departs] using stays
    have dropped : Grows id meeting
        (meeting.carry (meeting.host.carrier.drop member.channel)) := by
      refine .of_queue rfl ?_ rfl
      rw [wired.queue_drop found, if_neg (Ne.symm different)]
    exact dropped.setMember found rfl different
  | create found outside outcome =>
    have different := elsewhere found (by rw [outside]; rfl)
    rcases Session.create_forgets_or_opens outcome with
      ⟨error, rfl, forgets⟩ | ⟨session, _, _, rfl, -, opens⟩
    · exact .settle found different forgets.spares.carrier
    · exact .settle found different opens.carrier
  | request found outside requested =>
    obtain ⟨carrier, notified, rfl⟩ := Host.notify_eq_ok (Session.requestJoin_eq_ok requested)
    have asked : Grows id meeting (meeting.carry carrier) :=
      (Grows.refl id meeting).notify wired notified
    exact asked.setMember found rfl (elsewhere found (by rw [outside]; rfl))
  | @wait other member ns answer queue found waiting awaited =>
    have different := elsewhere found (by rw [waiting]; rfl)
    have kept : Grows id meeting
        (meeting.carry (meeting.host.carrier.keep member.channel queue)) := by
      refine .of_queue rfl ?_ rfl
      rw [wired.queue_keep found, if_neg (Ne.symm different)]
    exact kept.setMember found rfl different
  | attach found approved attached =>
    exact (Grows.refl id meeting).setMember found rfl (elsewhere found (by rw [approved]; rfl))
  | astray found approved =>
    exact (Grows.refl id meeting).setMember found rfl (elsewhere found (by rw [approved]; rfl))
  | register found attached outcome =>
    have different := elsewhere found (by rw [attached]; rfl)
    obtain ⟨-, made⟩ := regular.housed.handles _ _ _ found (by rw [attached]; rfl)
    rcases Session.register_cases _ made outcome with ⟨error, rfl, rfl⟩ | ⟨place, rfl, registers⟩
    · exact .settle found different rfl
    · exact .settle found different registers.carrier
  | tell found inside outcome =>
    obtain ⟨-, made⟩ := regular.housed.session_of found inside
    exact grows_tell wired made outcome
  | say found inside outcome =>
    obtain ⟨-, made⟩ := regular.housed.session_of found inside
    exact grows_say wired made outcome
  | handle found inside receives queued outcome =>
    exact grows_handle regular found inside (by simpa [Turn.takes] using waits) outcome
  | @leave other member session result after found inside outcome =>
    obtain ⟨me, made⟩ := regular.housed.session_of found inside
    have vacates := Session.leave_vacates made outcome
    have left : Grows id meeting { meeting with host := after } :=
      (Grows.refl id meeting).carrier vacates.carrier
    exact (left.record (obtainedBy_left ..)).setMember found rfl
      (by simpa [Turn.departs] using stays)
  | forge sent => exact (Grows.refl id meeting).notify wired sent
  | nothing => exact .refl id meeting

theorem session?_of_inside (found : meeting.members.find? id = some member)
    (inside : member.phase = .inside session) : meeting.session? id = some session := by
  rw [session?_of found, inside]
  rfl

/-- A notification waits in the inbox of a participant that can take it, behind others, and its
message comes in the backlog after the messages of those. -/
structure Awaits (meeting : Meeting) (id : ParticipantId) (posting : Posting)
    (ahead : List Envelope) : Prop where
  attends : ∃ member session, meeting.members.find? id = some member ∧
    member.phase = .inside session ∧ member.receives = true
  queued : ahead ++ [⟨posting.message.sender, .messageReady posting.slot⟩] <+: meeting.queue id
  turn : (sentTo id meeting.log)[(obtainedBy id meeting.log).length + (announced ahead).length]? =
    some posting

/-- The notification of a message waits behind all that was in the inbox when the message was
accepted. -/
theorem awaits_of_posts {text : List UInt8} {slot : Fin mailboxSlots} {theirs : Session}
    (ordered : meeting.Ordered base) (inside : meeting.session? id = some theirs)
    (found : meeting.members.find? id = some member) (receives : member.receives = true)
    (posts : session.Posts id text slot meeting.host after) :
    (meeting.record after [.accepted (session.posting id text slot)]).Awaits id
      (session.posting id text slot) (meeting.queue id) where
  attends := by
    obtain ⟨own, there, within⟩ := session?_eq_some inside
    cases found.symm.trans there
    exact ⟨member, theirs, found, within, receives⟩
  queued := by
    rw [ordered.regular.wired.queue_record _ posts.sent, if_pos rfl]
    exact List.prefix_rfl
  turn := by
    obtain ⟨-, waiting, backlog⟩ := ordered.backlog_of inside found receives
    have recipient : (session.posting id text slot).message.recipient = id := rfl
    simp only [record_log, sentTo_append, obtainedBy_append, sentTo_accepted, obtainedBy_accepted,
      if_pos recipient, List.append_nil, backlog.sent, backlog.announced, List.length_map]
    rw [← List.length_append, List.getElem?_append_right (Nat.le_refl _), Nat.sub_self]
    rfl

namespace Awaits

theorem grows (awaits : meeting.Awaits id posting ahead) (grows : Grows id meeting next) :
    next.Awaits id posting ahead where
  attends := by
    rw [grows.member]
    exact awaits.attends
  queued := awaits.queued.trans grows.queue
  turn := by
    obtain ⟨entries, same, nothing⟩ := grows.log
    have turn := awaits.turn
    rw [same, obtainedBy_append, nothing, List.append_nil, sentTo_append]
    rw [List.getElem?_append_left (List.getElem?_eq_some_iff.mp turn).1, turn]

/-- A notification that nothing lies before is the next one, and handling it gives its message. -/
theorem head (awaits : meeting.Awaits id posting []) (ordered : meeting.Ordered base) :
    ∃ member session later after, meeting.members.find? id = some member ∧
      member.phase = .inside session ∧ member.receives = true ∧
        meeting.host.carrier.queue member.channel =
          ⟨posting.message.sender, .messageReady posting.slot⟩ :: later ∧
        session.handle ⟨posting.message.sender, .messageReady posting.slot⟩ { meeting.host with
          carrier := meeting.host.carrier.keep member.channel later } =
            some (some posting.message, after) := by
  obtain ⟨member, session, found, inside, receives⟩ := awaits.attends
  obtain ⟨later, queued⟩ := awaits.queued
  have first : meeting.queue id = ⟨posting.message.sender, .messageReady posting.slot⟩ :: later :=
    queued.symm
  obtain ⟨message, after, handled, turn⟩ :=
    ordered.handle_head (session?_of_inside found inside) found receives first
  have same : posting.message = message :=
    congrArg Posting.message (Option.some.inj (awaits.turn.symm.trans turn))
  refine ⟨member, session, later, after, found, inside, receives, ?_, ?_⟩
  · exact (queue_of found).symm.trans first
  · rw [handled, same]

/-- What lies before a notification is taken. If it is a notification of a message, too, that message
is obtained. -/
theorem handles {envelope first : Envelope} {later : List Envelope} {answer : Option Message}
    (awaits : meeting.Awaits id posting (first :: ahead)) (ordered : meeting.Ordered base)
    (found : meeting.members.find? id = some member) (inside : member.phase = .inside session)
    (receives : member.receives = true)
    (queued : meeting.host.carrier.queue member.channel = envelope :: later)
    (outcome : session.handle envelope { meeting.host with
      carrier := meeting.host.carrier.keep member.channel later } = some (answer, after)) :
    (meeting.record after (session.handled envelope.notification answer)).Awaits id posting ahead := by
  have wired := ordered.regular.wired
  have kept := ordered.regular.keep member.channel later
  have own : meeting.queue id = envelope :: later := (queue_of found).trans queued
  have front := awaits.queued
  rw [own, List.cons_append, List.cons_prefix_cons] at front
  obtain ⟨rfl, front⟩ := front
  have turn := awaits.turn
  obtain ⟨me, made⟩ := kept.housed.session_of found inside
  rcases Session.handle_cases made outcome with ⟨idle, nothing, rest⟩ | ⟨slot, announces, takes⟩
  · have carried : (meeting.carry (meeting.host.carrier.keep member.channel later)).Awaits id posting
        ahead := by
      refine ⟨⟨member, session, found, inside, receives⟩, ?_, ?_⟩
      · rwa [wired.queue_keep found, if_pos rfl]
      · rwa [announced_cons_of_ne _ idle] at turn
    rw [nothing, record_nil]
    rcases rest with rfl | sent
    · exact carried
    · obtain ⟨carrier, notified, rfl⟩ := Host.notify_eq_ok sent
      exact carried.grows ((Grows.refl id _).notify kept.wired notified)
  · obtain ⟨sender, notification⟩ := first
    cases announces
    obtain ⟨message, last, handled, -⟩ :=
      ordered.handle_head (session?_of_inside found inside) found receives own
    cases handled.symm.trans outcome
    refine ⟨⟨member, session, found, inside, receives⟩, ?_, ?_⟩
    · rwa [wired.queue_handled found _ takes.carrier, if_pos rfl]
    · rw [announced_cons_messageReady, List.length_cons] at turn
      simp only [record_log, Session.handled, sentTo_append, sentTo_returned, obtainedBy_append,
        obtainedBy_returned, if_pos me, List.append_nil, List.length_append, List.length_singleton]
      rwa [Nat.add_assoc, Nat.add_comm 1]

end Awaits

/-- Taking an envelope is handling it. -/
theorem handle_of_step (stepped : meeting.step ⟨id, .handle⟩ = some next) :
    ∃ member session envelope later answer after, meeting.members.find? id = some member ∧
      member.phase = .inside session ∧ member.receives = true ∧
        meeting.host.carrier.queue member.channel = envelope :: later ∧
        session.handle envelope { meeting.host with
          carrier := meeting.host.carrier.keep member.channel later } = some (answer, after) ∧
            next = meeting.record after (session.handled envelope.notification answer) := by
  simp only [step] at stepped
  cases found : meeting.members.find? id with
  | none =>
    simp only [found] at stepped
    cases stepped
  | some member =>
    simp only [found, perform] at stepped
    split at stepped
    next session envelope carrier inside receives received =>
      obtain ⟨later, queued, rfl⟩ := Exchange.receive_eq_some received
      obtain ⟨⟨answer, after⟩, outcome, rfl⟩ := Option.map_eq_some_iff.mp stepped
      exact ⟨member, session, envelope, later, answer, after, rfl, inside, receives, queued, outcome,
        rfl⟩
    next => cases stepped

/-- The policy of `honest` meetings in which a participant stays and keeps its inbox. -/
def attended (id : ParticipantId) (meeting : Meeting) (turn : Turn) : Bool :=
  honest meeting turn && !turn.departs id

/-- Each envelope that its recipient takes brings a notification forward by one place. -/
theorem Awaits.replay {turns : List Turn} {final : Meeting}
    (awaits : meeting.Awaits id posting ahead) (ordered : meeting.Ordered base)
    (run : replay? (restrict (attended id) step) meeting turns = some final)
    (few : turns.countP (·.takes id) ≤ ahead.length) :
    final.Ordered base ∧ final.Awaits id posting (ahead.drop (turns.countP (·.takes id))) := by
  induction turns generalizing meeting ahead with
  | nil =>
    cases run
    exact ⟨ordered, awaits⟩
  | cons turn rest ih =>
    obtain ⟨next, stepped, run⟩ := Option.bind_eq_some_iff.mp run
    obtain ⟨allowed, stepped⟩ := restrict_eq_some_iff.mp stepped
    obtain ⟨honest, stays⟩ := Bool.and_eq_true_iff.mp allowed
    have after := ordered.step honest (moves_of_step stepped)
    by_cases takes : turn.takes id = true
    · rw [List.countP_cons_of_pos takes] at few ⊢
      obtain rfl := Turn.takes_iff.mp takes
      obtain ⟨member, session, envelope, later, answer, host, found, inside, receives, queued, outcome,
        rfl⟩ := handle_of_step stepped
      cases ahead with
      | nil => cases few
      | cons first ahead =>
        exact ih (awaits.handles ordered found inside receives queued outcome) after run
          (Nat.le_of_succ_le_succ few)
    · rw [List.countP_cons_of_neg takes] at few ⊢
      obtain ⟨member, session, found, inside, -⟩ := awaits.attends
      have grown := grows_of_moves ordered.regular (session?_of_inside found inside)
        (moves_of_step stepped) (by simpa using stays) (by simpa using takes)
      exact ih (awaits.grows grown) after run few

theorem ordered_of_replay {stores : Directory Store} {locks : Directory Nat} {turns : List Turn}
    {final : Meeting} (nameless : (start stores locks).host.Nameless)
    (run : replay? (restrict honest step) (start stores locks) turns = some final) :
    final.Ordered stores.objects.size := by
  refine replay?_invariant _ (fun meeting turn next ordered stepped => ?_) (.start nameless) run
  obtain ⟨allowed, stepped⟩ := restrict_eq_some_iff.mp stepped
  exact ordered.step allowed (moves_of_step stepped)

end Meeting

end HostChat
