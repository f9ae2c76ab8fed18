import HostChat.Proofs.Meeting.Housing

/-! # Every accepted message has one fate

A message that was accepted lies in its slot with a notification of it on the way, or was returned to
its recipient, or was discarded when its recipient left. Notifications from nowhere, slots that are used
again and participants that come and go do not change that: a notification may be late or idle, but
the one that was sent with a message is not taken out of the inbox before the message is.
-/

namespace HostChat

/-- One of three, and not two of them. -/
def ExactlyOne (first second third : Prop) : Prop :=
  (first ∧ ¬second ∧ ¬third) ∨ (¬first ∧ second ∧ ¬third) ∨ (¬first ∧ ¬second ∧ third)

namespace Meeting

variable {base : Nat} {initial : Contents} {meeting next : Meeting} {id : ParticipantId}
  {member : Member} {session : Session} {after : Host Exchange} {log : List Entry} {turn : Turn}
  {posting : Posting}

/-- The policy that whoever is inside a room keeps its inbox. -/
def keepsInbox (meeting : Meeting) (turn : Turn) : Bool :=
  match turn.deed with
  | .drop => (meeting.session? turn.id).isNone
  | _ => true

/-- A notification of the message is in its recipient's inbox. -/
def Announced (posting : Posting) (meeting : Meeting) : Prop :=
  ∃ sender, ⟨sender, .messageReady posting.slot⟩ ∈ meeting.queue posting.message.recipient

/-- Since the entries `later` began, the message lies in its slot, and it will be announced. -/
def Waiting (posting : Posting) (later : List Entry) (meeting : Meeting) : Prop :=
  posting.Untouched later ∧
    meeting.host.contents posting.store posting.slot = some posting.message ∧
      Announced posting meeting

/-- The ledger tells what lies in the slots, and all of it is announced. -/
structure Accounted (base : Nat) (initial : Contents) (meeting : Meeting) : Prop where
  regular : meeting.Regular base
  logged : replay? Entry.effect? initial meeting.log = some meeting.host.contents
  announced : ∀ posting : Posting, base ≤ posting.store →
    meeting.host.contents posting.store posting.slot = some posting.message →
      Announced posting meeting

namespace Accounted

theorem start (stores : Directory Store) (locks : Directory Nat) :
    (Meeting.start stores locks).Accounted stores.objects.size
      (Meeting.start stores locks).host.contents where
  regular := .start stores locks
  logged := rfl
  announced posting beyond lies := by
    rw [Host.contents_of_size_le beyond] at lies
    cases lies

theorem logged_append (accounted : meeting.Accounted base initial) {entries : List Entry}
    (applied : replay? Entry.effect? meeting.host.contents entries = some after.contents) :
    replay? Entry.effect? initial (meeting.log ++ entries) = some after.contents := by
  rw [replay?_append_eq_some_iff]
  exact ⟨_, accounted.logged, applied⟩

theorem logged_concat (accounted : meeting.Accounted base initial) {entry : Entry}
    (applied : entry.effect? meeting.host.contents = some after.contents) :
    replay? Entry.effect? initial (meeting.log ++ [entry]) = some after.contents :=
  accounted.logged_append (by rw [replay?_cons, applied]; rfl)

/-- A turn that leaves all messages where they are, and all announcements of them. -/
theorem quiet (accounted : meeting.Accounted base initial) (regular : next.Regular base)
    (log : next.log = meeting.log) (contents : next.host.contents = meeting.host.contents)
    (queues : ∀ id, meeting.session? id ≠ none → ∀ sender slot,
      ⟨sender, .messageReady slot⟩ ∈ meeting.queue id →
        ⟨sender, .messageReady slot⟩ ∈ next.queue id) : next.Accounted base initial where
  regular := regular
  logged := by
    rw [log, contents]
    exact accounted.logged
  announced posting made lies := by
    rw [contents] at lies
    obtain ⟨sender, present⟩ := accounted.announced posting made lies
    have inside : meeting.session? posting.message.recipient ≠ none := fun outside =>
      accounted.regular.housed.none_addressed outside made lies rfl
    exact ⟨sender, queues _ inside sender _ present⟩

theorem notify (accounted : meeting.Accounted base initial) {sender target : ParticipantId}
    {notification : Notification}
    (sent : meeting.host.notify sender target notification = .ok after) :
    Accounted base initial { meeting with host := after } := by
  obtain ⟨carrier, notified, rfl⟩ := Host.notify_eq_ok sent
  refine accounted.quiet (accounted.regular.notify sent) rfl rfl fun id _ other slot present => ?_
  rw [accounted.regular.wired.queue_notify notified]
  split_ifs
  · exact List.mem_append_left _ present
  · exact present

theorem setMember (accounted : meeting.Accounted base initial) {changed : Member}
    (found : meeting.members.find? id = some member) (channel : changed.channel = member.channel)
    (regular : (meeting.setMember id changed).Regular base) :
    (meeting.setMember id changed).Accounted base initial :=
  accounted.quiet regular rfl rfl fun other _ _ _ present => by
    rwa [queue_setMember found channel]

theorem settle (accounted : meeting.Accounted base initial)
    (found : meeting.members.find? id = some member) {result : Except ChatError Session}
    (regular : (meeting.settle id member result after).Regular base)
    (carrier : after.carrier = meeting.host.carrier)
    (contents : after.contents = meeting.host.contents) :
    (meeting.settle id member result after).Accounted base initial := by
  refine accounted.quiet regular ?_ ?_ fun other _ _ _ present => ?_
  · cases result <;> rfl
  · cases result <;> exact contents
  · rwa [queue_settle found carrier]

theorem refuses (accounted : meeting.Accounted base initial)
    (refuses : Session.Refuses meeting.host after) :
    Accounted base initial { meeting with host := after } :=
  accounted.quiet (accounted.regular.refuses refuses) rfl refuses.contents fun _ _ _ _ present => by
    rwa [queue_of_carrier refuses.carrier]

/-- An accepted message is announced at the end of its recipient's inbox. -/
theorem posts (accounted : meeting.Accounted base initial) {target : ParticipantId}
    {text : List UInt8} {slot : Fin mailboxSlots}
    (listed : target ∈ (meeting.host.registry session.room.store).participants)
    (posts : session.Posts target text slot meeting.host after) :
    Accounted base initial (meeting.record after [.accepted (session.posting target text slot)]) where
  regular := accounted.regular.posts listed posts
  logged := accounted.logged_concat posts.applied
  announced posting made lies := by
    rw [Announced, accounted.regular.wired.queue_record _ posts.sent]
    rcases Posting.effect?_lies posts.applied lies with same | ⟨-, before⟩
    · cases same
      exact ⟨session.me, by simp [Session.posting]⟩
    · obtain ⟨sender, present⟩ := accounted.announced posting made before
      refine ⟨sender, ?_⟩
      split_ifs
      · exact List.mem_append_left _ present
      · exact present

/-- The next envelope of an inbox is handled. If it announces a message to its reader, the reader gets
the message. -/
theorem handles {envelope : Envelope} {later : List Envelope} {answer : Option Message}
    (accounted : meeting.Accounted base initial) (found : meeting.members.find? id = some member)
    (inside : member.phase = .inside session)
    (queued : meeting.host.carrier.queue member.channel = envelope :: later)
    (outcome : session.handle envelope { meeting.host with
      carrier := meeting.host.carrier.keep member.channel later } = some (answer, after))
    (regular : Regular base (meeting.record after (session.handled envelope.notification answer))) :
    Accounted base initial (meeting.record after (session.handled envelope.notification answer)) := by
  have wired := accounted.regular.wired
  have kept := accounted.regular.keep member.channel later
  have own : meeting.queue id = envelope :: later := (queue_of found).trans queued
  obtain ⟨me, made⟩ := kept.housed.session_of found inside
  -- what is not the head of the reader's inbox is still there
  have still (other : ParticipantId) (waiting : Envelope) (present : waiting ∈ meeting.queue other)
      (tail : other = id → waiting ≠ envelope) :
      waiting ∈ if other = id then later else meeting.queue other := by
    split_ifs with same
    · rw [same, own] at present
      exact (List.mem_cons.mp present).resolve_left (tail same)
    · exact present
  rcases Session.handle_cases made outcome with ⟨idle, nothing, rest⟩ | ⟨slot, announces, takes⟩
  · have carried : (meeting.carry (meeting.host.carrier.keep member.channel later)).Accounted base
        initial := by
      refine accounted.quiet kept rfl rfl fun other _ sender slot present => ?_
      rw [wired.queue_keep found]
      refine still other _ present ?_
      rintro - rfl
      exact idle slot rfl
    rw [nothing, record_nil]
    rcases rest with rfl | sent
    · exact carried
    · exact carried.notify sent
  · refine ⟨regular, ?_, fun posting there lies => ?_⟩
    · rw [announces]
      exact accounted.logged_append takes.applied
    · obtain ⟨before, other⟩ := takes.lies lies
      obtain ⟨sender, present⟩ := accounted.announced posting there before
      rw [Announced, wired.queue_handled found _ takes.carrier]
      refine ⟨sender, still _ _ present fun recipient head => ?_⟩
      obtain ⟨held, within, here⟩ := (accounted.regular.housed.registered posting.store _ there).mp
        (accounted.regular.housed.addressed posting there before)
      rw [recipient, session?_of found, inside] at within
      cases within
      refine other (recipient.trans me.symm) here.symm ?_
      rw [← head] at announces
      cases announces
      rfl

/-- A departure leaves the messages to all others, and their announcements. -/
theorem vacates (accounted : meeting.Accounted base initial)
    (found : meeting.members.find? session.me = some member)
    (inside : member.phase = .inside session) (vacates : session.Vacates meeting.host after) :
    ((meeting.record after [.left session.me session.room.store]).setMember session.me
        { member with phase := .outside }).Accounted base initial where
  regular := accounted.regular.vacates found inside vacates
  logged := accounted.logged_concat vacates.applied
  announced posting made lies := by
    rcases Posting.effect?_lies vacates.applied lies with wrong | ⟨-, before⟩
    · cases wrong
    · obtain ⟨sender, present⟩ := accounted.announced posting made before
      have there : (meeting.record after [.left session.me session.room.store]).members.find?
          session.me = some member := found
      refine ⟨sender, ?_⟩
      rw [queue_setMember there, queue_record _ vacates.carrier]
      · exact present
      · rfl

theorem step (accounted : meeting.Accounted base initial) (allowed : keepsInbox meeting turn = true)
    (moves : meeting.Moves turn next) : next.Accounted base initial := by
  have regular := accounted.regular.step moves
  have wired := accounted.regular.wired
  cases moves with
  | connect new =>
    refine accounted.quiet regular rfl rfl fun other _ _ _ present => ?_
    rwa [queue_connect new]
  | disconnect => exact accounted.quiet regular rfl rfl fun _ _ _ _ present => present
  | close =>
    refine accounted.quiet regular rfl rfl fun other _ _ _ present => ?_
    rwa [queue_close]
  | @drop id member found =>
    refine accounted.quiet regular rfl rfl fun other inside _ _ present => ?_
    have different : other ≠ id := fun same =>
      inside (Option.isNone_iff_eq_none.mp (same ▸ allowed))
    have there : (meeting.carry (meeting.host.carrier.drop member.channel)).members.find? id =
      some member := found
    rw [queue_setMember there, wired.queue_drop found, if_neg different]
    · exact present
    · rfl
  | create found outside outcome =>
    rcases Session.create_forgets_or_opens outcome with
      ⟨error, rfl, forgets⟩ | ⟨session, _, _, rfl, -, opens⟩
    · exact accounted.settle found regular forgets.spares.carrier forgets.spares.contents
    · exact accounted.settle found regular opens.carrier opens.contents
  | @request id member ns known after found outside requested =>
    have asked := accounted.notify (Session.requestJoin_eq_ok requested)
    exact asked.setMember found rfl regular
  | @wait id member ns answer queue found waiting awaited =>
    refine accounted.quiet regular rfl rfl fun other inside _ _ present => ?_
    have different : other ≠ id := by
      rintro rfl
      rw [session?_of found, waiting] at inside
      exact inside rfl
    have there : (meeting.carry (meeting.host.carrier.keep member.channel queue)).members.find? id =
      some member := found
    rw [queue_setMember there, wired.queue_keep found, if_neg different]
    · exact present
    · rfl
  | attach found approved attached => exact accounted.setMember found rfl regular
  | astray found approved => exact accounted.setMember found rfl regular
  | register found attached outcome =>
    obtain ⟨-, made⟩ := accounted.regular.housed.handles _ _ _ found (by rw [attached]; rfl)
    rcases Session.register_cases _ made outcome with ⟨error, rfl, rfl⟩ | ⟨place, rfl, registers⟩
    · exact accounted.settle found regular rfl rfl
    · exact accounted.settle found regular registers.carrier registers.contents
  | tell found inside outcome =>
    obtain ⟨-, made⟩ := accounted.regular.housed.session_of found inside
    exact Session.tell_invariant (fun host log => Accounted base initial { meeting with host, log }) made
      outcome (fun _ refuses => accounted.refuses refuses)
        fun _ _ _ listed posts => accounted.posts listed posts
  | say found inside outcome =>
    obtain ⟨-, made⟩ := accounted.regular.housed.session_of found inside
    refine Session.say_invariant (fun host log => Accounted base initial { meeting with host, log })
      meeting.log made outcome accounted (fun _ _ _ _ held refuses => held.refuses refuses) ?_
    intro middle log target bytes slot last members held listed posts
    exact held.posts (members.registry _ ▸ listed) posts
  | handle found inside receives queued outcome =>
    exact accounted.handles found inside queued outcome regular
  | leave found inside outcome =>
    obtain ⟨me, made⟩ := accounted.regular.housed.session_of found inside
    subst me
    exact accounted.vacates found inside (Session.leave_vacates made outcome)
  | forge sent =>
    refine accounted.quiet regular rfl rfl fun other _ _ _ present => ?_
    rw [Meeting.carry, wired.queue_notify sent]
    split_ifs
    · exact List.mem_append_left _ present
    · exact present
  | nothing => exact accounted

theorem fate {before later : List Entry} (accounted : meeting.Accounted base initial)
    (made : base ≤ posting.store) (split : meeting.log = before ++ .accepted posting :: later) :
    ExactlyOne (Waiting posting later meeting) (posting.Returned later) (posting.Discarded later) := by
  have logged := accounted.logged
  rw [split] at logged
  obtain ⟨_, -, logged⟩ := replay?_append_eq_some_iff.mp logged
  obtain ⟨_, accepted, logged⟩ := Option.bind_eq_some_iff.mp logged
  rcases Posting.fate (Posting.lies_of_accepted accepted).2 logged with
    ⟨untouched, lies⟩ | returned | discarded
  · exact .inl ⟨⟨untouched, lies, accounted.announced posting made lies⟩,
      fun returned => returned.not_untouched untouched,
      fun discarded => discarded.not_untouched untouched⟩
  · exact .inr (.inl ⟨fun waiting => returned.not_untouched waiting.1, returned,
      returned.not_discarded⟩)
  · exact .inr (.inr ⟨fun waiting => discarded.not_untouched waiting.1,
      fun returned => returned.not_discarded discarded, discarded⟩)

theorem origin {before later : List Entry} {reader : ParticipantId}
    (accounted : meeting.Accounted base initial) (absent : initial posting.store posting.slot = none)
    (split : meeting.log = before ++ .returned reader posting :: later) :
    reader = posting.message.recipient ∧ ∃! cut, posting.PutAt before cut := by
  have logged := accounted.logged
  rw [split] at logged
  obtain ⟨_, earlier, logged⟩ := replay?_append_eq_some_iff.mp logged
  obtain ⟨_, returned, -⟩ := Option.bind_eq_some_iff.mp logged
  obtain ⟨lies, recipient⟩ := Posting.lies_of_returned returned
  exact ⟨recipient.symm, Posting.origin absent earlier lies⟩

end Accounted

/-- What becomes of messages in the stores from `base` on. -/
structure Delivering (base : Nat) (meeting : Meeting) : Prop where
  /-- A message that was accepted waits, or was returned once, or was discarded. -/
  fate : ∀ before posting later, base ≤ posting.store →
    meeting.log = before ++ .accepted posting :: later →
      ExactlyOne (Waiting posting later meeting) (posting.Returned later) (posting.Discarded later)
  /-- A message that was returned was accepted once for its reader, and not taken since. -/
  origin : ∀ before reader posting later, base ≤ posting.store →
    meeting.log = before ++ .returned reader posting :: later →
      reader = posting.message.recipient ∧ ∃! cut, posting.PutAt before cut
  /-- Saying counts those as served for whom a message is accepted. -/
  served : ∀ (session : Session) text broadcast after,
    session.say text meeting.host = some (.ok broadcast, after) →
      broadcast.delivered = Session.recipients (session.said text meeting.host)

/-- Messages are delivered exactly once, whatever notifications come from nowhere, as long as nobody
gives up its inbox inside a room. -/
theorem exactly_once_delivery {stores : Directory Store} {locks : Directory Nat} {turns : List Turn}
    {final : Meeting}
    (run : replay? (restrict keepsInbox step) (start stores locks) turns = some final) :
    final.Delivering stores.objects.size := by
  have accounted : final.Accounted stores.objects.size (start stores locks).host.contents := by
    refine replay?_invariant _ (fun meeting turn next accounted stepped => ?_)
      (Accounted.start stores locks) run
    obtain ⟨allowed, stepped⟩ := restrict_eq_some_iff.mp stepped
    exact accounted.step allowed (moves_of_step stepped)
  exact
    { fate := fun before posting later made split => accounted.fate made split
      origin := fun before reader posting later made split =>
        accounted.origin (Host.contents_of_size_le made) split
      served := fun session text broadcast after outcome => by
        rcases Session.say_cases outcome with ⟨_, wrong, -⟩ | ⟨bytes, -, same, -, entries⟩
        · cases wrong
        · cases same
          rw [entries, Session.delivered_eq] }

/-- A notification from nowhere brings anna a message before the notification of that message does,
and so on with those that follow in the same slot. -/
def forgery : List Turn :=
  arrival ++ [⟨anna, .forge bert (.messageReady 0)⟩, ⟨bert, .tell anna "one"⟩, ⟨anna, .handle⟩,
    ⟨bert, .tell anna "two"⟩, ⟨anna, .handle⟩, ⟨bert, .tell anna "three"⟩, ⟨anna, .say "four"⟩,
    ⟨bert, .leave⟩]

theorem exactly_once_among_forgeries : ∃ final,
    replay? (restrict keepsInbox step) (start .empty .empty) forgery = some final ∧
      final.log = [.accepted (toAnna 0 "one"), .returned anna (toAnna 0 "one"),
        .accepted (toAnna 0 "two"), .returned anna (toAnna 0 "two"), .accepted (toAnna 0 "three"),
        .accepted ⟨0, 1, ⟨anna, bert, Text.utf8 "four"⟩⟩, .left bert 0] ∧ final.Delivering 0 := by
  have facts : (replay? (restrict keepsInbox step) (start .empty .empty) forgery).map
      (fun final => final.log) = some [.accepted (toAnna 0 "one"), .returned anna (toAnna 0 "one"),
        .accepted (toAnna 0 "two"), .returned anna (toAnna 0 "two"), .accepted (toAnna 0 "three"),
        .accepted ⟨0, 1, ⟨anna, bert, Text.utf8 "four"⟩⟩, .left bert 0] := by
    decide +kernel
  obtain ⟨final, run, log⟩ := Option.map_eq_some_iff.mp facts
  exact ⟨final, run, log, exactly_once_delivery run⟩

end Meeting

end HostChat
