import HostChat.Proofs.Meeting.Housing
import HostChat.Proofs.Session.Joining

/-! # Requests and approvals on their way

A join is about two notifications: the request that it begins with, and the approval that answers it.
Where nobody gives up its inbox and nothing comes from nowhere, a turn adds such a notification in two
ways only, and a join ends its wait with an approval only.
-/

namespace HostChat

namespace Envelope

/-- Whether an envelope in the inbox of `owner` is about a join of `id`: a request that `id` has sent,
or an approval that `id` is to get. -/
def concerns (id owner : ParticipantId) (envelope : Envelope) : Bool :=
  match envelope.notification with
  | .joinRequest => envelope.sender = id
  | .joinApprove _ => owner = id
  | .messageReady _ => false

variable {id owner sender room : ParticipantId}

private theorem filter_request :
    [⟨sender, .joinRequest⟩].filter (concerns id owner) =
      if sender = id then [⟨sender, .joinRequest⟩] else [] := by
  by_cases same : sender = id <;> simp [concerns, same]

private theorem filter_approval :
    [⟨sender, .joinApprove room⟩].filter (concerns id owner) =
      if owner = id then [⟨sender, .joinApprove room⟩] else [] := by
  by_cases same : owner = id <;> simp [concerns, same]

end Envelope

namespace Session

variable {queue rest : List Envelope} {answer : Option (Except ChatError ParticipantId)}

/-- As long as more can come, a wait ends with an approval only, and without one takes everything. -/
theorem awaitApproval_cases (outcome : awaitApproval false queue = (answer, rest)) :
    (answer = none ∧ rest = []) ∨ ∃ skipped sender room,
      answer = some (.ok room) ∧ queue = skipped ++ ⟨sender, .joinApprove room⟩ :: rest := by
  rcases exists_first_approval queue with none | ⟨skipped, sender, room, later, rfl, before⟩
  · rw [← List.append_nil queue, awaitApproval_append none] at outcome
    cases outcome
    exact .inl ⟨rfl, rfl⟩
  · rw [awaitApproval_append before] at outcome
    cases outcome
    exact .inr ⟨skipped, sender, room, rfl, rfl⟩

theorem awaitApproval_suffix (outcome : awaitApproval false queue = (answer, rest)) :
    rest <:+ queue := by
  rcases awaitApproval_cases outcome with ⟨-, rfl⟩ | ⟨skipped, sender, room, -, rfl⟩
  · exact List.nil_suffix
  · exact (List.suffix_cons ..).trans (List.suffix_append ..)

end Session

namespace Meeting

variable {base : Nat} {meeting next : Meeting} {id other owner target : ParticipantId}
  {member changed : Member} {session : Session} {after : Host Exchange} {log : List Entry}
  {turn : Turn} {ns : String}

/-- The policy that participants do what sessions offer and nothing else: they stay connected and keep
their inboxes, and all notifications come from sessions. -/
def undisturbed (_ : Meeting) (turn : Turn) : Bool :=
  match turn.deed with
  | .disconnect | .close | .drop | .forge _ _ => false
  | _ => true

def phase? (meeting : Meeting) (id : ParticipantId) : Option Phase :=
  (meeting.members.find? id).map Member.phase

theorem phase?_of (found : meeting.members.find? id = some member) :
    meeting.phase? id = some member.phase := by
  rw [phase?, found]
  rfl

theorem phase?_setMember (meeting : Meeting) (id : ParticipantId) (member : Member)
    (other : ParticipantId) :
    (meeting.setMember id member).phase? other =
      if id = other then some member.phase else meeting.phase? other := by
  simp only [phase?, find?_setMember]
  split_ifs <;> rfl

/-- The envelopes about the joins of `id` that lie in the inbox of `owner`. -/
def letters (meeting : Meeting) (id owner : ParticipantId) : List Envelope :=
  (meeting.queue owner).filter (Envelope.concerns id owner)

private theorem letters_congr (same : next.queue owner = meeting.queue owner) :
    next.letters id owner = meeting.letters id owner := by
  rw [letters, same]
  rfl

/-- Everybody can be reached in the channel that it listens to. -/
def Connected (meeting : Meeting) : Prop :=
  ∀ id member, meeting.members.find? id = some member →
    meeting.host.carrier.Serves id member.channel

namespace Connected

theorem start (stores : Directory Store) (locks : Directory Nat) :
    (Meeting.start stores locks).Connected := fun _ _ found => by cases found

theorem inbox_eq (connected : meeting.Connected) (found : meeting.members.find? id = some member) :
    meeting.host.carrier.inbox member.channel = ⟨meeting.queue id, false⟩ := by
  rw [queue_of found, ← Exchange.inbox_queue, ← (connected id member found).inbox_closed]

theorem carry (connected : meeting.Connected)
    (serves : ∀ id number, meeting.host.carrier.Serves id number → after.carrier.Serves id number) :
    Connected { meeting with host := after, log } :=
  fun id member found => serves id _ (connected id member found)

theorem of_carrier (connected : meeting.Connected) (same : after.carrier = meeting.host.carrier) :
    Connected { meeting with host := after, log } :=
  connected.carry fun _ _ serves => same ▸ serves

theorem notify (connected : meeting.Connected) {sender : ParticipantId} {notification : Notification}
    (sent : Carrier.notify meeting.host.carrier sender target notification = .ok after.carrier) :
    Connected { meeting with host := after, log } :=
  connected.carry fun _ _ serves => serves.notify sent

theorem setMember (connected : meeting.Connected) (found : meeting.members.find? id = some member)
    (channel : changed.channel = member.channel) : (meeting.setMember id changed).Connected := by
  intro other own there
  rw [find?_setMember] at there
  split_ifs at there with same
  · cases there
    rw [← same, channel]
    exact connected id member found
  · exact connected other own there

theorem settle (connected : meeting.Connected) (found : meeting.members.find? id = some member)
    {result : Except ChatError Session} (same : after.carrier = meeting.host.carrier) :
    (meeting.settle id member result after).Connected := by
  have carried : Connected { meeting with host := after } := connected.of_carrier same
  cases result with
  | ok session => exact carried.setMember found rfl
  | error error => exact carried.setMember found rfl

theorem connect (connected : meeting.Connected) (id : ParticipantId) :
    ((meeting.carry (meeting.host.carrier.connect id).2).setMember id
      ⟨meeting.host.carrier.channels.size, true, false, .outside⟩).Connected := by
  intro other own there
  rw [find?_setMember] at there
  split_ifs at there with same
  · cases there
    exact same ▸ Exchange.serves_connect ..
  · exact (connected other own there).connect same

theorem step (connected : meeting.Connected) (regular : meeting.Regular base)
    (allowed : undisturbed meeting turn = true) (moves : meeting.Moves turn next) :
    next.Connected := by
  cases moves with
  | connect new => exact connected.connect _
  | disconnect => cases allowed
  | close => cases allowed
  | drop found => cases allowed
  | create found outside outcome =>
    exact connected.settle found (Session.carrier_of_create outcome)
  | request found outside requested =>
    obtain ⟨carrier, notified, rfl⟩ := Host.notify_eq_ok (Session.requestJoin_eq_ok requested)
    have asked : (meeting.carry carrier).Connected := connected.notify notified
    exact asked.setMember found rfl
  | @wait id member ns answer queue found waiting awaited =>
    have kept : (meeting.carry (meeting.host.carrier.keep member.channel queue)).Connected :=
      connected.carry fun _ _ serves => serves.keep queue
    exact kept.setMember found rfl
  | attach found approved attached => exact connected.setMember found rfl
  | astray found approved => exact connected.setMember found rfl
  | register found attached outcome =>
    obtain ⟨-, made⟩ := regular.housed.handles _ _ _ found (by rw [attached]; rfl)
    exact connected.settle found (Session.carrier_of_register made outcome)
  | tell found inside outcome =>
    obtain ⟨-, made⟩ := regular.housed.session_of found inside
    exact Session.tell_invariant (fun host log => Connected { meeting with host, log }) made outcome
      (fun _ refuses => connected.of_carrier refuses.carrier)
        fun _ _ _ _ posts => connected.notify posts.sent
  | say found inside outcome =>
    obtain ⟨-, made⟩ := regular.housed.session_of found inside
    refine Session.say_invariant (fun host log => Connected { meeting with host, log }) meeting.log
      made outcome connected (fun _ _ _ _ held refuses => held.of_carrier refuses.carrier) ?_
    intro middle log target bytes slot last members held listed posts
    exact held.notify posts.sent
  | @handle id member session envelope later answer after found inside receives queued outcome =>
    have kept : (meeting.carry (meeting.host.carrier.keep member.channel later)).Connected :=
      connected.carry fun _ _ serves => serves.keep later
    obtain ⟨-, made⟩ := (regular.keep member.channel later).housed.session_of found inside
    rcases Session.handle_cases made outcome with ⟨-, -, rfl | sent⟩ | ⟨slot, -, takes⟩
    · exact kept.of_carrier rfl
    · obtain ⟨carrier, notified, rfl⟩ := Host.notify_eq_ok sent
      exact kept.notify notified
    · exact kept.of_carrier takes.carrier
  | @leave id member session result after found inside outcome =>
    obtain ⟨-, made⟩ := regular.housed.session_of found inside
    have left : (meeting.record after [.left id session.room.store]).Connected :=
      connected.of_carrier (Session.leave_vacates made outcome).carrier
    exact left.setMember found rfl
  | forge sent => cases allowed
  | nothing => exact connected

end Connected

/-- What a turn does to the envelopes about the joins of `id`. -/
inductive Mails (id : ParticipantId) (meeting : Meeting) : Turn → Meeting → Prop
  /-- At most some are taken away, and a join that waits goes on waiting. -/
  | takes {turn : Turn} {next : Meeting}
      (letters : ∀ owner, (next.letters id owner).Sublist (meeting.letters id owner))
      (waits : ∀ ns, meeting.phase? id = some (.waiting ns) → next.phase? id = some (.waiting ns)) :
      Mails id meeting turn next
  /-- A join begins. -/
  | asks {ns : String} {known : ParticipantId} {next : Meeting} {after : Host Exchange}
      (outside : meeting.phase? id = some .outside)
      (requested : Session.requestJoin id known meeting.host = .ok after)
      (waits : next.phase? id = some (.waiting ns))
      (letters : ∀ owner, next.letters id owner = meeting.letters id owner ++
        if owner = known then [⟨id, .joinRequest⟩] else []) :
      Mails id meeting ⟨id, .request ns known⟩ next
  /-- Somebody who is inside a room handles a request of `id`, and can send an answer. -/
  | answers {known : ParticipantId} {session : Session} {later : List Envelope} {next : Meeting}
      (inside : meeting.session? known = some session)
      (queued : meeting.queue known = ⟨id, .joinRequest⟩ :: later)
      (waits : next.phase? id = meeting.phase? id)
      (letters : ∀ owner, next.letters id owner =
        (if owner = known then later.filter (Envelope.concerns id known) else meeting.letters id owner) ++
          if owner = id then [⟨known, .joinApprove session.room.id⟩] else []) :
      Mails id meeting ⟨known, .handle⟩ next
  /-- A join looks for an approval. -/
  | looks {ns : String} {answer : Option (Except ChatError ParticipantId)} {queue : List Envelope}
      {next : Meeting} (waiting : meeting.phase? id = some (.waiting ns))
      (awaited : Session.awaitApproval false (meeting.queue id) = (answer, queue))
      (phase : next.phase? id = some (.ofAnswer ns answer))
      (letters : ∀ owner, next.letters id owner =
        if owner = id then queue.filter (Envelope.concerns id id) else meeting.letters id owner) :
      Mails id meeting ⟨id, .wait⟩ next

/-- Whoever does not wait can move without affecting a join that does. -/
private theorem waiting_setMember (awake : ∀ ns, meeting.phase? other ≠ some (.waiting ns))
    (changed : Member) (waiting : meeting.phase? id = some (.waiting ns)) :
    (meeting.setMember other changed).phase? id = some (.waiting ns) := by
  rw [phase?_setMember, if_neg ?_]
  · exact waiting
  · rintro rfl
    exact awake ns waiting

/-- A notification adds an envelope to one inbox. -/
theorem letters_notify (wired : meeting.Wired) {sender : ParticipantId} {notification : Notification}
    (sent : Carrier.notify meeting.host.carrier sender target notification = .ok after.carrier)
    (owner : ParticipantId) :
    letters { meeting with host := after, log } id owner = meeting.letters id owner ++
      if owner = target then [⟨sender, notification⟩].filter (Envelope.concerns id owner) else [] := by
  rw [letters, wired.queue_notify sent]
  split_ifs
  · rw [List.filter_append]
    rfl
  · rw [List.append_nil]
    rfl

private theorem letters_of_carrier (meeting : Meeting) (same : after.carrier = meeting.host.carrier)
    (owner : ParticipantId) :
    letters { meeting with host := after, log } id owner = meeting.letters id owner :=
  letters_congr (queue_of_carrier same owner)

private theorem letters_setMember (found : meeting.members.find? other = some member)
    (channel : changed.channel = member.channel) (owner : ParticipantId) :
    (meeting.setMember other changed).letters id owner = meeting.letters id owner :=
  letters_congr (queue_setMember found channel owner)

theorem letters_keep (wired : meeting.Wired) (found : meeting.members.find? other = some member)
    (kept : List Envelope) (owner : ParticipantId) :
    (meeting.carry (meeting.host.carrier.keep member.channel kept)).letters id owner =
      if owner = other then kept.filter (Envelope.concerns id other)
      else meeting.letters id owner := by
  rw [letters, wired.queue_keep found]
  split_ifs with same
  · rw [same]
  · rfl

/-- Messages are not about joins. -/
theorem letters_posts {text : List UInt8} {slot : Fin mailboxSlots} (wired : meeting.Wired)
    (posts : session.Posts target text slot meeting.host after) (owner : ParticipantId) :
    letters { meeting with host := after, log } id owner = meeting.letters id owner := by
  rw [letters_notify wired posts.sent]
  split_ifs
  · exact List.append_nil _
  · exact List.append_nil _

theorem letters_tell {result : Except ChatError (Fin mailboxSlots)} {text : String}
    (wired : meeting.Wired) (made : session.room.store < meeting.host.stores.objects.size)
    (outcome : session.tell target text meeting.host = some (result, after)) (owner : ParticipantId) :
    (meeting.record after (session.told target (Text.utf8 text) result)).letters id owner =
      meeting.letters id owner :=
  Session.tell_invariant
    (fun host log => letters { meeting with host, log } id owner = meeting.letters id owner) made
    outcome (fun _ refuses => letters_of_carrier meeting refuses.carrier owner)
    fun _ _ _ _ posts => letters_posts wired posts owner

theorem letters_say {result : Except ChatError Broadcast} {text : String} (wired : meeting.Wired)
    (made : session.room.store < meeting.host.stores.objects.size)
    (outcome : session.say text meeting.host = some (result, after)) (owner : ParticipantId) :
    (meeting.record after (session.said text meeting.host)).letters id owner =
      meeting.letters id owner := by
  refine (Session.say_invariant (fun host log => Wired { meeting with host, log } ∧
    letters { meeting with host, log } id owner = meeting.letters id owner) meeting.log made outcome
      ⟨wired, rfl⟩ (fun middle log last _ held refuses => ?_)
        fun middle log _ _ _ last _ held _ posts => ?_).2
  · obtain ⟨wired, same⟩ := held
    exact ⟨wired.of_carrier refuses.carrier,
      (letters_of_carrier { meeting with host := middle, log } refuses.carrier owner).trans same⟩
  · obtain ⟨wired, same⟩ := held
    exact ⟨wired.notify posts.sent, (letters_posts wired posts owner).trans same⟩

namespace Mails

theorem of_letters (letters : ∀ owner, next.letters id owner = meeting.letters id owner)
    (waits : ∀ ns, meeting.phase? id = some (.waiting ns) → next.phase? id = some (.waiting ns)) :
    Mails id meeting turn next :=
  .takes (fun owner => by rw [letters owner]) waits

/-- A participant that does not wait moves. -/
theorem moved {phase : Phase} (found : meeting.members.find? other = some member)
    (before : member.phase = phase) (awake : ∀ ns, phase ≠ .waiting ns)
    (channel : changed.channel = member.channel) (same : after.carrier = meeting.host.carrier) :
    Mails id meeting turn (({ meeting with host := after, log } : Meeting).setMember other changed) := by
  have there : ({ meeting with host := after, log } : Meeting).members.find? other = some member := found
  refine .of_letters (fun owner => ?_) fun ns => waiting_setMember (fun ns wrong => ?_) changed
  · exact letters_congr ((queue_setMember there channel owner).trans (queue_of_carrier same owner))
  · have waiting : some member.phase = some (.waiting ns) := (phase?_of found).symm.trans wrong
    exact awake ns (before.symm.trans (Option.some.inj waiting))

theorem settle {phase : Phase} (found : meeting.members.find? other = some member)
    (before : member.phase = phase) (awake : ∀ ns, phase ≠ .waiting ns)
    {result : Except ChatError Session} (same : after.carrier = meeting.host.carrier) :
    Mails id meeting turn (meeting.settle other member result after) := by
  cases result with
  | ok session => exact moved found before awake rfl same
  | error error => exact moved found before awake rfl same

/-- A request of somebody goes to the inbox of `known`. -/
theorem request {known : ParticipantId} (wired : meeting.Wired)
    (found : meeting.members.find? other = some member) (outside : member.phase = .outside)
    (requested : Session.requestJoin other known meeting.host = .ok after) :
    Mails id meeting ⟨other, .request ns known⟩
      ({ meeting with host := after }.setMember other { member with phase := .waiting ns }) := by
  have sent := Host.notify_carrier (Session.requestJoin_eq_ok requested)
  have there : ({ meeting with host := after } : Meeting).members.find? other = some member := found
  have letters (owner : ParticipantId) :
      ({ meeting with host := after }.setMember other { member with phase := .waiting ns }).letters
        id owner = meeting.letters id owner ++ if owner = known then
          [⟨other, .joinRequest⟩].filter (Envelope.concerns id owner) else [] :=
    (letters_setMember there (by rfl) owner).trans (letters_notify wired sent owner)
  by_cases same : other = id
  · subst same
    refine .asks ((phase?_of found).trans (congrArg some outside)) requested ?_ fun owner => ?_
    · exact (phase?_setMember ..).trans (if_pos rfl)
    · rw [letters, Envelope.filter_request, if_pos rfl]
  · refine .of_letters (fun owner => ?_) fun ns waiting => ?_
    · rw [letters, Envelope.filter_request, if_neg same, ite_self, List.append_nil]
    · exact ((phase?_setMember ..).trans (if_neg same)).trans waiting

/-- Somebody looks for an approval. -/
theorem wait {answer : Option (Except ChatError ParticipantId)} {queue : List Envelope}
    (wired : meeting.Wired) (connected : meeting.Connected)
    (found : meeting.members.find? other = some member) (waiting : member.phase = .waiting ns)
    (awaited : Session.awaitApproval (meeting.host.carrier.inbox member.channel).closed
      (meeting.host.carrier.inbox member.channel).queue = (answer, queue)) :
    Mails id meeting ⟨other, .wait⟩
      ((meeting.carry (meeting.host.carrier.keep member.channel queue)).setMember other
        { member with phase := .ofAnswer ns answer }) := by
  rw [connected.inbox_eq found] at awaited
  have there : (meeting.carry (meeting.host.carrier.keep member.channel queue)).members.find? other =
    some member := found
  have letters (owner : ParticipantId) :
      ((meeting.carry (meeting.host.carrier.keep member.channel queue)).setMember other
        { member with phase := .ofAnswer ns answer }).letters id owner =
          if owner = other then queue.filter (Envelope.concerns id other)
          else meeting.letters id owner :=
    (letters_setMember there (by rfl) owner).trans (letters_keep wired found queue owner)
  by_cases same : other = id
  · subst same
    refine .looks ((phase?_of found).trans (congrArg some waiting)) awaited ?_ letters
    exact (phase?_setMember ..).trans (if_pos rfl)
  · refine .takes (fun owner => ?_) fun ns waiting => ?_
    · rw [letters owner]
      split_ifs with own
      · rw [own]
        exact (Session.awaitApproval_suffix awaited).sublist.filter _
      · exact List.Sublist.refl _
    · exact ((phase?_setMember ..).trans (if_neg same)).trans waiting

/-- Somebody takes the next envelope out of its inbox, and sends nothing about joins. -/
theorem taken {envelope : Envelope} {later : List Envelope} (wired : meeting.Wired)
    (found : meeting.members.find? other = some member)
    (queued : meeting.queue other = envelope :: later)
    (letters : ∀ owner, next.letters id owner =
      (meeting.carry (meeting.host.carrier.keep member.channel later)).letters id owner)
    (phase : next.phase? id = meeting.phase? id) : Mails id meeting turn next := by
  refine .takes (fun owner => ?_) fun ns waiting => phase.trans waiting
  rw [letters, letters_keep wired found]
  split_ifs with own
  · rw [own, Meeting.letters, queued]
    exact (List.sublist_cons_self ..).filter _
  · exact List.Sublist.refl _

/-- Somebody who is inside a room answers a request. -/
theorem answer {sender : ParticipantId} {later : List Envelope} {entries : List Entry}
    (regular : meeting.Regular base) (found : meeting.members.find? session.me = some member)
    (inside : member.phase = .inside session)
    (queued : meeting.queue session.me = ⟨sender, .joinRequest⟩ :: later)
    (sent : Carrier.notify (meeting.host.carrier.keep member.channel later) session.me sender
      (.joinApprove session.room.id) = .ok after.carrier) :
    Mails id meeting ⟨session.me, .handle⟩ (meeting.record after entries) := by
  have kept := regular.keep member.channel later
  have letters (owner : ParticipantId) :
      (meeting.record after entries).letters id owner =
        (meeting.carry (meeting.host.carrier.keep member.channel later)).letters id owner ++
          if owner = sender then
            [⟨session.me, .joinApprove session.room.id⟩].filter (Envelope.concerns id owner)
          else [] := letters_notify kept.wired sent owner
  by_cases same : sender = id
  · subst same
    refine .answers ((session?_of found).trans (by rw [inside]; rfl)) queued rfl fun owner => ?_
    rw [letters, letters_keep regular.wired found, Envelope.filter_approval]
    split_ifs <;> rfl
  · refine .taken regular.wired found queued (fun owner => ?_) rfl
    rw [letters, Envelope.filter_approval]
    split_ifs with there here
    · exact absurd (there.symm.trans here) same
    · exact List.append_nil _
    · exact List.append_nil _

theorem handle {envelope : Envelope} {later : List Envelope} {answer : Option Message}
    (regular : meeting.Regular base) (found : meeting.members.find? other = some member)
    (inside : member.phase = .inside session)
    (queued : meeting.host.carrier.queue member.channel = envelope :: later)
    (outcome : session.handle envelope { meeting.host with
      carrier := meeting.host.carrier.keep member.channel later } = some (answer, after)) :
    Mails id meeting ⟨other, .handle⟩
      (meeting.record after (session.handled envelope.notification answer)) := by
  have kept := regular.keep member.channel later
  obtain ⟨rfl, made⟩ := kept.housed.session_of found inside
  have queued : meeting.queue session.me = envelope :: later := (queue_of found).trans queued
  have taken (same : after.carrier = meeting.host.carrier.keep member.channel later) :
      Mails id meeting ⟨session.me, .handle⟩
        (meeting.record after (session.handled envelope.notification answer)) :=
    .taken regular.wired found queued (fun owner => letters_of_carrier (meeting.carry _) same owner) rfl
  rcases envelope with ⟨sender, _ | room | slot⟩
  · rcases Session.handle_cases made outcome with ⟨-, -, rfl | sent⟩ | ⟨slot, wrong, -⟩
    · exact taken rfl
    · exact .answer regular found inside queued (Host.notify_carrier sent)
    · cases wrong
  · cases outcome
    exact taken rfl
  · rcases Session.handle_cases made outcome with ⟨wrong, -, -⟩ | ⟨_, -, takes⟩
    · exact absurd rfl (wrong slot)
    · exact taken takes.carrier

end Mails

/-- Nothing adds to the letters about joins but a join and its answer. -/
theorem mails_of_moves (regular : meeting.Regular base) (connected : meeting.Connected)
    (allowed : undisturbed meeting turn = true) (moves : meeting.Moves turn next)
    (id : ParticipantId) : Mails id meeting turn next := by
  have wired := regular.wired
  cases moves with
  | connect new =>
    refine .of_letters (fun owner => letters_congr (queue_connect new owner)) fun ns waiting => ?_
    refine waiting_setMember (fun ns wrong => ?_) _ waiting
    obtain ⟨member, found, -⟩ := Option.map_eq_some_iff.mp wrong
    cases new.symm.trans found
  | disconnect => cases allowed
  | close => cases allowed
  | drop found => cases allowed
  | create found outside outcome =>
    exact .settle found outside nofun (Session.carrier_of_create outcome)
  | request found outside requested => exact .request wired found outside requested
  | wait found waiting awaited => exact .wait wired connected found waiting awaited
  | attach found approved attached => exact .moved found approved nofun rfl rfl
  | astray found approved => exact .moved found approved nofun rfl rfl
  | register found attached outcome =>
    obtain ⟨-, made⟩ := regular.housed.handles _ _ _ found (by rw [attached]; rfl)
    exact .settle found attached nofun (Session.carrier_of_register made outcome)
  | tell found inside outcome =>
    obtain ⟨-, made⟩ := regular.housed.session_of found inside
    exact .of_letters (letters_tell wired made outcome) fun ns waiting => waiting
  | say found inside outcome =>
    obtain ⟨-, made⟩ := regular.housed.session_of found inside
    exact .of_letters (letters_say wired made outcome) fun ns waiting => waiting
  | handle found inside receives queued outcome => exact .handle regular found inside queued outcome
  | leave found inside outcome =>
    obtain ⟨-, made⟩ := regular.housed.session_of found inside
    exact .moved found inside nofun rfl (Session.leave_vacates made outcome).carrier
  | forge sent => cases allowed
  | nothing => exact .of_letters (fun _ => rfl) fun ns waiting => waiting

end Meeting

end HostChat
