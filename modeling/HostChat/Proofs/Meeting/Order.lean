import HostChat.Proofs.Meeting.Backlog

/-! # Messages in the order of their acceptance

Where nobody sends notifications but the sessions, and everybody has one session at most, nobody has
a notification of a message from before its session. So the notifications in an open inbox stay in
step with the backlog, and handling one obtains the oldest message of the backlog, whatever slot
that message lies in.
-/

namespace HostChat

namespace Meeting

variable {base store : Nat} {meeting next : Meeting} {id other : ParticipantId}
  {member changed : Member} {session : Session} {waiting : List Posting} {posting : Posting}
  {after : Host Exchange} {log : List Entry} {turn : Turn}

/-- The policy that all notifications come from sessions, and that everybody has one session. -/
def honest (meeting : Meeting) (turn : Turn) : Bool :=
  match turn.deed with
  | .forge _ _ => false
  | .create _ _ | .request _ _ => (meeting.members.find? turn.id).all fun member => !member.seated
  | _ => true

/-- What is kept for each participant. -/
structure InStep (meeting : Meeting) (id : ParticipantId) : Prop where
  obtained : obtainedBy id meeting.log <+: sentTo id meeting.log
  fits : ∀ member, meeting.members.find? id = some member → member.phase.Fits member.seated
  fresh : (∀ member, meeting.members.find? id = some member → member.seated = false) →
    announced (meeting.queue id) = [] ∧ sentTo id meeting.log = []
  backlog : ∀ member session, meeting.members.find? id = some member →
    member.phase = .inside session → member.receives = true →
      ∃ waiting, meeting.Backlog id session.room.store waiting

namespace InStep

theorem seated (inStep : meeting.InStep id) (found : meeting.members.find? id = some member)
    (inside : member.phase = .inside session) : member.seated = true := by
  have fits := inStep.fits member found
  rwa [inside] at fits

theorem silent (inStep : meeting.InStep id) (found : meeting.members.find? id = some member)
    (unseated : member.seated = false) :
    announced (meeting.queue id) = [] ∧ sentTo id meeting.log = [] :=
  inStep.fresh fun own before => by
    cases found.symm.trans before
    exact unseated

/-- What happens to others does not matter. -/
theorem frame (inStep : meeting.InStep id)
    (member : next.members.find? id = meeting.members.find? id)
    (queue : announced (next.queue id) = announced (meeting.queue id))
    (sent : sentTo id next.log = sentTo id meeting.log)
    (obtained : obtainedBy id next.log = obtainedBy id meeting.log)
    (lies : ∀ posting : Posting, posting.message.recipient = id →
      (next.host.contents posting.store posting.slot = some posting.message ↔
        meeting.host.contents posting.store posting.slot = some posting.message)) :
    next.InStep id where
  obtained := by
    rw [sent, obtained]
    exact inStep.obtained
  fits := by
    rw [member]
    exact inStep.fits
  fresh := by
    rw [member, queue, sent]
    exact inStep.fresh
  backlog own session found inside receives := by
    rw [member] at found
    obtain ⟨waiting, backlog⟩ := inStep.backlog own session found inside receives
    exact ⟨waiting, backlog.frame queue sent obtained lies⟩

/-- A change of the host that moves no message. -/
theorem host (inStep : meeting.InStep id) (contents : after.contents = meeting.host.contents)
    (queue : announced (queue { meeting with host := after } id) = announced (meeting.queue id)) :
    InStep { meeting with host := after } id :=
  inStep.frame rfl queue rfl rfl fun posting _ => by
    change after.contents posting.store posting.slot = some posting.message ↔ _
    rw [contents]

/-- What is to be shown of a participant that moves. -/
theorem moved (obtained : obtainedBy id meeting.log <+: sentTo id meeting.log)
    (fits : changed.phase.Fits changed.seated)
    (fresh : changed.seated = false →
      announced ((meeting.setMember id changed).queue id) = [] ∧ sentTo id meeting.log = [])
    (backlog : ∀ session, changed.phase = .inside session → changed.receives = true →
      ∃ waiting, (meeting.setMember id changed).Backlog id session.room.store waiting) :
    (meeting.setMember id changed).InStep id := by
  have now : (meeting.setMember id changed).members.find? id = some changed := by
    rw [find?_setMember, if_pos rfl]
  refine ⟨obtained, fun own its => ?_, fun never => fresh (never changed now), fun own held its => ?_⟩
  · cases now.symm.trans its
    exact fits
  · cases now.symm.trans its
    exact backlog held

/-- A participant moves, without entering or leaving a room. -/
theorem setMember (inStep : meeting.InStep other) (found : meeting.members.find? id = some member)
    (channel : changed.channel = member.channel) (seated : changed.seated = member.seated)
    (session : changed.phase.session? = member.phase.session?)
    (receives : changed.receives = member.receives) (fits : changed.phase.Fits changed.seated) :
    (meeting.setMember id changed).InStep other := by
  have queues := queue_setMember found channel other
  by_cases same : id = other
  · subst same
    refine moved inStep.obtained fits (fun unseated => ?_) fun held inside takes => ?_
    · rw [queues]
      exact inStep.silent found (seated ▸ unseated)
    · have within : member.phase = .inside held := by
        rw [← Phase.session?_eq_some_iff, ← session, Phase.session?_eq_some_iff, inside]
      obtain ⟨waiting, backlog⟩ := inStep.backlog member held found within (receives ▸ takes)
      exact ⟨waiting, backlog.frame (by rw [queues]) rfl rfl fun _ _ => .rfl⟩
  · exact inStep.frame (find?_setMember_of_ne same changed) (by rw [queues]) rfl rfl
      fun _ _ => .rfl

end InStep

/-- The invariant of a meeting without forged notifications. -/
structure Ordered (base : Nat) (meeting : Meeting) : Prop where
  regular : meeting.Regular base
  founded : meeting.Founded base
  inStep : ∀ id, meeting.InStep id

namespace Ordered

/-- A notification of anything but a message changes nothing. -/
private theorem inStep_notify (ordered : meeting.Ordered base) {sender target : ParticipantId}
    {notification : Notification}
    (sent : meeting.host.notify sender target notification = .ok after)
    (idle : ∀ slot, notification ≠ .messageReady slot) (id : ParticipantId) :
    InStep { meeting with host := after } id := by
  obtain ⟨carrier, notified, rfl⟩ := Host.notify_eq_ok sent
  refine (ordered.inStep id).host rfl ?_
  rw [ordered.regular.wired.queue_notify notified]
  split_ifs
  · rw [announced_append, announced_cons_of_ne _ idle]
    exact List.append_nil _
  · rfl

theorem refuses (ordered : meeting.Ordered base) (refuses : Session.Refuses meeting.host after) :
    Ordered base { meeting with host := after } where
  regular := ordered.regular.refuses refuses
  founded := ordered.founded.sameRooms refuses.members.rooms
  inStep id := (ordered.inStep id).host refuses.contents (by rw [queue_of_carrier refuses.carrier])

/-- An accepted message joins the backlog of its recipient. -/
private theorem inStep_target (ordered : meeting.Ordered base) {target : ParticipantId}
    {text : List UInt8} {slot : Fin mailboxSlots} (made : base ≤ session.room.store)
    (listed : target ∈ (meeting.host.registry session.room.store).participants)
    (posts : session.Posts target text slot meeting.host after) :
    InStep (meeting.record after [.accepted (session.posting target text slot)]) target := by
  have inStep := ordered.inStep target
  have recipient : (session.posting target text slot).message.recipient = target := rfl
  obtain ⟨theirs, there, here⟩ :=
    (ordered.regular.housed.registered session.room.store target made).mp listed
  obtain ⟨own, found, inside⟩ := session?_eq_some there
  refine ⟨?_, inStep.fits, fun never => ?_, fun member held found' inside' receives => ?_⟩
  · simp only [record_log, obtainedBy_append, obtainedBy_accepted, List.append_nil, sentTo_append]
    exact inStep.obtained.trans (List.prefix_append ..)
  · cases (inStep.seated found inside).symm.trans (never own found)
  · obtain ⟨waiting, backlog⟩ := inStep.backlog member held found' inside' receives
    have same : theirs = held := by
      rw [record_members, found, Option.some.injEq] at found'
      rwa [← found', inside, Phase.inside.injEq] at inside'
    rw [← same, here] at backlog ⊢
    refine ⟨_, backlog.push recipient posts.applied ?_ rfl⟩
    rw [ordered.regular.wired.queue_record _ posts.sent, if_pos rfl, announced_append]
    rfl

private theorem inStep_others (ordered : meeting.Ordered base) {target : ParticipantId}
    {text : List UInt8}
    {slot : Fin mailboxSlots} (posts : session.Posts target text slot meeting.host after)
    (different : id ≠ target) :
    InStep (meeting.record after [.accepted (session.posting target text slot)]) id := by
  have other : (session.posting target text slot).message.recipient ≠ id := different.symm
  refine (ordered.inStep id).frame rfl ?_ ?_ ?_ fun posting recipient => ?_
  · rw [ordered.regular.wired.queue_record _ posts.sent, if_neg different]
  · rw [record_log, sentTo_append, sentTo_accepted, if_neg other, List.append_nil]
  · rw [record_log, obtainedBy_append, obtainedBy_accepted, List.append_nil]
  · refine Posting.effect?_lies_iff posts.applied (fun same => ?_) nofun nofun
    cases same
    exact other recipient

theorem posts (ordered : meeting.Ordered base) {target : ParticipantId} {text : List UInt8}
    {slot : Fin mailboxSlots} (made : base ≤ session.room.store)
    (listed : target ∈ (meeting.host.registry session.room.store).participants)
    (posts : session.Posts target text slot meeting.host after) :
    Ordered base (meeting.record after [.accepted (session.posting target text slot)]) where
  regular := ordered.regular.posts listed posts
  founded := ordered.founded.sameRooms posts.members.rooms
  inStep id := by
    by_cases same : id = target
    · rw [same]
      exact ordered.inStep_target made listed posts
    · exact ordered.inStep_others posts same

/-- The oldest message leaves the backlog of its reader. -/
theorem obtains {sender : ParticipantId} {later : List Envelope} (ordered : meeting.Ordered base)
    (found : meeting.members.find? id = some member) (inside : member.phase = .inside session)
    (backlog : meeting.Backlog id session.room.store (posting :: waiting))
    (applied : Entry.effect? meeting.host.contents (.returned id posting) = some after.contents)
    (own : meeting.queue id = ⟨sender, .messageReady posting.slot⟩ :: later)
    (queues : ∀ reader, queue (meeting.record after [.returned id posting]) reader =
      if reader = id then later else meeting.queue reader) (other : ParticipantId) :
    InStep (meeting.record after [.returned id posting]) other := by
  have inStep := ordered.inStep other
  by_cases same : other = id
  · subst same
    refine ⟨⟨waiting, ?_⟩, inStep.fits, fun never => ?_, fun member' held found' within _ => ?_⟩
    · simp [obtainedBy_returned, backlog.sent]
    · cases (inStep.seated found inside).symm.trans (never member found)
    · cases found.symm.trans found'
      cases inside.symm.trans within
      refine ⟨waiting, backlog.pop applied ?_ rfl⟩
      rw [queues, if_pos rfl, own, announced_cons_messageReady]
  · refine inStep.frame rfl ?_ ?_ ?_ fun lying recipient => ?_
    · rw [queues, if_neg same]
    · rw [record_log, sentTo_append, sentTo_returned, List.append_nil]
    · rw [record_log, obtainedBy_append, obtainedBy_returned, if_neg (Ne.symm same), List.append_nil]
    · refine Posting.effect?_lies_iff applied nofun (fun equal => ?_) nofun
      cases equal
      exact same recipient.symm

/-- The next envelope of an inbox is handled. If it is a notification of a message, that message is
the oldest of the backlog. -/
theorem handles {envelope : Envelope} {later : List Envelope} {answer : Option Message}
    (ordered : meeting.Ordered base) (found : meeting.members.find? id = some member)
    (inside : member.phase = .inside session) (receives : member.receives = true)
    (queued : meeting.host.carrier.queue member.channel = envelope :: later)
    (outcome : session.handle envelope { meeting.host with
      carrier := meeting.host.carrier.keep member.channel later } = some (answer, after))
    (other : ParticipantId) :
    InStep (meeting.record after (session.handled envelope.notification answer)) other := by
  have wired := ordered.regular.wired
  have kept := ordered.regular.keep member.channel later
  have own : meeting.queue id = envelope :: later := (queue_of found).trans queued
  obtain ⟨me, made⟩ := kept.housed.session_of found inside
  have inStep := ordered.inStep other
  rcases Session.handle_cases made outcome with ⟨idle, nothing, rest⟩ | ⟨slot, announces, takes⟩
  · have queues (reader : ParticipantId) :
        announced ((meeting.carry (meeting.host.carrier.keep member.channel later)).queue reader) =
          announced (meeting.queue reader) := by
      rw [wired.queue_keep found]
      split_ifs with same
      · rw [same, own, announced_cons_of_ne _ idle]
      · rfl
    have carried : (meeting.carry (meeting.host.carrier.keep member.channel later)).Ordered base :=
      ⟨kept, ordered.founded.carry _, fun reader => (ordered.inStep reader).host rfl (queues reader)⟩
    rw [nothing, record_nil]
    rcases rest with rfl | sent
    · exact carried.inStep other
    · exact carried.inStep_notify sent nofun other
  · obtain ⟨waiting, backlog⟩ := (ordered.inStep id).backlog member session found inside receives
    have head := backlog.announced
    rw [own] at head
    obtain ⟨sender, notification⟩ := envelope
    cases announces
    rw [announced_cons_messageReady] at head
    cases waiting with
    | nil => cases head
    | cons oldest waiting =>
      obtain ⟨rfl, rest⟩ := List.cons.inj head
      subst me
      obtain ⟨rfl, entry, applied⟩ := backlog.takes takes rfl
      rw [entry]
      exact ordered.obtains found inside backlog applied own
        (wired.queue_handled found _ takes.carrier) other

/-- Whoever enters a room has an empty backlog. -/
theorem enters (ordered : meeting.Ordered base) (found : meeting.members.find? id = some member)
    (outside : member.phase.session? = none) (unseated : member.seated = false)
    (made : base ≤ session.room.store) (joins : session.Joins meeting.host after)
    (other : ParticipantId) :
    (({ meeting with host := after } : Meeting).setMember id
      { member with seated := true, phase := .inside session }).InStep other := by
  have there : ({ meeting with host := after } : Meeting).members.find? id = some member := found
  have queues : (({ meeting with host := after } : Meeting).setMember id
      { member with seated := true, phase := .inside session }).queue other = meeting.queue other := by
    rw [queue_setMember there, queue_of_carrier joins.carrier]
    rfl
  have lies (posting : Posting) : after.contents posting.store posting.slot = some posting.message ↔
      meeting.host.contents posting.store posting.slot = some posting.message := by
    rw [joins.contents]
  have inStep := ordered.inStep other
  by_cases same : id = other
  · subst same
    obtain ⟨silent, nothing⟩ := inStep.silent found unseated
    have none : obtainedBy id meeting.log = [] := by
      have obtained := inStep.obtained
      rwa [nothing, List.prefix_nil] at obtained
    refine .moved inStep.obtained rfl nofun fun held within _ => ?_
    · cases within
      refine ⟨[], ?_, ?_, fun posting => ⟨fun member => absurd member List.not_mem_nil, ?_⟩,
        List.nodup_nil⟩
      · rw [queues, silent]
        rfl
      · exact nothing.trans (by rw [List.append_nil]; exact none.symm)
      · rintro ⟨here, recipient, lying⟩
        have nobody := (session?_of found).trans outside
        exact absurd recipient (ordered.regular.housed.none_addressed nobody (here ▸ made)
          ((lies posting).mp lying))
  · exact inStep.frame (find?_setMember_of_ne same _) (by rw [queues]) rfl rfl
      fun posting _ => lies posting

/-- Whoever leaves has no backlog any more, and no other session to come. -/
theorem vacates (ordered : meeting.Ordered base)
    (found : meeting.members.find? session.me = some member)
    (inside : member.phase = .inside session) (vacates : session.Vacates meeting.host after)
    (other : ParticipantId) :
    ((meeting.record after [.left session.me session.room.store]).setMember session.me
        { member with phase := .outside }).InStep other := by
  have there : (meeting.record after [.left session.me session.room.store]).members.find?
      session.me = some member := found
  have queues : ((meeting.record after [.left session.me session.room.store]).setMember session.me
      { member with phase := .outside }).queue other = meeting.queue other := by
    rw [queue_setMember there, queue_record _ vacates.carrier]
    rfl
  have sent (reader : ParticipantId) : sentTo reader
      (meeting.log ++ [.left session.me session.room.store]) = sentTo reader meeting.log := by
    rw [sentTo_append, sentTo_left, List.append_nil]
  have obtained (reader : ParticipantId) : obtainedBy reader
      (meeting.log ++ [.left session.me session.room.store]) = obtainedBy reader meeting.log := by
    rw [obtainedBy_append, obtainedBy_left, List.append_nil]
  have inStep := ordered.inStep other
  by_cases same : session.me = other
  · subst same
    refine .moved ?_ trivial (fun unseated => ?_) nofun
    · rw [record_log, sent, obtained]
      exact inStep.obtained
    · cases (inStep.seated found inside).symm.trans unseated
  · refine inStep.frame (find?_setMember_of_ne same _) (by rw [queues]) (sent other) (obtained other)
      fun posting recipient => ?_
    refine Posting.effect?_lies_iff vacates.applied nofun nofun fun equal => ?_
    exact same ((Entry.left.inj equal).1.trans recipient)

/-- An attempt to get into a room ends outside, or in a room that the meeting has made. -/
private theorem inStep_settle (ordered : meeting.Ordered base) {result : Except ChatError Session}
    (found : meeting.members.find? id = some member) (outside : member.phase.session? = none)
    (unseated : member.seated = false)
    (ends : (∃ error, result = .error error ∧ meeting.host.Spares after) ∨
      ∃ session, result = .ok session ∧ base ≤ session.room.store ∧ session.Joins meeting.host after)
    (other : ParticipantId) : (meeting.settle id member result after).InStep other := by
  rcases ends with ⟨error, rfl, spares⟩ | ⟨session, rfl, made, joins⟩
  · have failed : InStep { meeting with host := after } other :=
      (ordered.inStep other).host spares.contents (by rw [queue_of_carrier spares.carrier])
    exact failed.setMember found rfl rfl outside.symm rfl trivial
  · exact ordered.enters found outside unseated made joins other

/-- Whoever comes for the first time has no notifications and no messages. -/
private theorem inStep_connect (ordered : meeting.Ordered base)
    (new : meeting.members.find? id = none) (other : ParticipantId) :
    ((meeting.carry (meeting.host.carrier.connect id).2).setMember id
      ⟨meeting.host.carrier.channels.size, true, false, .outside⟩).InStep other := by
  have inStep := ordered.inStep other
  by_cases same : id = other
  · subst same
    refine .moved inStep.obtained trivial (fun _ => ?_) nofun
    rw [queue_connect new]
    exact inStep.fresh fun own before => by cases new.symm.trans before
  · exact inStep.frame (find?_setMember_of_ne same _) (by rw [queue_connect new]) rfl rfl
      fun _ _ => .rfl

/-- Whoever gives up its inbox obtains no more messages. -/
private theorem inStep_drop (ordered : meeting.Ordered base)
    (found : meeting.members.find? id = some member) (other : ParticipantId) :
    ((meeting.carry (meeting.host.carrier.drop member.channel)).setMember id
      { member with receives := false }).InStep other := by
  have there : (meeting.carry (meeting.host.carrier.drop member.channel)).members.find? id =
    some member := found
  have queues : ((meeting.carry (meeting.host.carrier.drop member.channel)).setMember id
      { member with receives := false }).queue other =
        if other = id then [] else meeting.queue other := by
    rw [queue_setMember there, ordered.regular.wired.queue_drop found]
    rfl
  have inStep := ordered.inStep other
  by_cases same : id = other
  · subst same
    rw [if_pos rfl] at queues
    refine .moved inStep.obtained (inStep.fits member found) (fun unseated => ?_) nofun
    rw [queues]
    exact ⟨rfl, (inStep.silent found unseated).2⟩
  · refine inStep.frame (find?_setMember_of_ne same _) ?_ rfl rfl fun _ _ => .rfl
    rw [queues, if_neg (Ne.symm same)]

/-- What a join throws away while it waits for an approval announces nothing. -/
private theorem inStep_wait (ordered : meeting.Ordered base) {ns : String}
    {answer : Option (Except ChatError ParticipantId)} {queue : List Envelope}
    (found : meeting.members.find? id = some member) (waiting : member.phase = .waiting ns)
    (awaited : Session.awaitApproval (meeting.host.carrier.inbox member.channel).closed
      (meeting.host.carrier.inbox member.channel).queue = (answer, queue)) (other : ParticipantId) :
    ((meeting.carry (meeting.host.carrier.keep member.channel queue)).setMember id
      { member with phase := .ofAnswer ns answer }).InStep other := by
  have unseated := (ordered.inStep id).fits member found
  rw [waiting] at unseated
  obtain ⟨silent, -⟩ := (ordered.inStep id).silent found unseated
  have kept : announced queue = [] := by
    rw [Exchange.inbox_queue, ← queue_of found] at awaited
    have rest := announced_awaitApproval (meeting.queue id)
      (meeting.host.carrier.inbox member.channel).closed silent
    rwa [awaited] at rest
  have carried : (meeting.carry (meeting.host.carrier.keep member.channel queue)).InStep other := by
    refine (ordered.inStep other).host rfl ?_
    change announced (Meeting.queue (meeting.carry _) other) = _
    rw [ordered.regular.wired.queue_keep found]
    split_ifs with same
    · rw [same, silent, kept]
    · rfl
  refine carried.setMember found rfl rfl ?_ rfl ?_
  · rw [waiting, Phase.session?_ofAnswer]
    rfl
  · change Phase.Fits member.seated (.ofAnswer ns answer)
    rw [unseated]
    exact Phase.fits_ofAnswer ns answer

theorem step (ordered : meeting.Ordered base) (allowed : honest meeting turn = true)
    (moves : meeting.Moves turn next) : next.Ordered base := by
  have regular := ordered.regular.step moves
  have founded := ordered.founded.step ordered.regular moves
  refine ⟨regular, founded, fun other => ?_⟩
  have inStep := ordered.inStep other
  cases moves with
  | connect new => exact ordered.inStep_connect new other
  | disconnect => exact inStep.host rfl rfl
  | close =>
    refine inStep.host rfl ?_
    exact congrArg announced (queue_close ..)
  | drop found => exact ordered.inStep_drop found other
  | @create id member running ns result after found outside outcome =>
    have unseated : member.seated = false := by simpa [honest, found] using allowed
    refine ordered.inStep_settle found (by rw [outside]; rfl) unseated ?_ other
    rcases Session.create_forgets_or_opens outcome with
      ⟨error, rfl, forgets⟩ | ⟨session, _, _, rfl, me, opens⟩
    · exact .inl ⟨error, rfl, forgets.spares⟩
    · exact .inr ⟨session, rfl, opens.store ▸ ordered.regular.housed.grown, opens.joins⟩
  | @request id member ns known after found outside requested =>
    have unseated : member.seated = false := by simpa [honest, found] using allowed
    have asked := ordered.inStep_notify (Session.requestJoin_eq_ok requested)
      (fun _ same => by cases same) other
    exact asked.setMember found rfl rfl (by rw [outside]; rfl) rfl unseated
  | wait found waiting awaited => exact ordered.inStep_wait found waiting awaited other
  | attach found approved attached =>
    have unseated := (ordered.inStep _).fits _ found
    rw [approved] at unseated
    exact inStep.setMember found rfl rfl (by rw [approved]; rfl) rfl unseated
  | astray found approved =>
    exact inStep.setMember found rfl rfl (by rw [approved]; rfl) rfl trivial
  | register found attached outcome =>
    have unseated := (ordered.inStep _).fits _ found
    rw [attached] at unseated
    obtain ⟨-, there⟩ := ordered.regular.housed.handles _ _ _ found (by rw [attached]; rfl)
    obtain ⟨made, -⟩ := ordered.founded.handles _ _ _ found (by rw [attached]; rfl)
    refine ordered.inStep_settle found (by rw [attached]; rfl) unseated ?_ other
    rcases Session.register_cases _ there outcome with ⟨error, rfl, rfl⟩ | ⟨place, rfl, registers⟩
    · exact .inl ⟨error, rfl, .refl _⟩
    · exact .inr ⟨_, rfl, made, registers.joins there⟩
  | tell found inside outcome =>
    obtain ⟨-, there⟩ := ordered.regular.housed.session_of found inside
    obtain ⟨made, -⟩ := ordered.founded.session_of found inside
    have told := Session.tell_invariant (fun host log => Ordered base { meeting with host, log }) there
      outcome (fun _ refuses => ordered.refuses refuses)
        fun _ _ _ listed posts => ordered.posts made listed posts
    exact told.inStep other
  | say found inside outcome =>
    obtain ⟨-, there⟩ := ordered.regular.housed.session_of found inside
    obtain ⟨made, -⟩ := ordered.founded.session_of found inside
    have said := Session.say_invariant (fun host log => Ordered base { meeting with host, log })
      meeting.log there outcome ordered (fun _ _ _ _ held refuses => held.refuses refuses)
        fun _ _ _ _ _ _ members held listed posts =>
          held.posts made (members.registry _ ▸ listed) posts
    exact said.inStep other
  | handle found inside receives queued outcome =>
    exact ordered.handles found inside receives queued outcome other
  | leave found inside outcome =>
    obtain ⟨me, there⟩ := ordered.regular.housed.session_of found inside
    subst me
    exact ordered.vacates found inside (Session.leave_vacates there outcome) other
  | forge sent => cases allowed
  | nothing => exact inStep

theorem start {stores : Directory Store} {locks : Directory Nat}
    (nameless : (Meeting.start stores locks).host.Nameless) :
    (Meeting.start stores locks).Ordered stores.objects.size where
  regular := .start stores locks
  founded := .start nameless
  inStep id := by
    refine ⟨List.nil_prefix, fun _ found => ?_, fun _ => ⟨rfl, rfl⟩, fun _ _ found => ?_⟩
    · cases found
    · cases found

theorem backlog_of (ordered : meeting.Ordered base) (inside : meeting.session? id = some session)
    (found : meeting.members.find? id = some member) (receives : member.receives = true) :
    session.me = id ∧ ∃ waiting, meeting.Backlog id session.room.store waiting := by
  obtain ⟨own, there, within⟩ := session?_eq_some inside
  cases found.symm.trans there
  exact ⟨(ordered.regular.housed.session_of found within).1,
    (ordered.inStep id).backlog member session found within receives⟩

/-- Handling the notification at the head of an open inbox gives the oldest message. -/
theorem handle_head {sender : ParticipantId} {slot : Nat} {later : List Envelope}
    (ordered : meeting.Ordered base) (inside : meeting.session? id = some session)
    (found : meeting.members.find? id = some member) (receives : member.receives = true)
    (queued : meeting.queue id = ⟨sender, .messageReady slot⟩ :: later) :
    ∃ message after, session.handle ⟨sender, .messageReady slot⟩ { meeting.host with
        carrier := meeting.host.carrier.keep member.channel later } = some (some message, after) ∧
      (sentTo id meeting.log)[(obtainedBy id meeting.log).length]? =
        some ⟨session.room.store, slot, message⟩ := by
  obtain ⟨rfl, waiting, backlog⟩ := ordered.backlog_of inside found receives
  have kept := ordered.regular.keep member.channel later
  obtain ⟨own, there, within⟩ := session?_eq_some inside
  cases found.symm.trans there
  obtain ⟨-, made⟩ := kept.housed.session_of found within
  obtain ⟨-, unlocked⟩ := ordered.founded.session_of found within
  have head := backlog.announced
  rw [queued, announced_cons_messageReady] at head
  cases waiting with
  | nil => cases head
  | cons oldest waiting =>
    obtain ⟨rfl, -⟩ := List.cons.inj head
    obtain ⟨here, -⟩ := (backlog.mem_iff oldest).mp (List.mem_cons_self ..)
    obtain ⟨taken, -⟩ := backlog.takes (Session.takes_takeHeld oldest.slot made) rfl
    have carried : session.room.Unlocked { meeting.host with
      carrier := meeting.host.carrier.keep member.channel later } := unlocked
    refine ⟨oldest.message, _,
      Session.handle_messageReady_eq_some_iff.mpr ⟨carried, Prod.ext taken rfl⟩, ?_⟩
    · rw [backlog.sent, List.getElem?_append_right (Nat.le_refl _), Nat.sub_self, ← here]
      rfl

end Ordered

/-- An inbox that is in step with the mailbox of its participant's room. -/
structure Tracks (meeting : Meeting) (id : ParticipantId) (channel : Nat) (session : Session) :
    Prop where
  /-- No slot is announced twice. -/
  distinct : (announced (meeting.queue id)).Nodup
  /-- The slots that are announced are those in which messages to the participant lie. -/
  announced_iff : ∀ slot, slot ∈ announced (meeting.queue id) ↔ ∃ message,
    meeting.host.contents session.room.store slot = some message ∧ message.recipient = id
  /-- Handling a notification gives the oldest message that has not been obtained. -/
  handle : ∀ sender slot later, meeting.queue id = ⟨sender, .messageReady slot⟩ :: later →
    ∃ message after, session.handle ⟨sender, .messageReady slot⟩ { meeting.host with
        carrier := meeting.host.carrier.keep channel later } = some (some message, after) ∧
      (sentTo id meeting.log)[(obtainedBy id meeting.log).length]? =
        some ⟨session.room.store, slot, message⟩
  /-- The notifications come in the order of the messages that are still to be obtained. -/
  order : ∃ waiting, sentTo id meeting.log = obtainedBy id meeting.log ++ waiting ∧
    announced (meeting.queue id) = waiting.map Posting.slot

/-- Messages are obtained in the order of their acceptance. -/
structure InOrder (base : Nat) (meeting : Meeting) : Prop where
  inbox : ∀ id member store, base ≤ store →
    id ∈ (meeting.host.registry store).participants → meeting.members.find? id = some member →
      member.receives = true → ∃ session, meeting.session? id = some session ∧
        session.room.store = store ∧ meeting.Tracks id member.channel session
  obtained : ∀ id, obtainedBy id meeting.log <+: sentTo id meeting.log
  obtainedFrom : ∀ id sender,
    (obtainedBy id meeting.log).filter (·.message.sender = sender) <+:
      (sentTo id meeting.log).filter (·.message.sender = sender)

theorem Ordered.inOrder (ordered : meeting.Ordered base) : meeting.InOrder base where
  inbox id member store made registered found receives := by
    obtain ⟨session, inside, here⟩ := (ordered.regular.housed.registered store id made).mp registered
    obtain ⟨-, waiting, backlog⟩ := ordered.backlog_of inside found receives
    refine ⟨session, inside, here, ?_⟩
    exact
      { distinct := by
          rw [backlog.announced]
          exact backlog.apart
        announced_iff := fun slot => by
          rw [backlog.announced, List.mem_map]
          constructor
          · rintro ⟨posting, waits, rfl⟩
            obtain ⟨there, recipient, lies⟩ := (backlog.mem_iff posting).mp waits
            exact ⟨posting.message, there ▸ lies, recipient⟩
          · rintro ⟨message, lies, recipient⟩
            exact ⟨⟨session.room.store, slot, message⟩,
              (backlog.mem_iff _).mpr ⟨rfl, recipient, lies⟩, rfl⟩
        handle := fun sender slot later queued => ordered.handle_head inside found receives queued
        order := ⟨waiting, backlog.sent, backlog.announced⟩ }
  obtained id := (ordered.inStep id).obtained
  obtainedFrom id sender := (ordered.inStep id).obtained.filter _

/-- bert's third message takes the slot of the first one, which anna has obtained by then. -/
def reuse : List Turn :=
  arrival ++ [⟨bert, .tell anna "one"⟩, ⟨bert, .tell anna "two"⟩, ⟨anna, .handle⟩,
    ⟨bert, .tell anna "three"⟩]

/-- In a meeting without names at the beginning and without notifications from nowhere, all messages
are obtained in the order of their acceptance, which need not be that of their slots. -/
theorem in_order_of_acceptance :
    (∀ {stores : Directory Store} {locks : Directory Nat} {turns : List Turn} {final : Meeting},
      (start stores locks).host.Nameless →
        replay? (restrict honest step) (start stores locks) turns = some final →
          final.InOrder stores.objects.size) ∧
    ∃ turns final, replay? (restrict honest step) (start .empty .empty) turns = some final ∧
      ¬(announced (final.queue anna)).Pairwise (· ≤ ·) := by
  constructor
  · intro stores locks turns final nameless run
    have ordered : final.Ordered stores.objects.size := by
      refine replay?_invariant _ (fun meeting turn next ordered stepped => ?_)
        (Ordered.start nameless) run
      obtain ⟨allowed, stepped⟩ := restrict_eq_some_iff.mp stepped
      exact ordered.step allowed (moves_of_step stepped)
    exact ordered.inOrder
  · have facts : (replay? (restrict honest step) (start .empty .empty) reuse).map
        (fun final => announced (final.queue anna)) = some [1, 0] := by
      decide +kernel
    obtain ⟨final, run, pending⟩ := Option.map_eq_some_iff.mp facts
    refine ⟨reuse, final, run, ?_⟩
    rw [pending]
    decide

theorem in_order_after_reuse : ∃ final,
    replay? (restrict honest step) (start .empty .empty) reuse = some final ∧
      final.log = [.accepted (toAnna 0 "one"), .accepted (toAnna 1 "two"),
        .returned anna (toAnna 0 "one"), .accepted (toAnna 0 "three")] ∧
      announced (final.queue anna) = [1, 0] ∧ final.InOrder 0 := by
  have facts : (replay? (restrict honest step) (start .empty .empty) reuse).map
      (fun final => (final.log, announced (final.queue anna))) =
        some ([.accepted (toAnna 0 "one"), .accepted (toAnna 1 "two"),
          .returned anna (toAnna 0 "one"), .accepted (toAnna 0 "three")], [1, 0]) := by
    decide +kernel
  obtain ⟨final, run, same⟩ := Option.map_eq_some_iff.mp facts
  obtain ⟨log, pending⟩ := Prod.mk.inj same
  have nameless : (start .empty .empty).host.Nameless := ⟨fun _ => rfl, fun _ => rfl⟩
  exact ⟨final, run, log, pending, in_order_of_acceptance.1 nameless run⟩

end Meeting

end HostChat
