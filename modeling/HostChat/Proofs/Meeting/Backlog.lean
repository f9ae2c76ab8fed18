import HostChat.Proofs.Meeting.Founding

/-! # Messages that are still to be obtained

The backlog of a participant are the messages that were accepted for it and that it has not obtained,
oldest first. While nobody sends notifications of other things than messages, the notifications in an
inbox are those of its backlog, one for each message and in the same order.
-/

namespace HostChat

/-- The messages to a participant, in the order in which they were accepted. -/
def sentTo (id : ParticipantId) (log : List Entry) : List Posting :=
  log.filterMap fun
    | .accepted posting => if posting.message.recipient = id then some posting else none
    | _ => none

/-- The messages that a participant was given, in that order. -/
def obtainedBy (id : ParticipantId) (log : List Entry) : List Posting :=
  log.filterMap fun
    | .returned reader posting => if reader = id then some posting else none
    | _ => none

/-- The slots of which there are notifications in a queue. -/
def announced (queue : List Envelope) : List Nat :=
  queue.filterMap fun envelope =>
    match envelope.notification with
    | .messageReady slot => some slot
    | _ => none

section Lists

variable (id : ParticipantId) (log : List Entry) (queue : List Envelope)

@[simp] theorem sentTo_append (later : List Entry) :
    sentTo id (log ++ later) = sentTo id log ++ sentTo id later :=
  List.filterMap_append

@[simp] theorem obtainedBy_append (later : List Entry) :
    obtainedBy id (log ++ later) = obtainedBy id log ++ obtainedBy id later :=
  List.filterMap_append

theorem sentTo_accepted (posting : Posting) :
    sentTo id [.accepted posting] = if posting.message.recipient = id then [posting] else [] := by
  simp only [sentTo, List.filterMap_cons, List.filterMap_nil]
  split_ifs <;> rfl

@[simp] theorem sentTo_returned (reader : ParticipantId) (posting : Posting) :
    sentTo id [.returned reader posting] = [] := rfl

@[simp] theorem sentTo_left (other : ParticipantId) (store : Nat) :
    sentTo id [.left other store] = [] := rfl

@[simp] theorem obtainedBy_accepted (posting : Posting) : obtainedBy id [.accepted posting] = [] := rfl

theorem obtainedBy_returned (reader : ParticipantId) (posting : Posting) :
    obtainedBy id [.returned reader posting] = if reader = id then [posting] else [] := by
  simp only [obtainedBy, List.filterMap_cons, List.filterMap_nil]
  split_ifs <;> rfl

@[simp] theorem obtainedBy_left (other : ParticipantId) (store : Nat) :
    obtainedBy id [.left other store] = [] := rfl

@[simp] theorem announced_append (later : List Envelope) :
    announced (queue ++ later) = announced queue ++ announced later :=
  List.filterMap_append

theorem announced_cons_of_ne {envelope : Envelope}
    (other : ∀ slot, envelope.notification ≠ .messageReady slot) :
    announced (envelope :: queue) = announced queue := by
  rcases envelope with ⟨sender, _ | _ | slot⟩
  · rfl
  · rfl
  · exact absurd rfl (other slot)

theorem announced_cons_messageReady (sender : ParticipantId) (slot : Nat) :
    announced (⟨sender, .messageReady slot⟩ :: queue) = slot :: announced queue := rfl

/-- Looking for an approval announces nothing. -/
theorem announced_awaitApproval (closed : Bool) (silent : announced queue = []) :
    announced (Session.awaitApproval closed queue).2 = [] := by
  induction queue with
  | nil => rfl
  | cons envelope rest ih =>
    rcases envelope with ⟨sender, _ | room | slot⟩
    · exact ih silent
    · exact silent
    · cases silent

end Lists

/-- Whether somebody who is this far may have had a session. -/
def Phase.Fits (seated : Bool) : Phase → Prop
  | .outside => True
  | .inside _ => seated = true
  | _ => seated = false

theorem Phase.fits_ofAnswer (ns : String) (answer : Option (Except ChatError ParticipantId)) :
    (Phase.ofAnswer ns answer).Fits false := by
  rcases answer with _ | _ | _ <;> trivial

namespace Meeting

variable {base store : Nat} {meeting next : Meeting} {id other : ParticipantId}
  {member changed : Member} {session : Session} {waiting : List Posting} {posting : Posting}

/-- The messages that a participant in the room of a store is still to obtain, oldest first. -/
structure Backlog (meeting : Meeting) (id : ParticipantId) (store : Nat) (waiting : List Posting) :
    Prop where
  announced : announced (meeting.queue id) = waiting.map Posting.slot
  sent : sentTo id meeting.log = obtainedBy id meeting.log ++ waiting
  mem_iff : ∀ posting : Posting, posting ∈ waiting ↔ posting.store = store ∧
    posting.message.recipient = id ∧
      meeting.host.contents posting.store posting.slot = some posting.message
  apart : (waiting.map Posting.slot).Nodup

namespace Backlog

/-- What happens to others does not change the backlog. -/
theorem frame (backlog : meeting.Backlog id store waiting)
    (queue : HostChat.announced (next.queue id) = HostChat.announced (meeting.queue id))
    (sent : sentTo id next.log = sentTo id meeting.log)
    (obtained : obtainedBy id next.log = obtainedBy id meeting.log)
    (lies : ∀ posting : Posting, posting.message.recipient = id →
      (next.host.contents posting.store posting.slot = some posting.message ↔
        meeting.host.contents posting.store posting.slot = some posting.message)) :
    next.Backlog id store waiting where
  announced := queue.trans backlog.announced
  sent := by rw [sent, obtained, backlog.sent]
  mem_iff posting := by
    rw [backlog.mem_iff]
    exact and_congr_right fun _ => and_congr_right fun recipient => (lies posting recipient).symm
  apart := backlog.apart

/-- An accepted message joins the end of the backlog. -/
theorem push (backlog : meeting.Backlog id posting.store waiting)
    (recipient : posting.message.recipient = id)
    (applied : Entry.effect? meeting.host.contents (.accepted posting) = some next.host.contents)
    (queue : HostChat.announced (next.queue id) =
      HostChat.announced (meeting.queue id) ++ [posting.slot])
    (log : next.log = meeting.log ++ [.accepted posting]) :
    next.Backlog id posting.store (waiting ++ [posting]) where
  announced := by rw [queue, backlog.announced, List.map_append, List.map_singleton]
  sent := by simp [log, backlog.sent, sentTo_accepted, recipient]
  mem_iff other := by
    rw [List.mem_append, List.mem_singleton, backlog.mem_iff]
    constructor
    · rintro (⟨here, own, lies⟩ | rfl)
      · refine ⟨here, own, ?_⟩
        rcases Posting.effect?_cases lies applied with ⟨-, still⟩ | wrong | wrong
        · exact still
        · cases wrong
        · cases wrong
      · exact ⟨rfl, recipient, (Posting.lies_of_accepted applied).2⟩
    · rintro ⟨here, own, lies⟩
      rcases Posting.effect?_lies applied lies with same | ⟨-, before⟩
      · cases same
        exact .inr rfl
      · exact .inl ⟨here, own, before⟩
  apart := by
    rw [List.map_append, List.map_singleton, ← List.concat_eq_append, List.nodup_concat]
    refine ⟨fun taken => ?_, backlog.apart⟩
    obtain ⟨other, member, same⟩ := List.mem_map.mp taken
    obtain ⟨here, -, lies⟩ := (backlog.mem_iff other).mp member
    rw [here, same, (Posting.lies_of_accepted applied).1] at lies
    cases lies

/-- The oldest message leaves the backlog when it is obtained. -/
theorem pop (backlog : meeting.Backlog id store (posting :: waiting))
    (applied : Entry.effect? meeting.host.contents (.returned id posting) = some next.host.contents)
    (queue : HostChat.announced (meeting.queue id) =
      posting.slot :: HostChat.announced (next.queue id))
    (log : next.log = meeting.log ++ [.returned id posting]) : next.Backlog id store waiting where
  announced := by
    have both := queue.symm.trans backlog.announced
    exact (List.cons.inj both).2
  sent := by simp [log, backlog.sent, obtainedBy_returned]
  mem_iff other := by
    have fresh := (List.nodup_cons.mp backlog.apart).1
    have before := backlog.mem_iff other
    constructor
    · intro member
      obtain ⟨here, own, lies⟩ := before.mp (List.mem_cons_of_mem _ member)
      refine ⟨here, own, ?_⟩
      rcases Posting.effect?_cases lies applied with ⟨-, still⟩ | same | wrong
      · exact still
      · cases same
        exact absurd (List.mem_map_of_mem member) fresh
      · cases wrong
    · rintro ⟨here, own, lies⟩
      rcases Posting.effect?_lies applied lies with wrong | ⟨kept, lay⟩
      · cases wrong
      · rcases List.mem_cons.mp (before.mpr ⟨here, own, lay⟩) with rfl | member
        · exact absurd ⟨rfl, rfl⟩ kept
        · exact member
  apart := (List.nodup_cons.mp backlog.apart).2

/-- A reader that takes from the slot of its oldest message gets that message. -/
theorem takes {host after : Host Exchange} {answer : Option Message}
    (backlog : meeting.Backlog session.me session.room.store (posting :: waiting))
    (takes : session.Takes posting.slot answer host after)
    (contents : host.contents = meeting.host.contents) :
    answer = some posting.message ∧
      session.handled (.messageReady posting.slot) answer = [.returned session.me posting] ∧
        Entry.effect? meeting.host.contents (.returned session.me posting) = some after.contents := by
  obtain ⟨here, recipient, lies⟩ := (backlog.mem_iff posting).mp (List.mem_cons_self ..)
  rw [here, ← contents] at lies
  cases answer with
  | none => exact absurd recipient (takes.missed rfl posting.message lies)
  | some message =>
    obtain ⟨_, applied, same⟩ := Option.bind_eq_some_iff.mp takes.applied
    cases same
    obtain ⟨held, -⟩ := Posting.lies_of_returned applied
    have equal : posting.message = message := Option.some.inj (lies.symm.trans held)
    have entry : session.handled (.messageReady posting.slot) (some posting.message) =
        [.returned session.me posting] := by
      rw [Session.handled, ← here]
    subst equal
    rw [← here, contents] at applied
    exact ⟨rfl, entry, applied⟩

end Backlog

end Meeting

end HostChat
