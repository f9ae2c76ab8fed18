import HostChat.Proofs.Exchange
import HostChat.Proofs.Participant
import HostChat.Proofs.Replay
import HostChat.Proofs.Session.Messages

/-! # Meetings

Participants of one process take turns, in any order. Each is connected to the exchange once and is
outside all rooms, on its way into one, or inside with a session. What sessions are told about
messages goes into a ledger.
-/

namespace HostChat

/-- How far a participant has come. -/
inductive Phase where
  | outside
  /-- A request has been sent, and no approval has been found yet. -/
  | waiting (ns : String)
  | approved (ns : String) (room : ParticipantId)
  /-- The room has been found, and the participant is not registered in it yet. -/
  | attached (session : Session)
  | inside (session : Session)
deriving DecidableEq, Repr

namespace Phase

/-- The handle on a room that comes with a phase. -/
def handle? : Phase → Option Session
  | .attached session | .inside session => some session
  | _ => none

def session? : Phase → Option Session
  | .inside session => some session
  | _ => none

theorem session?_eq_some_iff {phase : Phase} {session : Session} :
    phase.session? = some session ↔ phase = .inside session := by
  cases phase <;> simp [session?]

/-- Where a participant is after it has looked for an approval. -/
def ofAnswer (ns : String) : Option (Except ChatError ParticipantId) → Phase
  | none => .waiting ns
  | some (.error _) => .outside
  | some (.ok room) => .approved ns room

@[simp] theorem handle?_ofAnswer (ns : String) (answer : Option (Except ChatError ParticipantId)) :
    (ofAnswer ns answer).handle? = none := by
  rcases answer with _ | _ | _ <;> rfl

@[simp] theorem session?_ofAnswer (ns : String) (answer : Option (Except ChatError ParticipantId)) :
    (ofAnswer ns answer).session? = none := by
  rcases answer with _ | _ | _ <;> rfl

end Phase

structure Member where
  channel : Nat
  /-- Whether the participant still has the receiver of its channel. -/
  receives : Bool
  /-- Whether the participant has ever had a session. -/
  seated : Bool
  phase : Phase
deriving DecidableEq, Repr

structure Meeting where
  host : Host Exchange
  members : Table ParticipantId Member
  log : List Entry
deriving DecidableEq, Repr

inductive Deed where
  | connect
  | disconnect
  /-- The receiver takes no more. -/
  | close
  /-- The receiver goes away with all that is in the channel. -/
  | drop
  | create (running : ParticipantId → Bool) (ns : String)
  /-- A join begins. -/
  | request (ns : String) (known : ParticipantId)
  /-- A join looks for an approval among what is in the inbox. -/
  | wait
  | attach
  | register
  | tell (target : ParticipantId) (text : String)
  | say (text : String)
  /-- The next envelope in the inbox is handled. -/
  | handle
  | leave
  /-- A notification from nowhere goes to the participant. -/
  | forge (sender : ParticipantId) (notification : Notification)

structure Turn where
  id : ParticipantId
  deed : Deed

namespace Meeting

def start (stores : Directory Store) (locks : Directory Nat) : Meeting :=
  ⟨⟨stores, locks, .empty⟩, .empty, []⟩

def carry (meeting : Meeting) (carrier : Exchange) : Meeting :=
  { meeting with host := { meeting.host with carrier } }

/-- What sessions are told goes to the end of the ledger. -/
def record (meeting : Meeting) (host : Host Exchange) (entries : List Entry) : Meeting :=
  { meeting with host, log := meeting.log ++ entries }

@[simp] theorem record_members (meeting : Meeting) (host : Host Exchange) (entries : List Entry) :
    (meeting.record host entries).members = meeting.members := rfl

@[simp] theorem record_log (meeting : Meeting) (host : Host Exchange) (entries : List Entry) :
    (meeting.record host entries).log = meeting.log ++ entries := rfl

theorem record_nil (meeting : Meeting) (host : Host Exchange) :
    meeting.record host [] = { meeting with host } := by
  rw [record, List.append_nil]

theorem record_record (meeting : Meeting) (host after : Host Exchange) (first second : List Entry) :
    (meeting.record host first).record after second = meeting.record after (first ++ second) := by
  simp only [record, List.append_assoc]

def setMember (meeting : Meeting) (id : ParticipantId) (member : Member) : Meeting :=
  { meeting with members := meeting.members.insert id member }

/-- The state in which an attempt to get into a room has ended. -/
def settle (meeting : Meeting) (id : ParticipantId) (member : Member)
    (result : Except ChatError Session) (host : Host Exchange) : Meeting :=
  match result with
  | .ok session =>
      { meeting with host }.setMember id { member with seated := true, phase := .inside session }
  | .error _ => { meeting with host }.setMember id { member with phase := .outside }

def perform (meeting : Meeting) (id : ParticipantId) (member : Member) : Deed → Option Meeting
  | .connect => none
  | .disconnect => some (meeting.carry (meeting.host.carrier.disconnect id))
  | .close => some (meeting.carry (meeting.host.carrier.close member.channel))
  | .drop =>
      some ((meeting.carry (meeting.host.carrier.drop member.channel)).setMember id
        { member with receives := false })
  | .create running ns =>
      match member.phase with
      | .outside =>
          (Session.create running ns id meeting.host).map fun (result, host) =>
            meeting.settle id member result host
      | _ => none
  | .request ns known =>
      match member.phase, Session.requestJoin id known meeting.host with
      | .outside, .ok host =>
          some ({ meeting with host }.setMember id { member with phase := .waiting ns })
      | .outside, .error _ => some meeting
      | _, _ => none
  | .wait =>
      match member.phase, member.receives with
      | .waiting ns, true =>
          let inbox := meeting.host.carrier.inbox member.channel
          let (answer, queue) := Session.awaitApproval inbox.closed inbox.queue
          some ((meeting.carry (meeting.host.carrier.keep member.channel queue)).setMember id
            { member with phase := .ofAnswer ns answer })
      | _, _ => none
  | .attach =>
      match member.phase with
      | .approved ns room =>
          match Room.attach ns room meeting.host with
          | .ok room => some (meeting.setMember id { member with phase := .attached ⟨id, .joiner, room⟩ })
          | .error _ => some (meeting.setMember id { member with phase := .outside })
      | _ => none
  | .register =>
      match member.phase with
      | .attached session =>
          (session.register meeting.host).map fun (result, host) =>
            meeting.settle id member (result.map fun _ => session) host
      | _ => none
  | .tell target text =>
      match member.phase with
      | .inside session =>
          (session.tell target text meeting.host).map fun (result, host) =>
            meeting.record host (session.told target (Text.utf8 text) result)
      | _ => none
  | .say text =>
      match member.phase with
      | .inside session =>
          (session.say text meeting.host).map fun (_, host) =>
            meeting.record host (session.said text meeting.host)
      | _ => none
  | .handle =>
      match member.phase, member.receives, meeting.host.carrier.receive member.channel with
      | .inside session, true, (some envelope, carrier) =>
          (session.handle envelope { meeting.host with carrier }).map fun (answer, host) =>
            meeting.record host (session.handled envelope.notification answer)
      | _, _, _ => none
  | .leave =>
      match member.phase with
      | .inside session =>
          (session.leave meeting.host).map fun (_, host) =>
            (meeting.record host [.left id session.room.store]).setMember id
              { member with phase := .outside }
      | _ => none
  | .forge sender notification =>
      match Carrier.notify meeting.host.carrier sender id notification with
      | .ok carrier => some (meeting.carry carrier)
      | .error _ => some meeting

def step (meeting : Meeting) (turn : Turn) : Option Meeting :=
  match meeting.members.find? turn.id, turn.deed with
  | none, .connect =>
      let (channel, carrier) := meeting.host.carrier.connect turn.id
      some ((meeting.carry carrier).setMember turn.id ⟨channel, true, false, .outside⟩)
  | none, _ => none
  | some member, deed => meeting.perform turn.id member deed

/-- All that a turn of a participant can do. -/
inductive Moves (meeting : Meeting) : Turn → Meeting → Prop where
  | connect {id : ParticipantId} (new : meeting.members.find? id = none) :
      Moves meeting ⟨id, .connect⟩ ((meeting.carry (meeting.host.carrier.connect id).2).setMember id
        ⟨meeting.host.carrier.channels.size, true, false, .outside⟩)
  | disconnect {id : ParticipantId} :
      Moves meeting ⟨id, .disconnect⟩ (meeting.carry (meeting.host.carrier.disconnect id))
  | close {id : ParticipantId} {member : Member} :
      Moves meeting ⟨id, .close⟩ (meeting.carry (meeting.host.carrier.close member.channel))
  | drop {id : ParticipantId} {member : Member} (found : meeting.members.find? id = some member) :
      Moves meeting ⟨id, .drop⟩ ((meeting.carry (meeting.host.carrier.drop member.channel)).setMember
        id { member with receives := false })
  | create {id : ParticipantId} {member : Member} {running : ParticipantId → Bool} {ns : String}
      {result : Except ChatError Session} {after : Host Exchange}
      (found : meeting.members.find? id = some member) (outside : member.phase = .outside)
      (outcome : Session.create running ns id meeting.host = some (result, after)) :
      Moves meeting ⟨id, .create running ns⟩ (meeting.settle id member result after)
  | request {id : ParticipantId} {member : Member} {ns : String} {known : ParticipantId}
      {after : Host Exchange} (found : meeting.members.find? id = some member)
      (outside : member.phase = .outside)
      (requested : Session.requestJoin id known meeting.host = .ok after) :
      Moves meeting ⟨id, .request ns known⟩
        ({ meeting with host := after }.setMember id { member with phase := .waiting ns })
  | wait {id : ParticipantId} {member : Member} {ns : String}
      {answer : Option (Except ChatError ParticipantId)} {queue : List Envelope}
      (found : meeting.members.find? id = some member) (waiting : member.phase = .waiting ns)
      (awaited : Session.awaitApproval (meeting.host.carrier.inbox member.channel).closed
        (meeting.host.carrier.inbox member.channel).queue = (answer, queue)) :
      Moves meeting ⟨id, .wait⟩
        ((meeting.carry (meeting.host.carrier.keep member.channel queue)).setMember id
          { member with phase := .ofAnswer ns answer })
  | attach {id known : ParticipantId} {member : Member} {ns : String} {room : Room}
      (found : meeting.members.find? id = some member) (approved : member.phase = .approved ns known)
      (attached : Room.attach ns known meeting.host = .ok room) :
      Moves meeting ⟨id, .attach⟩
        (meeting.setMember id { member with phase := .attached ⟨id, .joiner, room⟩ })
  | astray {id known : ParticipantId} {member : Member} {ns : String}
      (found : meeting.members.find? id = some member) (approved : member.phase = .approved ns known) :
      Moves meeting ⟨id, .attach⟩ (meeting.setMember id { member with phase := .outside })
  | register {id : ParticipantId} {member : Member} {session : Session}
      {result : Except ChatError (Fin maxParticipants)} {after : Host Exchange}
      (found : meeting.members.find? id = some member) (attached : member.phase = .attached session)
      (outcome : session.register meeting.host = some (result, after)) :
      Moves meeting ⟨id, .register⟩ (meeting.settle id member (result.map fun _ => session) after)
  | tell {id target : ParticipantId} {member : Member} {session : Session} {text : String}
      {result : Except ChatError (Fin mailboxSlots)} {after : Host Exchange}
      (found : meeting.members.find? id = some member) (inside : member.phase = .inside session)
      (outcome : session.tell target text meeting.host = some (result, after)) :
      Moves meeting ⟨id, .tell target text⟩
        (meeting.record after (session.told target (Text.utf8 text) result))
  | say {id : ParticipantId} {member : Member} {session : Session} {text : String}
      {result : Except ChatError Broadcast} {after : Host Exchange}
      (found : meeting.members.find? id = some member) (inside : member.phase = .inside session)
      (outcome : session.say text meeting.host = some (result, after)) :
      Moves meeting ⟨id, .say text⟩ (meeting.record after (session.said text meeting.host))
  | handle {id : ParticipantId} {member : Member} {session : Session} {envelope : Envelope}
      {later : List Envelope} {answer : Option Message} {after : Host Exchange}
      (found : meeting.members.find? id = some member) (inside : member.phase = .inside session)
      (receives : member.receives = true)
      (queued : meeting.host.carrier.queue member.channel = envelope :: later)
      (outcome : session.handle envelope { meeting.host with
        carrier := meeting.host.carrier.keep member.channel later } = some (answer, after)) :
      Moves meeting ⟨id, .handle⟩
        (meeting.record after (session.handled envelope.notification answer))
  | leave {id : ParticipantId} {member : Member} {session : Session}
      {result : Except ChatError Departure} {after : Host Exchange}
      (found : meeting.members.find? id = some member) (inside : member.phase = .inside session)
      (outcome : session.leave meeting.host = some (result, after)) :
      Moves meeting ⟨id, .leave⟩ ((meeting.record after [.left id session.room.store]).setMember id
        { member with phase := .outside })
  | forge {id sender : ParticipantId} {notification : Notification} {carrier : Exchange}
      (sent : Carrier.notify meeting.host.carrier sender id notification = .ok carrier) :
      Moves meeting ⟨id, .forge sender notification⟩ (meeting.carry carrier)
  | nothing {turn : Turn} : Moves meeting turn meeting

theorem moves_of_perform {meeting next : Meeting} {id : ParticipantId} {member : Member} {deed : Deed}
    (found : meeting.members.find? id = some member)
    (performed : meeting.perform id member deed = some next) : meeting.Moves ⟨id, deed⟩ next := by
  cases deed with
  | connect => cases performed
  | disconnect =>
    cases performed
    exact .disconnect
  | close =>
    cases performed
    exact .close
  | drop =>
    cases performed
    exact .drop found
  | create running ns =>
    simp only [perform] at performed
    split at performed
    next outside =>
      obtain ⟨_, outcome, rfl⟩ := Option.map_eq_some_iff.mp performed
      exact .create found outside outcome
    next => cases performed
  | request ns known =>
    simp only [perform] at performed
    split at performed
    next outside requested =>
      cases performed
      exact .request found outside requested
    next =>
      cases performed
      exact .nothing
    next => cases performed
  | wait =>
    simp only [perform] at performed
    split at performed
    next waiting _ =>
      cases performed
      exact .wait found waiting rfl
    next => cases performed
  | attach =>
    simp only [perform] at performed
    split at performed
    next approved =>
      split at performed
      next attached =>
        cases performed
        exact .attach found approved attached
      next =>
        cases performed
        exact .astray found approved
    next => cases performed
  | register =>
    simp only [perform] at performed
    split at performed
    next attached =>
      obtain ⟨_, outcome, rfl⟩ := Option.map_eq_some_iff.mp performed
      exact .register found attached outcome
    next => cases performed
  | tell target text =>
    simp only [perform] at performed
    split at performed
    next inside =>
      obtain ⟨_, outcome, rfl⟩ := Option.map_eq_some_iff.mp performed
      exact .tell found inside outcome
    next => cases performed
  | say text =>
    simp only [perform] at performed
    split at performed
    next inside =>
      obtain ⟨_, outcome, rfl⟩ := Option.map_eq_some_iff.mp performed
      exact .say found inside outcome
    next => cases performed
  | handle =>
    simp only [perform] at performed
    split at performed
    next inside receives received =>
      obtain ⟨later, queued, rfl⟩ := Exchange.receive_eq_some received
      obtain ⟨_, outcome, rfl⟩ := Option.map_eq_some_iff.mp performed
      exact .handle found inside receives queued outcome
    next => cases performed
  | leave =>
    simp only [perform] at performed
    split at performed
    next inside =>
      obtain ⟨_, outcome, rfl⟩ := Option.map_eq_some_iff.mp performed
      exact .leave found inside outcome
    next => cases performed
  | forge sender notification =>
    simp only [perform] at performed
    split at performed
    next sent =>
      cases performed
      exact .forge sent
    next =>
      cases performed
      exact .nothing

theorem moves_of_step {meeting next : Meeting} {turn : Turn}
    (stepped : meeting.step turn = some next) : meeting.Moves turn next := by
  obtain ⟨id, deed⟩ := turn
  simp only [step] at stepped
  cases found : meeting.members.find? id with
  | none =>
    cases deed with
    | connect =>
      simp only [found] at stepped
      cases stepped
      exact .connect found
    | _ =>
      simp only [found] at stepped
      cases stepped
  | some member =>
    simp only [found] at stepped
    exact moves_of_perform found stepped

/-- The inbox of a participant, oldest envelope first. -/
def queue (meeting : Meeting) (id : ParticipantId) : List Envelope :=
  (meeting.members.find? id).elim [] fun member => meeting.host.carrier.queue member.channel

/-- The session that a participant is inside a room with. -/
def session? (meeting : Meeting) (id : ParticipantId) : Option Session :=
  (meeting.members.find? id).bind fun member => member.phase.session?

end Meeting

/-- bert joins the room that anna makes. -/
def arrival : List Turn :=
  [⟨anna, .connect⟩, ⟨bert, .connect⟩, ⟨anna, .create (fun _ => true) "x"⟩,
    ⟨bert, .request "x" anna⟩, ⟨anna, .handle⟩, ⟨bert, .wait⟩, ⟨bert, .attach⟩, ⟨bert, .register⟩]

/-- A message from bert to anna in the first room of a meeting. -/
def toAnna (slot : Nat) (text : String) : Posting := ⟨0, slot, ⟨bert, anna, Text.utf8 text⟩⟩

end HostChat
