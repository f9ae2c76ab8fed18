import HostChat.ChatError
import HostChat.Room.Basic

/-! # Sessions

A session is one participant's membership of a room. A participant creates a room, named after its
own id, or asks any member of a room for the room's id and enters it; it then tells and says things,
handles the notifications in its inbox, and leaves. Messages and the registry are only touched with
the room's lock held, and join requests are answered without it.

As in rooms, `none` stands for waiting for a lock that is not given back.
-/

namespace HostChat

inductive Role where
  | creator
  | joiner
deriving DecidableEq, Repr

def Role.describe : Role → String
  | .creator => "Creator"
  | .joiner => "Joiner"

structure Session where
  me : ParticipantId
  role : Role
  room : Room
deriving DecidableEq, Repr

/-- What became of a message to all others, in the order of the registry. -/
structure Broadcast where
  delivered : List ParticipantId
  failed : List (ParticipantId × ChatError)
deriving DecidableEq, Repr

structure Departure where
  /-- The messages nobody will take any more. -/
  dropped : Nat
  /-- Whether the names of the room went away with its last participant. -/
  unlinked : Bool
deriving DecidableEq, Repr

/-- How far a join has come. -/
inductive Joining where
  /-- No approval is there yet. -/
  | waiting
  | over (result : Except ChatError Session)

/-- The bytes of a text that can be sent as a message. -/
def checkText (text : String) : Except ChatError (List UInt8) :=
  let bytes := Text.utf8 text
  if bytes.isEmpty then .error .emptyMessage
  else if maxMessageBytes < bytes.length then .error (.overflow bytes.length maxMessageBytes)
  else .ok bytes

namespace Session

variable {σ : Type}

def describe (session : Session) : String :=
  "Session \x7b me: " ++ session.me.describe ++ ", role: " ++ session.role.describe ++
    ", room: " ++ session.room.describe ++ ", .. \x7d"

def register (session : Session) (host : Host σ) :
    Option (Except ChatError (Fin maxParticipants) × Host σ) :=
  session.room.guarded host fun host =>
    let memory := session.room.memory host
    match memory.registry.claim session.me with
    | .ok (place, registry) => (.ok place, session.room.setMemory host { memory with registry })
    | .error error => (.error (.ofRoom error), host)

/-- Creates the room of `me` and registers in it. -/
def create (running : ParticipantId → Bool) (ns : String) (me : ParticipantId) (host : Host σ) :
    Option (Except ChatError Session × Host σ) :=
  match Room.create running ns me host with
  | (.error error, host) => some (.error (.ofRoom error), host)
  | (.ok room, host) =>
      let session : Session := ⟨me, .creator, room⟩
      (session.register host).map fun
        | (.ok _, host) => (.ok session, host)
        | (.error error, host) => (.error error, (room.unlink host).2)

def requestJoin [Carrier σ] (me known : ParticipantId) (host : Host σ) :
    Except ChatError (Host σ) :=
  (host.notify me known .joinRequest).mapError (.unreachable known)

/-- Looks for an approval among the envelopes of an inbox. The first one counts, whoever sent it;
what comes before it is lost, and what comes after it stays. Without one, nothing is left. -/
def awaitApproval (closed : Bool) :
    List Envelope → Option (Except ChatError ParticipantId) × List Envelope
  | [] =>
      (if closed then some (.error (.signal "notification channel closed while waiting to join"))
      else none, [])
  | ⟨_, .joinApprove room⟩ :: rest => (some (.ok room), rest)
  | _ :: rest => awaitApproval closed rest

/-- Enters the room of an id that an approval has brought. -/
def enter (ns : String) (me room : ParticipantId) (host : Host σ) :
    Option (Except ChatError Session × Host σ) :=
  match Room.attach ns room host with
  | .error error => some (.error (.ofRoom error), host)
  | .ok room =>
      let session : Session := ⟨me, .joiner, room⟩
      (session.register host).map fun (result, host) => (result.map fun _ => session, host)

/-- Goes on with a join whose request is sent. The result has what is left in the inbox. -/
def resumeJoin (ns : String) (me : ParticipantId) (inbox : Inbox) (host : Host σ) :
    Option (Joining × List Envelope × Host σ) :=
  match awaitApproval inbox.closed inbox.queue with
  | (none, queue) => some (.waiting, queue, host)
  | (some (.error error), queue) => some (.over (.error error), queue, host)
  | (some (.ok room), queue) =>
      (enter ns me room host).map fun (result, host) => (.over result, queue, host)

/-- Asks `known` for its room and goes as far as what is then in the inbox allows. -/
def join [Carrier σ] (ns : String) (me known : ParticipantId) (inbox : σ → Inbox) (host : Host σ) :
    Option (Joining × List Envelope × Host σ) :=
  match requestJoin me known host with
  | .error error => some (.over (.error error), (inbox host.carrier).queue, host)
  | .ok host => resumeJoin ns me (inbox host.carrier) host

def participants (session : Session) (host : Host σ) : Option (List ParticipantId × Host σ) :=
  session.room.inspect host (·.registry.participants)

/-- The number of messages in the mailbox, for whomever they are. -/
def pendingMessages (session : Session) (host : Host σ) : Option (Nat × Host σ) :=
  session.room.inspect host (·.mailbox.occupied)

/-- Stores a text for `target` and notifies it, with the lock held. If the notification cannot be
sent, the slot is free again. -/
def deliver [Carrier σ] (session : Session) (target : ParticipantId) (text : List UInt8)
    (host : Host σ) : Except ChatError (Fin mailboxSlots) × Host σ :=
  let memory := session.room.memory host
  match memory.mailbox.store session.me target text with
  | .error error => (.error (.ofRoom error), host)
  | .ok (slot, mailbox) =>
      let stored := session.room.setMemory host { memory with mailbox }
      match stored.notify session.me target (.messageReady slot) with
      | .ok host => (.ok slot, host)
      | .error fault =>
          (.error (.unreachable target fault),
            session.room.setMemory stored { memory with mailbox := mailbox.release slot })

def tell [Carrier σ] (session : Session) (target : ParticipantId) (text : String) (host : Host σ) :
    Option (Except ChatError (Fin mailboxSlots) × Host σ) :=
  match checkText text with
  | .error error => some (.error error, host)
  | .ok bytes =>
      session.room.guarded host fun host =>
        if (session.room.memory host).registry.contains target then
          session.deliver target bytes host
        else (.error (.unknownParticipant target), host)

def deliverAll [Carrier σ] (session : Session) (text : List UInt8) :
    List ParticipantId → Host σ → Broadcast × Host σ
  | [], host => (⟨[], []⟩, host)
  | recipient :: rest, host =>
      let (result, host) := session.deliver recipient text host
      let (broadcast, host) := session.deliverAll text rest host
      match result with
      | .ok _ => ({ broadcast with delivered := recipient :: broadcast.delivered }, host)
      | .error error => ({ broadcast with failed := (recipient, error) :: broadcast.failed }, host)

/-- Sends a text to all other participants, with the lock held all the time. A recipient that cannot
be served does not keep the others from being served. -/
def say [Carrier σ] (session : Session) (text : String) (host : Host σ) :
    Option (Except ChatError Broadcast × Host σ) :=
  match checkText text with
  | .error error => some (.error error, host)
  | .ok bytes =>
      session.room.guarded host fun host =>
        let recipients := (session.room.memory host).registry.participants.filter (· ≠ session.me)
        let (broadcast, host) := session.deliverAll bytes recipients host
        (.ok broadcast, host)

/-- Reacts to a notification. Requests are answered with the id of the room, if the answer can be
sent; approvals come too late to matter; a message is taken out of its slot. -/
def handle [Carrier σ] (session : Session) (envelope : Envelope) (host : Host σ) :
    Option (Option Message × Host σ) :=
  match envelope.notification with
  | .joinRequest =>
      let answered := host.notify session.me envelope.sender (.joinApprove session.room.id)
      some (none, answered.toOption.getD host)
  | .joinApprove _ => some (none, host)
  | .messageReady slot =>
      session.room.guarded host fun host =>
        let memory := session.room.memory host
        let (message, mailbox) := memory.mailbox.take slot session.me
        (message, session.room.setMemory host { memory with mailbox })

/-- Gives up the place in the registry and the messages still addressed to the participant. The last
one to leave removes the names of the room. -/
def leave (session : Session) (host : Host σ) : Option (Except ChatError Departure × Host σ) :=
  session.room.guarded host fun host =>
    let memory := session.room.memory host
    let (_, registry) := memory.registry.release session.me
    let (dropped, mailbox) := memory.mailbox.purgeFor session.me
    let host := session.room.setMemory host { memory with registry, mailbox }
    if registry.isEmpty then
      match session.room.unlink host with
      | (.ok (), host) => (.ok ⟨dropped, true⟩, host)
      | (.error error, host) => (.error (.ofRoom error), host)
    else (.ok ⟨dropped, false⟩, host)

end Session

end HostChat
