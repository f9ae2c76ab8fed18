import HostChat.Host.Fault
import HostChat.Participant

/-! # Notifications

Besides what they share, participants send each other notifications: of three kinds, with one signed
word as payload, to one participant at a time. A notification never carries a message; it says where
in the mailbox one lies.
-/

namespace HostChat

inductive NotificationKind where
  | joinRequest
  | joinApprove
  | messageReady
deriving DecidableEq, Repr

namespace NotificationKind

def all : List NotificationKind := [.joinRequest, .joinApprove, .messageReady]

/-- The place of the kind among the numbers that stand for kinds. -/
def offset : NotificationKind → Int32
  | .joinRequest => 0
  | .joinApprove => 1
  | .messageReady => 2

def ofOffset? (offset : Int32) : Option NotificationKind :=
  all.find? (·.offset == offset)

end NotificationKind

inductive Notification where
  /-- The sender wants to join the receiver's room. -/
  | joinRequest
  /-- The receiver may join this room. -/
  | joinApprove (room : ParticipantId)
  /-- A message for the receiver lies in this slot of the mailbox. -/
  | messageReady (slot : Nat)
deriving DecidableEq, Repr

namespace Notification

def kind : Notification → NotificationKind
  | .joinRequest => .joinRequest
  | .joinApprove _ => .joinApprove
  | .messageReady _ => .messageReady

/-- The payload. A slot number keeps its low 32 bits. -/
def value : Notification → Int32
  | .joinRequest => 0
  | .joinApprove room => room.raw
  | .messageReady slot => Int32.ofNat slot

/-- The notification of a kind and a payload. Rooms are participants and slot numbers are not
negative, so not every payload makes sense. -/
def decode : NotificationKind → Int32 → Option Notification
  | .joinRequest, _ => some .joinRequest
  | .joinApprove, value => (ParticipantId.ofRaw? value).map .joinApprove
  | .messageReady, value =>
      if 0 ≤ value then some (.messageReady value.toNatClampNeg) else none

end Notification

/-- A notification as its receiver gets it. -/
structure Envelope where
  sender : ParticipantId
  notification : Notification
deriving DecidableEq, Repr

/-- What brings notifications from one participant to another. A notification is on its way as soon
as it is sent; if the system turns it down, nothing has changed. -/
class Carrier (σ : Type) where
  notify (carrier : σ) (sender target : ParticipantId) (notification : Notification) :
    Except Fault σ

/-- What a participant finds in its inbox: the envelopes that came in, oldest first, and whether no
more can come. -/
structure Inbox where
  queue : List Envelope
  closed : Bool
deriving DecidableEq, Repr

end HostChat
