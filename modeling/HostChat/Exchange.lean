import HostChat.Notification.Basic
import HostChat.Table

/-! # Exchange

Notifications between participants of one process. Whoever connects gets a channel of its own, and a
notification goes to the channel its target connected last. A channel has one receiver, which may
close it, or drop it with all that it still holds; a channel without a connection behind it still
gives out what it holds. A target without an open channel is no process.
-/

namespace HostChat

structure Channel where
  owner : ParticipantId
  queue : List Envelope
  /-- Whether the receiver takes more. -/
  accepting : Bool
deriving DecidableEq, Repr

/-- Channels are numbered in the order of their connections, and `routes` leads from a participant to
the number of its channel. -/
structure Exchange where
  channels : Array Channel
  routes : Table ParticipantId Nat
deriving DecidableEq, Repr

namespace Exchange

def empty : Exchange := ⟨#[], .empty⟩

/-- Connects `id` with a new channel, in place of an earlier one. -/
def connect (exchange : Exchange) (id : ParticipantId) : Nat × Exchange :=
  let number := exchange.channels.size
  (number, ⟨exchange.channels.push ⟨id, [], true⟩, exchange.routes.insert id number⟩)

def disconnect (exchange : Exchange) (id : ParticipantId) : Exchange :=
  { exchange with routes := exchange.routes.erase id }

def modifyChannel (exchange : Exchange) (number : Nat) (change : Channel → Channel) : Exchange :=
  { exchange with channels := exchange.channels.modify number change }

/-- The receiver takes no more; what is queued stays. -/
def close (exchange : Exchange) (number : Nat) : Exchange :=
  exchange.modifyChannel number fun channel => { channel with accepting := false }

/-- The receiver goes away. -/
def drop (exchange : Exchange) (number : Nat) : Exchange :=
  exchange.modifyChannel number fun channel => { channel with queue := [], accepting := false }

/-- The channel that notifications to `id` go to. -/
def target? (exchange : Exchange) (id : ParticipantId) : Option Nat := do
  let number ← exchange.routes.find? id
  let channel ← exchange.channels[number]?
  if channel.accepting then some number else none

def notify (exchange : Exchange) (sender target : ParticipantId) (notification : Notification) :
    Except Fault Exchange :=
  match exchange.target? target with
  | none => .error .noSuchProcess
  | some number =>
      .ok (exchange.modifyChannel number fun channel =>
        { channel with queue := channel.queue ++ [⟨sender, notification⟩] })

instance : Carrier Exchange where
  notify := notify

/-- What the receiver of a channel finds. No more can come if the receiver has closed the channel or
the connection is gone. -/
def inbox (exchange : Exchange) (number : Nat) : Inbox :=
  match exchange.channels[number]? with
  | none => ⟨[], true⟩
  | some channel =>
      ⟨channel.queue,
        !(channel.accepting && exchange.routes.find? channel.owner == some number)⟩

/-- Leaves `queue` in a channel after its receiver has taken the rest. -/
def keep (exchange : Exchange) (number : Nat) (queue : List Envelope) : Exchange :=
  exchange.modifyChannel number fun channel => { channel with queue }

/-- Takes the oldest envelope out of a channel. -/
def receive (exchange : Exchange) (number : Nat) : Option Envelope × Exchange :=
  match (exchange.inbox number).queue with
  | [] => (none, exchange)
  | envelope :: rest => (some envelope, exchange.keep number rest)

end Exchange

end HostChat
