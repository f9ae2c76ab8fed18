import HostChat.Exchange
import Mathlib.Tactic.SplitIfs

/-! # What lies in the channels of an exchange

A notification goes to the end of one channel or nowhere. Closing a channel and cutting a connection
leave everything in the channels as it is, and a new channel is empty.
-/

namespace HostChat

namespace Exchange

variable {exchange sent : Exchange} {sender target : ParticipantId} {notification : Notification}
  {number other : Nat}

/-- The envelopes in a channel, oldest first. -/
def queue (exchange : Exchange) (number : Nat) : List Envelope :=
  (exchange.channels[number]?).elim [] Channel.queue

theorem inbox_queue (exchange : Exchange) (number : Nat) :
    (exchange.inbox number).queue = exchange.queue number := by
  simp only [inbox, queue]
  cases exchange.channels[number]? <;> rfl

@[simp] theorem modifyChannel_size (exchange : Exchange) (number : Nat) (change : Channel → Channel) :
    (exchange.modifyChannel number change).channels.size = exchange.channels.size := by
  simp [modifyChannel]

theorem queue_modifyChannel (change : Channel → Channel) :
    (exchange.modifyChannel number change).queue other =
      if other = number then (exchange.channels[number]?).elim [] fun channel => (change channel).queue
      else exchange.queue other := by
  simp only [queue, modifyChannel, Array.getElem?_modify]
  by_cases same : number = other
  · subst same
    cases exchange.channels[number]? <;> simp
  · simp [same, Ne.symm same]

/-- A change of a channel that spares its queue. -/
theorem queue_modifyChannel_of_queue (change : Channel → Channel)
    (spares : ∀ channel, (change channel).queue = channel.queue) :
    (exchange.modifyChannel number change).queue other = exchange.queue other := by
  rw [queue_modifyChannel]
  split_ifs with same
  · rw [same, queue]
    exact congrArg _ (funext spares)
  · rfl

theorem queue_keep (queue : List Envelope) (made : number < exchange.channels.size) :
    (exchange.keep number queue).queue other =
      if other = number then queue else exchange.queue other := by
  rw [keep, queue_modifyChannel, Array.getElem?_eq_getElem made]
  rfl

theorem queue_drop (exchange : Exchange) (number other : Nat) :
    (exchange.drop number).queue other = if other = number then [] else exchange.queue other := by
  rw [drop, queue_modifyChannel]
  cases exchange.channels[number]? <;> rfl

theorem queue_connect (exchange : Exchange) (id : ParticipantId) (other : Nat) :
    (exchange.connect id).2.queue other = exchange.queue other := by
  simp only [queue, connect, Array.getElem?_push]
  split_ifs with new
  · subst new
    simp
  · rfl

theorem target?_eq_some (found : exchange.target? target = some number) :
    exchange.routes.find? target = some number ∧ number < exchange.channels.size := by
  simp only [target?] at found
  obtain ⟨reached, route, rest⟩ := Option.bind_eq_some_iff.mp found
  obtain ⟨channel, there, accepts⟩ := Option.bind_eq_some_iff.mp rest
  split_ifs at accepts
  cases accepts
  exact ⟨route, (Array.getElem?_eq_some_iff.mp there).1⟩

/-- A notification that is sent is the last one in the channel that its target is connected to. -/
theorem notify_eq_ok
    (success : Carrier.notify exchange sender target notification = .ok sent) :
    ∃ number, exchange.routes.find? target = some number ∧ sent.routes = exchange.routes ∧
      sent.channels.size = exchange.channels.size ∧ ∀ other, sent.queue other =
        if other = number then exchange.queue other ++ [⟨sender, notification⟩]
        else exchange.queue other := by
  change exchange.notify sender target notification = .ok sent at success
  simp only [notify] at success
  cases found : exchange.target? target with
  | none =>
    rw [found] at success
    cases success
  | some number =>
    rw [found] at success
    cases success
    obtain ⟨route, made⟩ := target?_eq_some found
    refine ⟨number, route, rfl, by simp, fun other => ?_⟩
    rw [queue_modifyChannel, Array.getElem?_eq_getElem made]
    split_ifs with same
    · rw [same, queue, Array.getElem?_eq_getElem made]
      rfl
    · rfl

theorem notify_of_target (sender : ParticipantId) (notification : Notification)
    (reached : exchange.target? target = some number) :
    ∃ sent, Carrier.notify exchange sender target notification = .ok sent := by
  change ∃ sent, exchange.notify sender target notification = .ok sent
  rw [notify, reached]
  exact ⟨_, rfl⟩

theorem receive_of_queue {envelope : Envelope} {later : List Envelope}
    (queued : exchange.queue number = envelope :: later) :
    exchange.receive number = (some envelope, exchange.keep number later) := by
  rw [receive, inbox_queue, queued]

theorem receive_eq_some {envelope : Envelope} {rest : Exchange}
    (received : exchange.receive number = (some envelope, rest)) :
    ∃ later, exchange.queue number = envelope :: later ∧ rest = exchange.keep number later := by
  simp only [receive, inbox_queue] at received
  cases queued : exchange.queue number with
  | nil =>
    rw [queued] at received
    cases received
  | cons first later =>
    rw [queued] at received
    cases received
    exact ⟨later, rfl, rfl⟩

/-- Notifications to `id` go to a channel, and its receiver takes them. -/
structure Serves (exchange : Exchange) (id : ParticipantId) (number : Nat) : Prop where
  route : exchange.routes.find? id = some number
  accepts : ∃ queue, exchange.channels[number]? = some ⟨id, queue, true⟩

namespace Serves

variable {id : ParticipantId}

theorem inbox_closed (serves : exchange.Serves id number) : (exchange.inbox number).closed = false := by
  obtain ⟨queue, there⟩ := serves.accepts
  simp [inbox, there, serves.route]

/-- What lies in a channel does not matter. -/
theorem modifyChannel (serves : exchange.Serves id number) {change : Channel → Channel}
    (owner : ∀ channel, (change channel).owner = channel.owner)
    (accepting : ∀ channel, (change channel).accepting = channel.accepting) :
    (exchange.modifyChannel other change).Serves id number := by
  obtain ⟨queue, there⟩ := serves.accepts
  refine ⟨serves.route, ?_⟩
  simp only [Exchange.modifyChannel, Array.getElem?_modify, there]
  split_ifs
  · refine ⟨(change ⟨id, queue, true⟩).queue, congrArg some ?_⟩
    rw [Channel.mk.injEq]
    exact ⟨owner _, rfl, accepting _⟩
  · exact ⟨queue, rfl⟩

theorem keep (serves : exchange.Serves id number) (queue : List Envelope) :
    (exchange.keep other queue).Serves id number :=
  serves.modifyChannel (fun _ => rfl) fun _ => rfl

theorem notify (serves : exchange.Serves id number)
    (success : Carrier.notify exchange sender target notification = .ok sent) :
    sent.Serves id number := by
  change exchange.notify sender target notification = .ok sent at success
  simp only [Exchange.notify] at success
  split at success
  · cases success
  · cases success
    exact serves.modifyChannel (fun _ => rfl) fun _ => rfl

/-- Those who come later get channels of their own. -/
theorem connect (serves : exchange.Serves id number) {new : ParticipantId} (different : new ≠ id) :
    (exchange.connect new).2.Serves id number := by
  obtain ⟨queue, there⟩ := serves.accepts
  refine ⟨?_, queue, ?_⟩
  · rw [Exchange.connect, Table.find?_insert, if_neg different]
    exact serves.route
  · have made : number < exchange.channels.size := (Array.getElem?_eq_some_iff.mp there).1
    rw [Exchange.connect, Array.getElem?_push_lt made, ← Array.getElem?_eq_getElem made]
    exact there

end Serves

theorem serves_connect (exchange : Exchange) (id : ParticipantId) :
    (exchange.connect id).2.Serves id exchange.channels.size := by
  refine ⟨?_, [], ?_⟩
  · rw [connect, Table.find?_insert, if_pos rfl]
  · simp [connect]

end Exchange

end HostChat
