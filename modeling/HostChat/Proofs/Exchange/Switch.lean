import HostChat.Proofs.Answers
import HostChat.Proofs.Exchange.Routes
import HostChat.Proofs.Participant

/-! # The exchange as a switch

Everything that is done with an exchange is done by its own operations, by notifiers and by the
receivers of inboxes; the latter two go by the number of the connection that they came with, and are
still there when the connection is not. A switch that keeps no state, but looks at all that has been
done before, answers in the same way.
-/

namespace HostChat

namespace Exchange

/-- What a receiver finds that looks into its inbox. -/
inductive Reading where
  | envelope (envelope : Envelope)
  /-- Nothing is there yet. -/
  | nothing
  /-- Nothing is there, and nothing will come. -/
  | closed
deriving DecidableEq, Repr

inductive Deed where
  | connect (id : ParticipantId)
  | disconnect (id : ParticipantId)
  | notify (notifier : Nat) (target : ParticipantId) (notification : Notification)
  | close (inbox : Nat)
  | drop (inbox : Nat)
  | read (inbox : Nat)
deriving DecidableEq, Repr

inductive Outcome where
  /-- The notifier and the inbox of this number are given out. -/
  | connected (number : Nat)
  | done
  | notified (result : Except Fault Unit)
  | found (reading : Reading)
  /-- There is no such notifier or inbox. -/
  | unknown
deriving DecidableEq, Repr

def read (exchange : Exchange) (inbox : Nat) : Reading × Exchange :=
  match exchange.receive inbox with
  | (some envelope, rest) => (.envelope envelope, rest)
  | (none, rest) => (if (exchange.inbox inbox).closed then .closed else .nothing, rest)

/-- A notifier sends under the id that it was made for. -/
def perform (exchange : Exchange) : Deed → Outcome × Exchange
  | .connect id => (.connected (exchange.connect id).1, (exchange.connect id).2)
  | .disconnect id => (.done, exchange.disconnect id)
  | .notify notifier target notification =>
      match exchange.channels[notifier]? with
      | none => (.unknown, exchange)
      | some channel =>
          match exchange.notify channel.owner target notification with
          | .ok sent => (.notified (.ok ()), sent)
          | .error fault => (.notified (.error fault), exchange)
  | .close inbox =>
      if inbox < exchange.channels.size then (.done, exchange.close inbox) else (.unknown, exchange)
  | .drop inbox =>
      if inbox < exchange.channels.size then (.done, exchange.drop inbox) else (.unknown, exchange)
  | .read inbox =>
      if inbox < exchange.channels.size then
        (.found (exchange.read inbox).1, (exchange.read inbox).2)
      else (.unknown, exchange)

/-! ### A switch that looks back

What has been done is listed from the latest deed to the first.
-/

namespace Switch

/-- The ids of all connections, by their numbers. -/
def connections : List Deed → List ParticipantId
  | [] => []
  | .connect id :: earlier => connections earlier ++ [id]
  | _ :: earlier => connections earlier

/-- The latest connection of somebody who has not been disconnected since. -/
def line? (target : ParticipantId) : List Deed → Option Nat
  | [] => none
  | .connect id :: earlier =>
      if id = target then some (connections earlier).length else line? target earlier
  | .disconnect id :: earlier => if id = target then none else line? target earlier
  | _ :: earlier => line? target earlier

/-- Whether the inbox of a connection has been neither closed nor dropped since. -/
def isOpen (number : Nat) : List Deed → Bool
  | [] => false
  | .connect _ :: earlier => number == (connections earlier).length || isOpen number earlier
  | .close inbox :: earlier | .drop inbox :: earlier => inbox != number && isOpen number earlier
  | _ :: earlier => isOpen number earlier

/-- The inbox that notifications to `target` get into. -/
def destination? (target : ParticipantId) (history : List Deed) : Option Nat :=
  (line? target history).filter (isOpen · history)

/-- What a notification brings into an inbox: one envelope with the id of its notifier, if it is the
inbox of its target, and otherwise nothing. -/
def delivery (number notifier : Nat) (target : ParticipantId) (notification : Notification)
    (history : List Deed) : List Envelope :=
  if destination? target history = some number then
    (connections history)[notifier]?.toList.map (⟨·, notification⟩)
  else []

/-- All that has been routed to an inbox. -/
def routed (number : Nat) : List Deed → List Envelope
  | [] => []
  | .notify notifier target notification :: earlier =>
      routed number earlier ++ delivery number notifier target notification earlier
  | _ :: earlier => routed number earlier

/-- What of it is still to be read. -/
def waiting (number : Nat) : List Deed → List Envelope
  | [] => []
  | .notify notifier target notification :: earlier =>
      waiting number earlier ++ delivery number notifier target notification earlier
  | .drop inbox :: earlier => if inbox = number then [] else waiting number earlier
  | .read inbox :: earlier =>
      if inbox = number then (waiting number earlier).tail else waiting number earlier
  | _ :: earlier => waiting number earlier

/-- Whether notifications to anybody get into an inbox. -/
def isAttached (number : Nat) (history : List Deed) : Bool :=
  (connections history)[number]?.any fun id => destination? id history == some number

def reading (number : Nat) (history : List Deed) : Reading :=
  match waiting number history with
  | envelope :: _ => .envelope envelope
  | [] => if isAttached number history then .nothing else .closed

def outcome (history : List Deed) : Deed → Outcome
  | .connect _ => .connected (connections history).length
  | .disconnect _ => .done
  | .notify notifier target _ =>
      if notifier < (connections history).length then
        .notified (if (destination? target history).isSome then .ok () else .error .noSuchProcess)
      else .unknown
  | .close inbox | .drop inbox =>
      if inbox < (connections history).length then .done else .unknown
  | .read inbox =>
      if inbox < (connections history).length then .found (reading inbox history) else .unknown

def perform (history : List Deed) (deed : Deed) : Outcome × List Deed :=
  (outcome history deed, deed :: history)

variable {history : List Deed} {target id : ParticipantId} {number : Nat}

theorem connections_append {earlier : List Deed}
    (there : (connections earlier)[number]? = some target) :
    (connections earlier ++ [id])[number]? = some target := by
  rw [List.getElem?_append_left (List.getElem?_eq_some_iff.mp there).1, there]

/-- A line leads to a connection of the one whose line it is. -/
theorem connection_of_line? (line : line? target history = some number) :
    (connections history)[number]? = some target := by
  induction history with
  | nil => cases line
  | cons deed earlier ih =>
    cases deed with
    | connect id =>
      rw [line?] at line
      split_ifs at line with same
      · cases line
        rw [connections, List.getElem?_concat_length, same]
      · exact connections_append (ih line)
    | disconnect id =>
      rw [line?] at line
      split_ifs at line
      exact ih line
    | _ => exact ih line

theorem destination?_eq_some_iff :
    destination? target history = some number ↔
      line? target history = some number ∧ isOpen number history = true :=
  Option.filter_eq_some_iff

theorem delivery_eq_nil {notifier : Nat} {notification : Notification}
    (elsewhere : destination? target history ≠ some number) :
    delivery number notifier target notification history = [] :=
  if_neg elsewhere

theorem isAttached_eq (there : (connections history)[number]? = some id) :
    isAttached number history = (isOpen number history && line? id history == some number) := by
  rw [isAttached, there, Option.any_some, Bool.eq_iff_iff, Bool.and_eq_true, beq_iff_eq, beq_iff_eq,
    destination?_eq_some_iff, and_comm]

theorem waiting_connect : waiting number (.connect id :: history) = waiting number history := rfl

/-- An inbox is empty as long as there is none. -/
theorem waiting_eq_nil (unmade : (connections history).length ≤ number) :
    waiting number history = [] := by
  induction history with
  | nil => rfl
  | cons deed earlier ih =>
    cases deed with
    | connect id =>
      rw [connections, List.length_append] at unmade
      exact ih (Nat.le_of_add_right_le unmade)
    | notify notifier target notification =>
      have elsewhere : destination? target earlier ≠ some number := fun reached =>
        have there := connection_of_line? (destination?_eq_some_iff.mp reached).1
        Nat.not_lt.mpr unmade (List.getElem?_eq_some_iff.mp there).1
      rw [waiting, ih unmade, delivery_eq_nil elsewhere, List.append_nil]
    | drop inbox => rw [waiting, ih unmade, ite_self]
    | read inbox => rw [waiting, ih unmade, List.tail_nil, ite_self]
    | _ => exact ih unmade

end Switch

open Switch

variable {exchange : Exchange} {history : List Deed} {id : ParticipantId} {number : Nat}

/-- An exchange as it comes about by a history. -/
structure Shows (exchange : Exchange) (history : List Deed) : Prop where
  size : exchange.channels.size = (connections history).length
  routes : ∀ id, exchange.routes.find? id = line? id history
  channels : ∀ (number : Nat) (id : ParticipantId), (connections history)[number]? = some id →
    exchange.channels[number]? = some ⟨id, waiting number history, isOpen number history⟩

namespace Shows

theorem empty : Exchange.empty.Shows [] := ⟨rfl, fun _ => rfl, nofun⟩

theorem target?_eq (shows : exchange.Shows history) (id : ParticipantId) :
    exchange.target? id = destination? id history := by
  rw [target?, shows.routes, destination?]
  cases line : line? id history with
  | none => rfl
  | some number =>
    change (exchange.channels[number]?.bind _) = _
    rw [shows.channels number id (connection_of_line? line), Option.filter_some]
    rfl

theorem inbox_eq (shows : exchange.Shows history) (there : (connections history)[number]? = some id) :
    exchange.inbox number = ⟨waiting number history, !isAttached number history⟩ := by
  rw [isAttached_eq there, ← shows.routes, inbox, shows.channels number id there]

private theorem exists_connection (shows : exchange.Shows history)
    (made : number < exchange.channels.size) :
    ∃ id, (connections history)[number]? = some id :=
  ⟨_, List.getElem?_eq_getElem (shows.size ▸ made)⟩

/-- A deed that concerns no channel that is there. -/
theorem still (shows : exchange.Shows history) {deed : Deed}
    (connected : connections (deed :: history) = connections history)
    (lines : ∀ id, line? id (deed :: history) = line? id history)
    (same : ∀ number < (connections history).length,
      waiting number (deed :: history) = waiting number history ∧
        isOpen number (deed :: history) = isOpen number history) :
    exchange.Shows (deed :: history) where
  size := by rw [connected, shows.size]
  routes id := by rw [lines, shows.routes]
  channels number id there := by
    rw [connected] at there
    obtain ⟨queue, accepting⟩ := same number (List.getElem?_eq_some_iff.mp there).1
    rw [queue, accepting, shows.channels number id there]

/-- A deed that concerns one channel. -/
theorem modifyChannel (shows : exchange.Shows history) {deed : Deed} {inbox : Nat}
    {change : Channel → Channel}
    (connected : connections (deed :: history) = connections history)
    (lines : ∀ id, line? id (deed :: history) = line? id history)
    (own : ∀ id, change ⟨id, waiting inbox history, isOpen inbox history⟩ =
      ⟨id, waiting inbox (deed :: history), isOpen inbox (deed :: history)⟩)
    (others : ∀ other ≠ inbox, waiting other (deed :: history) = waiting other history ∧
      isOpen other (deed :: history) = isOpen other history) :
    (exchange.modifyChannel inbox change).Shows (deed :: history) where
  size := by rw [modifyChannel_size, connected, shows.size]
  routes id := by rw [lines, ← shows.routes, Exchange.modifyChannel]
  channels number id there := by
    rw [connected] at there
    rw [Exchange.modifyChannel, Array.getElem?_modify, shows.channels number id there]
    split_ifs with same
    · rw [← same, Option.map_some, own]
    · obtain ⟨queue, accepting⟩ := others number (Ne.symm same)
      rw [queue, accepting]

theorem connect (shows : exchange.Shows history) (id : ParticipantId) :
    (exchange.connect id).2.Shows (.connect id :: history) where
  size := by simp [Exchange.connect, connections, shows.size]
  routes other := by
    rw [Exchange.connect, Table.find?_insert, line?, shows.routes, shows.size]
  channels number other there := by
    rw [Exchange.connect, Array.getElem?_push, shows.size]
    rw [connections, List.getElem?_append] at there
    by_cases new : number = (connections history).length
    · subst new
      rw [if_neg (Nat.lt_irrefl _), Nat.sub_self] at there
      cases there
      rw [if_pos rfl, waiting_connect, waiting_eq_nil (Nat.le_refl _), isOpen, beq_self_eq_true,
        Bool.true_or]
    · have old : number < (connections history).length := by
        by_contra beyond
        rw [if_neg beyond, List.getElem?_eq_none (by simp only [List.length_singleton]; omega)] at there
        cases there
      rw [if_pos old] at there
      rw [if_neg new, shows.channels number other there, waiting_connect, isOpen,
        beq_eq_false_iff_ne.mpr new, Bool.false_or]

theorem disconnect (shows : exchange.Shows history) (id : ParticipantId) :
    (exchange.disconnect id).Shows (.disconnect id :: history) where
  size := shows.size
  routes other := by rw [Exchange.disconnect, Table.find?_erase, line?, shows.routes]
  channels := shows.channels

/-- A notification either gets to the end of the inbox it is meant for, or it is turned down. -/
theorem notify (shows : exchange.Shows history) {notifier : Nat} {sender target : ParticipantId}
    (own : (connections history)[notifier]? = some sender) (notification : Notification) :
    (∃ number sent, destination? target history = some number ∧
      exchange.notify sender target notification = .ok sent ∧
        sent.Shows (.notify notifier target notification :: history)) ∨
    destination? target history = none ∧
      exchange.notify sender target notification = .error .noSuchProcess ∧
        exchange.Shows (.notify notifier target notification :: history) := by
  have brought (number : Nat) : waiting number (.notify notifier target notification :: history) =
      waiting number history ++
        if destination? target history = some number then [⟨sender, notification⟩] else [] := by
    rw [waiting, delivery, own]
    rfl
  rw [Exchange.notify, shows.target?_eq]
  cases reached : destination? target history with
  | none =>
    refine .inr ⟨rfl, rfl, shows.still rfl (fun _ => rfl) fun number _ => ⟨?_, rfl⟩⟩
    rw [brought, reached, if_neg (Option.some_ne_none number).symm, List.append_nil]
  | some number =>
    refine .inl ⟨number, _, rfl, rfl, shows.modifyChannel rfl (fun _ => rfl) (fun _ => ?_) ?_⟩
    · rw [brought, if_pos reached]
      rfl
    · intro other different
      refine ⟨?_, rfl⟩
      rw [brought, reached, if_neg fun same => different (Option.some.inj same).symm, List.append_nil]

theorem perform_of_notifier (shows : exchange.Shows history) {notifier : Nat}
    {sender : ParticipantId} (own : (connections history)[notifier]? = some sender)
    (target : ParticipantId) (notification : Notification) :
    exchange.perform (.notify notifier target notification) =
      match exchange.notify sender target notification with
      | .ok sent => (.notified (.ok ()), sent)
      | .error fault => (.notified (.error fault), exchange) := by
  rw [Exchange.perform, shows.channels notifier sender own]

private theorem perform_notify (shows : exchange.Shows history) (notifier : Nat)
    (target : ParticipantId) (notification : Notification) :
    (exchange.perform (.notify notifier target notification)).1 =
        outcome history (.notify notifier target notification) ∧
      (exchange.perform (.notify notifier target notification)).2.Shows
        (.notify notifier target notification :: history) := by
  cases own : (connections history)[notifier]? with
  | none =>
    have beyond := List.getElem?_eq_none_iff.mp own
    have missing : exchange.channels[notifier]? = none :=
      Array.getElem?_eq_none (shows.size ▸ beyond)
    rw [Exchange.perform, missing, outcome, if_neg (Nat.not_lt.mpr beyond)]
    refine ⟨rfl, shows.still rfl (fun _ => rfl) fun number _ => ⟨?_, rfl⟩⟩
    rw [waiting, delivery, own]
    split_ifs <;> simp
  | some sender =>
    rw [shows.perform_of_notifier own, outcome, if_pos (List.getElem?_eq_some_iff.mp own).1]
    rcases shows.notify own notification with
      ⟨number, sent, reached, success, after⟩ | ⟨reached, failure, after⟩
    · rw [success, reached]
      exact ⟨rfl, after⟩
    · rw [failure, reached]
      exact ⟨rfl, after⟩

private theorem perform_close (shows : exchange.Shows history) (inbox : Nat) :
    (exchange.perform (.close inbox)).1 = outcome history (.close inbox) ∧
      (exchange.perform (.close inbox)).2.Shows (.close inbox :: history) := by
  have others (number : Nat) (different : number ≠ inbox) :
      isOpen number (.close inbox :: history) = isOpen number history := by
    rw [isOpen, bne_iff_ne.mpr different.symm, Bool.true_and]
  rw [Exchange.perform, outcome, shows.size]
  split_ifs with known
  · refine ⟨rfl, shows.modifyChannel rfl (fun _ => rfl) (fun _ => ?_) fun number different =>
      ⟨rfl, others number different⟩⟩
    rw [isOpen, bne_self_eq_false, Bool.false_and]
    rfl
  · exact ⟨rfl, shows.still rfl (fun _ => rfl) fun number there =>
      ⟨rfl, others number fun same => known (same ▸ there)⟩⟩

private theorem perform_drop (shows : exchange.Shows history) (inbox : Nat) :
    (exchange.perform (.drop inbox)).1 = outcome history (.drop inbox) ∧
      (exchange.perform (.drop inbox)).2.Shows (.drop inbox :: history) := by
  have others (number : Nat) (different : number ≠ inbox) :
      waiting number (.drop inbox :: history) = waiting number history ∧
        isOpen number (.drop inbox :: history) = isOpen number history := by
    rw [waiting, if_neg different.symm, isOpen, bne_iff_ne.mpr different.symm, Bool.true_and]
    exact ⟨rfl, rfl⟩
  rw [Exchange.perform, outcome, shows.size]
  split_ifs with known
  · refine ⟨rfl, shows.modifyChannel rfl (fun _ => rfl) (fun _ => ?_) others⟩
    rw [waiting, if_pos rfl, isOpen, bne_self_eq_false, Bool.false_and]
  · exact ⟨rfl, shows.still rfl (fun _ => rfl) fun number there =>
      others number fun same => known (same ▸ there)⟩

/-- A reading takes the first envelope of an inbox, if there is one. -/
private theorem read_eq (shows : exchange.Shows history)
    (there : (connections history)[number]? = some id) :
    (exchange.read number).1 = reading number history ∧
      (exchange.read number).2 = match waiting number history with
        | [] => exchange
        | _ :: rest => exchange.keep number rest := by
  rw [read, receive, shows.inbox_eq there, reading]
  cases waiting number history with
  | nil => cases isAttached number history <;> exact ⟨rfl, rfl⟩
  | cons envelope rest => exact ⟨rfl, rfl⟩

private theorem perform_read (shows : exchange.Shows history) (inbox : Nat) :
    (exchange.perform (.read inbox)).1 = outcome history (.read inbox) ∧
      (exchange.perform (.read inbox)).2.Shows (.read inbox :: history) := by
  have others (number : Nat) (different : number ≠ inbox) :
      waiting number (.read inbox :: history) = waiting number history := by
    rw [waiting, if_neg different.symm]
  have own : waiting inbox (.read inbox :: history) = (waiting inbox history).tail := if_pos rfl
  rw [Exchange.perform, outcome, shows.size]
  split_ifs with known
  · obtain ⟨id, there⟩ := shows.exists_connection (shows.size ▸ known)
    obtain ⟨found, after⟩ := shows.read_eq there
    refine ⟨congrArg Outcome.found found, ?_⟩
    change (exchange.read inbox).2.Shows _
    rw [after]
    cases queued : waiting inbox history with
    | nil =>
      refine shows.still rfl (fun _ => rfl) fun number _ => ⟨?_, rfl⟩
      by_cases same : number = inbox
      · rw [same, own, queued, List.tail_nil]
      · exact others number same
    | cons envelope rest =>
      refine shows.modifyChannel rfl (fun _ => rfl) (fun _ => ?_) fun number different =>
        ⟨others number different, rfl⟩
      rw [own, queued, List.tail_cons]
      rfl
  · exact ⟨rfl, shows.still rfl (fun _ => rfl) fun number there =>
      ⟨others number fun same => known (same ▸ there), rfl⟩⟩

/-- An exchange answers as what has been done before tells. -/
theorem perform (shows : exchange.Shows history) (deed : Deed) :
    (exchange.perform deed).1 = outcome history deed ∧
      (exchange.perform deed).2.Shows (deed :: history) := by
  cases deed with
  | connect id => exact ⟨congrArg Outcome.connected shows.size, shows.connect id⟩
  | disconnect id => exact ⟨rfl, shows.disconnect id⟩
  | notify notifier target notification => exact shows.perform_notify notifier target notification
  | close inbox => exact shows.perform_close inbox
  | drop inbox => exact shows.perform_drop inbox
  | read inbox => exact shows.perform_read inbox

end Shows

end Exchange

end HostChat
