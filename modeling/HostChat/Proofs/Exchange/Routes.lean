import HostChat.Proofs.Exchange
import Mathlib.Data.List.Nodup
import Mathlib.Data.List.Perm.Basic

/-! # The routes of an exchange

Notifications to somebody go to a channel of that one's own, however an exchange has come about. What
is sent goes to the end of the channel of its target, and leaves it as it was who can be reached and
where.
-/

namespace HostChat

namespace Exchange

/-- An exchange that its operations have led to. Receiving keeps what is left of a queue. -/
inductive Reachable : Exchange → Prop where
  | empty : Reachable .empty
  | connect {before : Exchange} (reachable : Reachable before) (id : ParticipantId) :
      Reachable (before.connect id).2
  | disconnect {before : Exchange} (reachable : Reachable before) (id : ParticipantId) :
      Reachable (before.disconnect id)
  | close {before : Exchange} (reachable : Reachable before) (number : Nat) :
      Reachable (before.close number)
  | drop {before : Exchange} (reachable : Reachable before) (number : Nat) :
      Reachable (before.drop number)
  | keep {before : Exchange} (reachable : Reachable before) (number : Nat) (queue : List Envelope) :
      Reachable (before.keep number queue)
  | notify {before sent : Exchange} {sender target : ParticipantId} {notification : Notification}
      (reachable : Reachable before)
      (success : before.notify sender target notification = .ok sent) : Reachable sent

variable {exchange sent : Exchange} {first second sender target id : ParticipantId} {number : Nat}
  {envelope : Envelope} {letters : List (ParticipantId × Envelope)}

/-- Whoever can be notified is notified through a channel of its own. -/
def Routed (exchange : Exchange) : Prop :=
  ∀ id number, exchange.routes.find? id = some number →
    ∃ channel, exchange.channels[number]? = some channel ∧ channel.owner = id

theorem Routed.modifyChannel (routed : exchange.Routed) {change : Channel → Channel}
    (owner : ∀ channel, (change channel).owner = channel.owner) :
    (exchange.modifyChannel number change).Routed := by
  intro id other route
  obtain ⟨channel, there, own⟩ := routed id other route
  simp only [Exchange.modifyChannel, Array.getElem?_modify, there]
  split_ifs
  · exact ⟨_, rfl, (owner channel).trans own⟩
  · exact ⟨_, rfl, own⟩

theorem Routed.connect (routed : exchange.Routed) (id : ParticipantId) :
    (exchange.connect id).2.Routed := by
  intro other number route
  rw [Exchange.connect, Table.find?_insert] at route
  split_ifs at route with same
  · cases route
    exact ⟨_, Array.getElem?_push_size, same⟩
  · obtain ⟨channel, there, own⟩ := routed other number route
    have made : number < exchange.channels.size := (Array.getElem?_eq_some_iff.mp there).1
    refine ⟨channel, ?_, own⟩
    rw [Exchange.connect, Array.getElem?_push_lt made, ← Array.getElem?_eq_getElem made]
    exact there

theorem Reachable.routed (reachable : exchange.Reachable) : exchange.Routed := by
  induction reachable with
  | empty => exact nofun
  | connect _ id ih => exact ih.connect id
  | disconnect _ id ih =>
    intro other number route
    rw [Exchange.disconnect, Table.find?_erase] at route
    split_ifs at route
    exact ih other number route
  | close _ number ih => exact ih.modifyChannel fun _ => rfl
  | drop _ number ih => exact ih.modifyChannel fun _ => rfl
  | keep _ number queue ih => exact ih.modifyChannel fun _ => rfl
  | notify _ success ih =>
    rw [Exchange.notify] at success
    split at success
    · cases success
    · cases success
      exact ih.modifyChannel fun _ => rfl

/-- No two participants are notified through one channel. -/
theorem Routed.eq_of_target? (routed : exchange.Routed) (one : exchange.target? first = some number)
    (two : exchange.target? second = some number) : first = second := by
  obtain ⟨channel, there, owned⟩ := routed first number (target?_eq_some one).1
  obtain ⟨other, same, own⟩ := routed second number (target?_eq_some two).1
  rw [there, Option.some.injEq] at same
  rw [← owned, ← own, same]

/-- Puts an envelope into the channel of somebody, if notifications get there. -/
def put (exchange : Exchange) (target : ParticipantId) (envelope : Envelope) : Exchange :=
  match exchange.target? target with
  | none => exchange
  | some number =>
      exchange.modifyChannel number fun channel =>
        { channel with queue := channel.queue ++ [envelope] }

theorem notify_eq (exchange : Exchange) (sender target : ParticipantId) (notification : Notification) :
    Carrier.notify exchange sender target notification =
      if (exchange.target? target).isSome then .ok (exchange.put target ⟨sender, notification⟩)
      else .error .noSuchProcess := by
  change exchange.notify sender target notification = _
  rw [notify, put]
  cases exchange.target? target <;> rfl

/-- What lies in a channel does not matter for whether it takes more. -/
private theorem target?_modifyChannel {change : Channel → Channel}
    (accepting : ∀ channel, (change channel).accepting = channel.accepting) :
    (exchange.modifyChannel number change).target? id = exchange.target? id := by
  simp only [target?, modifyChannel, Array.getElem?_modify]
  refine congrArg _ (funext fun other => ?_)
  split_ifs with same
  · subst same
    cases exchange.channels[number]? with
    | none => rfl
    | some channel =>
      simp only [Option.map_some]
      change (if _ then _ else _) = (if _ then _ else _)
      rw [accepting]
  · rfl

theorem target?_put : (exchange.put target envelope).target? id = exchange.target? id := by
  rw [put]
  cases exchange.target? target with
  | none => rfl
  | some number => exact target?_modifyChannel fun _ => rfl

theorem queue_put : (exchange.put target envelope).queue number =
    if exchange.target? target = some number then exchange.queue number ++ [envelope]
    else exchange.queue number := by
  rw [put]
  cases reached : exchange.target? target with
  | none => rfl
  | some other =>
    have made := (target?_eq_some reached).2
    dsimp only
    rw [queue_modifyChannel]
    by_cases same : number = other
    · rw [if_pos same, if_pos (congrArg some same.symm), same, queue, Array.getElem?_eq_getElem made]
      rfl
    · rw [if_neg same, if_neg fun equal => same (Option.some.inj equal).symm]

private theorem closed_put : ((exchange.put target envelope).inbox number).closed =
    (exchange.inbox number).closed := by
  rw [put]
  cases exchange.target? target with
  | none => rfl
  | some other =>
    simp only [inbox, modifyChannel, Array.getElem?_modify]
    split_ifs
    · cases exchange.channels[number]? <;> rfl
    · rfl

/-- Puts several envelopes into channels, one after the other. -/
def putAll (exchange : Exchange) (letters : List (ParticipantId × Envelope)) : Exchange :=
  letters.foldl (fun exchange letter => exchange.put letter.1 letter.2) exchange

theorem target?_putAll : (exchange.putAll letters).target? id = exchange.target? id := by
  induction letters generalizing exchange with
  | nil => rfl
  | cons letter rest ih => exact ih.trans target?_put

theorem queue_putAll : (exchange.putAll letters).queue number =
    exchange.queue number ++
      (letters.filter (exchange.target? ·.1 = some number)).map Prod.snd := by
  induction letters generalizing exchange with
  | nil => simp [putAll]
  | cons letter rest ih =>
    refine (@ih (exchange.put letter.1 letter.2)).trans ?_
    simp only [target?_put, queue_put]
    rw [List.filter_cons]
    by_cases here : exchange.target? letter.1 = some number
    · simp [here]
    · simp [here]

/-- Each envelope goes to the end of the inbox of its target. -/
theorem inbox_putAll : (exchange.putAll letters).inbox number =
    ⟨(exchange.inbox number).queue ++
        (letters.filter (exchange.target? ·.1 = some number)).map Prod.snd,
      (exchange.inbox number).closed⟩ := by
  have closed : ((exchange.putAll letters).inbox number).closed = (exchange.inbox number).closed := by
    induction letters generalizing exchange with
    | nil => rfl
    | cons letter rest ih => exact ih.trans closed_put
  have queue : ((exchange.putAll letters).inbox number).queue = _ :=
    (inbox_queue _ _).trans queue_putAll
  rw [← inbox_queue] at queue
  rw [← queue, ← closed]

/-- If nobody is sent more than one envelope, each lies alone at the end of an inbox. -/
theorem Routed.inbox_putAll_of_mem (routed : exchange.Routed) (apart : (letters.map Prod.fst).Nodup)
    (member : (target, envelope) ∈ letters) (reached : exchange.target? target = some number) :
    (exchange.putAll letters).inbox number =
      ⟨(exchange.inbox number).queue ++ [envelope], (exchange.inbox number).closed⟩ := by
  have alone : letters.filter (exchange.target? ·.1 = some number) = [(target, envelope)] := by
    refine List.Perm.eq_singleton ((List.perm_ext_iff_of_nodup (apart.of_map.filter _)
      (List.nodup_singleton _)).mpr fun letter => ?_)
    rw [List.mem_filter, List.mem_singleton, decide_eq_true_eq]
    constructor
    · rintro ⟨sent, same⟩
      exact List.inj_on_of_nodup_map apart sent member (routed.eq_of_target? same reached)
    · rintro rfl
      exact ⟨member, reached⟩
  rw [inbox_putAll, alone]
  rfl

theorem inbox_putAll_of_silent
    (silent : ∀ letter ∈ letters, exchange.target? letter.1 ≠ some number) :
    (exchange.putAll letters).inbox number = exchange.inbox number := by
  have nothing : letters.filter (exchange.target? ·.1 = some number) = [] :=
    List.filter_eq_nil_iff.mpr fun letter sent => by simpa using silent letter sent
  rw [inbox_putAll, nothing, List.map_nil, List.append_nil]

end Exchange

end HostChat
