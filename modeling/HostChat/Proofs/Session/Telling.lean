import HostChat.Proofs.Session.Broadcast

/-! # What telling does

To tell somebody something is to put it into the lowest free slot and to notify the recipient once, or
to do nothing at all. There are five reasons to do nothing, and the first that holds is given. The last
of them comes up when the slot is filled already, and the slot is then as empty as before because free
slots are all zeros.
-/

namespace HostChat

section Texts

variable {text : String}

/-- The texts that can be sent. -/
structure Sendable (text : String) : Prop where
  filled : 1 ≤ (Text.utf8 text).length
  bound : (Text.utf8 text).length ≤ maxMessageBytes

theorem Sendable.fits (sendable : Sendable text) (sender recipient : ParticipantId) :
    (⟨sender, recipient, Text.utf8 text⟩ : Message).Fits :=
  ⟨List.ne_nil_of_length_pos sendable.filled, sendable.bound⟩

theorem Sendable.legal (sendable : Sendable text) : checkText text = .ok (Text.utf8 text) :=
  checkText_of_fits (List.ne_nil_of_length_pos sendable.filled) sendable.bound

theorem sendable_of_checkText {bytes : List UInt8} (legal : checkText text = .ok bytes) :
    Sendable text := by
  obtain ⟨-, filled, bound⟩ := checkText_eq_ok legal
  exact ⟨List.length_pos_of_ne_nil filled, bound⟩

end Texts

namespace Mailbox

variable {mailbox : Mailbox} {slot : Fin mailboxSlots}

/-- The slot that the next message goes into. -/
def Next (mailbox : Mailbox) (slot : Fin mailboxSlots) : Prop :=
  (mailbox.slots.get slot).isFree = true ∧
    ∀ other < slot, (mailbox.slots.get other).isFree = false

private theorem next_iff : mailbox.Next slot ↔ ∃ later, mailbox.vacancies = slot :: later := by
  rw [← List.head?_eq_some_iff, ← firstIndex?_eq_head?]
  exact firstIndex?_eq_some_iff.symm

private theorem vacancies_eq_nil (full : ∀ slot, (mailbox.slots.get slot).isFree = false) :
    mailbox.vacancies = [] := by
  rw [vacancies, List.filter_eq_nil_iff]
  intro slot _
  rw [full slot]
  exact Bool.false_ne_true

/-- A text that can be sent is not refused for what it is. -/
private theorem eq_mailboxFull_of_store {sender recipient : ParticipantId} {text : List UInt8}
    {error : RoomError} (fits : (⟨sender, recipient, text⟩ : Message).Fits)
    (refused : mailbox.store sender recipient text = .error error) : error = .mailboxFull := by
  rw [store, if_neg (by simpa using fits.some), if_neg (Nat.not_lt.mpr fits.bound)] at refused
  cases first : firstIndex? mailbox.slots Slot.isFree with
  | none =>
    rw [first] at refused
    exact (Except.error.inj refused).symm
  | some slot =>
    rw [first] at refused
    cases refused

end Mailbox

/-- One inbox has got one envelope more. All others are the same, and so is who can be reached. -/
structure Exchange.Gains (before : Exchange) (number : Nat) (envelope : Envelope)
    (after : Exchange) : Prop where
  last : after.inbox number =
    ⟨(before.inbox number).queue ++ [envelope], (before.inbox number).closed⟩
  others : ∀ other ≠ number, after.inbox other = before.inbox other
  targets : after.target? = before.target?

theorem Exchange.gains_of_notify {before after : Exchange} {sender target : ParticipantId}
    {notification : Notification}
    (sent : Carrier.notify before sender target notification = .ok after) :
    ∃ number, before.target? target = some number ∧
      before.Gains number ⟨sender, notification⟩ after := by
  rw [notify_eq] at sent
  split_ifs at sent with reached
  obtain ⟨number, reached⟩ := Option.isSome_iff_exists.mp reached
  obtain rfl := Except.ok.inj sent
  have alone : before.put target ⟨sender, notification⟩ =
      before.putAll [(target, ⟨sender, notification⟩)] := rfl
  refine ⟨number, reached, ?_⟩
  rw [alone]
  constructor
  case last =>
    rw [inbox_putAll]
    simp [reached]
  case others =>
    intro other different
    refine inbox_putAll_of_silent fun letter sent => ?_
    rw [List.mem_singleton.mp sent, reached]
    exact fun same => different (Option.some.inj same).symm
  case targets => exact funext fun _ => target?_putAll

namespace Session

variable {σ : Type} [Carrier σ] {session : Session} {host after : Host σ} {target : ParticipantId}
  {text : String} {slot : Fin mailboxSlots} {carrier : σ} {error : ChatError}

/-- What a telling needs. -/
structure Accepts (session : Session) (target : ParticipantId) (text : String) (host : Host σ)
    (slot : Fin mailboxSlots) (carrier : σ) : Prop where
  sendable : Sendable text
  member : target ∈ (session.room.memory host).registry.participants
  next : (session.room.memory host).mailbox.Next slot
  sent : Carrier.notify host.carrier session.me target (.messageReady slot) = .ok carrier

/-- The first thing that a telling misses, and the error that stands for it. -/
inductive Declines (session : Session) (target : ParticipantId) (text : String) (host : Host σ) :
    ChatError → Prop where
  | blank (blank : Text.utf8 text = []) : session.Declines target text host .emptyMessage
  | long (long : maxMessageBytes < (Text.utf8 text).length) :
      session.Declines target text host (.overflow (Text.utf8 text).length maxMessageBytes)
  | stranger (sendable : Sendable text)
      (absent : target ∉ (session.room.memory host).registry.participants) :
      session.Declines target text host (.unknownParticipant target)
  | full (sendable : Sendable text)
      (member : target ∈ (session.room.memory host).registry.participants)
      (full : ∀ slot, ((session.room.memory host).mailbox.slots.get slot).isFree = false) :
      session.Declines target text host .mailboxFull
  | lost {slot : Fin mailboxSlots} {fault : Fault} (sendable : Sendable text)
      (member : target ∈ (session.room.memory host).registry.participants)
      (next : (session.room.memory host).mailbox.Next slot)
      (lost : Carrier.notify host.carrier session.me target (.messageReady slot) = .error fault) :
      session.Declines target text host (.unreachable target fault)

/-- What a telling leaves behind. -/
structure Tells (session : Session) (target : ParticipantId) (text : String)
    (slot : Fin mailboxSlots) (host after : Host σ) : Prop where
  next : (session.room.memory host).mailbox.Next slot
  holds : (session.room.memory after).mailbox.slots.get slot =
    .holding ⟨session.me, target, Text.utf8 text⟩
  slots : ∀ other ≠ slot, (session.room.memory after).mailbox.slots.get other =
    (session.room.memory host).mailbox.slots.get other
  registry : (session.room.memory after).registry = (session.room.memory host).registry
  header : (session.room.memory after).header = (session.room.memory host).header
  /-- Exactly one notification is sent. -/
  sent : Carrier.notify host.carrier session.me target (.messageReady slot) = .ok after.carrier
  /-- Other rooms, all names and all locks stay as they are. -/
  elsewhere : after = { session.room.setMemory host (session.room.memory after) with
    carrier := after.carrier }

/-- Every telling is accepted or declined. -/
theorem accepts_or_declines (session : Session) (target : ParticipantId) (text : String)
    (host : Host σ) : (∃ slot carrier, session.Accepts target text host slot carrier) ∨
      ∃ error, session.Declines target text host error := by
  by_cases blank : Text.utf8 text = []
  · exact .inr ⟨_, .blank blank⟩
  by_cases long : maxMessageBytes < (Text.utf8 text).length
  · exact .inr ⟨_, .long long⟩
  have sendable : Sendable text := ⟨List.length_pos_of_ne_nil blank, Nat.le_of_not_lt long⟩
  by_cases member : target ∈ (session.room.memory host).registry.participants
  · cases first : firstIndex? (session.room.memory host).mailbox.slots Slot.isFree with
    | none => exact .inr ⟨_, .full sendable member (firstIndex?_eq_none_iff.mp first)⟩
    | some slot =>
      have next := firstIndex?_eq_some_iff.mp first
      cases sent : Carrier.notify host.carrier session.me target (.messageReady slot) with
      | error fault => exact .inr ⟨_, .lost sendable member next sent⟩
      | ok carrier => exact .inl ⟨slot, carrier, sendable, member, next, sent⟩
  · exact .inr ⟨_, .stranger sendable member⟩

/-- A text that can be sent is told with the lock held. -/
private theorem tell_of_sendable (unlocked : session.room.Unlocked host) (sendable : Sendable text) :
    session.tell target text host = some (session.tellHeld target (Text.utf8 text) host) :=
  (tell_eq_some_iff sendable.legal).mpr ⟨unlocked, rfl⟩

private theorem tellHeld_of_mem (member : target ∈ (session.room.memory host).registry.participants)
    (bytes : List UInt8) :
    session.tellHeld target bytes host = session.deliver target bytes host := by
  rw [tellHeld, if_pos (Registry.contains_iff.mpr member)]

theorem tell_of_declines (works : session.room.Working host)
    (declines : session.Declines target text host error) :
    session.tell target text host = some (.error error, host) := by
  cases declines with
  | blank blank => rw [tell, checkText_of_blank blank]
  | long long => rw [tell, checkText_of_long long]
  | stranger sendable absent =>
    rw [tell_of_sendable works.unlocked sendable, tellHeld,
      if_neg fun contains => absent (Registry.contains_iff.mp contains)]
  | full sendable member full =>
    rw [tell_of_sendable works.unlocked sendable, tellHeld_of_mem member,
      deliver_of_full (sendable.fits _ _) (Mailbox.vacancies_eq_nil full)]
  | lost sendable member next lost =>
    obtain ⟨later, vacant⟩ := Mailbox.next_iff.mp next
    rw [tell_of_sendable works.unlocked sendable, tellHeld_of_mem member,
      deliver_eq (sendable.fits _ _) works.usable.mailbox.clean vacant, lost]

theorem tell_of_accepts (works : session.room.Working host)
    (accepts : session.Accepts target text host slot carrier) :
    session.tell target text host = some (.ok slot,
      { session.room.put host slot ⟨session.me, target, Text.utf8 text⟩ with carrier }) := by
  obtain ⟨later, vacant⟩ := Mailbox.next_iff.mp accepts.next
  rw [tell_of_sendable works.unlocked accepts.sendable, tellHeld_of_mem accepts.member,
    deliver_eq (accepts.sendable.fits _ _) works.usable.mailbox.clean vacant, accepts.sent]

theorem Accepts.tells (accepts : session.Accepts target text host slot carrier)
    (made : session.room.store < host.stores.objects.size) :
    session.Tells target text slot host
      { session.room.put host slot ⟨session.me, target, Text.utf8 text⟩ with carrier } := by
  have memory := Room.memory_put made slot ⟨session.me, target, Text.utf8 text⟩ carrier
  constructor
  case next => exact accepts.next
  case holds => rw [memory, Mailbox.slots_put, if_pos rfl]
  case slots =>
    intro other different
    rw [memory, Mailbox.slots_put, if_neg different]
  case registry => rw [memory]
  case header => rw [memory]
  case sent => exact accepts.sent
  case elsewhere =>
    rw [memory]
    rfl

/-- A telling succeeds exactly if it is accepted. -/
theorem tell_eq_ok_iff (works : session.room.Working host) :
    session.tell target text host = some (.ok slot, after) ↔
      ∃ carrier, session.Accepts target text host slot carrier ∧
        after = { session.room.put host slot ⟨session.me, target, Text.utf8 text⟩ with carrier } := by
  constructor
  · intro told
    rcases session.accepts_or_declines target text host with
      ⟨slot, carrier, accepts⟩ | ⟨error, declines⟩
    · rw [tell_of_accepts works accepts] at told
      cases told
      exact ⟨carrier, accepts, rfl⟩
    · rw [tell_of_declines works declines] at told
      cases told
  · rintro ⟨carrier, accepts, rfl⟩
    exact tell_of_accepts works accepts

/-- A telling fails exactly if it is declined. -/
theorem tell_eq_error_iff (works : session.room.Working host) :
    session.tell target text host = some (.error error, after) ↔
      session.Declines target text host error ∧ after = host := by
  constructor
  · intro told
    rcases session.accepts_or_declines target text host with
      ⟨slot, carrier, accepts⟩ | ⟨error, declines⟩
    · rw [tell_of_accepts works accepts] at told
      cases told
    · rw [tell_of_declines works declines] at told
      cases told
      exact ⟨declines, rfl⟩
  · rintro ⟨declines, rfl⟩
    exact tell_of_declines works declines

/-- A telling does everything or nothing. It is accepted if the text has 1 to 256 bytes, the target is
in the room, a slot is free and the notification is sent, and declined with the error that stands for
the first of these that fails. The mailbox never has to refuse a text, and in an exchange the
notification is one more envelope in the inbox of the target. -/
theorem tell_all_or_nothing (works : session.room.Working host) (target : ParticipantId)
    (text : String) :
    (∃ outcome, session.tell target text host = some outcome) ∧
    ((∃ slot after, session.tell target text host = some (.ok slot, after)) ↔
      ∃ slot carrier, session.Accepts target text host slot carrier) ∧
    (∀ slot after, session.tell target text host = some (.ok slot, after) →
      session.Tells target text slot host after) ∧
    (∀ error after, session.tell target text host = some (.error error, after) ↔
      session.Declines target text host error ∧ after = host) ∧
    (∀ (mailbox : Mailbox) error, checkText text = .ok (Text.utf8 text) →
      mailbox.store session.me target (Text.utf8 text) = .error error → error = .mailboxFull) ∧
    (∀ error (other : Host σ), checkText text = .error error →
      session.tell target text other = some (.error error, other)) ∧
    (∀ (before after : Exchange) slot,
      Carrier.notify before session.me target (.messageReady slot) = .ok after →
        ∃ number, before.target? target = some number ∧
          before.Gains number ⟨session.me, .messageReady slot⟩ after) := by
  refine ⟨exists_tell works.unlocked target text, ⟨?_, ?_⟩, ?_,
    fun error after => tell_eq_error_iff works, ?_, ?_, ?_⟩
  · rintro ⟨slot, after, told⟩
    obtain ⟨carrier, accepts, -⟩ := (tell_eq_ok_iff works).mp told
    exact ⟨slot, carrier, accepts⟩
  · rintro ⟨slot, carrier, accepts⟩
    exact ⟨slot, _, tell_of_accepts works accepts⟩
  · intro slot after told
    obtain ⟨carrier, accepts, rfl⟩ := (tell_eq_ok_iff works).mp told
    exact accepts.tells works.made
  · intro mailbox error legal
    apply Mailbox.eq_mailboxFull_of_store
    exact (sendable_of_checkText legal).fits session.me target
  · intro error other illegal
    rw [tell, illegal]
  · intro before after slot sent
    exact Exchange.gains_of_notify sent

/-- anna tells cleo something, who gets the only free slot; bert cannot be notified, and the slot stays
free. -/
theorem tell_all_or_nothing_when_cramped :
    (∃ after, annasSession.tell cleo "hi" crampedHost = some (.ok slot200, after) ∧
      annasSession.Tells cleo "hi" slot200 crampedHost after) ∧
    annasSession.tell bert "hi" crampedHost =
      some (.error (.unreachable bert .noSuchProcess), crampedHost) := by
  have sendable : Sendable "hi" := ⟨by decide +kernel, by decide +kernel⟩
  have next : (annasSession.room.memory crampedHost).mailbox.Next slot200 :=
    Mailbox.next_iff.mpr ⟨[], vacancies_crampedHost⟩
  constructor
  · have told := tell_all_or_nothing working_crampedHost cleo "hi"
    obtain ⟨slot, after, outcome⟩ := told.2.1.mpr
      ⟨slot200, _, sendable, by decide +kernel, next, rfl⟩
    have tells := told.2.2.1 slot after outcome
    obtain ⟨later, vacant⟩ := Mailbox.next_iff.mp tells.next
    obtain rfl : slot200 = slot := (List.cons.inj (vacancies_crampedHost.symm.trans vacant)).1
    exact ⟨after, outcome, tells⟩
  · have told := tell_all_or_nothing working_crampedHost bert "hi"
    exact (told.2.2.2.1 _ _).mpr ⟨.lost sendable (by decide +kernel) next rfl, rfl⟩

end Session

end HostChat
