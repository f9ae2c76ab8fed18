import HostChat.Proofs.Memory.Usable
import HostChat.Proofs.Session.Upkeep

/-! # Rooms that work

A room works if its memory can be used and nobody holds its lock. Then every operation of a session
has a result, and the room still works after it. An operation on messages that is refused leaves
everything as it was, even if it had a slot for a while.
-/

namespace HostChat

variable {σ : Type}

namespace Host

variable {host : Host σ} {store : Nat}

/-- Writing what is there already changes nothing. -/
theorem setMemory_self (host : Host σ) (store : Nat) :
    host.setMemory store (host.memory store) = host := by
  have same : (host.stores.objects.modify store fun object =>
      { object with memory := host.memory store }) = host.stores.objects := by
    apply Array.ext
    · simp
    · intro index _ inside
      rw [Array.getElem_modify]
      split_ifs with own
      · subst own
        simp [memory, inside]
      · rfl
  simp only [setMemory, Directory.modify, same]

end Host

/-- The reasons not to store a message concern that message only. -/
private theorem Mailbox.isRecoverable_of_store {mailbox : Mailbox} {sender recipient : ParticipantId}
    {text : List UInt8} {error : RoomError}
    (refused : mailbox.store sender recipient text = .error error) :
    (ChatError.ofRoom error).isRecoverable = true := by
  simp only [store] at refused
  split_ifs at refused with blank long
  · cases refused
    rfl
  · cases refused
    rfl
  · cases free : firstIndex? mailbox.slots Slot.isFree with
    | none =>
      rw [free] at refused
      cases refused
      rfl
    | some index =>
      rw [free] at refused
      cases refused

namespace Room

variable {room : Room} {host after : Host σ}

/-- A room in which every operation comes to an end and finds what it relies on. -/
structure Working (room : Room) (host : Host σ) : Prop where
  made : room.store < host.stores.objects.size
  usable : (host.memory room.store).Usable
  unlocked : room.Unlocked host

private theorem guarded_locks {α : Type} {body : Host σ → α × Host σ} {result : α}
    (blind : LockBlind body) (outcome : room.guarded host body = some (result, after)) :
    after.locks.objects = host.locks.objects := by
  have kept := blind.keeps host
  rwa [((guarded_eq_some_iff blind).mp outcome).2] at kept

theorem Working.reworks {store : Nat} (works : room.Working host)
    (reworks : host.Reworks store after)
    (locks : ∀ lock < host.locks.objects.size,
      after.locks.objects[lock]? = host.locks.objects[lock]?) : room.Working after where
  made := by
    rw [reworks.size]
    exact works.made
  usable := by
    by_cases own : room.store = store
    · subst own
      exact works.usable.changes reworks.changes
    · rw [reworks.others room.store own]
      exact works.usable
  unlocked := by
    obtain ⟨value, found⟩ := works.unlocked
    exact ⟨value, (locks room.lock (Array.getElem?_eq_some_iff.mp found).1).trans found⟩

theorem Working.spares (works : room.Working host) (spares : host.Spares after) :
    room.Working after where
  made := Nat.lt_of_lt_of_le works.made spares.stores_size
  usable := by
    have same : after.memory room.store = host.memory room.store := by
      simp only [Host.memory, spares.stores room.store works.made]
    rw [same]
    exact works.usable
  unlocked := by
    obtain ⟨value, found⟩ := works.unlocked
    exact ⟨value, (spares.locks room.lock (Array.getElem?_eq_some_iff.mp found).1).trans found⟩

/-- A new room works. -/
theorem working_of_made {storeKey lockKey : String} (made : Made host after room storeKey lockKey) :
    room.Working after :=
  ⟨(Host.keeps_of_made made).made, (Host.keeps_of_made made).memory.usable, 0, made.unlocked⟩

end Room

namespace Session

variable {session : Session} {host after : Host σ}

theorem register_locks {result : Except ChatError (Fin maxParticipants)}
    (outcome : session.register host = some (result, after)) :
    after.locks.objects = host.locks.objects :=
  Room.guarded_locks (lockBlind_registerHeld session) outcome

theorem leave_locks {result : Except ChatError Departure}
    (outcome : session.leave host = some (result, after)) :
    after.locks.objects = host.locks.objects :=
  Room.guarded_locks (lockBlind_leaveHeld session) outcome

section Messages

variable [Carrier σ] {target : ParticipantId} {text : String}

theorem tell_locks {result : Except ChatError (Fin mailboxSlots)}
    (outcome : session.tell target text host = some (result, after)) :
    after.locks.objects = host.locks.objects := by
  cases legal : checkText text with
  | error error =>
    simp only [tell, legal] at outcome
    cases outcome
    rfl
  | ok bytes =>
    rw [tell, legal] at outcome
    exact Room.guarded_locks (lockBlind_tellHeld session target bytes) outcome

theorem say_locks {result : Except ChatError Broadcast}
    (outcome : session.say text host = some (result, after)) :
    after.locks.objects = host.locks.objects := by
  cases legal : checkText text with
  | error error =>
    simp only [say, legal] at outcome
    cases outcome
    rfl
  | ok bytes =>
    rw [say, legal] at outcome
    exact Room.guarded_locks (lockBlind_sayHeld session bytes) outcome

theorem handle_locks {envelope : Envelope} {answer : Option Message}
    (outcome : session.handle envelope host = some (answer, after)) :
    after.locks.objects = host.locks.objects := by
  rcases envelope with ⟨sender, _ | room | slot⟩
  · simp only [handle] at outcome
    cases sent : host.notify session.me sender (.joinApprove session.room.id) with
    | error fault =>
      rw [sent] at outcome
      cases outcome
      rfl
    | ok notified =>
      rw [sent] at outcome
      cases outcome
      obtain ⟨carrier, -, rfl⟩ := Host.notify_eq_ok sent
      rfl
  · cases outcome
    rfl
  · exact Room.guarded_locks (lockBlind_takeHeld session slot) outcome

end Messages

end Session

namespace Host

variable {host : Host σ} {room : Room}

theorem after_locks [Carrier σ] (host : Host σ) (event : Event σ) {lock : Nat}
    (made : lock < host.locks.objects.size) :
    (host.after event).locks.objects[lock]? = host.locks.objects[lock]? := by
  have elim {α : Type} {outcome : Option (α × Host σ)}
      (each : ∀ result next, outcome = some (result, next) →
        next.locks.objects = host.locks.objects) :
      (outcome.elim host (·.2)).locks.objects[lock]? = host.locks.objects[lock]? := by
    cases outcome with
    | none => rfl
    | some pair => rw [Option.elim_some, each pair.1 pair.2 rfl]
  cases event with
  | register session => exact elim fun _ _ outcome => Session.register_locks outcome
  | tell session target text => exact elim fun _ _ outcome => Session.tell_locks outcome
  | say session text => exact elim fun _ _ outcome => Session.say_locks outcome
  | handle session envelope => exact elim fun _ _ outcome => Session.handle_locks outcome
  | leave session => exact elim fun _ _ outcome => Session.leave_locks outcome
  | make running ns id => exact (Room.spares_create running ns id host).locks lock made
  | carry carrier => rfl

end Host

namespace Room

variable {room : Room} {host started : Host σ}

/-- Whatever sessions do, a room that works goes on working. -/
theorem Working.after [Carrier σ] (works : room.Working host) (event : Event σ) :
    room.Working (host.after event) := by
  rcases host.after_cases event with ⟨store, reworks⟩ | spares
  · exact works.reworks reworks fun lock made => host.after_locks event made
  · exact works.spares spares

theorem Working.afterAll [Carrier σ] (works : room.Working host) (events : List (Event σ)) :
    room.Working (events.foldl Host.after host) := by
  induction events generalizing host with
  | nil => exact works
  | cons event rest ih => exact ih (works.after event)

/-- A room works from its making on. -/
theorem working_of_create [Carrier σ] {running : ParticipantId → Bool} {ns : String}
    {id : ParticipantId} (outcome : create running ns id host = (.ok room, started))
    (events : List (Event σ)) : room.Working (events.foldl Host.after started) := by
  obtain ⟨_, _, -, -, made⟩ := made_of_create outcome
  exact (working_of_made made).afterAll events

end Room

namespace Session

variable [Carrier σ] {session : Session} {host after : Host σ} {target : ParticipantId}

omit [Carrier σ] in
/-- Whoever has made a room is in a room that works. -/
theorem working_of_create {running : ParticipantId → Bool} {ns : String} {me : ParticipantId}
    (outcome : create running ns me host = some (.ok session, after)) :
    session.room.Working after := by
  simp only [create] at outcome
  rcases made : Room.create running ns me host with ⟨error | room, middle⟩
  · rw [made] at outcome
    cases outcome
  · simp only [made] at outcome
    obtain ⟨⟨_ | _, registered⟩, register, same⟩ := Option.map_eq_some_iff.mp outcome
    · cases same
    · cases same
      obtain ⟨_, _, -, -, fresh⟩ := Room.made_of_create made
      exact (Room.working_of_made fresh).reworks (reworks_register register)
        fun lock _ => by rw [register_locks register]

/-- A delivery that fails changes nothing. -/
theorem eq_of_deliver_error (works : session.room.Working host) {text : List UInt8}
    {error : ChatError} (outcome : session.deliver target text host = (.error error, after)) :
    after = host ∧ error.isRecoverable = true := by
  simp only [deliver, Room.memory, Room.setMemory] at outcome
  cases stores : (host.memory session.room.store).mailbox.store session.me target text with
  | error problem =>
    simp only [stores] at outcome
    cases outcome
    exact ⟨rfl, Mailbox.isRecoverable_of_store stores⟩
  | ok stored =>
    obtain ⟨slot, mailbox⟩ := stored
    simp only [stores] at outcome
    cases sent : Host.notify (host.setMemory session.room.store
        { host.memory session.room.store with mailbox }) session.me target (.messageReady slot) with
    | ok notified =>
      simp only [sent] at outcome
      cases outcome
    | error fault =>
      simp only [sent] at outcome
      cases outcome
      refine ⟨?_, rfl⟩
      rw [Host.setMemory_setMemory, works.usable.mailbox.release_store stores]
      exact Host.setMemory_self host session.room.store

theorem isRecoverable_of_checkText {text : String} {error : ChatError}
    (illegal : checkText text = .error error) : error.isRecoverable = true := by
  simp only [checkText] at illegal
  split_ifs at illegal <;> cases illegal <;> rfl

/-- A telling that fails changes nothing, and the next one may well succeed. -/
theorem eq_of_tell_error (works : session.room.Working host) {text : String} {error : ChatError}
    (outcome : session.tell target text host = some (.error error, after)) :
    after = host ∧ error.isRecoverable = true := by
  cases legal : checkText text with
  | error problem =>
    simp only [tell, legal] at outcome
    cases outcome
    exact ⟨rfl, isRecoverable_of_checkText legal⟩
  | ok bytes =>
    obtain ⟨-, held⟩ := (tell_eq_some_iff legal).mp outcome
    simp only [tellHeld] at held
    split_ifs at held with member
    · exact eq_of_deliver_error works held
    · cases held
      exact ⟨rfl, rfl⟩

theorem eq_of_say_error {text : String} {error : ChatError}
    (outcome : session.say text host = some (.error error, after)) :
    after = host ∧ error.isRecoverable = true := by
  cases legal : checkText text with
  | error problem =>
    simp only [say, legal] at outcome
    cases outcome
    exact ⟨rfl, isRecoverable_of_checkText legal⟩
  | ok bytes =>
    obtain ⟨-, held⟩ := (say_eq_some_iff legal).mp outcome
    cases held

theorem exists_tell (unlocked : session.room.Unlocked host) (target : ParticipantId)
    (text : String) : ∃ outcome, session.tell target text host = some outcome := by
  cases legal : checkText text with
  | error error => exact ⟨(.error error, host), by simp only [tell, legal]⟩
  | ok bytes => exact ⟨_, (tell_eq_some_iff legal).mpr ⟨unlocked, rfl⟩⟩

theorem exists_say (unlocked : session.room.Unlocked host) (text : String) :
    ∃ outcome, session.say text host = some outcome := by
  cases legal : checkText text with
  | error error => exact ⟨(.error error, host), by simp only [say, legal]⟩
  | ok bytes => exact ⟨_, (say_eq_some_iff legal).mpr ⟨unlocked, rfl⟩⟩

theorem exists_handle (unlocked : session.room.Unlocked host) (envelope : Envelope) :
    ∃ outcome, session.handle envelope host = some outcome := by
  rcases envelope with ⟨sender, _ | room | slot⟩
  · exact ⟨_, rfl⟩
  · exact ⟨_, rfl⟩
  · exact ⟨_, handle_messageReady_eq_some_iff.mpr ⟨unlocked, rfl⟩⟩

/-- anna in the room that she has made. -/
def annasSession : Session := ⟨anna, .creator, Room.annasRoom⟩

end Session

end HostChat
