import HostChat.Session
import HostChat.Proofs.Room.Lifetime
import HostChat.Proofs.Room.Traffic

/-! # What sessions do with the lock held

Each operation on the memory of a room runs a body under the room's lock. None of the bodies looks at
a lock, so an operation has a result exactly if the lock is free, and the result is that of its body.
-/

namespace HostChat

namespace Session

variable {σ : Type} {session : Session} {host : Host σ}

def registerHeld (session : Session) (host : Host σ) :
    Except ChatError (Fin maxParticipants) × Host σ :=
  let memory := session.room.memory host
  match memory.registry.claim session.me with
  | .ok (place, registry) => (.ok place, session.room.setMemory host { memory with registry })
  | .error error => (.error (.ofRoom error), host)

def tellHeld [Carrier σ] (session : Session) (target : ParticipantId) (bytes : List UInt8)
    (host : Host σ) : Except ChatError (Fin mailboxSlots) × Host σ :=
  if (session.room.memory host).registry.contains target then session.deliver target bytes host
  else (.error (.unknownParticipant target), host)

/-- Those a broadcast goes to. -/
def others (session : Session) (host : Host σ) : List ParticipantId :=
  (session.room.memory host).registry.participants.filter (· ≠ session.me)

def sayHeld [Carrier σ] (session : Session) (bytes : List UInt8) (host : Host σ) :
    Except ChatError Broadcast × Host σ :=
  let (broadcast, host) := session.deliverAll bytes (session.others host) host
  (.ok broadcast, host)

def takeHeld (session : Session) (slot : Nat) (host : Host σ) : Option Message × Host σ :=
  let memory := session.room.memory host
  let (message, mailbox) := memory.mailbox.take slot session.me
  (message, session.room.setMemory host { memory with mailbox })

/-- The host without the participant's place and without its messages. -/
def vacate (session : Session) (host : Host σ) : Host σ :=
  let memory := session.room.memory host
  session.room.setMemory host { memory with
    registry := (memory.registry.release session.me).2
    mailbox := (memory.mailbox.purgeFor session.me).2 }

def leaveHeld (session : Session) (host : Host σ) : Except ChatError Departure × Host σ :=
  let memory := session.room.memory host
  let dropped := (memory.mailbox.purgeFor session.me).1
  if (memory.registry.release session.me).2.isEmpty then
    match session.room.unlink (session.vacate host) with
    | (.ok (), host) => (.ok ⟨dropped, true⟩, host)
    | (.error error, host) => (.error (.ofRoom error), host)
  else (.ok ⟨dropped, false⟩, session.vacate host)

theorem lockBlind_registerHeld (session : Session) :
    LockBlind (session.registerHeld (σ := σ)) where
  commutes host lock change := by
    simp only [registerHeld, Room.memory, Host.memory_modifyLock]
    split <;> rfl
  keeps host := by
    simp only [registerHeld]
    split <;> rfl

private theorem deliver_modifyLock [Carrier σ] (session : Session) (target : ParticipantId)
    (text : List UInt8) (host : Host σ) (lock : Nat) (change : Nat → Nat) :
    session.deliver target text (host.modifyLock lock change) =
      ((session.deliver target text host).1,
        (session.deliver target text host).2.modifyLock lock change) := by
  simp only [deliver, Room.memory, Room.setMemory, Host.memory_modifyLock]
  cases ((host.memory session.room.store).mailbox.store session.me target text) with
  | error error => rfl
  | ok stored =>
    simp only [Host.setMemory_modifyLock, Host.notify_modifyLock]
    cases Host.notify (host.setMemory session.room.store
        { host.memory session.room.store with mailbox := stored.2 })
        session.me target (.messageReady stored.1) <;> rfl

private theorem deliver_locks [Carrier σ] (session : Session) (target : ParticipantId)
    (text : List UInt8)
    (host : Host σ) : (session.deliver target text host).2.locks = host.locks := by
  simp only [deliver]
  cases (session.room.memory host).mailbox.store session.me target text with
  | error error => rfl
  | ok stored =>
    simp only
    cases sent : Host.notify (session.room.setMemory host
        { session.room.memory host with mailbox := stored.2 })
        session.me target (.messageReady stored.1) with
    | error fault => rfl
    | ok after =>
      obtain ⟨carrier, -, rfl⟩ := Host.notify_eq_ok sent
      rfl

theorem lockBlind_tellHeld [Carrier σ] (session : Session) (target : ParticipantId)
    (bytes : List UInt8) : LockBlind (session.tellHeld (σ := σ) target bytes) where
  commutes host lock change := by
    by_cases member : (host.memory session.room.store).registry.contains target = true <;>
      simp [tellHeld, Room.memory, member, deliver_modifyLock]
  keeps host := by
    simp only [tellHeld]
    split
    · rw [deliver_locks]
    · rfl

private theorem deliverAll_modifyLock [Carrier σ] (session : Session) (text : List UInt8)
    (recipients : List ParticipantId) (host : Host σ) (lock : Nat) (change : Nat → Nat) :
    session.deliverAll text recipients (host.modifyLock lock change) =
      ((session.deliverAll text recipients host).1,
        (session.deliverAll text recipients host).2.modifyLock lock change) := by
  induction recipients generalizing host with
  | nil => rfl
  | cons recipient rest ih =>
    simp only [deliverAll, deliver_modifyLock, ih]
    split <;> rfl

private theorem deliverAll_locks [Carrier σ] (session : Session) (text : List UInt8)
    (recipients : List ParticipantId) (host : Host σ) :
    (session.deliverAll text recipients host).2.locks = host.locks := by
  induction recipients generalizing host with
  | nil => rfl
  | cons recipient rest ih =>
    simp only [deliverAll]
    split <;> simp only [ih, deliver_locks]

theorem lockBlind_sayHeld [Carrier σ] (session : Session) (bytes : List UInt8) :
    LockBlind (session.sayHeld (σ := σ) bytes) where
  commutes host lock change := by
    have same : session.others (host.modifyLock lock change) = session.others host := rfl
    simp only [sayHeld, same, deliverAll_modifyLock]
  keeps host := by simp only [sayHeld, deliverAll_locks]

theorem lockBlind_takeHeld (session : Session) (slot : Nat) :
    LockBlind (session.takeHeld (σ := σ) slot) :=
  ⟨fun _ _ _ => rfl, fun _ => rfl⟩

theorem lockBlind_leaveHeld (session : Session) : LockBlind (session.leaveHeld (σ := σ)) where
  commutes host lock change := by
    have vacated : session.vacate (host.modifyLock lock change) =
        (session.vacate host).modifyLock lock change := rfl
    simp only [leaveHeld, Room.memory, Host.memory_modifyLock, vacated, Room.unlink_modifyLock]
    by_cases last : ((host.memory session.room.store).registry.release session.me).2.isEmpty = true
    · simp only [last, if_true]
      rcases session.room.unlink (session.vacate host) with ⟨_ | _, after⟩ <;> rfl
    · simp [last]
  keeps host := by
    have kept := (Room.unlink_objects session.room (session.vacate host)).2
    simp only [leaveHeld]
    split_ifs with last
    · generalize session.room.unlink (session.vacate host) = outcome at kept
      rcases outcome with ⟨_ | _, after⟩ <;> exact kept
    · rfl

theorem register_eq_some_iff {outcome : Except ChatError (Fin maxParticipants) × Host σ} :
    session.register host = some outcome ↔
      session.room.Unlocked host ∧ session.registerHeld host = outcome :=
  Room.guarded_eq_some_iff (lockBlind_registerHeld session)

theorem tell_eq_some_iff [Carrier σ] {target : ParticipantId} {text : String} {bytes : List UInt8}
    {outcome : Except ChatError (Fin mailboxSlots) × Host σ} (legal : checkText text = .ok bytes) :
    session.tell target text host = some outcome ↔
      session.room.Unlocked host ∧ session.tellHeld target bytes host = outcome := by
  rw [tell, legal]
  exact Room.guarded_eq_some_iff (lockBlind_tellHeld session target bytes)

theorem say_eq_some_iff [Carrier σ] {text : String} {bytes : List UInt8}
    {outcome : Except ChatError Broadcast × Host σ} (legal : checkText text = .ok bytes) :
    session.say text host = some outcome ↔
      session.room.Unlocked host ∧ session.sayHeld bytes host = outcome := by
  rw [say, legal]
  exact Room.guarded_eq_some_iff (lockBlind_sayHeld session bytes)

theorem handle_messageReady_eq_some_iff [Carrier σ] {sender : ParticipantId} {slot : Nat}
    {outcome : Option Message × Host σ} :
    session.handle ⟨sender, .messageReady slot⟩ host = some outcome ↔
      session.room.Unlocked host ∧ session.takeHeld slot host = outcome :=
  Room.guarded_eq_some_iff (lockBlind_takeHeld session slot)

theorem leave_eq_guarded (session : Session) (host : Host σ) :
    session.leave host = session.room.guarded host session.leaveHeld := rfl

theorem leave_eq_some_iff {outcome : Except ChatError Departure × Host σ} :
    session.leave host = some outcome ↔
      session.room.Unlocked host ∧ session.leaveHeld host = outcome := by
  rw [leave_eq_guarded]
  exact Room.guarded_eq_some_iff (lockBlind_leaveHeld session)

end Session

end HostChat
