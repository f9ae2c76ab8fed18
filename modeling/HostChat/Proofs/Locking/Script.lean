import HostChat.Session
import Mathlib.Tactic.SplitIfs

/-! # Operations as scripts

An operation on rooms is a script: it calls the system, goes on with the answer, and so on until it
is over. Between two calls of one operation others can make theirs. A script that is run without
such an interruption is the operation.
-/

namespace HostChat

/-- What the operations on rooms ask of the system. -/
inductive Call where
  | openStore (names : RoomNames)
  | openLock (names : RoomNames)
  | createStore (names : RoomNames)
  | createLock (names : RoomNames)
  | unlinkStore (names : RoomNames)
  | unlinkLock (names : RoomNames)
  /-- Takes the lock of a room, as soon as it is free. -/
  | wait (room : Room)
  /-- Takes the lock of a room, unless it stays taken. -/
  | waitBriefly (room : Room)
  | post (room : Room)
  | read (room : Room)
  | write (room : Room) (memory : RoomMemory)
  | notify (sender target : ParticipantId) (notification : Notification)

namespace Call

@[reducible] def Answer : Call → Type
  | .openStore _ | .openLock _ | .createStore _ | .createLock _ => Except RoomError Nat
  | .unlinkStore _ | .unlinkLock _ => Except RoomError Unit
  | .wait _ | .post _ | .write .. => Unit
  | .waitBriefly _ => Bool
  | .read _ => RoomMemory
  | .notify .. => Except Fault Unit

variable {σ : Type}

/-- The host after a change, if there was one. -/
def settle {ε : Type} (host : Host σ) : Except ε (Host σ) → Except ε Unit × Host σ
  | .ok after => (.ok (), after)
  | .error error => (.error error, host)

/-- A store counts as open when it is known to hold a room. -/
def openRoomStore (names : RoomNames) (host : Host σ) : Except RoomError Nat := do
  let store ← host.stores.openObject .store names.store
  if (host.stores.objects[store]?).elim 0 Store.size < RoomMemory.byteSize then
    throw (.layout names.store .tooSmall)
  (host.memory store).header.check.mapError (.layout names.store)
  return store

/-- What the system does about a call. Nothing comes of waiting for a lock while it is taken. -/
def perform [Carrier σ] (host : Host σ) : (call : Call) → Option (call.Answer × Host σ)
  | .openStore names => some (openRoomStore names host, host)
  | .openLock names => some (host.locks.openObject .lock names.lock, host)
  | .createStore names =>
      match host.stores.create .store names.store .fresh with
      | .ok (store, stores) => some (.ok store, { host with stores })
      | .error error => some (.error error, host)
  | .createLock names =>
      match host.locks.create .lock names.lock 1 with
      | .ok (lock, locks) => some (.ok lock, { host with locks })
      | .error error => some (.error error, host)
  | .unlinkStore names => some (settle host (Room.unlinkStore names host))
  | .unlinkLock names => some (settle host (Room.unlinkLock names host))
  | .wait room => (host.acquire room.lock).map ((), ·)
  | .waitBriefly room => some (((host.acquire room.lock).map (true, ·)).getD (false, host))
  | .post room => some ((), host.release room.lock)
  | .read room => some (room.memory host, host)
  | .write room memory => some ((), room.setMemory host memory)
  | .notify sender target notification =>
      some (settle host (host.notify sender target notification))

end Call

/-- What is left of an operation: nothing but its result, or a call and what is to be done with the
answer. -/
inductive Script (α : Type) where
  | done (result : α)
  | calls (call : Call) (next : call.Answer → Script α)

namespace Script

variable {α β σ : Type}

def bind : Script α → (α → Script β) → Script β
  | .done result, next => next result
  | .calls call rest, next => .calls call fun answer => (rest answer).bind next

instance : Monad Script where
  pure := done
  bind := bind

def ask (call : Call) : Script call.Answer :=
  .calls call .done

/-- Makes all calls of a script, without an interruption. -/
def run [Carrier σ] : Script α → Host σ → Option (α × Host σ)
  | .done result, host => some (result, host)
  | .calls call next, host =>
      (call.perform host).bind fun (answer, host) => (next answer).run host

/-- Does something with the lock of a room held. -/
def guarded (room : Room) (body : Script α) : Script α := do
  let _ ← ask (.wait room)
  let result ← body
  let _ ← ask (.post room)
  return result

def attach (ns : String) (id : ParticipantId) : Script (Except RoomError Room) := do
  let names := RoomNames.ofRoom ns id
  match ← ask (.openStore names) with
  | .error error => return .error error
  | .ok store =>
      match ← ask (.openLock names) with
      | .error error => return .error error
      | .ok lock => return .ok ⟨id, names, store, lock⟩

/-- Looks into a room that is there already, unless its lock stays taken. -/
def occupants (running : ParticipantId → Bool) (ns : String) (id : ParticipantId) : Script Nat := do
  match ← attach ns id with
  | .error _ => return 0
  | .ok room =>
      match ← ask (.waitBriefly room) with
      | false => return 0
      | true =>
          let memory ← ask (.read room)
          let _ ← ask (.post room)
          return memory.registry.participants.countP fun participant =>
            participant ≠ id && running participant

def createLock (id : ParticipantId) (names : RoomNames) (store : Nat) :
    Script (Except RoomError Room) := do
  match ← ask (.createLock names) with
  | .ok lock => return .ok ⟨id, names, store, lock⟩
  | .error error =>
      let _ ← ask (.unlinkStore names)
      return .error error

def createRoom (running : ParticipantId → Bool) (ns : String) (id : ParticipantId) :
    Script (Except RoomError Room) := do
  let names := RoomNames.ofRoom ns id
  match ← occupants running ns id with
  | count + 1 => return .error (.inUse names.store (count + 1))
  | 0 =>
      match ← ask (.unlinkStore names) with
      | .error error => return .error error
      | .ok () =>
          match ← ask (.unlinkLock names) with
          | .error error => return .error error
          | .ok () =>
              match ← ask (.createStore names) with
              | .error error => return .error error
              | .ok store => createLock id names store

def unlink (room : Room) : Script (Except RoomError Unit) := do
  let store ← ask (.unlinkStore room.names)
  let lock ← ask (.unlinkLock room.names)
  return store.bind fun _ => lock

def register (session : Session) : Script (Except ChatError (Fin maxParticipants)) :=
  guarded session.room do
    let memory ← ask (.read session.room)
    match memory.registry.claim session.me with
    | .ok (place, registry) =>
        let _ ← ask (.write session.room { memory with registry })
        return .ok place
    | .error error => return .error (.ofRoom error)

def create (running : ParticipantId → Bool) (ns : String) (me : ParticipantId) :
    Script (Except ChatError Session) := do
  match ← createRoom running ns me with
  | .error error => return .error (.ofRoom error)
  | .ok room =>
      match ← register ⟨me, .creator, room⟩ with
      | .ok _ => return .ok ⟨me, .creator, room⟩
      | .error error =>
          let _ ← unlink room
          return .error error

def enter (ns : String) (me room : ParticipantId) : Script (Except ChatError Session) := do
  match ← attach ns room with
  | .error error => return .error (.ofRoom error)
  | .ok room =>
      let result ← register ⟨me, .joiner, room⟩
      return result.map fun _ => ⟨me, .joiner, room⟩

/-- Looks at the memory of a room. -/
def inspect (room : Room) (look : RoomMemory → α) : Script α :=
  guarded room do
    let memory ← ask (.read room)
    return look memory

def deliver (session : Session) (target : ParticipantId) (text : List UInt8) :
    Script (Except ChatError (Fin mailboxSlots)) := do
  let memory ← ask (.read session.room)
  match memory.mailbox.store session.me target text with
  | .error error => return .error (.ofRoom error)
  | .ok (slot, mailbox) =>
      let _ ← ask (.write session.room { memory with mailbox })
      match ← ask (.notify session.me target (.messageReady slot)) with
      | .ok () => return .ok slot
      | .error fault =>
          let _ ← ask (.write session.room { memory with mailbox := mailbox.release slot })
          return .error (.unreachable target fault)

def tell (session : Session) (target : ParticipantId) (text : String) :
    Script (Except ChatError (Fin mailboxSlots)) :=
  match checkText text with
  | .error error => return .error error
  | .ok bytes =>
      guarded session.room do
        let memory ← ask (.read session.room)
        if memory.registry.contains target then deliver session target bytes
        else return .error (.unknownParticipant target)

def deliverAll (session : Session) (text : List UInt8) : List ParticipantId → Script Broadcast
  | [] => return ⟨[], []⟩
  | recipient :: rest => do
      let result ← deliver session recipient text
      let broadcast ← deliverAll session text rest
      match result with
      | .ok _ => return { broadcast with delivered := recipient :: broadcast.delivered }
      | .error error => return { broadcast with failed := (recipient, error) :: broadcast.failed }

def say (session : Session) (text : String) : Script (Except ChatError Broadcast) :=
  match checkText text with
  | .error error => return .error error
  | .ok bytes =>
      guarded session.room do
        let memory ← ask (.read session.room)
        let broadcast ← deliverAll session bytes
          (memory.registry.participants.filter (· ≠ session.me))
        return .ok broadcast

def handle (session : Session) (envelope : Envelope) : Script (Option Message) :=
  match envelope.notification with
  | .joinRequest => do
      let _ ← ask (.notify session.me envelope.sender (.joinApprove session.room.id))
      return none
  | .joinApprove _ => return none
  | .messageReady slot =>
      guarded session.room do
        let memory ← ask (.read session.room)
        let (message, mailbox) := memory.mailbox.take slot session.me
        let _ ← ask (.write session.room { memory with mailbox })
        return message

def leave (session : Session) : Script (Except ChatError Departure) :=
  guarded session.room do
    let memory ← ask (.read session.room)
    let (_, registry) := memory.registry.release session.me
    let (dropped, mailbox) := memory.mailbox.purgeFor session.me
    let _ ← ask (.write session.room { memory with registry, mailbox })
    if registry.isEmpty then
      match ← unlink session.room with
      | .ok () => return .ok ⟨dropped, true⟩
      | .error error => return .error (.ofRoom error)
    else return .ok ⟨dropped, false⟩

/-! ### Scripts without interruption -/

theorem attach_eq_bind (ns : String) (id : ParticipantId) (host : Host σ) :
    Room.attach ns id host =
      (Call.openRoomStore (.ofRoom ns id) host).bind fun store =>
        (host.locks.openObject .lock (RoomNames.ofRoom ns id).lock).bind fun lock =>
          .ok ⟨id, .ofRoom ns id, store, lock⟩ := by
  rw [Room.attach, Call.openRoomStore]
  cases host.stores.openObject .store (RoomNames.ofRoom ns id).store with
  | error error => rfl
  | ok store =>
    change (if _ then _ else _) = Except.bind (if _ then _ else _) _
    split_ifs
    · rfl
    · cases (host.memory store).header.check <;> rfl

variable [Carrier σ] {host : Host σ}

theorem run_bind (script : Script α) (next : α → Script β) :
    (script >>= next).run host =
      (script.run host).bind fun (result, host) => (next result).run host := by
  induction script generalizing host with
  | done result => rfl
  | calls call rest ih =>
    change ((call.perform host).bind fun (answer, host) => (rest answer >>= next).run host) = _
    simp only [ih, run, Option.bind_assoc]

theorem run_ask_bind (call : Call) (next : call.Answer → Script α) :
    (ask call >>= next).run host =
      (call.perform host).bind fun (answer, host) => (next answer).run host := rfl

/-- A call that nobody has to wait for is made, and the script goes on with the answer. -/
theorem run_ask {call : Call} {next : call.Answer → Script α} {answer : call.Answer}
    {after : Host σ} (performs : call.perform host = some (answer, after)) :
    (ask call >>= next).run host = (next answer).run after := by
  rw [run_ask_bind, performs, Option.bind_some]

/-- Something that nobody has to wait for, done with a lock held. -/
theorem run_guarded {room : Room} {body : Script α} {held : Host σ → α × Host σ}
    (runs : ∀ host, body.run host = some (held host)) :
    (guarded room body).run host = room.guarded host held := by
  rw [guarded, run_ask_bind, Call.perform, Room.guarded]
  cases host.acquire room.lock with
  | none => rfl
  | some taken =>
    simp only [Option.map_some, Option.bind_some, run_bind, runs]
    rfl

theorem run_attach (ns : String) (id : ParticipantId) :
    (attach ns id).run host = some (Room.attach ns id host, host) := by
  rw [attach, run_ask rfl, attach_eq_bind]
  cases Call.openRoomStore (.ofRoom ns id) host with
  | error error => rfl
  | ok store =>
    dsimp only
    rw [run_ask rfl]
    cases host.locks.openObject .lock (RoomNames.ofRoom ns id).lock <;> rfl

theorem run_occupants (running : ParticipantId → Bool) (ns : String) (id : ParticipantId) :
    (occupants running ns id).run host = some (Room.occupants running ns id host) := by
  rw [occupants, run_bind, run_attach, Option.bind_some, Room.occupants]
  cases Room.attach ns id host with
  | error error => rfl
  | ok room =>
    dsimp only
    rw [run_ask rfl, Room.inspect, Room.guarded]
    cases host.acquire room.lock <;> rfl

theorem run_createLock (id : ParticipantId) (names : RoomNames) (store : Nat) :
    (createLock id names store).run host = some (Room.createLock id names store host) := by
  rw [createLock, run_ask_bind, Call.perform, Room.createLock]
  cases host.locks.create .lock names.lock 1 with
  | ok made => rfl
  | error error =>
    dsimp only [Option.bind_some]
    rw [run_ask rfl]
    cases Room.unlinkStore names host <;> rfl

theorem run_createRoom (running : ParticipantId → Bool) (ns : String) (id : ParticipantId) :
    (createRoom running ns id).run host = some (Room.create running ns id host) := by
  rw [createRoom, run_bind, run_occupants, Option.bind_some, Room.create]
  obtain ⟨_ | count, host⟩ := Room.occupants running ns id host
  · dsimp only
    rw [run_ask rfl]
    cases Room.unlinkStore (.ofRoom ns id) host with
    | error error => rfl
    | ok host =>
      dsimp only [Call.settle]
      rw [run_ask rfl]
      cases Room.unlinkLock (.ofRoom ns id) host with
      | error error => rfl
      | ok host =>
        dsimp only [Call.settle]
        rw [run_ask_bind, Call.perform, Room.createFresh]
        cases host.stores.create .store (RoomNames.ofRoom ns id).store .fresh with
        | error error => rfl
        | ok made => exact run_createLock ..
  · rfl

theorem run_unlink (room : Room) : (unlink room).run host = some (room.unlink host) := by
  rw [unlink, run_ask rfl, Room.unlink]
  cases Room.unlinkStore room.names host with
  | error error =>
    dsimp only [Call.settle]
    rw [run_ask rfl]
    cases Room.unlinkLock room.names host <;> rfl
  | ok host =>
    dsimp only [Call.settle]
    rw [run_ask rfl]
    cases Room.unlinkLock room.names host <;> rfl

theorem run_register (session : Session) :
    (register session).run host = session.register host := by
  refine run_guarded fun host => ?_
  rw [run_ask rfl]
  dsimp only
  cases (session.room.memory host).registry.claim session.me <;> rfl

theorem run_create (running : ParticipantId → Bool) (ns : String) (me : ParticipantId) :
    (create running ns me).run host = Session.create running ns me host := by
  rw [create, run_bind, run_createRoom, Option.bind_some, Session.create]
  rcases Room.create running ns me host with ⟨error | room, host⟩
  · rfl
  · dsimp only
    rw [run_bind, run_register]
    rcases Session.register ⟨me, .creator, room⟩ host with _ | ⟨error | place, host⟩
    · rfl
    · dsimp only [Option.bind_some]
      rw [run_bind, run_unlink]
      rfl
    · rfl

theorem run_enter (ns : String) (me room : ParticipantId) :
    (enter ns me room).run host = Session.enter ns me room host := by
  rw [enter, run_bind, run_attach, Option.bind_some, Session.enter]
  cases Room.attach ns room host with
  | error error => rfl
  | ok room =>
    dsimp only
    rw [run_bind, run_register]
    cases Session.register ⟨me, .joiner, room⟩ host <;> rfl

theorem run_inspect (room : Room) (look : RoomMemory → α) :
    (inspect room look).run host = room.inspect host look :=
  run_guarded fun _ => rfl

theorem run_deliver (session : Session) (target : ParticipantId) (text : List UInt8) (host : Host σ) :
    (deliver session target text).run host = some (session.deliver target text host) := by
  rw [deliver, run_ask rfl, Session.deliver]
  dsimp only
  cases (session.room.memory host).mailbox.store session.me target text with
  | error error => rfl
  | ok stored =>
    obtain ⟨slot, mailbox⟩ := stored
    dsimp only
    rw [run_ask rfl]
    rw [run_ask rfl]
    cases (session.room.setMemory host { session.room.memory host with mailbox }).notify session.me
      target (.messageReady slot) <;> rfl

theorem run_tell (session : Session) (target : ParticipantId) (text : String) :
    (tell session target text).run host = session.tell target text host := by
  rw [tell, Session.tell]
  cases checkText text with
  | error error => rfl
  | ok bytes =>
    refine run_guarded fun host => ?_
    rw [run_ask rfl]
    split_ifs
    · exact run_deliver ..
    · rfl

theorem run_deliverAll (session : Session) (text : List UInt8) (recipients : List ParticipantId)
    (host : Host σ) :
    (deliverAll session text recipients).run host = some (session.deliverAll text recipients host) := by
  induction recipients generalizing host with
  | nil => rfl
  | cons recipient rest ih =>
    rw [deliverAll, run_bind, run_deliver, Option.bind_some, Session.deliverAll]
    obtain ⟨result, after⟩ := session.deliver recipient text host
    dsimp only
    rw [run_bind, ih, Option.bind_some]
    cases result <;> rfl

theorem run_say (session : Session) (text : String) :
    (say session text).run host = session.say text host := by
  rw [say, Session.say]
  cases checkText text with
  | error error => rfl
  | ok bytes =>
    refine run_guarded fun host => ?_
    rw [run_ask rfl]
    dsimp only
    rw [run_bind, run_deliverAll]
    rfl

theorem run_handle (session : Session) (envelope : Envelope) :
    (handle session envelope).run host = session.handle envelope host := by
  rw [handle, Session.handle]
  cases envelope.notification with
  | joinRequest =>
    dsimp only
    rw [run_ask rfl]
    cases Host.notify host session.me envelope.sender (.joinApprove session.room.id) <;> rfl
  | joinApprove room => rfl
  | messageReady slot => exact run_guarded fun host => rfl

theorem run_leave (session : Session) : (leave session).run host = session.leave host := by
  refine run_guarded fun host => ?_
  rw [run_ask rfl]
  dsimp only
  rw [run_ask rfl]
  split_ifs
  · rw [run_bind, run_unlink, Option.bind_some]
    obtain ⟨result | done, after⟩ := session.room.unlink _ <;> rfl
  · rfl

end Script

/-- An operation on rooms, with all that it is given. -/
inductive RoomOperation where
  | attach (ns : String) (id : ParticipantId)
  | createRoom (running : ParticipantId → Bool) (ns : String) (id : ParticipantId)
  | unlink (room : Room)
  | create (running : ParticipantId → Bool) (ns : String) (me : ParticipantId)
  | enter (ns : String) (me room : ParticipantId)
  | register (session : Session)
  | participants (session : Session)
  | pendingMessages (session : Session)
  | tell (session : Session) (target : ParticipantId) (text : String)
  | say (session : Session) (text : String)
  | handle (session : Session) (envelope : Envelope)
  | leave (session : Session)

namespace RoomOperation

@[reducible] def Answer : RoomOperation → Type
  | .attach .. | .createRoom .. => Except RoomError Room
  | .unlink _ => Except RoomError Unit
  | .create .. | .enter .. => Except ChatError Session
  | .register _ => Except ChatError (Fin maxParticipants)
  | .participants _ => List ParticipantId
  | .pendingMessages _ => Nat
  | .tell .. => Except ChatError (Fin mailboxSlots)
  | .say .. => Except ChatError Broadcast
  | .handle .. => Option Message
  | .leave _ => Except ChatError Departure

def script : (operation : RoomOperation) → Script operation.Answer
  | .attach ns id => .attach ns id
  | .createRoom running ns id => .createRoom running ns id
  | .unlink room => .unlink room
  | .create running ns me => .create running ns me
  | .enter ns me room => .enter ns me room
  | .register session => .register session
  | .participants session => .inspect session.room (·.registry.participants)
  | .pendingMessages session => .inspect session.room (·.mailbox.occupied)
  | .tell session target text => .tell session target text
  | .say session text => .say session text
  | .handle session envelope => .handle session envelope
  | .leave session => .leave session

variable {σ : Type}

/-- What the operation does if nobody interrupts it. -/
def perform [Carrier σ] (host : Host σ) :
    (operation : RoomOperation) → Option (operation.Answer × Host σ)
  | .attach ns id => some (Room.attach ns id host, host)
  | .createRoom running ns id => some (Room.create running ns id host)
  | .unlink room => some (room.unlink host)
  | .create running ns me => Session.create running ns me host
  | .enter ns me room => Session.enter ns me room host
  | .register session => session.register host
  | .participants session => session.participants host
  | .pendingMessages session => session.pendingMessages host
  | .tell session target text => session.tell target text host
  | .say session text => session.say text host
  | .handle session envelope => session.handle envelope host
  | .leave session => session.leave host

theorem run_script [Carrier σ] (operation : RoomOperation) (host : Host σ) :
    operation.script.run host = operation.perform host := by
  cases operation with
  | attach ns id => exact Script.run_attach ..
  | createRoom running ns id => exact Script.run_createRoom ..
  | unlink room => exact Script.run_unlink room
  | create running ns me => exact Script.run_create ..
  | enter ns me room => exact Script.run_enter ..
  | register session => exact Script.run_register session
  | participants session => exact Script.run_inspect ..
  | pendingMessages session => exact Script.run_inspect ..
  | tell session target text => exact Script.run_tell ..
  | say session text => exact Script.run_say ..
  | handle session envelope => exact Script.run_handle ..
  | leave session => exact Script.run_leave session

end RoomOperation

end HostChat
