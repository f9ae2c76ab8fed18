import HostChat.Proofs.Locking.Script

/-! # The discipline of scripts

Whoever has a lock does not wait for any. Memory is only read and written through a handle whose lock
is held, a lock is given back by its holder only, and nothing is held when an operation is over. All
scripts of operations are like that, whatever the system answers.
-/

namespace HostChat

namespace Call

/-- What may be called for with some locks in hand. -/
def Permitted (held : List Nat) : Call → Prop
  | .wait _ | .waitBriefly _ => held = []
  | .post room | .read room | .write room _ => held = [room.lock]
  | _ => True

/-- The locks in hand after an answer. -/
def hold (held : List Nat) : (call : Call) → call.Answer → List Nat
  | .wait room, _ => room.lock :: held
  | .waitBriefly room, taken => if taken then room.lock :: held else held
  | .post room, _ => held.erase room.lock
  | _, _ => held

end Call

namespace Script

variable {α β : Type} {script : Script α} {next : α → Script β} {held middle final : List Nat}

/-- A script that goes from the locks in hand to those that it leaves in hand, with nothing but what
is permitted. -/
def Keeps (held final : List Nat) : Script α → Prop
  | .done _ => held = final
  | .calls call next =>
      call.Permitted held ∧ ∀ answer, (next answer).Keeps (call.hold held answer) final

namespace Keeps

theorem pure (held : List Nat) (result : α) : Keeps held held (pure result) := rfl

theorem ask (call : Call) (next : call.Answer → Script α) (permitted : call.Permitted held)
    (rest : ∀ answer, Keeps (call.hold held answer) final (next answer)) :
    Keeps held final (Script.ask call >>= next) :=
  ⟨permitted, rest⟩

theorem bind (first : Keeps held middle script) (second : ∀ result, Keeps middle final (next result)) :
    Keeps held final (script >>= next) := by
  induction script generalizing held with
  | done result =>
    cases first
    exact second result
  | calls call rest ih =>
    obtain ⟨permitted, goes⟩ := first
    exact ⟨permitted, fun answer => ih answer (goes answer)⟩

theorem guarded {room : Room} (body : Keeps [room.lock] [room.lock] script) :
    Keeps [] [] (Script.guarded room script) := by
  refine .ask _ _ rfl fun _ => .bind body fun result => .ask _ _ rfl fun _ => ?_
  exact List.erase_cons_head ..

end Keeps

theorem keeps_attach (held : List Nat) (ns : String) (id : ParticipantId) :
    Keeps held held (attach ns id) := by
  refine .ask _ _ trivial fun
    | .error _ => .pure ..
    | .ok store => .ask _ _ trivial fun
      | .error _ => .pure ..
      | .ok lock => .pure ..

theorem keeps_occupants (running : ParticipantId → Bool) (ns : String) (id : ParticipantId) :
    Keeps [] [] (occupants running ns id) := by
  refine .bind (keeps_attach [] ns id) fun
    | .error _ => .pure ..
    | .ok room => .ask _ _ rfl fun
      | false => .pure ..
      | true => .ask _ _ rfl fun _ => .ask _ _ rfl fun _ => ?_
  exact List.erase_cons_head ..

theorem keeps_unlink (held : List Nat) (room : Room) : Keeps held held (unlink room) :=
  .ask _ _ trivial fun _ => .ask _ _ trivial fun _ => .pure ..

theorem keeps_createRoom (running : ParticipantId → Bool) (ns : String) (id : ParticipantId) :
    Keeps [] [] (createRoom running ns id) := by
  refine .bind (keeps_occupants running ns id) fun
    | count + 1 => .pure ..
    | 0 => .ask _ _ trivial fun
      | .error _ => .pure ..
      | .ok () => .ask _ _ trivial fun
        | .error _ => .pure ..
        | .ok () => .ask _ _ trivial fun
          | .error _ => .pure ..
          | .ok store => .ask _ _ trivial fun
            | .ok lock => .pure ..
            | .error _ => .ask _ _ trivial fun _ => .pure ..

theorem keeps_register (session : Session) : Keeps [] [] (register session) := by
  refine .guarded (.ask _ _ rfl fun memory => ?_)
  cases memory.registry.claim session.me with
  | ok claimed => exact .ask _ _ rfl fun _ => .pure ..
  | error error => exact .pure ..

theorem keeps_create (running : ParticipantId → Bool) (ns : String) (me : ParticipantId) :
    Keeps [] [] (create running ns me) := by
  refine .bind (keeps_createRoom running ns me) fun
    | .error _ => .pure ..
    | .ok room => .bind (keeps_register _) fun
      | .ok _ => .pure ..
      | .error _ => .bind (keeps_unlink [] room) fun _ => .pure ..

theorem keeps_enter (ns : String) (me room : ParticipantId) : Keeps [] [] (enter ns me room) := by
  refine .bind (keeps_attach [] ns room) fun
    | .error _ => .pure ..
    | .ok room => .bind (keeps_register _) fun _ => .pure ..

theorem keeps_inspect (room : Room) (look : RoomMemory → α) : Keeps [] [] (inspect room look) :=
  .guarded (.ask _ _ rfl fun _ => .pure ..)

theorem keeps_deliver (session : Session) (target : ParticipantId) (text : List UInt8) :
    Keeps [session.room.lock] [session.room.lock] (deliver session target text) := by
  refine .ask _ _ rfl fun memory => ?_
  cases memory.mailbox.store session.me target text with
  | error error => exact .pure ..
  | ok stored =>
    refine .ask _ _ rfl fun _ => .ask _ _ trivial fun
      | .ok () => .pure ..
      | .error _ => .ask _ _ rfl fun _ => .pure ..

theorem keeps_tell (session : Session) (target : ParticipantId) (text : String) :
    Keeps [] [] (tell session target text) := by
  rw [tell]
  cases checkText text with
  | error error => exact .pure ..
  | ok bytes =>
    refine .guarded (.ask _ _ rfl fun memory => ?_)
    split_ifs
    · exact keeps_deliver session target bytes
    · exact .pure ..

/-- The lock stays in hand from one recipient to the next, whatever becomes of each. -/
theorem keeps_deliverAll (session : Session) (text : List UInt8) (recipients : List ParticipantId) :
    Keeps [session.room.lock] [session.room.lock] (deliverAll session text recipients) := by
  induction recipients with
  | nil => exact .pure ..
  | cons recipient rest ih =>
    refine .bind (keeps_deliver session recipient text) fun result => .bind ih fun broadcast => ?_
    cases result <;> exact .pure ..

theorem keeps_say (session : Session) (text : String) : Keeps [] [] (say session text) := by
  rw [say]
  cases checkText text with
  | error error => exact .pure ..
  | ok bytes =>
    exact .guarded (.ask _ _ rfl fun _ => .bind (keeps_deliverAll ..) fun _ => .pure ..)

theorem keeps_handle (session : Session) (envelope : Envelope) :
    Keeps [] [] (handle session envelope) := by
  rw [handle]
  cases envelope.notification with
  | joinRequest => exact .ask _ _ trivial fun _ => .pure ..
  | joinApprove room => exact .pure ..
  | messageReady slot =>
    exact .guarded (.ask _ _ rfl fun _ => .ask _ _ rfl fun _ => .pure ..)

/-- The names of the room go away with its lock in hand, and it is given back even if they do not. -/
theorem keeps_leave (session : Session) : Keeps [] [] (leave session) := by
  refine .guarded (.ask _ _ rfl fun memory => .ask _ _ rfl fun _ => ?_)
  split_ifs
  · exact .bind (keeps_unlink _ session.room) fun
      | .ok () => .pure ..
      | .error _ => .pure ..
  · exact .pure ..

end Script

/-- No operation needs a lock in hand, and none leaves one in hand. -/
theorem RoomOperation.keeps_script (operation : RoomOperation) :
    operation.script.Keeps [] [] := by
  cases operation with
  | attach ns id => exact Script.keeps_attach [] ns id
  | createRoom running ns id => exact Script.keeps_createRoom running ns id
  | unlink room => exact Script.keeps_unlink [] room
  | create running ns me => exact Script.keeps_create running ns me
  | enter ns me room => exact Script.keeps_enter ns me room
  | register session => exact Script.keeps_register session
  | participants session => exact Script.keeps_inspect ..
  | pendingMessages session => exact Script.keeps_inspect ..
  | tell session target text => exact Script.keeps_tell session target text
  | say session text => exact Script.keeps_say session text
  | handle session envelope => exact Script.keeps_handle session envelope
  | leave session => exact Script.keeps_leave session

end HostChat
