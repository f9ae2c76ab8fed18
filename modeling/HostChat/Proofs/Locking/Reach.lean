import HostChat.Proofs.Locking.Access
import HostChat.Proofs.Room.Lifetime

/-! # The reach of operations

What an operation opens, makes and removes goes by names, and they are those of one room. Other names
lead after it where they led before, and whether they lead anywhere makes no difference to it.
-/

namespace HostChat

variable {σ : Type}

namespace Call

/-- The names of the room of which a call opens, makes or removes a resource. -/
def names? : Call → Option RoomNames
  | .openStore names | .openLock names | .createStore names | .createLock names
  | .unlinkStore names | .unlinkLock names => some names
  | _ => none

/-- A call that opens, makes or removes nothing but resources of one room. -/
def Within (names : RoomNames) (call : Call) : Prop :=
  ∀ other ∈ call.names?, other = names

private theorem within_own {names : RoomNames} {call : Call} (own : call.names? = some names) :
    call.Within names := by
  intro other member
  rw [own] at member
  exact (Option.some.inj member).symm

private theorem within_of_none {names : RoomNames} {call : Call} (nameless : call.names? = none) :
    call.Within names := by
  intro other member
  rw [nameless] at member
  cases member

end Call

namespace Script

variable {α β : Type} {allowed : Call → Prop} {known : α → Prop} {other : β → Prop}
  {script : Script α} {next : α → Script β}

/-- A script that makes allowed calls only, whatever the answers are, with what is known of its
result. -/
def Only (allowed : Call → Prop) (known : α → Prop) : Script α → Prop
  | .done result => known result
  | .calls call next => allowed call ∧ ∀ answer, (next answer).Only allowed known

namespace Only

theorem pure {result : α} (holds : known result) : Only allowed known (pure result) := holds

theorem ask (call : Call) (next : call.Answer → Script α) (permitted : allowed call)
    (rest : ∀ answer, Only allowed known (next answer)) :
    Only allowed known (Script.ask call >>= next) :=
  ⟨permitted, rest⟩

theorem bind (first : Only allowed known script)
    (second : ∀ result, known result → Only allowed other (next result)) :
    Only allowed other (script >>= next) := by
  induction script with
  | done result => exact second result first
  | calls call rest ih => exact ⟨first.1, fun answer => ih answer (first.2 answer)⟩

theorem mono {wider : Call → Prop} {weaker : α → Prop} (only : Only allowed known script)
    (calls : ∀ call, allowed call → wider call) (results : ∀ result, known result → weaker result) :
    Only wider weaker script := by
  induction script with
  | done result => exact results result only
  | calls call rest ih => exact ⟨calls call only.1, fun answer => ih answer (only.2 answer)⟩

end Only

/-- A script that is about the resources of one room. -/
abbrev Within (names : RoomNames) (known : α → Prop) (script : Script α) : Prop :=
  script.Only (Call.Within names) known

/-- Any result. -/
abbrev anything (_ : α) : Prop := True

/-- A result that is a room of these names, if it is a room. -/
abbrev RoomNamed (names : RoomNames) (result : Except RoomError Room) : Prop :=
  ∀ room, result = .ok room → room.names = names

variable {names : RoomNames}

private theorem roomNamed_error {error : RoomError} : RoomNamed names (.error error) := nofun

private theorem roomNamed_ok {room : Room} (same : room.names = names) :
    RoomNamed names (.ok room) := by
  rintro _ ⟨⟩
  exact same

theorem only_attach (ns : String) (id : ParticipantId) :
    (attach ns id).Only
      (fun call => call = .openStore (.ofRoom ns id) ∨ call = .openLock (.ofRoom ns id))
      (RoomNamed (.ofRoom ns id)) := by
  refine .ask _ _ (.inl rfl) fun
    | .error _ => .pure roomNamed_error
    | .ok store => .ask _ _ (.inr rfl) fun
      | .error _ => .pure roomNamed_error
      | .ok lock => .pure (roomNamed_ok rfl)

theorem within_attach (ns : String) (id : ParticipantId) :
    (attach ns id).Within (.ofRoom ns id) (RoomNamed (.ofRoom ns id)) := by
  refine (only_attach ns id).mono ?_ fun _ named => named
  rintro call (rfl | rfl) <;> exact Call.within_own rfl

theorem within_guarded {room : Room} (body : script.Within names known) :
    (guarded room script).Within names known := by
  refine .ask _ _ (Call.within_of_none rfl) fun _ => .bind body fun result holds => ?_
  exact .ask _ _ (Call.within_of_none rfl) fun _ => .pure holds

theorem within_occupants (running : ParticipantId → Bool) (ns : String) (id : ParticipantId) :
    (occupants running ns id).Within (.ofRoom ns id) anything := by
  refine .bind (within_attach ns id) fun
    | .error _, _ => .pure trivial
    | .ok room, _ => .ask _ _ (Call.within_of_none rfl) fun
      | false => .pure trivial
      | true => .ask _ _ (Call.within_of_none rfl) fun _ =>
        .ask _ _ (Call.within_of_none rfl) fun _ => .pure trivial

theorem within_unlink (room : Room) : (unlink room).Within room.names anything :=
  .ask _ _ (Call.within_own rfl) fun _ => .ask _ _ (Call.within_own rfl) fun _ => .pure trivial

theorem within_createRoom (running : ParticipantId → Bool) (ns : String) (id : ParticipantId) :
    (createRoom running ns id).Within (.ofRoom ns id) (RoomNamed (.ofRoom ns id)) := by
  refine .bind (within_occupants running ns id) fun
    | count + 1, _ => .pure roomNamed_error
    | 0, _ => .ask _ _ (Call.within_own rfl) fun
      | .error _ => .pure roomNamed_error
      | .ok () => .ask _ _ (Call.within_own rfl) fun
        | .error _ => .pure roomNamed_error
        | .ok () => .ask _ _ (Call.within_own rfl) fun
          | .error _ => .pure roomNamed_error
          | .ok store => .ask _ _ (Call.within_own rfl) fun
            | .ok lock => .pure (roomNamed_ok rfl)
            | .error _ => .ask _ _ (Call.within_own rfl) fun _ => .pure roomNamed_error

theorem within_register (session : Session) : (register session).Within names anything := by
  refine within_guarded (.ask _ _ (Call.within_of_none rfl) fun memory => ?_)
  cases memory.registry.claim session.me with
  | ok claimed => exact .ask _ _ (Call.within_of_none rfl) fun _ => .pure trivial
  | error error => exact .pure trivial

theorem within_create (running : ParticipantId → Bool) (ns : String) (me : ParticipantId) :
    (create running ns me).Within (.ofRoom ns me) anything := by
  refine .bind (within_createRoom running ns me) fun
    | .error _, _ => .pure trivial
    | .ok room, named => .bind (within_register _) fun
      | .ok _, _ => .pure trivial
      | .error _, _ => ?_
  have own : room.names = .ofRoom ns me := named room rfl
  exact .bind (own ▸ within_unlink room) fun _ _ => .pure trivial

theorem within_enter (ns : String) (me room : ParticipantId) :
    (enter ns me room).Within (.ofRoom ns room) anything := by
  refine .bind (within_attach ns room) fun
    | .error _, _ => .pure trivial
    | .ok room, _ => .bind (within_register _) fun _ _ => .pure trivial

theorem within_inspect (room : Room) (look : RoomMemory → α) :
    (inspect room look).Within names anything :=
  within_guarded (.ask _ _ (Call.within_of_none rfl) fun _ => .pure trivial)

theorem within_deliver (session : Session) (target : ParticipantId) (text : List UInt8) :
    (deliver session target text).Within names anything := by
  refine .ask _ _ (Call.within_of_none rfl) fun memory => ?_
  cases memory.mailbox.store session.me target text with
  | error error => exact .pure trivial
  | ok stored =>
    exact .ask _ _ (Call.within_of_none rfl) fun _ => .ask _ _ (Call.within_of_none rfl) fun
      | .ok () => .pure trivial
      | .error _ => .ask _ _ (Call.within_of_none rfl) fun _ => .pure trivial

theorem within_tell (session : Session) (target : ParticipantId) (text : String) :
    (tell session target text).Within names anything := by
  rw [tell]
  cases checkText text with
  | error error => exact .pure trivial
  | ok bytes =>
    refine within_guarded (.ask _ _ (Call.within_of_none rfl) fun memory => ?_)
    split_ifs
    · exact within_deliver session target bytes
    · exact .pure trivial

theorem within_deliverAll (session : Session) (text : List UInt8) (recipients : List ParticipantId) :
    (deliverAll session text recipients).Within names anything := by
  induction recipients with
  | nil => exact .pure trivial
  | cons recipient rest ih =>
    refine .bind (within_deliver session recipient text) fun result _ =>
      .bind ih fun broadcast _ => ?_
    cases result <;> exact .pure trivial

theorem within_say (session : Session) (text : String) :
    (say session text).Within names anything := by
  rw [say]
  cases checkText text with
  | error error => exact .pure trivial
  | ok bytes =>
    exact within_guarded (.ask _ _ (Call.within_of_none rfl) fun _ =>
      .bind (within_deliverAll ..) fun _ _ => .pure trivial)

theorem within_handle (session : Session) (envelope : Envelope) :
    (handle session envelope).Within names anything := by
  rw [handle]
  cases envelope.notification with
  | joinRequest => exact .ask _ _ (Call.within_of_none rfl) fun _ => .pure trivial
  | joinApprove room => exact .pure trivial
  | messageReady slot =>
    exact within_guarded (.ask _ _ (Call.within_of_none rfl) fun _ =>
      .ask _ _ (Call.within_of_none rfl) fun _ => .pure trivial)

theorem within_leave (session : Session) :
    (leave session).Within session.room.names anything := by
  refine within_guarded (.ask _ _ (Call.within_of_none rfl) fun memory =>
    .ask _ _ (Call.within_of_none rfl) fun _ => ?_)
  split_ifs
  · exact .bind (within_unlink session.room) fun
      | .ok (), _ => .pure trivial
      | .error _, _ => .pure trivial
  · exact .pure trivial

end Script

/-- The names of the room that an operation is about. -/
def RoomOperation.names : RoomOperation → RoomNames
  | .attach ns id | .createRoom _ ns id | .create _ ns id | .enter ns _ id => .ofRoom ns id
  | .unlink room => room.names
  | .register session | .participants session | .pendingMessages session | .tell session _ _
  | .say session _ | .handle session _ | .leave session => session.room.names

theorem RoomOperation.within_script (operation : RoomOperation) :
    operation.script.Within operation.names Script.anything := by
  cases operation with
  | attach ns id => exact (Script.within_attach ns id).mono (fun _ own => own) fun _ _ => trivial
  | createRoom running ns id =>
    exact (Script.within_createRoom running ns id).mono (fun _ own => own) fun _ _ => trivial
  | unlink room => exact Script.within_unlink room
  | create running ns me => exact Script.within_create running ns me
  | enter ns me room => exact Script.within_enter ns me room
  | register session => exact Script.within_register session
  | participants session => exact Script.within_inspect ..
  | pendingMessages session => exact Script.within_inspect ..
  | tell session target text => exact Script.within_tell session target text
  | say session text => exact Script.within_say session text
  | handle session envelope => exact Script.within_handle session envelope
  | leave session => exact Script.within_leave session

end HostChat
