import HostChat.Room.Basic
import HostChat.Scenario.Memory

/-! # Scripted rooms

A script works on the rooms of one host. It keeps handles under names of its own.

A namespace has no rooms when a step names it for the first time. Namespaces that differ in slashes
at their front lead to the same names of objects; so when a namespace comes up in a new spelling, the
names that other spellings have left there go away first.
-/

namespace HostChat.Scenario

/-- The processes that run on the host of a script: only the first one does. -/
def isInit (id : ParticipantId) : Bool :=
  id.toNat == 1

inductive RoomStep where
  | create (handle ns : String) (id : ParticipantId)
  | attach (handle ns : String) (id : ParticipantId)
  | close (handle : String)
  | unlink (handle : String)
  | lookUp (ns : String) (id : ParticipantId)
  | writeStore (ns : String) (id : ParticipantId) (start : Nat) (bytes : List UInt8)
  | resizeStore (ns : String) (id : ParticipantId) (size : Nat)
  | removeStore (ns : String) (id : ParticipantId)
  | removeLock (ns : String) (id : ParticipantId)
  | dump (handle : String)
  /-- A step on the memory, under the room's lock. -/
  | memory (handle : String) (step : MemoryStep)

/-- The namespace and the id by which a step names a room. -/
def RoomStep.named? : RoomStep → Option (String × ParticipantId)
  | .create _ ns id | .attach _ ns id | .lookUp ns id | .writeStore ns id _ _
  | .resizeStore ns id _ | .removeStore ns id | .removeLock ns id => some (ns, id)
  | .close _ | .unlink _ | .dump _ | .memory _ _ => none

inductive RoomOutcome where
  | done
  | room (result : Except RoomError Room)
  | unlinked (result : Except RoomError Unit)
  | flag (value : Bool)
  | names (store lock : Bool)
  | slots (slots : List (Nat × Slot))
  | memory (outcome : MemoryOutcome)
  | noHandle
  | noStore
  /-- The lock was never given back. -/
  | stuck

structure RoomStage where
  host : Host Unit
  handles : Table String Room
  /-- The rooms that steps have named so far. -/
  named : List (String × ParticipantId)

namespace RoomStage

def initial : RoomStage := ⟨.empty (), .empty, []⟩

def handle? (stage : RoomStage) (name : String) : Option Room :=
  stage.handles.find? name

/-- Keeps a new handle in place of one of the same name. -/
def keep (stage : RoomStage) (name : String) :
    Except RoomError Room × Host Unit → RoomOutcome × RoomStage
  | (.ok room, host) =>
      (.room (.ok room), { stage with host, handles := stage.handles.insert name room })
  | (.error error, host) => (.room (.error error), { stage with host })

/-- Runs something on a room with its lock held. -/
def withRoom (stage : RoomStage) (name : String)
    (body : RoomMemory → RoomOutcome × RoomMemory) : RoomOutcome × RoomStage :=
  match stage.handle? name with
  | none => (.noHandle, stage)
  | some room =>
      let ran := room.guarded stage.host fun host =>
        let (outcome, memory) := body (room.memory host)
        (outcome, room.setMemory host memory)
      match ran with
      | some (outcome, host) => (outcome, { stage with host })
      | none => (.stuck, stage)

/-- What `withRoom` would show of the memory after a step. -/
def summary? (stage : RoomStage) (name : String) : Option MemorySummary :=
  (stage.handle? name).map fun room => .of (room.memory stage.host)

end RoomStage

def storeNumber? (names : RoomNames) {σ : Type} (host : Host σ) : Option Nat :=
  host.stores.find? .store names.store

/-- Writes into the store of a room, if it is there. -/
def writeStore? {σ : Type} (names : RoomNames) (start : Nat) (bytes : List UInt8) (host : Host σ) :
    Option (Host σ) :=
  (storeNumber? names host).map fun number =>
    { host with stores := host.stores.modify number (·.write start bytes) }

/-- Gives the store of a room a size, and makes it if it is not there. -/
def resizeStore? {σ : Type} (names : RoomNames) (size : Nat) (host : Host σ) : Option (Host σ) :=
  match storeNumber? names host with
  | some number => some { host with stores := host.stores.modify number (·.resize size) }
  | none =>
      match host.stores.create .store names.store ⟨size, .zero⟩ with
      | .ok (_, stores) => some { host with stores }
      | .error _ => none

def removeStoreName {σ : Type} (names : RoomNames) (host : Host σ) : Bool × Host σ :=
  match host.stores.unlink .store names.store with
  | .ok (existed, stores) => (existed, { host with stores })
  | .error _ => (false, host)

def removeLockName {σ : Type} (names : RoomNames) (host : Host σ) : Bool × Host σ :=
  match host.locks.unlink .lock names.lock with
  | .ok (existed, locks) => (existed, { host with locks })
  | .error _ => (false, host)

def removeNames {σ : Type} (names : RoomNames) (host : Host σ) : Host σ :=
  (removeLockName names (removeStoreName names host).2).2

/-- Clears a namespace that is named for the first time. An object's name comes from a step, so that
its id has been named before. -/
def RoomStage.introduce (stage : RoomStage) (ns : String) (id : ParticipantId) : RoomStage :=
  let named := (ns, id) :: stage.named
  if stage.named.any (·.1 == ns) then { stage with named }
  else
    let clear (host : Host Unit) (room : String × ParticipantId) : Host Unit :=
      removeNames (.ofRoom ns room.2) host
    { stage with host := named.foldl clear stage.host, named }

def RoomStep.perform (running : ParticipantId → Bool) (step : RoomStep) (stage : RoomStage) :
    RoomOutcome × RoomStage :=
  match step with
  | .create handle ns id => stage.keep handle (Room.create running ns id stage.host)
  | .attach handle ns id => stage.keep handle (Room.attach ns id stage.host, stage.host)
  | .close handle =>
      (.flag (stage.handle? handle).isSome, { stage with handles := stage.handles.erase handle })
  | .unlink handle =>
      match stage.handle? handle with
      | none => (.noHandle, stage)
      | some room =>
          let (result, host) := room.unlink stage.host
          (.unlinked result, { stage with host })
  | .lookUp ns id =>
      let names := RoomNames.ofRoom ns id
      (.names (stage.host.stores.find? .store names.store).isSome
        (stage.host.locks.find? .lock names.lock).isSome, stage)
  | .writeStore ns id start bytes =>
      match writeStore? (RoomNames.ofRoom ns id) start bytes stage.host with
      | some host => (.done, { stage with host })
      | none => (.noStore, stage)
  | .resizeStore ns id size =>
      match resizeStore? (RoomNames.ofRoom ns id) size stage.host with
      | some host => (.done, { stage with host })
      | none => (.noStore, stage)
  | .removeStore ns id =>
      let (existed, host) := removeStoreName (RoomNames.ofRoom ns id) stage.host
      (.flag existed, { stage with host })
  | .removeLock ns id =>
      let (existed, host) := removeLockName (RoomNames.ofRoom ns id) stage.host
      (.flag existed, { stage with host })
  | .dump handle => stage.withRoom handle fun memory => (.slots (occupiedSlots memory), memory)
  | .memory handle step =>
      stage.withRoom handle fun memory =>
        let (outcome, memory) := step.run memory
        (.memory outcome, memory)

def RoomStep.run (running : ParticipantId → Bool) (step : RoomStep) (stage : RoomStage) :
    RoomOutcome × RoomStage :=
  step.perform running (step.named?.elim stage fun (ns, id) => stage.introduce ns id)

end HostChat.Scenario
