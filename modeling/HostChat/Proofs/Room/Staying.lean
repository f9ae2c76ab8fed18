import HostChat.Proofs.Replay
import HostChat.Proofs.Room.Apart
import HostChat.Proofs.Room.Attaching
import HostChat.Proofs.Room.Creation
import HostChat.Scenario.Memory

/-! # Rooms stay attachable

Whatever the participants do to the registry and the mailbox of a room through their handles on it,
its header stays what it is, so the room is found under its names for as long as it has them. The
memory that is found is what the accesses have made of an empty room, one after the other.
-/

namespace HostChat

open Scenario

variable {σ : Type}

/-- An access to the registry and the mailbox of a room, or one that makes it an empty room again. Only
the writing of bytes at will is none. -/
def Scenario.MemoryStep.isOperation : MemoryStep → Bool
  | .writeBytes .. => false
  | _ => true

abbrev RoomAccess : Type := {step : MemoryStep // step.isOperation}

/-- No access spoils the header of a room. -/
theorem RoomAccess.header_run (access : RoomAccess) {memory : RoomMemory}
    (proper : memory.header = .room) : (access.val.run memory).2.header = .room := by
  obtain ⟨step, operation⟩ := access
  cases step with
  | init | initHeader => rfl
  | claim id =>
    simp only [MemoryStep.run]
    cases memory.registry.claim id <;> exact proper
  | store sender recipient text =>
    simp only [MemoryStep.run]
    cases memory.mailbox.store sender recipient text <;> exact proper
  | readBytes start length =>
    simp only [MemoryStep.run]
    split_ifs <;> exact proper
  | writeBytes start bytes => cases operation
  | release | clearRegistry | clearMailbox | take | freeSlot | purge | checkHeader | contains
  | participants | readSlot => exact proper

namespace Room

/-- One access through a handle, with the lock held. -/
def access (room : Room) (step : MemoryStep) (host : Host σ) : Option (MemoryOutcome × Host σ) :=
  room.guarded host fun host =>
    let (outcome, memory) := step.run (room.memory host)
    (outcome, room.setMemory host memory)

theorem access_of_unlocked {room : Room} {host : Host σ} (step : MemoryStep)
    (unlocked : room.Unlocked host) :
    room.access step host = some ((step.run (room.memory host)).1,
      room.setMemory host (step.run (room.memory host)).2) :=
  guarded_of_unlocked ⟨fun _ _ _ => rfl, fun _ => rfl⟩ unlocked

/-- What is done to the rooms of a host, one thing after the other. Between the taking of a lock and
its giving back, others may do whatever needs no lock. -/
inductive Action where
  | lock (handle : Room)
  | access (handle : Room) (operation : RoomAccess)
  | unlock (handle : Room)
  | create (running : ParticipantId → Bool) (ns : String) (id : ParticipantId)
  | unlink (handle : Room)

namespace Action

/-- The room's memory is accessed, and its lock given back, only while somebody has the lock. -/
def perform (host : Host σ) : Action → Option (Host σ)
  | .lock handle => host.acquire handle.lock
  | .access handle operation =>
      if host.locks.objects[handle.lock]? = some 0 then
        some (handle.setMemory host (operation.val.run (handle.memory host)).2)
      else none
  | .unlock handle =>
      if host.locks.objects[handle.lock]? = some 0 then some (host.release handle.lock) else none
  | .create running ns id => some (Room.create running ns id host).2
  | .unlink handle => some (handle.unlink host).2

/-- The actions that are taken, and what they do to the host. -/
inductive Performs (host : Host σ) : Action → Host σ → Prop where
  | lock {handle : Room} {value : Nat}
      (free : host.locks.objects[handle.lock]? = some (value + 1)) :
      Performs host (.lock handle) (host.modifyLock handle.lock fun _ => value)
  | access {handle : Room} {operation : RoomAccess}
      (held : host.locks.objects[handle.lock]? = some 0) :
      Performs host (.access handle operation)
        (handle.setMemory host (operation.val.run (handle.memory host)).2)
  | unlock {handle : Room} (held : host.locks.objects[handle.lock]? = some 0) :
      Performs host (.unlock handle) (host.release handle.lock)
  | create {running : ParticipantId → Bool} {ns : String} {id : ParticipantId} :
      Performs host (.create running ns id) (Room.create running ns id host).2
  | unlink {handle : Room} : Performs host (.unlink handle) (handle.unlink host).2

theorem performs_of_perform {host next : Host σ} {action : Action}
    (performed : action.perform host = some next) : Performs host action next := by
  cases action with
  | lock handle =>
    obtain ⟨value, free, rfl⟩ := Host.acquire_eq_some_iff.mp performed
    exact .lock free
  | access handle operation =>
    simp only [perform] at performed
    split_ifs at performed with held
    cases performed
    exact .access held
  | unlock handle =>
    simp only [perform] at performed
    split_ifs at performed with held
    cases performed
    exact .unlock held
  | create running ns id =>
    cases performed
    exact .create
  | unlink handle =>
    cases performed
    exact .unlink

/-- What an action makes of the memory of a room: only accesses through handles on the same store
make anything of it. -/
def edit (room : Room) (memory : RoomMemory) : Action → RoomMemory
  | .access handle operation =>
      if handle.store = room.store then (operation.val.run memory).2 else memory
  | _ => memory

/-- An action that takes the name of a store or a lock from what has it: a name is removed for good, or
to be given to a new room. -/
inductive Removes (names : RoomNames) (host : Host σ) : Action → Prop where
  | create {running : ParticipantId → Bool} {ns : String} {id : ParticipantId}
      (vacant : (occupants running ns id host).1 = 0) (shared : ¬(RoomNames.ofRoom ns id).Apart names) :
      Removes names host (.create running ns id)
  | unlink {handle : Room} (shared : ¬handle.names.Apart names) : Removes names host (.unlink handle)

end Action

variable {host next after last : Host σ} {room : Room} {memory : RoomMemory} {action : Action}
  {names other : RoomNames}

/-- A store of just the size of a room, with a proper header and the given memory. -/
structure Holds (room : Room) (memory : RoomMemory) (host : Host σ) : Prop where
  store : host.stores.objects[room.store]? = some ⟨RoomMemory.byteSize, memory⟩
  header : memory.header = .room

theorem Holds.memory_eq (holds : room.Holds memory host) : room.memory host = memory := by
  simp only [Room.memory, Host.memory, holds.store]

theorem Holds.isRoom (holds : room.Holds memory host) : host.IsRoom room.store :=
  ⟨_, holds.store, Nat.le_refl _, by rw [holds.header]; rfl⟩

theorem Holds.of_objects (holds : room.Holds memory host)
    (same : next.stores.objects = host.stores.objects) : room.Holds memory next :=
  ⟨by rw [same, holds.store], holds.header⟩

theorem Holds.of_spares (holds : room.Holds memory host) (spares : host.Spares next) :
    room.Holds memory next :=
  ⟨(spares.stores _ holds.isRoom.made).trans holds.store, holds.header⟩

theorem Holds.setMemory {changed : RoomMemory} (holds : room.Holds memory host)
    (proper : changed.header = .room) {handle : Room} (same : handle.store = room.store) :
    room.Holds changed (handle.setMemory host changed) := by
  refine ⟨?_, proper⟩
  rw [Room.setMemory, same]
  simp [Host.setMemory, Directory.modify, Array.getElem?_modify, holds.store]

theorem Holds.setMemory_of_ne {changed : RoomMemory} (holds : room.Holds memory host)
    {handle : Room} (different : handle.store ≠ room.store) :
    room.Holds memory (handle.setMemory host changed) := by
  refine ⟨?_, holds.header⟩
  simpa [Room.setMemory, Host.setMemory, Directory.modify, Array.getElem?_modify, different]
    using holds.store

/-- One action makes of a room what it is said to make of it. -/
theorem Holds.performs (holds : room.Holds memory host) (performs : action.Performs host next) :
    room.Holds (action.edit room memory) next := by
  cases performs with
  | lock free => exact holds.of_objects rfl
  | @access handle operation held =>
    simp only [Action.edit]
    split_ifs with same
    · have reads : handle.memory host = memory := by
        rw [Room.memory, same]
        exact holds.memory_eq
      rw [reads]
      exact holds.setMemory (operation.header_run holds.header) same
    · exact holds.setMemory_of_ne same
  | unlock held => exact holds.of_objects rfl
  | create => exact holds.of_spares (spares_create ..)
  | unlink => exact holds.of_objects (unlink_objects ..).1

theorem Holds.replay {actions : List Action} (holds : room.Holds memory host)
    (ran : replay? Action.perform host actions = some last) :
    room.Holds (actions.foldl (Action.edit room) memory) last := by
  induction actions generalizing host memory with
  | nil =>
    cases ran
    exact holds
  | cons action rest ih =>
    obtain ⟨next, performed, ran⟩ := Option.bind_eq_some_iff.mp ran
    exact ih (holds.performs (Action.performs_of_perform performed)) ran

theorem Made.holds {storeKey lockKey : String} (made : Made host after room storeKey lockKey) :
    room.Holds .fresh after :=
  ⟨made.fresh, rfl⟩

/-- What happens under the names of one room leaves those of another where they are. -/
theorem Contained.sameNamed (contained : Contained other host next) (apart : other.Apart names) :
    Host.SameNamed names host next :=
  ⟨Directory.find?_of_others_kept apart.store contained.storeNames,
    Directory.find?_of_others_kept apart.lock contained.lockNames⟩

/-- Names that are not removed lead where they led. -/
theorem Action.Performs.sameNamed (performs : action.Performs host next)
    (kept : ¬action.Removes names host) : Host.SameNamed names host next := by
  cases performs with
  | @create running ns id =>
    cases count : (occupants running ns id host).1 with
    | zero =>
      have apart : (RoomNames.ofRoom ns id).Apart names := by
        by_contra shared
        exact kept (.create count shared)
      exact (contained_create running ns id host).sameNamed apart
    | succ present =>
      rw [create_of_occupied count]
      exact ⟨rfl, rfl⟩
  | @unlink handle =>
    have apart : handle.names.Apart names := by
      by_contra shared
      exact kept (.unlink shared)
    exact (forgets_unlink handle host).contained.sameNamed apart
  | lock | access | unlock => exact ⟨rfl, rfl⟩

/-- No action of a run removes the names of a room. -/
def KeepsNames (names : RoomNames) (host : Host σ) (actions : List Action) : Prop :=
  ∀ earlier action later reached, actions = earlier ++ action :: later →
    replay? Action.perform host earlier = some reached → ¬action.Removes names reached

theorem KeepsNames.sameNamed {actions : List Action} (keeps : KeepsNames names host actions)
    (ran : replay? Action.perform host actions = some last) : Host.SameNamed names host last := by
  induction actions generalizing host with
  | nil =>
    cases ran
    exact ⟨rfl, rfl⟩
  | cons action rest ih =>
    obtain ⟨next, performed, ran⟩ := Option.bind_eq_some_iff.mp ran
    have first := (Action.performs_of_perform performed).sameNamed (keeps [] action rest host rfl rfl)
    have second : Host.SameNamed names next last := by
      refine ih (fun earlier other later reached split went => ?_) ran
      refine keeps (action :: earlier) other later reached (congrArg (action :: ·) split) ?_
      rw [replay?_cons, performed]
      exact went
    exact ⟨second.store.trans first.store, second.lock.trans first.lock⟩

/-- What whoever looks for a room finds of it. -/
structure Found (ns : String) (id : ParticipantId) (room : Room) (memory : RoomMemory)
    (host : Host σ) : Prop where
  /-- The room is there to be attached to for as long as both names lead to it. -/
  attach_iff : attach ns id host = .ok room ↔
    host.stores.find? .store (RoomNames.ofRoom ns id).store = some room.store ∧
      host.locks.find? .lock (RoomNames.ofRoom ns id).lock = some room.lock
  /-- Through the new handle, the registry and the mailbox are seen as the other handles have left
  them. -/
  seen : room.memory host = memory
  access : room.Unlocked host → ∀ step : MemoryStep,
    room.access step host = some ((step.run memory).1, room.setMemory host (step.run memory).2)

theorem Holds.found {ns : String} {id : ParticipantId} (holds : room.Holds memory host)
    (own : room.id = id) (names : room.names = .ofRoom ns id) : Found ns id room memory host where
  attach_iff := by
    rw [attach_eq_ok_iff]
    constructor
    · rintro ⟨store, lock, named, -, there, rfl⟩
      exact ⟨named, there⟩
    · rintro ⟨named, there⟩
      refine ⟨room.store, room.lock, named, holds.isRoom, there, ?_⟩
      rw [← names, ← own]
  seen := holds.memory_eq
  access unlocked step := by
    have reads := access_of_unlocked step unlocked
    rwa [holds.memory_eq] at reads

/-- What attaching to a room accepts and refuses, and that it does nothing else. -/
structure Attaches (σ : Type) [Carrier σ] (ns : String) (id : ParticipantId) : Prop where
  accepts : ∀ (host : Host σ) room, attach ns id host = .ok room ↔
    ∃ store lock, host.stores.find? .store (RoomNames.ofRoom ns id).store = some store ∧
      host.Initialized store ∧ host.locks.find? .lock (RoomNames.ofRoom ns id).lock = some lock ∧
        room = ⟨id, .ofRoom ns id, store, lock⟩
  refuses : ∀ (host : Host σ) error,
    attach ns id host = .error error ↔ Declines (.ofRoom ns id) host error
  unchanged : ∀ host : Host σ, (Script.attach ns id).run host = some (attach ns id host, host)
  /-- Each call leaves the host as it is, whatever others do between the calls. -/
  calls : (Script.attach ns id).Only
    (fun call => ∀ host : Host σ, ∃ answer, call.perform host = some (answer, host)) Script.anything
  lasting : ∀ (running : ParticipantId → Bool) (host after last : Host σ) room actions,
    create running ns id host = (.ok room, after) →
      replay? Action.perform after actions = some last →
        Found ns id room (actions.foldl (Action.edit room) .fresh) last ∧
          (KeepsNames (.ofRoom ns id) after actions → attach ns id last = .ok room)

/-- Attaching accepts the initialized rooms and no others, and a room that was made stays one. -/
theorem attaches_to_initialized_rooms (σ : Type) [Carrier σ] (ns : String) (id : ParticipantId) :
    Attaches σ ns id := by
  constructor
  case accepts => exact fun host room => attach_eq_ok_iff_initialized
  case refuses => exact fun host error => attach_eq_error_iff
  case unchanged => exact fun host => Script.run_attach ns id
  case calls =>
    refine (Script.only_attach ns id).mono ?_ fun _ _ => trivial
    rintro call (rfl | rfl) host <;> exact ⟨_, rfl⟩
  case lasting =>
    intro running host after last room actions created ran
    obtain ⟨storeKey, lockKey, own, names, made⟩ := made_of_create created
    have found := (made.holds.replay ran).found own names
    refine ⟨found, fun keeps => found.attach_iff.mpr ?_⟩
    have same := keeps.sameNamed ran
    rw [same.store, same.lock, ← names]
    exact ⟨made.replaces.storeName, made.replaces.lockName⟩

/-- bert enters his room, leaves a message for anna and clears the registry. -/
def bertsDeeds : List Action :=
  [.lock bertsRoom, .access bertsRoom ⟨.claim bert, rfl⟩, .unlock bertsRoom, .lock bertsRoom,
    .access bertsRoom ⟨.store bert anna [104, 105], rfl⟩, .access bertsRoom ⟨.clearRegistry, rfl⟩,
    .unlock bertsRoom]

/-- anna then attaches to the room and finds the message. -/
theorem attaches_after_bertsDeeds :
    ∃ after last : Host Exchange,
      create (fun _ => true) "x" bert (.empty .empty) = (.ok bertsRoom, after) ∧
        replay? Action.perform after bertsDeeds = some last ∧
          attach "x" bert last = .ok bertsRoom ∧ bertsRoom.Unlocked last ∧
            (bertsRoom.access (.take 0 anna) last).map (·.1) =
              some (.message (some ⟨bert, anna, [104, 105]⟩)) := by
  have made : (create (fun _ => true) "x" bert (.empty Exchange.empty)).1 = .ok bertsRoom := by
    decide +kernel
  have goes : ((replay? Action.perform
      (create (fun _ => true) "x" bert (.empty Exchange.empty)).2 bertsDeeds).elim none
        (·.locks.objects[0]?)) = some 1 := by
    decide +kernel
  rcases created : create (fun _ => true) "x" bert (.empty Exchange.empty) with ⟨result, after⟩
  rw [created] at made goes
  cases made
  cases ran : replay? Action.perform after bertsDeeds with
  | none =>
    rw [ran] at goes
    cases goes
  | some last =>
    rw [ran] at goes
    obtain ⟨found, attached⟩ :=
      (attaches_to_initialized_rooms Exchange "x" bert).lasting _ _ _ _ _ _ created ran
    have keeps : KeepsNames (.ofRoom "x" bert) after bertsDeeds := by
      intro earlier action later reached split _ removes
      have member : action ∈ bertsDeeds := split ▸ List.mem_append_cons_self
      cases removes <;> simp [bertsDeeds] at member
    refine ⟨after, last, rfl, ran, attached keeps, ⟨0, goes⟩, ?_⟩
    have taken : ((bertsDeeds.foldl (Action.edit bertsRoom) .fresh).mailbox.take 0 anna).1 =
        some ⟨bert, anna, [104, 105]⟩ := by
      decide +kernel
    rw [found.access ⟨0, goes⟩]
    exact congrArg (some ∘ MemoryOutcome.message) taken

end Room

end HostChat
