import HostChat.Room.Basic
import HostChat.Proofs.Host.Directory

/-! # Memories and locks of a host

Writing one memory leaves all others alone. An operation that does not look at locks does the same
with a lock held as without it, so running it under a free lock is running it.
-/

namespace HostChat

namespace Host

variable {σ : Type} {host : Host σ} {store other lock : Nat}

/-- The host with the value of one semaphore changed. -/
def modifyLock (host : Host σ) (lock : Nat) (change : Nat → Nat) : Host σ :=
  { host with locks := host.locks.modify lock change }

@[simp] theorem memory_modifyLock (host : Host σ) (lock : Nat) (change : Nat → Nat) (store : Nat) :
    (host.modifyLock lock change).memory store = host.memory store := rfl

@[simp] theorem setMemory_modifyLock (host : Host σ) (lock : Nat) (change : Nat → Nat) (store : Nat)
    (memory : RoomMemory) :
    (host.modifyLock lock change).setMemory store memory =
      (host.setMemory store memory).modifyLock lock change := rfl

@[simp] theorem notify_modifyLock [Carrier σ] (host : Host σ) (lock : Nat) (change : Nat → Nat)
    (sender target : ParticipantId) (notification : Notification) :
    (host.modifyLock lock change).notify sender target notification =
      (host.notify sender target notification).map (·.modifyLock lock change) := by
  simp only [notify, modifyLock]
  cases Carrier.notify host.carrier sender target notification <;> rfl

@[simp] theorem setMemory_locks (host : Host σ) (store : Nat) (memory : RoomMemory) :
    (host.setMemory store memory).locks = host.locks := rfl

@[simp] theorem setMemory_carrier (host : Host σ) (store : Nat) (memory : RoomMemory) :
    (host.setMemory store memory).carrier = host.carrier := rfl

@[simp] theorem setMemory_names (host : Host σ) (store : Nat) (memory : RoomMemory) :
    (host.setMemory store memory).stores.names = host.stores.names := rfl

@[simp] theorem setMemory_size (host : Host σ) (store : Nat) (memory : RoomMemory) :
    (host.setMemory store memory).stores.objects.size = host.stores.objects.size := by
  simp [setMemory, Directory.modify]

theorem memory_setMemory (host : Host σ) (memory : RoomMemory)
    (made : store < host.stores.objects.size) :
    (host.setMemory store memory).memory store = memory := by
  simp [Host.memory, setMemory, Directory.modify, Array.getElem_modify, made]

theorem memory_setMemory_of_ne (host : Host σ) (memory : RoomMemory) (different : other ≠ store) :
    (host.setMemory store memory).memory other = host.memory other := by
  simp [Host.memory, setMemory, Directory.modify, Array.getElem?_modify, Ne.symm different]

/-- Only the last memory written counts. -/
theorem setMemory_setMemory (host : Host σ) (store : Nat) (first second : RoomMemory) :
    (host.setMemory store first).setMemory store second = host.setMemory store second := by
  have same : (host.stores.objects.modify store fun object => { object with memory := first }).modify
      store (fun object => { object with memory := second }) =
        host.stores.objects.modify store fun object => { object with memory := second } := by
    apply Array.ext
    · simp
    · intro index _ _
      simp only [Array.getElem_modify]
      split_ifs <;> rfl
  simp only [setMemory, Directory.modify, same]

/-- A store that nobody has made reads as nothing at all. -/
theorem memory_of_size_le (beyond : host.stores.objects.size ≤ store) :
    host.memory store = .zero := by
  simp [Host.memory, Array.getElem?_eq_none beyond]

theorem notify_eq_ok {σ : Type} [Carrier σ] {host sent : Host σ} {sender target : ParticipantId}
    {notification : Notification} (success : host.notify sender target notification = .ok sent) :
    ∃ carrier, Carrier.notify host.carrier sender target notification = .ok carrier ∧
      sent = { host with carrier } := by
  simp only [notify] at success
  cases result : Carrier.notify host.carrier sender target notification with
  | error fault =>
    rw [result] at success
    cases success
  | ok carrier =>
    rw [result] at success
    cases success
    exact ⟨carrier, rfl, rfl⟩

theorem notify_carrier {σ : Type} [Carrier σ] {host sent : Host σ} {sender target : ParticipantId}
    {notification : Notification} (success : host.notify sender target notification = .ok sent) :
    Carrier.notify host.carrier sender target notification = .ok sent.carrier := by
  obtain ⟨carrier, notified, rfl⟩ := notify_eq_ok success
  exact notified

theorem acquire_eq_some_iff {held : Host σ} :
    host.acquire lock = some held ↔
      ∃ value, host.locks.objects[lock]? = some (value + 1) ∧
        held = host.modifyLock lock fun _ => value := by
  simp only [acquire]
  split
  next value found =>
    rw [Option.some.injEq]
    constructor
    · rintro rfl
      exact ⟨value, found, rfl⟩
    · rintro ⟨other, same, rfl⟩
      rw [found] at same
      cases same
      rfl
  next taken =>
    constructor
    · intro wrong
      cases wrong
    · rintro ⟨value, found, -⟩
      exact absurd found (taken value)

/-- Giving a lock back undoes taking it. -/
theorem release_modifyLock {value : Nat} (found : host.locks.objects[lock]? = some (value + 1)) :
    (host.modifyLock lock fun _ => value).release lock = host := by
  have bound := (Array.getElem?_eq_some_iff.mp found).1
  have there := (Array.getElem?_eq_some_iff.mp found).2
  have same : (host.locks.objects.modify lock fun _ => value).modify lock (· + 1) =
      host.locks.objects := by
    apply Array.ext
    · simp
    · intro index _ inside
      rw [Array.getElem_modify, Array.getElem_modify]
      split
      next equal =>
        subst equal
        exact there.symm
      next => rfl
  simp only [release, modifyLock, Directory.modify, same]

end Host

/-- An operation that neither reads nor changes the value of a lock. -/
structure LockBlind {σ α : Type} (body : Host σ → α × Host σ) : Prop where
  commutes : ∀ host lock change,
    body (host.modifyLock lock change) = ((body host).1, (body host).2.modifyLock lock change)
  keeps : ∀ host, (body host).2.locks.objects = host.locks.objects

namespace Room

variable {σ α : Type} {room : Room} {host : Host σ} {body : Host σ → α × Host σ}
  {outcome : α × Host σ}

/-- Nobody holds the lock of the room. -/
def Unlocked (room : Room) (host : Host σ) : Prop :=
  ∃ value, host.locks.objects[room.lock]? = some (value + 1)

theorem guarded_of_unlocked (blind : LockBlind body) (unlocked : room.Unlocked host) :
    room.guarded host body = some (body host) := by
  obtain ⟨value, found⟩ := unlocked
  have kept : (body host).2.locks.objects[room.lock]? = some (value + 1) := by
    rw [blind.keeps, found]
  rw [guarded, Host.acquire_eq_some_iff.mpr ⟨value, found, rfl⟩, Option.map_some, blind.commutes]
  simp only [Host.release_modifyLock kept]

theorem guarded_eq_some_iff (blind : LockBlind body) :
    room.guarded host body = some outcome ↔ room.Unlocked host ∧ body host = outcome := by
  constructor
  · intro success
    have unlocked : room.Unlocked host := by
      obtain ⟨held, acquired, -⟩ := Option.map_eq_some_iff.mp success
      obtain ⟨value, found, -⟩ := Host.acquire_eq_some_iff.mp acquired
      exact ⟨value, found⟩
    rw [guarded_of_unlocked blind unlocked] at success
    exact ⟨unlocked, Option.some.inj success⟩
  · rintro ⟨unlocked, rfl⟩
    exact guarded_of_unlocked blind unlocked

theorem inspect_of_unlocked (read : RoomMemory → α) (unlocked : room.Unlocked host) :
    room.inspect host read = some (read (room.memory host), host) :=
  guarded_of_unlocked ⟨fun _ _ _ => rfl, fun _ => rfl⟩ unlocked

theorem inspect_eq_some {read : RoomMemory → α} (success : room.inspect host read = some outcome) :
    outcome.2 = host := by
  have blind : LockBlind fun host : Host σ => (read (room.memory host), host) :=
    ⟨fun _ _ _ => rfl, fun _ => rfl⟩
  obtain ⟨-, rfl⟩ := (guarded_eq_some_iff blind).mp success
  rfl

end Room

end HostChat
