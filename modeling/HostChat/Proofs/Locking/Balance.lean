import HostChat.Proofs.Locking.Access
import HostChat.Proofs.Locking.Discipline
import HostChat.Proofs.Replay
import HostChat.Proofs.Room.Lifetime
import HostChat.Exchange

/-! # The balance of locks

Any number of operations go on at once on one host, each by its script. What every call keeps is the
sum of the value of a lock and of the number of times that it is in hand: the sum is 1 for all locks.
So a lock is free, or exactly one operation has it in hand; that one need not wait for anything, and
nobody else gets at the memory that goes with the lock.
-/

namespace HostChat

variable {σ : Type}

namespace Host

variable {host : Host σ} {lock other : Nat}

/-- The value of a lock. One that is not made yet counts as free. -/
def lockValue (host : Host σ) (lock : Nat) : Nat :=
  (host.locks.objects[lock]?).getD 1

private theorem lockValue_congr {after : Host σ} (same : after.locks.objects = host.locks.objects) :
    after.lockValue lock = host.lockValue lock := by
  rw [lockValue, same, lockValue]

private theorem lockValue_modifyLock (change : Nat → Nat) (made : lock < host.locks.objects.size) :
    (host.modifyLock lock change).lockValue other =
      if other = lock then change (host.lockValue lock) else host.lockValue other := by
  simp only [lockValue, modifyLock, Directory.modify, Array.getElem?_modify]
  by_cases same : other = lock
  · subst same
    simp [Array.getElem?_eq_getElem made]
  · simp [same, Ne.symm same]

private theorem lockValue_push (names : Table String Nat) :
    ({ host with locks := ⟨host.locks.objects.push 1, names⟩ } : Host σ).lockValue lock =
      host.lockValue lock := by
  simp only [lockValue, Array.getElem?_push]
  split_ifs with new
  · simp [new]
  · rfl

end Host

/-- What is in hand is missing from the values of the locks. -/
structure Trades (host : Host σ) (held : List Nat) (after : Host σ) (left : List Nat) : Prop where
  value : ∀ lock, after.lockValue lock + left.count lock = host.lockValue lock + held.count lock
  grows : host.locks.objects.size ≤ after.locks.objects.size
  there : ∀ lock ∈ left, lock < after.locks.objects.size

namespace Trades

variable {host middle after : Host σ} {held between left : List Nat}

theorem of_objects (there : ∀ lock ∈ held, lock < host.locks.objects.size)
    (same : after.locks.objects = host.locks.objects) : Trades host held after held where
  value _ := congrArg (· + _) (Host.lockValue_congr same)
  grows := Nat.le_of_eq (by rw [same])
  there lock member := by
    rw [same]
    exact there lock member

theorem trans (first : Trades host held middle between) (second : Trades middle between after left) :
    Trades host held after left :=
  ⟨fun lock => (second.value lock).trans (first.value lock), Nat.le_trans first.grows second.grows,
    second.there⟩

theorem push {names : Table String Nat} (there : ∀ lock ∈ held, lock < host.locks.objects.size) :
    Trades host held { host with locks := ⟨host.locks.objects.push 1, names⟩ } held where
  value _ := congrArg (· + _) (Host.lockValue_push names)
  grows := by simp
  there lock member := by
    rw [Array.size_push]
    exact Nat.lt_succ_of_lt (there lock member)

theorem acquire {lock : Nat} (taken : host.acquire lock = some after) :
    Trades host [] after [lock] := by
  obtain ⟨value, found, rfl⟩ := Host.acquire_eq_some_iff.mp taken
  have made := (Array.getElem?_eq_some_iff.mp found).1
  refine ⟨fun other => ?_, by simp [Host.modifyLock, Directory.modify], ?_⟩
  · rw [Host.lockValue_modifyLock _ made]
    split_ifs with same
    · subst same
      simp [Host.lockValue, found]
    · simp [Ne.symm same]
  · simpa [Host.modifyLock, Directory.modify] using made

theorem release {lock : Nat} (there : lock < host.locks.objects.size) :
    Trades host [lock] (host.release lock) [] := by
  refine ⟨fun other => ?_, by simp [Host.release, Directory.modify], by simp⟩
  change (host.modifyLock lock (· + 1)).lockValue other + _ = _
  rw [Host.lockValue_modifyLock _ there]
  split_ifs with same
  · simp [same]
  · simp [Ne.symm same]

/-- With nothing in hand before and after, no lock has another value. -/
private theorem locks_eq {lock value : Nat} (trades : Trades host [] after [])
    (found : host.locks.objects[lock]? = some value) : after.locks.objects[lock]? = some value := by
  have inside := Nat.lt_of_lt_of_le (Array.getElem?_eq_some_iff.mp found).1 trades.grows
  have same := trades.value lock
  rw [Host.lockValue, Host.lockValue, found, Array.getElem?_eq_getElem inside] at same
  rw [Array.getElem?_eq_getElem inside]
  exact congrArg some same

end Trades

theorem Call.settle_locks {ε : Type} {host after : Host σ} {result : Except ε (Host σ)}
    {answer : Except ε Unit} (settled : settle host result = (answer, after))
    (spared : ∀ changed, result = .ok changed → changed.locks.objects = host.locks.objects) :
    after.locks.objects = host.locks.objects := by
  cases result with
  | ok changed =>
    cases settled
    exact spared after rfl
  | error error =>
    cases settled
    rfl

theorem Call.trades [Carrier σ] {host after : Host σ} {held : List Nat} {call : Call}
    {answer : call.Answer} (permitted : call.Permitted held)
    (there : ∀ lock ∈ held, lock < host.locks.objects.size)
    (outcome : call.perform host = some (answer, after)) :
    Trades host held after (call.hold held answer) := by
  cases call with
  | openStore names =>
    cases outcome
    exact .of_objects there rfl
  | openLock names =>
    cases outcome
    exact .of_objects there rfl
  | createStore names =>
    rw [perform] at outcome
    cases created : host.stores.create .store names.store .fresh with
    | ok made =>
      rw [created] at outcome
      cases outcome
      exact .of_objects there rfl
    | error error =>
      rw [created] at outcome
      cases outcome
      exact .of_objects there rfl
  | createLock names =>
    rw [perform] at outcome
    cases created : host.locks.create .lock names.lock 1 with
    | ok made =>
      obtain ⟨lock, locks⟩ := made
      rw [created] at outcome
      cases outcome
      obtain ⟨key, -, -, -, rfl⟩ := Directory.create_eq_ok created
      exact .push there
    | error error =>
      rw [created] at outcome
      cases outcome
      exact .of_objects there rfl
  | unlinkStore names =>
    refine .of_objects there (settle_locks (Option.some.inj outcome) fun changed success => ?_)
    obtain ⟨stores, present, -, rfl⟩ := Room.unlinkStore_eq_ok success
    rfl
  | unlinkLock names =>
    refine .of_objects there (settle_locks (Option.some.inj outcome) fun changed success => ?_)
    obtain ⟨locks, present, removed, rfl⟩ := Room.unlinkLock_eq_ok success
    exact Directory.unlink_objects removed
  | wait room =>
    cases permitted
    obtain ⟨taken, acquired, same⟩ := Option.map_eq_some_iff.mp outcome
    cases same
    exact .acquire acquired
  | waitBriefly room =>
    cases permitted
    rw [perform] at outcome
    cases acquired : host.acquire room.lock with
    | none =>
      rw [acquired] at outcome
      cases outcome
      exact .of_objects there rfl
    | some taken =>
      rw [acquired] at outcome
      cases outcome
      exact .acquire acquired
  | post room =>
    cases permitted
    cases outcome
    rw [hold, List.erase_cons_head]
    exact .release (there room.lock (List.mem_singleton_self _))
  | read room =>
    cases outcome
    exact .of_objects there rfl
  | write room memory =>
    cases outcome
    exact .of_objects there rfl
  | notify sender target notification =>
    refine .of_objects there (settle_locks (Option.some.inj outcome) fun changed success => ?_)
    obtain ⟨carrier, -, rfl⟩ := Host.notify_eq_ok success
    rfl

theorem Script.Keeps.trades [Carrier σ] {α : Type} {script : Script α} {host after : Host σ}
    {held final : List Nat} {result : α} (keeps : script.Keeps held final)
    (there : ∀ lock ∈ held, lock < host.locks.objects.size)
    (outcome : script.run host = some (result, after)) : Trades host held after final := by
  induction script generalizing host held with
  | done result =>
    cases keeps
    cases outcome
    exact .of_objects there rfl
  | calls call next ih =>
    obtain ⟨permitted, goes⟩ := keeps
    obtain ⟨⟨answer, middle⟩, performed, outcome⟩ := Option.bind_eq_some_iff.mp outcome
    have first := Call.trades permitted there performed
    exact first.trans (ih answer (goes answer) first.there outcome)

/-- An operation on its way. -/
structure Thread where
  operation : RoomOperation
  rest : Script operation.Answer
  held : List Nat

namespace Thread

def start (operation : RoomOperation) : Thread := ⟨operation, operation.script, []⟩

/-- Makes the next call. There is none if the operation is over, and it does not happen yet if it has
to wait. -/
def advance [Carrier σ] (thread : Thread) (host : Host σ) : Option (Thread × Host σ) :=
  match thread.rest with
  | .done _ => none
  | .calls call next =>
      (call.perform host).map fun (answer, host) =>
        (⟨thread.operation, next answer, call.hold thread.held answer⟩, host)

/-- The rest of the operation keeps to the rules. -/
def Scripted (thread : Thread) : Prop :=
  thread.rest.Keeps thread.held []

theorem scripted_start (operation : RoomOperation) : (start operation).Scripted :=
  operation.keeps_script

theorem Scripted.advance [Carrier σ] {thread next : Thread} {host after : Host σ}
    (scripted : thread.Scripted) (there : ∀ lock ∈ thread.held, lock < host.locks.objects.size)
    (advanced : thread.advance host = some (next, after)) :
    next.Scripted ∧ Trades host thread.held after next.held := by
  obtain ⟨operation, rest, held⟩ := thread
  cases rest with
  | done result => cases advanced
  | calls call goesOn =>
    obtain ⟨permitted, goes⟩ := scripted
    obtain ⟨⟨answer, performed⟩, outcome, same⟩ := Option.map_eq_some_iff.mp advanced
    cases same
    exact ⟨goes answer, Call.trades permitted there outcome⟩

/-- How many times some threads have a lock in hand. -/
def holders (threads : List Thread) (lock : Nat) : Nat :=
  (threads.flatMap (·.held)).count lock

private theorem holders_split (before later : List Thread) (thread : Thread) (lock : Nat) :
    holders (before ++ thread :: later) lock =
      thread.held.count lock + holders (before ++ later) lock := by
  simp only [holders, List.flatMap_append, List.flatMap_cons, List.count_append]
  omega

private theorem holders_eq_zero_iff {threads : List Thread} {lock : Nat} :
    holders threads lock = 0 ↔ ∀ thread ∈ threads, lock ∉ thread.held := by
  rw [holders, List.count_eq_zero, List.mem_flatMap]
  exact ⟨fun none thread member held => none ⟨thread, member, held⟩,
    fun none ⟨thread, member, held⟩ => none thread member held⟩

end Thread

/-- A host with the operations that are under way on it. -/
structure Site (σ : Type) where
  host : Host σ
  threads : List Thread

/-- What happens next. An operation whose process dies does not advance any more. -/
inductive Move (σ : Type) where
  | start (operation : RoomOperation)
  | advance (index : Nat)
  /-- Notifications are received, and processes come and go. -/
  | carry (carrier : σ)

namespace Site

variable {site next : Site σ} {lock : Nat}

def step [Carrier σ] (site : Site σ) : Move σ → Option (Site σ)
  | .start operation => some { site with threads := site.threads ++ [.start operation] }
  | .advance index => do
      let thread ← site.threads[index]?
      let (thread, host) ← thread.advance site.host
      return ⟨host, site.threads.set index thread⟩
  | .carry carrier => some { site with host := { site.host with carrier } }

/-- The locks balance, and everybody keeps to the rules. -/
structure Orderly (site : Site σ) : Prop where
  balance : ∀ lock, site.host.lockValue lock + Thread.holders site.threads lock = 1
  scripted : ∀ thread ∈ site.threads, thread.Scripted

theorem Orderly.there (orderly : site.Orderly) {thread : Thread} (member : thread ∈ site.threads) :
    ∀ lock ∈ thread.held, lock < site.host.locks.objects.size := by
  intro lock held
  by_contra beyond
  have free : site.host.lockValue lock = 1 := by
    rw [Host.lockValue, Array.getElem?_eq_none (Nat.not_lt.mp beyond), Option.getD_none]
  obtain ⟨before, later, split⟩ := List.append_of_mem member
  have balance := orderly.balance lock
  have counted := List.count_pos_iff.mpr held
  rw [free, split, Thread.holders_split] at balance
  omega

theorem Orderly.step [Carrier σ] {move : Move σ} (orderly : site.Orderly)
    (stepped : site.step move = some next) : next.Orderly := by
  cases move with
  | start operation =>
    cases stepped
    refine ⟨fun lock => ?_, fun thread member => ?_⟩
    · rw [Thread.holders_split, List.append_nil]
      exact (Nat.zero_add _).symm ▸ orderly.balance lock
    · rcases List.mem_append.mp member with old | new
      · exact orderly.scripted thread old
      · rw [List.mem_singleton.mp new]
        exact Thread.scripted_start operation
  | advance index =>
    obtain ⟨thread, there, stepped⟩ := Option.bind_eq_some_iff.mp stepped
    obtain ⟨⟨later, host⟩, advanced, same⟩ := Option.bind_eq_some_iff.mp stepped
    cases same
    obtain ⟨inside, rfl⟩ := List.getElem?_eq_some_iff.mp there
    have member := List.getElem_mem inside
    obtain ⟨scripted, trades⟩ :=
      (orderly.scripted _ member).advance (orderly.there member) advanced
    obtain ⟨before, after, split, -, replaced⟩ :
        ∃ before after, site.threads = before ++ site.threads[index] :: after ∧
          before.length = index ∧ site.threads.set index later = before ++ later :: after :=
      List.exists_of_set inside
    refine ⟨fun lock => ?_, fun other present => ?_⟩
    · have had := Thread.holders_split before after site.threads[index] lock
      have balance := orderly.balance lock
      have traded := trades.value lock
      rw [← split] at had
      change host.lockValue lock + Thread.holders (site.threads.set index later) lock = 1
      rw [replaced, Thread.holders_split]
      omega
    · rcases List.mem_or_eq_of_mem_set present with old | rfl
      · exact orderly.scripted other old
      · exact scripted
  | carry carrier =>
    cases stepped
    exact ⟨orderly.balance, orderly.scripted⟩

end Site

/-! ### Who is inside -/

/-- Nothing but a lock that somebody else has keeps anybody from going on. -/
theorem Call.exists_of_not_wait [Carrier σ] (host : Host σ) (call : Call)
    (free : ∀ room, call ≠ .wait room) : ∃ outcome, call.perform host = some outcome := by
  cases call with
  | wait room => exact absurd rfl (free room)
  | createStore names =>
    rw [perform]
    cases host.stores.create .store names.store .fresh <;> exact ⟨_, rfl⟩
  | createLock names =>
    rw [perform]
    cases host.locks.create .lock names.lock 1 <;> exact ⟨_, rfl⟩
  | _ => exact ⟨_, rfl⟩

/-- The script of somebody inside goes on from one lock. -/
theorem Script.Keeps.held_cases {α : Type} {script : Script α} {held : List Nat}
    (keeps : script.Keeps held []) : held = [] ∨ ∃ lock, held = [lock] := by
  induction script with
  | done result => exact .inl keeps
  | calls call next ih =>
    obtain ⟨permitted, goes⟩ := keeps
    cases call with
    | wait room | waitBriefly room => exact .inl permitted
    | post room | read room | write room => exact .inr ⟨room.lock, permitted⟩
    | openStore | openLock | createStore | createLock => exact ih (.ok 0) (goes (.ok 0))
    | unlinkStore | unlinkLock | notify => exact ih (.ok ()) (goes (.ok ()))

/-- The value of a lock tells whether it is free or one thread has it in hand. -/
inductive Thread.Custody (threads : List Thread) (lock : Nat) : Nat → Prop
  | free (out : ∀ thread ∈ threads, lock ∉ thread.held) : Custody threads lock 1
  | taken {before later : List Thread} {thread : Thread} (split : threads = before ++ thread :: later)
      (inside : thread.held = [lock]) (out : ∀ other ∈ before ++ later, lock ∉ other.held) :
      Custody threads lock 0

/-- The next call of a thread. -/
def Thread.next? (thread : Thread) : Option Call :=
  match thread.rest with
  | .done _ => none
  | .calls call _ => some call

theorem Thread.Scripted.permitted {thread : Thread} {call : Call} (scripted : thread.Scripted)
    (asks : thread.next? = some call) : call.Permitted thread.held := by
  obtain ⟨operation, rest, held⟩ := thread
  cases rest with
  | done result => cases asks
  | calls other next =>
    cases asks
    exact scripted.1

theorem Thread.Scripted.finished {thread : Thread} (scripted : thread.Scripted)
    (done : thread.next? = none) : thread.held = [] := by
  obtain ⟨operation, rest, held⟩ := thread
  cases rest with
  | done result => exact scripted
  | calls call next => cases done

theorem Thread.exists_of_next? [Carrier σ] {thread : Thread} {host : Host σ} {call : Call}
    (asks : thread.next? = some call) (free : ∀ room, call ≠ .wait room) :
    ∃ outcome, thread.advance host = some outcome := by
  obtain ⟨operation, rest, held⟩ := thread
  cases rest with
  | done result => cases asks
  | calls other next =>
    cases asks
    obtain ⟨outcome, performed⟩ := call.exists_of_not_wait host free
    exact ⟨_, Option.map_eq_some_iff.mpr ⟨outcome, performed, rfl⟩⟩

namespace Site

variable {site next : Site σ} {lock : Nat}

/-- A lock is free or in the hands of one thread. Memory is accessed by whoever has the lock. Who
waits has nothing in hand and so has who is done; who has something in hand can go on. -/
structure Exclusive [Carrier σ] (site : Site σ) : Prop where
  custody : ∀ lock value, site.host.locks.objects[lock]? = some value →
    Thread.Custody site.threads lock value
  access : ∀ thread ∈ site.threads, ∀ call room, thread.next? = some call →
    call.accessed? = some room → thread.held = [room.lock]
  patience : ∀ thread ∈ site.threads, ∀ room,
    thread.next? = some (.wait room) ∨ thread.next? = some (.waitBriefly room) → thread.held = []
  finished : ∀ thread ∈ site.threads, thread.next? = none → thread.held = []
  progress : ∀ thread ∈ site.threads, thread.held ≠ [] →
    ∃ outcome, thread.advance site.host = some outcome

theorem Orderly.custody (orderly : site.Orderly) {value : Nat}
    (found : site.host.locks.objects[lock]? = some value) :
    Thread.Custody site.threads lock value := by
  have balance := orderly.balance lock
  rw [Host.lockValue, found, Option.getD_some] at balance
  rcases Nat.eq_zero_or_pos (Thread.holders site.threads lock) with free | taken
  · obtain rfl : value = 1 := by omega
    exact .free (Thread.holders_eq_zero_iff.mp free)
  · obtain ⟨thread, member, held⟩ : ∃ thread ∈ site.threads, lock ∈ thread.held := by
      by_contra nobody
      have none := Thread.holders_eq_zero_iff.mpr fun thread member held =>
        nobody ⟨thread, member, held⟩
      exact absurd none (Nat.ne_of_gt taken)
    obtain ⟨before, later, split⟩ := List.append_of_mem member
    have counted := List.count_pos_iff.mpr held
    rw [split, Thread.holders_split] at balance
    obtain rfl : value = 0 := by omega
    refine .taken split ?_ (Thread.holders_eq_zero_iff.mp (by omega))
    rcases (orderly.scripted thread member).held_cases with nothing | ⟨other, one⟩
    · rw [nothing] at held
      cases held
    · rw [one, List.mem_singleton] at held
      rw [one, held]

theorem Orderly.exclusive [Carrier σ] (orderly : site.Orderly) : site.Exclusive where
  custody _ _ found := orderly.custody found
  access thread member call room asks accesses := by
    have permitted := (orderly.scripted thread member).permitted asks
    cases call with
    | read other | write other =>
      cases accesses
      exact permitted
    | _ => cases accesses
  patience thread member room asks := by
    rcases asks with asks | asks
    · exact (orderly.scripted thread member).permitted asks
    · exact (orderly.scripted thread member).permitted asks
  finished thread member done := (orderly.scripted thread member).finished done
  progress thread member inside := by
    cases asks : thread.next? with
    | none => exact absurd ((orderly.scripted thread member).finished asks) inside
    | some call =>
      refine thread.exists_of_next? asks fun room waits => inside ?_
      subst waits
      exact (orderly.scripted thread member).permitted asks

theorem orderly_start {host : Host σ} (free : ∀ value ∈ host.locks.objects, value = 1) :
    (⟨host, []⟩ : Site σ).Orderly := by
  refine ⟨fun lock => ?_, by simp⟩
  change host.lockValue lock = 1
  rw [Host.lockValue]
  cases found : host.locks.objects[lock]? with
  | none => rfl
  | some value => exact free value (Array.mem_of_getElem? found)

end Site

theorem Room.exists_of_free {α : Type} {room : Room} {host : Host σ}
    (free : host.locks.objects[room.lock]? = some 1) (body : Host σ → α × Host σ) :
    ∃ outcome, room.guarded host body = some outcome :=
  ⟨_, Option.map_eq_some_iff.mpr ⟨_, Host.acquire_eq_some_iff.mpr ⟨0, free, rfl⟩, rfl⟩⟩

namespace RoomOperation

variable {host after : Host σ}

/-- The lock that an operation waits for, if there is one and the operation does not make it. -/
def lock? (host : Host σ) : RoomOperation → Option Nat
  | .attach .. | .createRoom .. | .unlink _ | .create .. => none
  | .enter ns _ room => (Room.attach ns room host).toOption.map (·.lock)
  | .register session | .participants session | .pendingMessages session | .tell session ..
  | .say session _ | .handle session _ | .leave session => some session.room.lock

theorem exists_of_free [Carrier σ] {operation : RoomOperation}
    (free : ∀ lock, operation.lock? host = some lock → host.locks.objects[lock]? = some 1) :
    ∃ outcome, operation.perform host = some outcome := by
  cases operation with
  | attach | createRoom | unlink => exact ⟨_, rfl⟩
  | create running ns me =>
    rw [perform, Session.create]
    rcases outcome : Room.create running ns me host with ⟨error | room, made⟩
    · exact ⟨_, rfl⟩
    · obtain ⟨_, _, -, -, made⟩ := Room.made_of_create outcome
      obtain ⟨_, registers⟩ := Room.exists_of_free made.unlocked _
      exact ⟨_, Option.map_eq_some_iff.mpr ⟨_, registers, rfl⟩⟩
  | enter ns me room =>
    rw [perform, Session.enter]
    rw [lock?] at free
    cases attached : Room.attach ns room host with
    | error error => exact ⟨_, rfl⟩
    | ok room =>
      rw [attached] at free
      obtain ⟨_, registers⟩ := Room.exists_of_free (free room.lock rfl) _
      exact ⟨_, Option.map_eq_some_iff.mpr ⟨_, registers, rfl⟩⟩
  | register session => exact Room.exists_of_free (free _ rfl) _
  | participants session =>
    rw [perform, Session.participants, Room.inspect]
    exact Room.exists_of_free (free _ rfl) _
  | pendingMessages session =>
    rw [perform, Session.pendingMessages, Room.inspect]
    exact Room.exists_of_free (free _ rfl) _
  | tell session target text =>
    rw [perform, Session.tell]
    cases checkText text with
    | error error => exact ⟨_, rfl⟩
    | ok bytes => exact Room.exists_of_free (free _ rfl) _
  | say session text =>
    rw [perform, Session.say]
    cases checkText text with
    | error error => exact ⟨_, rfl⟩
    | ok bytes => exact Room.exists_of_free (free _ rfl) _
  | handle session envelope =>
    rw [perform, Session.handle]
    cases envelope.notification with
    | joinRequest | joinApprove => exact ⟨_, rfl⟩
    | messageReady slot => exact Room.exists_of_free (free _ rfl) _
  | leave session => exact Room.exists_of_free (free _ rfl) _

/-- An operation that is not interrupted and need not wait comes to its end, and every lock has the
value that it had. -/
theorem restores [Carrier σ] {operation : RoomOperation}
    (free : ∀ lock, operation.lock? host = some lock → host.locks.objects[lock]? = some 1) :
    ∃ result after, operation.perform host = some (result, after) ∧
      operation.script.run host = some (result, after) ∧
      ∀ lock value : Nat, host.locks.objects[lock]? = some value →
        after.locks.objects[lock]? = some value := by
  obtain ⟨⟨result, after⟩, performed⟩ := exists_of_free free
  have ran := (operation.run_script host).trans performed
  have trades := operation.keeps_script.trades (by simp) ran
  exact ⟨result, after, performed, ran, fun _ _ found => trades.locks_eq found⟩

end RoomOperation

namespace Site

variable {site : Site σ}

/-- Whatever operations go on at once, a lock is free or exactly one of them is inside. An operation
for which the lock that it waits for is free comes to its end and gives back all that it takes; and no
call but those through a handle has to do with registries and mailboxes. -/
theorem locks_in_balance [Carrier σ] {start : Host σ} {moves : List (Move σ)}
    (free : ∀ value ∈ start.locks.objects, value = 1)
    (ran : replay? step ⟨start, []⟩ moves = some site) :
    site.Exclusive ∧
      (∀ operation : RoomOperation, (∀ lock, operation.lock? site.host = some lock →
          site.host.locks.objects[lock]? = some 1) →
        ∃ result after, operation.perform site.host = some (result, after) ∧
          operation.script.run site.host = some (result, after) ∧
          ∀ lock value : Nat, site.host.locks.objects[lock]? = some value →
            after.locks.objects[lock]? = some value) ∧
      ∀ call : Call, call.accessed? = none → ∀ store < site.host.stores.objects.size,
        ∀ registry mailbox, call.perform (site.host.refill store registry mailbox) =
          (call.perform site.host).map fun (answer, after) =>
            (answer, after.refill store registry mailbox) := by
  have orderly : site.Orderly :=
    replay?_invariant Orderly (fun _ _ _ orderly stepped => orderly.step stepped)
      (orderly_start free) ran
  exact ⟨orderly.exclusive, fun operation => RoomOperation.restores,
    fun call other store made registry mailbox => Call.perform_refill other made registry mailbox⟩

/-- A room with its lock, and nothing else. -/
def single : Host Exchange := ⟨⟨#[.fresh], .empty⟩, ⟨#[1], .empty⟩, .empty⟩

def annaSession : Session := ⟨anna, .creator, ⟨anna, .ofRoom "x" anna, 0, 0⟩⟩

def bertSession : Session := ⟨bert, .joiner, annaSession.room⟩

/-- anna and bert register at once, and bert comes too late to be the first. -/
def crowded : List (Move Exchange) :=
  [.start (.register annaSession), .start (.register bertSession), .advance 0, .advance 0, .advance 0]

/-- anna is done, and then bert. -/
def cleared : List (Move Exchange) :=
  [.advance 0, .advance 1, .advance 1, .advance 1, .advance 1]

/-- While anna is inside bert has to wait. When both are done, anna can say something. -/
theorem locks_in_balance_when_crowded :
    ∃ inside done : Site Exchange, ∃ result after,
      replay? step ⟨single, []⟩ crowded = some inside ∧ inside.Exclusive ∧
      inside.host.locks.objects = #[0] ∧ inside.threads.map (·.held) = [[0], []] ∧
      (inside.step (.advance 1)).isNone = true ∧
      replay? step inside cleared = some done ∧ done.Exclusive ∧
      done.host.locks.objects[0]? = some 1 ∧
      RoomOperation.perform done.host (.say annaSession "hi") = some (result, after) ∧
      after.locks.objects[0]? = some 1 := by
  have free : ∀ value ∈ single.locks.objects, value = 1 := by decide
  have seen : (replay? step ⟨single, []⟩ crowded).map (fun site => (site.host.locks.objects,
      site.threads.map (·.held), (site.step (.advance 1)).isNone)) =
        some (#[0], [[0], []], true) := by decide +kernel
  have later : (replay? step ⟨single, []⟩ (crowded ++ cleared)).map
      (fun site => site.host.locks.objects[0]?) = some (some 1) := by decide +kernel
  obtain ⟨inside, ran, look⟩ := Option.map_eq_some_iff.mp seen
  obtain ⟨done, both, value⟩ := Option.map_eq_some_iff.mp later
  obtain ⟨_, first, second⟩ := replay?_append_eq_some_iff.mp both
  rw [ran] at first
  cases first
  simp only [Prod.mk.injEq] at look
  obtain ⟨exclusive, -⟩ := locks_in_balance free ran
  obtain ⟨quiet, restores, -⟩ := locks_in_balance free both
  obtain ⟨result, after, spoken, -, kept⟩ := restores (.say annaSession "hi") fun lock waits => by
    cases waits
    exact value
  exact ⟨inside, done, result, after, ran, exclusive, look.1, look.2.1, look.2.2, second, quiet,
    value, spoken, kept 0 1 value⟩

end Site

end HostChat
