import HostChat.Exchange
import HostChat.Proofs.Memory.Upkeep
import HostChat.Proofs.Participant
import HostChat.Proofs.Session.Messages

/-! # Sessions keep room memory in order

An operation of a session changes one memory, by a few of the changes that keep room memory in order.
So the memory of a room stays in order from its making on, whatever sessions do in it, whatever
becomes of their notifications, and whatever rooms others make.
-/

namespace HostChat

variable {σ : Type}

namespace Host

variable {host middle after : Host σ} {store : Nat}

/-- One memory has changed, as sessions change memories, and no other one has. -/
structure Reworks (store : Nat) (host after : Host σ) : Prop where
  size : after.stores.objects.size = host.stores.objects.size
  changes : Relation.ReflTransGen RoomMemory.Change (host.memory store) (after.memory store)
  others : ∀ other, other ≠ store → after.memory other = host.memory other

theorem Reworks.of_objects (same : after.stores.objects = host.stores.objects) :
    host.Reworks store after := by
  have read (other : Nat) : after.memory other = host.memory other := by simp only [memory, same]
  exact ⟨by rw [same], by rw [read], fun other _ => read other⟩

theorem Reworks.trans (first : host.Reworks store middle) (second : middle.Reworks store after) :
    host.Reworks store after where
  size := second.size.trans first.size
  changes := first.changes.trans second.changes
  others other different := (second.others other different).trans (first.others other different)

private theorem reworks_setMemory {memory : RoomMemory}
    (changes : Relation.ReflTransGen RoomMemory.Change (host.memory store) memory) :
    host.Reworks store (host.setMemory store memory) where
  size := setMemory_size ..
  changes := by
    by_cases made : store < host.stores.objects.size
    · rwa [memory_setMemory host memory made]
    · -- nothing is written where there is no store
      have beyond := Nat.le_of_not_lt made
      rw [memory_of_size_le beyond, memory_of_size_le (by rwa [setMemory_size])]
  others _ different := memory_setMemory_of_ne host memory different

private theorem reworks_notify [Carrier σ] {sender target : ParticipantId}
    {notification : Notification}
    (success : host.notify sender target notification = .ok after) : host.Reworks store after := by
  obtain ⟨carrier, -, rfl⟩ := notify_eq_ok success
  exact .of_objects rfl

end Host

namespace Session

variable {session : Session} {host after : Host σ}

theorem reworks_registerHeld (session : Session) (host : Host σ) :
    host.Reworks session.room.store (session.registerHeld host).2 := by
  simp only [registerHeld, Room.memory, Room.setMemory]
  cases claims : (host.memory session.room.store).registry.claim session.me with
  | error error => exact .of_objects rfl
  | ok claimed => exact Host.reworks_setMemory (.single (.claim claims))

section Messages

variable [Carrier σ]

/-- A delivery stores a message, and it frees the slot again if it cannot notify the recipient. -/
theorem reworks_deliver {target : ParticipantId} (text : List UInt8)
    (listed : target ∈ (host.registry session.room.store).participants) :
    host.Reworks session.room.store (session.deliver target text host).2 := by
  simp only [deliver, Room.memory, Room.setMemory]
  cases stores : (host.memory session.room.store).mailbox.store session.me target text with
  | error error => exact .of_objects rfl
  | ok stored =>
    obtain ⟨slot, mailbox⟩ := stored
    have filled : (host.memory session.room.store).Change
        { host.memory session.room.store with mailbox } := .store listed stores
    simp only
    cases sent : Host.notify (host.setMemory session.room.store
        { host.memory session.room.store with mailbox }) session.me target (.messageReady slot) with
    | ok notified => exact (Host.reworks_setMemory (.single filled)).trans (Host.reworks_notify sent)
    | error fault =>
      rw [Host.setMemory_setMemory]
      exact Host.reworks_setMemory (.tail (.single filled) (.release slot))

/-- The memory of the room has changed, but not in its registry. -/
structure Serves (session : Session) (host after : Host σ) : Prop where
  reworks : host.Reworks session.room.store after
  registry : after.registry session.room.store = host.registry session.room.store

private theorem serves_deliver {target : ParticipantId} (text : List UInt8)
    (listed : target ∈ (host.registry session.room.store).participants) :
    session.Serves host (session.deliver target text host).2 := by
  have reworks := reworks_deliver text listed
  refine ⟨reworks, ?_⟩
  by_cases made : session.room.store < host.stores.objects.size
  · rcases delivered : session.deliver target text host with ⟨result, after⟩
    rcases deliver_cases made delivered with ⟨_, -, refuses⟩ | ⟨_, -, posts⟩
    · exact refuses.members.registry _
    · exact posts.members.registry _
  · have beyond := Nat.le_of_not_lt made
    rw [Host.registry, Host.registry, Host.memory_of_size_le beyond,
      Host.memory_of_size_le (by rwa [reworks.size])]

theorem reworks_tellHeld (session : Session) (target : ParticipantId) (bytes : List UInt8)
    (host : Host σ) : host.Reworks session.room.store (session.tellHeld target bytes host).2 := by
  simp only [tellHeld]
  split_ifs with member
  · exact reworks_deliver bytes (Registry.contains_iff.mp member)
  · exact .of_objects rfl

theorem reworks_sayHeld (session : Session) (bytes : List UInt8) (host : Host σ) :
    host.Reworks session.room.store (session.sayHeld bytes host).2 := by
  have all : session.Serves host (session.deliverAll bytes (session.others host) host).2 := by
    refine deliverAll_induction (fun reached _ => session.Serves host reached) [] ?_
      ⟨.of_objects rfl, rfl⟩
    intro recipient among reached log result last serves delivered
    have listed : recipient ∈ (reached.registry session.room.store).participants := by
      rw [serves.registry]
      exact mem_others among
    have next := serves_deliver bytes listed
    rw [delivered] at next
    exact ⟨serves.reworks.trans next.reworks, next.registry.trans serves.registry⟩
  exact all.reworks

end Messages

theorem reworks_takeHeld (session : Session) (slot : Nat) (host : Host σ) :
    host.Reworks session.room.store (session.takeHeld slot host).2 :=
  Host.reworks_setMemory (.single (.take slot session.me))

theorem reworks_leaveHeld (session : Session) (host : Host σ) :
    host.Reworks session.room.store (session.leaveHeld host).2 := by
  have vacates : host.Reworks session.room.store (session.vacate host) :=
    Host.reworks_setMemory (.single (.vacate session.me))
  have kept := (Room.unlink_objects session.room (session.vacate host)).1
  simp only [leaveHeld]
  split_ifs with last
  · generalize session.room.unlink (session.vacate host) = outcome at kept
    rcases outcome with ⟨_ | _, after⟩ <;> exact vacates.trans (.of_objects kept)
  · exact vacates

theorem reworks_register {result : Except ChatError (Fin maxParticipants)}
    (outcome : session.register host = some (result, after)) :
    host.Reworks session.room.store after := by
  have reworks := reworks_registerHeld session host
  rwa [(register_eq_some_iff.mp outcome).2] at reworks

theorem reworks_tell [Carrier σ] {target : ParticipantId} {text : String}
    {result : Except ChatError (Fin mailboxSlots)}
    (outcome : session.tell target text host = some (result, after)) :
    host.Reworks session.room.store after := by
  cases legal : checkText text with
  | error error =>
    simp only [tell, legal] at outcome
    cases outcome
    exact .of_objects rfl
  | ok bytes =>
    have reworks := reworks_tellHeld session target bytes host
    rwa [((tell_eq_some_iff legal).mp outcome).2] at reworks

theorem reworks_say [Carrier σ] {text : String} {result : Except ChatError Broadcast}
    (outcome : session.say text host = some (result, after)) :
    host.Reworks session.room.store after := by
  cases legal : checkText text with
  | error error =>
    simp only [say, legal] at outcome
    cases outcome
    exact .of_objects rfl
  | ok bytes =>
    have reworks := reworks_sayHeld session bytes host
    rwa [((say_eq_some_iff legal).mp outcome).2] at reworks

theorem reworks_handle [Carrier σ] {envelope : Envelope} {answer : Option Message}
    (outcome : session.handle envelope host = some (answer, after)) :
    host.Reworks session.room.store after := by
  rcases envelope with ⟨sender, _ | room | slot⟩
  · simp only [handle] at outcome
    cases sent : host.notify session.me sender (.joinApprove session.room.id) with
    | error fault =>
      rw [sent] at outcome
      cases outcome
      exact .of_objects rfl
    | ok notified =>
      rw [sent] at outcome
      cases outcome
      exact Host.reworks_notify sent
  · cases outcome
    exact .of_objects rfl
  · have reworks := reworks_takeHeld session slot host
    rwa [(handle_messageReady_eq_some_iff.mp outcome).2] at reworks

theorem reworks_leave {result : Except ChatError Departure}
    (outcome : session.leave host = some (result, after)) :
    host.Reworks session.room.store after := by
  have reworks := reworks_leaveHeld session host
  rwa [(leave_eq_some_iff.mp outcome).2] at reworks

end Session

/-- What can happen on a host that has rooms. -/
inductive Event (σ : Type) where
  | register (session : Session)
  | tell (session : Session) (target : ParticipantId) (text : String)
  | say (session : Session) (text : String)
  | handle (session : Session) (envelope : Envelope)
  | leave (session : Session)
  /-- Somebody makes a room. -/
  | make (running : ParticipantId → Bool) (ns : String) (id : ParticipantId)
  /-- Anything at all happens to the notifications under way. -/
  | carry (carrier : σ)

namespace Host

variable {host next : Host σ} {store other : Nat}

/-- The host after an event. An operation that waits for its lock in vain does nothing. -/
def after [Carrier σ] (host : Host σ) : Event σ → Host σ
  | .register session => (session.register host).elim host (·.2)
  | .tell session target text => (session.tell target text host).elim host (·.2)
  | .say session text => (session.say text host).elim host (·.2)
  | .handle session envelope => (session.handle envelope host).elim host (·.2)
  | .leave session => (session.leave host).elim host (·.2)
  | .make running ns id => (Room.create running ns id host).2
  | .carry carrier => { host with carrier }

/-- A store is there, with memory in order. -/
structure Keeps (host : Host σ) (store : Nat) : Prop where
  made : store < host.stores.objects.size
  memory : (host.memory store).Kept

theorem Keeps.reworks (keeps : host.Keeps store) (reworks : host.Reworks other next) :
    next.Keeps store where
  made := by
    rw [reworks.size]
    exact keeps.made
  memory := by
    by_cases same : store = other
    · subst same
      exact keeps.memory.changes reworks.changes
    · rw [reworks.others store same]
      exact keeps.memory

theorem Keeps.spares (keeps : host.Keeps store) (spares : host.Spares next) : next.Keeps store where
  made := Nat.lt_of_lt_of_le keeps.made spares.stores_size
  memory := by
    have same : next.memory store = host.memory store := by
      simp only [Host.memory, spares.stores store keeps.made]
    rw [same]
    exact keeps.memory

/-- An event reworks one memory, or spares all that there is. -/
theorem after_cases [Carrier σ] (host : Host σ) (event : Event σ) :
    (∃ store, host.Reworks store (host.after event)) ∨ host.Spares (host.after event) := by
  have elim {α : Type} (store : Nat) {outcome : Option (α × Host σ)}
      (each : ∀ result next, outcome = some (result, next) → host.Reworks store next) :
      ∃ store, host.Reworks store (outcome.elim host (·.2)) := by
    refine ⟨store, ?_⟩
    cases outcome with
    | none => exact .of_objects rfl
    | some pair => exact each pair.1 pair.2 rfl
  cases event with
  | register session => exact .inl (elim _ fun _ _ outcome => Session.reworks_register outcome)
  | tell session target text => exact .inl (elim _ fun _ _ outcome => Session.reworks_tell outcome)
  | say session text => exact .inl (elim _ fun _ _ outcome => Session.reworks_say outcome)
  | handle session envelope =>
    exact .inl (elim _ fun _ _ outcome => Session.reworks_handle outcome)
  | leave session => exact .inl (elim _ fun _ _ outcome => Session.reworks_leave outcome)
  | make running ns id => exact .inr (Room.spares_create running ns id host)
  | carry carrier => exact .inl ⟨0, .of_objects rfl⟩

theorem Keeps.after [Carrier σ] (keeps : host.Keeps store) (event : Event σ) :
    (host.after event).Keeps store := by
  rcases host.after_cases event with ⟨other, reworks⟩ | spares
  · exact keeps.reworks reworks
  · exact keeps.spares spares

theorem Keeps.afterAll [Carrier σ] (keeps : host.Keeps store) (events : List (Event σ)) :
    (events.foldl Host.after host).Keeps store := by
  induction events generalizing host with
  | nil => exact keeps
  | cons event rest ih => exact ih (keeps.after event)

theorem keeps_of_made {room : Room} {storeKey lockKey : String}
    (made : Room.Made host next room storeKey lockKey) : next.Keeps room.store where
  made := (Array.getElem?_eq_some_iff.mp made.fresh).1
  memory := by
    have same : next.memory room.store = .fresh := by simp only [Host.memory, made.fresh]; rfl
    rw [same]
    exact .fresh

end Host

namespace Room

/-- The memory of a room is in order from its making on. -/
theorem memory_inOrder [Carrier σ] {running : ParticipantId → Bool} {ns : String} {id : ParticipantId}
    {host started : Host σ} {room : Room}
    (outcome : create running ns id host = (.ok room, started)) (events : List (Event σ)) :
    (room.memory (events.foldl Host.after started)).InOrder := by
  obtain ⟨_, _, -, -, made⟩ := made_of_create outcome
  exact ((Host.keeps_of_made made).afterAll events).memory.inOrder

/-- anna makes a room on a host where notifications can reach nobody but her. -/
def annasHost : Host Exchange := .empty (Exchange.empty.connect anna).2

def annasRoom : Room := ⟨anna, .ofRoom "x" anna, 0, 0⟩

/-- A message to bert is taken back because he cannot be notified of it. He sends two to anna, who
takes one of them, and goes away without leaving. -/
def visit : List (Event Exchange) :=
  [.register ⟨anna, .creator, annasRoom⟩, .register ⟨bert, .joiner, annasRoom⟩,
    .tell ⟨anna, .creator, annasRoom⟩ bert "lost", .tell ⟨bert, .joiner, annasRoom⟩ anna "first",
    .say ⟨bert, .joiner, annasRoom⟩ "second", .make (fun _ => true) "x" bert,
    .handle ⟨anna, .creator, annasRoom⟩ ⟨bert, .messageReady 0⟩]

theorem memory_inOrder_of_visit : ∃ started,
    create (fun _ => true) "x" anna annasHost = (.ok annasRoom, started) ∧
      (annasRoom.memory (visit.foldl Host.after started)).registry.participants = [anna, bert] ∧
      (annasRoom.memory (visit.foldl Host.after started)).mailbox.content? 0 = none ∧
      (annasRoom.memory (visit.foldl Host.after started)).mailbox.content? 1 =
        some ⟨bert, anna, Text.utf8 "second"⟩ ∧
      (annasRoom.memory (visit.foldl Host.after started)).InOrder := by
  have made : (create (fun _ => true) "x" anna annasHost).1 = .ok annasRoom := by decide +kernel
  have facts : ∀ started, started = (create (fun _ => true) "x" anna annasHost).2 →
      (annasRoom.memory (visit.foldl Host.after started)).registry.participants = [anna, bert] ∧
      (annasRoom.memory (visit.foldl Host.after started)).mailbox.content? 0 = none ∧
      (annasRoom.memory (visit.foldl Host.after started)).mailbox.content? 1 =
        some ⟨bert, anna, Text.utf8 "second"⟩ := by
    rintro _ rfl
    decide +kernel
  rcases outcome : create (fun _ => true) "x" anna annasHost with ⟨result, started⟩
  rw [outcome] at made facts
  cases made
  obtain ⟨members, taken, waiting⟩ := facts started rfl
  exact ⟨started, rfl, members, taken, waiting, memory_inOrder outcome visit⟩

end Room

end HostChat
