import HostChat.Proofs.Replay
import HostChat.Session

/-! # Occupancy of rooms

Any number of sessions act on one host, in any order. A join can be taken as a whole or as its steps:
with an approval it attaches to a room and is entering it, and then it registers and is live. Apart
from the host and the sessions, a state keeps in mind which stores a departure has left without names
and which sessions have registered in such a store afterwards.
-/

namespace HostChat

/-- A session, or what will be one, with the namespace of its room. -/
structure Seat where
  ns : String
  session : Session
deriving DecidableEq, Repr

namespace Seat

variable {σ : Type}

/-- The names that follow from the namespace and the id of the room lead to the room itself. -/
def Reachable (host : Host σ) (seat : Seat) : Prop :=
  Room.attach seat.ns seat.session.room.id host = .ok seat.session.room

end Seat

structure Occupancy (σ : Type) where
  host : Host σ
  entering : List Seat
  live : List Seat
  /-- The stores whose last participant has taken their names away. -/
  emptied : List Nat
  /-- The sessions that have registered in an emptied store. -/
  late : List Seat
deriving DecidableEq, Repr

namespace Occupancy

variable {σ : Type}

inductive Act (σ : Type) where
  | create (running : ParticipantId → Bool) (ns : String) (me : ParticipantId)
  | join (ns : String) (me known : ParticipantId) (inbox : σ → Inbox)
  /-- A join goes on with what is then in the inbox. -/
  | resume (ns : String) (me : ParticipantId) (inbox : Inbox)
  /-- A join has been told the id of the room and attaches to it. -/
  | attach (ns : String) (me room : ParticipantId)
  | register (seat : Seat)
  | tell (seat : Seat) (target : ParticipantId) (text : String)
  | say (seat : Seat) (text : String)
  | handle (seat : Seat) (envelope : Envelope)
  | leave (seat : Seat)
  /-- Anything at all happens to the notifications under way. -/
  | carry (carrier : σ)

def start (host : Host σ) : Occupancy σ := ⟨host, [], [], [], []⟩

/-- The state in which an attempt to get into a room has ended. -/
def conclude (state : Occupancy σ) (ns : String) (result : Except ChatError Session) (host : Host σ) :
    Occupancy σ :=
  match result with
  | .ok session =>
      { state with
        host
        live := ⟨ns, session⟩ :: state.live
        late := if session.room.store ∈ state.emptied then ⟨ns, session⟩ :: state.late
          else state.late }
  | .error _ => { state with host }

/-- The state in which a join has come as far as its inbox lets it. -/
def proceed (state : Occupancy σ) (ns : String) (joining : Joining) (host : Host σ) : Occupancy σ :=
  match joining with
  | .waiting => { state with host }
  | .over result => state.conclude ns result host

/-- The state in which a session has left. -/
def depart (state : Occupancy σ) (seat : Seat) (result : Except ChatError Departure)
    (host : Host σ) : Occupancy σ :=
  { state with
    host
    live := state.live.erase seat
    emptied :=
      match result with
      | .ok ⟨_, true⟩ => seat.session.room.store :: state.emptied
      | _ => state.emptied }

def step [Carrier σ] (state : Occupancy σ) : Act σ → Option (Occupancy σ)
  | .create running ns me =>
      (Session.create running ns me state.host).map fun (result, host) => state.conclude ns result host
  | .join ns me known inbox =>
      (Session.join ns me known inbox state.host).map fun (joining, _, host) =>
        state.proceed ns joining host
  | .resume ns me inbox =>
      (Session.resumeJoin ns me inbox state.host).map fun (joining, _, host) =>
        state.proceed ns joining host
  | .attach ns me room =>
      match Room.attach ns room state.host with
      | .ok room => some { state with entering := ⟨ns, ⟨me, .joiner, room⟩⟩ :: state.entering }
      | .error _ => some state
  | .register seat =>
      if seat ∈ state.entering then
        (seat.session.register state.host).map fun (result, host) =>
          { state with entering := state.entering.erase seat }.conclude seat.ns
            (result.map fun _ => seat.session) host
      else none
  | .tell seat target text =>
      if seat ∈ state.live then
        (seat.session.tell target text state.host).map fun (_, host) => { state with host }
      else none
  | .say seat text =>
      if seat ∈ state.live then
        (seat.session.say text state.host).map fun (_, host) => { state with host }
      else none
  | .handle seat envelope =>
      if seat ∈ state.live then
        (seat.session.handle envelope state.host).map fun (_, host) => { state with host }
      else none
  | .leave seat =>
      if seat ∈ state.live then
        (seat.session.leave state.host).map fun (result, host) => state.depart seat result host
      else none
  | .carry carrier => some { state with host := { state.host with carrier } }

/-- All that a step can do. -/
inductive Moves [Carrier σ] (state : Occupancy σ) : Act σ → Occupancy σ → Prop where
  | create {running : ParticipantId → Bool} {ns : String} {me : ParticipantId}
      {result : Except ChatError Session} {after : Host σ}
      (outcome : Session.create running ns me state.host = some (result, after)) :
      Moves state (.create running ns me) (state.conclude ns result after)
  | join {ns : String} {me known : ParticipantId} {inbox : σ → Inbox} {joining : Joining}
      {queue : List Envelope} {after : Host σ}
      (outcome : Session.join ns me known inbox state.host = some (joining, queue, after)) :
      Moves state (.join ns me known inbox) (state.proceed ns joining after)
  | resume {ns : String} {me : ParticipantId} {inbox : Inbox} {joining : Joining}
      {queue : List Envelope} {after : Host σ}
      (outcome : Session.resumeJoin ns me inbox state.host = some (joining, queue, after)) :
      Moves state (.resume ns me inbox) (state.proceed ns joining after)
  | attach {ns : String} {me id : ParticipantId} {room : Room}
      (attached : Room.attach ns id state.host = .ok room) :
      Moves state (.attach ns me id)
        { state with entering := ⟨ns, ⟨me, .joiner, room⟩⟩ :: state.entering }
  | astray {ns : String} {me id : ParticipantId} : Moves state (.attach ns me id) state
  | register {seat : Seat} {result : Except ChatError (Fin maxParticipants)} {after : Host σ}
      (member : seat ∈ state.entering)
      (outcome : seat.session.register state.host = some (result, after)) :
      Moves state (.register seat) ({ state with entering := state.entering.erase seat }.conclude
        seat.ns (result.map fun _ => seat.session) after)
  | tell {seat : Seat} {target : ParticipantId} {text : String}
      {result : Except ChatError (Fin mailboxSlots)} {after : Host σ} (member : seat ∈ state.live)
      (outcome : seat.session.tell target text state.host = some (result, after)) :
      Moves state (.tell seat target text) { state with host := after }
  | say {seat : Seat} {text : String} {result : Except ChatError Broadcast} {after : Host σ}
      (member : seat ∈ state.live)
      (outcome : seat.session.say text state.host = some (result, after)) :
      Moves state (.say seat text) { state with host := after }
  | handle {seat : Seat} {envelope : Envelope} {answer : Option Message} {after : Host σ}
      (member : seat ∈ state.live)
      (outcome : seat.session.handle envelope state.host = some (answer, after)) :
      Moves state (.handle seat envelope) { state with host := after }
  | leave {seat : Seat} {result : Except ChatError Departure} {after : Host σ}
      (member : seat ∈ state.live)
      (outcome : seat.session.leave state.host = some (result, after)) :
      Moves state (.leave seat) (state.depart seat result after)
  | carry {carrier : σ} :
      Moves state (.carry carrier) { state with host := { state.host with carrier } }

theorem moves_of_step [Carrier σ] {state next : Occupancy σ} {act : Act σ}
    (stepped : state.step act = some next) : state.Moves act next := by
  cases act with
  | create running ns me =>
    obtain ⟨_, outcome, rfl⟩ := Option.map_eq_some_iff.mp stepped
    exact .create outcome
  | join ns me known inbox =>
    obtain ⟨_, outcome, rfl⟩ := Option.map_eq_some_iff.mp stepped
    exact .join outcome
  | resume ns me inbox =>
    obtain ⟨_, outcome, rfl⟩ := Option.map_eq_some_iff.mp stepped
    exact .resume outcome
  | attach ns me id =>
    simp only [step] at stepped
    cases attached : Room.attach ns id state.host with
    | error error =>
      rw [attached] at stepped
      cases stepped
      exact .astray
    | ok room =>
      rw [attached] at stepped
      cases stepped
      exact .attach attached
  | register seat =>
    simp only [step] at stepped
    split_ifs at stepped with member
    obtain ⟨_, outcome, rfl⟩ := Option.map_eq_some_iff.mp stepped
    exact .register member outcome
  | tell seat target text =>
    simp only [step] at stepped
    split_ifs at stepped with member
    obtain ⟨_, outcome, rfl⟩ := Option.map_eq_some_iff.mp stepped
    exact .tell member outcome
  | say seat text =>
    simp only [step] at stepped
    split_ifs at stepped with member
    obtain ⟨_, outcome, rfl⟩ := Option.map_eq_some_iff.mp stepped
    exact .say member outcome
  | handle seat envelope =>
    simp only [step] at stepped
    split_ifs at stepped with member
    obtain ⟨_, outcome, rfl⟩ := Option.map_eq_some_iff.mp stepped
    exact .handle member outcome
  | leave seat =>
    simp only [step] at stepped
    split_ifs at stepped with member
    obtain ⟨_, outcome, rfl⟩ := Option.map_eq_some_iff.mp stepped
    exact .leave member outcome
  | carry carrier =>
    cases stepped
    exact .carry

/-- The participants with a session or a join under way. -/
def ids (seats : List Seat) : List ParticipantId :=
  seats.map (·.session.me)

/-- Whether all who have a live session count as running. -/
def covers (state : Occupancy σ) (running : ParticipantId → Bool) : Bool :=
  (ids state.live).all running

def vacant (state : Occupancy σ) (me : ParticipantId) : Bool :=
  me ∉ ids (state.entering ++ state.live)

/-- All who have a live session count as running. -/
def truthful (state : Occupancy σ) : Act σ → Bool
  | .create running _ _ => state.covers running
  | _ => true

/-- Besides, nobody has two sessions or joins at a time. -/
def exclusive (state : Occupancy σ) : Act σ → Bool
  | .create running _ me => state.covers running && state.vacant me
  | .join _ me _ _ | .resume _ me _ | .attach _ me _ => state.vacant me
  | _ => true

end Occupancy

end HostChat
