import HostChat.Proofs.Exchange.Routes
import HostChat.Proofs.Memory.Places
import HostChat.Proofs.Room.Creation

/-! # What joining does

To join is to ask somebody for its room, to wait for the first approval that comes in, from whomever,
and to take a place in the room that it names. What comes in before the approval is lost, and what
comes in after it stays. A join that fails leaves all stores and locks as they are; one that succeeds
writes at most one entry of one registry.
-/

namespace HostChat

/-- Whether an envelope ends the waiting of a join. -/
def Envelope.Approves (envelope : Envelope) : Prop :=
  ∃ room, envelope.notification = .joinApprove room

/-- Puts a participant into a place of the registry. -/
def Room.seat {σ : Type} (room : Room) (host : Host σ) (place : Fin maxParticipants)
    (id : ParticipantId) : Host σ :=
  let memory := room.memory host
  room.setMemory host { memory with registry := memory.registry.put place id }

namespace Session

variable {σ : Type} {host after : Host σ} {ns : String} {me id sender : ParticipantId} {closed : Bool}
  {skipped rest queue : List Envelope} {room : Room} {place : Fin maxParticipants}
  {result : Except ChatError Session}

/-- What is not an approval is passed over, whether more comes after it or not. -/
theorem awaitApproval_append (others : ∀ envelope ∈ skipped, ¬envelope.Approves) :
    awaitApproval closed (skipped ++ queue) = awaitApproval closed queue := by
  induction skipped with
  | nil => rfl
  | cons envelope later ih =>
    have later := ih fun other member => others other (List.mem_cons_of_mem _ member)
    rcases envelope with ⟨sender, _ | room | slot⟩
    · exact later
    · exact absurd ⟨room, rfl⟩ (others _ List.mem_cons_self)
    · exact later

theorem exists_first_approval (queue : List Envelope) :
    (∀ envelope ∈ queue, ¬envelope.Approves) ∨ ∃ skipped sender id rest,
      queue = skipped ++ ⟨sender, .joinApprove id⟩ :: rest ∧
        ∀ envelope ∈ skipped, ¬envelope.Approves := by
  induction queue with
  | nil => exact .inl nofun
  | cons envelope later ih =>
    by_cases approves : envelope.Approves
    · obtain ⟨id, kind⟩ := approves
      exact .inr ⟨[], envelope.sender, id, later, by rw [← kind]; rfl, nofun⟩
    · rcases ih with none | ⟨skipped, sender, id, rest, split, before⟩
      · exact .inl (List.forall_mem_cons.mpr ⟨approves, none⟩)
      · exact .inr ⟨envelope :: skipped, sender, id, rest, by rw [split]; rfl,
          List.forall_mem_cons.mpr ⟨approves, before⟩⟩

/-- How the entering of a room that an approval names ends. -/
structure Arrives (ns : String) (me id : ParticipantId) (host : Host σ)
    (result : Except ChatError Session) (after : Host σ) : Prop where
  /-- The room must be there and have a place. -/
  succeeds : (∃ session, result = .ok session) ↔ ∃ room, Room.attach ns id host = .ok room ∧
    (me ∈ (room.memory host).registry.participants ∨
      ∃ place, (room.memory host).registry.entries.get place = 0)
  /-- The participant sits in the place that it had or in the first free one. -/
  seated : ∀ session, result = .ok session →
    session.me = me ∧ session.role = .joiner ∧ session.room.id = id ∧
      Room.attach ns id host = .ok session.room ∧ ∃ place,
        (session.room.memory host).registry.Seats me place ∧ after = session.room.seat host place me
  refused : ∀ error, result = .error error → after = host ∧
    ((∃ cause, Room.attach ns id host = .error cause ∧ error = .ofRoom cause) ∨
      ∃ room, Room.attach ns id host = .ok room ∧ me ∉ (room.memory host).registry.participants ∧
        (∀ place, (room.memory host).registry.entries.get place ≠ 0) ∧ error = .roomFull)

private theorem enter_of_error {cause : RoomError} (refused : Room.attach ns id host = .error cause) :
    enter ns me id host = some (.error (.ofRoom cause), host) := by
  rw [enter, refused]

private theorem enter_of_seats (attached : Room.attach ns id host = .ok room)
    (unlocked : room.Unlocked host) (seats : (room.memory host).registry.Seats me place) :
    enter ns me id host = some (.ok ⟨me, .joiner, room⟩, room.seat host place me) := by
  have held : registerHeld ⟨me, .joiner, room⟩ host = (.ok place, room.seat host place me) := by
    rw [registerHeld, Registry.claim_of_seats seats]
    rfl
  rw [enter, attached]
  dsimp only
  rw [register_eq_some_iff.mpr ⟨unlocked, held⟩]
  rfl

private theorem enter_of_full (attached : Room.attach ns id host = .ok room)
    (unlocked : room.Unlocked host) (absent : me ∉ (room.memory host).registry.participants)
    (full : ∀ place, (room.memory host).registry.entries.get place ≠ 0) :
    enter ns me id host = some (.error .roomFull, host) := by
  have held : registerHeld ⟨me, .joiner, room⟩ host = (.error .roomFull, host) := by
    rw [registerHeld, Registry.claim_of_full absent full]
    rfl
  rw [enter, attached]
  dsimp only
  rw [register_eq_some_iff.mpr ⟨unlocked, held⟩]
  rfl

theorem arrives_of_error {cause : RoomError} (refused : Room.attach ns id host = .error cause) :
    Arrives ns me id host (.error (.ofRoom cause)) host where
  succeeds := by
    constructor
    · rintro ⟨session, success⟩
      cases success
    · rintro ⟨room, attached, -⟩
      cases refused.symm.trans attached
  seated := nofun
  refused := by
    intro error failure
    cases failure
    exact ⟨rfl, .inl ⟨cause, refused, rfl⟩⟩

theorem arrives_of_seats (attached : Room.attach ns id host = .ok room)
    (seats : (room.memory host).registry.Seats me place) :
    Arrives ns me id host (.ok ⟨me, .joiner, room⟩) (room.seat host place me) where
  succeeds :=
    ⟨fun _ => ⟨room, attached, Registry.exists_seats_iff.mp ⟨place, seats⟩⟩, fun _ => ⟨_, rfl⟩⟩
  seated := by
    intro session success
    cases success
    obtain ⟨_, _, -, -, -, rfl⟩ := Room.attach_eq_ok_iff.mp attached
    exact ⟨rfl, rfl, rfl, attached, place, seats, rfl⟩
  refused := nofun

theorem arrives_of_full (attached : Room.attach ns id host = .ok room)
    (absent : me ∉ (room.memory host).registry.participants)
    (full : ∀ place, (room.memory host).registry.entries.get place ≠ 0) :
    Arrives ns me id host (.error .roomFull) host where
  succeeds := by
    constructor
    · rintro ⟨session, success⟩
      cases success
    · rintro ⟨other, same, either⟩
      obtain rfl := Except.ok.inj (attached.symm.trans same)
      obtain member | ⟨place, free⟩ := either
      · exact absurd member absent
      · exact absurd free (full place)
  seated := nofun
  refused := by
    intro error failure
    cases failure
    exact ⟨rfl, .inr ⟨room, attached, absent, full, rfl⟩⟩

/-- Entering a room comes to an end while its lock is free. -/
theorem exists_arrival (locks : host.LocksFree) (ns : String) (me id : ParticipantId) :
    ∃ result after, enter ns me id host = some (result, after) ∧
      Arrives ns me id host result after := by
  cases attached : Room.attach ns id host with
  | error cause => exact ⟨_, _, enter_of_error attached, arrives_of_error attached⟩
  | ok room =>
    have unlocked : room.Unlocked host := by
      obtain ⟨_, _, -, -, there, rfl⟩ := Room.attach_eq_ok_iff.mp attached
      exact locks.unlocked there
    by_cases seated : ∃ place, (room.memory host).registry.Seats me place
    · obtain ⟨place, seats⟩ := seated
      exact ⟨_, _, enter_of_seats attached unlocked seats, arrives_of_seats attached seats⟩
    · rw [Registry.exists_seats_iff, not_or, not_exists] at seated
      exact ⟨_, _, enter_of_full attached unlocked seated.1 seated.2,
        arrives_of_full attached seated.1 seated.2⟩

/-- What a join makes of an inbox without an approval. -/
private theorem resumeJoin_of_none {inbox : Inbox}
    (none : ∀ envelope ∈ inbox.queue, ¬envelope.Approves) :
    resumeJoin ns me inbox host = some (if inbox.closed then
      .over (.error (.signal "notification channel closed while waiting to join"))
    else .waiting, [], host) := by
  have passed : awaitApproval inbox.closed (inbox.queue ++ []) = awaitApproval inbox.closed [] :=
    awaitApproval_append none
  rw [List.append_nil] at passed
  rw [resumeJoin, passed, awaitApproval]
  split_ifs <;> rfl

/-- An approval ends the waiting, and what comes after it stays in the inbox. -/
theorem resumeJoin_of_approval {inbox : Inbox} (locks : host.LocksFree) (ns : String)
    (me : ParticipantId) (split : inbox.queue = skipped ++ ⟨sender, .joinApprove id⟩ :: rest)
    (before : ∀ envelope ∈ skipped, ¬envelope.Approves) : ∃ result after,
      resumeJoin ns me inbox host = some (.over result, rest, after) ∧
        Arrives ns me id host result after := by
  obtain ⟨result, after, entered, arrives⟩ := exists_arrival locks ns me id
  refine ⟨result, after, ?_, arrives⟩
  rw [resumeJoin, split, awaitApproval_append before, awaitApproval]
  dsimp only
  rw [entered]
  rfl

theorem resumeJoin_append {earlier later : List Envelope}
    (none : ∀ envelope ∈ earlier, ¬envelope.Approves) :
    resumeJoin ns me ⟨earlier ++ later, closed⟩ host = resumeJoin ns me ⟨later, closed⟩ host := by
  rw [resumeJoin, resumeJoin, awaitApproval_append none]

section Join

variable [Carrier σ] {known : ParticipantId} {inbox : σ → Inbox} {carrier : σ}

theorem join_of_lost {fault : Fault}
    (lost : Carrier.notify host.carrier me known .joinRequest = .error fault) :
    join ns me known inbox host =
      some (.over (.error (.unreachable known fault)), (inbox host.carrier).queue, host) := by
  rw [join, requestJoin, Host.notify, lost]
  rfl

theorem join_of_sent (sent : Carrier.notify host.carrier me known .joinRequest = .ok carrier) :
    join ns me known inbox host = resumeJoin ns me (inbox carrier) { host with carrier } := by
  rw [join, requestJoin, Host.notify, sent]
  rfl

/-- A join does everything or nothing. If the request for it cannot be sent, the inbox stays as it is;
otherwise the join takes what is in the inbox up to the first approval, whoever has sent that. One that
waits goes on as if what comes in later had been there. -/
theorem join_all_or_nothing (locks : host.LocksFree) (ns : String) (me known : ParticipantId)
    (inbox : σ → Inbox) :
    (∀ fault, Carrier.notify host.carrier me known .joinRequest = .error fault →
      join ns me known inbox host =
        some (.over (.error (.unreachable known fault)), (inbox host.carrier).queue, host)) ∧
    (∀ carrier, Carrier.notify host.carrier me known .joinRequest = .ok carrier →
      ((∀ envelope ∈ (inbox carrier).queue, ¬envelope.Approves) →
        join ns me known inbox host = some (if (inbox carrier).closed then
          .over (.error (.signal "notification channel closed while waiting to join"))
        else .waiting, [], { host with carrier })) ∧
      ∀ skipped sender id rest,
        (inbox carrier).queue = skipped ++ ⟨sender, .joinApprove id⟩ :: rest →
        (∀ envelope ∈ skipped, ¬envelope.Approves) → ∃ result after,
          join ns me known inbox host = some (.over result, rest, after) ∧
            Arrives ns me id { host with carrier } result after) ∧
    (∀ earlier later closed, (∀ envelope ∈ earlier, ¬envelope.Approves) →
      resumeJoin ns me ⟨earlier ++ later, closed⟩ host = resumeJoin ns me ⟨later, closed⟩ host) ∧
    (∀ error queue after, join ns me known inbox host = some (.over (.error error), queue, after) →
      after.stores = host.stores ∧ after.locks = host.locks) := by
  have free (carrier : σ) : { host with carrier }.LocksFree := ⟨locks.free, locks.named⟩
  refine ⟨fun fault => join_of_lost, fun carrier sent => ⟨fun none => ?_, ?_⟩,
    fun earlier later closed => resumeJoin_append, ?_⟩
  · rw [join_of_sent sent, resumeJoin_of_none none]
  · intro skipped sender id rest split before
    rw [join_of_sent sent]
    exact resumeJoin_of_approval (free carrier) ns me split before
  · intro error queue after failed
    cases sent : Carrier.notify host.carrier me known .joinRequest with
    | error fault =>
      rw [join_of_lost sent] at failed
      cases failed
      exact ⟨rfl, rfl⟩
    | ok carrier =>
      rw [join_of_sent sent] at failed
      rcases exists_first_approval (inbox carrier).queue with
        none | ⟨skipped, sender, id, rest, split, before⟩
      · rw [resumeJoin_of_none none] at failed
        obtain ⟨-, left⟩ := Prod.mk.inj (Option.some.inj failed)
        obtain ⟨-, rfl⟩ := Prod.mk.inj left
        exact ⟨rfl, rfl⟩
      · obtain ⟨result, last, ended, arrives⟩ :=
          resumeJoin_of_approval (free carrier) ns me split before
        rw [ended] at failed
        cases failed
        rw [(arrives.refused error rfl).1]
        exact ⟨rfl, rfl⟩

end Join

/-- cleo has got something that it does not wait for, and then two approvals. -/
def approved : Exchange :=
  ((Exchange.empty.connect anna).2.connect cleo).2.keep 1
    [⟨bert, .messageReady 3⟩, ⟨bert, .joinApprove bert⟩, ⟨anna, .joinApprove anna⟩]

/-- anna is in bert's room, and cleo can ask it. -/
def visited : Host Exchange :=
  ⟨Room.annaVisits.stores, Room.annaVisits.locks, approved⟩

/-- cleo asks anna, and bert approves before anna does. -/
theorem join_all_or_nothing_at_visit : ∃ session after place,
    join "x" cleo anna (·.inbox 1) visited =
      some (.over (.ok session), [⟨anna, .joinApprove anna⟩], after) ∧ session.room.id = bert ∧
      (session.room.memory visited).registry.Seats cleo place ∧ after.locks = visited.locks := by
  have locks : visited.LocksFree := ⟨Room.locksFree_annaVisits.free, Room.locksFree_annaVisits.named⟩
  obtain ⟨result, after, joined, arrives⟩ := ((join_all_or_nothing locks "x" cleo anna (·.inbox 1)).2.1
    (approved.put anna ⟨cleo, .joinRequest⟩) (by decide +kernel)).2
    [⟨bert, .messageReady 3⟩] bert bert [⟨anna, .joinApprove anna⟩] (by decide +kernel)
    (by simp [Envelope.Approves])
  obtain ⟨session, rfl⟩ := arrives.succeeds.mpr
    ⟨Room.bertsRoom, by decide +kernel, .inr ⟨⟨1, by decide⟩, by decide +kernel⟩⟩
  obtain ⟨-, -, id, -, place, seats, rfl⟩ := arrives.seated session rfl
  exact ⟨session, _, place, joined, id, seats, rfl⟩

end Session

end HostChat
