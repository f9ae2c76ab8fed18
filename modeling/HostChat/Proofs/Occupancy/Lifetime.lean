import HostChat.Proofs.Occupancy.Reachability

/-! # The lifetime of rooms

When joins are taken as a whole, the names on a host are exactly those of the rooms with live
sessions, and each registry lists the sessions of its room. What creators, joiners and leavers are
told follows from that.
-/

namespace HostChat

variable {σ : Type}

namespace Occupancy

variable {state next : Occupancy σ} {seat : Seat} {act : Act σ} {ns : String}
  {me room : ParticipantId}

/-- Joins are not cut up, namespaces are proper, and nobody has two sessions at a time. -/
def whole (state : Occupancy σ) : Act σ → Bool
  | .create running ns me =>
      (checkNamespace ns).isOk && state.exclusive (.create running ns me)
  | .join ns me known inbox => (checkNamespace ns).isOk && state.exclusive (.join ns me known inbox)
  | .resume ns me inbox => (checkNamespace ns).isOk && state.exclusive (.resume ns me inbox)
  | .attach _ _ _ | .register _ => false
  | act => state.exclusive act

/-- The live sessions in the room of a namespace and an id. -/
def inRoom (live : List Seat) (ns : String) (room : ParticipantId) : List Seat :=
  live.filter fun seat => seat.ns = ns ∧ seat.session.room.id = room

/-- What holds between whole operations. -/
structure Orderly (state : Occupancy σ) : Prop where
  settled : state.Settled
  whole : state.entering = []
  proper : ∀ seat ∈ state.live, checkNamespace seat.ns = .ok ()

private theorem ns_of_stem {other : String} (proper : checkNamespace ns = .ok ())
    (properOther : checkNamespace other = .ok ())
    (same : RoomNames.stem ns = RoomNames.stem other) : ns = other := by
  rw [RoomNames.stem_of_checkNamespace proper, RoomNames.stem_of_checkNamespace properOther] at same
  exact String.toList_injective same

namespace Orderly

/-- A name of a store is that of the room that a live session is in. -/
private theorem room_of_key (orderly : state.Orderly) (proper : checkNamespace ns = .ok ())
    (member : seat ∈ state.live) {key : String}
    (legal : objectKey .store seat.session.room.names.store = .ok key)
    (own : objectKey .store (RoomNames.ofRoom ns room).store = .ok key) :
    seat.ns = ns ∧ seat.session.room.id = room := by
  rw [(orderly.settled.placedLive member).names] at legal
  obtain ⟨stems, ids⟩ := RoomNames.storeKey_inj legal own
  exact ⟨ns_of_stem (orderly.proper seat member) proper stems, ids⟩

private theorem room_of_lockKey (orderly : state.Orderly) (proper : checkNamespace ns = .ok ())
    (member : seat ∈ state.live) {key : String}
    (legal : objectKey .lock seat.session.room.names.lock = .ok key)
    (own : objectKey .lock (RoomNames.ofRoom ns room).lock = .ok key) :
    seat.ns = ns ∧ seat.session.room.id = room := by
  rw [(orderly.settled.placedLive member).names] at legal
  obtain ⟨stems, ids⟩ := RoomNames.lockKey_inj legal own
  exact ⟨ns_of_stem (orderly.proper seat member) proper stems, ids⟩

/-- Live sessions share a store exactly if they are in one room. -/
theorem sameStore_iff (orderly : state.Orderly) (member : seat ∈ state.live) {other : Seat}
    (memberOther : other ∈ state.live) :
    other.session.room.store = seat.session.room.store ↔
      other.ns = seat.ns ∧ other.session.room.id = seat.session.room.id := by
  obtain ⟨storeKey, lockKey, named⟩ := orderly.settled.named seat member
  obtain ⟨otherKey, _, namedOther⟩ := orderly.settled.named other memberOther
  have names := (orderly.settled.placedLive member).names
  have namesOther := (orderly.settled.placedLive memberOther).names
  constructor
  · intro same
    have keys : otherKey = storeKey :=
      orderly.settled.distinct _ _ _ namedOther.store (same ▸ named.store)
    refine orderly.room_of_key (orderly.proper seat member) memberOther namedOther.legalStore ?_
    rw [← names, named.legalStore, keys]
  · rintro ⟨sameNs, sameId⟩
    have legal := namedOther.legalStore
    rw [namesOther, sameNs, sameId, ← names, named.legalStore] at legal
    have keys : storeKey = otherKey := Except.ok.inj legal
    rw [← Option.some.injEq, ← namedOther.store, ← named.store, keys]

theorem inStore_eq_inRoom (orderly : state.Orderly) (member : seat ∈ state.live) {seats : List Seat}
    (among : ∀ other ∈ seats, other ∈ state.live) :
    inStore seats seat.session.room.store = inRoom seats seat.ns seat.session.room.id := by
  apply List.filter_congr
  intro other present
  rw [decide_eq_decide]
  exact orderly.sameStore_iff member (among other present)

theorem exists_seat (occupied : inRoom state.live ns room ≠ []) :
    ∃ seat ∈ state.live, seat.ns = ns ∧ seat.session.room.id = room := by
  obtain ⟨seat, among⟩ := List.exists_mem_of_ne_nil _ occupied
  obtain ⟨member, same⟩ := List.mem_filter.mp among
  exact ⟨seat, member, of_decide_eq_true same⟩

theorem inRoom_ne_nil (member : seat ∈ state.live) :
    inRoom state.live seat.ns seat.session.room.id ≠ [] :=
  List.ne_nil_of_mem (List.mem_filter.mpr ⟨member, by simp⟩)

theorem storeName_iff (orderly : state.Orderly) (proper : checkNamespace ns = .ok ()) :
    (state.host.stores.find? .store (RoomNames.ofRoom ns room).store).isSome ↔
      inRoom state.live ns room ≠ [] := by
  constructor
  · intro present
    obtain ⟨store, found⟩ := Option.isSome_iff_exists.mp present
    obtain ⟨key, own, found⟩ := Directory.find?_eq_some_iff.mp found
    obtain ⟨seat, member, legal, -⟩ := orderly.settled.storeNames key store found
    obtain ⟨rfl, rfl⟩ := orderly.room_of_key proper member legal own
    exact inRoom_ne_nil member
  · intro occupied
    obtain ⟨seat, member, rfl, rfl⟩ := exists_seat occupied
    obtain ⟨storeKey, lockKey, named⟩ := orderly.settled.named seat member
    rw [Option.isSome_iff_exists]
    refine ⟨_, Directory.find?_eq_some_iff.mpr ⟨storeKey, ?_, named.store⟩⟩
    rw [← (orderly.settled.placedLive member).names, named.legalStore]

theorem lockName_iff (orderly : state.Orderly) (proper : checkNamespace ns = .ok ()) :
    (state.host.locks.find? .lock (RoomNames.ofRoom ns room).lock).isSome ↔
      inRoom state.live ns room ≠ [] := by
  constructor
  · intro present
    obtain ⟨lock, found⟩ := Option.isSome_iff_exists.mp present
    obtain ⟨key, own, found⟩ := Directory.find?_eq_some_iff.mp found
    obtain ⟨seat, member, legal⟩ := orderly.settled.lockNames key lock found
    obtain ⟨rfl, rfl⟩ := orderly.room_of_lockKey proper member legal own
    exact inRoom_ne_nil member
  · intro occupied
    obtain ⟨seat, member, rfl, rfl⟩ := exists_seat occupied
    obtain ⟨storeKey, lockKey, named⟩ := orderly.settled.named seat member
    rw [Option.isSome_iff_exists]
    refine ⟨_, Directory.find?_eq_some_iff.mpr ⟨lockKey, ?_, named.lock⟩⟩
    rw [← (orderly.settled.placedLive member).names, named.legalLock]

/-- The registry under the names of a room lists the live sessions of the room, each once. -/
theorem registry (orderly : state.Orderly) (proper : checkNamespace ns = .ok ()) {store : Nat}
    (found : state.host.stores.find? .store (RoomNames.ofRoom ns room).store = some store) :
    (state.host.registry store).participants.Perm (ids (inRoom state.live ns room)) ∧
      (state.host.registry store).participants.Nodup ∧
        (state.host.registry store).participants.length ≤ maxParticipants := by
  obtain ⟨key, own, found⟩ := Directory.find?_eq_some_iff.mp found
  obtain ⟨seat, member, legal, rfl⟩ := orderly.settled.storeNames key store found
  obtain ⟨rfl, rfl⟩ := orderly.room_of_key proper member legal own
  rw [← orderly.inStore_eq_inRoom member fun _ => id]
  exact ⟨orderly.settled.members seat member, (orderly.settled.sound seat member).nodup,
    Registry.participants_length_le _⟩

/-- A full room turns a joiner down and stays as it is. -/
theorem resumeJoin_full (orderly : state.Orderly)
    (full : (inRoom state.live ns room).length = maxParticipants) (absent : me ∉ ids state.live)
    {inbox : Inbox} {rest : List Envelope}
    (approved : Session.awaitApproval inbox.closed inbox.queue = (some (.ok room), rest)) :
    Session.resumeJoin ns me inbox state.host =
      some (.over (.error .roomFull), rest, state.host) := by
  have occupied : inRoom state.live ns room ≠ [] := by
    intro empty
    rw [empty] at full
    exact absurd full (by decide)
  obtain ⟨seat, member, rfl, rfl⟩ := exists_seat occupied
  have placed := orderly.settled.placedLive member
  have attached : Room.attach seat.ns seat.session.room.id state.host = .ok seat.session.room :=
    orderly.settled.reachable member
  have count : (state.host.registry seat.session.room.store).participants.length =
      maxParticipants := by
    rw [(orderly.settled.members seat member).length_eq, ids, List.length_map,
      orderly.inStore_eq_inRoom member fun _ => id, full]
  have refused := Registry.claim_full
    (fun present => absent (orderly.settled.participants_live member present)) count
  have register : Session.register ⟨me, .joiner, seat.session.room⟩ state.host =
      some (.error .roomFull, state.host) := by
    rw [Session.register_eq_some_iff,
      Session.registerHeld_of_error ⟨me, .joiner, seat.session.room⟩ refused]
    exact ⟨placed.roomUnlocked, rfl⟩
  simp only [Session.resumeJoin, approved, Session.enter, attached, register, Option.map_some]
  rfl

/-- A room with live sessions is not replaced. -/
theorem create_inUse (orderly : state.Orderly) {running : ParticipantId → Bool}
    (covers : state.covers running = true) (absent : me ∉ ids state.live)
    (occupied : inRoom state.live ns me ≠ []) :
    Session.create running ns me state.host = some (.error (.sharedResource
      (.inUse (RoomNames.ofRoom ns me).store (inRoom state.live ns me).length)), state.host) := by
  obtain ⟨seat, member, rfl, rfl⟩ := exists_seat occupied
  obtain ⟨storeKey, lockKey, named⟩ := orderly.settled.named seat member
  have own : objectKey .store (RoomNames.ofRoom seat.ns seat.session.room.id).store =
      .ok storeKey := by
    rw [← (orderly.settled.placedLive member).names, named.legalStore]
  have found := orderly.settled.occupants covers absent member named.legalStore own
  rw [orderly.inStore_eq_inRoom member fun _ => id] at found
  obtain ⟨count, succ⟩ := Nat.exists_eq_succ_of_ne_zero
    (Nat.ne_of_gt (List.length_pos_iff.mpr occupied))
  rw [succ] at found ⊢
  exact Session.create_of_occupied found

/-- A departure is always answered, and it says whether it was the last one of the room. -/
theorem leave (orderly : state.Orderly) (member : seat ∈ state.live) :
    ∃ dropped after, seat.session.leave state.host = some (.ok ⟨dropped,
      (inRoom (state.live.erase seat) seat.ns seat.session.room.id).isEmpty⟩, after) := by
  obtain ⟨⟨result, after⟩, held⟩ : ∃ outcome, seat.session.leaveHeld state.host = outcome := ⟨_, rfl⟩
  have outcome : seat.session.leave state.host = some (result, after) :=
    Session.leave_eq_some_iff.mpr ⟨(orderly.settled.placedLive member).roomUnlocked, held⟩
  rw [← orderly.inStore_eq_inRoom member fun _ => List.mem_of_mem_erase]
  by_cases last : inStore (state.live.erase seat) seat.session.room.store = []
  · obtain ⟨⟨dropped, rfl⟩, -⟩ := orderly.settled.leave_last member last outcome
    exact ⟨dropped, after, by rw [outcome, last]; rfl⟩
  · obtain ⟨⟨dropped, rfl⟩, -⟩ := orderly.settled.leave_remaining member last outcome
    exact ⟨dropped, after, by rw [outcome, List.isEmpty_eq_false_iff.mpr last]⟩

/-- The names on a host without live sessions are none. -/
theorem nameless (orderly : state.Orderly) (nobody : state.live = []) : state.host.Nameless := by
  constructor
  · intro key
    by_contra present
    obtain ⟨store, found⟩ := Option.ne_none_iff_exists'.mp present
    obtain ⟨seat, member, -⟩ := orderly.settled.storeNames key store found
    rw [nobody] at member
    exact List.not_mem_nil member
  · intro key
    by_contra present
    obtain ⟨lock, found⟩ := Option.ne_none_iff_exists'.mp present
    obtain ⟨seat, member, -⟩ := orderly.settled.lockNames key lock found
    rw [nobody] at member
    exact List.not_mem_nil member

end Orderly

theorem conclude_entering (state : Occupancy σ) (ns : String) (result : Except ChatError Session)
    (host : Host σ) : (state.conclude ns result host).entering = state.entering := by
  cases result <;> rfl

theorem conclude_proper {result : Except ChatError Session} {host : Host σ}
    (proper : ∀ seat ∈ state.live, checkNamespace seat.ns = .ok ()) (own : checkNamespace ns = .ok ()) :
    ∀ seat ∈ (state.conclude ns result host).live, checkNamespace seat.ns = .ok () := by
  cases result with
  | error error => exact proper
  | ok session =>
    intro seat member
    rcases List.mem_cons.mp member with rfl | member
    · exact own
    · exact proper seat member

theorem proceed_entering (state : Occupancy σ) (ns : String) (joining : Joining) (host : Host σ) :
    (state.proceed ns joining host).entering = state.entering := by
  rcases joining with _ | result
  · rfl
  · exact conclude_entering state ns result host

theorem proceed_proper {joining : Joining} {host : Host σ}
    (proper : ∀ seat ∈ state.live, checkNamespace seat.ns = .ok ()) (own : checkNamespace ns = .ok ()) :
    ∀ seat ∈ (state.proceed ns joining host).live, checkNamespace seat.ns = .ok () := by
  rcases joining with _ | result
  · exact proper
  · exact conclude_proper proper own

theorem checkNamespace_eq_ok (legal : (checkNamespace ns).isOk = true) :
    checkNamespace ns = .ok () := by
  cases check : checkNamespace ns with
  | ok => rfl
  | error problem =>
    rw [check] at legal
    cases legal

theorem Orderly.step [Carrier σ] (orderly : state.Orderly) (allowed : state.whole act = true)
    (stepped : state.step act = some next) : next.Orderly := by
  obtain ⟨settled, entering, proper⟩ := orderly
  have exclusive : state.exclusive act = true := by
    cases act <;> simp_all [Occupancy.whole]
  have settled : next.Settled := by
    rcases settled.step exclusive stepped with settled | ⟨seat, rfl, -⟩
    · exact settled
    · cases allowed
  suffices kept : next.entering = [] ∧ ∀ seat ∈ next.live, checkNamespace seat.ns = .ok () from
    ⟨settled, kept.1, kept.2⟩
  cases moves_of_step stepped with
  | create =>
    simp only [Occupancy.whole, Bool.and_eq_true] at allowed
    exact ⟨(conclude_entering state _ _ _).trans entering,
      conclude_proper proper (checkNamespace_eq_ok allowed.1)⟩
  | join =>
    simp only [Occupancy.whole, Bool.and_eq_true] at allowed
    exact ⟨(proceed_entering state _ _ _).trans entering,
      proceed_proper proper (checkNamespace_eq_ok allowed.1)⟩
  | resume =>
    simp only [Occupancy.whole, Bool.and_eq_true] at allowed
    exact ⟨(proceed_entering state _ _ _).trans entering,
      proceed_proper proper (checkNamespace_eq_ok allowed.1)⟩
  | attach => cases allowed
  | astray => cases allowed
  | register => cases allowed
  | leave => exact ⟨entering, fun other left => proper other (List.mem_of_mem_erase left)⟩
  | _ => exact ⟨entering, proper⟩

/-- What names, registries and the answers of operations have to do with the live sessions. -/
structure Tidy [Carrier σ] (state : Occupancy σ) : Prop where
  /-- A room has both its names or none, and it has them exactly if somebody is live in it. -/
  names : ∀ ns room, checkNamespace ns = .ok () →
    ((state.host.stores.find? .store (RoomNames.ofRoom ns room).store).isSome ↔
      inRoom state.live ns room ≠ []) ∧
    ((state.host.locks.find? .lock (RoomNames.ofRoom ns room).lock).isSome ↔
      inRoom state.live ns room ≠ [])
  /-- The registry lists the ids of the live sessions, each once, and no more than fit. -/
  registry : ∀ ns room store, checkNamespace ns = .ok () →
    state.host.stores.find? .store (RoomNames.ofRoom ns room).store = some store →
      (state.host.registry store).participants.Perm (ids (inRoom state.live ns room)) ∧
        (state.host.registry store).participants.Nodup ∧
          (state.host.registry store).participants.length ≤ maxParticipants
  /-- Nobody else gets into a full room, neither at once nor after waiting for the approval. -/
  full : ∀ ns room me, (inRoom state.live ns room).length = maxParticipants →
    me ∉ ids state.live →
      (∀ inbox rest,
        Session.awaitApproval inbox.closed inbox.queue = (some (.ok room), rest) →
          Session.resumeJoin ns me inbox state.host =
            some (.over (.error .roomFull), rest, state.host)) ∧
      ∀ known inbox sent rest, Session.requestJoin me known state.host = .ok sent →
        Session.awaitApproval (inbox sent.carrier).closed (inbox sent.carrier).queue =
            (some (.ok room), rest) →
          Session.join ns me known inbox state.host =
              some (.over (.error .roomFull), rest, sent) ∧
            sent = { state.host with carrier := sent.carrier }
  /-- A room with live sessions is not replaced. -/
  inUse : ∀ running ns me, state.covers running = true → me ∉ ids state.live →
    inRoom state.live ns me ≠ [] →
      Session.create running ns me state.host = some (.error (.sharedResource
        (.inUse (RoomNames.ofRoom ns me).store (inRoom state.live ns me).length)), state.host)
  /-- A departure says whether nobody is left in the room. -/
  departure : ∀ seat ∈ state.live, ∃ dropped after,
    seat.session.leave state.host = some (.ok ⟨dropped,
      (inRoom (state.live.erase seat) seat.ns seat.session.room.id).isEmpty⟩, after)
  nameless : state.live = [] → state.host.Nameless

theorem Orderly.join_full [Carrier σ] (orderly : state.Orderly)
    (full : (inRoom state.live ns room).length = maxParticipants) (absent : me ∉ ids state.live)
    {known : ParticipantId} {inbox : σ → Inbox} {sent : Host σ} {rest : List Envelope}
    (requested : Session.requestJoin me known state.host = .ok sent)
    (approved : Session.awaitApproval (inbox sent.carrier).closed (inbox sent.carrier).queue =
      (some (.ok room), rest)) :
    Session.join ns me known inbox state.host = some (.over (.error .roomFull), rest, sent) ∧
      sent = { state.host with carrier := sent.carrier } := by
  have notified := Session.requestJoin_eq_ok requested
  have settled := orderly.settled.sameMembers (Host.sameMembers_notify notified)
  obtain ⟨carrier, -, rfl⟩ := Host.notify_eq_ok notified
  have orderly : Orderly { state with host := { state.host with carrier } } :=
    ⟨settled, orderly.whole, orderly.proper⟩
  refine ⟨?_, rfl⟩
  rw [Session.join, requested]
  exact orderly.resumeJoin_full full absent approved

theorem Orderly.tidy [Carrier σ] (orderly : state.Orderly) : state.Tidy where
  names _ _ proper := ⟨orderly.storeName_iff proper, orderly.lockName_iff proper⟩
  registry _ _ _ proper found := orderly.registry proper found
  full _ _ _ full absent :=
    ⟨fun _ _ approved => orderly.resumeJoin_full full absent approved,
      fun _ _ _ _ requested approved => orderly.join_full full absent requested approved⟩
  inUse _ _ _ covers absent occupied := orderly.create_inUse covers absent occupied
  departure _ member := orderly.leave member
  nameless := orderly.nameless

/-- Whole operations of any participants, in any order, keep names and registries tidy. -/
theorem tidy_after_whole_operations [Carrier σ] {host : Host σ} {final : Occupancy σ}
    {acts : List (Act σ)} (nameless : host.Nameless)
    (run : replay? (restrict whole step) (start host) acts = some final) : final.Tidy := by
  have initial : (start host).Orderly :=
    ⟨settled_start nameless, rfl, fun _ member => absurd member List.not_mem_nil⟩
  refine Orderly.tidy (replay?_invariant Orderly (fun _ _ _ orderly stepped => ?_) initial run)
  obtain ⟨allowed, stepped⟩ := restrict_eq_some_iff.mp stepped
  exact orderly.step allowed stepped

/-- anna makes a room and is joined by as many as fit. -/
def gathering : List (Act Exchange) :=
  .create (fun _ => true) "x" anna ::
    ((List.range 9).filterMap fun number => ParticipantId.ofRaw? (Int32.ofNat (number + 2))).map
      fun guest => .resume "x" guest ⟨[⟨anna, .joinApprove anna⟩], false⟩

theorem tidy_after_gathering : ∃ final,
    replay? (restrict whole step) (start (.empty Exchange.empty)) gathering = some final ∧
      (inRoom final.live "x" anna).length = maxParticipants ∧ final.Tidy := by
  have facts : (replay? (restrict whole step) (start (.empty Exchange.empty)) gathering).map
      (fun final => (inRoom final.live "x" anna).length) = some maxParticipants := by
    decide +kernel
  obtain ⟨final, run, full⟩ := Option.map_eq_some_iff.mp facts
  have nameless : (Host.empty Exchange.empty).Nameless := ⟨fun _ => rfl, fun _ => rfl⟩
  exact ⟨final, run, full, tidy_after_whole_operations nameless run⟩

end Occupancy

end HostChat
