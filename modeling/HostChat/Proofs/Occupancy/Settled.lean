import HostChat.Proofs.Occupancy.System
import HostChat.Proofs.Session.Messages

/-! # Names, registries and sessions in step

While nobody registers in an emptied store, the names on a host are those of the rooms that sessions
are live in, each registry lists the sessions of its room, and a join that has attached either still
finds its room under its names or has seen it emptied. One lemma for each kind of effect keeps this.
-/

namespace HostChat

variable {σ : Type}

namespace Seat

variable {host after : Host σ} {seat : Seat}

/-- A handle on a proper room whose lock is free. -/
structure Placed (host : Host σ) (seat : Seat) : Prop where
  names : seat.session.room.names = .ofRoom seat.ns seat.session.room.id
  isRoom : host.IsRoom seat.session.room.store
  unlocked : host.locks.objects[seat.session.room.lock]? = some 1

/-- The keys of both names of a room that lead to it. -/
structure Named (host : Host σ) (seat : Seat) (storeKey lockKey : String) : Prop where
  legalStore : objectKey .store seat.session.room.names.store = .ok storeKey
  legalLock : objectKey .lock seat.session.room.names.lock = .ok lockKey
  store : host.stores.names.find? storeKey = some seat.session.room.store
  lock : host.locks.names.find? lockKey = some seat.session.room.lock

theorem Placed.made (placed : seat.Placed host) :
    seat.session.room.store < host.stores.objects.size :=
  placed.isRoom.made

theorem Placed.roomUnlocked (placed : seat.Placed host) : seat.session.room.Unlocked host :=
  ⟨0, placed.unlocked⟩

theorem Placed.of_spares (placed : seat.Placed host) (spares : host.Spares after) :
    seat.Placed after where
  names := placed.names
  isRoom := spares.isRoom placed.isRoom
  unlocked := by
    rw [spares.locks _ (Array.getElem?_eq_some_iff.mp placed.unlocked).1]
    exact placed.unlocked

theorem Placed.of_sameRooms (placed : seat.Placed host)
    (rooms : host.SameRooms after) : seat.Placed after where
  names := placed.names
  isRoom := rooms.isRoom placed.isRoom
  unlocked := by
    rw [rooms.locks]
    exact placed.unlocked

theorem Placed.reachable_iff (placed : seat.Placed host) :
    seat.Reachable host ↔ ∃ storeKey lockKey, seat.Named host storeKey lockKey := by
  rw [Reachable, Room.attach_eq_ok_iff]
  constructor
  · rintro ⟨store, lock, foundStore, -, foundLock, same⟩
    obtain ⟨storeKey, legalStore, foundStore⟩ := Directory.find?_eq_some_iff.mp foundStore
    obtain ⟨lockKey, legalLock, foundLock⟩ := Directory.find?_eq_some_iff.mp foundLock
    refine ⟨storeKey, lockKey, ?_, ?_, ?_, ?_⟩
    · rw [placed.names, legalStore]
    · rw [placed.names, legalLock]
    · rw [foundStore, same]
    · rw [foundLock, same]
  · rintro ⟨storeKey, lockKey, named⟩
    refine ⟨_, _, Directory.find?_eq_some_iff.mpr ⟨storeKey, ?_, named.store⟩, placed.isRoom,
      Directory.find?_eq_some_iff.mpr ⟨lockKey, ?_, named.lock⟩, ?_⟩
    · rw [← placed.names, named.legalStore]
    · rw [← placed.names, named.legalLock]
    · rw [← placed.names]

/-- Rooms whose stores have the same key have locks with the same key. -/
theorem Placed.sameLock {other : Seat} {key : String} (placed : seat.Placed host)
    (placedOther : other.Placed host)
    (legal : objectKey .store seat.session.room.names.store = .ok key)
    (legalOther : objectKey .store other.session.room.names.store = .ok key) :
    objectKey .lock seat.session.room.names.lock = objectKey .lock other.session.room.names.lock := by
  rw [placed.names] at legal ⊢
  rw [placedOther.names] at legalOther ⊢
  exact RoomNames.lockKey_congr legal legalOther

theorem Placed.sameStore {other : Seat} {key : String} (placed : seat.Placed host)
    (placedOther : other.Placed host)
    (legal : objectKey .lock seat.session.room.names.lock = .ok key)
    (legalOther : objectKey .lock other.session.room.names.lock = .ok key) :
    objectKey .store seat.session.room.names.store =
      objectKey .store other.session.room.names.store := by
  rw [placed.names] at legal ⊢
  rw [placedOther.names] at legalOther ⊢
  exact RoomNames.storeKey_congr legal legalOther

end Seat

namespace Occupancy

variable {state : Occupancy σ} {after : Host σ} {seat : Seat}

/-- The live sessions with a handle on a store. -/
def inStore (live : List Seat) (store : Nat) : List Seat :=
  live.filter (·.session.room.store = store)

structure Settled (state : Occupancy σ) : Prop where
  timely : state.late = []
  apart : (ids (state.entering ++ state.live)).Nodup
  placed : ∀ seat ∈ state.entering ++ state.live, seat.Placed state.host
  named : ∀ seat ∈ state.live, ∃ storeKey lockKey, seat.Named state.host storeKey lockKey
  storeNames : ∀ key store, state.host.stores.names.find? key = some store →
    ∃ seat ∈ state.live, objectKey .store seat.session.room.names.store = .ok key ∧
      seat.session.room.store = store
  lockNames : ∀ key lock, state.host.locks.names.find? key = some lock →
    ∃ seat ∈ state.live, objectKey .lock seat.session.room.names.lock = .ok key
  distinct : ∀ first second store, state.host.stores.names.find? first = some store →
    state.host.stores.names.find? second = some store → first = second
  members : ∀ seat ∈ state.live, (state.host.registry seat.session.room.store).participants.Perm
    (ids (inStore state.live seat.session.room.store))
  sound : ∀ seat ∈ state.live, (state.host.registry seat.session.room.store).Sound
  emptied : ∀ store ∈ state.emptied, store < state.host.stores.objects.size ∧
    ∀ key, state.host.stores.names.find? key ≠ some store
  ahead : ∀ seat ∈ state.entering, seat.session.room.store ∉ state.emptied →
    ∃ storeKey lockKey, seat.Named state.host storeKey lockKey

theorem settled_start {host : Host σ} (nameless : host.Nameless) : (start host).Settled where
  timely := rfl
  apart := List.nodup_nil
  placed _ member := absurd member List.not_mem_nil
  named _ member := absurd member List.not_mem_nil
  storeNames key _ found := by
    rw [start, nameless.1 key] at found
    cases found
  lockNames key _ found := by
    rw [start, nameless.2 key] at found
    cases found
  distinct key _ _ found := by
    rw [start, nameless.1 key] at found
    cases found
  members _ member := absurd member List.not_mem_nil
  sound _ member := absurd member List.not_mem_nil
  emptied _ member := absurd member List.not_mem_nil
  ahead _ member := absurd member List.not_mem_nil

namespace Settled

theorem placedLive (settled : state.Settled) (member : seat ∈ state.live) : seat.Placed state.host :=
  settled.placed seat (List.mem_append_right _ member)

theorem reachable (settled : state.Settled) (member : seat ∈ state.live) :
    seat.Reachable state.host :=
  (settled.placedLive member).reachable_iff.mpr (settled.named seat member)

/-- A host on which every name leads where it did, and every handle is as good as it was. -/
theorem of_names (settled : state.Settled)
    (stores : ∀ key, after.stores.names.find? key = state.host.stores.names.find? key)
    (locks : ∀ key, after.locks.names.find? key = state.host.locks.names.find? key)
    (size : state.host.stores.objects.size ≤ after.stores.objects.size)
    (placed : ∀ seat : Seat, seat.Placed state.host → seat.Placed after)
    (registry : ∀ store, after.registry store = state.host.registry store) :
    Settled { state with host := after } where
  timely := settled.timely
  apart := settled.apart
  placed seat member := placed seat (settled.placed seat member)
  named seat member := by
    obtain ⟨storeKey, lockKey, named⟩ := settled.named seat member
    exact ⟨storeKey, lockKey, named.legalStore, named.legalLock,
      (stores storeKey).trans named.store, (locks lockKey).trans named.lock⟩
  storeNames key store found := settled.storeNames key store ((stores key).symm.trans found)
  lockNames key lock found := settled.lockNames key lock ((locks key).symm.trans found)
  distinct first second store one other :=
    settled.distinct first second store ((stores first).symm.trans one)
      ((stores second).symm.trans other)
  members seat member := by
    rw [registry]
    exact settled.members seat member
  sound seat member := by
    rw [registry]
    exact settled.sound seat member
  emptied store member := by
    obtain ⟨bound, unnamed⟩ := settled.emptied store member
    exact ⟨Nat.lt_of_lt_of_le bound size, fun key found => unnamed key ((stores key).symm.trans found)⟩
  ahead seat member within := by
    obtain ⟨storeKey, lockKey, named⟩ := settled.ahead seat member within
    exact ⟨storeKey, lockKey, named.legalStore, named.legalLock,
      (stores storeKey).trans named.store, (locks lockKey).trans named.lock⟩

theorem sameMembers (settled : state.Settled) (members : state.host.SameMembers after) :
    Settled { state with host := after } :=
  settled.of_names (fun _ => by rw [members.rooms.names]) (fun _ => by rw [members.rooms.locks])
    (Nat.le_of_eq members.rooms.size.symm)
    (fun _ placed => placed.of_sameRooms members.rooms) members.registry

theorem mem_participants (settled : state.Settled) (member : seat ∈ state.live)
    {id : ParticipantId} :
    id ∈ (state.host.registry seat.session.room.store).participants ↔
      ∃ other ∈ state.live, other.session.room.store = seat.session.room.store ∧
        other.session.me = id := by
  rw [(settled.members seat member).mem_iff]
  simp [ids, inStore, and_assoc]

theorem participants_live (settled : state.Settled) (member : seat ∈ state.live)
    {id : ParticipantId} (present : id ∈ (state.host.registry seat.session.room.store).participants) :
    id ∈ ids state.live := by
  obtain ⟨other, live, -, same⟩ := (settled.mem_participants member).mp present
  exact List.mem_map.mpr ⟨other, live, same⟩

theorem nodup_cons (settled : state.Settled) (seat : Seat)
    (vacant : seat.session.me ∉ ids (state.entering ++ state.live)) :
    (ids (state.entering ++ seat :: state.live)).Nodup := by
  simp only [ids, List.map_append, List.map_cons] at vacant ⊢
  rw [List.nodup_middle, ← List.map_append, List.nodup_cons]
  exact ⟨by simpa using vacant, settled.apart⟩

section Create

variable {running : ParticipantId → Bool} {ns : String} {me : ParticipantId} {key : String}
  {result : Except ChatError Session}

/-- Those whom a creator finds in the room it wants to replace are all who are live there. -/
theorem occupants (settled : state.Settled) (covers : state.covers running = true)
    (vacant : me ∉ ids state.live) (member : seat ∈ state.live)
    (legal : objectKey .store seat.session.room.names.store = .ok key)
    (own : objectKey .store (RoomNames.ofRoom ns me).store = .ok key) :
    (Room.occupants running ns me state.host).1 =
      (inStore state.live seat.session.room.store).length := by
  obtain ⟨storeKey, lockKey, named⟩ := settled.named seat member
  have placed := settled.placedLive member
  have keys : storeKey = key := Except.ok.inj (named.legalStore.symm.trans legal)
  have lockLegal : objectKey .lock (RoomNames.ofRoom ns me).lock = .ok lockKey := by
    rw [← named.legalLock, placed.names]
    rw [placed.names] at legal
    exact RoomNames.lockKey_congr own legal
  have attached : Room.attach ns me state.host =
      .ok ⟨me, .ofRoom ns me, seat.session.room.store, seat.session.room.lock⟩ :=
    Room.attach_eq_ok_iff.mpr ⟨_, _, Directory.find?_eq_some_iff.mpr ⟨key, own, keys ▸ named.store⟩,
      placed.isRoom, Directory.find?_eq_some_iff.mpr ⟨lockKey, lockLegal, named.lock⟩, rfl⟩
  rw [Room.occupants_of_attach attached ⟨0, placed.unlocked⟩]
  have all : ∀ id ∈ (state.host.registry seat.session.room.store).participants,
      (decide (id ≠ me) && running id) = true := by
    intro id present
    have live := settled.participants_live member present
    have other : id ≠ me := fun same => vacant (same ▸ live)
    have runs : running id = true := List.all_eq_true.mp covers id live
    simp [other, runs]
  have count := List.countP_eq_length.mpr all
  rw [(settled.members seat member).length_eq, ids, List.length_map] at count
  exact count

theorem occupants_pos (member : seat ∈ state.live) :
    0 < (inStore state.live seat.session.room.store).length :=
  List.length_pos_of_mem (List.mem_filter.mpr ⟨member, by simp⟩)

/-- Where no session is live, the names of a room are free. -/
theorem names_free (settled : state.Settled)
    (free : ∀ seat ∈ state.live, ∀ key, objectKey .store seat.session.room.names.store = .ok key →
      objectKey .store (RoomNames.ofRoom ns me).store ≠ .ok key) :
    (∀ key, objectKey .store (RoomNames.ofRoom ns me).store = .ok key →
      state.host.stores.names.find? key = none) ∧
    ∀ key, objectKey .lock (RoomNames.ofRoom ns me).lock = .ok key →
      state.host.locks.names.find? key = none := by
  constructor
  · intro key own
    by_contra taken
    obtain ⟨store, found⟩ := Option.ne_none_iff_exists'.mp taken
    obtain ⟨seat, member, legal, -⟩ := settled.storeNames key store found
    exact free seat member key legal own
  · intro key own
    by_contra taken
    obtain ⟨lock, found⟩ := Option.ne_none_iff_exists'.mp taken
    obtain ⟨seat, member, legal⟩ := settled.lockNames key lock found
    obtain ⟨storeKey, lockKey, named⟩ := settled.named seat member
    have placed := settled.placedLive member
    refine free seat member storeKey named.legalStore ?_
    rw [← named.legalStore, placed.names]
    rw [placed.names] at legal
    exact RoomNames.storeKey_congr own legal

/-- A creator that fails leaves all names as they were. -/
theorem forgets (settled : state.Settled)
    (free : ∀ seat ∈ state.live, ∀ key, objectKey .store seat.session.room.names.store = .ok key →
      objectKey .store (RoomNames.ofRoom ns me).store ≠ .ok key)
    (forgets : Room.Forgets (.ofRoom ns me) state.host after) :
    Settled { state with host := after } := by
  obtain ⟨stores, locks⟩ := settled.names_free free
  exact settled.of_names (forgets.stores.find?_eq_of_absent stores)
    (forgets.locks.find?_eq_of_absent locks) forgets.spares.stores_size
    (fun _ placed => placed.of_spares forgets.spares) forgets.spares.registry

/-- A room opened where no session is live is that of its creator alone. -/
theorem opens (settled : state.Settled) {room : Room} {storeKey lockKey : String}
    (free : ∀ seat ∈ state.live, ∀ key, objectKey .store seat.session.room.names.store = .ok key →
      objectKey .store (RoomNames.ofRoom ns me).store ≠ .ok key)
    (vacant : me ∉ ids (state.entering ++ state.live)) (id : room.id = me)
    (names : room.names = .ofRoom ns me)
    (opens : Session.Opens ⟨me, .creator, room⟩ state.host after storeKey lockKey) :
    Settled { state with host := after, live := ⟨ns, ⟨me, .creator, room⟩⟩ :: state.live } := by
  obtain ⟨freeStores, freeLocks⟩ := settled.names_free free
  have freeStore := freeStores storeKey (names ▸ opens.legalStore)
  have freeLock := freeLocks lockKey (names ▸ opens.legalLock)
  have older : ∀ seat : Seat, seat.Placed state.host → seat.session.room.store ≠ room.store :=
    fun _ placed same => Nat.lt_irrefl _ (opens.store ▸ same ▸ placed.made)
  have kept : ∀ seat : Seat, seat.Placed state.host → seat.Placed after := by
    intro seat placed
    refine ⟨placed.names, opens.rooms placed.isRoom, ?_⟩
    rw [opens.locks _ (Array.getElem?_eq_some_iff.mp placed.unlocked).1]
    exact placed.unlocked
  have still : ∀ seat : Seat, (∃ key other, seat.Named state.host key other) →
      ∃ key other, seat.Named after key other := by
    rintro seat ⟨key, other, named⟩
    refine ⟨key, other, named.legalStore, named.legalLock, ?_, ?_⟩
    · rw [opens.storeNames, if_neg fun same => ?_, named.store]
      have found := named.store
      rw [← same, freeStore] at found
      cases found
    · rw [opens.lockNames, if_neg fun same => ?_, named.lock]
      have found := named.lock
      rw [← same, freeLock] at found
      cases found
  have old : ∀ {key store}, state.host.stores.names.find? key = some store → store ≠ room.store := by
    intro key store found
    obtain ⟨seat, member, -, rfl⟩ := settled.storeNames key store found
    exact older seat (settled.placedLive member)
  refine ⟨settled.timely, ?apart, ?placed, ?named, ?storeNames, ?lockNames, ?distinct, ?members,
    ?sound, ?emptied, fun seat member within => still seat (settled.ahead seat member within)⟩
  case apart => exact settled.nodup_cons ⟨ns, ⟨me, .creator, room⟩⟩ vacant
  case placed =>
    intro seat member
    rcases List.mem_append.mp member with member | member
    · exact kept seat (settled.placed seat (List.mem_append_left _ member))
    · rcases List.mem_cons.mp member with rfl | member
      · exact ⟨by rw [names, id], opens.isRoom, opens.unlocked⟩
      · exact kept seat (settled.placedLive member)
  case named =>
    intro seat member
    rcases List.mem_cons.mp member with rfl | member
    · exact ⟨storeKey, lockKey, opens.legalStore, opens.legalLock,
        by rw [opens.storeNames, if_pos rfl], by rw [opens.lockNames, if_pos rfl]⟩
    · exact still seat (settled.named seat member)
  case storeNames =>
    intro key store found
    rw [opens.storeNames] at found
    split_ifs at found with own
    · cases found
      exact ⟨_, List.mem_cons_self .., own ▸ opens.legalStore, rfl⟩
    · obtain ⟨seat, member, legal⟩ := settled.storeNames key store found
      exact ⟨seat, List.mem_cons_of_mem _ member, legal⟩
  case lockNames =>
    intro key lock found
    rw [opens.lockNames] at found
    split_ifs at found with own
    · exact ⟨_, List.mem_cons_self .., own ▸ opens.legalLock⟩
    · obtain ⟨seat, member, legal⟩ := settled.lockNames key lock found
      exact ⟨seat, List.mem_cons_of_mem _ member, legal⟩
  case distinct =>
    intro first second store one other
    rw [opens.storeNames] at one other
    split_ifs at one other with ownOne ownOther ownOther
    · exact ownOne.symm.trans ownOther
    · cases one
      exact absurd rfl (old other)
    · cases other
      exact absurd rfl (old one)
    · exact settled.distinct first second store one other
  case members =>
    intro seat member
    rcases List.mem_cons.mp member with rfl | member
    · have nobody : inStore state.live room.store = [] :=
        List.filter_eq_nil_iff.mpr fun seat member => by
          simp [older seat (settled.placedLive member)]
      rw [inStore] at nobody
      simp [opens.participants, inStore, nobody, ids]
    · have other := older seat (settled.placedLive member)
      rw [opens.registry _ other]
      simpa [inStore, other.symm] using settled.members seat member
  case sound =>
    intro seat member
    rcases List.mem_cons.mp member with rfl | member
    · exact opens.sound
    · rw [opens.registry _ (older seat (settled.placedLive member))]
      exact settled.sound seat member
  case emptied =>
    intro store member
    obtain ⟨bound, unnamed⟩ := settled.emptied store member
    refine ⟨Nat.lt_of_lt_of_le bound opens.size, fun key found => ?_⟩
    rw [opens.storeNames] at found
    split_ifs at found with own
    · cases found
      exact Nat.lt_irrefl _ (opens.store ▸ bound)
    · exact unnamed key found

end Create

/-- Names that lead to a room lead to one that somebody is live in. -/
theorem neighbour (settled : state.Settled) {storeKey lockKey : String}
    (named : seat.Named state.host storeKey lockKey) :
    ∃ other ∈ state.live, other.session.room.store = seat.session.room.store ∧
      objectKey .store other.session.room.names.store = .ok storeKey := by
  obtain ⟨other, member, legal, same⟩ := settled.storeNames _ _ named.store
  exact ⟨other, member, same, legal⟩

/-- Whoever registers in a room that is still under its names is one more there. -/
theorem registers (settled : state.Settled)
    (vacant : seat.session.me ∉ ids (state.entering ++ state.live))
    (placed : seat.Placed state.host) {storeKey lockKey : String}
    (named : seat.Named state.host storeKey lockKey)
    (registers : seat.session.Registers state.host after) :
    Settled { state with host := after, live := seat :: state.live } := by
  obtain ⟨place, claimed, claims, registry⟩ := registers.registry
  obtain ⟨other, present, same, -⟩ := settled.neighbour named
  have absent : seat.session.me ∉ (state.host.registry seat.session.room.store).participants := by
    intro member
    rw [← same] at member
    have live := settled.participants_live present member
    rw [ids, List.map_append] at vacant
    exact vacant (List.mem_append_right _ live)
  have names : after.stores.names = state.host.stores.names := registers.rooms.names
  have locks : after.locks = state.host.locks := registers.rooms.locks
  have still : ∀ seat : Seat, (∃ key other, seat.Named state.host key other) →
      ∃ key other, seat.Named after key other := by
    rintro seat ⟨key, other, named⟩
    exact ⟨key, other, named.legalStore, named.legalLock, by rw [names, named.store],
      by rw [locks, named.lock]⟩
  have members : (after.registry seat.session.room.store).participants.Perm
      (ids (inStore (seat :: state.live) seat.session.room.store)) := by
    rw [registry, if_pos rfl]
    have company := settled.members other present
    rw [same] at company
    simpa [ids, inStore] using
      (Registry.participants_claim claims absent).trans (company.cons seat.session.me)
  have sound : (after.registry seat.session.room.store).Sound := by
    have company := settled.sound other present
    rw [same] at company
    rw [registry, if_pos rfl]
    exact company.claim claims
  refine ⟨settled.timely, settled.nodup_cons seat vacant, ?placed, ?named, ?storeNames, ?lockNames,
    ?distinct, ?members, ?sound, ?emptied,
    fun seat member within => still seat (settled.ahead seat member within)⟩
  case placed =>
    intro seat member
    rcases List.mem_append.mp member with member | member
    · exact (settled.placed seat (List.mem_append_left _ member)).of_sameRooms registers.rooms
    · rcases List.mem_cons.mp member with rfl | member
      · exact placed.of_sameRooms registers.rooms
      · exact (settled.placedLive member).of_sameRooms registers.rooms
  case named =>
    intro seat member
    rcases List.mem_cons.mp member with rfl | member
    · exact still _ ⟨storeKey, lockKey, named⟩
    · exact still seat (settled.named seat member)
  case storeNames =>
    intro key store found
    rw [names] at found
    obtain ⟨other, member, legal⟩ := settled.storeNames key store found
    exact ⟨other, List.mem_cons_of_mem _ member, legal⟩
  case lockNames =>
    intro key lock found
    rw [locks] at found
    obtain ⟨other, member, legal⟩ := settled.lockNames key lock found
    exact ⟨other, List.mem_cons_of_mem _ member, legal⟩
  case distinct =>
    rw [names]
    exact settled.distinct
  case members =>
    intro other member
    by_cases same : other.session.room.store = seat.session.room.store
    · rw [same]
      exact members
    · rcases List.mem_cons.mp member with rfl | member
      · exact absurd rfl same
      · rw [registry, if_neg same]
        simpa [inStore, Ne.symm same] using settled.members other member
  case sound =>
    intro other member
    by_cases same : other.session.room.store = seat.session.room.store
    · rw [same]
      exact sound
    · rcases List.mem_cons.mp member with rfl | member
      · exact absurd rfl same
      · rw [registry, if_neg same]
        exact settled.sound other member
  case emptied =>
    intro store member
    rw [names, registers.rooms.size]
    exact settled.emptied store member

/-- Attaching finds a room that somebody is live in. -/
theorem attached (settled : state.Settled) {ns : String} (me : ParticipantId) {id : ParticipantId}
    {room : Room}
    (attached : Room.attach ns id state.host = .ok room) :
    Seat.Placed state.host ⟨ns, ⟨me, .joiner, room⟩⟩ ∧
      ∃ storeKey lockKey, Seat.Named state.host ⟨ns, ⟨me, .joiner, room⟩⟩ storeKey lockKey := by
  obtain ⟨store, lock, foundStore, isRoom, foundLock, rfl⟩ := Room.attach_eq_ok_iff.mp attached
  obtain ⟨storeKey, legalStore, foundStore⟩ := Directory.find?_eq_some_iff.mp foundStore
  obtain ⟨lockKey, legalLock, foundLock⟩ := Directory.find?_eq_some_iff.mp foundLock
  obtain ⟨seat, member, legal⟩ := settled.lockNames lockKey lock foundLock
  obtain ⟨_, key, named⟩ := settled.named seat member
  have keys : key = lockKey := Except.ok.inj (named.legalLock.symm.trans legal)
  have same : lock = seat.session.room.lock := by
    rw [← Option.some.injEq, ← foundLock, ← keys, named.lock]
  refine ⟨⟨rfl, isRoom, ?_⟩, storeKey, lockKey, legalStore, legalLock, foundStore, foundLock⟩
  rw [same]
  exact (settled.placedLive member).unlocked

theorem attach (settled : state.Settled)
    (vacant : seat.session.me ∉ ids (state.entering ++ state.live)) (placed : seat.Placed state.host)
    {storeKey lockKey : String} (named : seat.Named state.host storeKey lockKey) :
    Settled { state with entering := seat :: state.entering } where
  timely := settled.timely
  apart := by
    rw [List.cons_append, ids, List.map_cons, List.nodup_cons]
    exact ⟨vacant, settled.apart⟩
  placed other member := by
    rcases List.mem_cons.mp member with rfl | member
    · exact placed
    · exact settled.placed other member
  named := settled.named
  storeNames := settled.storeNames
  lockNames := settled.lockNames
  distinct := settled.distinct
  members := settled.members
  sound := settled.sound
  emptied := settled.emptied
  ahead other member within := by
    rcases List.mem_cons.mp member with rfl | member
    · exact ⟨storeKey, lockKey, named⟩
    · exact settled.ahead other member within

/-- A join that comes to its end is entering no more. -/
theorem erase (settled : state.Settled) (member : seat ∈ state.entering) :
    Settled { state with entering := state.entering.erase seat } ∧
      seat.session.me ∉ ids (state.entering.erase seat ++ state.live) := by
  have split : (ids (state.entering ++ state.live)).Perm
      (seat.session.me :: ids (state.entering.erase seat ++ state.live)) := by
    have perm := (List.perm_cons_erase member).append_right state.live
    simpa [ids] using perm.map (·.session.me)
  have apart := List.nodup_cons.mp (split.nodup_iff.mp settled.apart)
  refine ⟨?_, apart.1⟩
  exact
    { settled with
      apart := apart.2
      placed := fun other among => settled.placed other <| by
        rcases List.mem_append.mp among with among | among
        · exact List.mem_append_left _ (List.mem_of_mem_erase among)
        · exact List.mem_append_right _ among
      ahead := fun other among => settled.ahead other (List.mem_of_mem_erase among) }

end Settled

end Occupancy

end HostChat
