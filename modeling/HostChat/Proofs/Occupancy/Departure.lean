import HostChat.Proofs.Occupancy.Settled

/-! # Leaving a room

A departure takes one session out of the registry of its room. The names of the room stay for those
who are left there, and the last one takes them away; no other room loses a name.
-/

namespace HostChat

variable {σ : Type}

namespace Occupancy

variable {state : Occupancy σ} {after : Host σ} {seat : Seat} {result : Except ChatError Departure}

private theorem ids_inStore_erase (live : List Seat) (member : seat ∈ live) :
    (ids (inStore live seat.session.room.store)).Perm
      (seat.session.me :: ids (inStore (live.erase seat) seat.session.room.store)) := by
  have split := (List.perm_cons_erase member).filter (·.session.room.store = seat.session.room.store)
  simpa [ids, inStore] using split.map (·.session.me)

private theorem ids_inStore_erase_of_ne (live : List Seat) (member : seat ∈ live) {store : Nat}
    (different : seat.session.room.store ≠ store) :
    (ids (inStore live store)).Perm (ids (inStore (live.erase seat) store)) := by
  have split := (List.perm_cons_erase member).filter (·.session.room.store = store)
  simpa [ids, inStore, different] using split.map (·.session.me)

namespace Settled

/-- The registry that a departure leaves behind lists those who are left. -/
theorem released (settled : state.Settled) (member : seat ∈ state.live) :
    ((state.host.registry seat.session.room.store).release seat.session.me).2.participants.Perm
      (ids (inStore (state.live.erase seat) seat.session.room.store)) := by
  have company := (settled.members seat member).trans (ids_inStore_erase state.live member)
  have present : seat.session.me ∈ (state.host.registry seat.session.room.store).participants :=
    (settled.mem_participants member).mpr ⟨seat, member, rfl, rfl⟩
  exact ((Registry.participants_release present).symm.trans company).cons_inv

private theorem released_eq_nil_iff (settled : state.Settled) (member : seat ∈ state.live) :
    ((state.host.registry seat.session.room.store).release seat.session.me).2.participants = [] ↔
      inStore (state.live.erase seat) seat.session.room.store = [] := by
  have perm := settled.released member
  constructor
  · intro empty
    rw [empty] at perm
    exact List.map_eq_nil_iff.mp perm.nil_eq.symm
  · intro empty
    rw [empty] at perm
    exact perm.eq_nil

theorem vacates (settled : state.Settled) (member : seat ∈ state.live)
    (outcome : seat.session.leave state.host = some (result, after)) :
    seat.session.Vacates state.host after :=
  Session.leave_vacates (settled.placedLive member).made outcome

theorem placed_of_vacates {other : Seat} (vacates : seat.session.Vacates state.host after)
    (placed : other.Placed state.host) : other.Placed after where
  names := placed.names
  isRoom := vacates.isRoom placed.isRoom
  unlocked := by
    rw [vacates.locks]
    exact placed.unlocked

/-- What a departure keeps whether or not it is the last one of its room. -/
theorem vacated_members (settled : state.Settled) (member : seat ∈ state.live)
    (vacates : seat.session.Vacates state.host after) {other : Seat}
    (left : other ∈ state.live.erase seat) :
    (after.registry other.session.room.store).participants.Perm
      (ids (inStore (state.live.erase seat) other.session.room.store)) ∧
        (after.registry other.session.room.store).Sound := by
  have present := List.mem_of_mem_erase left
  rw [vacates.registry]
  split_ifs with same
  · rw [same]
    exact ⟨settled.released member, (settled.sound seat member).release _⟩
  · exact ⟨(settled.members other present).trans
      (ids_inStore_erase_of_ne state.live member (Ne.symm same)),
      settled.sound other present⟩

theorem vacated_apart (settled : state.Settled) (seat : Seat) :
    (ids (state.entering ++ state.live.erase seat)).Nodup := by
  have sub : (state.entering ++ state.live.erase seat).Sublist (state.entering ++ state.live) :=
    List.Sublist.append (List.Sublist.refl _) List.erase_sublist
  exact settled.apart.sublist (sub.map _)

theorem vacated_placed (settled : state.Settled) (vacates : seat.session.Vacates state.host after)
    {other : Seat} (left : other ∈ state.entering ++ state.live.erase seat) : other.Placed after := by
  refine placed_of_vacates vacates (settled.placed other ?_)
  rcases List.mem_append.mp left with left | left
  · exact List.mem_append_left _ left
  · exact List.mem_append_right _ (List.mem_of_mem_erase left)

/-- A room that others are still live in keeps its names. -/
theorem leave_remaining (settled : state.Settled) (member : seat ∈ state.live)
    (remaining : inStore (state.live.erase seat) seat.session.room.store ≠ [])
    (outcome : seat.session.leave state.host = some (result, after)) :
    (∃ dropped, result = .ok ⟨dropped, false⟩) ∧
      Settled { state with host := after, live := state.live.erase seat } := by
  have vacates := settled.vacates member outcome
  obtain ⟨answer, names, locks⟩ := Session.leave_of_remaining
    (mt (settled.released_eq_nil_iff member).mp remaining) outcome
  obtain ⟨neighbour, among⟩ := List.exists_mem_of_ne_nil _ remaining
  obtain ⟨left, together⟩ := List.mem_filter.mp among
  have together : neighbour.session.room.store = seat.session.room.store := by simpa using together
  have present := List.mem_of_mem_erase left
  have still : ∀ other : Seat, (∃ storeKey lockKey, other.Named state.host storeKey lockKey) →
      ∃ storeKey lockKey, other.Named after storeKey lockKey := by
    rintro other ⟨storeKey, lockKey, named⟩
    exact ⟨storeKey, lockKey, named.legalStore, named.legalLock, by rw [names, named.store],
      by rw [locks, named.lock]⟩
  -- whatever leads to the room of the one who leaves leads to that of a neighbour
  obtain ⟨storeKey, lockKey, named⟩ := settled.named seat member
  obtain ⟨otherKey, _, namedOther⟩ := settled.named neighbour present
  have sameKey : otherKey = storeKey :=
    settled.distinct _ _ _ namedOther.store (together ▸ named.store)
  rw [sameKey] at namedOther
  have sameLock := (settled.placedLive present).sameLock (settled.placedLive member)
    namedOther.legalStore named.legalStore
  refine ⟨answer, settled.timely, settled.vacated_apart seat,
    fun other => settled.vacated_placed vacates,
    fun other left => still other (settled.named other (List.mem_of_mem_erase left)),
    ?storeNames, ?lockNames, ?distinct, fun other left => (settled.vacated_members member vacates left).1,
    fun other left => (settled.vacated_members member vacates left).2, ?emptied,
    fun other member within => still other (settled.ahead other member within)⟩
  case storeNames =>
    intro key store found
    rw [names] at found
    obtain ⟨other, among, legal, same⟩ := settled.storeNames key store found
    by_cases own : other = seat
    · subst own
      have keys : storeKey = key := Except.ok.inj (named.legalStore.symm.trans legal)
      exact ⟨neighbour, left, keys ▸ namedOther.legalStore, together.trans same⟩
    · exact ⟨other, (List.mem_erase_of_ne own).mpr among, legal, same⟩
  case lockNames =>
    intro key lock found
    rw [locks] at found
    obtain ⟨other, among, legal⟩ := settled.lockNames key lock found
    by_cases own : other = seat
    · subst own
      exact ⟨neighbour, left, sameLock.trans legal⟩
    · exact ⟨other, (List.mem_erase_of_ne own).mpr among, legal⟩
  case distinct =>
    rw [names]
    exact settled.distinct
  case emptied =>
    intro store among
    rw [names, vacates.size]
    exact settled.emptied store among

/-- The last one to leave a room takes its names away, and no others. -/
theorem leave_last (settled : state.Settled) (member : seat ∈ state.live)
    (last : inStore (state.live.erase seat) seat.session.room.store = [])
    (outcome : seat.session.leave state.host = some (result, after)) :
    (∃ dropped, result = .ok ⟨dropped, true⟩) ∧
      Settled { state with
        host := after
        live := state.live.erase seat
        emptied := seat.session.room.store :: state.emptied } := by
  have vacates := settled.vacates member outcome
  have placed := settled.placedLive member
  obtain ⟨storeKey, lockKey, named⟩ := settled.named seat member
  obtain ⟨answer, names, locks⟩ := Session.leave_of_last named.legalStore named.legalLock
    ((settled.released_eq_nil_iff member).mpr last) outcome
  have stores : ∀ key, after.stores.names.find? key =
      if storeKey = key then none else state.host.stores.names.find? key := by
    rw [names]
    exact Table.find?_erase _ storeKey
  have lockFind : ∀ key, after.locks.names.find? key =
      if lockKey = key then none else state.host.locks.names.find? key := by
    rw [locks]
    exact Table.find?_erase _ lockKey
  have elsewhere : ∀ other ∈ state.live.erase seat,
      other.session.room.store ≠ seat.session.room.store := by
    intro other left same
    have among : other ∈ inStore (state.live.erase seat) seat.session.room.store :=
      List.mem_filter.mpr ⟨left, by simp [same]⟩
    rw [last] at among
    exact List.not_mem_nil among
  have still : ∀ other : Seat, other.Placed state.host →
      other.session.room.store ≠ seat.session.room.store →
        (∃ storeKey lockKey, other.Named state.host storeKey lockKey) →
          ∃ storeKey lockKey, other.Named after storeKey lockKey := by
    rintro other placedOther different ⟨key, otherKey, namedOther⟩
    have apart : storeKey ≠ key := by
      rintro rfl
      exact different (Option.some.inj (namedOther.store.symm.trans named.store))
    refine ⟨key, otherKey, namedOther.legalStore, namedOther.legalLock, ?_, ?_⟩
    · rw [stores, if_neg apart, namedOther.store]
    · rw [lockFind, if_neg fun same => ?_, namedOther.lock]
      have legal := placed.sameStore placedOther named.legalLock (same ▸ namedOther.legalLock)
      rw [named.legalStore, namedOther.legalStore] at legal
      exact apart (Except.ok.inj legal)
  refine ⟨answer, settled.timely, settled.vacated_apart seat,
    fun other => settled.vacated_placed vacates, ?named, ?storeNames, ?lockNames, ?distinct,
    fun other left => (settled.vacated_members member vacates left).1,
    fun other left => (settled.vacated_members member vacates left).2, ?emptied, ?ahead⟩
  case named =>
    intro other left
    have present := List.mem_of_mem_erase left
    exact still other (settled.placedLive present) (elsewhere other left) (settled.named other present)
  case storeNames =>
    intro key store found
    rw [stores] at found
    split_ifs at found with own
    obtain ⟨other, among, legal, same⟩ := settled.storeNames key store found
    have different : other ≠ seat := by
      rintro rfl
      exact own (Except.ok.inj (named.legalStore.symm.trans legal))
    exact ⟨other, (List.mem_erase_of_ne different).mpr among, legal, same⟩
  case lockNames =>
    intro key lock found
    rw [lockFind] at found
    split_ifs at found with own
    obtain ⟨other, among, legal⟩ := settled.lockNames key lock found
    have different : other ≠ seat := by
      rintro rfl
      exact own (Except.ok.inj (named.legalLock.symm.trans legal))
    exact ⟨other, (List.mem_erase_of_ne different).mpr among, legal⟩
  case distinct =>
    intro first second store one other
    rw [stores] at one other
    split_ifs at one other
    exact settled.distinct first second store one other
  case emptied =>
    intro store among
    rw [vacates.size]
    refine ⟨?_, fun key found => ?_⟩
    · rcases List.mem_cons.mp among with rfl | among
      · exact placed.made
      · exact (settled.emptied store among).1
    · rw [stores] at found
      split_ifs at found with own
      rcases List.mem_cons.mp among with rfl | among
      · exact own (settled.distinct _ _ _ named.store found)
      · exact (settled.emptied store among).2 key found
  case ahead =>
    intro other among within
    simp only [List.mem_cons, not_or] at within
    exact still other (settled.placed other (List.mem_append_left _ among)) within.1
      (settled.ahead other among within.2)

end Settled

end Occupancy

end HostChat
