import HostChat.Proofs.Answers
import HostChat.Proofs.Memory.Participants
import Mathlib.Data.Finset.Max
import Mathlib.Data.Fintype.Card

/-! # Seating

To those who use it, a registry is a set of participants, each of whom has a place of its own. Whoever
comes is given the least place that nobody has and keeps it, whoever else comes and goes, until it is
released. There are as many places as participants at most, so somebody new is turned down only if
everybody else has one.
-/

namespace HostChat

/-- Those who are there, and where they are. The places of others mean nothing. -/
structure Seating where
  members : Finset ParticipantId
  place : ParticipantId → Fin maxParticipants
  apart : Set.InjOn place members

namespace Seating

variable {seating : Seating} {id other : ParticipantId} {spot vacant : Fin maxParticipants}

def empty : Seating := ⟨∅, fun _ => ⟨0, by decide⟩, by simp⟩

/-- The places that nobody has. -/
def free (seating : Seating) : Finset (Fin maxParticipants) :=
  (seating.members.image seating.place)ᶜ

theorem mem_free : spot ∈ seating.free ↔ ∀ id ∈ seating.members, seating.place id ≠ spot := by
  simp [free]

theorem card_members_le (seating : Seating) : seating.members.card ≤ maxParticipants := by
  have bound := (seating.members.image seating.place).card_le_univ
  rwa [Finset.card_image_of_injOn seating.apart, Fintype.card_fin] at bound

theorem free_nonempty (room : seating.members.card ≠ maxParticipants) : seating.free.Nonempty := by
  rw [free, ← Finset.card_pos, Finset.card_compl, Finset.card_image_of_injOn seating.apart,
    Fintype.card_fin]
  exact Nat.sub_pos_of_lt (lt_of_le_of_ne seating.card_members_le room)

theorem free_eq_empty (full : seating.members.card = maxParticipants) : seating.free = ∅ := by
  rw [free, ← Finset.card_eq_zero, Finset.card_compl, Finset.card_image_of_injOn seating.apart,
    Fintype.card_fin, full, Nat.sub_self]

/-- Somebody new takes a place that is free. -/
def seat (seating : Seating) (id : ParticipantId) (spot : Fin maxParticipants)
    (free : spot ∈ seating.free) : Seating where
  members := insert id seating.members
  place := Function.update seating.place id spot
  apart first one second two same := by
    rw [Finset.coe_insert, Set.mem_insert_iff, Finset.mem_coe] at one two
    simp only [Function.update_apply] at same
    split_ifs at same with left right right
    · rw [left, right]
    · exact absurd same.symm (mem_free.mp free second (two.resolve_left right))
    · exact absurd same (mem_free.mp free first (one.resolve_left left))
    · exact seating.apart (one.resolve_left left) (two.resolve_left right) same

def claim (seating : Seating) (id : ParticipantId) :
    Except RoomError (Fin maxParticipants) × Seating :=
  if id ∈ seating.members then (.ok (seating.place id), seating)
  else if full : seating.members.card = maxParticipants then (.error .roomFull, seating)
  else
    let first := seating.free.min' (free_nonempty full)
    (.ok first, seating.seat id first (seating.free.min'_mem _))

/-- A member goes, and the others stay where they are. -/
def unseat (seating : Seating) (id : ParticipantId) : Seating :=
  ⟨seating.members.erase id, seating.place, seating.apart.mono (by simp)⟩

def release (seating : Seating) (id : ParticipantId) : Option (Fin maxParticipants) × Seating :=
  if id ∈ seating.members then (some (seating.place id), seating.unseat id) else (none, seating)

theorem place_seat (free : spot ∈ seating.free) :
    (seating.seat id spot free).place other = if other = id then spot else seating.place other :=
  Function.update_apply ..

theorem mem_free_seat {free : spot ∈ seating.free} (absent : id ∉ seating.members) :
    vacant ∈ (seating.seat id spot free).free ↔ vacant ≠ spot ∧ vacant ∈ seating.free := by
  have others (other : ParticipantId) (member : other ∈ seating.members) :
      (seating.seat id spot free).place other = seating.place other := by
    rw [place_seat, if_neg (ne_of_mem_of_not_mem member absent)]
  simp only [mem_free]
  constructor
  · intro none
    refine ⟨fun same => none id (Finset.mem_insert_self ..) ?_, fun other member => ?_⟩
    · rw [place_seat, if_pos rfl, same]
    · exact others other member ▸ none other (Finset.mem_insert_of_mem member)
  · rintro ⟨different, none⟩ other member
    rcases Finset.mem_insert.mp member with rfl | old
    · rw [place_seat, if_pos rfl]
      exact different.symm
    · exact others other old ▸ none other old

theorem mem_free_unseat (member : id ∈ seating.members) :
    vacant ∈ (seating.unseat id).free ↔ vacant = seating.place id ∨ vacant ∈ seating.free := by
  simp only [mem_free]
  constructor
  · intro none
    by_cases same : vacant = seating.place id
    · exact .inl same
    · refine .inr fun other old here => ?_
      by_cases own : other = id
      · exact same (own ▸ here.symm)
      · exact none other (Finset.mem_erase.mpr ⟨own, old⟩) here
  · rintro (rfl | none) other kept here
    · obtain ⟨different, old⟩ := Finset.mem_erase.mp kept
      exact different (seating.apart old member here)
    · exact none other (Finset.mem_of_mem_erase kept) here

end Seating

namespace Registry

variable {registry : Registry} {seating : Seating} {id other : ParticipantId}
  {place : Fin maxParticipants}

/-- The members have their own words at their places, and zeros are everywhere else. -/
structure Shows (registry : Registry) (seating : Seating) : Prop where
  taken : ∀ id ∈ seating.members, registry.entries.get (seating.place id) = id.raw
  free : ∀ place ∈ seating.free, registry.entries.get place = 0

namespace Shows

theorem empty : Registry.empty.Shows .empty :=
  ⟨by simp [Seating.empty], fun place _ => Vector.getElem_replicate place.isLt⟩

/-- A word that is a participant's stands at the place of a member. -/
theorem entries_eq_iff (shows : registry.Shows seating) :
    registry.entries.get place = id.raw ↔ id ∈ seating.members ∧ seating.place id = place := by
  constructor
  · intro own
    by_cases free : place ∈ seating.free
    · rw [shows.free place free] at own
      exact absurd own (Int32.ne_of_lt id.raw_pos)
    · obtain ⟨other, member, rfl⟩ : ∃ other ∈ seating.members, seating.place other = place := by
        simpa [Seating.mem_free] using free
      rw [shows.taken other member] at own
      obtain rfl := ParticipantId.ext_raw own
      exact ⟨member, rfl⟩
  · rintro ⟨member, rfl⟩
    exact shows.taken id member

theorem position_eq (shows : registry.Shows seating) (id : ParticipantId) :
    registry.position id = if id ∈ seating.members then some (seating.place id) else none := by
  split_ifs with member
  · refine firstIndex?_eq_some_iff.mpr ⟨beq_iff_eq.mpr (shows.taken id member), fun earlier less => ?_⟩
    refine beq_eq_false_iff_ne.mpr fun own => ?_
    exact absurd (shows.entries_eq_iff.mp own).2 (ne_of_gt less)
  · refine firstIndex?_eq_none_iff.mpr fun place => beq_eq_false_iff_ne.mpr fun own => ?_
    exact member (shows.entries_eq_iff.mp own).1

private theorem entries_eq_zero_iff (shows : registry.Shows seating) :
    registry.entries.get place = 0 ↔ place ∈ seating.free := by
  refine ⟨fun zero => Seating.mem_free.mpr ?_, shows.free place⟩
  rintro id member rfl
  rw [shows.taken id member] at zero
  exact absurd zero.symm (Int32.ne_of_lt id.raw_pos)

private theorem firstIndex?_zero (shows : registry.Shows seating)
    (room : seating.members.card ≠ maxParticipants) :
    firstIndex? registry.entries (· == 0) =
      some (seating.free.min' (Seating.free_nonempty room)) := by
  have zero := shows.free _ (seating.free.min'_mem (Seating.free_nonempty room))
  refine firstIndex?_eq_some_iff.mpr ⟨beq_iff_eq.mpr zero, fun earlier less => ?_⟩
  refine beq_eq_false_iff_ne.mpr fun other => ?_
  have member : earlier ∈ seating.free := shows.entries_eq_zero_iff.mp other
  exact absurd (seating.free.min'_le earlier member) (not_le.mpr less)

private theorem firstIndex?_zero_of_full (shows : registry.Shows seating)
    (full : seating.members.card = maxParticipants) :
    firstIndex? registry.entries (· == 0) = none := by
  refine firstIndex?_eq_none_iff.mpr fun place => beq_eq_false_iff_ne.mpr fun zero => ?_
  have member : place ∈ seating.free := shows.entries_eq_zero_iff.mp zero
  rw [Seating.free_eq_empty full] at member
  exact Finset.notMem_empty place member

theorem seat (shows : registry.Shows seating) (absent : id ∉ seating.members)
    (free : place ∈ seating.free) :
    (⟨registry.entries.set place id.raw place.isLt⟩ : Registry).Shows
      (seating.seat id place free) where
  taken other member := by
    rw [get_set_eq_ite, Seating.place_seat]
    by_cases same : other = id
    · rw [if_pos same, if_pos rfl, same]
    · have old : other ∈ seating.members := (Finset.mem_insert.mp member).resolve_left same
      rw [if_neg same, if_neg (Seating.mem_free.mp free other old)]
      exact shows.taken other old
  free spot vacant := by
    obtain ⟨different, old⟩ := (Seating.mem_free_seat absent).mp vacant
    rw [get_set_eq_ite, if_neg different]
    exact shows.free spot old

theorem unseat (shows : registry.Shows seating) (member : id ∈ seating.members) :
    (⟨registry.entries.set (seating.place id) 0⟩ : Registry).Shows (seating.unseat id) where
  taken other kept := by
    obtain ⟨different, old⟩ := Finset.mem_erase.mp kept
    have apart : seating.place other ≠ seating.place id := fun same =>
      different (seating.apart old member same)
    exact (get_set_eq_ite ..).trans ((if_neg apart).trans (shows.taken other old))
  free spot vacant := by
    rw [get_set_eq_ite]
    split_ifs with same
    · rfl
    · exact shows.free spot ((Seating.mem_free_unseat member).mp vacant |>.resolve_left same)

/-- The list of participants goes through the places. -/
theorem mem_participants_iff (shows : registry.Shows seating) :
    id ∈ registry.participants ↔ id ∈ seating.members := by
  rw [← contains_iff, contains, shows.position_eq]
  split_ifs with member <;> simp [member]

theorem pairwise_participants (shows : registry.Shows seating) :
    registry.participants.Pairwise (seating.place · < seating.place ·) := by
  rw [participants, List.pairwise_filterMap, List.pairwise_iff_getElem]
  intro index later inside bound less first own second other
  have here (index : Nat) (inside : index < registry.entries.toList.length) (id : ParticipantId)
      (own : ParticipantId.ofRaw? registry.entries.toList[index] = some id) :
      (seating.place id).val = index := by
    have bound : index < maxParticipants := by simpa using inside
    have word := ParticipantId.ofRaw?_eq_some_iff.mp own
    rw [Vector.getElem_toList] at word
    have sits : id ∈ seating.members ∧ seating.place id = ⟨index, bound⟩ :=
      shows.entries_eq_iff.mp word
    exact congrArg Fin.val sits.2
  rw [Fin.lt_def, here index inside first own, here later bound second other]
  exact less

end Shows

/-- What is asked of a registry. -/
inductive Operation where
  | claim (id : ParticipantId)
  | release (id : ParticipantId)
deriving DecidableEq

inductive Answer where
  | claimed (result : Except RoomError (Fin maxParticipants))
  | released (place : Option (Fin maxParticipants))
deriving DecidableEq

def perform (registry : Registry) : Operation → Answer × Registry
  | .claim id =>
      match registry.claim id with
      | .ok (place, claimed) => (.claimed (.ok place), claimed)
      | .error error => (.claimed (.error error), registry)
  | .release id =>
      let (place, released) := registry.release id
      (.released place, released)

end Registry

def Seating.perform (seating : Seating) : Registry.Operation → Registry.Answer × Seating
  | .claim id =>
      let (result, claimed) := seating.claim id
      (.claimed result, claimed)
  | .release id =>
      let (place, released) := seating.release id
      (.released place, released)

/-- A member keeps its place until it is released. -/
theorem Seating.perform_keeps {seating : Seating} {id : ParticipantId} {operation : Registry.Operation}
    (member : id ∈ seating.members) (stays : operation ≠ .release id) :
    id ∈ (seating.perform operation).2.members ∧
      (seating.perform operation).2.place id = seating.place id := by
  cases operation with
  | claim other =>
    simp only [perform, claim]
    split_ifs with old full
    · exact ⟨member, rfl⟩
    · exact ⟨member, rfl⟩
    · refine ⟨Finset.mem_insert_of_mem member, ?_⟩
      rw [place_seat, if_neg (ne_of_mem_of_not_mem member old)]
  | release other =>
    simp only [perform, release]
    split_ifs with old
    · exact ⟨Finset.mem_erase.mpr ⟨fun same => stays (same ▸ rfl), member⟩, rfl⟩
    · exact ⟨member, rfl⟩

namespace Registry

variable {registry : Registry} {seating : Seating} {id other : ParticipantId}
  {place : Fin maxParticipants}

theorem Shows.perform (shows : registry.Shows seating) (operation : Operation) :
    (registry.perform operation).1 = (seating.perform operation).1 ∧
      (registry.perform operation).2.Shows (seating.perform operation).2 := by
  cases operation with
  | claim id =>
    simp only [Registry.perform, Seating.perform, claim, Seating.claim, shows.position_eq]
    by_cases member : id ∈ seating.members
    · simp only [if_pos member]
      exact ⟨trivial, shows⟩
    by_cases full : seating.members.card = maxParticipants
    · simp only [if_neg member, dif_pos full, shows.firstIndex?_zero_of_full full]
      exact ⟨trivial, shows⟩
    · simp only [if_neg member, dif_neg full, shows.firstIndex?_zero full]
      exact ⟨trivial, shows.seat member (seating.free.min'_mem _)⟩
  | release id =>
    simp only [Registry.perform, Seating.perform, release, Seating.release, shows.position_eq]
    by_cases member : id ∈ seating.members
    · simp only [if_pos member]
      exact ⟨trivial, shows.unseat member⟩
    · simp only [if_neg member]
      exact ⟨trivial, shows⟩

/-- A registry tells who is there, and where, as a seating does. -/
structure Tells (registry : Registry) (seating : Seating) : Prop where
  position : ∀ id,
    registry.position id = if id ∈ seating.members then some (seating.place id) else none
  contains : ∀ id, registry.contains id = true ↔ id ∈ seating.members
  listed : ∀ id, id ∈ registry.participants ↔ id ∈ seating.members
  sorted : registry.participants.Pairwise (seating.place · < seating.place ·)
  size : registry.size = seating.members.card
  isEmpty : registry.isEmpty = true ↔ seating.members = ∅

theorem Shows.tells (shows : registry.Shows seating) : registry.Tells seating where
  position := shows.position_eq
  contains _ := contains_iff.trans shows.mem_participants_iff
  listed _ := shows.mem_participants_iff
  sorted := shows.pairwise_participants
  size := by
    have nodup : registry.participants.Nodup :=
      shows.pairwise_participants.imp fun less same => (same ▸ less).false
    rw [Registry.size, ← List.toFinset_card_of_nodup nodup]
    exact congrArg Finset.card (Finset.ext fun id => List.mem_toFinset.trans shows.mem_participants_iff)
  isEmpty := by
    rw [isEmpty_iff, List.eq_nil_iff_forall_not_mem, Finset.eq_empty_iff_forall_notMem]
    exact forall_congr' fun id => not_congr shows.mem_participants_iff

theorem Shows.claim_eq (shows : registry.Shows seating) (member : id ∈ seating.members) :
    registry.claim id = .ok (seating.place id, registry) := by
  simp only [claim, shows.position_eq, if_pos member]

theorem Shows.claim_eq_error_iff (shows : registry.Shows seating) :
    registry.claim id = .error .roomFull ↔
      id ∉ seating.members ∧ seating.members.card = maxParticipants := by
  by_cases member : id ∈ seating.members
  · rw [shows.claim_eq member]
    exact ⟨nofun, fun full => absurd member full.1⟩
  simp only [claim, shows.position_eq, if_neg member]
  by_cases full : seating.members.card = maxParticipants
  · simp [shows.firstIndex?_zero_of_full full, member, full]
  · simp [shows.firstIndex?_zero full, full]

theorem Shows.entries_release (shows : registry.Shows seating) (place : Fin maxParticipants) :
    (registry.release id).2.entries.get place =
      if id ∈ seating.members ∧ place = seating.place id then 0 else registry.entries.get place := by
  simp only [release, shows.position_eq]
  by_cases member : id ∈ seating.members
  · simp only [member, if_true, true_and]
    exact get_set_eq_ite ..
  · simp only [member, if_false, false_and]

theorem Shows.stays (shows : registry.Shows seating) (here : registry.position id = some place)
    {later : List Operation} (stays : .release id ∉ later) :
    (respond Registry.perform registry later).2.position id = some place := by
  rw [shows.position_eq, ite_eq_iff] at here
  obtain ⟨member, sits⟩ := here.resolve_right fun none => nomatch none.2
  have kept : ∃ seating : Seating, (respond Registry.perform registry later).2.Shows seating ∧
      id ∈ seating.members ∧ some (seating.place id) = some place := by
    refine respond_invariant (fun registry : Registry => ∃ seating : Seating, registry.Shows seating ∧
      id ∈ seating.members ∧ some (seating.place id) = some place) ?_ ⟨seating, shows, member, sits⟩
    rintro registry operation asked ⟨seating, shows, member, sits⟩
    obtain ⟨still, same⟩ := seating.perform_keeps member fun same => stays (same ▸ asked)
    exact ⟨_, (shows.perform operation).2, still, same ▸ sits⟩
  obtain ⟨seating, shows, member, sits⟩ := kept
  rw [shows.position_eq, if_pos member, sits]

/-- A registry answers whatever is asked of it as the set of its participants does. It turns down
nobody but those that are new to a full room, frees no place but that of the released, and nobody
loses a place to others. -/
theorem follows_seating {operations : List Operation} {answers : List Answer} {registry : Registry}
    (ran : respond perform empty operations = (answers, registry)) :
    ∃ seating, respond Seating.perform .empty operations = (answers, seating) ∧
      registry.Shows seating ∧ registry.Tells seating ∧
      (∀ id, registry.claim id = .error .roomFull ↔
        id ∉ seating.members ∧ seating.members.card = maxParticipants) ∧
      (∀ id ∈ seating.members, registry.claim id = .ok (seating.place id, registry)) ∧
      (∀ id (place : Fin maxParticipants), (registry.release id).2.entries.get place =
        if id ∈ seating.members ∧ place = seating.place id then 0 else registry.entries.get place) ∧
      ∀ id place, registry.position id = some place → ∀ later, .release id ∉ later →
        (respond perform registry later).2.position id = some place := by
  obtain ⟨alike, shows⟩ := respond_simulates Shows (fun _ _ operation shows => shows.perform operation)
    .empty operations
  rw [ran] at alike shows
  exact ⟨_, Prod.ext alike.symm rfl, shows, shows.tells, fun _ => shows.claim_eq_error_iff,
    fun _ => shows.claim_eq, fun _ => shows.entries_release, fun _ _ here _ => shows.stays here⟩

/-- The second of three goes, and comes again after the first has gone. -/
def arrivals : List Operation :=
  [.claim anna, .claim bert, .claim cleo, .release bert, .release bert, .claim cleo, .release anna,
    .claim bert]

def place0 : Fin maxParticipants := ⟨0, by decide⟩

def place1 : Fin maxParticipants := ⟨1, by decide⟩

def place2 : Fin maxParticipants := ⟨2, by decide⟩

/-- bert comes back to the place that anna had, before cleo's, and keeps it when cleo goes. -/
theorem follows_seating_into_hole :
    ∃ (registry : Registry) (seating : Seating),
      respond perform empty arrivals = ([.claimed (.ok place0), .claimed (.ok place1),
        .claimed (.ok place2), .released (some place1), .released none, .claimed (.ok place2),
        .released (some place0), .claimed (.ok place0)], registry) ∧
      registry.participants = [bert, cleo] ∧ registry.Shows seating ∧ seating.members.card = 2 ∧
      (respond perform registry [.release cleo, .claim anna]).2.position bert = some place0 := by
  have answers : (respond perform empty arrivals).1 = [.claimed (.ok place0), .claimed (.ok place1),
      .claimed (.ok place2), .released (some place1), .released none, .claimed (.ok place2),
      .released (some place0), .claimed (.ok place0)] := by decide +kernel
  have listed : (respond perform empty arrivals).2.participants = [bert, cleo] := by decide +kernel
  have here : (respond perform empty arrivals).2.position bert = some place0 := by decide +kernel
  generalize ran : respond perform empty arrivals = outcome at answers listed here
  obtain ⟨_, registry⟩ := outcome
  subst answers
  obtain ⟨seating, -, shows, tells, -, -, -, stays⟩ := follows_seating ran
  refine ⟨registry, seating, rfl, listed, shows, ?_, stays bert place0 here _ (by decide)⟩
  rw [← tells.size, size, listed]
  rfl

end Registry

end HostChat
