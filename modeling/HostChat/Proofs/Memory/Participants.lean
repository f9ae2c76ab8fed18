import HostChat.Memory.Registry
import HostChat.Proofs.Participant
import Mathlib.Data.List.Nodup
import Mathlib.Data.List.Perm.Basic

/-! # The participants in a registry

A registry is seen through the list of its participants. Claiming a place adds one participant to
the list and releasing it takes one away; a registry without negative words is full exactly when it
has as many participants as places.
-/

namespace HostChat

namespace Registry

variable {registry : Registry} {id other : ParticipantId} {place : Fin maxParticipants}

theorem mem_participants :
    id ∈ registry.participants ↔
      ∃ place : Fin maxParticipants, registry.entries[place]? = some id.raw := by
  simp only [participants, List.mem_filterMap, ParticipantId.ofRaw?_eq_some_iff, exists_eq_right,
    Vector.mem_toList_iff, Vector.mem_iff_getElem]
  constructor
  · rintro ⟨index, bound, same⟩
    exact ⟨⟨index, bound⟩, Vector.getElem?_eq_some_iff.mpr ⟨bound, same⟩⟩
  · rintro ⟨place, same⟩
    exact ⟨place, place.isLt, by simpa using same⟩

@[simp] theorem participants_empty : empty.participants = [] := by
  simp [participants, empty]

theorem participants_length_le (registry : Registry) :
    registry.participants.length ≤ maxParticipants := by
  have bound := List.length_filterMap_le ParticipantId.ofRaw? registry.entries.toList
  simpa [participants] using bound

theorem position_eq_some (found : registry.position id = some place) :
    registry.entries[place]? = some id.raw := by
  simpa using (firstIndex?_eq_some_iff.mp found).1

theorem position_eq_none_iff : registry.position id = none ↔ id ∉ registry.participants := by
  simp [position, firstIndex?_eq_none_iff, mem_participants]

theorem contains_iff : registry.contains id = true ↔ id ∈ registry.participants := by
  rw [contains, Option.isSome_iff_ne_none, ne_eq, position_eq_none_iff, not_not]

theorem isEmpty_iff : registry.isEmpty = true ↔ registry.participants = [] := by
  simp [isEmpty]

/-- An id put into a free place is one more participant. -/
private theorem participants_set (registry : Registry) (place : Fin maxParticipants)
    (id : ParticipantId) (free : registry.entries[place]? = some 0) :
    (⟨registry.entries.set place id.raw place.isLt⟩ : Registry).participants.Perm
      (id :: registry.participants) := by
  have bound : place.val < registry.entries.toList.length := by simp
  have taken := (List.set_perm_cons_eraseIdx bound id.raw).filterMap ParticipantId.ofRaw?
  have before := (List.getElem_cons_eraseIdx_perm bound).filterMap ParticipantId.ofRaw?
  have zero : registry.entries.toList[place.val] = 0 := by simpa using free
  rw [List.filterMap_cons, ParticipantId.ofRaw?_raw] at taken
  rw [List.filterMap_cons, zero, ParticipantId.ofRaw?_zero] at before
  simp only [participants, Vector.toList_set]
  exact taken.trans (before.cons id)

/-- A participant that claims a place again keeps the one it has. -/
theorem claim_of_mem (member : id ∈ registry.participants) :
    ∃ place, registry.claim id = .ok (place, registry) := by
  have present : registry.position id ≠ none := fun absent =>
    position_eq_none_iff.mp absent member
  obtain ⟨place, found⟩ := Option.ne_none_iff_exists'.mp present
  exact ⟨place, by simp [claim, found]⟩

private theorem claimed_entries {claimed : Registry}
    (success : registry.claim id = .ok (place, claimed)) (absent : id ∉ registry.participants) :
    registry.entries[place]? = some 0 ∧
      claimed = ⟨registry.entries.set place id.raw place.isLt⟩ := by
  simp only [claim, position_eq_none_iff.mpr absent] at success
  cases found : firstIndex? registry.entries (· == 0) with
  | none =>
    rw [found] at success
    cases success
  | some index =>
    rw [found] at success
    cases success
    exact ⟨by simpa using (firstIndex?_eq_some_iff.mp found).1, rfl⟩

theorem participants_claim {claimed : Registry} (success : registry.claim id = .ok (place, claimed))
    (absent : id ∉ registry.participants) :
    claimed.participants.Perm (id :: registry.participants) := by
  obtain ⟨free, rfl⟩ := claimed_entries success absent
  exact participants_set registry place id free

theorem mem_participants_claim {claimed : Registry}
    (success : registry.claim id = .ok (place, claimed)) :
    other ∈ claimed.participants ↔ other = id ∨ other ∈ registry.participants := by
  by_cases member : id ∈ registry.participants
  · obtain ⟨place, same⟩ := claim_of_mem member
    rw [same] at success
    cases success
    exact ⟨Or.inr, fun either => either.elim (fun equal => equal ▸ member) fun old => old⟩
  · rw [(participants_claim success member).mem_iff, List.mem_cons]

theorem release_of_notMem (absent : id ∉ registry.participants) :
    (registry.release id).2 = registry := by
  simp [release, position_eq_none_iff.mpr absent]

theorem participants_release (member : id ∈ registry.participants) :
    registry.participants.Perm (id :: (registry.release id).2.participants) := by
  have present : registry.position id ≠ none := fun absent =>
    position_eq_none_iff.mp absent member
  obtain ⟨place, found⟩ := Option.ne_none_iff_exists'.mp present
  have same : registry.entries[place] = id.raw := by simpa using position_eq_some found
  have restored : (registry.entries.set place 0).set place id.raw = registry.entries := by
    rw [Vector.set_set]
    exact (congrArg (registry.entries.set place ·) same.symm).trans (Vector.set_getElem_self ..)
  have back := participants_set ⟨registry.entries.set place 0⟩ place id (by simp)
  simp only [restored] at back
  simpa only [release, found] using back

/-- What the operations keep: every word is zero or a participant, and nobody has two places. -/
structure Sound (registry : Registry) : Prop where
  proper : ∀ raw ∈ registry.entries.toList, raw = 0 ∨ (ParticipantId.ofRaw? raw).isSome
  nodup : registry.participants.Nodup

theorem Sound.empty : Registry.empty.Sound where
  proper := by simp [Registry.empty]
  nodup := by simp

theorem Sound.claim {claimed : Registry} (sound : registry.Sound)
    (success : registry.claim id = .ok (place, claimed)) : claimed.Sound := by
  by_cases member : id ∈ registry.participants
  · obtain ⟨kept, same⟩ := claim_of_mem member
    rw [same] at success
    cases success
    exact sound
  · refine ⟨fun raw found => ?_, ?_⟩
    · obtain ⟨-, rfl⟩ := claimed_entries success member
      rw [Vector.toList_set] at found
      rcases List.mem_or_eq_of_mem_set found with old | rfl
      · exact sound.proper raw old
      · simp
    · rw [(participants_claim success member).nodup_iff, List.nodup_cons]
      exact ⟨member, sound.nodup⟩

theorem Sound.release (sound : registry.Sound) (id : ParticipantId) :
    (registry.release id).2.Sound := by
  cases found : registry.position id with
  | none => simpa only [Registry.release, found] using sound
  | some place =>
    have member : id ∈ registry.participants := mem_participants.mpr ⟨place, position_eq_some found⟩
    refine ⟨fun raw present => ?_, ?_⟩
    · simp only [Registry.release, found, Vector.toList_set] at present
      rcases List.mem_or_eq_of_mem_set present with old | rfl
      · exact sound.proper raw old
      · exact .inl rfl
    · have split := (participants_release member).nodup_iff.mp sound.nodup
      exact (List.nodup_cons.mp split).2

theorem mem_release_iff (apart : registry.participants.Nodup) :
    other ∈ (registry.release id).2.participants ↔ other ∈ registry.participants ∧ other ≠ id := by
  by_cases member : id ∈ registry.participants
  · have split := participants_release member
    have unique := (List.nodup_cons.mp (split.nodup_iff.mp apart)).1
    rw [split.mem_iff, List.mem_cons]
    constructor
    · intro kept
      exact ⟨.inr kept, fun same => unique (same ▸ kept)⟩
    · rintro ⟨rfl | kept, different⟩
      · exact absurd rfl different
      · exact kept
  · rw [release_of_notMem member]
    exact ⟨fun kept => ⟨kept, fun same => member (same ▸ kept)⟩, And.left⟩

theorem Sound.mem_release (sound : registry.Sound) :
    other ∈ (registry.release id).2.participants ↔ other ∈ registry.participants ∧ other ≠ id :=
  mem_release_iff sound.nodup

/-- A registry turns somebody down only if all its places are taken. -/
theorem claim_full (absent : id ∉ registry.participants)
    (full : registry.participants.length = maxParticipants) :
    registry.claim id = .error .roomFull := by
  have taken : ∀ raw ∈ registry.entries.toList, (ParticipantId.ofRaw? raw).isSome := by
    apply List.filterMap_length_eq_length.mp
    simpa [participants] using full
  have none : firstIndex? registry.entries (· == 0) = none := by
    rw [firstIndex?_eq_none_iff]
    intro index
    have some := taken registry.entries[index] (by simp)
    simp only [beq_eq_false_iff_ne]
    intro zero
    rw [zero, ParticipantId.ofRaw?_zero] at some
    cases some
  simp [Registry.claim, position_eq_none_iff.mpr absent, none]

theorem Sound.claim_of_room (sound : registry.Sound) (id : ParticipantId)
    (room : registry.participants.length < maxParticipants) :
    ∃ place claimed, registry.claim id = .ok (place, claimed) := by
  by_cases member : id ∈ registry.participants
  · obtain ⟨place, same⟩ := claim_of_mem member
    exact ⟨place, registry, same⟩
  · have some : ∃ raw ∈ registry.entries.toList, raw = 0 := by
      by_contra nowhere
      have taken : ∀ raw ∈ registry.entries.toList, (ParticipantId.ofRaw? raw).isSome := by
        intro raw found
        exact (sound.proper raw found).resolve_left fun zero => nowhere ⟨raw, found, zero⟩
      have full := List.filterMap_length_eq_length.mpr taken
      simp only [participants, Vector.length_toList] at room full
      omega
    obtain ⟨raw, found, rfl⟩ := some
    obtain ⟨index, bound, zero⟩ := Vector.mem_iff_getElem.mp (Vector.mem_toList_iff.mp found)
    have present : firstIndex? registry.entries (· == 0) ≠ none := by
      rw [ne_eq, firstIndex?_eq_none_iff]
      intro all
      have wrong := all ⟨index, bound⟩
      simp [zero] at wrong
    obtain ⟨place, first⟩ := Option.ne_none_iff_exists'.mp present
    exact ⟨place, ⟨registry.entries.set place id.raw⟩, by
      simp [Registry.claim, position_eq_none_iff.mpr member, first]⟩

end Registry

end HostChat
