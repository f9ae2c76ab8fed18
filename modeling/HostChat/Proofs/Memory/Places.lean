import HostChat.Proofs.Memory.Participants

/-! # The places that registries give out

A registry gives a participant its own place, or the first free one if it has none. It turns a
participant down if there is neither, and never changes an entry of somebody else.
-/

namespace HostChat

namespace Registry

variable {registry claimed : Registry} {id : ParticipantId} {place other : Fin maxParticipants}

/-- The place that a participant gets. -/
inductive Seats (registry : Registry) (id : ParticipantId) (place : Fin maxParticipants) : Prop where
  | own (own : registry.entries.get place = id.raw)
      (first : ∀ other < place, registry.entries.get other ≠ id.raw)
  | new (absent : id ∉ registry.participants) (free : registry.entries.get place = 0)
      (first : ∀ other < place, registry.entries.get other ≠ 0)

/-- The registry with a participant in a place. -/
def put (registry : Registry) (place : Fin maxParticipants) (id : ParticipantId) : Registry :=
  ⟨registry.entries.set place id.raw place.isLt⟩

theorem entries_put (registry : Registry) (place other : Fin maxParticipants) (id : ParticipantId) :
    (registry.put place id).entries.get other =
      if other = place then id.raw else registry.entries.get other :=
  get_set_eq_ite ..

theorem position_eq_some_iff : registry.position id = some place ↔
    registry.entries.get place = id.raw ∧
      ∀ other < place, registry.entries.get other ≠ id.raw := by
  rw [position, firstIndex?_eq_some_iff]
  simp only [beq_iff_eq, beq_eq_false_iff_ne]
  rfl

theorem firstFree_eq_some_iff : firstIndex? registry.entries (· == 0) = some place ↔
    registry.entries.get place = 0 ∧ ∀ other < place, registry.entries.get other ≠ 0 := by
  rw [firstIndex?_eq_some_iff]
  simp only [beq_iff_eq, beq_eq_false_iff_ne]
  rfl

theorem claim_of_seats (seats : registry.Seats id place) :
    registry.claim id = .ok (place, registry.put place id) := by
  cases seats with
  | own own first =>
    rw [claim, position_eq_some_iff.mpr ⟨own, first⟩, put, ← own]
    exact congrArg (fun entries => Except.ok (place, Registry.mk entries))
      (Vector.set_getElem_self place.isLt).symm
  | new absent free first =>
    rw [claim, position_eq_none_iff.mpr absent, firstFree_eq_some_iff.mpr ⟨free, first⟩]
    rfl

theorem claim_of_full (absent : id ∉ registry.participants)
    (full : ∀ place, registry.entries.get place ≠ 0) : registry.claim id = .error .roomFull := by
  have nothing : firstIndex? registry.entries (· == 0) = none := by
    rw [firstIndex?_eq_none_iff]
    intro place
    exact beq_eq_false_iff_ne.mpr (full place)
  rw [claim, position_eq_none_iff.mpr absent, nothing]

theorem mem_of_get (own : registry.entries.get place = id.raw) : id ∈ registry.participants :=
  mem_participants.mpr ⟨place, Vector.getElem?_eq_some_iff.mpr ⟨place.isLt, own⟩⟩

/-- Whoever is listed has a place to get, and so has anybody while an entry is free. -/
theorem exists_seats_iff : (∃ place, registry.Seats id place) ↔
    id ∈ registry.participants ∨ ∃ place, registry.entries.get place = 0 := by
  constructor
  · rintro ⟨place, ⟨own, -⟩ | ⟨-, free, -⟩⟩
    · exact .inl (mem_of_get own)
    · exact .inr ⟨place, free⟩
  · intro either
    cases found : registry.position id with
    | some place =>
      obtain ⟨own, first⟩ := position_eq_some_iff.mp found
      exact ⟨place, .own own first⟩
    | none =>
      have absent := position_eq_none_iff.mp found
      cases new : firstIndex? registry.entries (· == 0) with
      | some place =>
        obtain ⟨free, first⟩ := firstFree_eq_some_iff.mp new
        exact ⟨place, .new absent free first⟩
      | none =>
        obtain member | ⟨place, free⟩ := either
        · exact absurd member absent
        · have taken := firstIndex?_eq_none_iff.mp new place
          exact absurd free (beq_eq_false_iff_ne.mp taken)

/-- A claim gives the place that there is to get. -/
theorem claim_eq_ok_iff : registry.claim id = .ok (place, claimed) ↔
    registry.Seats id place ∧ claimed = registry.put place id := by
  constructor
  · intro success
    by_cases seated : ∃ place, registry.Seats id place
    · obtain ⟨own, seats⟩ := seated
      rw [claim_of_seats seats] at success
      cases success
      exact ⟨seats, rfl⟩
    · rw [exists_seats_iff, not_or, not_exists] at seated
      rw [claim_of_full seated.1 seated.2] at success
      cases success
  · rintro ⟨seats, rfl⟩
    exact claim_of_seats seats

end Registry

end HostChat
