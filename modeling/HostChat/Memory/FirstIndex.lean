/-! # The first entry of a table

Free places in a fixed table are handed out from the front.
-/

namespace HostChat

variable {α : Type} {n : Nat}

/-- What is read from a table in which one entry has been written. -/
theorem get_set_eq_ite (entries : Vector α n) (written read : Fin n) (entry : α) :
    (entries.set written entry written.isLt).get read =
      if read = written then entry else entries.get read := by
  refine (Vector.getElem_set written.isLt read.isLt).trans ?_
  by_cases same : read = written
  · rw [if_pos same, if_pos (congrArg Fin.val same.symm)]
  · rw [if_neg same, if_neg fun equal => same (Fin.ext equal.symm)]
    rfl

/-- The least index whose entry passes a test. -/
def firstIndex? (entries : Vector α n) (test : α → Bool) : Option (Fin n) :=
  (List.finRange n).find? fun index => test entries[index]

theorem firstIndex?_eq_none_iff {entries : Vector α n} {test : α → Bool} :
    firstIndex? entries test = none ↔ ∀ index : Fin n, test entries[index] = false := by
  simp [firstIndex?, List.find?_eq_none]

theorem firstIndex?_eq_some_iff {entries : Vector α n} {test : α → Bool} {index : Fin n} :
    firstIndex? entries test = some index ↔
      test entries[index] = true ∧ ∀ earlier < index, test entries[earlier] = false := by
  rw [firstIndex?, List.find?_eq_some_iff_append]
  constructor
  · rintro ⟨found, before, after, split, skipped⟩
    refine ⟨found, fun earlier less => ?_⟩
    have sorted := List.pairwise_lt_finRange n
    have member : earlier ∈ before ++ index :: after := split ▸ List.mem_finRange earlier
    rw [split, List.pairwise_append, List.pairwise_cons] at sorted
    rcases List.mem_append.mp member with member | member
    · simpa using skipped earlier member
    · rcases List.mem_cons.mp member with rfl | member
      · exact absurd less (Fin.lt_irrefl _)
      · exact absurd less (Fin.lt_asymm (sorted.2.1.1 earlier member))
  · rintro ⟨found, skipped⟩
    obtain ⟨before, after, split⟩ := List.append_of_mem (List.mem_finRange index)
    refine ⟨found, before, after, split, fun earlier member => ?_⟩
    have sorted := List.pairwise_lt_finRange n
    rw [split, List.pairwise_append] at sorted
    simpa using skipped earlier (sorted.2.2 earlier member index (by simp))

end HostChat
