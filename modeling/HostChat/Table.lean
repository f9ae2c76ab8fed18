/-! # Tables

A finite map as a list of keys with their values. A new entry goes to the front and takes the place
of an older one under its key.
-/

namespace HostChat

structure Table (κ ν : Type) where
  entries : List (κ × ν)
deriving DecidableEq, Repr

namespace Table

variable {κ ν : Type} [DecidableEq κ]

def empty : Table κ ν := ⟨[]⟩

def find? (table : Table κ ν) (key : κ) : Option ν :=
  (table.entries.find? (·.1 = key)).map (·.2)

def erase (table : Table κ ν) (key : κ) : Table κ ν :=
  ⟨table.entries.filter (·.1 ≠ key)⟩

def insert (table : Table κ ν) (key : κ) (value : ν) : Table κ ν :=
  ⟨(key, value) :: (table.erase key).entries⟩

@[simp] theorem find?_empty (key : κ) : (empty : Table κ ν).find? key = none := rfl

theorem find?_erase (table : Table κ ν) (removed key : κ) :
    (table.erase removed).find? key = if removed = key then none else table.find? key := by
  simp only [find?, erase, List.find?_filter]
  split
  next same =>
    subst same
    rw [Option.map_eq_none_iff, List.find?_eq_none]
    intro entry _ found
    simp at found
  next other =>
    congr 2
    funext entry
    by_cases found : entry.1 = key
    · simp [found, Ne.symm other]
    · simp [found]

theorem find?_insert (table : Table κ ν) (added key : κ) (value : ν) :
    (table.insert added value).find? key = if added = key then some value else table.find? key := by
  by_cases same : added = key
  · simp [find?, insert, same]
  · have rest := find?_erase table added key
    simp only [find?, insert, List.find?_cons, same, decide_false, if_false] at rest ⊢
    exact rest

end Table

end HostChat
