import HostChat.Host.Directory
import Mathlib.Tactic.SplitIfs

/-! # What a directory leads to

Opening follows a name, making an object gives a free name to a new number, and removing a name
leaves all objects and all other names as they are.
-/

namespace HostChat

namespace Directory

variable {α : Type} {directory changed : Directory α} {kind : ObjectKind} {name : String}
  {number : Nat} {object : α}

theorem find?_eq_some_iff :
    directory.find? kind name = some number ↔
      ∃ key, objectKey kind name = .ok key ∧ directory.names.find? key = some number := by
  cases legal : objectKey kind name <;> simp [find?, legal]

theorem openObject_eq_ok_iff :
    directory.openObject kind name = .ok number ↔ directory.find? kind name = some number := by
  cases legal : objectKey kind name with
  | error fault => simp [openObject, find?, legal]
  | ok key => cases found : directory.names.find? key <;> simp [openObject, find?, legal, found]

theorem create_eq_ok (success : directory.create kind name object = .ok (number, changed)) :
    ∃ key, objectKey kind name = .ok key ∧ directory.names.find? key = none ∧
      number = directory.objects.size ∧
        changed = ⟨directory.objects.push object, directory.names.insert key number⟩ := by
  simp only [create] at success
  cases legal : objectKey kind name with
  | error fault =>
    rw [legal] at success
    cases success
  | ok key =>
    cases found : directory.names.find? key with
    | some other => simp [legal, found] at success
    | none =>
      simp only [legal, found] at success
      cases success
      exact ⟨key, rfl, found, rfl, rfl⟩

/-- A name that has been taken away is free. -/
theorem create_erased {key : String} (legal : objectKey kind name = .ok key) :
    create { directory with names := directory.names.erase key } kind name object =
      .ok (directory.objects.size, ⟨directory.objects.push object,
        (directory.names.erase key).insert key directory.objects.size⟩) := by
  simp [create, legal, Table.find?_erase]

theorem unlink_of_key {key : String} (legal : objectKey kind name = .ok key) :
    directory.unlink kind name = .ok ((directory.names.find? key).isSome,
      { directory with names := directory.names.erase key }) := by
  simp [unlink, legal]

theorem unlink_objects {present : Bool}
    (success : directory.unlink kind name = .ok (present, changed)) :
    changed.objects = directory.objects := by
  simp only [unlink] at success
  split at success <;> cases success <;> rfl

theorem unlink_find? {present : Bool} {key : String}
    (success : directory.unlink kind name = .ok (present, changed)) :
    changed.names.find? key = some number ↔
      directory.names.find? key = some number ∧ objectKey kind name ≠ .ok key := by
  cases legal : objectKey kind name with
  | error fault =>
    simp only [unlink, legal] at success
    cases fault <;> cases success
    simp
  | ok own =>
    rw [unlink_of_key legal] at success
    cases success
    simp only [Table.find?_erase, ne_eq, Except.ok.injEq]
    split <;> simp [*]

/-- Changing an object and removing a name do not get in each other's way. -/
theorem unlink_modify (directory : Directory α) (kind : ObjectKind) (name : String) (number : Nat)
    (change : α → α) :
    (directory.modify number change).unlink kind name =
      (directory.unlink kind name).map fun result => (result.1, result.2.modify number change) := by
  simp only [unlink]
  split <;> rfl

end Directory

end HostChat
