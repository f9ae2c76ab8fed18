import HostChat.Host.ObjectName
import HostChat.Proofs.Participant
import HostChat.Room.Names
import Mathlib.Tactic.SplitIfs

/-! # The object keys of a room

The system knows a store or a lock by the file name that is left of its name without the slashes in
front. For the resources of a room that is the namespace without its slashes in front, a mark for the
kind and the decimal digits of the room. The digits have no underscore in them, so one of the two
keys tells the room, and rooms that share one of the keys share the other one too.
-/

namespace HostChat

variable {kind : ObjectKind} {name key : String}

theorem objectKey_eq_ok_iff :
    objectKey kind name = .ok key ↔
      '\x00' ∉ name.toList ∧ key = String.ofList (name.toList.dropWhile (· == '/')) ∧
        key.isEmpty = false ∧ '/' ∉ key.toList ∧
          key.utf8ByteSize + kind.reservedBytes ≤ maxObjectNameBytes := by
  simp only [objectKey]
  constructor
  · intro found
    split_ifs at found with nul malformed long tooLong
    cases found
    simp only [Bool.or_eq_true, List.contains_eq_mem, decide_eq_true_eq, not_or,
      Bool.not_eq_true] at nul malformed
    exact ⟨nul, rfl, malformed.1, malformed.2, Nat.not_lt.mp tooLong⟩
  · rintro ⟨nul, rfl, some, slash, bound⟩
    have short : ¬ maxObjectNameBytes + 4 <
        (String.ofList (name.toList.dropWhile (· == '/'))).utf8ByteSize + kind.reservedBytes := by
      omega
    simp only [List.contains_eq_mem, nul, some, slash, short, Nat.not_lt.mpr bound,
      decide_false, Bool.or_false, Bool.false_eq_true, if_false]

/-- Two names that differ in nothing but their slashes in front have the same key. -/
theorem objectKey_congr {other : String} (clean : '\x00' ∉ name.toList)
    (cleanOther : '\x00' ∉ other.toList)
    (same : name.toList.dropWhile (· == '/') = other.toList.dropWhile (· == '/')) :
    objectKey kind name = objectKey kind other := by
  simp only [objectKey, List.contains_eq_mem, clean, cleanOther, same, decide_false,
    Bool.false_eq_true, if_false]

namespace RoomNames

variable {ns other : String} {room another : ParticipantId}

/-- What a namespace adds to the keys of its rooms. -/
def stem (ns : String) : List Char :=
  ns.toList.dropWhile (· == '/')

theorem toList_store (ns : String) (room : ParticipantId) :
    (ofRoom ns room).store.toList =
      '/' :: (ns.toList ++ ("_room".toList ++ '_' :: (toString room).toList)) := by
  have parts : (ofRoom ns room).store = "/" ++ ns ++ "_room_" ++ toString room := rfl
  simp [parts]

theorem toList_lock (ns : String) (room : ParticipantId) :
    (ofRoom ns room).lock.toList =
      '/' :: (ns.toList ++ ("_lock".toList ++ '_' :: (toString room).toList)) := by
  have parts : (ofRoom ns room).lock = "/" ++ ns ++ "_lock_" ++ toString room := rfl
  simp [parts]

private theorem dropSlashes (ns : String) {mark : Char} (rest : List Char) (proper : mark ≠ '/') :
    ('/' :: (ns.toList ++ mark :: rest)).dropWhile (· == '/') = stem ns ++ mark :: rest := by
  rw [List.dropWhile_cons_of_pos (by rfl), List.dropWhile_append, stem]
  split
  next empty =>
    rw [List.isEmpty_iff.mp empty, List.dropWhile_cons_of_neg (by simpa using proper)]
    rfl
  next => rfl

private theorem dropSlashes_store (ns : String) (room : ParticipantId) :
    (ofRoom ns room).store.toList.dropWhile (· == '/') =
      stem ns ++ ("_room".toList ++ '_' :: (toString room).toList) := by
  rw [toList_store]
  exact dropSlashes ns _ (by decide)

private theorem dropSlashes_lock (ns : String) (room : ParticipantId) :
    (ofRoom ns room).lock.toList.dropWhile (· == '/') =
      stem ns ++ ("_lock".toList ++ '_' :: (toString room).toList) := by
  rw [toList_lock]
  exact dropSlashes ns _ (by decide)

/-- What follows the last underscore is determined by the whole text. -/
theorem append_underscore_inj {first second digits others : List Char} (absent : '_' ∉ digits)
    (absentOther : '_' ∉ others) (same : first ++ '_' :: digits = second ++ '_' :: others) :
    first = second ∧ digits = others := by
  rcases List.append_eq_append_iff.mp same with ⟨between, rfl, rest⟩ | ⟨between, rfl, rest⟩
  · cases between with
    | nil =>
      simp only [List.nil_append, List.cons.injEq, true_and] at rest
      exact ⟨by simp, rest⟩
    | cons head tail =>
      simp only [List.cons_append, List.cons.injEq] at rest
      exact absurd (by simp [rest.2]) absent
  · cases between with
    | nil =>
      simp only [List.nil_append, List.cons.injEq, true_and] at rest
      exact ⟨by simp, rest.symm⟩
    | cons head tail =>
      simp only [List.cons_append, List.cons.injEq] at rest
      exact absurd (by simp [rest.2]) absentOther

theorem stem_inj (mark : List Char)
    (same : stem ns ++ (mark ++ '_' :: (toString room).toList) =
      stem other ++ (mark ++ '_' :: (toString another).toList)) :
    stem ns = stem other ∧ room = another := by
  rw [← List.append_assoc, ← List.append_assoc] at same
  obtain ⟨stems, digits⟩ :=
    append_underscore_inj room.underscore_notMem another.underscore_notMem same
  exact ⟨List.append_cancel_right stems, ParticipantId.toString_injective digits⟩

/-- One key of the stores is that of one room. -/
theorem storeKey_inj (key₁ : objectKey .store (ofRoom ns room).store = .ok key)
    (key₂ : objectKey .store (ofRoom other another).store = .ok key) :
    stem ns = stem other ∧ room = another := by
  obtain ⟨-, left, -⟩ := objectKey_eq_ok_iff.mp key₁
  obtain ⟨-, right, -⟩ := objectKey_eq_ok_iff.mp key₂
  rw [dropSlashes_store] at left right
  exact stem_inj "_room".toList (String.ofList_injective (left.symm.trans right))

/-- One key of the locks is that of one room. -/
theorem lockKey_inj (key₁ : objectKey .lock (ofRoom ns room).lock = .ok key)
    (key₂ : objectKey .lock (ofRoom other another).lock = .ok key) :
    stem ns = stem other ∧ room = another := by
  obtain ⟨-, left, -⟩ := objectKey_eq_ok_iff.mp key₁
  obtain ⟨-, right, -⟩ := objectKey_eq_ok_iff.mp key₂
  rw [dropSlashes_lock] at left right
  exact stem_inj "_lock".toList (String.ofList_injective (left.symm.trans right))

theorem nul_notMem_store_iff : '\x00' ∉ (ofRoom ns room).store.toList ↔ '\x00' ∉ ns.toList := by
  simp [toList_store, room.nul_notMem]

theorem nul_notMem_lock_iff : '\x00' ∉ (ofRoom ns room).lock.toList ↔ '\x00' ∉ ns.toList := by
  simp [toList_lock, room.nul_notMem]

theorem lockKey_congr (key₁ : objectKey .store (ofRoom ns room).store = .ok key)
    (key₂ : objectKey .store (ofRoom other another).store = .ok key) :
    objectKey .lock (ofRoom ns room).lock = objectKey .lock (ofRoom other another).lock := by
  obtain ⟨stems, rfl⟩ := storeKey_inj key₁ key₂
  have clean := nul_notMem_store_iff.mp (objectKey_eq_ok_iff.mp key₁).1
  have cleanOther := nul_notMem_store_iff.mp (objectKey_eq_ok_iff.mp key₂).1
  apply objectKey_congr (nul_notMem_lock_iff.mpr clean) (nul_notMem_lock_iff.mpr cleanOther)
  rw [dropSlashes_lock, dropSlashes_lock, stems]

theorem storeKey_congr (key₁ : objectKey .lock (ofRoom ns room).lock = .ok key)
    (key₂ : objectKey .lock (ofRoom other another).lock = .ok key) :
    objectKey .store (ofRoom ns room).store = objectKey .store (ofRoom other another).store := by
  obtain ⟨stems, rfl⟩ := lockKey_inj key₁ key₂
  have clean := nul_notMem_lock_iff.mp (objectKey_eq_ok_iff.mp key₁).1
  have cleanOther := nul_notMem_lock_iff.mp (objectKey_eq_ok_iff.mp key₂).1
  apply objectKey_congr (nul_notMem_store_iff.mpr clean) (nul_notMem_store_iff.mpr cleanOther)
  rw [dropSlashes_store, dropSlashes_store, stems]

/-- Namespaces that pass the check are their own part of the keys. -/
theorem stem_of_checkNamespace (valid : checkNamespace ns = .ok ()) : stem ns = ns.toList := by
  simp only [checkNamespace] at valid
  split_ifs at valid with empty long reserved
  have proper : '/' ∉ ns.toList := by
    intro member
    exact reserved (List.any_eq_true.mpr ⟨'/', member, rfl⟩)
  cases chars : ns.toList with
  | nil => simp [stem, chars]
  | cons first rest =>
    have other : first ≠ '/' := by
      rintro rfl
      exact proper (by simp [chars])
    rw [stem, chars, List.dropWhile_cons_of_neg (by simpa using other)]

end RoomNames

end HostChat
