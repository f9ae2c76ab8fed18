import HostChat.Proofs.Host.ObjectKeys
import Mathlib.Data.Nat.Digits.Defs
import Mathlib.Data.String.Basic

/-! # Files of a room's resources

Stores and locks are files of one directory of the system, and a lock's file has a mark in front that a
store's has not. A name of a resource ends with the word for its kind and the digits of its room, and
the digits have no underscore in them: whatever else the namespace has in it, the last underscore but
one is where it ends. So the two files of a room are files of no other room.
-/

namespace HostChat

open RoomNames

/-- What the system puts before the name of an object. -/
def ObjectKind.mark : ObjectKind → String
  | .store => ""
  | .lock => "sem."

private theorem ObjectKind.utf8ByteSize_mark (kind : ObjectKind) :
    kind.mark.utf8ByteSize = kind.reservedBytes := by
  cases kind <;> rfl

/-- The file of an object, if its name is one. -/
def objectFile? (kind : ObjectKind) (name : String) : Option String :=
  (objectKey kind name).toOption.map (kind.mark ++ ·)

theorem objectFile?_of_key {kind : ObjectKind} {name key : String}
    (legal : objectKey kind name = .ok key) : objectFile? kind name = some (kind.mark ++ key) := by
  rw [objectFile?, legal]
  rfl

/-- A name that an object of either kind can have, with the file name that is in it. -/
structure LegalName (name file : String) : Prop where
  slashed : name = "/" ++ file
  nonempty : file.isEmpty = false
  slash : '/' ∉ file.toList
  nul : '\x00' ∉ file.toList
  short : ∀ kind : ObjectKind, (kind.mark ++ file).utf8ByteSize ≤ maxObjectNameBytes

theorem LegalName.key {name file : String} (legal : LegalName name file) (kind : ObjectKind) :
    objectKey kind name = .ok file := by
  obtain ⟨rfl, nonempty, slash, nul, short⟩ := legal
  have dropped : ("/" ++ file).toList.dropWhile (· == '/') = file.toList := by
    rw [String.toList_append]
    change ('/' :: file.toList).dropWhile _ = _
    rw [List.dropWhile_cons_of_pos rfl]
    cases chars : file.toList with
    | nil => rfl
    | cons first rest =>
      have other : first ≠ '/' := by
        rintro rfl
        exact slash (by simp [chars])
      exact List.dropWhile_cons_of_neg (by simpa using other)
  refine objectKey_eq_ok_iff.mpr ⟨?_, ?_, nonempty, slash, ?_⟩
  · simpa using nul
  · rw [dropped, String.ofList_toList]
  · have bound := short kind
    rwa [String.utf8ByteSize_append, kind.utf8ByteSize_mark, Nat.add_comm] at bound

theorem checkNamespace_eq_ok_iff {ns : String} :
    checkNamespace ns = .ok () ↔ ns.isEmpty = false ∧ ns.utf8ByteSize ≤ maxNamespaceBytes ∧
      '/' ∉ ns.toList ∧ '\x00' ∉ ns.toList := by
  simp only [checkNamespace]
  constructor
  · intro valid
    split_ifs at valid with empty long reserved
    refine ⟨by simpa using empty, Nat.not_lt.mp long, ?_, ?_⟩
    all_goals exact fun member => reserved (List.any_eq_true.mpr ⟨_, member, rfl⟩)
  · rintro ⟨some, short, slash, nul⟩
    have clean : (ns.toList.any fun c => c == '/' || c == '\x00') = false := by
      rw [List.any_eq_false]
      intro c member
      rw [Bool.or_eq_true, beq_iff_eq, beq_iff_eq]
      rintro (rfl | rfl)
      · exact slash member
      · exact nul member
    simp only [some, Nat.not_lt.mpr short, clean, Bool.false_eq_true, if_false]

namespace ParticipantId

theorem toNat_lt (id : ParticipantId) : id.toNat < 2 ^ 31 := by
  have bound := id.raw.toInt_lt
  rw [toNat, ← Int32.toNat_toInt]
  have positive := toInt_pos id
  omega

private theorem slash_notMem (id : ParticipantId) : '/' ∉ (toString id).toList :=
  id.notMem_of_not_isDigit (by decide)

private theorem utf8Len_of_isDigit {text : List Char} (digits : ∀ c ∈ text, c.isDigit = true) :
    String.utf8Len text = text.length := by
  induction text with
  | nil => rfl
  | cons c rest ih =>
    have one : c.utf8Size = 1 := by
      have digit := digits c (List.mem_cons_self ..)
      simp only [Char.isDigit, Bool.and_eq_true, decide_eq_true_eq] at digit
      rw [Char.utf8Size, if_pos (UInt32.le_trans digit.2 (by decide))]
    rw [String.utf8Len_cons, ih fun c member => digits c (List.mem_cons_of_mem _ member), one,
      List.length_cons]

/-- An id has at most ten digits. -/
theorem utf8ByteSize_toString (id : ParticipantId) : (toString id).utf8ByteSize ≤ 10 := by
  have digits : ∀ c ∈ Nat.toDigits 10 id.toNat, c.isDigit = true := fun c member =>
    Nat.isDigit_of_mem_toDigits (by decide) (by decide) member
  have bound := id.toNat_lt
  rw [← String.ofList_toList (s := toString id), String.utf8ByteSize_ofList, toList_toString,
    utf8Len_of_isDigit digits]
  exact Nat.toDigits_length 10 id.toNat 10 (by decide) (by omega)

end ParticipantId

namespace RoomNames

variable {ns other : String} {room another : ParticipantId}

/-- The file name in the name of a resource, with the word for its kind. -/
def fileName (word ns : String) (room : ParticipantId) : String :=
  ns ++ "_" ++ word ++ "_" ++ toString room

private theorem toList_fileName (word ns : String) (room : ParticipantId) :
    (fileName word ns room).toList =
      (ns.toList ++ '_' :: word.toList) ++ '_' :: (toString room).toList := by
  simp [fileName]

theorem store_eq (ns : String) (room : ParticipantId) :
    (ofRoom ns room).store = "/" ++ fileName "room" ns room := by
  apply String.toList_injective
  rw [toList_store, String.toList_append, toList_fileName, List.append_assoc]
  rfl

theorem lock_eq (ns : String) (room : ParticipantId) :
    (ofRoom ns room).lock = "/" ++ fileName "lock" ns room := by
  apply String.toList_injective
  rw [toList_lock, String.toList_append, toList_fileName, List.append_assoc]
  rfl

/-- A namespace that passes the check leaves room for all that is added to it. -/
theorem legalName_fileName (valid : checkNamespace ns = .ok ()) (room : ParticipantId) {word : String}
    (short : word.utf8ByteSize = 4) (slash : '/' ∉ word.toList) (nul : '\x00' ∉ word.toList) :
    LegalName ("/" ++ fileName word ns room) (fileName word ns room) := by
  obtain ⟨-, bound, noSlash, noNul⟩ := checkNamespace_eq_ok_iff.mp valid
  constructor
  case slashed => rfl
  case nonempty => simp [fileName]
  case slash => simp [fileName, slash, noSlash, room.slash_notMem]
  case nul => simp [fileName, nul, noNul, room.nul_notMem]
  case short =>
    intro kind
    have digits := room.utf8ByteSize_toString
    have mark : kind.mark.utf8ByteSize ≤ 4 := by cases kind <;> decide
    rw [maxNamespaceBytes] at bound
    have underscore : "_".utf8ByteSize = 1 := rfl
    simp only [maxObjectNameBytes, fileName, String.utf8ByteSize_append]
    omega

theorem legalName_store (valid : checkNamespace ns = .ok ()) (room : ParticipantId) :
    LegalName (ofRoom ns room).store (fileName "room" ns room) := by
  rw [store_eq]
  exact legalName_fileName valid room (by decide) (by decide) (by decide)

theorem legalName_lock (valid : checkNamespace ns = .ok ()) (room : ParticipantId) :
    LegalName (ofRoom ns room).lock (fileName "lock" ns room) := by
  rw [lock_eq]
  exact legalName_fileName valid room (by decide) (by decide) (by decide)

/-- The files of the resources of a room. -/
def files (names : RoomNames) : List String :=
  (objectFile? .store names.store).toList ++ (objectFile? .lock names.lock).toList

theorem files_ofRoom (valid : checkNamespace ns = .ok ()) (room : ParticipantId) :
    (ofRoom ns room).files =
      [fileName "room" ns room, "sem." ++ fileName "lock" ns room] := by
  have store := objectFile?_of_key ((legalName_store valid room).key .store)
  have lock := objectFile?_of_key ((legalName_lock valid room).key .lock)
  rw [files, store, lock, ObjectKind.mark, String.empty_append]
  rfl

/-- Names of one kind tell the namespace and the room. -/
theorem fileName_inj {word : String} (same : fileName word ns room = fileName word other another) :
    ns = other ∧ room = another := by
  have chars := congrArg String.toList same
  rw [toList_fileName, toList_fileName] at chars
  obtain ⟨front, digits⟩ :=
    append_underscore_inj room.underscore_notMem another.underscore_notMem chars
  exact ⟨String.toList_injective (List.append_cancel_right front),
    ParticipantId.toString_injective digits⟩

/-- Whatever stands in front of the name of a lock, it is not the name of a store. -/
theorem fileName_ne (front : String) :
    fileName "room" ns room ≠ front ++ fileName "lock" other another := by
  intro same
  have chars := congrArg String.toList same
  rw [String.toList_append, toList_fileName, toList_fileName, ← List.append_assoc] at chars
  obtain ⟨ends, -⟩ :=
    append_underscore_inj room.underscore_notMem another.underscore_notMem chars
  have last := congrArg List.getLast? ends
  simp at last

theorem store_inj (same : (ofRoom ns room).store = (ofRoom other another).store) :
    ns = other ∧ room = another := by
  rw [store_eq, store_eq] at same
  exact fileName_inj ((String.append_right_inj _).mp same)

theorem lock_inj (same : (ofRoom ns room).lock = (ofRoom other another).lock) :
    ns = other ∧ room = another := by
  rw [lock_eq, lock_eq] at same
  exact fileName_inj ((String.append_right_inj _).mp same)

/-- No file is that of a resource of two rooms. -/
theorem files_disjoint (valid : checkNamespace ns = .ok ()) (validOther : checkNamespace other = .ok ())
    (different : ¬(ns = other ∧ room = another)) {file : String}
    (own : file ∈ (ofRoom ns room).files) : file ∉ (ofRoom other another).files := by
  rw [files_ofRoom valid, List.mem_cons, List.mem_singleton] at own
  rw [files_ofRoom validOther, List.mem_cons, List.mem_singleton, not_or]
  rcases own with rfl | rfl
  · exact ⟨fun same => different (fileName_inj same), fileName_ne "sem."⟩
  · refine ⟨fun same => fileName_ne "sem." same.symm, fun same => different ?_⟩
    exact fileName_inj ((String.append_right_inj _).mp same)

end RoomNames

end HostChat
