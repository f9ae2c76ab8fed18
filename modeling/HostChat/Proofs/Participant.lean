import HostChat.Participant
import Mathlib.Data.List.Basic

/-! # Ids as words and as digits

An id is determined by its word, by its number and by its decimal digits. Zero is the word of nobody,
and no digit is an underscore.
-/

namespace HostChat

namespace ParticipantId

variable {first second : ParticipantId}

theorem ext_raw (same : first.raw = second.raw) : first = second := by
  cases first
  cases second
  cases same
  rfl

theorem ofRaw?_eq_some_iff {raw : Int32} {id : ParticipantId} :
    ofRaw? raw = some id ↔ raw = id.raw := by
  constructor
  · intro found
    simp only [ofRaw?] at found
    split at found
    · cases found
      rfl
    · cases found
  · rintro rfl
    simp [ofRaw?, id.raw_pos]

@[simp] theorem ofRaw?_raw (id : ParticipantId) : ofRaw? id.raw = some id :=
  ofRaw?_eq_some_iff.mpr rfl

@[simp] theorem ofRaw?_zero : ofRaw? 0 = none := by decide

theorem toInt_pos (id : ParticipantId) : 0 < id.raw.toInt :=
  Int32.lt_iff_toInt_lt.mp id.raw_pos

theorem toNat_injective (same : first.toNat = second.toNat) : first = second := by
  have left := toInt_pos first
  have right := toInt_pos second
  rw [toNat, toNat, ← Int32.toNat_toInt, ← Int32.toNat_toInt] at same
  exact ext_raw (Int32.toInt_inj.mp (by omega))

theorem toList_toString (id : ParticipantId) : (toString id).toList = Nat.toDigits 10 id.toNat :=
  Nat.toList_repr

theorem notMem_of_not_isDigit (id : ParticipantId) {c : Char} (other : c.isDigit = false) :
    c ∉ (toString id).toList := by
  rw [toList_toString]
  intro member
  have digit := Nat.isDigit_of_mem_toDigits (by decide) (by decide) member
  cases other.symm.trans digit

theorem underscore_notMem (id : ParticipantId) : '_' ∉ (toString id).toList :=
  id.notMem_of_not_isDigit (by decide)

theorem nul_notMem (id : ParticipantId) : '\x00' ∉ (toString id).toList :=
  id.notMem_of_not_isDigit (by decide)

theorem toString_injective (same : (toString first).toList = (toString second).toList) :
    first = second := by
  rw [toList_toString, toList_toString] at same
  have numbers := congrArg (Nat.ofDigitChars 10 · 0) same
  simp only [Nat.ofDigitChars_ten_toDigits] at numbers
  exact toNat_injective numbers

end ParticipantId

/-- One participant, for example runs. -/
def anna : ParticipantId := ⟨41, by decide⟩

/-- Another participant, for example runs. -/
def bert : ParticipantId := ⟨42, by decide⟩

/-- A third participant, for example runs. -/
def cleo : ParticipantId := ⟨43, by decide⟩

end HostChat
