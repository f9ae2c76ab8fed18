import HostChat.Proofs.Participant

/-! # Reading numbers back

The decimal digits of a number are read as that number, and so the digits of an id as that id.
-/

namespace HostChat

namespace Text

private theorem natural?_toDigits (value : Nat) : natural? (Nat.toDigits 10 value) = some value := by
  have digits : ∀ c ∈ Nat.toDigits 10 value, c.isDigit = true := fun c member =>
    Nat.isDigit_of_mem_toDigits (by decide) (by decide) member
  rw [natural?, if_pos ⟨Nat.toDigits_ne_nil, List.all_eq_true.mpr digits⟩]
  exact congrArg some Nat.ofDigitChars_ten_toDigits

/-- Without a sign an integer is a natural number. -/
theorem integer?_of_isDigit {first : Char} {others : List Char} (digit : first.isDigit = true) :
    integer? (first :: others) = (natural? (first :: others)).map Int.ofNat := by
  rw [integer?]
  · rintro _ ⟨⟩
    cases digit
  · rintro _ ⟨⟩
    cases digit

theorem integer?_toDigits (value : Nat) :
    integer? (Nat.toDigits 10 value) = some (value : Int) := by
  have read := natural?_toDigits value
  cases digits : Nat.toDigits 10 value with
  | nil => exact absurd digits Nat.toDigits_ne_nil
  | cons first others =>
    have digit : first.isDigit = true :=
      Nat.isDigit_of_mem_toDigits (b := 10) (n := value) (by decide) (by decide) (by simp [digits])
    rw [integer?_of_isDigit digit, ← digits, read]
    rfl

end Text

namespace ParticipantId

theorem ofInt?_toNat (id : ParticipantId) : ofInt? (id.toNat : Int) = some id := by
  have positive := id.toInt_pos
  have value : (id.toNat : Int) = id.raw.toInt := by
    rw [toNat, ← Int32.toNat_toInt]
    omega
  rw [ofInt?, value, if_pos ⟨positive, Int32.toInt_le _⟩, Int32.ofInt_toInt, ofRaw?_raw]

/-- An id is read back from its digits. -/
theorem parse_toString (id : ParticipantId) : parse (toString id) = .ok id := by
  have read : (Text.integer? (toString id).toList).bind ofInt? = some id := by
    rw [toList_toString, Text.integer?_toDigits, Option.bind_some, ofInt?_toNat]
  rw [parse, read]

end ParticipantId

end HostChat
