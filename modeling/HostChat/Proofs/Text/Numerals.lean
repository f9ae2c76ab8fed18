import HostChat.Proofs.Text.Decimal
import Mathlib.Algebra.Order.Ring.Nat
import Mathlib.Tactic.Ring

/-! # Numerals that name participants

A numeral is digits behind at most one sign. It names the participant of its value, if there is one,
however many zeros it begins with; each participant has one numeral without a sign and without zeros
at the beginning, and that is the one that is shown.
-/

namespace HostChat

namespace Text

/-- What may stand before the digits of a numeral. -/
inductive Sign where
  | none
  | plus
  | minus
deriving DecidableEq, Repr

namespace Sign

def chars : Sign → List Char
  | .none => []
  | .plus => ['+']
  | .minus => ['-']

def apply : Sign → Nat → Int
  | .none, magnitude | .plus, magnitude => magnitude
  | .minus, magnitude => -magnitude

end Sign

/-- What digits stand for: the first of them for itself times a power of ten with a zero for each of
the others. -/
def magnitude : List Char → Nat
  | [] => 0
  | digit :: others => (digit.toNat - '0'.toNat) * 10 ^ others.length + magnitude others

/-- A number as it is written. -/
structure Numeral where
  sign : Sign
  digits : List Char
  some : digits ≠ []
  ascii : ∀ digit ∈ digits, '0' ≤ digit ∧ digit ≤ '9'

namespace Numeral

def chars (numeral : Numeral) : List Char := numeral.sign.chars ++ numeral.digits

def value (numeral : Numeral) : Int := numeral.sign.apply (magnitude numeral.digits)

/-- No sign, and no zeros at the beginning. -/
structure Canonical (numeral : Numeral) : Prop where
  unsigned : numeral.sign = .none
  significant : numeral.digits.head? ≠ Option.some '0'

end Numeral

variable {digits : List Char} {text : List Char} {digit : Char} {number : Nat} {value : Int}

private theorem isDigit_iff : digit.isDigit = true ↔ '0' ≤ digit ∧ digit ≤ '9' := by
  rw [Char.isDigit_iff_toNat]
  rfl

private theorem magnitude_eq (digits : List Char) :
    magnitude digits = Nat.ofDigitChars 10 digits 0 := by
  induction digits with
  | nil => rfl
  | cons digit others ih =>
    have shift (initial : Nat) : Nat.ofDigitChars 10 others initial =
        10 ^ others.length * initial + Nat.ofDigitChars 10 others 0 :=
      Nat.ofDigitChars_eq_ofDigitChars_zero
    rw [magnitude, ih, Nat.ofDigitChars_cons, shift (_ + _)]
    ring

theorem natural?_eq_some_iff :
    natural? digits = some number ↔
      digits ≠ [] ∧ (∀ digit ∈ digits, '0' ≤ digit ∧ digit ≤ '9') ∧ magnitude digits = number := by
  rw [magnitude_eq, natural?, Option.ite_none_right_eq_some, List.all_eq_true, and_assoc]
  simp only [isDigit_iff, Option.some.injEq]
  rfl

private theorem integer?_minus (digits : List Char) :
    integer? ('-' :: digits) = (natural? digits).map Sign.minus.apply := by
  rw [integer?]
  cases natural? digits <;> rfl

namespace Numeral

variable {first second : Numeral}

private theorem natural?_digits (numeral : Numeral) :
    natural? numeral.digits = Option.some (magnitude numeral.digits) :=
  natural?_eq_some_iff.mpr ⟨numeral.some, numeral.ascii, rfl⟩

private theorem integer?_chars (numeral : Numeral) :
    integer? numeral.chars = Option.some numeral.value := by
  have read := numeral.natural?_digits
  obtain ⟨sign, digits, some, ascii⟩ := numeral
  cases sign with
  | none =>
    cases digits with
    | nil => exact absurd rfl some
    | cons first others =>
      have digit : first.isDigit = true := isDigit_iff.mpr (ascii first List.mem_cons_self)
      exact (integer?_of_isDigit digit).trans (congrArg (Option.map Int.ofNat) read)
  | plus => exact congrArg (Option.map Int.ofNat) read
  | minus => exact (integer?_minus digits).trans (congrArg (Option.map Sign.minus.apply) read)

/-- A numeral has only one value. -/
private theorem value_eq_of_chars (same : first.chars = second.chars) :
    first.value = second.value := by
  have read := first.integer?_chars
  rw [same, second.integer?_chars] at read
  exact (Option.some.inj read).symm

end Numeral

/-- What is read as an integer is the numerals, by their values. -/
theorem integer?_eq_some_iff :
    integer? text = some value ↔
      ∃ numeral : Numeral, numeral.chars = text ∧ numeral.value = value := by
  constructor
  · intro read
    have written (sign : Sign) {digits : List Char}
        (found : (natural? digits).map sign.apply = some value) :
        ∃ numeral : Numeral, numeral.chars = sign.chars ++ digits ∧ numeral.value = value := by
      obtain ⟨number, natural, rfl⟩ := Option.map_eq_some_iff.mp found
      obtain ⟨nonempty, ascii, rfl⟩ := natural?_eq_some_iff.mp natural
      exact ⟨⟨sign, digits, nonempty, ascii⟩, rfl, rfl⟩
    fun_cases integer? text with
    | case1 digits => exact written .plus read
    | case2 digits => exact written .minus ((integer?_minus digits).symm.trans read)
    | case3 _ plusless minusless =>
      rw [integer?.eq_3 text plusless minusless] at read
      exact written .none read
  · rintro ⟨numeral, rfl, rfl⟩
    exact numeral.integer?_chars

/-! ### Digits without zeros at the beginning -/

private theorem bounds_of_ascii (ascii : '0' ≤ digit ∧ digit ≤ '9') :
    48 ≤ digit.toNat ∧ digit.toNat ≤ 57 := ascii

private theorem digitChar_of_ascii (ascii : '0' ≤ digit ∧ digit ≤ '9') :
    (digit.toNat - '0'.toNat).digitChar = digit := by
  obtain ⟨lower, upper⟩ := bounds_of_ascii ascii
  have small : digit.toNat - 48 < 10 := by omega
  apply Char.toNat_inj.mp
  change (digit.toNat - 48).digitChar.toNat = digit.toNat
  rw [Nat.toNat_digitChar_of_lt_ten small]
  omega

/-- Digits behind the digits of a number go on with them. -/
private theorem toDigits_append_digits (positive : 0 < number)
    (ascii : ∀ digit ∈ digits, '0' ≤ digit ∧ digit ≤ '9') :
    Nat.toDigits 10 number ++ digits =
      Nat.toDigits 10 (number * 10 ^ digits.length + magnitude digits) := by
  induction digits generalizing number with
  | nil => simp [magnitude]
  | cons digit others ih =>
    have own := ascii digit List.mem_cons_self
    obtain ⟨lower, upper⟩ := bounds_of_ascii own
    have small : digit.toNat - '0'.toNat < 10 := by
      change digit.toNat - 48 < 10
      omega
    have last : Nat.toDigits 10 (digit.toNat - '0'.toNat) = [digit] := by
      rw [Nat.toDigits_of_lt_base small, digitChar_of_ascii own]
    have longer : 0 < 10 * number + (digit.toNat - '0'.toNat) := by omega
    calc Nat.toDigits 10 number ++ digit :: others
        = (Nat.toDigits 10 number ++ Nat.toDigits 10 (digit.toNat - '0'.toNat)) ++ others := by
          rw [last, List.append_assoc, List.singleton_append]
      _ = Nat.toDigits 10 (10 * number + (digit.toNat - '0'.toNat)) ++ others := by
          rw [Nat.toDigits_append_toDigits (by decide) positive small]
      _ = _ := by
          rw [ih longer fun other member => ascii other (List.mem_cons_of_mem _ member),
            magnitude, List.length_cons]
          congr 1
          ring

/-- Digits that do not begin with a zero are those of what they stand for. -/
theorem eq_toDigits (some : digits ≠ []) (ascii : ∀ digit ∈ digits, '0' ≤ digit ∧ digit ≤ '9')
    (significant : digits.head? ≠ Option.some '0') :
    digits = Nat.toDigits 10 (magnitude digits) := by
  cases digits with
  | nil => exact absurd rfl some
  | cons first others =>
    have own := ascii first List.mem_cons_self
    obtain ⟨lower, upper⟩ := bounds_of_ascii own
    have different : first.toNat ≠ 48 := fun same =>
      significant (congrArg Option.some (Char.toNat_inj.mp same))
    have small : first.toNat - '0'.toNat < 10 := by
      change first.toNat - 48 < 10
      omega
    have positive : 0 < first.toNat - '0'.toNat := by
      change 0 < first.toNat - 48
      omega
    have begun := toDigits_append_digits positive fun other member =>
      ascii other (List.mem_cons_of_mem first member)
    rw [Nat.toDigits_of_lt_base small, digitChar_of_ascii own] at begun
    exact begun

private theorem head?_toDigits (positive : 0 < number) :
    (Nat.toDigits 10 number).head? ≠ some '0' := by
  induction number using Nat.strongRecOn with
  | _ number ih =>
    by_cases short : number < 10
    · rw [Nat.toDigits_of_lt_base short, List.head?_cons, ne_eq, Option.some.injEq,
        Nat.digitChar_eq_zero]
      omega
    · have tens : 0 < number / 10 := by omega
      rw [Nat.toDigits_of_base_le (by decide) (by omega),
        List.head?_append_of_ne_nil _ Nat.toDigits_ne_nil]
      exact ih (number / 10) (by omega) tens

/-- A number without a sign and without zeros at the beginning is written in one way only. -/
theorem Numeral.Canonical.unique {first second : Numeral} (one : first.Canonical)
    (other : second.Canonical) (same : first.value = second.value) : first = second := by
  have equal : magnitude first.digits = magnitude second.digits := by
    rw [value, value, one.unsigned, other.unsigned] at same
    exact Int.ofNat.inj same
  have digits : first.digits = second.digits := by
    rw [eq_toDigits first.some first.ascii one.significant,
      eq_toDigits second.some second.ascii other.significant, equal]
  cases first
  cases second
  cases one.unsigned
  cases other.unsigned
  cases digits
  rfl

end Text

namespace ParticipantId

open Text

variable {text : String} {id : ParticipantId} {value : Int}

theorem ofInt?_eq_some_iff : ofInt? value = some id ↔ value = id.raw.toInt := by
  constructor
  · intro found
    rw [ofInt?, Option.ite_none_right_eq_some] at found
    obtain ⟨⟨positive, bound⟩, found⟩ := found
    change value ≤ 2147483647 at bound
    rw [← ofRaw?_eq_some_iff.mp found, Int32.toInt_ofInt_of_le (by omega) (by omega)]
  · rintro rfl
    rw [ofInt?, if_pos ⟨id.toInt_pos, Int32.toInt_le _⟩, Int32.ofInt_toInt, ofRaw?_raw]

/-- A text names the participant whose number is the value of the text. -/
theorem parse_eq_ok_iff :
    parse text = .ok id ↔
      ∃ numeral : Numeral, numeral.chars = text.toList ∧ numeral.value = id.raw.toInt := by
  have found : parse text = .ok id ↔ (integer? text.toList).bind ofInt? = some id := by
    rw [parse]
    split
    next other read => rw [read, Except.ok.injEq, Option.some.injEq]
    next read =>
      rw [read]
      constructor <;> intro impossible <;> cases impossible
  rw [found, Option.bind_eq_some_iff]
  constructor
  · rintro ⟨value, read, named⟩
    obtain ⟨numeral, chars, rfl⟩ := integer?_eq_some_iff.mp read
    exact ⟨numeral, chars, ofInt?_eq_some_iff.mp named⟩
  · rintro ⟨numeral, chars, same⟩
    exact ⟨numeral.value, integer?_eq_some_iff.mpr ⟨numeral, chars, rfl⟩,
      ofInt?_eq_some_iff.mpr same⟩

theorem parse_eq_error {invalid : Invalid} (failure : parse text = .error invalid) :
    invalid.text = text := by
  rw [parse] at failure
  split at failure
  · cases failure
  · cases failure
    rfl

/-- The numbers of participants are all that a positive word can be. -/
theorem exists_of_value :
    (∃ id : ParticipantId, value = id.raw.toInt) ↔ 1 ≤ value ∧ value ≤ 2147483647 := by
  constructor
  · rintro ⟨id, rfl⟩
    exact ⟨id.toInt_pos, Int32.toInt_le _⟩
  · rintro ⟨positive, bound⟩
    have fits : (Int32.ofInt value).toInt = value := Int32.toInt_ofInt_of_le (by omega) (by omega)
    refine ⟨⟨Int32.ofInt value, ?_⟩, fits.symm⟩
    rw [Int32.lt_iff_toInt_lt, fits]
    exact positive

theorem natCast_toNat (id : ParticipantId) : (id.toNat : Int) = id.raw.toInt := by
  have positive := id.toInt_pos
  rw [toNat, ← Int32.toNat_toInt]
  omega

/-- What is shown of a participant. -/
def numeral (id : ParticipantId) : Numeral where
  sign := .none
  digits := Nat.toDigits 10 id.toNat
  some := Nat.toDigits_ne_nil
  ascii _ member := isDigit_iff.mp (Nat.isDigit_of_mem_toDigits (by decide) (by decide) member)

private theorem chars_numeral (id : ParticipantId) : id.numeral.chars = (toString id).toList :=
  id.toList_toString.symm

theorem value_numeral (id : ParticipantId) : id.numeral.value = id.raw.toInt := by
  change ((magnitude (Nat.toDigits 10 id.toNat) : Nat) : Int) = id.raw.toInt
  rw [magnitude_eq, Nat.ofDigitChars_ten_toDigits, natCast_toNat]

theorem canonical_numeral (id : ParticipantId) : id.numeral.Canonical := by
  have positive := id.toInt_pos
  have number := id.natCast_toNat
  exact ⟨rfl, head?_toDigits (by omega)⟩

/-- A text names somebody exactly if it is a numeral with a value in the range of participants, and
whom it names depends on the value only; a text that names nobody is given back. What is shown of a
participant names it again, and is the only numeral for it that has no sign and no zeros at the
beginning. -/
theorem named_by_value :
    (∀ text, (∃ id, parse text = .ok id) ↔ ∃ numeral : Numeral,
      numeral.chars = text.toList ∧ 1 ≤ numeral.value ∧ numeral.value ≤ 2147483647) ∧
    (∀ text id (numeral : Numeral), parse text = .ok id → numeral.chars = text.toList →
      id.raw.toInt = numeral.value) ∧
    (∀ text invalid, parse text = .error invalid → invalid.text = text) ∧
    (∀ id, parse (toString id) = .ok id) ∧
    (∀ id : ParticipantId, ∃ shown : Numeral, shown.chars = (toString id).toList ∧
      shown.Canonical ∧ shown.value = id.raw.toInt ∧
        ∀ other : Numeral, other.Canonical → other.value = id.raw.toInt → other = shown) ∧
    ∀ first second id (one other : Numeral), parse first = .ok id → one.chars = first.toList →
      other.chars = second.toList → (parse second = .ok id ↔ one.value = other.value) := by
  have valued {text : String} {id : ParticipantId} {numeral : Numeral} (named : parse text = .ok id)
      (written : numeral.chars = text.toList) : id.raw.toInt = numeral.value := by
    obtain ⟨other, chars, value⟩ := parse_eq_ok_iff.mp named
    rw [← value, Numeral.value_eq_of_chars (chars.trans written.symm)]
  refine ⟨fun text => ⟨?_, ?_⟩, fun _ _ _ => valued, fun _ _ => parse_eq_error, parse_toString,
    fun id => ?_, fun first second id one other named written second => ⟨fun also => ?_, ?_⟩⟩
  · rintro ⟨id, named⟩
    obtain ⟨numeral, chars, value⟩ := parse_eq_ok_iff.mp named
    exact ⟨numeral, chars, exists_of_value.mp ⟨id, value⟩⟩
  · rintro ⟨numeral, chars, range⟩
    obtain ⟨id, value⟩ := exists_of_value.mpr range
    exact ⟨id, parse_eq_ok_iff.mpr ⟨numeral, chars, value⟩⟩
  · refine ⟨id.numeral, id.chars_numeral, id.canonical_numeral, id.value_numeral, ?_⟩
    exact fun other canonical value =>
      canonical.unique id.canonical_numeral (value.trans id.value_numeral.symm)
  · rw [← valued named written, valued also second]
  · intro same
    exact parse_eq_ok_iff.mpr ⟨other, second, same.symm.trans (valued named written).symm⟩

example : parse "+0000000000000000000042" = .ok bert := by decide +kernel

example : parse "2147483648" = .error ⟨"2147483648"⟩ := by decide +kernel

end ParticipantId

end HostChat
