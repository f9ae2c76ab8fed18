/-! # Decimal integers

An integer is written as ASCII digits after at most one sign. Leading zeros are allowed, white space
and the digits of other scripts are not, and there is no bound on the value.
-/

namespace HostChat.Text

/-- The value of a non-empty run of ASCII digits. -/
def natural? (digits : List Char) : Option Nat :=
  if digits ≠ [] ∧ digits.all Char.isDigit then
    some (digits.foldl (fun value digit => 10 * value + (digit.toNat - '0'.toNat)) 0)
  else none

def integer? : List Char → Option Int
  | '+' :: digits => (natural? digits).map Int.ofNat
  | '-' :: digits => (natural? digits).map fun value => -(value : Int)
  | digits => (natural? digits).map Int.ofNat

end HostChat.Text
