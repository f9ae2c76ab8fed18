/-! # UTF-8

`decode` accepts every byte sequence. A maximal prefix of a well-formed sequence that breaks off,
and each byte that cannot start one, is read as one replacement character U+FFFD; surrogates,
overlong forms and code points above U+10FFFF are not well formed. The decoder goes byte by byte, so
that a byte that no sequence contains, such as the line feed, always ends what is pending.
-/

namespace HostChat.Text.Utf8

def replacement : Char := '\ufffd'

def encode (text : List Char) : List UInt8 :=
  text.flatMap String.utf8EncodeChar

/-- Between characters, or inside one: the bits read so far, the number of bytes still to come, and
the bounds of the next byte. -/
inductive State where
  | start
  | within (value left : Nat) (low high : UInt8)
deriving DecidableEq, Repr

/-- A byte read between characters. The bounds of the second byte rule out overlong forms,
surrogates and too large code points. -/
def first (byte : UInt8) : List Char × State :=
  if byte < 0x80 then ([Char.ofNat byte.toNat], .start)
  else if byte < 0xc2 then ([replacement], .start)
  else if byte < 0xe0 then ([], .within (byte.toNat - 0xc0) 1 0x80 0xbf)
  else if byte < 0xf0 then
    ([], .within (byte.toNat - 0xe0) 2 (if byte = 0xe0 then 0xa0 else 0x80)
      (if byte = 0xed then 0x9f else 0xbf))
  else if byte < 0xf5 then
    ([], .within (byte.toNat - 0xf0) 3 (if byte = 0xf0 then 0x90 else 0x80)
      (if byte = 0xf4 then 0x8f else 0xbf))
  else ([replacement], .start)

/-- One byte: the characters it completes, and where the decoder stands after it. -/
def step : State → UInt8 → List Char × State
  | .start, byte => first byte
  | .within value left low high, byte =>
      if low ≤ byte ∧ byte ≤ high then
        let value := 64 * value + (byte.toNat - 0x80)
        if left ≤ 1 then ([Char.ofNat value], .start) else ([], .within value (left - 1) 0x80 0xbf)
      else
        let (chars, state) := first byte
        (replacement :: chars, state)

/-- A sequence that the end of the input breaks off counts as one replacement character. -/
def finish : State → List Char
  | .start => []
  | .within .. => [replacement]

def run : State → List UInt8 → List Char
  | state, [] => finish state
  | state, byte :: rest =>
      let (chars, state) := step state byte
      chars ++ run state rest

def decode (bytes : List UInt8) : List Char :=
  run .start bytes

end HostChat.Text.Utf8

namespace HostChat.Text

def utf8 (text : String) : List UInt8 :=
  Utf8.encode text.toList

def ofUtf8 (bytes : List UInt8) : String :=
  String.ofList (Utf8.decode bytes)

end HostChat.Text
