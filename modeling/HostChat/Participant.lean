import HostChat.Text.Decimal
import HostChat.Text.Quoted

/-! # Participants

A participant is known by the id of its process, a positive 32-bit number. Zero is free to mean
"nobody" wherever ids are stored as bare words.
-/

namespace HostChat

structure ParticipantId where
  raw : Int32
  raw_pos : 0 < raw
deriving DecidableEq, Repr

namespace ParticipantId

def ofRaw? (raw : Int32) : Option ParticipantId :=
  if positive : 0 < raw then some ⟨raw, positive⟩ else none

/-- The participant of a number, if the number is positive and fits in 32 bits with a sign. -/
def ofInt? (value : Int) : Option ParticipantId :=
  if 0 < value ∧ value ≤ Int32.maxValue.toInt then ofRaw? (Int32.ofInt value) else none

def toNat (id : ParticipantId) : Nat :=
  id.raw.toNatClampNeg

instance : ToString ParticipantId where
  toString id := toString id.toNat

/-- The text that was meant to name a participant. -/
structure Invalid where
  text : String
deriving DecidableEq, Repr

def Invalid.message (invalid : Invalid) : String :=
  "invalid participant id: " ++ Text.quoted invalid.text

/-- Reads a decimal number, with one sign allowed, that names a participant. -/
def parse (text : String) : Except Invalid ParticipantId :=
  match (Text.integer? text.toList).bind ofInt? with
  | some id => .ok id
  | none => .error ⟨text⟩

/-- The id as a tagged value, for traces. -/
def describe (id : ParticipantId) : String :=
  "ParticipantId(" ++ toString id ++ ")"

end ParticipantId

end HostChat
