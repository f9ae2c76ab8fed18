import HostChat.ChatError
import HostChat.Memory.Bytes
import HostChat.Notification.Basic

/-! # Notifications as signals

Between processes a notification is a queued real-time signal: its number tells the kind, and a word
travels with it as payload. The process that gets the signal notes it as a record of twelve bytes (the
number, the sender and the value, little-endian) in a pipe to itself. What is read from the pipe can
be cut anywhere, so a record that is not complete waits for the next read.
-/

namespace HostChat

/-- A signal as it comes in. -/
structure Signal where
  number : Int32
  sender : Int32
  /-- The word that travels with the signal, as wide as a pointer. -/
  payload : UInt64
deriving DecidableEq, Repr

/-- What is noted of a signal. -/
structure SignalRecord where
  number : Int32
  sender : Int32
  value : Int32
deriving DecidableEq, Repr

namespace Signal

/-- The lowest real-time signal that programs may use. -/
def base : Int32 := 34

/-- A value as the payload of a signal, with its sign extended. -/
def payloadOf (value : Int32) : UInt64 :=
  value.toInt64.toUInt64

/-- The value in a payload: its lower half. -/
def valueOf (payload : UInt64) : Int32 :=
  payload.toUInt32.toInt32

def ofNotification (sender : ParticipantId) (notification : Notification) : Signal where
  number := base + notification.kind.offset
  sender := sender.raw
  payload := payloadOf notification.value

def noted (signal : Signal) : SignalRecord :=
  ⟨signal.number, signal.sender, valueOf signal.payload⟩

end Signal

namespace SignalRecord

/-- A signal without a proper sender, of another number or with a senseless value says nothing. -/
def envelope? (record : SignalRecord) : Option Envelope := do
  let kind ← NotificationKind.ofOffset? (record.number - Signal.base)
  let sender ← ParticipantId.ofRaw? record.sender
  let notification ← Notification.decode kind record.value
  return ⟨sender, notification⟩

def byteSize : Nat := 12

def bytes (record : SignalRecord) : List UInt8 :=
  [record.number, record.sender, record.value].flatMap fun word =>
    (List.range 4).map (wordByte word.toUInt32)

def ofBytes (bytes : List UInt8) : SignalRecord :=
  let byte := fun index => bytes.getD index 0
  { number := (readWord byte 0).toInt32
    sender := (readWord byte 4).toInt32
    value := (readWord byte 8).toInt32 }

/-- The bytes of the complete records at the front of a byte sequence. -/
def complete (bytes : List UInt8) : List (List UInt8) :=
  (List.range (bytes.length / byteSize)).map fun index =>
    (bytes.drop (byteSize * index)).take byteSize

end SignalRecord

/-- The reading end of the pipe: the bytes of a record that is not complete yet. -/
structure SignalPipe where
  pending : List UInt8
deriving DecidableEq, Repr

namespace SignalPipe

/-- Starts to note signals. A process does so once. -/
def install : Option SignalPipe → Except ChatError SignalPipe
  | none => .ok ⟨[]⟩
  | some _ => .error (.signal "notification handlers already installed")

/-- One read from the pipe: the envelopes of the records that are complete now. -/
def read (pipe : SignalPipe) (chunk : List UInt8) : List Envelope × SignalPipe :=
  let bytes := pipe.pending ++ chunk
  ((SignalRecord.complete bytes).filterMap fun record => (SignalRecord.ofBytes record).envelope?,
    ⟨bytes.drop (bytes.length - bytes.length % SignalRecord.byteSize)⟩)

/-- Several reads, one after the other. -/
def readAll (pipe : SignalPipe) : List (List UInt8) → List Envelope × SignalPipe
  | [] => ([], pipe)
  | chunk :: rest =>
      let (first, pipe) := pipe.read chunk
      let (more, pipe) := pipe.readAll rest
      (first ++ more, pipe)

end SignalPipe

end HostChat
