import HostChat.Participant
import HostChat.Text.Utf8

/-! # Messages -/

namespace HostChat

/-- A message taken out of the mailbox. -/
structure Message where
  sender : ParticipantId
  recipient : ParticipantId
  text : List UInt8
deriving DecidableEq, Repr

/-- The line shown to the recipient. -/
def Message.render (message : Message) : String :=
  toString message.sender ++ ": " ++ Text.ofUtf8 message.text

end HostChat
