import HostChat.Participant
import HostChat.Room.Error

/-! # Chat errors

What ends a chat operation. Some errors concern one command only, and the command loop goes on after
them; the others end the program with an exit status of their own.
-/

namespace HostChat

inductive ChatError where
  | sharedResource (error : RoomError)
  /-- Notifications could not be set up, or stopped coming. -/
  | signal (reason : String)
  /-- The console reached the end of its input. -/
  | input
  | output (fault : Fault)
  | usage (reason : String)
  | roomFull
  /-- No slot was free, and the message was dropped. -/
  | mailboxFull
  | overflow (bytes limit : Nat)
  | unknownParticipant (id : ParticipantId)
  /-- The participant could not be notified. -/
  | unreachable (id : ParticipantId) (fault : Fault)
deriving DecidableEq, Repr

namespace ChatError

def message : ChatError → String
  | .sharedResource error => s!"shared resource error: {error.message}"
  | .signal reason => s!"signal error: {reason}"
  | .input => "end of input"
  | .output fault => s!"writing output failed: {fault.message}"
  | .usage reason => s!"usage: {reason}"
  | .roomFull => "room is full"
  | .mailboxFull => "mailbox is full, message dropped"
  | .overflow bytes limit => s!"message is {bytes} bytes, the limit is {limit}"
  | .unknownParticipant id => s!"{id} is not in this room"
  | .unreachable id fault => s!"cannot reach {id}: {fault.message}"

def exitCode : ChatError → Nat
  | .sharedResource _ => 2
  | .usage _ => 3
  | .input => 4
  | .signal _ => 5
  | .roomFull => 6
  | .mailboxFull => 7
  | .overflow _ _ => 8
  | .unknownParticipant _ | .unreachable _ _ => 9
  | .output _ => 10

/-- Whether the command loop can go on after the error. -/
def isRecoverable : ChatError → Bool
  | .usage _ | .mailboxFull | .overflow _ _ | .unknownParticipant _ | .unreachable _ _ => true
  | .sharedResource _ | .signal _ | .input | .output _ | .roomFull => false

def emptyMessage : ChatError := .usage "message must not be empty"

/-- A room error as the user of a session meets it. -/
def ofRoom : RoomError → ChatError
  | .roomFull => .roomFull
  | .mailboxFull => .mailboxFull
  | .overflow bytes => .overflow bytes maxMessageBytes
  | .emptyMessage => emptyMessage
  | error => .sharedResource error

end ChatError

end HostChat
