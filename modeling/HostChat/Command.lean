import HostChat.ChatError
import HostChat.Text.Blank

/-! # Console commands

A line is a command word, then its arguments, with white space before and between them. The text of
a message runs to the end of the line, its white space at the end included. Words after `/me`,
`/help` and `/exit` are ignored.
-/

namespace HostChat

inductive Command where
  | me
  | tell (target : ParticipantId) (text : String)
  | say (text : String)
  | help
  | exit
deriving DecidableEq, Repr

namespace Command

/-- The summary printed for `/help` and after usage errors. -/
def summary : String :=
  "/me                   get your PID\n" ++
  "/tell <pid> <msg>     send message to particular user\n" ++
  "/say <msg>            broadcast message\n" ++
  "/help                 show this help\n" ++
  "/exit                 exit from chat\n"

/-- Why a line is no command. -/
inductive Problem where
  | empty
  | tellWithoutTarget
  | badTarget (target : ParticipantId.Invalid)
  | withoutText (command : String)
  | unknown (word : String)
deriving DecidableEq, Repr

def Problem.message : Problem → String
  | .empty => "empty command"
  | .tellWithoutTarget => "/tell needs a pid and a message"
  | .badTarget target => s!"/tell: {target.message}"
  | .withoutText command => s!"{command} needs a message"
  | .unknown word => "unknown command " ++ Text.quoted word

/-- The text of a message: what is left of the line from its first visible character on. -/
def messageText (command : String) (rest : List Char) : Except Problem String :=
  match Text.trimStart rest with
  | [] => .error (.withoutText command)
  | text => .ok (String.ofList text)

def parseTell (rest : List Char) : Except Problem Command :=
  match Text.splitWord rest with
  | ([], _) => .error .tellWithoutTarget
  | (word, rest) => do
      let target ← (ParticipantId.parse (String.ofList word)).mapError .badTarget
      return .tell target (← messageText "/tell" rest)

def parse (line : String) : Except Problem Command :=
  let (word, rest) := Text.splitWord line.toList
  match String.ofList word with
  | "" => .error .empty
  | "/me" => .ok .me
  | "/help" => .ok .help
  | "/exit" => .ok .exit
  | "/tell" => parseTell rest
  | "/say" => (messageText "/say" rest).map .say
  | word => .error (.unknown word)

end Command

def ChatError.ofCommand (problem : Command.Problem) : ChatError :=
  .usage problem.message

end HostChat
