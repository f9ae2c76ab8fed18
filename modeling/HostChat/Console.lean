import HostChat.Command
import HostChat.Session

/-! # Console

The console reads one command a line and shows the messages that come in while a line is being typed.
It writes a prompt whenever it starts to wait. Input comes in chunks of bytes that need not end where
lines end; the start of a line is kept until its end is there, whatever happens in between.

What an event makes the console write is a list of texts, each written at one go. The first of them
that cannot be written ends the console.
-/

namespace HostChat

/-- A screen. It shows what was written, and it may stop working after some more writes. -/
structure Screen where
  shown : String
  writesLeft : Option Nat
deriving DecidableEq, Repr

namespace Screen

def empty : Screen := ⟨"", none⟩

/-- The screen when no write succeeds any more. -/
def broken (screen : Screen) : Screen :=
  { screen with writesLeft := some 0 }

def write (screen : Screen) (text : String) : Except Fault Screen :=
  match screen.writesLeft with
  | none => .ok { screen with shown := screen.shown ++ text }
  | some 0 => .error .brokenPipe
  | some (left + 1) => .ok ⟨screen.shown ++ text, some left⟩

/-- Writes texts until one of them fails. -/
def writeAll (screen : Screen) : List String → Option Fault × Screen
  | [] => (none, screen)
  | text :: rest =>
      match screen.write text with
      | .ok screen => screen.writeAll rest
      | .error fault => (some fault, screen)

end Screen

namespace Console

def prompt : String := "> "

/-- What the console waits for. -/
inductive Event where
  | typed (bytes : List UInt8)
  /-- Nothing is left to read. -/
  | inputEnd
  | readError
  | notified (envelope : Envelope)
  /-- No more notifications can come. -/
  | inboxClosed
deriving DecidableEq, Repr

inductive Flow where
  | goOn
  | exit
  | fail (error : ChatError)
deriving DecidableEq, Repr

/-- What to write, and how to go on after it. -/
structure Reaction where
  texts : List String
  flow : Flow
deriving DecidableEq, Repr

/-- The lines of an input, with their line feeds, and what follows the last line feed. -/
def cutLines : List UInt8 → List (List UInt8) × List UInt8
  | [] => ([], [])
  | byte :: rest =>
      let (lines, last) := cutLines rest
      if byte = 10 then ([byte] :: lines, last)
      else
        match lines with
        | [] => ([], byte :: last)
        | line :: lines => ((byte :: line) :: lines, last)

def lineText (line : List UInt8) : String :=
  String.ofList (Text.trimLineEnd (Text.Utf8.decode line))

/-- Tells the user of an error that does not end the console. -/
def report (error : ChatError) : Reaction :=
  if error.isRecoverable then
    let hint :=
      match error with
      | .usage _ => [Command.summary]
      | _ => []
    ⟨s!"error: {error.message}\n" :: hint, .goOn⟩
  else ⟨[], .fail error⟩

/-- The console between events: the start of a line, or how it ended. -/
inductive Phase where
  | running (line : List UInt8)
  | ended (result : Except ChatError Unit)

/-- A console with its screen and its host. -/
structure State (σ : Type) where
  phase : Phase
  screen : Screen
  host : Host σ

variable {σ : Type}

/-- Writes the prompt and waits, with the start of a line kept. -/
def await (line : List UInt8) (screen : Screen) (host : Host σ) : State σ :=
  match screen.write prompt with
  | .ok screen => ⟨.running line, screen, host⟩
  | .error fault => ⟨.ended (.error (.output fault)), screen, host⟩

/-- Writes what a reaction asks for, and goes on from there. -/
def conclude (line : List UInt8) (screen : Screen) : Reaction × Host σ → State σ
  | (reaction, host) =>
      match screen.writeAll reaction.texts, reaction.flow with
      | (some fault, screen), _ => ⟨.ended (.error (.output fault)), screen, host⟩
      | (none, screen), .goOn => await line screen host
      | (none, screen), .exit => ⟨.ended (.ok ()), screen, host⟩
      | (none, screen), .fail error => ⟨.ended (.error error), screen, host⟩

/-- Ends the console if it is still running. -/
def State.endWith (state : State σ) (error : ChatError) : State σ :=
  match state.phase with
  | .running _ => { state with phase := .ended (.error error) }
  | .ended _ => state

variable [Carrier σ]

def execute (session : Session) (command : Command) (host : Host σ) : Option (Reaction × Host σ) :=
  match command with
  | .me => some (⟨[s!"PID: {session.me}\n"], .goOn⟩, host)
  | .tell target text =>
      (session.tell target text host).map fun
        | (.ok _, host) => (⟨[], .goOn⟩, host)
        | (.error error, host) => (report error, host)
  | .say text =>
      (session.say text host).map fun
        | (.ok broadcast, host) =>
            let texts := broadcast.failed.map fun (recipient, error) =>
              s!"not delivered to {recipient}: {error.message}\n"
            (⟨texts, .goOn⟩, host)
        | (.error error, host) => (report error, host)
  | .help => some (⟨[Command.summary], .goOn⟩, host)
  | .exit => some (⟨[], .exit⟩, host)

def executeLine (session : Session) (line : List UInt8) (host : Host σ) :
    Option (Reaction × Host σ) :=
  match Command.parse (lineText line) with
  | .ok command => execute session command host
  | .error problem => some (report (.ofCommand problem), host)

def handleEnvelope (session : Session) (envelope : Envelope) (host : Host σ) :
    Option (Reaction × Host σ) :=
  (session.handle envelope host).map fun (message, host) =>
    (⟨message.toList.map fun message => s!"\r{message.render}\n", .goOn⟩, host)

/-- Executes lines one after the other, until one of them ends the console. What follows the last
line is kept. -/
def runLines (session : Session) (last : List UInt8) :
    List (List UInt8) → State σ → Option (State σ)
  | [], ⟨.running _, screen, host⟩ => some ⟨.running last, screen, host⟩
  | line :: lines, ⟨.running _, screen, host⟩ => do
      let result ← executeLine session line host
      runLines session last lines (conclude [] screen result)
  | _, ⟨.ended result, screen, host⟩ => some ⟨.ended result, screen, host⟩

/-- One event. At the end of the input, the start of a line counts as a line, and the console ends
once it finds the end with no such start left. -/
def react (session : Session) (event : Event) (state : State σ) : Option (State σ) :=
  match state.phase, event with
  | .ended _, _ => some state
  | .running line, .typed bytes =>
      let (lines, last) := cutLines (line ++ bytes)
      runLines session last lines state
  | .running line, .inputEnd =>
      if line.isEmpty then some (state.endWith .input) else runLines session [] [line] state
  | .running _, .readError => some (state.endWith .input)
  | .running line, .notified envelope =>
      (handleEnvelope session envelope state.host).map (conclude line state.screen)
  | .running _, .inboxClosed => some (state.endWith (.signal "notification channel closed"))

/-- What a console finds when its input has ended: the end, and the end again. -/
def inputEnds : List Event := [.inputEnd, .inputEnd]

/-- The events of a whole run, from the first prompt on. -/
def run (session : Session) (events : List Event) (screen : Screen) (host : Host σ) :
    Option (State σ) :=
  events.foldlM (fun state event => react session event state) (await [] screen host)

end Console

end HostChat
