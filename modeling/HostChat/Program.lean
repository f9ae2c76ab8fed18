import HostChat.CommandLine.Args
import HostChat.Console

/-! # The program

A run of the program creates a room or joins one, works as a console, and leaves the room however the
console ended. The exit status tells the cause of a failure, and the console's failure comes before
one in leaving.
-/

namespace HostChat

/-- How a run ends: its exit status and what it complains of. -/
structure Exit where
  status : Nat
  complaint : Option String
deriving DecidableEq, Repr

namespace Exit

def success : Exit := ⟨0, none⟩

def ofError (error : ChatError) : Exit := ⟨error.exitCode, some error.message⟩

def ofResult : Except ChatError Unit → Exit
  | .ok () => success
  | .error error => ofError error

/-- The line on the error output. -/
def complaintLine (exit : Exit) : Option String :=
  exit.complaint.map ("tgchat: " ++ ·)

end Exit

/-- What the arguments ask for. -/
inductive Launch where
  | chat (config : Config) (target : Option ParticipantId)
  | stop (output : String) (exit : Exit)

/-- Arguments that cannot be read are explained by their reader, and not complained of again. -/
def Launch.ofArguments (arguments : List String) (environment : Option String) : Launch :=
  match CommandLine.parse arguments environment with
  | .error (.help form) => .stop (CommandLine.printedHelpText form environment) .success
  | .error (.problem _) => .stop "" ⟨(ChatError.usage "").exitCode, none⟩
  | .ok arguments =>
      match Config.ofNamespace arguments.ns with
      | .ok config => .chat config arguments.target
      | .error error => .stop "" (.ofError error)

namespace Program

inductive Phase where
  /-- The request is sent. Input that comes now waits for the console. -/
  | joining (ahead : List Console.Event)
  | chatting (session : Session) (line : List UInt8)
  | over (result : Except ChatError Unit)

/-- A run between events. -/
structure State (σ : Type) where
  phase : Phase
  screen : Screen
  host : Host σ

variable {σ : Type}

/-- Leaves the room after the console has ended. -/
def depart (session : Session) (result : Except ChatError Unit) (screen : Screen) (host : Host σ) :
    Option (State σ) :=
  (session.leave host).map fun (departure, host) =>
    ⟨.over (do result; discard departure), screen, host⟩

def ofConsole (session : Session) (state : Console.State σ) : Option (State σ) :=
  match state.phase with
  | .running line => some ⟨.chatting session line, state.screen, state.host⟩
  | .ended result => depart session result state.screen state.host

variable [Carrier σ]

def openConsole (session : Session) (ahead : List Console.Event) (screen : Screen)
    (host : Host σ) : Option (State σ) := do
  let state ← Console.run session ahead screen host
  ofConsole session state

/-- Goes on with the outcome of entering a room. -/
def enterConsole (ahead : List Console.Event) (screen : Screen) :
    Except ChatError Session × Host σ → Option (State σ)
  | (.ok session, host) => openConsole session ahead screen host
  | (.error error, host) => some ⟨.over (.error error), screen, host⟩

/-- Creates a room, or asks `target` for one. -/
def start (running : ParticipantId → Bool) (config : Config) (target : Option ParticipantId)
    (me : ParticipantId) (screen : Screen) (host : Host σ) : Option (State σ) :=
  match target with
  | none => do
      let outcome ← Session.create running config.ns me host
      enterConsole [] screen outcome
  | some known =>
      match Session.requestJoin me known host with
      | .ok host => some ⟨.joining [], screen, host⟩
      | .error error => some ⟨.over (.error error), screen, host⟩

/-- Goes on with a join on some more of the inbox. -/
def resumeJoin (config : Config) (me : ParticipantId) (inbox : Inbox) (ahead : List Console.Event)
    (state : State σ) : Option (State σ) := do
  match ← Session.resumeJoin config.ns me inbox state.host with
  | (.waiting, _, host) => some { state with host }
  | (.over result, _, host) => enterConsole ahead state.screen (result, host)

/-- One event. -/
def react (config : Config) (me : ParticipantId) (event : Console.Event) (state : State σ) :
    Option (State σ) :=
  match state.phase with
  | .over _ => some state
  | .chatting session line => do
      let console ← Console.react session event ⟨.running line, state.screen, state.host⟩
      ofConsole session console
  | .joining ahead =>
      match event with
      | .notified envelope => resumeJoin config me ⟨[envelope], false⟩ ahead state
      | .inboxClosed => resumeJoin config me ⟨[], true⟩ ahead state
      | input => some { state with phase := .joining (ahead ++ [input]) }

def run (config : Config) (me : ParticipantId) (events : List Console.Event) (state : State σ) :
    Option (State σ) :=
  events.foldlM (fun state event => react config me event state) state

end Program

end HostChat
