import HostChat.Config
import HostChat.Console
import HostChat.Exchange
import HostChat.Scenario.Memory

/-! # Scripted consoles

Consoles of participants that share an exchange take turns, in the order of their ids. In its turn a
console goes on until it has nothing to react to, and turns are taken until no console does anything.
A notification that is handled makes at most one new one, an approval for a request, and approvals
make none; so the queues bound the number of turns.
-/

namespace HostChat.Scenario

/-- A console that runs, with its session and the number of the channel it listens to. -/
structure RunningConsole where
  session : Session
  channel : Nat
  /-- The start of a line, once the first prompt has been written. -/
  line : Option (List UInt8)
  /-- Events from the keyboard that the console has not seen. -/
  keyboard : List Console.Event
  screen : Screen

/-- A participant of a script, by what it has. -/
structure Member where
  inbox : Option Nat
  session : Option Session
  /-- The channel of a join that is under way. -/
  join : Option Nat
  console : Option RunningConsole

def Member.new : Member := ⟨none, none, none, none⟩

structure SessionStage where
  config : Config
  host : Host Exchange
  members : Table ParticipantId Member

/-- What a console wrote in one turn, and how it ended if it did. -/
structure ScreenTurn where
  id : ParticipantId
  shown : String
  ended : Option (Except ChatError Unit)

def weight (envelope : Envelope) : Nat :=
  match envelope.notification with
  | .joinRequest => 2
  | .joinApprove _ | .messageReady _ => 1

/-- How many notifications can be handled at most if nothing else happens. -/
def pendingWeight (exchange : Exchange) : Nat :=
  exchange.channels.foldl (fun total channel =>
    channel.queue.foldl (fun total envelope => total + weight envelope) total) 0

/-- What a console finds in its inbox. -/
def nextNotice? (channel : Nat) (exchange : Exchange) : Option (Console.Event × Exchange) :=
  match exchange.receive channel with
  | (some envelope, exchange) => some (.notified envelope, exchange)
  | (none, _) =>
      if (exchange.inbox channel).closed then some (.inboxClosed, exchange) else none

/-- Lets a console react to its keyboard, then to its inbox. -/
def runTurn (session : Session) (channel : Nat) :
    Nat → List Console.Event → Console.State Exchange → Option (Console.State Exchange)
  | 0, _, state => some state
  | fuel + 1, keyboard, state =>
      match state.phase, keyboard with
      | .ended _, _ => some state
      | .running _, event :: keyboard => do
          let state ← Console.react session event state
          runTurn session channel fuel keyboard state
      | .running _, [] =>
          match nextNotice? channel state.host.carrier with
          | none => some state
          | some (event, carrier) => do
              let host := { state.host with carrier }
              let state ← Console.react session event { state with host }
              runTurn session channel fuel [] state

namespace SessionStage

def initial (config : Config) : SessionStage := ⟨config, .empty .empty, .empty⟩

def member? (stage : SessionStage) (id : ParticipantId) : Option Member :=
  stage.members.find? id

def setMember (stage : SessionStage) (id : ParticipantId) (member : Member) : SessionStage :=
  { stage with members := stage.members.insert id member }

def setExchange (stage : SessionStage) (carrier : Exchange) : SessionStage :=
  { stage with host := { stage.host with carrier } }

/-- The participants with a console, in the order of their ids. -/
def consoleOwners (stage : SessionStage) : List ParticipantId :=
  let owners := stage.members.entries.filterMap fun (id, member) => member.console.map fun _ => id
  owners.mergeSort fun first second => first.toNat ≤ second.toNat

/-- One turn of a participant's console. An ended console gives its channel back, unless the
participant has another by now. -/
def turn (stage : SessionStage) (id : ParticipantId) : List ScreenTurn × SessionStage :=
  match stage.member? id with
  | none => ([], stage)
  | some member =>
      match member.console with
      | none => ([], stage)
      | some console =>
          let started : Console.State Exchange :=
            match console.line with
            | some line => ⟨.running line, console.screen, stage.host⟩
            | none => Console.await [] console.screen stage.host
          let fuel := 2 * console.keyboard.length + pendingWeight stage.host.carrier + 2
          match runTurn console.session console.channel fuel console.keyboard started with
          | none => ([], stage)
          | some state =>
              let shown := state.screen.shown
              let screen := { state.screen with shown := "" }
              let stage := { stage with host := state.host }
              match state.phase with
              | .running line =>
                  let console := { console with line := some line, keyboard := [], screen }
                  (if shown.isEmpty then [] else [⟨id, shown, none⟩],
                    stage.setMember id { member with console := some console })
              | .ended result =>
                  let inbox := member.inbox.or (some console.channel)
                  ([⟨id, shown, some result⟩],
                    stage.setMember id { member with console := none, inbox })

/-- One turn of every console. -/
def round (stage : SessionStage) : List ScreenTurn × SessionStage :=
  stage.consoleOwners.foldl
    (fun (turns, stage) id =>
      let (more, stage) := stage.turn id
      (turns ++ more, stage))
    ([], stage)

/-- Rounds until one in which nothing happens. -/
def rounds : Nat → SessionStage → List ScreenTurn × SessionStage
  | 0, stage => ([], stage)
  | fuel + 1, stage =>
      match stage.round with
      | ([], stage) => ([], stage)
      | (turns, stage) =>
          let (more, stage) := rounds fuel stage
          (turns ++ more, stage)

/-- Lets all consoles go on as far as they get. After the first round only notifications are left to
react to. -/
def settle (stage : SessionStage) : List ScreenTurn × SessionStage :=
  let (turns, stage) := stage.round
  let fuel := pendingWeight stage.host.carrier + stage.consoleOwners.length + 1
  let (more, stage) := rounds fuel stage
  (turns ++ more, stage)

end SessionStage

end HostChat.Scenario
