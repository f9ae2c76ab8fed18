import HostChat.Scenario.Consoles
import HostChat.Scenario.Rooms

/-! # Scripted sessions

Participants of one process, with an exchange and a host of their own. Every step is a step of one
participant, and after it all consoles go on as far as they get.
-/

namespace HostChat.Scenario

inductive SessionStep where
  | connect
  | disconnect
  | closeInbox
  | dropInbox
  | notify (target : ParticipantId) (notification : Notification)
  | create
  | join (known : ParticipantId)
  | resumeJoin
  | giveUp
  | tell (target : ParticipantId) (text : String)
  | say (text : String)
  /-- Handles the next notification, or all there are. -/
  | receive (all : Bool)
  /-- Takes all notifications without handling them. -/
  | drainInbox
  | handle (envelope : Envelope)
  | info
  | leave
  /-- Loses everything without leaving. -/
  | crash
  | writeStore (start : Nat) (bytes : List UInt8)
  | removeStore
  | openConsole (broken : Bool)
  | typed (bytes : List UInt8)
  | inputEnd
  | readError
  | breakScreen

/-- Why a step does not apply. -/
inductive Refusal where
  | notConnected
  | noSession
  | noInbox
  | noConsole
  | notJoining
  | consoleRunning
  | noStore
  /-- A lock was never given back. -/
  | stuck

inductive SessionOutcome where
  | done
  | refused (reason : Refusal)
  | flag (value : Bool)
  | sent (result : Except Fault Unit)
  | entered (result : Except ChatError Session)
  | waiting
  | told (result : Except ChatError Nat)
  | said (result : Except ChatError Broadcast)
  | received (notifications : List (Envelope × Option Message))
  | envelopes (envelopes : List Envelope)
  | message (message : Option Message)
  | departed (result : Except ChatError Departure)

/-- What the session of a participant sees of its room. -/
structure SessionSummary where
  participants : List ParticipantId
  pending : Nat

/-- The outcome of a step, what consoles showed after it, and the stage. -/
structure SessionResult where
  outcome : SessionOutcome
  turns : List ScreenTurn
  stage : SessionStage

namespace SessionStage

def summary? (stage : SessionStage) (id : ParticipantId) : Option SessionSummary := do
  let member ← stage.member? id
  let session ← member.session
  let (participants, host) ← session.participants stage.host
  let (pending, _) ← session.pendingMessages host
  return ⟨participants, pending⟩

/-- Closes the receiving ends of channels. -/
def dropChannels (stage : SessionStage) (channels : List (Option Nat)) : SessionStage :=
  stage.setExchange ((channels.filterMap id).foldl Exchange.drop stage.host.carrier)

def refuse (stage : SessionStage) (reason : Refusal) : SessionOutcome × SessionStage :=
  (.refused reason, stage)

/-- Goes on after an operation on the host that may have got stuck. -/
def after {α : Type} (stage : SessionStage) (operation : Option (α × Host Exchange))
    (outcome : α → SessionOutcome) : SessionOutcome × SessionStage :=
  match operation with
  | some (value, host) => (outcome value, { stage with host })
  | none => stage.refuse .stuck

def withSession (stage : SessionStage) (member : Member)
    (use : Session → SessionOutcome × SessionStage) : SessionOutcome × SessionStage :=
  match member.session with
  | some session => use session
  | none => stage.refuse .noSession

def withInbox (stage : SessionStage) (member : Member)
    (use : Nat → SessionOutcome × SessionStage) : SessionOutcome × SessionStage :=
  match member.inbox with
  | some channel => use channel
  | none => stage.refuse .noInbox

def withConsole (stage : SessionStage) (member : Member)
    (use : RunningConsole → SessionOutcome × SessionStage) : SessionOutcome × SessionStage :=
  match member.console with
  | some console => use console
  | none => stage.refuse .noConsole

def connect (stage : SessionStage) (id : ParticipantId) : SessionOutcome × SessionStage :=
  let member := (stage.member? id).getD .new
  let (channel, exchange) := stage.host.carrier.connect id
  let stage := (stage.setExchange exchange).dropChannels [member.inbox]
  (.done, stage.setMember id { member with inbox := some channel })

/-- Goes on after a join has come as far as it gets. A join that is over gives its channel back,
unless the participant has another by now. -/
def afterJoin (stage : SessionStage) (id : ParticipantId) (member : Member) (channel : Nat)
    (progress : Option (Joining × List Envelope × Host Exchange)) :
    SessionOutcome × SessionStage :=
  match progress with
  | none => stage.refuse .stuck
  | some (joining, queue, host) =>
      let stage := { stage with host := { host with carrier := host.carrier.keep channel queue } }
      match joining with
      | .waiting =>
          (.waiting, stage.setMember id { member with join := some channel })
      | .over result =>
          let member := { member with inbox := member.inbox.or (some channel), join := none }
          let session := (result.toOption).or member.session
          (.entered result, stage.setMember id { member with session })

/-- Handles notifications until the inbox is empty. Each that is handled makes at most one new one. -/
def receiveAll (session : Session) (channel : Nat) :
    Nat → Host Exchange → Option (List (Envelope × Option Message) × Host Exchange)
  | 0, host => some ([], host)
  | fuel + 1, host =>
      match host.carrier.receive channel with
      | (none, _) => some ([], host)
      | (some envelope, carrier) => do
          let (message, host) ← session.handle envelope { host with carrier }
          let (more, host) ← receiveAll session channel fuel host
          return ((envelope, message) :: more, host)

def openConsole (stage : SessionStage) (id : ParticipantId) (member : Member) (broken : Bool) :
    SessionOutcome × SessionStage :=
  stage.withSession member fun session =>
    stage.withInbox member fun channel =>
      let screen := if broken then Screen.empty.broken else .empty
      let console : RunningConsole := ⟨session, channel, none, [], screen⟩
      (.done, stage.setMember id { member with inbox := none, console := some console })

/-- Gives a console something to read. -/
def press (stage : SessionStage) (id : ParticipantId) (events : List Console.Event) :
    SessionOutcome × SessionStage :=
  match stage.member? id with
  | none => stage.refuse .notConnected
  | some member =>
      stage.withConsole member fun console =>
        let console := { console with keyboard := console.keyboard ++ events }
        (.done, stage.setMember id { member with console := some console })

/-- A step of a participant that has been connected, but for typing. -/
def memberStep (running : ParticipantId → Bool) (step : SessionStep) (id : ParticipantId)
    (member : Member) (stage : SessionStage) : SessionOutcome × SessionStage :=
  match step with
  | .closeInbox =>
      stage.withInbox member fun channel =>
        (.done, stage.setExchange (stage.host.carrier.close channel))
  | .dropInbox =>
      (.flag member.inbox.isSome,
        (stage.dropChannels [member.inbox]).setMember id { member with inbox := none })
  | .notify target notification =>
      match stage.host.notify id target notification with
      | .ok host => (.sent (.ok ()), { stage with host })
      | .error fault => (.sent (.error fault), stage)
  | .create =>
      match Session.create running stage.config.ns id stage.host with
      | none => stage.refuse .stuck
      | some (result, host) =>
          let session := (result.toOption).or member.session
          (.entered result, ({ stage with host }).setMember id { member with session })
  | .join known =>
      stage.withInbox member fun channel =>
        stage.afterJoin id { member with inbox := none } channel
          (Session.join stage.config.ns id known (·.inbox channel) stage.host)
  | .resumeJoin =>
      match member.join with
      | none => stage.refuse .notJoining
      | some channel =>
          stage.afterJoin id member channel
            (Session.resumeJoin stage.config.ns id (stage.host.carrier.inbox channel) stage.host)
  | .giveUp =>
      (.flag member.join.isSome,
        (stage.dropChannels [member.join]).setMember id { member with join := none })
  | .tell target text =>
      stage.withSession member fun session =>
        stage.after (session.tell target text stage.host) fun result =>
          .told (result.map (·.val))
  | .say text =>
      stage.withSession member fun session => stage.after (session.say text stage.host) .said
  | .receive all =>
      stage.withSession member fun session =>
        stage.withInbox member fun channel =>
          let fuel := if all then pendingWeight stage.host.carrier else 1
          stage.after (receiveAll session channel fuel stage.host) .received
  | .drainInbox =>
      stage.withInbox member fun channel =>
        (.envelopes (stage.host.carrier.inbox channel).queue,
          stage.setExchange (stage.host.carrier.keep channel []))
  | .handle envelope =>
      stage.withSession member fun session =>
        stage.after (session.handle envelope stage.host) .message
  | .info => stage.withSession member fun session => (.entered (.ok session), stage)
  | .leave =>
      stage.withSession member fun session =>
        if member.console.isSome then stage.refuse .consoleRunning
        else
          (stage.setMember id { member with session := none }).after (session.leave stage.host)
            .departed
  | .crash =>
      let channels := [member.inbox, member.join, member.console.map (·.channel)]
      (.done, (stage.dropChannels channels).setMember id .new)
  | .openConsole broken => stage.openConsole id member broken
  | .inputEnd => stage.press id Console.inputEnds
  | .readError => stage.press id [.readError]
  | .breakScreen =>
      stage.withConsole member fun console =>
        let console := { console with screen := console.screen.broken }
        (.done, stage.setMember id { member with console := some console })
  | .typed _ | .connect | .disconnect | .writeStore .. | .removeStore => (.done, stage)

/-- A step without what happens on the consoles after it, but for typing. -/
def plainStep (running : ParticipantId → Bool) (step : SessionStep) (id : ParticipantId)
    (stage : SessionStage) : SessionOutcome × SessionStage :=
  match step with
  | .connect => stage.connect id
  | .disconnect => (.done, stage.setExchange (stage.host.carrier.disconnect id))
  | .writeStore start bytes =>
      match writeStore? (RoomNames.ofRoom stage.config.ns id) start bytes stage.host with
      | some host => (.done, { stage with host })
      | none => stage.refuse .noStore
  | .removeStore =>
      let (_, host) := removeStoreName (RoomNames.ofRoom stage.config.ns id) stage.host
      (.done, { stage with host })
  | step =>
      match stage.member? id with
      | some member => stage.memberStep running step id member
      | none => stage.refuse .notConnected

/-- Types pieces of a line one by one. All consoles go on after each piece. -/
def typePieces (id : ParticipantId) : List (List UInt8) → SessionStage → SessionResult
  | [], stage => ⟨.done, [], stage⟩
  | piece :: pieces, stage =>
      match stage.press id [.typed piece] with
      | (.done, stage) =>
          let (turns, stage) := stage.settle
          let result := typePieces id pieces stage
          { result with turns := turns ++ result.turns }
      | (outcome, stage) => ⟨outcome, [], stage⟩

/-- Types bytes, cut after each line feed. -/
def typeBytes (stage : SessionStage) (id : ParticipantId) (bytes : List UInt8) : SessionResult :=
  let (lines, last) := Console.cutLines bytes
  let result := typePieces id (lines ++ if last.isEmpty then [] else [last]) stage
  let (more, stage) := result.stage.settle
  ⟨result.outcome, result.turns ++ more, stage⟩

end SessionStage

def SessionStep.run (running : ParticipantId → Bool) (step : SessionStep) (id : ParticipantId)
    (stage : SessionStage) : SessionResult :=
  match step with
  | .typed bytes =>
      match stage.press id [.typed []] with
      | (.done, _) => stage.typeBytes id bytes
      | (outcome, stage) => ⟨outcome, [], stage⟩
  | step =>
      let (outcome, stage) := stage.plainStep running step id
      let (turns, stage) := stage.settle
      ⟨outcome, turns, stage⟩

/-- Executes a step a number of times, for the outcomes and all that consoles showed. -/
def SessionStep.runRepeatedly (running : ParticipantId → Bool) (step : SessionStep)
    (id : ParticipantId) : Nat → SessionStage →
    List SessionOutcome × List ScreenTurn × SessionStage
  | 0, stage => ([], [], stage)
  | count + 1, stage =>
      let result := step.run running id stage
      let (outcomes, turns, stage) := step.runRepeatedly running id count result.stage
      (result.outcome :: outcomes, result.turns ++ turns, stage)

end HostChat.Scenario
