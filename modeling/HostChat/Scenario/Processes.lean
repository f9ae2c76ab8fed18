import HostChat.Notification.Processes
import HostChat.Program

/-! # Scripted runs of the program

A script starts processes of the program under names, types into them, ends their input and kills
them. After each step all processes go on as far as they get. Process ids are shown by the names of
their processes; no text of the script has the digits of one in it, so that what is replaced is never
anything else.
-/

namespace HostChat.Scenario

/-- Puts `new` for every occurrence of `old`, which is not empty, from left to right. -/
def replaceAll (old new : List Char) : Nat → List Char → List Char
  | 0, text => text
  | _, [] => []
  | fuel + 1, c :: rest =>
      if old.isPrefixOf (c :: rest) then
        new ++ replaceAll old new fuel ((c :: rest).drop old.length)
      else c :: replaceAll old new fuel rest

def replaceText (old new text : String) : String :=
  String.ofList (replaceAll old.toList new.toList (text.length + 1) text.toList)

/-- Whether a word, which is not empty, occurs in a text. -/
def occursIn (word : List Char) : List Char → Bool
  | [] => false
  | c :: rest => word.isPrefixOf (c :: rest) || occursIn word rest

inductive ProcessStep where
  /-- Starts a process, to join the room of another one if there is a name for that. -/
  | start (target : Option String)
  | send (text : String)
  | endInput
  | kill
deriving DecidableEq, Repr

/-- The texts of a step. -/
def ProcessStep.texts : ProcessStep → List String
  | .start target => target.toList
  | .send text => [text]
  | .endInput | .kill => []

/-- A process of the program. -/
structure ScriptedProcess where
  id : ParticipantId
  config : Config
  phase : Program.Phase
  screen : Screen
  pipe : SignalPipe
  /-- How it ended; without an exit if it was killed. -/
  ended : Option (Option Exit)

structure ProcessStage where
  ns : String
  /-- The texts of the script. -/
  texts : List String
  /-- The index from which on candidates for process ids are left. -/
  nextId : Nat
  host : Host Processes
  processes : Table String ScriptedProcess

/-- The outcome of a script's step: what was written by each process, by name, and how the process of
the step ended, if the step waits for that. -/
structure ProcessReport where
  screens : List (String × String)
  exit : Option (Option Nat × List String)

/-- The ids that scripted processes may get. -/
def candidateId (index : Nat) : ParticipantId :=
  (ParticipantId.ofInt? (314159 + 17 * index)).getD ⟨1, by decide⟩

/-- The first candidate from an index on whose digits occur in no text, with its index. Digits at one
place of a text rule out one candidate, so there is one among as many as the texts are long. -/
def firstUnmentioned (texts : List String) : Nat → Nat → ParticipantId × Nat
  | 0, index => (candidateId index, index)
  | fuel + 1, index =>
      let id := candidateId index
      if texts.any fun text => occursIn (toString id).toList text.toList then
        firstUnmentioned texts fuel (index + 1)
      else (id, index)

/-- The id for a process, and the index of the next candidate. -/
def freshId (texts : List String) (index : Nat) : ParticipantId × Nat :=
  let (id, index) := firstUnmentioned texts (texts.foldl (fun total text => total + text.length) 0) index
  (id, index + 1)

namespace ProcessStage

def initial (ns : String) (texts : List String) : ProcessStage :=
  ⟨ns, ns :: texts, 0, .empty .empty, .empty⟩

def names (stage : ProcessStage) : List String :=
  (stage.processes.entries.map (·.1)).mergeSort fun first second => first ≤ second

def setProcess (stage : ProcessStage) (name : String) (process : ScriptedProcess) : ProcessStage :=
  { stage with processes := stage.processes.insert name process }

def setCarrier (stage : ProcessStage) (carrier : Processes) : ProcessStage :=
  { stage with host := { stage.host with carrier } }

/-- A text in which each process name in angle brackets stands for the id of the process. -/
def insertIds (stage : ProcessStage) (text : String) : String :=
  stage.processes.entries.foldl
    (fun text (name, process) => replaceText s!"<{name}>" (toString process.id) text) text

def hideIds (stage : ProcessStage) (text : String) : String :=
  stage.processes.entries.foldl
    (fun text (name, process) => replaceText (toString process.id) s!"<{name}>" text) text

/-- Keeps what a process has come to. One whose run is over has ended, but is still there. -/
def keepState (stage : ProcessStage) (name : String) (process : ScriptedProcess)
    (state : Program.State Processes) : ProcessStage :=
  let process := { process with phase := state.phase, screen := state.screen }
  let stage := { stage with host := state.host }
  match state.phase with
  | .over result =>
      (stage.setProcess name { process with ended := some (some (.ofResult result)) }).setCarrier
        (stage.host.carrier.finish process.id)
  | _ => stage.setProcess name process

def feed (stage : ProcessStage) (name : String) (events : List Console.Event) : ProcessStage :=
  match stage.processes.find? name with
  | none => stage
  | some process =>
      if process.ended.isSome then stage
      else
        match Program.run process.config process.id events
            ⟨process.phase, process.screen, stage.host⟩ with
        | some state => stage.keepState name process state
        | none => stage

/-- Lets a process handle the signals it got, and says whether there were any. -/
def handleSignals (stage : ProcessStage) (name : String) : Bool × ProcessStage :=
  match stage.processes.find? name with
  | none => (false, stage)
  | some process =>
      let (chunk, carrier) := stage.host.carrier.drain process.id
      if chunk.isEmpty then (false, stage)
      else
        let (envelopes, pipe) := process.pipe.read chunk
        let stage := (stage.setCarrier carrier).setProcess name { process with pipe }
        (true, stage.feed name (envelopes.map .notified))

def round (stage : ProcessStage) : Bool × ProcessStage :=
  stage.names.foldl
    (fun (moved, stage) name =>
      let (more, stage) := stage.handleSignals name
      (moved || more, stage))
    (false, stage)

def rounds : Nat → ProcessStage → ProcessStage
  | 0, stage => stage
  | fuel + 1, stage =>
      match stage.round with
      | (true, stage) => rounds fuel stage
      | (false, stage) => stage

/-- The number of bytes in all pipes. -/
def unreadBytes (stage : ProcessStage) : Nat :=
  stage.host.carrier.states.entries.foldl (fun total (_, state) =>
    match state with
    | .listening unread => total + unread.length
    | .ended => total) 0

/-- Lets all processes go on until no signal is left. A signal that is handled makes at most one new
one, and that one makes none. -/
def settle (stage : ProcessStage) : ProcessStage :=
  rounds (2 * stage.unreadBytes + 1) stage

def start (stage : ProcessStage) (name : String) (target : Option String) : ProcessStage :=
  let (id, nextId) := freshId stage.texts stage.nextId
  let arguments := (target.bind stage.processes.find?).toList.map fun process => toString process.id
  let stage := { stage with nextId }
  let stage := stage.setCarrier (stage.host.carrier.listen id)
  match Launch.ofArguments arguments (some stage.ns) with
  | .stop output exit =>
      (stage.setProcess name
        ⟨id, .default, .over (.ok ()), ⟨output, none⟩, ⟨[]⟩, some (some exit)⟩).setCarrier
          (stage.host.carrier.finish id)
  | .chat config target =>
      let process : ScriptedProcess := ⟨id, config, .joining [], .empty, ⟨[]⟩, none⟩
      match Program.start stage.host.carrier.isRunning config target id .empty stage.host with
      | some state => stage.keepState name process state
      | none => stage.setProcess name process

def kill (stage : ProcessStage) (name : String) : ProcessStage :=
  match stage.processes.find? name with
  | none => stage
  | some process =>
      if process.ended.isSome then stage
      else
        (stage.setProcess name { process with ended := some none }).setCarrier
          (stage.host.carrier.finish process.id)

def perform (stage : ProcessStage) (name : String) : ProcessStep → ProcessStage
  | .start target => stage.start name target
  | .send text => stage.feed name [.typed (Text.utf8 (stage.insertIds text))]
  | .endInput => stage.feed name Console.inputEnds
  | .kill => stage.kill name

/-- What each process has written since the last time. -/
def takeScreens (stage : ProcessStage) : List (String × String) × ProcessStage :=
  stage.names.foldl
    (fun (screens, stage) name =>
      match stage.processes.find? name with
      | none => (screens, stage)
      | some process =>
          if process.screen.shown.isEmpty then (screens, stage)
          else
            let screen := { process.screen with shown := "" }
            (screens ++ [(name, stage.hideIds process.screen.shown)],
              stage.setProcess name { process with screen }))
    ([], stage)

/-- The lines on the error output that the program itself writes. -/
def complaintLines (exit : Exit) : List String :=
  let lines := (exit.complaintLine.map (·.splitOn "\n")).getD []
  lines.filter (·.startsWith "tgchat: ")

/-- Waits for a process that has ended. After this there is no such process. -/
def reap (stage : ProcessStage) (name : String) :
    Option (Option Nat × List String) × ProcessStage :=
  match stage.processes.find? name with
  | none => (none, stage)
  | some process =>
      let exit := process.ended.join
      let complaints := (exit.map complaintLines).getD []
      (some (exit.map (·.status), complaints.map stage.hideIds),
        stage.setCarrier (stage.host.carrier.remove process.id))

end ProcessStage

/-- One step for the process of a name, and the wait for its end if there is to be one. -/
def ProcessStep.run (name : String) (ends : Bool) (step : ProcessStep) (stage : ProcessStage) :
    ProcessReport × ProcessStage :=
  let stage := (stage.perform name step).settle
  let (screens, stage) := stage.takeScreens
  if ends then
    let (exit, stage) := stage.reap name
    (⟨screens, exit⟩, stage)
  else (⟨screens, none⟩, stage)

/-- The outcome of a run of the program alone: its exit status, what it wrote, and its complaints. -/
structure SoleReport where
  status : Nat
  output : String
  complaints : List String

/-- Runs the program alone on a host, with all its input there from the start. -/
def runAlone (arguments : List String) (environment : Option String) (input : List UInt8) :
    SoleReport :=
  let texts := environment.toList ++ Text.ofUtf8 input :: arguments
  let (id, _) := freshId texts 0
  match Launch.ofArguments arguments environment with
  | .stop output exit => ⟨exit.status, output, ProcessStage.complaintLines exit⟩
  | .chat config target =>
      let stage := (ProcessStage.initial config.ns texts).setCarrier (Processes.empty.listen id)
      let process : ScriptedProcess := ⟨id, config, .joining [], .empty, ⟨[]⟩, none⟩
      let stage :=
        match Program.start stage.host.carrier.isRunning config target id .empty stage.host with
        | some state => stage.keepState "PID" process state
        | none => stage.setProcess "PID" process
      let stage := (stage.feed "PID" [.typed input]).settle
      let stage := (stage.feed "PID" Console.inputEnds).settle
      let (screens, stage) := stage.takeScreens
      let (exit, _) := stage.reap "PID"
      let (status, complaints) := exit.getD (none, [])
      ⟨status.getD 0, String.join (screens.map (·.2)), complaints⟩

end HostChat.Scenario
