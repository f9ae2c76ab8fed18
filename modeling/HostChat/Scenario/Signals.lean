import HostChat.Notification.Processes

/-! # Scripted signals of a process to itself -/

namespace HostChat.Scenario

/-- A signal that a process sends: through the carrier, or with any payload straight to itself. -/
inductive SignalStep where
  | notify (target : ParticipantId) (notification : Notification)
  | raw (offset value : Int32)

def SignalStep.send (me : ParticipantId) (step : SignalStep) (processes : Processes) :
    Except Fault Processes :=
  match step with
  | .notify target notification => Carrier.notify processes me target notification
  | .raw offset value => processes.send me ⟨Signal.base + offset, me.raw, Signal.payloadOf value⟩

structure SignalReport where
  /-- For each signal, why it was not sent. -/
  sent : List (Option Fault)
  received : List Envelope
  /-- The outcome of noting signals a second time. -/
  installedAgain : Except ChatError Unit

def sendSignals (me : ParticipantId) : List SignalStep → Processes → List (Option Fault) × Processes
  | [], processes => ([], processes)
  | step :: steps, processes =>
      match step.send me processes with
      | .ok processes =>
          let (sent, processes) := sendSignals me steps processes
          (none :: sent, processes)
      | .error fault =>
          let (sent, processes) := sendSignals me steps processes
          (some fault :: sent, processes)

def runSignals (me : ParticipantId) (steps : List SignalStep) : SignalReport :=
  let pipe : SignalPipe := ⟨[]⟩
  let (sent, processes) := sendSignals me steps (Processes.empty.listen me)
  let (received, pipe) := pipe.read (processes.drain me).1
  ⟨sent, received, discard (SignalPipe.install (some pipe))⟩

end HostChat.Scenario
