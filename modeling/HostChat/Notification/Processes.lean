import HostChat.Notification.Signal
import HostChat.Table

/-! # Processes and their signals

The processes of a host, as far as notifications go. A process that listens has a pipe with the
records of the signals it got; a process that has ended is still there for a while, and signals to it
are sent in vain; any other process is not there.
-/

namespace HostChat

inductive ProcessState where
  | listening (unread : List UInt8)
  | ended
deriving DecidableEq, Repr

structure Processes where
  states : Table ParticipantId ProcessState
deriving DecidableEq, Repr

namespace Processes

def empty : Processes := ⟨.empty⟩

def isRunning (processes : Processes) (id : ParticipantId) : Bool :=
  (processes.states.find? id).isSome

def listen (processes : Processes) (id : ParticipantId) : Processes :=
  ⟨processes.states.insert id (.listening [])⟩

def finish (processes : Processes) (id : ParticipantId) : Processes :=
  ⟨processes.states.insert id .ended⟩

def remove (processes : Processes) (id : ParticipantId) : Processes :=
  ⟨processes.states.erase id⟩

/-- Queues a signal for a process. -/
def send (processes : Processes) (target : ParticipantId) (signal : Signal) :
    Except Fault Processes :=
  match processes.states.find? target with
  | none => .error .noSuchProcess
  | some .ended => .ok processes
  | some (.listening unread) =>
      .ok ⟨processes.states.insert target (.listening (unread ++ signal.noted.bytes))⟩

instance : Carrier Processes where
  notify processes sender target notification :=
    processes.send target (.ofNotification sender notification)

/-- Reads all that is in the pipe of a process. -/
def drain (processes : Processes) (id : ParticipantId) : List UInt8 × Processes :=
  match processes.states.find? id with
  | some (.listening unread) => (unread, processes.listen id)
  | _ => ([], processes)

end Processes

end HostChat
