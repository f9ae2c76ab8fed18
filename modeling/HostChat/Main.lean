import HostChat.Notification.Processes
import HostChat.Program

/-! # The program on a terminal

Runs the program with the arguments, the environment and the terminal of this process, on a host of
its own: rooms are kept in the memory of the process, and signals reach no other process.
-/

namespace HostChat.Terminal

/-- The id of this process, which the system shows as the first word about it. -/
def ownId : IO ParticipantId := do
  let description ← IO.FS.readFile "/proc/self/stat"
  let (word, _) := Text.splitWord description.toList
  match ParticipantId.parse (String.ofList word) with
  | .ok id => return id
  | .error invalid => throw (IO.userError invalid.message)

/-- Reads bytes up to the next line feed or the end of the input. -/
partial def readLine (input : IO.FS.Stream) (line : List UInt8) : IO (List UInt8) := do
  match (← input.read 1).toList with
  | [] => return line.reverse
  | byte :: _ =>
      if byte = 10 then return (byte :: line).reverse
      else readLine input (byte :: line)

/-- Shows what was written, and forgets it. -/
def flush (state : Program.State Processes) : IO (Program.State Processes) := do
  let output ← IO.getStdout
  output.putStr state.screen.shown
  output.flush
  return { state with screen := { state.screen with shown := "" } }

/-- A run that waits for a lock that is not given back waits for ever. -/
partial def waitForEver : IO Unit := do
  IO.sleep 1000
  waitForEver

def orWait (step : Option (Program.State Processes)) : IO (Program.State Processes) := do
  match step with
  | some state => return state
  | none =>
      waitForEver
      throw (IO.userError "interrupted")

/-- Handles the signals of this process until there are none, then reads the next line. -/
partial def chat (config : Config) (me : ParticipantId) (pipe : SignalPipe)
    (state : Program.State Processes) : IO Exit := do
  let state ← flush state
  match state.phase with
  | .over result => return .ofResult result
  | _ =>
      let (chunk, carrier) := state.host.carrier.drain me
      let (envelopes, pipe) := pipe.read chunk
      let state := { state with host := { state.host with carrier } }
      let events ←
        if envelopes.isEmpty then do
          let line ← readLine (← IO.getStdin) []
          pure (if line.isEmpty then [Console.Event.inputEnd] else [.typed line])
        else pure (envelopes.map .notified)
      chat config me pipe (← orWait (Program.run config me events state))

end HostChat.Terminal

open HostChat in
def main (arguments : List String) : IO UInt32 := do
  let environment ← IO.getEnv "TGCHAT_NAMESPACE"
  let exit ←
    match Launch.ofArguments arguments environment with
    | .stop output exit =>
        IO.print output
        pure exit
    | .chat config target => do
        let me ← Terminal.ownId
        let host := Host.empty (Processes.empty.listen me)
        let started := Program.start host.carrier.isRunning config target me .empty host
        Terminal.chat config me ⟨[]⟩ (← Terminal.orWait started)
  if let some line := exit.complaintLine then
    IO.eprintln line
  return UInt32.ofNat exit.status
