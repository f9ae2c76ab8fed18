import HostChat.CommandLine.Help
import HostChat.Config

/-! # Command-line arguments

The options are `--namespace` with a value, `-h` and `--help`, and at most one operand names a
participant whose room to join.

Arguments are read from left to right, and the first problem ends the reading. An argument is only
checked when the next option that is known, the next operand or the end is reached: so a request for
help shows what is wrong before it, while an unknown argument hides it.
-/

namespace HostChat.CommandLine

inductive Problem where
  | unknownArgument
  /-- The namespace is given twice. -/
  | argumentConflict
  /-- The option for the namespace has no value. -/
  | invalidValue
  /-- The operand is no participant. -/
  | valueValidation
  /-- An option that takes no value has one. -/
  | tooManyValues
deriving DecidableEq, Repr

/-- Why the reading stops before the end. -/
inductive Stop where
  | help (form : HelpForm)
  | problem (problem : Problem)
deriving DecidableEq, Repr

/-- An argument that is not checked yet. -/
inductive Unchecked where
  | nothing
  | operand (text : String)
  | namespaceOption (value : Option String)
deriving DecidableEq, Repr

structure State where
  unchecked : Unchecked
  ns : Option String
  target : Option ParticipantId
  /-- Whether there was an operand. -/
  hasOperand : Bool
deriving DecidableEq, Repr

/-- What kind of argument a text is where options are allowed. -/
inductive Token where
  | endOfOptions
  | help (form : HelpForm)
  | helpWithValue
  | namespaceOption (value : Option String)
  | unknownOption
  | plain
deriving DecidableEq, Repr

/-- Long options are not abbreviated. A short help option may have anything after it, and a hyphen
alone is no option. -/
def Token.ofArgument (argument : String) : Token :=
  match argument.toList with
  | ['-'] => .plain
  | ['-', '-'] => .endOfOptions
  | '-' :: '-' :: long =>
      let name := String.ofList (long.takeWhile (· != '='))
      let value :=
        match long.dropWhile (· != '=') with
        | [] => none
        | _ :: value => some (String.ofList value)
      match name, value with
      | "help", none => .help .full
      | "help", some _ => .helpWithValue
      | "namespace", value => .namespaceOption value
      | _, _ => .unknownOption
  | '-' :: 'h' :: _ => .help .brief
  | '-' :: _ => .unknownOption
  | _ => .plain

namespace State

def initial : State := ⟨.nothing, none, none, false⟩

/-- Checks the argument that is not checked yet. -/
def settle (state : State) : Except Problem State :=
  match state.unchecked with
  | .nothing => .ok state
  | .operand text =>
      match ParticipantId.parse text with
      | .ok target => .ok { state with unchecked := .nothing, target := some target }
      | .error _ => .error .valueValidation
  | .namespaceOption none => .error .invalidValue
  | .namespaceOption (some ns) =>
      if state.ns.isSome then .error .argumentConflict
      else .ok { state with unchecked := .nothing, ns := some ns }

def readOperand (state : State) (text : String) : Except Problem State :=
  if state.hasOperand then .error .unknownArgument
  else do
    let state ← state.settle
    return { state with unchecked := .operand text, hasOperand := true }

/-- The option for the namespace. A value in the same argument is checked at once. -/
def readNamespace (state : State) (value : Option String) : Except Problem State := do
  let state ← state.settle
  let state := { state with unchecked := .namespaceOption value }
  if value.isSome then state.settle else return state

/-- An argument that is no option: the value that the option before it still needs, or an operand. -/
def readPlain (state : State) (text : String) : Except Problem State :=
  match state.unchecked with
  | .namespaceOption none => .ok { state with unchecked := .namespaceOption (some text) }
  | _ => state.readOperand text

/-- Reads what follows the end of the options. -/
def readOperands (state : State) : List String → Except Stop State
  | [] => state.settle.mapError .problem
  | argument :: rest => do
      let state ← (state.readOperand argument).mapError .problem
      state.readOperands rest

def read (state : State) : List String → Except Stop State
  | [] => state.settle.mapError .problem
  | argument :: rest =>
      match Token.ofArgument argument with
      | .endOfOptions => state.readOperands rest
      | .help form => do
          let _ ← state.settle.mapError .problem
          .error (.help form)
      | .helpWithValue => .error (.problem .tooManyValues)
      | .unknownOption => .error (.problem .unknownArgument)
      | .namespaceOption value => do
          let state ← (state.readNamespace value).mapError .problem
          state.read rest
      | .plain => do
          let state ← (state.readPlain argument).mapError .problem
          state.read rest

end State

/-- The arguments of a run: the namespace and the participant whose room to join. -/
structure Arguments where
  ns : String
  target : Option ParticipantId
deriving DecidableEq, Repr

/-- Reads the arguments. The environment has a namespace for those that give none. -/
def parse (arguments : List String) (environment : Option String) : Except Stop Arguments :=
  (State.initial.read arguments).map fun state =>
    ⟨state.ns.getD (environment.getD defaultNamespace), state.target⟩

end HostChat.CommandLine
