import HostChat.Text.Terminal

/-! # Help texts

The option `-h` asks for the brief text and `--help` for the full one. Both show what the environment
has for the namespace; lines of it after the first are indented like the explanation they stand in.
The texts are laid out for a terminal, with headings and names in bold, and then shown without any
control sequences, as a text or as it is printed. A sequence that the environment leaves unfinished
goes on up to the next name.
-/

namespace HostChat.CommandLine

inductive HelpForm where
  | brief
  | full
deriving DecidableEq, Repr

/-- How far the explanation of an option is indented. -/
def HelpForm.indentation : HelpForm → Nat
  | .brief => 31
  | .full => 10

/-- A text with all its lines but the first moved to the right. -/
def indentLines (width : Nat) (text : String) : String :=
  String.ofList <| text.toList.flatMap fun c =>
    if c = '\n' then c :: List.replicate width ' ' else [c]

def bold (text : String) : String :=
  "\x1b[1m" ++ text ++ "\x1b[0m"

def heading (text : String) : String :=
  "\x1b[1m\x1b[4m" ++ text ++ "\x1b[0m"

def styledHelpText (form : HelpForm) (environment : Option String) : String :=
  let environment := indentLines form.indentation (environment.getD "")
  match form with
  | .brief =>
      "Chat with other processes on this host\n" ++
      "\n" ++
      heading "Usage:" ++ " " ++ bold "tgchat" ++ " [OPTIONS] [JOIN_PID]\n" ++
      "\n" ++
      heading "Arguments:" ++ "\n" ++
      "  [JOIN_PID]  Process id of a participant whose room to join\n" ++
      "\n" ++
      heading "Options:" ++ "\n" ++
      "      " ++ bold "--namespace" ++ " <NAMESPACE>  " ++
        "Prefix for the shared memory and semaphore names " ++
        "[env: TGCHAT_NAMESPACE=" ++ environment ++ "] [default: tgchat]\n" ++
      "  " ++ bold "-h" ++ ", " ++ bold "--help" ++ "                   " ++
        "Print help (see more with '--help')\n"
  | .full =>
      "Chat with other processes on this host.\n" ++
      "\n" ++
      "Without arguments a new room is created. " ++
        "Pass the process id of any participant to join its room.\n" ++
      "\n" ++
      heading "Usage:" ++ " " ++ bold "tgchat" ++ " [OPTIONS] [JOIN_PID]\n" ++
      "\n" ++
      heading "Arguments:" ++ "\n" ++
      "  [JOIN_PID]\n" ++
      "          Process id of a participant whose room to join\n" ++
      "\n" ++
      heading "Options:" ++ "\n" ++
      "      " ++ bold "--namespace" ++ " <NAMESPACE>\n" ++
      "          Prefix for the shared memory and semaphore names\n" ++
      "          \n" ++
      "          [env: TGCHAT_NAMESPACE=" ++ environment ++ "]\n" ++
      "          [default: tgchat]\n" ++
      "\n" ++
      "  " ++ bold "-h" ++ ", " ++ bold "--help" ++ "\n" ++
      "          Print help (see a summary with '-h')\n"

def helpText (form : HelpForm) (environment : Option String) : String :=
  Text.withoutControls (styledHelpText form environment)

/-- What a run of the program prints for its help. -/
def printedHelpText (form : HelpForm) (environment : Option String) : String :=
  Text.printed (styledHelpText form environment)

end HostChat.CommandLine
