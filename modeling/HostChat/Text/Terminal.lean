/-! # Terminal control

A text may hold control characters and control sequences, which a terminal obeys and does not show.
Shown are the printable characters outside of sequences; tabs, line feeds, form feeds and carriage
returns are shown there too, and also inside the short kinds of sequences, which they interrupt.

A sequence starts with an escape, and the character after it tells the kind. A control sequence ends
with its first letter; device control strings, commands and private strings go on until they are
ended; any other sequence ends with the first character that is not between U+0020 and U+002F. An
escape starts anew everywhere, and a cancel or substitute character ends everything.

For `withoutControls` an interrupted sequence is over. For `printed` it goes on where the shown
characters end, unless one of them was not ASCII.
-/

namespace HostChat.Text

/-- Where a terminal stands in what it gets. -/
inductive TerminalMode where
  | ground
  | escape
  /-- After an escape and some of the characters U+0020 to U+002F. -/
  | intermediate
  | controlSequence
  /-- At the start of a device control string. -/
  | deviceEntry
  | deviceParameters
  /-- After some of the characters U+0020 to U+002F before a device control string. -/
  | deviceIntermediate
  /-- In a device control string or a private string. -/
  | string
  /-- In a command for the system, which a bell ends. -/
  | command
deriving DecidableEq, Repr

namespace TerminalMode

def isLineSpace (c : Char) : Bool :=
  c == '\t' || c == '\n' || c == '\x0c' || c == '\r'

/-- Whether a character is shown. -/
def shows (mode : TerminalMode) (c : Char) : Bool :=
  match mode with
  | .ground => (' ' ≤ c && c != '\x7f') || isLineSpace c
  | .escape | .intermediate | .controlSequence => isLineSpace c
  | .deviceEntry | .deviceParameters | .deviceIntermediate | .string | .command => false

/-- The mode that the character after an escape leads to. -/
def afterEscape (c : Char) : TerminalMode :=
  if c == '[' then .controlSequence
  else if c == 'P' then .deviceEntry
  else if c == ']' then .command
  else if c == 'X' || c == '^' || c == '_' then .string
  else if ' ' ≤ c && c ≤ '/' then .intermediate
  else if '0' ≤ c && c ≤ '~' then .ground
  else .escape

/-- The mode after a character before a device control string. Parameters come before characters from
U+0020 to U+002F, and a letter ends both. Where something else comes, the string is not for a device,
but it has started. -/
def afterDevice (mode : TerminalMode) (c : Char) : TerminalMode :=
  if '@' ≤ c && c ≤ '~' then .string
  else if ' ' ≤ c && c ≤ '/' then .deviceIntermediate
  else if '0' ≤ c && c ≤ '?' then
    if mode == .deviceEntry || (mode == .deviceParameters && c ≤ ';') then .deviceParameters
    else .string
  else mode

/-- The mode after a character that is not shown. A private string also ends at the byte 9C, which in
UTF-8 is only found inside of characters. -/
def next (mode : TerminalMode) (c : Char) : TerminalMode :=
  if c == '\x1b' then .escape
  else if c == '\x18' || c == '\x1a' then .ground
  else
    match mode with
    | .ground => .ground
    | .escape => afterEscape c
    | .intermediate => if '0' ≤ c && c ≤ '~' then .ground else .intermediate
    | .controlSequence => if '@' ≤ c && c ≤ '~' then .ground else .controlSequence
    | .deviceEntry | .deviceParameters | .deviceIntermediate => afterDevice mode c
    | .string => if (String.utf8EncodeChar c).contains 0x9c then .ground else .string
    | .command => if c == '\x07' then .ground else .command

end TerminalMode

/-- What is shown of a text from a mode on, if an interrupted sequence is over. -/
def shownFrom : TerminalMode → List Char → List Char
  | _, [] => []
  | mode, c :: rest =>
      if mode.shows c then c :: shownFrom .ground rest else shownFrom (mode.next c) rest

def withoutControls (text : String) : String :=
  String.ofList (shownFrom .ground text.toList)

/-- What is shown of a text from a mode on, if an interrupted sequence goes on. After the interruption
the mode is still the one in the sequence. -/
def printedFrom (interrupted : Bool) : TerminalMode → List Char → List Char
  | _, [] => []
  | mode, c :: rest =>
      if (if interrupted then TerminalMode.ground else mode).shows c then
        c :: printedFrom true (if c ≤ '\x7f' then mode else .ground) rest
      else printedFrom false (mode.next c) rest

/-- A text as it is shown when it is printed. -/
def printed (text : String) : String :=
  String.ofList (printedFrom false .ground text.toList)

end HostChat.Text
