import HostChat.Text.GraphemeExtend
import HostChat.Text.Unprintable

/-! # Quoted text

A text in double quotes, fit to be shown on one line: the backslash, the double quote and the common
control characters have short escapes, and a character that would not be seen on its own (one that
is drawn onto the character before it or is unprintable) is written as its code point in hexadecimal.
-/

namespace HostChat.Text

def hexDigits (n : Nat) : List Char :=
  Nat.toDigits 16 n

/-- Whether a character is drawn onto the one before it. The halfwidth sound marks extend a grapheme as
well, but have a place of their own on the line. -/
def isDrawnOnto (c : Char) : Bool :=
  isGraphemeExtend c && c != '\uff9e' && c != '\uff9f'

def escape (c : Char) : List Char :=
  match c with
  | '\x00' => ['\\', '0']
  | '\t' => ['\\', 't']
  | '\r' => ['\\', 'r']
  | '\n' => ['\\', 'n']
  | '"' => ['\\', '"']
  | '\\' => ['\\', '\\']
  | c =>
      if isDrawnOnto c || isUnprintable c then
        ['\\', 'u', '\x7b'] ++ hexDigits c.toNat ++ ['\x7d']
      else [c]

def quoted (text : String) : String :=
  String.ofList ('"' :: text.toList.flatMap escape ++ ['"'])

end HostChat.Text
