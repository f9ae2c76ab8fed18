/-! # White space and words

White space is the Unicode property White_Space: 25 characters, among them the line breaks and the
no-break spaces, but neither the information separators U+001C to U+001F nor the zero-width
characters. A word runs up to the next white space, and nothing is lost in cutting it off.
-/

namespace HostChat.Text

/-- The members of White_Space, as ranges of code points with both ends included. -/
def blankRanges : List (Nat × Nat) :=
  [(0x09, 0x0d), (0x20, 0x20), (0x85, 0x85), (0xa0, 0xa0), (0x1680, 0x1680), (0x2000, 0x200a),
    (0x2028, 0x2029), (0x202f, 0x202f), (0x205f, 0x205f), (0x3000, 0x3000)]

def isBlank (c : Char) : Bool :=
  blankRanges.any fun (first, last) => first ≤ c.toNat && c.toNat ≤ last

def trimStart (text : List Char) : List Char :=
  text.dropWhile isBlank

/-- The first word of a text and what follows it, white space before the word left out. -/
def splitWord (text : List Char) : List Char × List Char :=
  let text := trimStart text
  (text.takeWhile (!isBlank ·), text.dropWhile (!isBlank ·))

/-- A text without the carriage returns and line feeds at its end. -/
def trimLineEnd (text : List Char) : List Char :=
  (text.reverse.dropWhile fun c => c == '\n' || c == '\r').reverse

theorem splitWord_append (text : List Char) :
    (splitWord text).1 ++ (splitWord text).2 = trimStart text :=
  List.takeWhile_append_dropWhile

end HostChat.Text
