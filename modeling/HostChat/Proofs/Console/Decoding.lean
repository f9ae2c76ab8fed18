import HostChat.Proofs.Console.Lines

/-! # Decoding and cutting into lines

It is all the same whether an input is cut into lines whose texts are read, or its text is read and cut
into lines: no sequence of bytes reaches across a line feed, and one that breaks off at the end of a
line counts as one character there. So bytes and the bytes of their text have the same lines.
-/

namespace HostChat

namespace Text

/-- The bytes of the text that is read from any bytes. -/
def recode (bytes : List UInt8) : List UInt8 :=
  utf8 (ofUtf8 bytes)

/-- The lines of a text, with their line feeds, and what follows the last line feed. -/
def cutLines : List Char → List (List Char) × List Char
  | [] => ([], [])
  | c :: rest =>
      let (lines, last) := cutLines rest
      if c = '\n' then ([c] :: lines, last)
      else
        match lines with
        | [] => ([], c :: last)
        | line :: lines => ((c :: line) :: lines, last)

theorem cutLines_of_notMem {text : List Char} (unended : '\n' ∉ text) : cutLines text = ([], text) := by
  induction text with
  | nil => rfl
  | cons c rest ih =>
    rw [List.mem_cons, not_or] at unended
    obtain ⟨other, within⟩ := unended
    simp only [cutLines, ih within]
    exact if_neg (Ne.symm other)

private theorem cutLines_append_lineFeed {body : List Char} (unended : '\n' ∉ body)
    (rest : List Char) :
    cutLines (body ++ '\n' :: rest) =
      ((body ++ ['\n']) :: (cutLines rest).1, (cutLines rest).2) := by
  induction body with
  | nil => rfl
  | cons c body ih =>
    rw [List.mem_cons, not_or] at unended
    obtain ⟨other, within⟩ := unended
    simp only [List.cons_append, cutLines, ih within]
    exact if_neg (Ne.symm other)

namespace Utf8

variable {state : State} {bytes body rest : List UInt8} {text : List Char}

/-- A byte gives a character or is the beginning of one. -/
private theorem step_progress (state : State) (byte : UInt8) :
    (step state byte).1 ≠ [] ∨ (step state byte).2 ≠ .start := by
  have began : (first byte).1 ≠ [] ∨ (first byte).2 ≠ .start := by
    simp only [first]
    split_ifs <;> simp
  cases state with
  | start => exact began
  | within value left low high =>
    simp only [step]
    split_ifs <;> simp

/-- What is pending gives a character in the end. -/
private theorem run_ne_nil (pending : state ≠ .start) : run state bytes ≠ [] := by
  induction bytes generalizing state with
  | nil =>
    cases state with
    | start => exact absurd rfl pending
    | within value left low high => exact List.cons_ne_nil _ _
  | cons byte rest ih =>
    rw [run_cons]
    rcases step_progress state byte with gives | begins
    · exact List.append_ne_nil_of_left_ne_nil gives _
    · exact List.append_ne_nil_of_right_ne_nil _ (ih begins)

theorem decode_eq_nil_iff : decode bytes = [] ↔ bytes = [] := by
  cases bytes with
  | nil => exact iff_of_true rfl rfl
  | cons byte rest =>
    refine iff_of_false ?_ (List.cons_ne_nil _ _)
    rw [decode, run_cons]
    rcases step_progress .start byte with gives | begins
    · exact List.append_ne_nil_of_left_ne_nil gives _
    · exact List.append_ne_nil_of_right_ne_nil _ (run_ne_nil begins)

private theorem encode_append (front back : List Char) :
    encode (front ++ back) = encode front ++ encode back :=
  List.flatMap_append

/-- The bytes of a text have a line feed only for one in the text. -/
private theorem lineFeed_notMem_encode (absent : '\n' ∉ text) : lineFeed ∉ encode text := by
  intro member
  obtain ⟨before, after, split⟩ := List.append_of_mem member
  have read := decode_encode text
  rw [split, decode_append_lineFeed] at read
  exact absent (read ▸ List.mem_append_cons_self)

end Utf8

open Utf8

variable {bytes body : List UInt8}

theorem recode_eq (bytes : List UInt8) : recode bytes = encode (decode bytes) := by
  rw [recode, utf8, ofUtf8, String.toList_ofList]

/-- The bytes of a text stay what they are. -/
theorem recode_utf8 (text : String) : recode (utf8 text) = utf8 text :=
  congrArg utf8 (ofUtf8_utf8 text)

/-- No text is lost or changed. -/
@[simp] theorem decode_recode (bytes : List UInt8) : decode (recode bytes) = decode bytes := by
  rw [recode_eq, decode_encode]

theorem recode_eq_nil_iff : recode bytes = [] ↔ bytes = [] := by
  rw [← decode_eq_nil_iff, decode_recode, decode_eq_nil_iff]

@[simp] theorem recode_nil : recode [] = [] := rfl

/-- What follows a line feed is read apart from what comes before. -/
private theorem recode_append_lineFeed (body rest : List UInt8) :
    recode (body ++ lineFeed :: rest) = recode body ++ lineFeed :: recode rest := by
  rw [recode_eq, decode_append_lineFeed, encode_append, ← recode_eq, recode_eq rest]
  rfl

theorem lineFeed_notMem_recode (absent : lineFeed ∉ bytes) : lineFeed ∉ recode bytes := by
  rw [recode_eq]
  exact lineFeed_notMem_encode (lineFeed_notMem_decode absent)

end Text

namespace Console

open Text Text.Utf8

variable {input last : List UInt8} {lines : List (List UInt8)}

theorem lineText_recode (raw : List UInt8) : lineText (recode raw) = lineText raw := by
  rw [lineText, lineText, decode_recode]

/-- What stands after complete lines is read apart from them. -/
theorem recode_flatten_append
    (ended : ∀ line ∈ lines, ∃ body, line = body ++ [lineFeed] ∧ lineFeed ∉ body)
    (rest : List UInt8) :
    recode (lines.flatten ++ rest) = (lines.map recode).flatten ++ recode rest := by
  induction lines with
  | nil => rfl
  | cons line lines ih =>
    obtain ⟨body, rfl, -⟩ := ended line List.mem_cons_self
    have tail := ih fun line member => ended line (List.mem_cons_of_mem _ member)
    have alone : recode (body ++ [lineFeed]) = recode body ++ [lineFeed] :=
      recode_append_lineFeed body []
    rw [List.flatten_cons, List.append_assoc, List.append_assoc, List.singleton_append,
      recode_append_lineFeed, tail, List.map_cons, List.flatten_cons, alone, List.append_assoc,
      List.append_assoc, List.singleton_append]

theorem InLines.recode (inLines : InLines input lines last) :
    InLines (Text.recode input) (lines.map Text.recode) (Text.recode last) where
  joined := by rw [← inLines.joined, recode_flatten_append inLines.ended]
  ended := by
    intro other member
    obtain ⟨line, there, rfl⟩ := List.mem_map.mp member
    obtain ⟨body, rfl, unended⟩ := inLines.ended line there
    exact ⟨Text.recode body, recode_append_lineFeed body [], lineFeed_notMem_recode unended⟩
  unended := lineFeed_notMem_recode inLines.unended

/-- The bytes of the text of an input have the lines of the input. -/
theorem cutLines_recode (input : List UInt8) :
    cutLines (recode input) = ((cutLines input).1.map recode, recode (cutLines input).2) :=
  inLines_iff.mp (inLines_iff.mpr rfl : InLines input _ _).recode

/-- The lines of the text of an input are the texts of its lines. -/
theorem cutLines_decode (input : List UInt8) :
    Text.cutLines (decode input) = ((cutLines input).1.map decode, decode (cutLines input).2) := by
  obtain ⟨joined, ended, unended⟩ := (inLines_iff.mpr rfl : InLines input _ _)
  generalize (cutLines input).1 = lines at joined ended ⊢
  generalize (cutLines input).2 = last at joined unended ⊢
  induction lines generalizing input with
  | nil =>
    rw [← joined]
    exact Text.cutLines_of_notMem (lineFeed_notMem_decode unended)
  | cons line lines ih =>
    obtain ⟨body, rfl, within⟩ := ended line List.mem_cons_self
    have tail := ih _ (fun line member => ended line (List.mem_cons_of_mem _ member)) rfl
    have alone : decode (body ++ [lineFeed]) = decode body ++ ['\n'] := decode_append_lineFeed body []
    rw [← joined, List.flatten_cons, List.append_assoc, List.append_assoc, List.singleton_append,
      decode_append_lineFeed, Text.cutLines_append_lineFeed (lineFeed_notMem_decode within), tail,
      List.map_cons, alone]

theorem count_recode (input : List UInt8) : (recode input).count lineFeed = input.count lineFeed := by
  rw [← length_cutLines, cutLines_recode, List.length_map, length_cutLines]

end Console

end HostChat
