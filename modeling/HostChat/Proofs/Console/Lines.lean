import HostChat.Console
import HostChat.Proofs.Command.Grammar
import HostChat.Proofs.Text.Utf8

/-! # Lines of a console

Cutting an input into lines loses nothing, and a line has no line feed but at its end. So the text of
a message that was typed in a line has none at all.
-/

namespace HostChat

namespace Text

private theorem trimLineEnd_sublist (text : List Char) : (trimLineEnd text).Sublist text := by
  have trimmed := (List.dropWhile_sublist (l := text.reverse) fun c => c == '\n' || c == '\r').reverse
  rwa [List.reverse_reverse] at trimmed

private theorem trimLineEnd_lineFeed (text : List Char) :
    trimLineEnd (text ++ ['\n']) = trimLineEnd text := by
  simp [trimLineEnd]

end Text

namespace Command

/-- The text of a message is the end of its line, and not empty. -/
theorem parse_eq_tell {line text : String} {target : ParticipantId}
    (success : parse line = .ok (.tell target text)) :
    text.toList ≠ [] ∧ text.toList <:+ line.toList := by
  cases reads_of_parse success with
  | tell parts whole named =>
    rw [String.toList_ofList, ← whole, TellLine.toList]
    obtain ⟨first, begins, -⟩ := parts.text_starts
    constructor
    · intro nothing
      rw [nothing] at begins
      cases begins
    · -- the text stands behind everything else
      refine ⟨parts.lead ++ ("/tell".toList ++ (parts.before ++ (parts.target ++ parts.after))), ?_⟩
      simp only [List.append_assoc]

end Command

namespace Console

open Text.Utf8

/-- A line as it is read: nothing follows its line feed. -/
def IsLine (raw : List UInt8) : Prop := lineFeed ∉ raw.dropLast

instance (raw : List UInt8) : Decidable (IsLine raw) := inferInstanceAs (Decidable (_ ∉ _))

theorem lineFeed_notMem_lineText {raw : List UInt8} (line : IsLine raw) :
    '\n' ∉ (lineText raw).toList := by
  rw [lineText, String.toList_ofList]
  rcases List.eq_nil_or_concat raw with rfl | ⟨body, last, rfl⟩
  · exact List.not_mem_nil
  · rw [List.concat_eq_append, IsLine, List.dropLast_concat] at line
    rw [List.concat_eq_append]
    by_cases ends : last = lineFeed
    · have decoded : decode (body ++ [last]) = decode body ++ ['\n'] := by
        rw [ends, decode_append_lineFeed]
        rfl
      rw [decoded, Text.trimLineEnd_lineFeed]
      exact fun member => lineFeed_notMem_decode line ((Text.trimLineEnd_sublist _).subset member)
    · have absent : lineFeed ∉ body ++ [last] := by
        simp [line, Ne.symm ends]
      exact fun member => lineFeed_notMem_decode absent ((Text.trimLineEnd_sublist _).subset member)

/-- The text of a message that was typed in a line is not empty, and keeps within the line. -/
theorem text_of_line {raw : List UInt8} {target : ParticipantId} {text : String} (line : IsLine raw)
    (parsed : Command.parse (lineText raw) = .ok (.tell target text)) :
    text.toList ≠ [] ∧ '\n' ∉ text.toList := by
  obtain ⟨some, suffix⟩ := Command.parse_eq_tell parsed
  exact ⟨some, fun member => lineFeed_notMem_lineText line (suffix.subset member)⟩

theorem cutLines_append (bytes : List UInt8) :
    (cutLines bytes).1.flatten ++ (cutLines bytes).2 = bytes := by
  induction bytes with
  | nil => rfl
  | cons byte rest ih =>
    rcases cut : cutLines rest with ⟨lines, last⟩
    rw [cut] at ih
    simp only [cutLines, cut]
    split_ifs with ends
    · simpa using ih
    · cases lines <;> simpa using ih

theorem lineFeed_notMem_rest (bytes : List UInt8) : lineFeed ∉ (cutLines bytes).2 := by
  induction bytes with
  | nil => exact List.not_mem_nil
  | cons byte rest ih =>
    rcases cut : cutLines rest with ⟨lines, last⟩
    rw [cut] at ih
    simp only [cutLines, cut]
    split_ifs with ends
    · exact ih
    · cases lines with
      | nil =>
        rw [List.mem_cons, not_or]
        exact ⟨Ne.symm ends, ih⟩
      | cons line lines => exact ih

/-- Every line that is cut off has its only line feed at its end. -/
theorem ended_of_mem {bytes line : List UInt8} (member : line ∈ (cutLines bytes).1) :
    ∃ body, line = body ++ [lineFeed] ∧ lineFeed ∉ body := by
  induction bytes generalizing line with
  | nil => cases member
  | cons byte rest ih =>
    rcases cut : cutLines rest with ⟨lines, last⟩
    simp only [cutLines, cut] at member
    rw [cut] at ih
    split_ifs at member with ends
    · rcases List.mem_cons.mp member with rfl | member
      · exact ⟨[], congrArg (fun byte => [byte]) ends, List.not_mem_nil⟩
      · exact ih member
    · cases lines with
      | nil => cases member
      | cons first lines =>
        rcases List.mem_cons.mp member with rfl | member
        · obtain ⟨body, rfl, within⟩ := ih (List.mem_cons_self ..)
          refine ⟨byte :: body, rfl, ?_⟩
          rw [List.mem_cons, not_or]
          exact ⟨Ne.symm ends, within⟩
        · exact ih (List.mem_cons_of_mem _ member)

/-- Every line that is cut off is a line as it is read. -/
theorem isLine_of_mem {bytes line : List UInt8} (member : line ∈ (cutLines bytes).1) :
    IsLine line := by
  obtain ⟨body, rfl, within⟩ := ended_of_mem member
  rwa [IsLine, List.dropLast_concat]

/-- The lines that an event completes at a console that keeps the start of one, and the start of a line
that is kept after them. -/
def completed (pending : List UInt8) : Event → List (List UInt8) × List UInt8
  | .typed bytes => cutLines (pending ++ bytes)
  | .inputEnd => (if pending.isEmpty then [] else [pending], [])
  | _ => ([], pending)

/-- A console executes nothing but lines as they are read, as long as what it keeps has no line feed. -/
theorem isLine_of_completed {pending line : List UInt8} {event : Event}
    (unended : lineFeed ∉ pending) (member : line ∈ (completed pending event).1) : IsLine line := by
  cases event with
  | typed bytes => exact isLine_of_mem member
  | inputEnd =>
    simp only [completed] at member
    split_ifs at member
    · cases member
    · rw [List.mem_singleton.mp member]
      exact fun inside => unended (List.dropLast_subset pending inside)
  | _ => cases member

theorem lineFeed_notMem_completed {pending : List UInt8} (unended : lineFeed ∉ pending)
    (event : Event) : lineFeed ∉ (completed pending event).2 := by
  cases event with
  | typed bytes => exact lineFeed_notMem_rest _
  | inputEnd => exact List.not_mem_nil
  | _ => exact unended

/-- What follows in an input is cut on its own, after the rest of what was there before. -/
theorem cutLines_append_eq (front back : List UInt8) :
    cutLines (front ++ back) =
      ((cutLines front).1 ++ (cutLines ((cutLines front).2 ++ back)).1,
        (cutLines ((cutLines front).2 ++ back)).2) := by
  induction front with
  | nil => rfl
  | cons byte rest ih =>
    rcases cut : cutLines rest with ⟨lines, last⟩
    rw [cut] at ih
    simp only [List.cons_append, cutLines, ih, cut]
    split_ifs with ends
    · rfl
    · cases lines with
      | nil => simp only [List.nil_append, List.cons_append, cutLines, if_neg ends]
      | cons line lines => rfl

theorem cutLines_of_notMem {bytes : List UInt8} (unended : lineFeed ∉ bytes) :
    cutLines bytes = ([], bytes) := by
  induction bytes with
  | nil => rfl
  | cons byte rest ih =>
    rw [List.mem_cons, not_or] at unended
    obtain ⟨other, within⟩ := unended
    simp only [cutLines, ih within]
    exact if_neg (Ne.symm other)

/-- An input in lines: each of them ends with its only line feed, and what follows them has none. -/
structure InLines (input : List UInt8) (lines : List (List UInt8)) (last : List UInt8) : Prop where
  joined : lines.flatten ++ last = input
  ended : ∀ line ∈ lines, ∃ body, line = body ++ [lineFeed] ∧ lineFeed ∉ body
  unended : lineFeed ∉ last

private theorem cutLines_of_body {body : List UInt8} (unended : lineFeed ∉ body) :
    cutLines (body ++ [lineFeed]) = ([body ++ [lineFeed]], []) := by
  induction body with
  | nil => rfl
  | cons byte rest ih =>
    rw [List.mem_cons, not_or] at unended
    obtain ⟨other, within⟩ := unended
    simp only [List.cons_append, cutLines, ih within]
    exact if_neg (Ne.symm other)

/-- There is one way to see an input in lines, and cutting finds it. -/
theorem inLines_iff {input : List UInt8} {lines : List (List UInt8)} {last : List UInt8} :
    InLines input lines last ↔ cutLines input = (lines, last) := by
  constructor
  · rintro ⟨rfl, ended, unended⟩
    induction lines with
    | nil => exact cutLines_of_notMem unended
    | cons line rest ih =>
      obtain ⟨body, rfl, within⟩ := ended line (List.mem_cons_self ..)
      have tail := ih fun line member => ended line (List.mem_cons_of_mem _ member)
      rw [List.flatten_cons, List.append_assoc, cutLines_append_eq, cutLines_of_body within,
        List.nil_append, tail]
      rfl
  · intro cut
    have joined := cutLines_append input
    have unended := lineFeed_notMem_rest input
    have ended (line : List UInt8) (member : line ∈ (cutLines input).1) := ended_of_mem member
    rw [cut] at joined unended ended
    exact ⟨joined, ended, unended⟩

theorem length_cutLines (input : List UInt8) :
    (cutLines input).1.length = input.count lineFeed := by
  induction input with
  | nil => rfl
  | cons byte rest ih =>
    rcases cut : cutLines rest with ⟨lines, last⟩
    rw [cut] at ih
    simp only [cutLines, cut]
    split_ifs with ends
    · rw [ends, List.length_cons, ih]
      exact List.count_cons_self.symm
    · have skipped : (byte :: rest).count lineFeed = rest.count lineFeed := List.count_cons_of_ne ends
      rw [skipped, ← ih]
      cases lines <;> rfl

end Console

end HostChat
