import HostChat.Command
import HostChat.Proofs.Text.Decimal
import HostChat.Proofs.Text.Words

/-! # The grammar of commands

What can be typed is a few forms of lines, each of them a sequence of gaps, words and texts. A line
has one of these forms in one way at most, and it is read as a command exactly if it has one.
-/

namespace HostChat

namespace Command

open Text

variable {line : String} {command : Command} {rest : List Char}

/-- A line with a word of its own. What stands behind the word is not looked at. -/
structure BareLine where
  lead : List Char
  rest : List Char
  lead_isGap : IsGap lead
  rest_breaks : Breaks rest

def BareLine.toList (parts : BareLine) (word : String) : List Char :=
  parts.lead ++ (word.toList ++ parts.rest)

/-- A line that says something. The text goes on to the end of the line. -/
structure SayLine where
  lead : List Char
  space : List Char
  text : List Char
  lead_isGap : IsGap lead
  space_isSpace : IsSpace space
  text_starts : Starts text

def SayLine.toList (parts : SayLine) : List Char :=
  parts.lead ++ ("/say".toList ++ (parts.space ++ parts.text))

/-- A line that tells somebody something. -/
structure TellLine where
  lead : List Char
  before : List Char
  target : List Char
  after : List Char
  text : List Char
  lead_isGap : IsGap lead
  before_isSpace : IsSpace before
  target_isWord : IsWord target
  after_isSpace : IsSpace after
  text_starts : Starts text

def TellLine.toList (parts : TellLine) : List Char :=
  parts.lead ++ ("/tell".toList ++ (parts.before ++ (parts.target ++ (parts.after ++ parts.text))))

/-- The lines of the grammar, and the commands that they stand for. -/
inductive Reads (line : List Char) : Command → Prop where
  | me (parts : BareLine) (whole : parts.toList "/me" = line) : Reads line .me
  | help (parts : BareLine) (whole : parts.toList "/help" = line) : Reads line .help
  | exit (parts : BareLine) (whole : parts.toList "/exit" = line) : Reads line .exit
  | say (parts : SayLine) (whole : parts.toList = line) : Reads line (.say (String.ofList parts.text))
  | tell {target : ParticipantId} (parts : TellLine) (whole : parts.toList = line)
      (named : ParticipantId.parse (String.ofList parts.target) = .ok target) :
      Reads line (.tell target (String.ofList parts.text))

/-! ### Lines are taken apart in one way -/

theorem SayLine.toList_injective : Function.Injective SayLine.toList := by
  rintro ⟨lead, space, text, gap, isSpace, starts⟩
    ⟨otherLead, otherSpace, otherText, otherGap, otherIsSpace, otherStarts⟩ same
  have isWord : IsWord "/say".toList := by decide
  obtain ⟨rfl, same⟩ := gap_append_inj gap (isWord.starts _) otherGap (isWord.starts _) same
  obtain ⟨rfl, rfl⟩ :=
    gap_append_inj isSpace.2 starts otherIsSpace.2 otherStarts (List.append_cancel_left same)
  rfl

theorem TellLine.toList_injective : Function.Injective TellLine.toList := by
  rintro ⟨lead, before, target, after, text, gap, first, isWord, second, starts⟩
    ⟨otherLead, otherBefore, otherTarget, otherAfter, otherText, otherGap, otherFirst, otherIsWord,
      otherSecond, otherStarts⟩ same
  have isCommand : IsWord "/tell".toList := by decide
  obtain ⟨rfl, same⟩ := gap_append_inj gap (isCommand.starts _) otherGap (isCommand.starts _) same
  obtain ⟨rfl, same⟩ := gap_append_inj first.2 (isWord.starts _) otherFirst.2
    (otherIsWord.starts _) (List.append_cancel_left same)
  obtain ⟨rfl, same⟩ :=
    word_append_inj isWord (second.breaks _) otherIsWord (otherSecond.breaks _) same
  obtain ⟨rfl, rfl⟩ := gap_append_inj second.2 starts otherSecond.2 otherStarts same
  rfl

/-! ### Reading lines -/

private theorem messageText_append {name : String} {gap text : List Char} (isGap : IsGap gap)
    (starts : Starts text) : messageText name (gap ++ text) = .ok (String.ofList text) := by
  rw [messageText, trimStart_append isGap starts]
  obtain ⟨c, first, -⟩ := starts
  cases text with
  | nil => cases first
  | cons head others => rfl

private theorem exists_gap_of_messageText {name text : String}
    (success : messageText name rest = .ok text) :
    ∃ gap, IsGap gap ∧ Starts text.toList ∧ rest = gap ++ text.toList := by
  simp only [messageText] at success
  cases left : trimStart rest with
  | nil =>
    rw [left] at success
    cases success
  | cons first others =>
    rw [left] at success
    cases success
    rw [String.toList_ofList]
    exact exists_gap_of_trimStart left

/-- A word that is split off stands behind a gap, and white space or nothing behind it. -/
private theorem exists_gap_of_splitWord {text word : List Char} (isWord : IsWord word)
    (split : splitWord text = (word, rest)) :
    Breaks rest ∧ ∃ lead, IsGap lead ∧ lead ++ (word ++ rest) = text := by
  rcases splitWord_eq_iff.mp split with ⟨rfl, -, -⟩ | ⟨-, breaks, lead, gap, whole⟩
  · exact absurd rfl isWord.1
  · exact ⟨breaks, lead, gap, whole.symm⟩

private theorem parseTell_of_splitWord {text word : List Char} (isWord : IsWord word)
    (split : splitWord text = (word, rest)) :
    parseTell text = (do
      let target ← (ParticipantId.parse (String.ofList word)).mapError .badTarget
      return .tell target (← messageText "/tell" rest)) := by
  cases word with
  | nil => exact absurd rfl isWord.1
  | cons head others => simp only [parseTell, split]

private theorem parseTell_append {before word after text : List Char} {target : ParticipantId}
    (first : IsGap before) (isWord : IsWord word) (second : IsSpace after) (starts : Starts text)
    (named : ParticipantId.parse (String.ofList word) = .ok target) :
    parseTell (before ++ (word ++ (after ++ text))) = .ok (.tell target (String.ofList text)) := by
  have split := splitWord_append_word first isWord (second.breaks text)
  rw [parseTell_of_splitWord isWord split, named, messageText_append second.2 starts]
  rfl

private theorem exists_parts_of_parseTell (success : parseTell rest = .ok command) :
    ∃ before word after text target, IsGap before ∧ IsWord word ∧ IsSpace after ∧
      Starts text ∧ rest = before ++ (word ++ (after ++ text)) ∧
        ParticipantId.parse (String.ofList word) = .ok target ∧
          command = .tell target (String.ofList text) := by
  rcases split : splitWord rest with ⟨word, others⟩
  rcases splitWord_eq_iff.mp split with ⟨rfl, -, -⟩ | ⟨isWord, breaks, before, gap, whole⟩
  · simp only [parseTell, split] at success
    cases success
  · rw [parseTell_of_splitWord isWord split] at success
    cases named : ParticipantId.parse (String.ofList word) with
    | error invalid =>
      rw [named] at success
      cases success
    | ok target =>
      cases written : messageText "/tell" others with
      | error problem =>
        rw [named, written] at success
        cases success
      | ok text =>
        rw [named, written] at success
        cases success
        obtain ⟨after, isGap, starts, rfl⟩ := exists_gap_of_messageText written
        refine ⟨before, word, after, text.toList, target, gap, isWord,
          breaks.isSpace isGap starts, starts, whole, named, ?_⟩
        rw [String.ofList_toList]

theorem reads_of_parse (success : parse line = .ok command) : Reads line.toList command := by
  rcases split : splitWord line.toList with ⟨word, rest⟩
  have bare {name : String} (isWord : IsWord name.toList) (named : String.ofList word = name) :
      ∃ parts : BareLine, parts.toList name = line.toList ∧ parts.rest = rest := by
    obtain rfl : word = name.toList := by rw [← named, String.toList_ofList]
    obtain ⟨breaks, lead, gap, whole⟩ := exists_gap_of_splitWord isWord split
    exact ⟨⟨lead, rest, gap, breaks⟩, whole, rfl⟩
  simp only [parse, split] at success
  split at success
  next => cases success
  next named =>
    cases success
    obtain ⟨parts, whole, -⟩ := bare (by decide) named
    exact .me parts whole
  next named =>
    cases success
    obtain ⟨parts, whole, -⟩ := bare (by decide) named
    exact .help parts whole
  next named =>
    cases success
    obtain ⟨parts, whole, -⟩ := bare (by decide) named
    exact .exit parts whole
  next named =>
    obtain ⟨parts, whole, rfl⟩ := bare (by decide) named
    obtain ⟨before, word, after, text, target, isGap, isWord, second, starts, same, called, rfl⟩ :=
      exists_parts_of_parseTell success
    have breaks := parts.rest_breaks
    rw [same] at breaks
    have first := breaks.isSpace isGap (isWord.starts _)
    refine .tell ⟨parts.lead, before, word, after, text, parts.lead_isGap, first, isWord, second,
      starts⟩ ?_ called
    rw [← whole, BareLine.toList, same]
    rfl
  next named =>
    obtain ⟨parts, whole, rfl⟩ := bare (by decide) named
    cases written : messageText "/say" parts.rest with
    | error problem =>
      rw [written] at success
      cases success
    | ok text =>
      rw [written] at success
      cases success
      obtain ⟨space, isGap, starts, same⟩ := exists_gap_of_messageText written
      have breaks := parts.rest_breaks
      rw [same] at breaks
      have parted : parts.lead ++ ("/say".toList ++ (space ++ text.toList)) = line.toList := by
        rw [← whole, BareLine.toList, same]
      have reads : Reads line.toList (.say (String.ofList text.toList)) :=
        .say ⟨parts.lead, space, text.toList, parts.lead_isGap, breaks.isSpace isGap starts, starts⟩
          parted
      rwa [String.ofList_toList] at reads
  next => cases success

theorem parse_of_reads (reads : Reads line.toList command) : parse line = .ok command := by
  have split {word : String} {lead rest : List Char} (isWord : IsWord word.toList)
      (gap : IsGap lead) (breaks : Breaks rest) (whole : lead ++ (word.toList ++ rest) = line.toList) :
      splitWord line.toList = (word.toList, rest) := by
    rw [← whole]
    exact splitWord_append_word gap isWord breaks
  cases reads with
  | me parts whole =>
    rw [parse, split (by decide) parts.lead_isGap parts.rest_breaks whole]
    rfl
  | help parts whole =>
    rw [parse, split (by decide) parts.lead_isGap parts.rest_breaks whole]
    rfl
  | exit parts whole =>
    rw [parse, split (by decide) parts.lead_isGap parts.rest_breaks whole]
    rfl
  | say parts whole =>
    have breaks := parts.space_isSpace.breaks parts.text
    have written : messageText "/say" (parts.space ++ parts.text) = .ok (String.ofList parts.text) :=
      messageText_append parts.space_isSpace.2 parts.text_starts
    rw [parse, split (by decide) parts.lead_isGap breaks whole]
    exact congrArg (Except.map Command.say) written
  | tell parts whole named =>
    have breaks := parts.before_isSpace.breaks (parts.target ++ (parts.after ++ parts.text))
    rw [parse, split (by decide) parts.lead_isGap breaks whole]
    exact parseTell_append parts.before_isSpace.2 parts.target_isWord parts.after_isSpace
      parts.text_starts named

private theorem isWord_toString (id : ParticipantId) : IsWord (toString id).toList := by
  refine ⟨?_, fun c member => ?_⟩
  · rw [id.toList_toString]
    exact Nat.toDigits_ne_nil
  · rw [id.toList_toString] at member
    exact isBlank_of_isDigit (Nat.isDigit_of_mem_toDigits (by decide) (by decide) member)

private theorem reads_tell (id : ParticipantId) {text : String} (starts : Starts text.toList) :
    Reads ("/tell " ++ toString id ++ " " ++ text).toList (.tell id text) := by
  have named : ParticipantId.parse (String.ofList (toString id).toList) = .ok id := by
    rw [String.ofList_toList, id.parse_toString]
  have parted : [] ++ ("/tell".toList ++ ([' '] ++ ((toString id).toList ++ ([' '] ++ text.toList)))) =
      ("/tell " ++ toString id ++ " " ++ text).toList := by
    simp [String.toList_append]
  have reads : Reads _ (.tell id (String.ofList text.toList)) :=
    .tell ⟨[], [' '], (toString id).toList, [' '], text.toList, isGap_nil, isSpace_single,
      isWord_toString id, isSpace_single, starts⟩ parted named
  rwa [String.ofList_toList] at reads

private theorem reads_say {text : String} (starts : Starts text.toList) :
    Reads ("/say " ++ text).toList (.say text) := by
  have parted : [] ++ ("/say".toList ++ ([' '] ++ text.toList)) = ("/say " ++ text).toList := by
    simp [String.toList_append]
  have reads : Reads _ (.say (String.ofList text.toList)) :=
    .say ⟨[], [' '], text.toList, isGap_nil, isSpace_single, starts⟩ parted
  rwa [String.ofList_toList] at reads

/-- A line is read as a command exactly if it is a line of the grammar that stands for it, and in one
way only; any other line is turned down with advice on the usage. What is said or told is read as it
was written. -/
theorem parse_follows_grammar (line : String) :
    (∀ command, parse line = .ok command ↔ Reads line.toList command) ∧
    ((∀ command, ¬Reads line.toList command) → ∃ problem reason,
      parse line = .error problem ∧ ChatError.ofCommand problem = .usage reason) ∧
    (∀ one other : SayLine, one.toList = line.toList → other.toList = line.toList → one = other) ∧
    (∀ one other : TellLine, one.toList = line.toList → other.toList = line.toList → one = other) ∧
    ∀ (id : ParticipantId) (text : String), Starts text.toList →
      parse ("/tell " ++ toString id ++ " " ++ text) = .ok (.tell id text) ∧
        parse ("/say " ++ text) = .ok (.say text) := by
  refine ⟨fun command => ⟨reads_of_parse, parse_of_reads⟩, fun nothing => ?_, ?_, ?_, ?_⟩
  · cases outcome : parse line with
    | ok command => exact absurd (reads_of_parse outcome) (nothing command)
    | error problem => exact ⟨problem, _, rfl, rfl⟩
  · intro one other first second
    exact SayLine.toList_injective (first.trans second.symm)
  · intro one other first second
    exact TellLine.toList_injective (first.trans second.symm)
  · intro id text starts
    exact ⟨parse_of_reads (reads_tell id starts), parse_of_reads (reads_say starts)⟩

end Command

end HostChat
