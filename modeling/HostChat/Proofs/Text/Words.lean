import HostChat.Text.Blank
import Mathlib.Data.List.TakeWhile

/-! # Gaps and words

A text is cut where white space ends and where it begins. A gap has nothing else in it, a word has none
of it, and a text breaks where it is over or goes on with white space. So there is one way only to see
a text as a gap, a word and a break, and it is the way in which words are split off.
-/

namespace HostChat.Text

variable {text lead word rest : List Char}

/-- White space, as much as there is of it. -/
def IsGap (text : List Char) : Prop := ∀ c ∈ text, isBlank c = true

/-- A gap that can be seen. -/
def IsSpace (text : List Char) : Prop := text ≠ [] ∧ IsGap text

def IsWord (text : List Char) : Prop := text ≠ [] ∧ ∀ c ∈ text, isBlank c = false

-- There are few characters in a text, and a great many of them altogether.
instance (text : List Char) : Decidable (IsWord text) :=
  haveI : Decidable (∀ c ∈ text, isBlank c = false) := List.decidableBAll _ text
  inferInstanceAs (Decidable (text ≠ [] ∧ ∀ c ∈ text, isBlank c = false))

/-- The text is over, or it goes on with white space. -/
def Breaks (text : List Char) : Prop := ∀ c ∈ text.head?, isBlank c = true

/-- The text begins, and not with white space. -/
def Starts (text : List Char) : Prop := ∃ c ∈ text.head?, isBlank c = false

theorem isGap_nil : IsGap [] := nofun

theorem isSpace_single : IsSpace [' '] :=
  ⟨List.cons_ne_nil _ _, fun _ member => List.mem_singleton.mp member ▸ by decide⟩

/-- No digit is white space. -/
theorem isBlank_of_isDigit {c : Char} (digit : c.isDigit = true) : isBlank c = false := by
  have bounds : 48 ≤ c.toNat ∧ c.toNat ≤ 57 := by
    simpa [Char.isDigit, UInt32.le_iff_toNat_le] using digit
  have apart : ∀ range ∈ blankRanges, range.2 < 48 ∨ 57 < range.1 := by decide
  rw [isBlank, List.any_eq_false]
  intro range member
  have outside := apart range member
  simp only [Bool.and_eq_true, decide_eq_true_eq]
  omega

theorem IsWord.starts (isWord : IsWord word) (rest : List Char) : Starts (word ++ rest) := by
  obtain ⟨some, solid⟩ := isWord
  cases word with
  | nil => exact absurd rfl some
  | cons c others => exact ⟨c, rfl, solid c List.mem_cons_self⟩

theorem IsSpace.breaks (space : IsSpace lead) (rest : List Char) : Breaks (lead ++ rest) := by
  obtain ⟨some, gap⟩ := space
  cases lead with
  | nil => exact absurd rfl some
  | cons first others =>
    intro c found
    cases found
    exact gap first List.mem_cons_self

/-- White space lies between a break and what begins after it. -/
theorem Breaks.isSpace (breaks : Breaks (lead ++ rest)) (gap : IsGap lead) (starts : Starts rest) :
    IsSpace lead := by
  refine ⟨?_, gap⟩
  rintro rfl
  obtain ⟨c, first, solid⟩ := starts
  have blank := breaks c first
  rw [solid] at blank
  cases blank

theorem Starts.trimStart_eq (starts : Starts text) : trimStart text = text := by
  obtain ⟨c, first, solid⟩ := starts
  cases text with
  | nil => cases first
  | cons head others =>
    cases first
    exact List.dropWhile_cons_of_neg (by simp [solid])

private theorem trimStart_of_isGap (gap : IsGap text) : trimStart text = [] :=
  List.dropWhile_eq_nil_iff.mpr gap

theorem trimStart_append (gap : IsGap lead) (starts : Starts rest) :
    trimStart (lead ++ rest) = rest :=
  (List.dropWhile_append_of_pos gap).trans starts.trimStart_eq

theorem isGap_of_trimStart (nothing : trimStart text = []) : IsGap text :=
  List.dropWhile_eq_nil_iff.mp nothing

/-- What is left after the white space in front begins with something else. -/
theorem exists_gap_of_trimStart {first : Char} {others : List Char}
    (left : trimStart text = first :: others) :
    ∃ lead, IsGap lead ∧ Starts (first :: others) ∧ text = lead ++ first :: others := by
  have solid := List.head?_dropWhile_not isBlank text
  rw [← trimStart, left] at solid
  refine ⟨text.takeWhile isBlank, fun c member => List.mem_takeWhile_imp member,
    ⟨first, rfl, solid⟩, ?_⟩
  rw [← left, trimStart, List.takeWhile_append_dropWhile]

theorem splitWord_of_isGap (gap : IsGap text) : splitWord text = ([], []) := by
  rw [splitWord, trimStart_of_isGap gap]
  rfl

theorem splitWord_append_word (gap : IsGap lead) (isWord : IsWord word) (breaks : Breaks rest) :
    splitWord (lead ++ (word ++ rest)) = (word, rest) := by
  have solid : ∀ c ∈ word, (!isBlank c) = true := fun c member => by rw [isWord.2 c member]; rfl
  have left : rest.takeWhile (!isBlank ·) = [] ∧ rest.dropWhile (!isBlank ·) = rest := by
    cases rest with
    | nil => exact ⟨rfl, rfl⟩
    | cons head others =>
      have blank : ¬(!isBlank head) = true := by simp [breaks head rfl]
      exact ⟨List.takeWhile_cons_of_neg blank, List.dropWhile_cons_of_neg blank⟩
  rw [splitWord, trimStart_append gap (isWord.starts rest), List.takeWhile_append_of_pos solid,
    List.dropWhile_append_of_pos solid, left.1, left.2, List.append_nil]

/-- Splitting a word off finds the only one that can be seen in front. -/
theorem splitWord_eq_iff : splitWord text = (word, rest) ↔
    (word = [] ∧ rest = [] ∧ IsGap text) ∨
      (IsWord word ∧ Breaks rest ∧ ∃ lead, IsGap lead ∧ text = lead ++ (word ++ rest)) := by
  constructor
  · intro split
    cases left : trimStart text with
    | nil =>
      have gap := isGap_of_trimStart left
      rw [splitWord_of_isGap gap] at split
      cases split
      exact .inl ⟨rfl, rfl, gap⟩
    | cons first others =>
      obtain ⟨lead, gap, ⟨_, same, solid⟩, whole⟩ := exists_gap_of_trimStart left
      cases same
      have joined := splitWord_append text
      rw [split, left] at joined
      obtain ⟨taken, dropped⟩ := Prod.mk.inj split
      refine .inr ⟨⟨?_, ?_⟩, ?_, lead, gap, ?_⟩
      · rw [← taken, left, List.takeWhile_cons_of_pos (by simp [solid])]
        exact List.cons_ne_nil _ _
      · intro c member
        rw [← taken] at member
        simpa using List.mem_takeWhile_imp member
      · intro c found
        have stops := List.head?_dropWhile_not (!isBlank ·) (trimStart text)
        rw [dropped, Option.mem_def.mp found] at stops
        simpa using stops
      · rw [joined, whole]
  · rintro (⟨rfl, rfl, gap⟩ | ⟨isWord, breaks, lead, gap, rfl⟩)
    · exact splitWord_of_isGap gap
    · exact splitWord_append_word gap isWord breaks

/-- A gap ends where something begins, so it can be read off the whole. -/
theorem gap_append_inj {other tail : List Char} (gap : IsGap lead) (starts : Starts rest)
    (otherGap : IsGap other) (tailStarts : Starts tail) (same : lead ++ rest = other ++ tail) :
    lead = other ∧ rest = tail := by
  have tails : rest = tail := by
    rw [← trimStart_append gap starts, same, trimStart_append otherGap tailStarts]
  subst tails
  exact ⟨List.append_cancel_right same, rfl⟩

theorem word_append_inj {other tail : List Char} (isWord : IsWord word) (breaks : Breaks rest)
    (otherWord : IsWord other) (tailBreaks : Breaks tail) (same : word ++ rest = other ++ tail) :
    word = other ∧ rest = tail := by
  have split := splitWord_append_word isGap_nil isWord breaks
  rw [List.nil_append, same, ← List.nil_append (other ++ tail),
    splitWord_append_word isGap_nil otherWord tailBreaks] at split
  obtain ⟨words, rests⟩ := Prod.mk.inj split
  exact ⟨words.symm, rests.symm⟩

end HostChat.Text
