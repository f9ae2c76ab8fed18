import HostChat.Text.Utf8
import Mathlib.Tactic.SplitIfs

/-! # Reading what was written, and lines among bytes

The decoder gives every text back from its own bytes. A line feed is one byte that no sequence
contains: the decoder reads a line feed exactly where there is that byte, and nothing that is pending
before it reaches into what follows.
-/

namespace HostChat.Text.Utf8

/-- The byte of a line feed. -/
def lineFeed : UInt8 := 10

private theorem toNat_byte {value : Nat} (bound : value < 256) :
    (UInt8.ofNat value).toNat = value := by
  rw [UInt8.toNat_ofNat', Nat.mod_eq_of_lt bound]

private theorem first_ascii {value : Nat} (bound : value < 128) :
    first (UInt8.ofNat value) = ([Char.ofNat value], .start) := by
  have small : UInt8.ofNat value < 0x80 := by
    rw [UInt8.lt_iff_toNat_lt, toNat_byte (by omega)]
    exact bound
  rw [first, if_pos small, toNat_byte (by omega)]

private theorem first_of_two : ∀ lead < 32, 2 ≤ lead →
    first (UInt8.ofNat (lead + 0xc0)) = ([], .within lead 1 0x80 0xbf) := by
  decide

private theorem first_of_three : ∀ lead < 16, first (UInt8.ofNat (lead + 0xe0)) =
    ([], .within lead 2 (if lead = 0 then 0xa0 else 0x80) (if lead = 13 then 0x9f else 0xbf)) := by
  decide

private theorem first_of_four : ∀ lead < 5, first (UInt8.ofNat (lead + 0xf0)) =
    ([], .within lead 3 (if lead = 0 then 0x90 else 0x80) (if lead = 4 then 0x8f else 0xbf)) := by
  decide

/-- A byte that goes on with a sequence adds six bits to it. -/
private theorem run_within {value left part : Nat} {low high : UInt8} (rest : List UInt8)
    (above : low.toNat ≤ part + 0x80) (below : part + 0x80 ≤ high.toNat) :
    run (.within value left low high) (UInt8.ofNat (part + 0x80) :: rest) =
      if left ≤ 1 then Char.ofNat (64 * value + part) :: run .start rest
      else run (.within (64 * value + part) (left - 1) 0x80 0xbf) rest := by
  have byte : (UInt8.ofNat (part + 0x80)).toNat = part + 0x80 :=
    toNat_byte (Nat.lt_of_le_of_lt below high.toNat_lt)
  have fits : low ≤ UInt8.ofNat (part + 0x80) ∧ UInt8.ofNat (part + 0x80) ≤ high := by
    rw [UInt8.le_iff_toNat_le, UInt8.le_iff_toNat_le, byte]
    exact ⟨above, below⟩
  rw [run, step, if_pos fits, byte, Nat.add_sub_cancel]
  split_ifs <;> rfl

theorem run_cons (state : State) (byte : UInt8) (rest : List UInt8) :
    run state (byte :: rest) = (step state byte).1 ++ run (step state byte).2 rest := rfl

/-- A byte that begins a sequence gives no character yet. -/
theorem run_of_first {byte : UInt8} {state : State} (begins : first byte = ([], state))
    (rest : List UInt8) : run .start (byte :: rest) = run state rest := by
  rw [run_cons, step, begins, List.nil_append]

/-- The decoder reads a character from its own bytes, whatever follows them. -/
theorem run_utf8EncodeChar (c : Char) (rest : List UInt8) :
    run .start (String.utf8EncodeChar c ++ rest) = c :: run .start rest := by
  have valid : c.toNat < 0xd800 ∨ 0xdfff < c.toNat ∧ c.toNat < 0x110000 := c.valid
  have value : c.val.toNat = c.toNat := rfl
  have toNat_a0 : (0xa0 : UInt8).toNat = 0xa0 := rfl
  have toNat_9f : (0x9f : UInt8).toNat = 0x9f := rfl
  have toNat_90 : (0x90 : UInt8).toNat = 0x90 := rfl
  have toNat_8f : (0x8f : UInt8).toNat = 0x8f := rfl
  have toNat_80 : (0x80 : UInt8).toNat = 0x80 := rfl
  have toNat_bf : (0xbf : UInt8).toNat = 0xbf := rfl
  simp only [String.utf8EncodeChar, value]
  split_ifs with one two three <;> simp only [List.cons_append, List.nil_append]
  · rw [run, step, first_ascii (by omega), Char.ofNat_toNat]
    rfl
  · have whole : 64 * (c.toNat / 64 % 32) + c.toNat % 64 = c.toNat := by omega
    rw [run_of_first (first_of_two _ (by omega) (by omega)), run_within _ (by omega) (by omega),
      if_pos (Nat.le_refl 1), whole, Char.ofNat_toNat]
  · have whole : 64 * (64 * (c.toNat / 4096 % 16) + c.toNat / 64 % 64) + c.toNat % 64 = c.toNat := by
      omega
    rw [run_of_first (first_of_three _ (by omega)), run_within _ (by split_ifs <;> omega)
      (by split_ifs <;> omega), if_neg (by omega), run_within _ (by omega) (by omega),
      if_pos (Nat.le_refl 1), whole, Char.ofNat_toNat]
  · have whole : 64 * (64 * (64 * (c.toNat / 262144 % 8) + c.toNat / 4096 % 64) +
        c.toNat / 64 % 64) + c.toNat % 64 = c.toNat := by omega
    rw [run_of_first (first_of_four _ (by omega)), run_within _ (by split_ifs <;> omega)
      (by split_ifs <;> omega), if_neg (by omega), run_within _ (by omega) (by omega),
      if_neg (by omega), run_within _ (by omega) (by omega), if_pos (Nat.le_refl 1), whole,
      Char.ofNat_toNat]

/-- Reading gives back every text from its own bytes. -/
theorem decode_encode (text : List Char) : decode (encode text) = text := by
  induction text with
  | nil => rfl
  | cons c rest ih =>
    rw [decode, encode, List.flatMap_cons, run_utf8EncodeChar]
    exact congrArg (c :: ·) ih

/-- No sequence goes on with a line feed, and none that is under way amounts to one. -/
def State.Proper : State → Prop
  | .start => True
  | .within value left low _ =>
      0x80 ≤ low.toNat ∧ (if left ≤ 1 then 128 else 2) ≤ 64 * value + (low.toNat - 0x80)

instance (state : State) : Decidable state.Proper :=
  match state with
  | .start => .isTrue trivial
  | .within .. => inferInstanceAs (Decidable (_ ∧ _))

private theorem proper_start : State.start.Proper := trivial

private theorem proper_first (byte : UInt8) : (first byte).2.Proper := by
  have all : ∀ value < 256, (first (UInt8.ofNat value)).2.Proper := by decide +kernel
  simpa only [UInt8.ofNat_toNat] using all byte.toNat byte.toNat_lt

private theorem proper_step {state : State} (proper : state.Proper) (byte : UInt8) :
    (step state byte).2.Proper := by
  cases state with
  | start => exact proper_first byte
  | within value left low high =>
    simp only [step]
    split_ifs with fits last
    · exact proper_start
    · obtain ⟨continues, reached⟩ := proper
      have above := UInt8.le_iff_toNat_le.mp fits.1
      rw [if_neg last] at reached
      refine ⟨Nat.le_refl _, ?_⟩
      split_ifs <;> omega
    · exact proper_first byte

private theorem ofNat_ne_lineFeed {value : Nat} (other : value ≠ 10) : Char.ofNat value ≠ '\n' := by
  intro same
  have code : (Char.ofNat value).toNat = 10 := congrArg Char.toNat same
  by_cases valid : value.isValidChar
  · rw [Char.ofNat, dif_pos valid] at code
    exact other code
  · rw [Char.ofNat, dif_neg valid] at code
    cases code

private theorem lineFeed_notMem_first {byte : UInt8} (other : byte ≠ lineFeed) :
    '\n' ∉ (first byte).1 := by
  have value : byte.toNat ≠ 10 := fun same => other (UInt8.toNat_inj.mp same)
  simp only [first]
  split_ifs <;> simp [replacement, (ofNat_ne_lineFeed value).symm]

private theorem lineFeed_notMem_step {state : State} {byte : UInt8} (proper : state.Proper)
    (other : byte ≠ lineFeed) : '\n' ∉ (step state byte).1 := by
  cases state with
  | start => exact lineFeed_notMem_first other
  | within value left low high =>
    simp only [step]
    split_ifs with fits last
    · obtain ⟨continues, reached⟩ := proper
      have above := UInt8.le_iff_toNat_le.mp fits.1
      rw [if_pos last] at reached
      rw [List.mem_singleton]
      exact (ofNat_ne_lineFeed (by omega)).symm
    · exact List.not_mem_nil
    · rw [List.mem_cons, not_or]
      exact ⟨by decide, lineFeed_notMem_first other⟩

theorem lineFeed_notMem_run {state : State} {bytes : List UInt8} (proper : state.Proper)
    (absent : lineFeed ∉ bytes) : '\n' ∉ run state bytes := by
  induction bytes generalizing state with
  | nil => cases state <;> simp [run, finish, replacement]
  | cons byte rest ih =>
    rw [List.mem_cons, not_or] at absent
    rw [run_cons, List.mem_append, not_or]
    exact ⟨lineFeed_notMem_step proper (Ne.symm absent.1), ih (proper_step proper byte) absent.2⟩

/-- A line feed ends whatever is pending before it. -/
theorem run_append_lineFeed {state : State} (proper : state.Proper) (before rest : List UInt8) :
    run state (before ++ lineFeed :: rest) = run state before ++ '\n' :: run .start rest := by
  induction before generalizing state with
  | nil =>
    cases state with
    | start => rfl
    | within value left low high =>
      have refused : ¬(low ≤ lineFeed ∧ lineFeed ≤ high) := by
        rintro ⟨below, -⟩
        exact absurd (Nat.le_trans proper.1 (UInt8.le_iff_toNat_le.mp below)) (by decide)
      rw [List.nil_append, run_cons, step, if_neg refused]
      rfl
  | cons byte before ih =>
    rw [List.cons_append, run_cons, ih (proper_step proper byte), run_cons, List.append_assoc]

theorem lineFeed_notMem_decode {bytes : List UInt8} (absent : lineFeed ∉ bytes) :
    '\n' ∉ decode bytes :=
  lineFeed_notMem_run proper_start absent

theorem decode_append_lineFeed (before rest : List UInt8) :
    decode (before ++ lineFeed :: rest) = decode before ++ '\n' :: decode rest :=
  run_append_lineFeed proper_start before rest

end HostChat.Text.Utf8

namespace HostChat.Text

theorem ofUtf8_utf8 (text : String) : ofUtf8 (utf8 text) = text := by
  rw [ofUtf8, utf8, Utf8.decode_encode, String.ofList_toList]

theorem utf8_ne_nil {text : String} (some : text.toList ≠ []) : utf8 text ≠ [] := by
  intro empty
  have same := ofUtf8_utf8 text
  rw [empty] at same
  exact some (by rw [← same]; rfl)

end HostChat.Text
