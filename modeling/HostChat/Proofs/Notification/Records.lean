import HostChat.Notification.Signal
import HostChat.Proofs.Memory.Layout
import Mathlib.Tactic.IntervalCases

/-! # Records of signals in a stream of bytes

A record is read back from its bytes, and any bytes are a number of complete records and the beginning
of one more, in one way only. So it makes no difference where what is read of a stream is cut.
-/

namespace HostChat

namespace Signal

/-- A value survives being a payload. -/
@[simp] theorem valueOf_payloadOf (value : Int32) : valueOf (payloadOf value) = value := by
  apply Int32.toBitVec_inj.mp
  ext index inside
  have wide : index < 64 := by omega
  simp [valueOf, payloadOf, BitVec.getElem_signExtend, inside, wide]

end Signal

namespace SignalRecord

variable {record : SignalRecord} {input more rest left : List UInt8} {records others : List (List UInt8)}

private theorem bytes_length (record : SignalRecord) : record.bytes.length = byteSize := rfl

/-- A record is read back from its bytes. -/
theorem ofBytes_bytes (record : SignalRecord) : ofBytes record.bytes = record := by
  have word (start : Nat) (value : Int32)
      (there : ∀ index < 4, record.bytes.getD (start + index) 0 = wordByte value.toUInt32 index) :
      (readWord (fun index => record.bytes.getD index 0) start).toInt32 = value := by
    rw [readWord_eq there, Int32.toInt32_toUInt32]
  have number := word 0 record.number fun index inside => by interval_cases index <;> rfl
  have sender := word 4 record.sender fun index inside => by interval_cases index <;> rfl
  have value := word 8 record.value fun index inside => by interval_cases index <;> rfl
  simp only [ofBytes, number, sender, value]

/-- Bytes as complete records and the beginning of one more. -/
structure Framed (input : List UInt8) (records : List (List UInt8)) (rest : List UInt8) : Prop where
  split : input = records.flatten ++ rest
  whole : ∀ record ∈ records, record.length = byteSize
  short : rest.length < byteSize

private theorem length_flatten (whole : ∀ record ∈ records, record.length = byteSize) :
    records.flatten.length = byteSize * records.length := by
  rw [List.length_flatten, List.map_eq_replicate_iff.mpr whole, List.sum_replicate_nat, Nat.mul_comm]

namespace Framed

theorem of_short (short : rest.length < byteSize) : Framed rest [] rest := ⟨rfl, nofun, short⟩

theorem length_eq (framed : Framed input records rest) :
    input.length = byteSize * records.length + rest.length := by
  rw [framed.split, List.length_append, length_flatten framed.whole]

/-- What is left of some bytes goes before the next ones. -/
theorem append (first : Framed input records rest) (second : Framed (rest ++ more) others left) :
    Framed (input ++ more) (records ++ others) left where
  split := by
    rw [first.split, List.append_assoc, second.split, List.flatten_append, List.append_assoc]
  whole record member := (List.mem_append.mp member).elim (first.whole record) (second.whole record)
  short := second.short

end Framed

theorem complete_append {record : List UInt8} (whole : record.length = byteSize)
    (more : List UInt8) : complete (record ++ more) = record :: complete more := by
  have count : (record ++ more).length / byteSize = more.length / byteSize + 1 := by
    rw [List.length_append, whole, Nat.add_div_left _ (by decide)]
  rw [complete, count, List.range_succ_eq_map, List.map_cons, List.map_map]
  congr 1
  · simp [← whole]
  · apply List.map_congr_left
    intro index _
    have beyond : record.drop (byteSize * (index + 1)) = [] :=
      List.drop_eq_nil_of_le (by rw [whole, Nat.mul_succ]; omega)
    have within : byteSize * (index + 1) - record.length = byteSize * index := by
      rw [whole, Nat.mul_succ, Nat.add_sub_cancel]
    rw [Function.comp_apply, Nat.succ_eq_add_one, List.drop_append, beyond, within, List.nil_append]

/-- Bytes have only one framing, and that is the one in which they are read. -/
theorem Framed.complete_eq (framed : Framed input records rest) : complete input = records := by
  obtain ⟨rfl, whole, short⟩ := framed
  induction records with
  | nil => simp [complete, Nat.div_eq_of_lt short]
  | cons record records ih =>
    rw [List.flatten_cons, List.append_assoc, complete_append (whole record List.mem_cons_self)]
    exact congrArg (record :: ·) (ih fun other member => whole other (List.mem_cons_of_mem _ member))

theorem Framed.drop_eq (framed : Framed input records rest) :
    input.drop (input.length - input.length % byteSize) = rest := by
  have counted : input.length - input.length % byteSize = records.flatten.length := by
    have remainder : input.length % byteSize = rest.length := by
      rw [framed.length_eq, Nat.mul_add_mod, Nat.mod_eq_of_lt framed.short]
    rw [remainder, framed.split, List.length_append, Nat.add_sub_cancel]
  rw [counted, framed.split, List.drop_left]

theorem exists_framed (input : List UInt8) : ∃ records rest, Framed input records rest := by
  induction size : input.length using Nat.strongRecOn generalizing input with
  | _ size ih =>
    by_cases short : input.length < byteSize
    · exact ⟨[], input, .of_short short⟩
    · have positive : 0 < byteSize := by decide
      obtain ⟨records, rest, framed⟩ :=
        ih (input.drop byteSize).length (by rw [List.length_drop]; omega) _ rfl
      refine ⟨input.take byteSize :: records, rest, ?_, ?_, framed.short⟩
      · rw [List.flatten_cons, List.append_assoc, ← framed.split, List.take_append_drop]
      · intro record member
        rcases List.mem_cons.mp member with rfl | member
        · rw [List.length_take]
          omega
        · exact framed.whole record member

/-- The bytes of some records. -/
def stream (records : List SignalRecord) : List UInt8 :=
  records.flatMap bytes

theorem framed_stream (records : List SignalRecord) (short : rest.length < byteSize) :
    Framed (stream records ++ rest) (records.map bytes) rest where
  split := by rw [stream, List.flatMap_def]
  whole other member := by
    obtain ⟨record, -, rfl⟩ := List.mem_map.mp member
    exact record.bytes_length
  short := short

theorem stream_length (records : List SignalRecord) :
    (stream records).length = byteSize * records.length := by
  have framed := framed_stream records (by decide : ([] : List UInt8).length < byteSize)
  rw [List.append_nil] at framed
  rw [framed.length_eq, List.length_map, List.length_nil, Nat.add_zero]

/-- The front of a stream is its first records and the beginning of the next. -/
theorem framed_of_prefix {records : List SignalRecord} (front : input <+: stream records) :
    ∃ rest, Framed input ((records.take (input.length / byteSize)).map SignalRecord.bytes) rest := by
  obtain ⟨found, rest, framed⟩ := exists_framed input
  refine ⟨rest, ?_⟩
  have count : input.length / byteSize = found.length := by
    rw [framed.length_eq, Nat.mul_add_div (by decide), Nat.div_eq_of_lt framed.short, Nat.add_zero]
  have fits : found.length ≤ records.length := by
    have bound := front.length_le
    rw [stream_length, framed.length_eq] at bound
    unfold byteSize at bound
    omega
  have same : found.flatten = stream (records.take found.length) := by
    have first : found.flatten <+: stream records :=
      (framed.split ▸ List.prefix_append _ _ : found.flatten <+: input).trans front
    have second : stream (records.take found.length) <+: stream records := by
      refine ⟨stream (records.drop found.length), ?_⟩
      rw [stream, stream, ← List.flatMap_append, List.take_append_drop, stream]
    have lengths : found.flatten.length = (stream (records.take found.length)).length := by
      rw [stream_length, List.length_take, Nat.min_eq_left fits, length_flatten framed.whole]
    exact (List.prefix_of_prefix_length_le first second (Nat.le_of_eq lengths)).eq_of_length lengths
  have other := framed_stream (records.take found.length) framed.short
  rw [← same, ← framed.split] at other
  rwa [count]

end SignalRecord

end HostChat
