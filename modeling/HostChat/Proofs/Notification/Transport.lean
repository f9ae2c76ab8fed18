import HostChat.Notification.Processes
import HostChat.Proofs.Notification.Records
import HostChat.Proofs.Participant

/-! # From signals to the inbox

What is noted of signals is one stream of bytes, and the reads that it comes through may cut it
anywhere. A record counts as soon as its last byte is read, so the inbox gets an envelope for each
signal that has something to say, in the order of the signals.
-/

namespace HostChat

namespace SignalPipe

open SignalRecord

variable {pipe : SignalPipe} {input chunk rest : List UInt8} {chunks found : List (List UInt8)}

/-- What a read gives and leaves is told by the framing of all that is there. -/
theorem read_of_framed (framed : Framed (pipe.pending ++ chunk) found rest) :
    pipe.read chunk = (found.filterMap fun record => (ofBytes record).envelope?, ⟨rest⟩) := by
  simp only [read, framed.complete_eq, framed.drop_eq]

/-- Where the reads cut what comes in makes no difference. -/
theorem readAll_of_framed (framed : Framed (pipe.pending ++ chunks.flatten) found rest)
    (short : pipe.pending.length < byteSize) :
    pipe.readAll chunks = (found.filterMap fun record => (ofBytes record).envelope?, ⟨rest⟩) := by
  induction chunks generalizing pipe found with
  | nil =>
    rw [List.flatten_nil, List.append_nil] at framed
    have none : found = [] := framed.complete_eq.symm.trans (Framed.of_short short).complete_eq
    have split := framed.split
    rw [none, List.flatten_nil, List.nil_append] at split
    rw [none, ← split]
    rfl
  | cons chunk chunks ih =>
    obtain ⟨records, left, first⟩ := exists_framed (pipe.pending ++ chunk)
    obtain ⟨others, last, second⟩ := exists_framed (left ++ chunks.flatten)
    have both := first.append second
    rw [List.append_assoc, ← List.flatten_cons] at both
    obtain rfl : rest = last := framed.drop_eq.symm.trans both.drop_eq
    obtain rfl : found = records ++ others := framed.complete_eq.symm.trans both.complete_eq
    have more := @ih ⟨left⟩ others second first.short
    simp only [readAll, read_of_framed first, more, List.filterMap_append]

/-- However far the reading of a stream has come, the complete records have been given. -/
theorem readAll_of_prefix {records : List SignalRecord} (front : chunks.flatten <+: stream records) :
    ∃ rest, readAll ⟨[]⟩ chunks =
      ((records.take (chunks.flatten.length / byteSize)).filterMap envelope?, ⟨rest⟩) ∧
        rest.length < byteSize := by
  obtain ⟨rest, framed⟩ := framed_of_prefix front
  refine ⟨rest, ?_, framed.short⟩
  have read := @readAll_of_framed ⟨[]⟩ rest chunks _ framed (by decide)
  rw [read, List.filterMap_map]
  simp only [Function.comp_def, ofBytes_bytes]

end SignalPipe

namespace NotificationKind

@[simp] theorem ofOffset?_offset (kind : NotificationKind) : ofOffset? kind.offset = some kind := by
  cases kind <;> decide

end NotificationKind

/-- A notification survives its travel if its slot, if it has one, fits in the word for it. -/
theorem Notification.decode_value {notification : Notification}
    (fits : ∀ slot, notification = .messageReady slot → slot ≤ 2 ^ 31 - 1) :
    decode notification.kind notification.value = some notification := by
  cases notification with
  | joinRequest => rfl
  | joinApprove room => simp only [kind, value, decode, ParticipantId.ofRaw?_raw, Option.map_some]
  | messageReady slot =>
    have small : slot < 2 ^ 31 := Nat.lt_of_le_pred (by decide) (fits slot rfl)
    have same : (Int32.ofNat slot).toInt = slot := Int32.toInt_ofNat_of_lt small
    have positive : 0 ≤ Int32.ofNat slot := by
      rw [Int32.le_iff_toInt_le, same]
      exact Int.natCast_nonneg slot
    simp only [kind, value, decode, if_pos positive, Int32.toNatClampNeg, same, Int.toNat_natCast]

/-- A signal for notifications, of whatever process and with whatever value. -/
structure Arrival where
  kind : NotificationKind
  sender : Int32
  value : Int32

namespace Arrival

variable {arrival : Arrival} {envelope : Envelope}

def signal (arrival : Arrival) : Signal :=
  ⟨Signal.base + arrival.kind.offset, arrival.sender, Signal.payloadOf arrival.value⟩

/-- What is noted of a signal when it comes in. -/
def noted (arrival : Arrival) : SignalRecord := arrival.signal.noted

/-- The signal that brings an envelope. -/
def ofEnvelope (envelope : Envelope) : Arrival :=
  ⟨envelope.notification.kind, envelope.sender.raw, envelope.notification.value⟩

theorem signal_ofEnvelope (envelope : Envelope) :
    (ofEnvelope envelope).signal = .ofNotification envelope.sender envelope.notification := rfl

private theorem envelope?_noted (arrival : Arrival) :
    arrival.noted.envelope? = (ParticipantId.ofRaw? arrival.sender).bind fun sender =>
      (Notification.decode arrival.kind arrival.value).map (⟨sender, ·⟩) := by
  have offset : Signal.base + arrival.kind.offset - Signal.base = arrival.kind.offset := by
    cases arrival.kind <;> decide
  simp only [SignalRecord.envelope?, noted, signal, Signal.noted, offset,
    NotificationKind.ofOffset?_offset, Signal.valueOf_payloadOf]
  cases ParticipantId.ofRaw? arrival.sender with
  | none => rfl
  | some sender => cases decoded : Notification.decode arrival.kind arrival.value <;> simp [decoded]

theorem envelope?_eq_some_iff :
    arrival.noted.envelope? = some envelope ↔
      arrival.sender = envelope.sender.raw ∧
        Notification.decode arrival.kind arrival.value = some envelope.notification := by
  rw [envelope?_noted, Option.bind_eq_some_iff]
  constructor
  · rintro ⟨sender, proper, decoded⟩
    obtain ⟨notification, same, rfl⟩ := Option.map_eq_some_iff.mp decoded
    exact ⟨ParticipantId.ofRaw?_eq_some_iff.mp proper, same⟩
  · rintro ⟨sender, decoded⟩
    exact ⟨envelope.sender, ParticipantId.ofRaw?_eq_some_iff.mpr sender, by rw [decoded]; rfl⟩

theorem envelope?_eq_none_iff :
    arrival.noted.envelope? = none ↔
      ¬0 < arrival.sender ∨ Notification.decode arrival.kind arrival.value = none := by
  rw [envelope?_noted]
  by_cases positive : 0 < arrival.sender
  · simp [ParticipantId.ofRaw?, positive]
  · simp [ParticipantId.ofRaw?, positive]

/-- What is sent is what comes in. -/
theorem envelope?_ofEnvelope
    (fits : ∀ slot, envelope.notification = .messageReady slot → slot ≤ 2 ^ 31 - 1) :
    (ofEnvelope envelope).noted.envelope? = some envelope :=
  envelope?_eq_some_iff.mpr ⟨rfl, Notification.decode_value fits⟩

end Arrival

namespace Processes

variable {processes : Processes} {target : ParticipantId} {unread : List UInt8}

/-- Sends notifications to one process, one after the other, each from its own sender. -/
def sendAll (target : ParticipantId) : List Envelope → Processes → Except Fault Processes
  | [], processes => .ok processes
  | envelope :: rest, processes =>
      (Carrier.notify processes envelope.sender target envelope.notification).bind (sendAll target rest)

/-- A process that listens notes all that is sent to it. -/
private theorem sendAll_of_listening (envelopes : List Envelope)
    (listening : processes.states.find? target = some (.listening unread)) :
    ∃ sent, processes.sendAll target envelopes = .ok sent ∧
      sent.states.find? target = some (.listening
        (unread ++ SignalRecord.stream (envelopes.map (Arrival.noted ∘ Arrival.ofEnvelope)))) := by
  induction envelopes generalizing processes unread with
  | nil => exact ⟨processes, rfl, by rw [listening, List.map_nil]; simp [SignalRecord.stream]⟩
  | cons envelope rest ih =>
    have step : Carrier.notify processes envelope.sender target envelope.notification =
        .ok ⟨processes.states.insert target
          (.listening (unread ++ (Arrival.ofEnvelope envelope).noted.bytes))⟩ := by
      simp only [Carrier.notify, ← Arrival.signal_ofEnvelope, send, listening, Arrival.noted]
    have noted : (processes.states.insert target
        (.listening (unread ++ (Arrival.ofEnvelope envelope).noted.bytes))).find? target =
          some (.listening (unread ++ (Arrival.ofEnvelope envelope).noted.bytes)) := by
      rw [Table.find?_insert, if_pos rfl]
    obtain ⟨sent, went, there⟩ := @ih ⟨_⟩ _ noted
    refine ⟨sent, ?_, ?_⟩
    · rw [sendAll, step]
      exact went
    · rw [there, List.map_cons, SignalRecord.stream, SignalRecord.stream, List.flatMap_cons,
        List.append_assoc]
      rfl

private theorem drain_of_listening
    (listening : processes.states.find? target = some (.listening unread)) :
    (processes.drain target).1 = unread := by
  simp only [drain, listening]

end Processes

open SignalRecord

/-- What becomes of the signals that a process gets. -/
structure Transported (arrivals : List Arrival) : Prop where
  /-- However the reads have cut what they have read so far, the inbox has got what the complete
  records say, and less than a record waits for the next read. -/
  underway : ∀ chunks : List (List UInt8), chunks.flatten <+: stream (arrivals.map Arrival.noted) →
    ∃ rest, SignalPipe.readAll ⟨[]⟩ chunks =
      ((arrivals.take (chunks.flatten.length / 12)).filterMap (·.noted.envelope?), ⟨rest⟩) ∧
        rest.length < 12
  whole : ∀ chunks : List (List UInt8), chunks.flatten = stream (arrivals.map Arrival.noted) →
    SignalPipe.readAll ⟨[]⟩ chunks = (arrivals.filterMap (·.noted.envelope?), ⟨[]⟩)
  kept : ∀ arrival ∈ arrivals, ∀ envelope, arrival.noted.envelope? = some envelope ↔
    arrival.sender = envelope.sender.raw ∧
      Notification.decode arrival.kind arrival.value = some envelope.notification
  dropped : ∀ arrival ∈ arrivals, arrival.noted.envelope? = none ↔
    ¬0 < arrival.sender ∨ Notification.decode arrival.kind arrival.value = none

theorem transported (arrivals : List Arrival) : Transported arrivals where
  underway chunks front := by
    obtain ⟨rest, read, short⟩ := SignalPipe.readAll_of_prefix front
    refine ⟨rest, ?_, short⟩
    rw [read, ← List.map_take, List.filterMap_map]
    rfl
  whole chunks cut := by
    have framed := framed_stream (arrivals.map Arrival.noted) (by decide : [].length < byteSize)
    rw [List.append_nil, ← cut] at framed
    have read := @SignalPipe.readAll_of_framed ⟨[]⟩ [] chunks _ framed (by decide)
    rw [read, List.filterMap_map, List.filterMap_map]
    simp only [Function.comp_def, ofBytes_bytes]
  kept _ _ _ := Arrival.envelope?_eq_some_iff
  dropped _ _ := Arrival.envelope?_eq_none_iff

/-- Each signal with something to say reaches the inbox, once and in its turn; and all notifications
that are sent to a process that listens have something to say, if their slots fit. -/
theorem signals_reach_the_inbox :
    (∀ arrivals, Transported arrivals) ∧
      ∀ (envelopes : List Envelope) (target : ParticipantId) (processes : Processes),
        (∀ envelope ∈ envelopes, ∀ slot, envelope.notification = .messageReady slot →
          slot ≤ 2 ^ 31 - 1) →
        processes.states.find? target = some (.listening []) →
          ∃ sent, processes.sendAll target envelopes = .ok sent ∧
            ∀ chunks : List (List UInt8), chunks.flatten = (sent.drain target).1 →
              SignalPipe.readAll ⟨[]⟩ chunks = (envelopes, ⟨[]⟩) := by
  refine ⟨transported, fun envelopes target processes fits listening => ?_⟩
  obtain ⟨sent, went, there⟩ := Processes.sendAll_of_listening envelopes listening
  refine ⟨sent, went, fun chunks cut => ?_⟩
  have all : (envelopes.map Arrival.ofEnvelope).filterMap (·.noted.envelope?) = envelopes := by
    rw [List.filterMap_map]
    refine (List.filterMap_congr fun envelope member => ?_).trans List.filterMap_some
    exact Arrival.envelope?_ofEnvelope (fits envelope member)
  rw [Processes.drain_of_listening there, List.nil_append] at cut
  rw [(transported (envelopes.map Arrival.ofEnvelope)).whole chunks (by rw [cut, List.map_map]), all]

/-- Two notifications for bert, read in three pieces that cut both records. -/
theorem two_signals_reach_bert :
    ∃ sent, (Processes.empty.listen bert).sendAll bert
        [⟨anna, .joinApprove cleo⟩, ⟨cleo, .messageReady 255⟩] = .ok sent ∧
      SignalPipe.readAll ⟨[]⟩ [(sent.drain bert).1.take 5, ((sent.drain bert).1.drop 5).take 14,
          (sent.drain bert).1.drop 19] =
        ([⟨anna, .joinApprove cleo⟩, ⟨cleo, .messageReady 255⟩], ⟨[]⟩) := by
  obtain ⟨sent, went, read⟩ := signals_reach_the_inbox.2
    [⟨anna, .joinApprove cleo⟩, ⟨cleo, .messageReady 255⟩] bert (Processes.empty.listen bert)
    (by simp) (by decide +kernel)
  refine ⟨sent, went, read _ ?_⟩
  have tail : ((sent.drain bert).1.drop 5).drop 14 = (sent.drain bert).1.drop 19 := List.drop_drop
  rw [List.flatten_cons, List.flatten_cons, List.flatten_cons, List.flatten_nil, List.append_nil,
    ← tail, List.take_append_drop, List.take_append_drop]

end HostChat
