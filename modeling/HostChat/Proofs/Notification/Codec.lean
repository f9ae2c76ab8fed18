import HostChat.Proofs.Locking.Script
import HostChat.Proofs.Notification.Transport
import HostChat.Proofs.Session.Upkeep

/-! # Notifications as kinds and words

A notification travels as its kind and one word. Of the number of a slot the word keeps 32 bits, and
the receiver takes the highest of them for a sign, so a number that is too large arrives as nothing or
as another one. What sessions send arrives as it was sent: the slots of a mailbox are few.
-/

namespace HostChat

namespace Notification

variable {kind : NotificationKind} {value : Int32} {notification : Notification} {slot : Nat}

/-- The value of a slot number's word: its low 32 bits, of which the highest is the sign. -/
private theorem toInt_ofNat_slot (slot : Nat) :
    (Int32.ofNat slot).toInt =
      if slot.testBit 31 then (slot % 2 ^ 32 : Nat) - (2 ^ 32 : Int) else (slot % 2 ^ 32 : Nat) := by
  have wraps : (Int32.ofNat slot).toInt = (slot : Int).bmod (2 ^ 32) := Int32.toInt_ofNat'
  rw [wraps, Int.bmod_def, Nat.testBit_eq_decide_div_mod_eq]
  simp only [decide_eq_true_eq]
  split_ifs <;> omega

private theorem decode_slot (slot : Nat) :
    decode .messageReady (Int32.ofNat slot) =
      if slot.testBit 31 then none else some (.messageReady (slot % 2 ^ 32)) := by
  have word := toInt_ofNat_slot slot
  have bound : slot % 2 ^ 32 < 2 ^ 32 := Nat.mod_lt _ (by decide)
  simp only [decode, Int32.le_iff_toInt_le, Int32.toInt_zero]
  cases sign : slot.testBit 31 with
  | true =>
    rw [sign, if_pos rfl] at word
    rw [if_neg (by omega), if_pos rfl]
  | false =>
    rw [sign, if_neg Bool.false_ne_true] at word
    rw [if_pos (by omega), if_neg Bool.false_ne_true, Int32.toNatClampNeg, word, Int.toNat_natCast]

/-- A notification that arrives as it was sent. -/
def Survives (notification : Notification) : Prop :=
  decode notification.kind notification.value = some notification

theorem survives_iff :
    notification.Survives ↔ ∀ slot, notification = .messageReady slot → slot ≤ 2 ^ 31 - 1 := by
  refine ⟨?_, decode_value⟩
  rintro survives slot rfl
  have word := decode_slot slot
  rw [show decode .messageReady (Int32.ofNat slot) = some (.messageReady slot) from survives,
    Nat.testBit_eq_decide_div_mod_eq] at word
  split_ifs at word with sign
  rw [Option.some.injEq, messageReady.injEq] at word
  rw [decide_eq_true_eq] at sign
  omega

/-- A slot number that is too large is lost, or it arrives as another one. -/
theorem decode_value_of_large (large : 2 ^ 31 - 1 < slot) :
    (slot.testBit 31 = true →
      decode (messageReady slot).kind (messageReady slot).value = none) ∧
    (slot.testBit 31 = false → slot % 2 ^ 32 ≠ slot ∧
      decode (messageReady slot).kind (messageReady slot).value =
        some (.messageReady (slot % 2 ^ 32))) := by
  simp only [kind, value, decode_slot]
  refine ⟨fun set => if_pos set, fun clear => ⟨?_, if_neg (by simp [clear])⟩⟩
  rw [Nat.testBit_eq_decide_div_mod_eq, decide_eq_false_iff_not] at clear
  omega

theorem of_decode (decoded : decode kind value = some notification) :
    notification.kind = kind ∧ (kind ≠ .joinRequest → notification.value = value) := by
  cases kind with
  | joinRequest =>
    cases decoded
    exact ⟨rfl, fun other => absurd rfl other⟩
  | joinApprove =>
    obtain ⟨room, found, rfl⟩ := Option.map_eq_some_iff.mp decoded
    exact ⟨rfl, fun _ => (ParticipantId.ofRaw?_eq_some_iff.mp found).symm⟩
  | messageReady =>
    rw [decode, Option.ite_none_right_eq_some] at decoded
    obtain ⟨positive, same⟩ := decoded
    cases same
    refine ⟨rfl, fun _ => Int32.toInt_inj.mp ?_⟩
    rw [Int32.le_iff_toInt_le, Int32.toInt_zero] at positive
    have small : value.toNatClampNeg < 2 ^ 31 := Int32.toNatClampNeg_lt value
    rw [Notification.value, Int32.toInt_ofNat_of_lt small]
    exact Int.toNat_of_nonneg positive

theorem decode_eq_none_iff :
    decode kind value = none ↔
      kind = .joinApprove ∧ value ≤ 0 ∨ kind = .messageReady ∧ value < 0 := by
  cases kind with
  | joinRequest => simp [decode]
  | joinApprove => simp [decode, ParticipantId.ofRaw?, Int32.not_lt]
  | messageReady => simp [decode, Int32.not_le]

end Notification

variable {σ α : Type}

/-- An operation that sends no other notifications than these: what a carrier does with others makes
no difference to it. -/
def SendsOnly (sendable : Notification → Prop) (operation : Carrier σ → α) : Prop :=
  ∀ first second : Carrier σ,
    (∀ carrier sender target notification, sendable notification →
      first.notify carrier sender target notification =
        second.notify carrier sender target notification) →
    operation first = operation second

namespace Session

open Notification

variable {session : Session} {target : ParticipantId} {text : List UInt8} {host : Host σ}

theorem survives_of_slot (slot : Fin mailboxSlots) : (messageReady slot).Survives := by
  refine survives_iff.mpr ?_
  rintro _ ⟨⟩
  exact slot.isLt.le.trans (by decide)

theorem survives_joinApprove (room : ParticipantId) : (joinApprove room).Survives :=
  survives_iff.mpr nofun

theorem survives_joinRequest : joinRequest.Survives := rfl

theorem sendsOnly_notify {sender : ParticipantId} {notification : Notification}
    (survives : notification.Survives) :
    SendsOnly Survives fun carrier => @Host.notify σ carrier host sender target notification := by
  intro first second agree
  simp only [Host.notify, agree _ _ _ _ survives]

theorem sendsOnly_deliver :
    SendsOnly Survives fun carrier => @Session.deliver σ carrier session target text host := by
  intro first second agree
  simp only [deliver]
  cases (session.room.memory host).mailbox.store session.me target text with
  | error error => rfl
  | ok stored =>
    obtain ⟨slot, mailbox⟩ := stored
    simp only [sendsOnly_notify (survives_of_slot slot) first second agree]

theorem sendsOnly_deliverAll (recipients : List ParticipantId) (host : Host σ) :
    SendsOnly Survives fun carrier => @Session.deliverAll σ carrier session text recipients host := by
  intro first second agree
  change @Session.deliverAll σ first session text recipients host =
    @Session.deliverAll σ second session text recipients host
  induction recipients generalizing host with
  | nil => rfl
  | cons recipient rest ih => simp only [deliverAll, sendsOnly_deliver first second agree, ih]

theorem sendsOnly_tell {text : String} :
    SendsOnly Survives fun carrier => @Session.tell σ carrier session target text host := by
  intro first second agree
  simp only [tell]
  cases checkText text with
  | error error => rfl
  | ok bytes => simp only [sendsOnly_deliver first second agree]

theorem sendsOnly_say {text : String} :
    SendsOnly Survives fun carrier => @Session.say σ carrier session text host := by
  intro first second agree
  simp only [say]
  cases checkText text with
  | error error => rfl
  | ok bytes => simp only [sendsOnly_deliverAll _ _ first second agree]

theorem sendsOnly_handle {envelope : Envelope} :
    SendsOnly Survives fun carrier => @Session.handle σ carrier session envelope host := by
  intro first second agree
  simp only [handle]
  cases envelope.notification with
  | joinRequest => simp only [sendsOnly_notify (survives_joinApprove _) first second agree]
  | joinApprove room => rfl
  | messageReady slot => rfl

theorem sendsOnly_join {ns : String} {me known : ParticipantId} {inbox : σ → Inbox} :
    SendsOnly Survives fun carrier => @Session.join σ carrier ns me known inbox host := by
  intro first second agree
  simp only [join, requestJoin, sendsOnly_notify survives_joinRequest first second agree]

end Session

/-- The carrier only matters to what tells, says or handles something. -/
theorem RoomOperation.sendsOnly_perform (operation : RoomOperation) (host : Host σ) :
    SendsOnly Notification.Survives fun carrier => @perform σ carrier host operation := by
  cases operation with
  | tell session target text => exact Session.sendsOnly_tell
  | say session text => exact Session.sendsOnly_say
  | handle session envelope => exact Session.sendsOnly_handle
  | _ => exact fun _ _ _ => rfl

namespace Notification

/-- Exactly those notifications survive whose slot, if they have one, fits in a word with a sign; a
number that is too large is lost or taken for another one. Conversely, a kind and a word that mean
something are those of what they mean, but for the word of a request, which means nothing. All that
sessions ever send survives. -/
theorem all_sent_survive :
    (∀ notification : Notification,
      decode notification.kind notification.value = some notification ↔
        ∀ slot, notification = .messageReady slot → slot ≤ 2 ^ 31 - 1) ∧
    (∀ slot, 2 ^ 31 - 1 < slot →
      (slot.testBit 31 = true →
        decode (messageReady slot).kind (messageReady slot).value = none) ∧
      (slot.testBit 31 = false → slot % 2 ^ 32 ≠ slot ∧
        decode (messageReady slot).kind (messageReady slot).value =
          some (.messageReady (slot % 2 ^ 32)))) ∧
    (∀ kind value notification, decode kind value = some notification →
      notification.kind = kind ∧ (kind ≠ .joinRequest → notification.value = value)) ∧
    (∀ kind value, decode kind value = none ↔
      kind = .joinApprove ∧ value ≤ 0 ∨ kind = .messageReady ∧ value < 0) ∧
    ∀ {σ : Type} (host : Host σ),
      (∀ operation : RoomOperation,
        SendsOnly Survives fun carrier => @RoomOperation.perform σ carrier host operation) ∧
      ∀ ns me known inbox,
        SendsOnly Survives fun carrier => @Session.join σ carrier ns me known inbox host := by
  refine ⟨fun _ => survives_iff, fun _ large => decode_value_of_large large,
    fun _ _ _ decoded => of_decode decoded, fun _ _ => decode_eq_none_iff, fun host => ⟨?_, ?_⟩⟩
  · exact fun operation => operation.sendsOnly_perform host
  · exact fun _ _ _ _ => Session.sendsOnly_join

/-- A carrier that turns down what would not survive. -/
@[reducible] def careful : Carrier Exchange where
  notify exchange sender target notification :=
    if decode notification.kind notification.value = some notification then
      exchange.notify sender target notification
    else .error .invalidArgument

/-- anna's room, with bert in it. -/
def hostWithBert : Host Exchange :=
  (Room.visit.take 2).foldl Host.after (Room.create (fun _ => true) "x" anna Room.annasHost).2

/-- The numbers around the bounds, and a message that a carrier which minds them does not refuse. -/
theorem survive_at_the_bounds :
    decode .messageReady (messageReady (2 ^ 31 - 1)).value = some (.messageReady (2 ^ 31 - 1)) ∧
    decode .messageReady (messageReady (2 ^ 31)).value = none ∧
    decode .messageReady (messageReady (2 ^ 32 + 7)).value = some (.messageReady 7) ∧
    (@Session.tell Exchange careful ⟨bert, .joiner, Room.annasRoom⟩ anna "first" hostWithBert).map
      (fun told => (told.1.toOption.map Fin.val, (told.2.carrier.inbox 0).queue)) =
        some (some 0, [⟨bert, .messageReady 0⟩]) := by
  obtain ⟨survives, large, -, -, sent⟩ := all_sent_survive
  refine ⟨?_, ?_, ?_, ?_⟩
  · refine (survives (.messageReady (2 ^ 31 - 1))).mpr ?_
    rintro _ ⟨⟩
    exact Nat.le_refl _
  · exact (large (2 ^ 31) (by decide)).1 (by decide)
  · exact ((large (2 ^ 32 + 7) (by decide)).2 (by decide)).2
  · have same := (sent hostWithBert).1 (.tell ⟨bert, .joiner, Room.annasRoom⟩ anna "first") careful
      inferInstance fun carrier sender target notification travels => if_pos travels
    refine (congrArg _ same).trans ?_
    decide +kernel

end Notification

end HostChat
