import HostChat.Session
import Mathlib.Data.List.Perm.Basic
import Mathlib.Data.List.Nodup
import Mathlib.Tactic.SplitIfs

/-! # Who is served in a broadcast

The recipients of a broadcast come one after the other. Nobody is served when no slot is left; before
that, whoever can be reached gets the lowest slot that is left, and whoever cannot gets none. So what
becomes of a recipient depends on how many of those before it can be reached, and on nothing else.
-/

namespace HostChat

/-- What becomes of the message to one recipient, by the slots that are left. -/
def fate (reached : ParticipantId → Bool) (free : List (Fin mailboxSlots)) (recipient : ParticipantId) :
    Except ChatError (Fin mailboxSlots) :=
  match free with
  | [] => .error .mailboxFull
  | slot :: _ =>
      if reached recipient then .ok slot else .error (.unreachable recipient .noSuchProcess)

def allot (reached : ParticipantId → Bool) :
    List (Fin mailboxSlots) → List ParticipantId →
      List (ParticipantId × Except ChatError (Fin mailboxSlots))
  | _, [] => []
  | free, recipient :: rest =>
      (recipient, fate reached free recipient) ::
        allot reached (if reached recipient then free.tail else free) rest

/-- The broadcast in which that has become of the recipients. -/
def Broadcast.report (fates : List (ParticipantId × Except ChatError (Fin mailboxSlots))) :
    Broadcast where
  delivered := fates.filterMap fun
    | (recipient, .ok _) => some recipient
    | (_, .error _) => none
  failed := fates.filterMap fun
    | (recipient, .error error) => some (recipient, error)
    | (_, .ok _) => none

section Report

variable {fates : List (ParticipantId × Except ChatError (Fin mailboxSlots))}
  {recipients : List ParticipantId} {recipient : ParticipantId}

theorem delivered_report_sublist (ids : fates.map Prod.fst = recipients) :
    (Broadcast.report fates).delivered.Sublist recipients := by
  subst ids
  induction fates with
  | nil => exact .slnil
  | cons head rest ih =>
    obtain ⟨recipient, error | slot⟩ := head
    · exact ih.cons _
    · exact ih.cons_cons _

theorem failed_report_sublist (ids : fates.map Prod.fst = recipients) :
    ((Broadcast.report fates).failed.map Prod.fst).Sublist recipients := by
  subst ids
  induction fates with
  | nil => exact .slnil
  | cons head rest ih =>
    obtain ⟨recipient, error | slot⟩ := head
    · exact ih.cons_cons _
    · exact ih.cons _

theorem report_perm (ids : fates.map Prod.fst = recipients) :
    ((Broadcast.report fates).delivered ++ (Broadcast.report fates).failed.map Prod.fst).Perm
      recipients := by
  subst ids
  induction fates with
  | nil => exact .nil
  | cons head rest ih =>
    obtain ⟨recipient, error | slot⟩ := head
    · exact List.perm_middle.trans (ih.cons recipient)
    · exact ih.cons recipient

theorem mem_delivered_report :
    recipient ∈ (Broadcast.report fates).delivered ↔ ∃ slot, (recipient, .ok slot) ∈ fates := by
  rw [Broadcast.report, List.mem_filterMap]
  constructor
  · rintro ⟨⟨other, error | slot⟩, member, same⟩
    · cases same
    · cases same
      exact ⟨slot, member⟩
  · rintro ⟨slot, member⟩
    exact ⟨_, member, rfl⟩

theorem mem_failed_report {error : ChatError} :
    (recipient, error) ∈ (Broadcast.report fates).failed ↔ (recipient, .error error) ∈ fates := by
  rw [Broadcast.report, List.mem_filterMap]
  constructor
  · rintro ⟨⟨other, error | slot⟩, member, same⟩
    · cases same
      exact member
    · cases same
  · exact fun member => ⟨_, member, rfl⟩

end Report

section Allot

variable {reached : ParticipantId → Bool} {free : List (Fin mailboxSlots)}
  {recipients before later : List ParticipantId} {recipient : ParticipantId}

theorem map_fst_allot : (allot reached free recipients).map Prod.fst = recipients := by
  induction recipients generalizing free with
  | nil => rfl
  | cons recipient rest ih => rw [allot, List.map_cons, ih]

/-- The slots that are left are those that nobody who can be reached has got. -/
theorem allot_append :
    allot reached free (before ++ later) =
      allot reached free before ++ allot reached (free.drop (before.countP reached)) later := by
  induction before generalizing free with
  | nil => rfl
  | cons recipient rest ih =>
    have left : (if reached recipient then free.tail else free).drop (rest.countP reached) =
        free.drop ((recipient :: rest).countP reached) := by
      rw [List.countP_cons]
      split_ifs
      · rw [List.drop_tail]
      · rfl
    rw [List.cons_append, allot, allot, ih, left, List.cons_append]

theorem mem_allot_iff {result : Except ChatError (Fin mailboxSlots)}
    (apart : (before ++ recipient :: later).Nodup) :
    (recipient, result) ∈ allot reached free (before ++ recipient :: later) ↔
      result = fate reached (free.drop (before.countP reached)) recipient := by
  have elsewhere (others : List ParticipantId) (slots : List (Fin mailboxSlots))
      (absent : recipient ∉ others) : (recipient, result) ∉ allot reached slots others := by
    intro member
    have listed := List.mem_map_of_mem (f := Prod.fst) member
    rw [map_fst_allot] at listed
    exact absent listed
  rw [List.nodup_append, List.nodup_cons] at apart
  have earlier : recipient ∉ before := fun member =>
    apart.2.2 recipient member recipient List.mem_cons_self rfl
  rw [allot_append, List.mem_append, or_iff_right (elsewhere before free earlier), allot,
    List.mem_cons, or_iff_left (elsewhere later _ apart.2.1.1), Prod.mk.injEq]
  exact and_iff_right rfl

private theorem fate_of_le {count : Nat} (gone : free.length ≤ count) :
    fate reached (free.drop count) recipient = .error .mailboxFull := by
  rw [List.drop_eq_nil_of_le gone, fate]

private theorem fate_of_lt {count : Nat} (left : count < free.length) :
    fate reached (free.drop count) recipient =
      if reached recipient then .ok free[count] else .error (.unreachable recipient .noSuchProcess) := by
  rw [List.drop_eq_getElem_cons left, fate]

/-- No slot is left for those whom enough others come before that can be reached. -/
theorem mailboxFull_mem_allot (apart : (before ++ recipient :: later).Nodup) :
    (recipient, .mailboxFull) ∈
        (Broadcast.report (allot reached free (before ++ recipient :: later))).failed ↔
      free.length ≤ before.countP reached := by
  rw [mem_failed_report, mem_allot_iff apart]
  rcases Nat.lt_or_ge (before.countP reached) free.length with left | gone
  · rw [fate_of_lt left, iff_false_right (Nat.not_le.mpr left)]
    split_ifs <;> exact nofun
  · rw [fate_of_le gone, iff_true_right gone]

theorem unreachable_mem_allot (apart : (before ++ recipient :: later).Nodup) :
    (recipient, .unreachable recipient .noSuchProcess) ∈
        (Broadcast.report (allot reached free (before ++ recipient :: later))).failed ↔
      before.countP reached < free.length ∧ reached recipient = false := by
  rw [mem_failed_report, mem_allot_iff apart]
  rcases Nat.lt_or_ge (before.countP reached) free.length with left | gone
  · rw [fate_of_lt left, and_iff_right left]
    cases reached recipient <;> simp
  · rw [fate_of_le gone, iff_false_right fun both => Nat.not_lt.mpr gone both.1]
    exact nofun

theorem mem_delivered_allot (apart : (before ++ recipient :: later).Nodup) :
    recipient ∈ (Broadcast.report (allot reached free (before ++ recipient :: later))).delivered ↔
      before.countP reached < free.length ∧ reached recipient = true := by
  simp only [mem_delivered_report, mem_allot_iff apart]
  rcases Nat.lt_or_ge (before.countP reached) free.length with left | gone
  · rw [fate_of_lt left, and_iff_right left]
    cases reached recipient <;> simp
  · rw [fate_of_le gone, iff_false_right fun both => Nat.not_lt.mpr gone both.1]
    exact nofun

theorem delivered_allot :
    (Broadcast.report (allot reached free recipients)).delivered =
      ((recipients.filter reached).zip free).map Prod.fst := by
  induction recipients generalizing free with
  | nil => rfl
  | cons recipient rest ih =>
    cases free with
    | nil =>
      rw [List.zip_nil_right]
      have nobody : (Broadcast.report (allot reached [] rest)).delivered = [] := by
        rw [ih, List.zip_nil_right, List.map_nil]
      rw [allot, List.tail_nil, ite_self]
      exact nobody
    | cons slot left =>
      rw [allot, fate]
      cases reaches : reached recipient with
      | true =>
        rw [List.filter_cons_of_pos reaches, List.zip_cons_cons, List.map_cons]
        exact congrArg (recipient :: ·) ih
      | false =>
        rw [List.filter_cons_of_neg (by simp [reaches])]
        exact ih

end Allot

end HostChat
