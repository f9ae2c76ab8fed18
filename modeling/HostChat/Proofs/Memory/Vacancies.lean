import HostChat.Proofs.Memory.Pending

/-! # Vacant slots

The slots that are free, lowest first. A message is stored in the first of them, and the others are
then left. If free slots are clean, nothing remains of a message whose slot is freed, and of several
messages in different slots each is there.
-/

namespace HostChat

namespace Mailbox

variable {mailbox : Mailbox} {slot other : Fin mailboxSlots} {later : List (Fin mailboxSlots)}
  {message : Message} {sender recipient : ParticipantId} {text : List UInt8}

def vacancies (mailbox : Mailbox) : List (Fin mailboxSlots) :=
  (List.finRange mailboxSlots).filter fun slot => (mailbox.slots.get slot).isFree

/-- A slot without a text is all zeros. -/
def Clean (mailbox : Mailbox) : Prop :=
  ∀ slot : Fin mailboxSlots, (mailbox.slots.get slot).isFree = true → mailbox.slots.get slot = .empty

theorem Usable.clean {members : List ParticipantId} (usable : mailbox.Usable members) :
    mailbox.Clean :=
  fun _ free => (usable _ (Vector.getElem_mem _)).empty_of_isFree free

/-- Puts a message into a slot that is all zeros. -/
def put (mailbox : Mailbox) (slot : Fin mailboxSlots) (message : Message) : Mailbox :=
  ⟨mailbox.slots.set slot (.holding message) slot.isLt⟩

theorem slots_put (mailbox : Mailbox) (slot other : Fin mailboxSlots) (message : Message) :
    (mailbox.put slot message).slots.get other =
      if other = slot then .holding message else mailbox.slots.get other :=
  get_set_eq_ite ..

theorem mem_vacancies : slot ∈ mailbox.vacancies ↔ (mailbox.slots.get slot).isFree = true := by
  simp [vacancies]

theorem nodup_vacancies (mailbox : Mailbox) : mailbox.vacancies.Nodup :=
  (List.nodup_finRange mailboxSlots).filter _

theorem firstIndex?_eq_head? (mailbox : Mailbox) :
    firstIndex? mailbox.slots Slot.isFree = mailbox.vacancies.head? :=
  List.head?_filter.symm

theorem Clean.of_vacant (clean : mailbox.Clean) (vacant : mailbox.vacancies = slot :: later) :
    mailbox.slots.get slot = .empty :=
  clean slot (mem_vacancies.mp (vacant ▸ List.mem_cons_self))

private theorem isFree_holding (fits : message.Fits) : (Slot.holding message).isFree = false := by
  rw [← Bool.not_eq_true]
  intro free
  have nothing := Slot.content?_of_isFree free
  rw [Slot.content?_holding fits.some fits.bound] at nothing
  cases nothing

theorem vacancies_put (fits : message.Fits) (vacant : mailbox.vacancies = slot :: later) :
    (mailbox.put slot message).vacancies = later := by
  have others (other : Fin mailboxSlots) : ((mailbox.put slot message).slots.get other).isFree =
      (decide (other ≠ slot) && (mailbox.slots.get other).isFree) := by
    rw [slots_put]
    by_cases same : other = slot
    · simp [same, isFree_holding fits]
    · simp [same]
  have apart := mailbox.nodup_vacancies
  rw [vacant, List.nodup_cons] at apart
  calc (mailbox.put slot message).vacancies
      = mailbox.vacancies.filter (· ≠ slot) := by
        simp only [vacancies, others, List.filter_filter]
    _ = later := by
        rw [vacant, List.filter_cons_of_neg (by simp), List.filter_eq_self]
        intro other member
        exact decide_eq_true (ne_of_mem_of_not_mem member apart.1)

theorem Clean.put (clean : mailbox.Clean) (fits : message.Fits) : (mailbox.put slot message).Clean := by
  intro other free
  rw [slots_put] at free ⊢
  split_ifs at free ⊢ with same
  · rw [isFree_holding fits] at free
    cases free
  · exact clean other free

/-- Freeing a slot restores what a message in it has changed. -/
theorem release_put (clean : mailbox.slots.get slot = .empty) (message : Message) :
    (mailbox.put slot message).release slot = mailbox := by
  have same (other : Fin mailboxSlots) :
      ((mailbox.put slot message).release slot).slots.get other = mailbox.slots.get other := by
    rw [slots_release, slots_put]
    split_ifs with own equal
    · rw [← clean, Fin.ext own]
    · exact absurd (congrArg Fin.val equal.symm) own
    · rfl
  exact congrArg Mailbox.mk (Vector.ext fun index inside => same ⟨index, inside⟩)

theorem store_of_full (fits : (⟨sender, recipient, text⟩ : Message).Fits)
    (full : mailbox.vacancies = []) :
    mailbox.store sender recipient text = .error .mailboxFull := by
  have first : firstIndex? mailbox.slots Slot.isFree = none := by
    rw [firstIndex?_eq_head?, full, List.head?_nil]
  rw [store, if_neg (by simpa using fits.some), if_neg (Nat.not_lt.mpr fits.bound), first]

theorem store_of_vacant (fits : (⟨sender, recipient, text⟩ : Message).Fits)
    (clean : mailbox.Clean) (vacant : mailbox.vacancies = slot :: later) :
    mailbox.store sender recipient text =
      .ok (slot, mailbox.put slot ⟨sender, recipient, text⟩) := by
  have first : firstIndex? mailbox.slots Slot.isFree = some slot := by
    rw [firstIndex?_eq_head?, vacant, List.head?_cons]
  rw [store, if_neg (by simpa using fits.some), if_neg (Nat.not_lt.mpr fits.bound), first]
  have zeros : mailbox.slots[slot] = .empty := clean.of_vacant vacant
  dsimp only
  rw [zeros]
  rfl

/-- Puts messages into slots, one after the other. -/
def putAll (mailbox : Mailbox) (letters : List (Fin mailboxSlots × Message)) : Mailbox :=
  letters.foldl (fun mailbox letter => mailbox.put letter.1 letter.2) mailbox

section PutAll

variable {letters : List (Fin mailboxSlots × Message)}

theorem slots_putAll_of_notMem (spared : slot ∉ letters.map Prod.fst) :
    (mailbox.putAll letters).slots.get slot = mailbox.slots.get slot := by
  induction letters generalizing mailbox with
  | nil => rfl
  | cons letter rest ih =>
    rw [List.map_cons, List.mem_cons, not_or] at spared
    refine (ih spared.2).trans ?_
    rw [slots_put, if_neg spared.1]

theorem slots_putAll_of_mem (apart : (letters.map Prod.fst).Nodup)
    (member : (slot, message) ∈ letters) :
    (mailbox.putAll letters).slots.get slot = .holding message := by
  induction letters generalizing mailbox with
  | nil => cases member
  | cons letter rest ih =>
    rw [List.map_cons, List.nodup_cons] at apart
    rcases List.mem_cons.mp member with rfl | member
    · refine (slots_putAll_of_notMem apart.1).trans ?_
      rw [slots_put, if_pos rfl]
    · exact ih apart.2 member

end PutAll

end Mailbox

end HostChat
