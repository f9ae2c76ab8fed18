import HostChat.Proofs.Answers
import HostChat.Proofs.Memory.Usable
import Mathlib.Data.Finset.Max
import Mathlib.Data.Fintype.Basic

/-! # Pending messages

To those who use it, a mailbox is a finite map from slot numbers to messages. The map says nothing of
words, lengths or bytes; it gives out the least number that it has nothing under. The bytes of a mailbox
are a function of the map, so that nothing is left in a slot of the messages that it once held, and
every operation on the mailbox answers as the map does.
-/

namespace HostChat

theorem Mailbox.slots_release (mailbox : Mailbox) (index : Nat) (slot : Fin mailboxSlots) :
    (mailbox.release index).slots.get slot = if index = slot.val then .empty else mailbox.slots.get slot :=
  Vector.getElem_setIfInBounds ..

/-- Counting slots counts the numbers of a set. -/
private theorem Mailbox.countP_slots (mailbox : Mailbox) (test : Slot → Bool)
    {counted : Finset (Fin mailboxSlots)}
    (passes : ∀ slot : Fin mailboxSlots, test (mailbox.slots.get slot) = true ↔ slot ∈ counted) :
    mailbox.slots.toList.countP test = counted.card := by
  have slots : mailbox.slots.toList = (List.finRange mailboxSlots).map (mailbox.slots.get ·) := by
    apply List.ext_getElem
    · simp
    · intro index inside _
      rw [List.getElem_map, List.getElem_finRange, Vector.getElem_toList]
      rfl
  have numbers : ((List.finRange mailboxSlots).filter fun slot => test (mailbox.slots.get slot)).toFinset =
      counted := by
    ext slot
    rw [List.mem_toFinset, List.mem_filter, ← passes]
    exact and_iff_right (List.mem_finRange slot)
  rw [slots, List.countP_map, List.countP_eq_length_filter, ← numbers,
    List.toFinset_card_of_nodup ((List.nodup_finRange _).filter _)]
  rfl

/-- There is a text, and it fits into a slot. -/
structure Message.Fits (message : Message) : Prop where
  some : message.text ≠ []
  bound : message.text.length ≤ maxMessageBytes

/-- The messages on their way, by the numbers of their slots. -/
@[ext]
structure Pending where
  message? : Fin mailboxSlots → Option Message
  fits : ∀ {slot message}, message? slot = some message → message.Fits

namespace Pending

variable {pending : Pending} {slot : Fin mailboxSlots} {message : Message}

def empty : Pending := ⟨fun _ => none, nofun⟩

/-- The message under a number that need not be that of a slot. -/
def find? (pending : Pending) (index : Nat) : Option Message :=
  if inside : index < mailboxSlots then pending.message? ⟨index, inside⟩ else none

def absent (pending : Pending) : Finset (Fin mailboxSlots) :=
  {slot | pending.message? slot = none}

def size (pending : Pending) : Nat :=
  pending.absentᶜ.card

/-- The slots of the messages to somebody. -/
def addressed (pending : Pending) (recipient : ParticipantId) : Finset (Fin mailboxSlots) :=
  {slot | (pending.message? slot).any (·.recipient = recipient)}

def put (pending : Pending) (slot : Fin mailboxSlots) (message : Message) (fits : message.Fits) :
    Pending where
  message? := Function.update pending.message? slot (some message)
  fits {other held} found := by
    by_cases same : other = slot
    · subst same
      rw [Function.update_self, Option.some.injEq] at found
      exact found ▸ fits
    · rw [Function.update_of_ne same] at found
      exact pending.fits found

def without (pending : Pending) (gone : Fin mailboxSlots → Bool) : Pending where
  message? slot := if gone slot then none else pending.message? slot
  fits found := by
    split_ifs at found
    exact pending.fits found

/-- Removes what there is under a number. -/
def release (pending : Pending) (index : Nat) : Pending :=
  pending.without (·.val = index)

def store (pending : Pending) (sender recipient : ParticipantId) (text : List UInt8) :
    Except RoomError (Fin mailboxSlots) × Pending :=
  if blank : text = [] then (.error .emptyMessage, pending)
  else if long : maxMessageBytes < text.length then (.error (.overflow text.length), pending)
  else if free : pending.absent.Nonempty then
    let slot := pending.absent.min' free
    (.ok slot, pending.put slot ⟨sender, recipient, text⟩ ⟨blank, Nat.not_lt.mp long⟩)
  else (.error .mailboxFull, pending)

def take (pending : Pending) (index : Nat) (recipient : ParticipantId) : Option Message × Pending :=
  match (pending.find? index).filter (·.recipient = recipient) with
  | some message => (some message, pending.release index)
  | none => (none, pending)

def purgeFor (pending : Pending) (recipient : ParticipantId) : Nat × Pending :=
  ((pending.addressed recipient).card, pending.without (· ∈ pending.addressed recipient))

/-- The one mailbox that shows these messages. -/
def mailbox (pending : Pending) : Mailbox :=
  ⟨.ofFn fun slot => (pending.message? slot).elim .empty .holding⟩

theorem mem_absent : slot ∈ pending.absent ↔ pending.message? slot = none := by
  simp [absent]

theorem mem_addressed {recipient : ParticipantId} :
    slot ∈ pending.addressed recipient ↔
      ∃ message, pending.message? slot = some message ∧ message.recipient = recipient := by
  simp [addressed, Option.any_eq_true]

theorem message?_put (pending : Pending) (slot other : Fin mailboxSlots) (message : Message)
    (fits : message.Fits) :
    (pending.put slot message fits).message? other =
      if other = slot then some message else pending.message? other :=
  Function.update_apply ..

theorem message?_release (pending : Pending) (index : Nat) (slot : Fin mailboxSlots) :
    (pending.release index).message? slot =
      if slot.val = index then none else pending.message? slot := by
  simp [release, without]

theorem message?_purgeFor (pending : Pending) (recipient : ParticipantId) (slot : Fin mailboxSlots) :
    (pending.purgeFor recipient).2.message? slot =
      if slot ∈ pending.addressed recipient then none else pending.message? slot := by
  simp [purgeFor, without]

theorem store_of_error {sender recipient : ParticipantId} {text : List UInt8} {error : RoomError}
    (refused : (pending.store sender recipient text).1 = .error error) :
    (pending.store sender recipient text).2 = pending := by
  simp only [store] at refused ⊢
  split_ifs at refused ⊢ <;> rfl

/-- A message goes to a number that there was nothing under. -/
theorem store_eq_ok {sender recipient : ParticipantId} {text : List UInt8}
    (success : (pending.store sender recipient text).1 = .ok slot) :
    pending.message? slot = none ∧
      (pending.store sender recipient text).2.message? slot = some ⟨sender, recipient, text⟩ := by
  simp only [store] at success ⊢
  split_ifs at success ⊢ with blank long free
  cases success
  refine ⟨mem_absent.mp (pending.absent.min'_mem free), ?_⟩
  rw [message?_put, if_pos rfl]

/-! ### The mailbox that shows the messages -/

@[simp] theorem slots_mailbox (pending : Pending) (slot : Fin mailboxSlots) :
    pending.mailbox.slots.get slot = (pending.message? slot).elim .empty .holding :=
  Vector.getElem_ofFn slot.isLt

private theorem eq_mailbox {mailbox : Mailbox}
    (same : ∀ slot : Fin mailboxSlots,
      mailbox.slots.get slot = (pending.message? slot).elim .empty .holding) :
    mailbox = pending.mailbox := by
  have slots : mailbox.slots = pending.mailbox.slots :=
    Vector.ext fun index inside =>
      (same ⟨index, inside⟩).trans (pending.slots_mailbox ⟨index, inside⟩).symm
  exact congrArg Mailbox.mk slots

theorem mailbox_empty : empty.mailbox = .empty :=
  (eq_mailbox fun slot => Vector.getElem_replicate slot.isLt).symm

private theorem content?_slots_mailbox (pending : Pending) (slot : Fin mailboxSlots) :
    (pending.mailbox.slots.get slot).content? = pending.message? slot := by
  rw [slots_mailbox]
  cases held : pending.message? slot with
  | none => rfl
  | some message => exact Slot.content?_holding (pending.fits held).some (pending.fits held).bound

private theorem isFree_slots_mailbox :
    (pending.mailbox.slots.get slot).isFree = true ↔ slot ∈ pending.absent := by
  rw [mem_absent]
  constructor
  · intro free
    rw [← content?_slots_mailbox, Slot.content?_of_isFree free]
  · intro missing
    rw [slots_mailbox, missing]
    rfl

theorem content?_mailbox (pending : Pending) (index : Nat) :
    pending.mailbox.content? index = pending.find? index := by
  simp only [Mailbox.content?, Mailbox.slot?, find?]
  split_ifs with inside
  · rw [Vector.getElem?_eq_getElem inside, Option.bind_some]
    exact content?_slots_mailbox pending ⟨index, inside⟩
  · rw [Vector.getElem?_eq_none (Nat.le_of_not_lt inside), Option.bind_none]

/-- Looking for the first free slot finds the least number without a message. -/
theorem firstIndex?_mailbox (pending : Pending) :
    firstIndex? pending.mailbox.slots Slot.isFree =
      if free : pending.absent.Nonempty then some (pending.absent.min' free) else none := by
  split_ifs with free
  · have first := isFree_slots_mailbox.mpr (pending.absent.min'_mem free)
    refine firstIndex?_eq_some_iff.mpr ⟨first, fun earlier less => Bool.eq_false_iff.mpr fun vacant => ?_⟩
    have member : earlier ∈ pending.absent := isFree_slots_mailbox.mp vacant
    exact absurd (pending.absent.min'_le earlier member) (not_le.mpr less)
  · refine firstIndex?_eq_none_iff.mpr fun slot => Bool.eq_false_iff.mpr fun vacant => free ⟨slot, ?_⟩
    exact isFree_slots_mailbox.mp vacant

theorem store_mailbox (pending : Pending) (sender recipient : ParticipantId) (text : List UInt8) :
    pending.mailbox.store sender recipient text =
      (pending.store sender recipient text).1.map fun slot =>
        (slot, (pending.store sender recipient text).2.mailbox) := by
  by_cases blank : text = []
  · simp [Mailbox.store, store, blank, Except.map]
  by_cases long : maxMessageBytes < text.length
  · simp [Mailbox.store, store, blank, long, Except.map]
  by_cases free : pending.absent.Nonempty
  · have clean : pending.mailbox.slots[pending.absent.min' free] = .empty := by
      change pending.mailbox.slots.get _ = _
      rw [slots_mailbox, mem_absent.mp (pending.absent.min'_mem free)]
      rfl
    simp only [Mailbox.store, store, List.isEmpty_iff, blank, long, free, firstIndex?_mailbox,
      if_false, dif_neg, dif_pos, not_false_eq_true, Except.map]
    refine congrArg (fun mailbox => Except.ok (_, mailbox)) (eq_mailbox fun slot => ?_)
    rw [message?_put, get_set_eq_ite]
    split_ifs with same
    · rw [clean]
      rfl
    · exact pending.slots_mailbox slot
  · simp [Mailbox.store, store, blank, long, free, firstIndex?_mailbox, Except.map]

theorem exists_of_store_mailbox {sender recipient : ParticipantId} {text : List UInt8}
    {stored : Mailbox} (success : pending.mailbox.store sender recipient text = .ok (slot, stored)) :
    pending.message? slot = none ∧ ∃ next : Pending, stored = next.mailbox ∧
      next.message? slot = some ⟨sender, recipient, text⟩ := by
  rw [store_mailbox] at success
  cases stores : (pending.store sender recipient text).1 with
  | error error =>
    rw [stores] at success
    cases success
  | ok other =>
    rw [stores] at success
    cases success
    obtain ⟨missing, held⟩ := store_eq_ok stores
    exact ⟨missing, _, rfl, held⟩

theorem release_mailbox (pending : Pending) (index : Nat) :
    pending.mailbox.release index = (pending.release index).mailbox := by
  refine eq_mailbox fun slot => ?_
  rw [message?_release, Mailbox.slots_release, slots_mailbox]
  split_ifs with own other other
  · rfl
  · exact absurd own.symm other
  · exact absurd other.symm own
  · rfl

theorem take_mailbox (pending : Pending) (index : Nat) (recipient : ParticipantId) :
    pending.mailbox.take index recipient =
      ((pending.take index recipient).1, (pending.take index recipient).2.mailbox) := by
  rw [Mailbox.take_eq, content?_mailbox, take]
  cases (pending.find? index).filter (·.recipient = recipient) with
  | none => rfl
  | some message => rw [release_mailbox]

private theorem isFor_slots_mailbox {recipient : ParticipantId} :
    (pending.mailbox.slots.get slot).isFor recipient = true ↔ slot ∈ pending.addressed recipient := by
  rw [mem_addressed]
  constructor
  · intro own
    cases held : pending.message? slot with
    | none =>
      rw [slots_mailbox, held] at own
      cases own
    | some message =>
      refine ⟨message, rfl, (Slot.isFor_iff_of_content ?_).mp own⟩
      rw [content?_slots_mailbox, held]
  · rintro ⟨message, held, own⟩
    exact (Slot.isFor_iff_of_content (content?_slots_mailbox pending slot ▸ held)).mpr own

theorem purgeFor_mailbox (pending : Pending) (recipient : ParticipantId) :
    pending.mailbox.purgeFor recipient =
      ((pending.purgeFor recipient).1, (pending.purgeFor recipient).2.mailbox) := by
  have counted := Mailbox.countP_slots pending.mailbox (·.isFor recipient) fun slot =>
    (isFor_slots_mailbox : _ ↔ slot ∈ pending.addressed recipient)
  have purged : (pending.mailbox.purgeFor recipient).2 = (pending.purgeFor recipient).2.mailbox := by
    refine eq_mailbox fun slot => ?_
    rw [Mailbox.slots_purgeFor, message?_purgeFor, if_congr isFor_slots_mailbox rfl rfl]
    split_ifs
    · rfl
    · exact pending.slots_mailbox slot
  rw [← purged, purgeFor, ← counted, Mailbox.purgeFor]

theorem occupied_mailbox (pending : Pending) : pending.mailbox.occupied = pending.size := by
  refine Mailbox.countP_slots pending.mailbox (!·.isFree) fun slot => ?_
  rw [Finset.mem_compl, ← isFree_slots_mailbox]
  simp

end Pending

namespace Mailbox

inductive Operation where
  | store (sender recipient : ParticipantId) (text : List UInt8)
  | take (index : Nat) (recipient : ParticipantId)
  | release (index : Nat)
  | purgeFor (recipient : ParticipantId)
  | clear
deriving DecidableEq

inductive Answer where
  | stored (result : Except RoomError (Fin mailboxSlots))
  | taken (message : Option Message)
  | purged (count : Nat)
  | done
deriving DecidableEq

/-- Whether an operation is turned down, or finds nothing to take. -/
def Answer.isRefusal : Answer → Bool
  | .stored (.error _) | .taken none => true
  | _ => false

def perform (mailbox : Mailbox) : Operation → Answer × Mailbox
  | .store sender recipient text =>
      match mailbox.store sender recipient text with
      | .ok (slot, stored) => (.stored (.ok slot), stored)
      | .error error => (.stored (.error error), mailbox)
  | .take index recipient =>
      let (message, taken) := mailbox.take index recipient
      (.taken message, taken)
  | .release index => (.done, mailbox.release index)
  | .purgeFor recipient =>
      let (count, purged) := mailbox.purgeFor recipient
      (.purged count, purged)
  | .clear => (.done, .empty)

/-- The operation leaves a message to `recipient` in its slot. -/
def Operation.Spares (slot : Fin mailboxSlots) (recipient : ParticipantId) : Operation → Prop
  | .store .. => True
  | .take index reader => index = slot.val → reader ≠ recipient
  | .release index => index ≠ slot.val
  | .purgeFor other => other ≠ recipient
  | .clear => False

theorem perform_of_refusal {mailbox : Mailbox} {operation : Operation}
    (refused : (mailbox.perform operation).1.isRefusal = true) :
    (mailbox.perform operation).2 = mailbox := by
  cases operation with
  | store sender recipient text =>
    simp only [perform] at refused ⊢
    cases stores : mailbox.store sender recipient text with
    | ok stored =>
      rw [stores] at refused
      cases refused
    | error error => rfl
  | take index recipient =>
    simp only [perform] at refused ⊢
    rcases taken : mailbox.take index recipient with ⟨_ | message, after⟩
    · exact (take_eq_none taken).1
    · rw [taken] at refused
      cases refused
  | release index => cases refused
  | purgeFor recipient => cases refused
  | clear => cases refused

end Mailbox

namespace Pending

variable {pending : Pending} {slot : Fin mailboxSlots} {message : Message}

def perform (pending : Pending) : Mailbox.Operation → Mailbox.Answer × Pending
  | .store sender recipient text =>
      let (result, stored) := pending.store sender recipient text
      (.stored result, stored)
  | .take index recipient =>
      let (message, taken) := pending.take index recipient
      (.taken message, taken)
  | .release index => (.done, pending.release index)
  | .purgeFor recipient =>
      let (count, purged) := pending.purgeFor recipient
      (.purged count, purged)
  | .clear => (.done, .empty)

/-- An operation on a mailbox is the operation on the messages that it shows. -/
theorem perform_mailbox (pending : Pending) (operation : Mailbox.Operation) :
    pending.mailbox.perform operation =
      ((pending.perform operation).1, (pending.perform operation).2.mailbox) := by
  cases operation with
  | store sender recipient text =>
    simp only [Mailbox.perform, perform, store_mailbox]
    cases stores : (pending.store sender recipient text).1 with
    | ok slot => rfl
    | error error =>
      rw [store_of_error stores]
      rfl
  | take index recipient => simp only [Mailbox.perform, perform, take_mailbox]
  | release index => simp only [Mailbox.perform, perform, release_mailbox]
  | purgeFor recipient => simp only [Mailbox.perform, perform, purgeFor_mailbox]
  | clear => simp only [Mailbox.perform, perform, mailbox_empty]

/-- A message stays where it is until somebody has to do with it. -/
theorem message?_perform {operation : Mailbox.Operation} (held : pending.message? slot = some message)
    (spares : operation.Spares slot message.recipient) :
    (pending.perform operation).2.message? slot = some message := by
  cases operation with
  | store sender recipient text =>
    simp only [perform, store]
    split_ifs with blank long free
    · exact held
    · exact held
    · rw [message?_put, if_neg, held]
      rintro rfl
      have missing := mem_absent.mp (pending.absent.min'_mem free)
      rw [held] at missing
      cases missing
    · exact held
  | take index reader =>
    simp only [perform, take]
    cases found : (pending.find? index).filter (·.recipient = reader) with
    | none => exact held
    | some taken =>
      rw [message?_release, if_neg, held]
      rintro rfl
      have there : pending.find? slot.val = some message := by rw [find?, dif_pos slot.isLt, held]
      rw [there, Option.filter_eq_some_iff] at found
      exact spares rfl (of_decide_eq_true (Option.some.inj found.1 ▸ found.2)).symm
  | release index => rw [perform, message?_release, if_neg (Ne.symm spares), held]
  | purgeFor other =>
    rw [perform, message?_purgeFor, if_neg, held]
    rw [mem_addressed]
    rintro ⟨_, there, own⟩
    rw [held, Option.some.injEq] at there
    exact spares (there ▸ own).symm
  | clear => exact spares.elim

end Pending

namespace Mailbox

/-- The message in a slot goes to whoever it is for. The slot is then as it was in the mailbox that
the message was stored in, and no other slot has changed. -/
structure Returns (mailbox : Mailbox) (slot : Fin mailboxSlots) (message : Message)
    (later : Mailbox) : Prop where
  taken : later.take slot message.recipient = (some message, later.release slot)
  clean : mailbox.slots.get slot = .empty
  restored : (later.release slot).slots.get slot = mailbox.slots.get slot
  others : ∀ other ≠ slot, (later.release slot).slots.get other = later.slots.get other

theorem returns_of_store {pending : Pending} {sender recipient : ParticipantId} {text : List UInt8}
    {slot : Fin mailboxSlots} {stored : Mailbox} {between : List Operation}
    (stores : pending.mailbox.store sender recipient text = .ok (slot, stored))
    (spared : ∀ operation ∈ between, operation.Spares slot recipient) :
    pending.mailbox.Returns slot ⟨sender, recipient, text⟩ (respond perform stored between).2 := by
  obtain ⟨missing, next, rfl, held⟩ := Pending.exists_of_store_mailbox stores
  have waits : ∃ later : Pending, (respond perform next.mailbox between).2 = later.mailbox ∧
      later.message? slot = some ⟨sender, recipient, text⟩ := by
    refine respond_invariant (fun mailbox => ∃ later : Pending, mailbox = later.mailbox ∧
      later.message? slot = some ⟨sender, recipient, text⟩) ?_ ⟨next, rfl, held⟩
    rintro _ operation member ⟨later, rfl, waits⟩
    rw [Pending.perform_mailbox]
    exact ⟨_, rfl, Pending.message?_perform waits (spared operation member)⟩
  obtain ⟨later, same, waits⟩ := waits
  have clean : pending.mailbox.slots.get slot = .empty := by
    rw [Pending.slots_mailbox, missing]
    rfl
  have lies : later.mailbox.content? slot = some ⟨sender, recipient, text⟩ := by
    rw [Pending.content?_mailbox, Pending.find?, dif_pos slot.isLt, waits]
  rw [same]
  refine ⟨take_of_content lies, clean, ?_, fun other different => ?_⟩
  · rw [slots_release, if_pos rfl, clean]
  · rw [slots_release, if_neg fun equal => different (Fin.ext equal.symm)]

/-- A mailbox answers whatever is asked of it as the map of its messages does, and the map determines
all of its bytes. What it turns down changes nothing, and a message that others leave alone comes out
as it went in. -/
theorem follows_pending {operations : List Operation} {answers : List Answer} {mailbox : Mailbox}
    (ran : respond perform empty operations = (answers, mailbox)) :
    ∃ pending, respond Pending.perform .empty operations = (answers, pending) ∧
      mailbox = pending.mailbox ∧ mailbox.occupied = pending.size ∧
      (∀ operation, (mailbox.perform operation).1.isRefusal = true →
        (mailbox.perform operation).2 = mailbox) ∧
      ∀ sender recipient text slot stored, mailbox.store sender recipient text = .ok (slot, stored) →
        ∀ between : List Operation, (∀ operation ∈ between, operation.Spares slot recipient) →
          mailbox.Returns slot ⟨sender, recipient, text⟩ (respond perform stored between).2 := by
  have simulates (mailbox : Mailbox) (pending : Pending) (operation : Operation)
      (same : mailbox = pending.mailbox) :
      (mailbox.perform operation).1 = (pending.perform operation).1 ∧
        (mailbox.perform operation).2 = (pending.perform operation).2.mailbox := by
    rw [same, Pending.perform_mailbox]
    exact ⟨rfl, rfl⟩
  obtain ⟨alike, shows⟩ := respond_simulates _ simulates Pending.mailbox_empty.symm operations
  rw [ran] at alike shows
  change mailbox = _ at shows
  refine ⟨_, Prod.ext alike.symm rfl, shows, ?_, fun _ => perform_of_refusal, ?_⟩
  · rw [shows, Pending.occupied_mailbox]
  · intro sender recipient text slot stored stores between spared
    rw [shows] at stores ⊢
    exact returns_of_store stores spared

def slot0 : Fin mailboxSlots := ⟨0, by decide⟩

def slot1 : Fin mailboxSlots := ⟨1, by decide⟩

/-- bert takes one of two messages, and its slot is given out again. -/
def exchanged : List Operation :=
  [.store anna bert [1, 2, 3], .store bert anna [4], .take 1 bert, .take 0 bert, .take 300 bert,
    .store cleo anna [], .store cleo bert [5], .release 7, .purgeFor anna]

/-- What is stored next goes to slot 1, and is there after others have come and gone. -/
theorem follows_pending_after_reuse :
    ∃ (mailbox : Mailbox) (pending : Pending) (stored : Mailbox),
      respond perform empty exchanged = ([.stored (.ok slot0), .stored (.ok slot1), .taken none,
        .taken (some ⟨anna, bert, [1, 2, 3]⟩), .taken none, .stored (.error .emptyMessage),
        .stored (.ok slot0), .done, .purged 1], mailbox) ∧
      mailbox = pending.mailbox ∧ mailbox.occupied = pending.size ∧
      mailbox.store anna cleo [6] = .ok (slot1, stored) ∧
      mailbox.Returns slot1 ⟨anna, cleo, [6]⟩
        (respond perform stored [.store bert anna [7], .take 1 bert, .purgeFor bert]).2 := by
  have answers : (respond perform empty exchanged).1 = [.stored (.ok slot0), .stored (.ok slot1),
      .taken none, .taken (some ⟨anna, bert, [1, 2, 3]⟩), .taken none,
      .stored (.error .emptyMessage), .stored (.ok slot0), .done, .purged 1] := by decide +kernel
  have next : ((respond perform empty exchanged).2.store anna cleo [6]).map Prod.fst = .ok slot1 := by
    decide +kernel
  generalize ran : respond perform empty exchanged = outcome at answers next
  obtain ⟨_, mailbox⟩ := outcome
  subst answers
  obtain ⟨pending, -, shows, size, -, returns⟩ := follows_pending ran
  cases stores : mailbox.store anna cleo [6] with
  | error error =>
    rw [stores] at next
    cases next
  | ok stored =>
    obtain ⟨slot, stored⟩ := stored
    rw [stores] at next
    cases next
    refine ⟨mailbox, pending, stored, rfl, shows, size, stores, returns _ _ _ _ _ stores _ ?_⟩
    simp only [List.mem_cons, List.not_mem_nil, or_false, forall_eq_or_imp, forall_eq,
      Operation.Spares]
    decide

end Mailbox

end HostChat
