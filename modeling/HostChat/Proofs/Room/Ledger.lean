import HostChat.Message
import HostChat.Proofs.Replay
import Mathlib.Data.List.Induction
import Mathlib.Logic.ExistsUnique

/-! # The ledger of messages

A ledger lists, in order, what the sessions of all rooms have been told about messages: that a message
was accepted and put into a slot, that one was handed to a reader, and that somebody left. Replaying a
ledger gives the messages that lie in the slots. A message that was put into a slot lies there until
the first later entry that ends its stay.
-/

namespace HostChat

/-- A message in a slot of a store. -/
structure Posting where
  store : Nat
  slot : Nat
  message : Message
deriving DecidableEq, Repr

inductive Entry where
  | accepted (posting : Posting)
  | returned (reader : ParticipantId) (posting : Posting)
  | left (participant : ParticipantId) (store : Nat)
deriving DecidableEq, Repr

/-- The messages in the slots of all stores. -/
def Contents := Nat → Nat → Option Message

namespace Contents

def put (contents : Contents) (store slot : Nat) (message : Option Message) : Contents :=
  fun other index => if other = store ∧ index = slot then message else contents other index

/-- What is left in a store without the messages to one participant. -/
def without (contents : Contents) (participant : ParticipantId) (store : Nat) : Contents :=
  fun other index =>
    if other = store then (contents other index).filter (·.recipient ≠ participant)
    else contents other index

end Contents

namespace Entry

/-- Messages go into free slots, and only the recipient gets the very message that lies in a slot. -/
def effect? (contents : Contents) : Entry → Option Contents
  | .accepted posting =>
      if contents posting.store posting.slot = none then
        some (contents.put posting.store posting.slot posting.message)
      else none
  | .returned reader posting =>
      if contents posting.store posting.slot = some posting.message ∧
          posting.message.recipient = reader then
        some (contents.put posting.store posting.slot none)
      else none
  | .left participant store => some (contents.without participant store)

/-- Whether the entry ends the stay of a message in its slot. -/
def Ends (posting : Posting) : Entry → Prop
  | .accepted _ => False
  | .returned _ taken => taken.store = posting.store ∧ taken.slot = posting.slot
  | .left participant store => participant = posting.message.recipient ∧ store = posting.store

end Entry

namespace Posting

variable {posting : Posting} {later between others : List Entry} {entry other : Entry}
  {contents final : Contents}

/-- No entry ends the stay of the message. -/
def Untouched (posting : Posting) (later : List Entry) : Prop :=
  ∀ entry ∈ later, ¬entry.Ends posting

/-- The given entry is the first to end the stay of the message, after those `between`. -/
def EndedBy (posting : Posting) (later : List Entry) (entry : Entry) (between : List Entry) : Prop :=
  entry.Ends posting ∧ posting.Untouched between ∧ ∃ rest, later = between ++ entry :: rest

/-- Exactly one reader's entry is the first to end the stay, and it is the recipient's, with the very
message. -/
def Returned (posting : Posting) (later : List Entry) : Prop :=
  ∃! between, posting.EndedBy later (.returned posting.message.recipient posting) between

/-- The recipient has left before anybody could take the message. -/
def Discarded (posting : Posting) (later : List Entry) : Prop :=
  ∃! between, posting.EndedBy later (.left posting.message.recipient posting.store) between

theorem EndedBy.unique (first : posting.EndedBy later entry between)
    (second : posting.EndedBy later other others) : entry = other ∧ between = others := by
  obtain ⟨ends, untouched, rest, rfl⟩ := first
  obtain ⟨endsOther, untouchedOther, restOther, same⟩ := second
  induction between generalizing others with
  | nil =>
    cases others with
    | nil => exact ⟨(List.cons.inj same).1, rfl⟩
    | cons head tail =>
      have equal : entry = head := (List.cons.inj same).1
      exact absurd (equal ▸ ends) (untouchedOther head (List.mem_cons_self ..))
  | cons head tail ih =>
    cases others with
    | nil =>
      have equal : head = other := (List.cons.inj same).1
      exact absurd (equal ▸ endsOther) (untouched head (List.mem_cons_self ..))
    | cons headOther tailOther =>
      obtain ⟨equal, tails⟩ := List.cons.inj same
      obtain ⟨entries, rests⟩ := ih (fun entry member => untouched entry (List.mem_cons_of_mem _ member))
        (fun entry member => untouchedOther entry (List.mem_cons_of_mem _ member)) tails
      exact ⟨entries, by rw [equal, rests]⟩

theorem EndedBy.returned (ended : posting.EndedBy later
    (.returned posting.message.recipient posting) between) : posting.Returned later :=
  ⟨between, ended, fun _ other => (ended.unique other).2.symm⟩

theorem EndedBy.discarded (ended : posting.EndedBy later
    (.left posting.message.recipient posting.store) between) : posting.Discarded later :=
  ⟨between, ended, fun _ other => (ended.unique other).2.symm⟩

theorem EndedBy.not_untouched (ended : posting.EndedBy later entry between) :
    ¬posting.Untouched later := by
  obtain ⟨ends, -, rest, rfl⟩ := ended
  exact fun untouched => untouched entry (by simp) ends

theorem Returned.not_untouched (returned : posting.Returned later) : ¬posting.Untouched later := by
  obtain ⟨_, ended, -⟩ := returned
  exact ended.not_untouched

theorem Discarded.not_untouched (discarded : posting.Discarded later) :
    ¬posting.Untouched later := by
  obtain ⟨_, ended, -⟩ := discarded
  exact ended.not_untouched

theorem Returned.not_discarded (returned : posting.Returned later) : ¬posting.Discarded later := by
  intro discarded
  obtain ⟨_, first, -⟩ := returned
  obtain ⟨_, second, -⟩ := discarded
  have same := (first.unique second).1
  cases same

/-- A message that is accepted goes into a free slot. -/
theorem lies_of_accepted (applied : Entry.effect? contents (.accepted posting) = some final) :
    contents posting.store posting.slot = none ∧
      final posting.store posting.slot = some posting.message := by
  simp only [Entry.effect?] at applied
  split_ifs at applied with free
  cases applied
  exact ⟨free, by simp [Contents.put]⟩

theorem lies_of_returned {reader : ParticipantId}
    (applied : Entry.effect? contents (.returned reader posting) = some final) :
    contents posting.store posting.slot = some posting.message ∧
      posting.message.recipient = reader := by
  simp only [Entry.effect?] at applied
  split_ifs at applied with held
  exact held

/-- One entry leaves a message where it lies, or is its return, or is its recipient's leaving. -/
theorem effect?_cases (lies : contents posting.store posting.slot = some posting.message)
    (applied : entry.effect? contents = some final) :
    (¬entry.Ends posting ∧ final posting.store posting.slot = some posting.message) ∨
      entry = .returned posting.message.recipient posting ∨
        entry = .left posting.message.recipient posting.store := by
  cases entry with
  | accepted other =>
    simp only [Entry.effect?] at applied
    split_ifs at applied with free
    cases applied
    refine .inl ⟨id, ?_⟩
    simp only [Contents.put]
    split_ifs with same
    · rw [← same.1, ← same.2, lies] at free
      cases free
    · exact lies
  | returned reader taken =>
    simp only [Entry.effect?] at applied
    split_ifs at applied with held
    cases applied
    by_cases same : taken.store = posting.store ∧ taken.slot = posting.slot
    · have messages : posting.message = taken.message := by
        rw [same.1, same.2, lies] at held
        exact Option.some.inj held.1
      have whole : taken = posting := by
        cases taken
        cases posting
        simp_all
      exact .inr (.inl (by rw [← held.2, whole]))
    · refine .inl ⟨same, ?_⟩
      simp only [Contents.put]
      rw [if_neg fun equal => same ⟨equal.1.symm, equal.2.symm⟩]
      exact lies
  | left participant store =>
    cases applied
    by_cases same : participant = posting.message.recipient ∧ store = posting.store
    · exact .inr (.inr (by rw [same.1, same.2]))
    · refine .inl ⟨same, ?_⟩
      simp only [Contents.without]
      split_ifs with here
      · have other : posting.message.recipient ≠ participant := fun equal =>
          same ⟨equal.symm, here.symm⟩
        rw [lies, Option.filter_some]
        simp [other]
      · exact lies

/-- A message that lies in a slot after an entry was put there by that entry, or lay there before. -/
theorem effect?_lies (applied : entry.effect? contents = some final)
    (lies : final posting.store posting.slot = some posting.message) :
    entry = .accepted posting ∨
      (¬entry.Ends posting ∧ contents posting.store posting.slot = some posting.message) := by
  cases entry with
  | accepted other =>
    simp only [Entry.effect?] at applied
    split_ifs at applied with free
    cases applied
    simp only [Contents.put] at lies
    split_ifs at lies with same
    · have whole : other = posting := by
        cases other
        cases posting
        simp_all
      exact .inl (by rw [whole])
    · exact .inr ⟨id, lies⟩
  | returned reader taken =>
    simp only [Entry.effect?] at applied
    split_ifs at applied with held
    cases applied
    simp only [Contents.put] at lies
    split_ifs at lies with same
    exact .inr ⟨fun ends => same ⟨ends.1.symm, ends.2.symm⟩, lies⟩
  | left participant store =>
    cases applied
    simp only [Contents.without] at lies
    split_ifs at lies with here
    · obtain ⟨lies, other⟩ := Option.filter_eq_some_iff.mp lies
      exact .inr ⟨fun ends => by simp [ends.1] at other, lies⟩
    · exact .inr ⟨fun ends => here ends.2.symm, lies⟩

/-- Entries of other messages do not matter to a message. -/
theorem effect?_lies_iff (applied : entry.effect? contents = some final)
    (accepted : entry ≠ .accepted posting)
    (returned : entry ≠ .returned posting.message.recipient posting)
    (left : entry ≠ .left posting.message.recipient posting.store) :
    final posting.store posting.slot = some posting.message ↔
      contents posting.store posting.slot = some posting.message := by
  constructor
  · intro lies
    exact ((effect?_lies applied lies).resolve_left accepted).2
  · intro lies
    rcases effect?_cases lies applied with ⟨-, still⟩ | same | same
    · exact still
    · exact absurd same returned
    · exact absurd same left

/-- A message that lies in a slot either still lies there after a replay, or was returned to its
recipient, or was discarded when the recipient left. -/
theorem fate (lies : contents posting.store posting.slot = some posting.message)
    (replayed : replay? Entry.effect? contents later = some final) :
    (posting.Untouched later ∧ final posting.store posting.slot = some posting.message) ∨
      posting.Returned later ∨ posting.Discarded later := by
  suffices ends : (posting.Untouched later ∧
      final posting.store posting.slot = some posting.message) ∨ ∃ entry between,
        posting.EndedBy later entry between ∧
          (entry = .returned posting.message.recipient posting ∨
            entry = .left posting.message.recipient posting.store) by
    rcases ends with still | ⟨entry, between, ended, rfl | rfl⟩
    · exact .inl still
    · exact .inr (.inl ended.returned)
    · exact .inr (.inr ended.discarded)
  induction later generalizing contents with
  | nil =>
    cases replayed
    exact .inl ⟨fun _ member => absurd member List.not_mem_nil, lies⟩
  | cons head tail ih =>
    obtain ⟨next, applied, following⟩ := Option.bind_eq_some_iff.mp replayed
    have nothing : posting.Untouched [] := fun _ member => absurd member List.not_mem_nil
    rcases effect?_cases lies applied with ⟨kept, lies⟩ | equal | equal
    · rcases ih lies following with
        ⟨untouched, lies⟩ | ⟨entry, between, ⟨ends, untouched, rest, rfl⟩, kind⟩
      · exact .inl ⟨List.forall_mem_cons.mpr ⟨kept, untouched⟩, lies⟩
      · exact .inr ⟨entry, head :: between,
          ⟨ends, List.forall_mem_cons.mpr ⟨kept, untouched⟩, rest, rfl⟩, kind⟩
    · exact .inr ⟨head, [], ⟨equal ▸ ⟨rfl, rfl⟩, nothing, tail, rfl⟩, .inl equal⟩
    · exact .inr ⟨head, [], ⟨equal ▸ ⟨rfl, rfl⟩, nothing, tail, rfl⟩, .inr equal⟩

private theorem lies_of_untouched (lies : contents posting.store posting.slot = some posting.message)
    (replayed : replay? Entry.effect? contents later = some final)
    (untouched : posting.Untouched later) :
    final posting.store posting.slot = some posting.message := by
  rcases fate lies replayed with ⟨-, lies⟩ | returned | discarded
  · exact lies
  · exact absurd untouched returned.not_untouched
  · exact absurd untouched discarded.not_untouched

/-- The ledger `earlier` cut at the entry that accepted the message, with nothing to end its stay in
what follows. -/
def PutAt (posting : Posting) (earlier : List Entry) (cut : List Entry × List Entry) : Prop :=
  earlier = cut.1 ++ .accepted posting :: cut.2 ∧ posting.Untouched cut.2

private theorem exists_putAt {earlier : List Entry}
    (absent : contents posting.store posting.slot = none)
    (replayed : replay? Entry.effect? contents earlier = some final)
    (lies : final posting.store posting.slot = some posting.message) :
    ∃ cut, posting.PutAt earlier cut := by
  induction earlier using List.reverseRecOn generalizing final with
  | nil =>
    cases replayed
    rw [absent] at lies
    cases lies
  | append_singleton earlier entry ih =>
    obtain ⟨middle, before, last⟩ := replay?_append_eq_some_iff.mp replayed
    obtain ⟨_, applied, same⟩ := Option.bind_eq_some_iff.mp last
    cases same
    have further (kept : ¬entry.Ends posting)
        (there : middle posting.store posting.slot = some posting.message) :
        ∃ cut, posting.PutAt (earlier ++ [entry]) cut := by
      obtain ⟨⟨front, between⟩, rfl, untouched⟩ := ih before there
      refine ⟨(front, between ++ [entry]), by simp, fun other member => ?_⟩
      rcases List.mem_append.mp member with member | member
      · exact untouched other member
      · rw [List.mem_singleton.mp member]
        exact kept
    rcases effect?_lies applied lies with rfl | ⟨kept, there⟩
    · exact ⟨(earlier, []), rfl, fun _ member => absurd member List.not_mem_nil⟩
    · exact further kept there

theorem PutAt.unique_of_append {front between rest : List Entry}
    (replayed : replay? Entry.effect? contents
      (front ++ .accepted posting :: (between ++ .accepted posting :: rest)) = some final) :
    ¬posting.Untouched between := by
  intro untouched
  obtain ⟨_, -, replayed⟩ := replay?_append_eq_some_iff.mp replayed
  obtain ⟨first, accepted, replayed⟩ := Option.bind_eq_some_iff.mp replayed
  obtain ⟨second, between, replayed⟩ := replay?_append_eq_some_iff.mp replayed
  obtain ⟨_, again, -⟩ := Option.bind_eq_some_iff.mp replayed
  have lies := lies_of_untouched (lies_of_accepted accepted).2 between untouched
  rw [(lies_of_accepted again).1] at lies
  cases lies

/-- A message that lies in a slot was put there by exactly one entry since when nothing has ended its
stay. -/
theorem origin {earlier : List Entry} (absent : contents posting.store posting.slot = none)
    (replayed : replay? Entry.effect? contents earlier = some final)
    (lies : final posting.store posting.slot = some posting.message) :
    ∃! cut, posting.PutAt earlier cut := by
  obtain ⟨cut, put⟩ := exists_putAt absent replayed lies
  refine ⟨cut, put, ?_⟩
  rintro ⟨front, between⟩ ⟨rfl, untouched⟩
  obtain ⟨same, untouchedCut⟩ := put
  rcases List.append_eq_append_iff.mp same with ⟨gap, fronts, rests⟩ | ⟨gap, fronts, rests⟩
  · cases gap with
    | nil => exact Prod.ext (by simpa using fronts.symm) (List.cons.inj rests).2
    | cons head gap =>
      obtain ⟨rfl, rest⟩ := List.cons.inj rests
      rw [rests] at replayed
      rw [rest] at untouched
      exact absurd (fun entry member => untouched entry (List.mem_append_left _ member))
        (PutAt.unique_of_append replayed)
  · cases gap with
    | nil => exact Prod.ext (by simpa using fronts) (List.cons.inj rests).2.symm
    | cons head gap =>
      obtain ⟨rfl, rest⟩ := List.cons.inj rests
      rw [same, rests] at replayed
      rw [rest] at untouchedCut
      exact absurd (fun entry member => untouchedCut entry (List.mem_append_left _ member))
        (PutAt.unique_of_append replayed)

end Posting

end HostChat
