import HostChat.Proofs.Console.Lines
import HostChat.Proofs.Console.Moments
import HostChat.Proofs.Session.Working

/-! # The line discipline of a console

A console executes the lines of its whole input, in order and each once, however the input is cut into
chunks and whatever comes in between. All that matters of an occasion that comes in between is how many
lines are complete by then.
-/

namespace HostChat.Console

open Text.Utf8

variable {σ : Type}

namespace Moment

def line? : Moment σ → Option (List UInt8)
  | .line raw => some raw
  | _ => none

/-- The moment itself, if it comes from others. -/
def aside? : Moment σ → Option (Moment σ)
  | .notified envelope => some (.notified envelope)
  | .meanwhile change => some (.meanwhile change)
  | _ => none

end Moment

namespace Occasion

def typed? : Occasion σ → Option (List UInt8)
  | .event (.typed bytes) => some bytes
  | _ => none

def endsInput : Occasion σ → Bool
  | .event .inputEnd => true
  | _ => false

/-- The moment of an occasion that comes from others. -/
def aside? : Occasion σ → Option (Moment σ)
  | .event (.notified envelope) => some (.notified envelope)
  | .meanwhile change => some (.meanwhile change)
  | _ => none

end Occasion

/-- All that is typed. -/
def input (occasions : List (Occasion σ)) : List UInt8 :=
  occasions.flatMap fun occasion => occasion.typed?.getD []

/-- Nothing is typed once the input has ended. -/
def EndsLast (occasions : List (Occasion σ)) : Prop :=
  occasions.Pairwise fun earlier later => earlier.endsInput = true → later.typed? = none

/-- The occasions other than typing, each with the number of lines that are completed between the one
before and itself. -/
def interludes : Nat → List (Occasion σ) → List (Nat × Occasion σ)
  | _, [] => []
  | completed, occasion :: rest =>
      match occasion.typed? with
      | some bytes => interludes (completed + bytes.count lineFeed) rest
      | none => (completed, occasion) :: interludes 0 rest

/-- The moments of an input in lines with occasions between them. -/
def weave : List (List UInt8) → List UInt8 → List (Nat × Occasion σ) → List (Moment σ)
  | lines, _, [] => lines.map .line
  | lines, last, (completed, occasion) :: rest =>
      (lines.take completed).map .line ++
        ((sortOut last occasion).1 ++ weave (lines.drop completed) (sortOut last occasion).2 rest)

variable {occasion : Occasion σ} {occasions : List (Occasion σ)} {line : List UInt8}

theorem input_cons (occasion : Occasion σ) (rest : List (Occasion σ)) :
    input (occasion :: rest) = occasion.typed?.getD [] ++ input rest := rfl

/-- Without input, the start of a line is all there is. -/
private theorem cutLines_input_nil (unended : lineFeed ∉ line) :
    cutLines (line ++ input ([] : List (Occasion σ))) = ([], line) := by
  rw [input, List.flatMap_nil, List.append_nil, cutLines_of_notMem unended]

theorem EndsLast.of_append {front back : List (Occasion σ)} (made : EndsLast (front ++ back)) :
    EndsLast front :=
  (List.pairwise_append.mp made).1

theorem EndsLast.tail (made : EndsLast (occasion :: occasions)) : EndsLast occasions :=
  (List.pairwise_cons.mp made).2

/-- Nothing is left of the input once it has ended. -/
theorem EndsLast.input_tail (made : EndsLast (occasion :: occasions))
    (ends : occasion.endsInput = true) : input occasions = [] := by
  refine List.flatMap_eq_nil_iff.mpr fun later member => ?_
  rw [(List.pairwise_cons.mp made).1 later member ends]
  rfl

private theorem endsInput_eq_true (ends : occasion.endsInput = true) :
    occasion = .event .inputEnd := by
  rcases occasion with ⟨_ | _ | _ | _ | _⟩ | _
  case event.inputEnd => rfl
  all_goals cases ends

private theorem typed?_eq_some {bytes : List UInt8} (typed : occasion.typed? = some bytes) :
    occasion = .event (.typed bytes) := by
  rcases occasion with ⟨_ | _ | _ | _ | _⟩ | _ <;> cases typed
  rfl

/-- An occasion that has nothing to do with the input leaves the start of a line as it is, and brings
the same whatever that is. -/
private theorem sortOut_of_interlude (untyped : occasion.typed? = none)
    (goesOn : occasion.endsInput = false) (line other : List UInt8) :
    sortOut line occasion = ((sortOut other occasion).1, line) := by
  rcases occasion with ⟨_ | _ | _ | _ | _⟩ | _
  · cases untyped
  · cases goesOn
  all_goals rfl

private theorem lineFeed_notMem_sortOut (unended : lineFeed ∉ line) (occasion : Occasion σ) :
    lineFeed ∉ (sortOut line occasion).2 := by
  rcases occasion with ⟨bytes | _ | _ | _ | _⟩ | _
  · exact lineFeed_notMem_rest _
  · exact List.not_mem_nil
  all_goals exact unended

/-- Lines that are complete before anything comes in between are the first to be executed. -/
theorem weave_append (front back : List (List UInt8)) (last : List UInt8) (completed : Nat)
    (occasions : List (Occasion σ)) :
    weave (front ++ back) last (interludes (completed + front.length) occasions) =
      front.map .line ++ weave back last (interludes completed occasions) := by
  induction occasions generalizing completed with
  | nil => simp only [interludes, weave, List.map_append]
  | cons occasion rest ih =>
    cases typed : occasion.typed? with
    | some bytes =>
      simp only [interludes, typed]
      rw [Nat.add_right_comm]
      exact ih _
    | none =>
      have length : completed + front.length - front.length = completed := Nat.add_sub_cancel ..
      simp only [interludes, typed, weave, List.take_append, List.drop_append, length,
        List.take_of_length_le (Nat.le_add_left front.length completed),
        List.drop_of_length_le (Nat.le_add_left front.length completed), List.map_append,
        List.append_assoc, List.nil_append]

/-- The moments depend on nothing but the whole input and the number of lines that are complete when
something else comes. -/
theorem moments_eq_weave (made : EndsLast occasions) (unended : lineFeed ∉ line) :
    moments line occasions =
      weave (cutLines (line ++ input occasions)).1 (cutLines (line ++ input occasions)).2
        (interludes 0 occasions) := by
  induction occasions generalizing line with
  | nil =>
    rw [cutLines_input_nil unended]
    rfl
  | cons occasion rest ih =>
    have tail := ih made.tail (lineFeed_notMem_sortOut unended occasion)
    rw [moments, tail, input_cons]
    cases typed : occasion.typed? with
    | some bytes =>
      obtain rfl := typed?_eq_some typed
      have completed : (cutLines (line ++ bytes)).1.length = bytes.count lineFeed := by
        rw [length_cutLines, List.count_append, List.count_eq_zero.mpr unended, Nat.zero_add]
      simp only [interludes, typed, Option.getD_some, sortOut]
      rw [← List.append_assoc, cutLines_append_eq (line ++ bytes), ← completed, weave_append]
    | none =>
      simp only [interludes, typed, Option.getD_none, List.nil_append, weave, List.take_zero,
        List.map_nil, List.drop_zero]
      cases ends : occasion.endsInput with
      | true =>
        obtain rfl := endsInput_eq_true ends
        have blank : cutLines line = ([], line) := cutLines_of_notMem unended
        simp only [made.input_tail ends, List.append_nil]
        rw [blank]
        rfl
      | false =>
        rw [sortOut_of_interlude typed ends line (cutLines (line ++ input rest)).2,
          sortOut_of_interlude typed ends (cutLines (line ++ input rest)).2 line]

/-- What follows the last line feed counts as a line at the end of the input, unless it is empty. -/
def lastLine (ended : Bool) (last : List UInt8) : List (List UInt8) :=
  if ended = true ∧ last ≠ [] then [last] else []

/-- The moments of occasions: the lines of the whole input, and what others do. -/
structure Sorted (occasions : List (Occasion σ)) (moments : List (Moment σ)) : Prop where
  lines : ∃ whole last, InLines (input occasions) whole last ∧
    moments.filterMap Moment.line? = whole ++ lastLine (occasions.any (·.endsInput)) last
  asides : moments.filterMap Moment.aside? = occasions.filterMap Occasion.aside?

private theorem line?_comp_line : Moment.line? ∘ (Moment.line : List UInt8 → Moment σ) = some := rfl

private theorem moments_lines (made : EndsLast occasions) (unended : lineFeed ∉ line) :
    (moments line occasions).filterMap Moment.line? =
      (cutLines (line ++ input occasions)).1 ++
        lastLine (occasions.any (·.endsInput)) (cutLines (line ++ input occasions)).2 := by
  induction occasions generalizing line with
  | nil =>
    rw [cutLines_input_nil unended]
    rfl
  | cons occasion rest ih =>
    have tail := ih made.tail (lineFeed_notMem_sortOut unended occasion)
    rw [moments, List.filterMap_append, tail, input_cons, List.any_cons]
    rcases occasion with ⟨bytes | _ | _ | envelope | _⟩ | change
    case event.typed =>
      have rejoined : line ++ (bytes ++ input rest) = line ++ bytes ++ input rest :=
        (List.append_assoc ..).symm
      simp only [Occasion.typed?, Option.getD_some, sortOut, List.filterMap_map, line?_comp_line,
        List.filterMap_some]
      rw [rejoined, cutLines_append_eq (line ++ bytes) (input rest), List.append_assoc]
      rfl
    case event.inputEnd =>
      have last : (cutLines line) = ([], line) := cutLines_of_notMem unended
      have blank (ended : Bool) : lastLine ended [] = [] := if_neg fun some => some.2 rfl
      simp only [made.input_tail rfl, Occasion.typed?, Option.getD_none, List.append_nil, sortOut,
        last, cutLines, blank, List.nil_append, Occasion.endsInput, Bool.true_or]
      cases line <;> rfl
    all_goals rfl

/-- What is kept of a line at the end. -/
theorem pending_eq_ite (made : EndsLast occasions) (unended : lineFeed ∉ line) :
    pending line occasions =
      if occasions.any (·.endsInput) = true then [] else (cutLines (line ++ input occasions)).2 := by
  induction occasions generalizing line with
  | nil =>
    rw [cutLines_input_nil unended]
    rfl
  | cons occasion rest ih =>
    have tail := ih made.tail (lineFeed_notMem_sortOut unended occasion)
    rw [pending, tail, input_cons, List.any_cons]
    rcases occasion with ⟨bytes | _ | _ | envelope | _⟩ | change
    case event.typed =>
      have rejoined : line ++ (bytes ++ input rest) = line ++ bytes ++ input rest :=
        (List.append_assoc ..).symm
      simp only [Occasion.typed?, Option.getD_some]
      rw [rejoined, cutLines_append_eq (line ++ bytes) (input rest)]
      rfl
    case event.inputEnd =>
      have nothing : (cutLines ([] : List UInt8)).2 = [] := rfl
      simp only [made.input_tail rfl, sortOut, List.append_nil, nothing, ite_self,
        Occasion.endsInput, Bool.true_or, if_true]
    all_goals rfl

theorem any_interludes (completed : Nat) (occasions : List (Occasion σ)) :
    (interludes completed occasions).any (·.2.endsInput) = occasions.any (·.endsInput) := by
  induction occasions generalizing completed with
  | nil => rfl
  | cons occasion rest ih =>
    rw [List.any_cons]
    cases typed : occasion.typed? with
    | some bytes =>
      obtain rfl := typed?_eq_some typed
      exact ih _
    | none => simp only [interludes, typed, List.any_cons, ih]

private theorem sortOut_asides (line : List UInt8) (occasion : Occasion σ) :
    (sortOut line occasion).1.filterMap Moment.aside? = occasion.aside?.toList := by
  rcases occasion with ⟨bytes | _ | _ | envelope | _⟩ | change
  · simp [sortOut, Moment.aside?, Occasion.aside?, Function.comp_def]
  · cases line <;> rfl
  all_goals rfl

theorem moments_asides (line : List UInt8) (occasions : List (Occasion σ)) :
    (moments line occasions).filterMap Moment.aside? = occasions.filterMap Occasion.aside? := by
  induction occasions generalizing line with
  | nil => rfl
  | cons occasion rest ih =>
    rw [moments, List.filterMap_append, ih, sortOut_asides, List.filterMap_cons]
    cases occasion.aside? <;> rfl

theorem sorted_moments (made : EndsLast occasions) : Sorted occasions (moments [] occasions) where
  lines := ⟨_, _, inLines_iff.mpr rfl, moments_lines made List.not_mem_nil⟩
  asides := moments_asides [] occasions

variable [Carrier σ]

/-- What a console does on a run of occasions. -/
structure Disciplined (session : Session) (start : State σ) (occasions : List (Occasion σ)) :
    Prop where
  /-- Whatever has come so far, its lines and what others did are the first moments of all, in order
  and each once. -/
  sorted : ∀ front, front <+: occasions →
    moments [] front <+: moments [] occasions ∧ Sorted front (moments [] front)
  /-- A run deals with the first moments, one after the other: with all of them unless the last one it
  deals with ends the console, and with none after an exit. -/
  ran : ∀ final, replay? (attend session) start occasions = some final →
    ∃ done reached, Deals session start (moments [] occasions) done reached ∧
      final = reached.keeping (pending [] occasions) ∧
      ∀ front raw back, done = front ++ .line raw :: back →
        Command.parse (lineText raw) = .ok .exit → back = []
  /-- A run that does not come to an end waits for the lock at one of its moments. -/
  waits : replay? (attend session) start occasions = none →
    ∃ done moment rest reached, moments [] occasions = done ++ moment :: rest ∧
      replay? (dealRunning session) start done = some reached ∧
      reached.isRunning = true ∧ deal session reached moment = none
  /-- How the input is cut makes no difference, nor does the place of other occasions between the same
  lines. -/
  unaffected : ∀ others, EndsLast others → input others = input occasions →
    interludes 0 others = interludes 0 occasions →
    replay? (attend session) start others = replay? (attend session) start occasions

/-- A console keeps the line discipline on every run of occasions, those of a run of its own alone
among them. -/
theorem line_discipline (session : Session) (screen : Screen) (host : Host σ)
    (occasions : List (Occasion σ)) (made : EndsLast occasions) :
    Disciplined session (await [] screen host) occasions ∧
      ∀ events, occasions = events.map .event →
        run session events screen host =
          replay? (attend session) (await [] screen host) occasions := by
  have kept : (await [] screen host).keeping [] = await [] screen host := await_keeping ..
  refine ⟨?_, ?_⟩
  · constructor
    case sorted =>
      rintro front ⟨back, rfl⟩
      rw [moments_append]
      exact ⟨List.prefix_append .., sorted_moments made.of_append⟩
    case ran =>
      intro final success
      rw [replay?_attend session kept] at success
      obtain ⟨reached, dealt, rfl⟩ := Option.map_eq_some_iff.mp success
      obtain ⟨done, deals⟩ := exists_deals dealt
      refine ⟨done, reached, deals, rfl, ?_⟩
      rintro front raw back rfl exits
      exact (deals.last_of_exit exits).1
    case waits =>
      intro failure
      rw [replay?_attend session kept, Option.map_eq_none_iff] at failure
      exact replay?_stuck (fun _ moment finished => deal_of_not_isRunning finished moment) failure
    case unaffected =>
      intro others made' same spaced
      have moments_eq : moments [] others = moments [] occasions := by
        rw [moments_eq_weave made' List.not_mem_nil, moments_eq_weave made List.not_mem_nil, same,
          spaced]
      have pending_eq : pending [] others = pending [] occasions := by
        rw [pending_eq_ite made' List.not_mem_nil, pending_eq_ite made List.not_mem_nil, same,
          ← any_interludes 0 others, ← any_interludes 0 occasions, spaced]
      rw [replay?_attend session kept, replay?_attend session kept, moments_eq, pending_eq]
  · rintro events rfl
    exact run_eq_replay? ..

/-- A notification comes in the middle of a line, and the last line is not ended. -/
def interrupted : List Event :=
  [.typed (Text.utf8 "/m"), .notified ⟨bert, .joinApprove bert⟩, .typed (Text.utf8 "e\n/exit"),
    .inputEnd]

theorem line_discipline_of_interrupted :
    EndsLast (interrupted.map (.event : Event → Occasion Exchange)) ∧
      (run Session.annasSession interrupted .empty (.empty Exchange.empty)).map (·.screen.shown) =
        some "> > PID: 41\n> " ∧
      Disciplined Session.annasSession (await [] .empty (.empty Exchange.empty))
        (interrupted.map .event) := by
  have ends : EndsLast (interrupted.map (.event : Event → Occasion Exchange)) := by
    simp [interrupted, EndsLast, Occasion.endsInput]
  have shown : (run Session.annasSession interrupted .empty (.empty Exchange.empty)).map
      (·.screen.shown) = some "> > PID: 41\n> " := by
    decide +kernel
  exact ⟨ends, shown, (line_discipline Session.annasSession .empty (.empty Exchange.empty) _ ends).1⟩

end HostChat.Console
