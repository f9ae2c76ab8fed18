import HostChat.Proofs.Console.Decoding
import HostChat.Proofs.Console.Discipline

/-! # Any bytes, or the bytes of their text

A console that is given the bytes of a text instead of the bytes the text is read from does the same
with them: it executes the same commands, at the same moments, and comes to the same end. Only the start
of a line that is still being typed is kept as it has come in.
-/

namespace HostChat.Console

open Text Text.Utf8

variable {σ : Type}

namespace Moment

/-- The moment with the bytes of the text of its line. -/
def recode : Moment σ → Moment σ
  | .line raw => .line (Text.recode raw)
  | moment => moment

/-- What the line of a moment asks for. -/
def command? (moment : Moment σ) : Option (Except Command.Problem Command) :=
  moment.line?.map fun raw => Command.parse (lineText raw)

private theorem command?_recode (moment : Moment σ) : moment.recode.command? = moment.command? := by
  cases moment with
  | line raw => simp only [recode, command?, line?, Option.map_some, lineText_recode]
  | _ => rfl

end Moment

namespace State

/-- The state with the bytes of the text of the line that is being typed. -/
def recode (state : State σ) : State σ :=
  match state.phase with
  | .running line => { state with phase := .running (Text.recode line) }
  | .ended _ => state

private theorem recode_keeping (state : State σ) (line : List UInt8) :
    (state.keeping line).recode = state.keeping (Text.recode line) := by
  rcases state with ⟨_ | _, screen, host⟩ <;> rfl

end State

section Moments

variable {occasion : Occasion σ} {occasions others : List (Occasion σ)} {line : List UInt8}

private theorem untyped_of_mem_interludes {completed : Nat} {between : Nat × Occasion σ}
    (member : between ∈ interludes completed occasions) : between.2.typed? = none := by
  induction occasions generalizing completed with
  | nil => cases member
  | cons occasion rest ih =>
    cases typed : occasion.typed? with
    | some bytes =>
      simp only [interludes, typed] at member
      exact ih member
    | none =>
      simp only [interludes, typed] at member
      rcases List.mem_cons.mp member with rfl | member
      · exact typed
      · exact ih member

theorem sortOut_recode (untyped : occasion.typed? = none) (line : List UInt8) :
    sortOut (Text.recode line) occasion =
      ((sortOut line occasion).1.map Moment.recode, Text.recode (sortOut line occasion).2) := by
  rcases occasion with ⟨bytes | _ | _ | envelope | _⟩ | change
  case event.typed => cases untyped
  case event.inputEnd =>
    cases line with
    | nil => rfl
    | cons byte rest =>
      have some : Text.recode (byte :: rest) ≠ [] := fun none => by cases recode_eq_nil_iff.mp none
      have filled : (Text.recode (byte :: rest)).isEmpty = false := List.isEmpty_eq_false_iff.mpr some
      simp only [sortOut, filled]
      rfl
  all_goals rfl

theorem weave_recode (lines : List (List UInt8)) (last : List UInt8)
    {between : List (Nat × Occasion σ)} (untyped : ∀ one ∈ between, one.2.typed? = none) :
    weave (lines.map Text.recode) (Text.recode last) between =
      (weave lines last between).map Moment.recode := by
  induction between generalizing lines last with
  | nil =>
    simp only [weave, List.map_map]
    rfl
  | cons one rest ih =>
    obtain ⟨completed, occasion⟩ := one
    have tail := ih (lines.drop completed) (sortOut last occasion).2 fun one member =>
      untyped one (List.mem_cons_of_mem _ member)
    simp only [weave, sortOut_recode (untyped (completed, occasion) List.mem_cons_self), ← List.map_take,
      ← List.map_drop, tail, List.map_append, List.map_map]
    rfl

/-- Other occasions that bring the bytes of the text of an input instead of the input, with the same
between the same lines. -/
structure Recodes (others occasions : List (Occasion σ)) : Prop where
  ended : EndsLast others
  input : Console.input others = Text.utf8 (Text.ofUtf8 (Console.input occasions))
  interludes : Console.interludes 0 others = Console.interludes 0 occasions

theorem moments_of_recodes (made : EndsLast occasions) (recodes : Recodes others occasions) :
    moments [] others = (moments [] occasions).map Moment.recode := by
  have same : input others = Text.recode (input occasions) := recodes.input
  rw [moments_eq_weave recodes.ended List.not_mem_nil, moments_eq_weave made List.not_mem_nil,
    List.nil_append, List.nil_append, same, cutLines_recode, recodes.interludes]
  exact weave_recode _ _ fun one => untyped_of_mem_interludes

theorem pending_of_recodes (made : EndsLast occasions) (recodes : Recodes others occasions) :
    pending [] others = Text.recode (pending [] occasions) := by
  have same : input others = Text.recode (input occasions) := recodes.input
  rw [pending_eq_ite recodes.ended List.not_mem_nil, pending_eq_ite made List.not_mem_nil,
    List.nil_append, List.nil_append, same, cutLines_recode, ← any_interludes 0 others,
    recodes.interludes, any_interludes]
  split_ifs <;> rfl

/-- What is left of a line, as something that is typed. -/
def typedRest (line : List UInt8) : List (Occasion σ) :=
  if line = [] then [] else [.event (.typed (Text.recode line))]

/-- The occasions with every chunk recoded up to its last line feed, and what follows that one later. -/
def recodeChunks : List UInt8 → List (Occasion σ) → List (Occasion σ)
  | line, [] => typedRest line
  | line, .event (.typed bytes) :: rest =>
      .event (.typed (Text.recode (cutLines (line ++ bytes)).1.flatten)) ::
        recodeChunks (cutLines (line ++ bytes)).2 rest
  | line, .event .inputEnd :: rest => typedRest line ++ .event .inputEnd :: recodeChunks [] rest
  | line, occasion :: rest => occasion :: recodeChunks line rest

private theorem recodeChunks_of_untyped (untyped : ∀ occasion ∈ occasions, occasion.typed? = none) :
    recodeChunks [] occasions = occasions := by
  induction occasions with
  | nil => rfl
  | cons occasion rest ih =>
    have first := untyped occasion List.mem_cons_self
    have tail := ih fun later member => untyped later (List.mem_cons_of_mem _ member)
    rcases occasion with ⟨bytes | _ | _ | envelope | _⟩ | change
    case event.typed => cases first
    all_goals exact congrArg _ tail

theorem EndsLast.untyped_tail (made : EndsLast (.event .inputEnd :: occasions)) :
    ∀ occasion ∈ occasions, occasion.typed? = none :=
  fun later member => (List.pairwise_cons.mp made).1 later member rfl

private theorem endsLast_typedRest_append (line : List UInt8) (made : EndsLast occasions) :
    EndsLast (typedRest line ++ occasions) := by
  rw [typedRest]
  split_ifs
  · exact made
  · exact List.pairwise_cons.mpr ⟨fun _ _ => nofun, made⟩

theorem EndsLast.recodeChunks (made : EndsLast occasions) :
    EndsLast (Console.recodeChunks line occasions) := by
  induction occasions generalizing line with
  | nil =>
    have alone := endsLast_typedRest_append line (List.Pairwise.nil : EndsLast ([] : List (Occasion σ)))
    rwa [List.append_nil] at alone
  | cons occasion rest ih =>
    have tail (kept : List UInt8) : EndsLast (Console.recodeChunks kept rest) := ih made.tail
    rcases occasion with ⟨bytes | _ | _ | envelope | _⟩ | change
    case event.inputEnd =>
      rw [Console.recodeChunks, recodeChunks_of_untyped made.untyped_tail]
      exact endsLast_typedRest_append line made
    all_goals exact List.pairwise_cons.mpr ⟨fun _ _ => nofun, tail _⟩

private theorem input_typedRest_append (line : List UInt8) (rest : List (Occasion σ)) :
    input (typedRest line ++ rest) = Text.recode line ++ input rest := by
  rw [typedRest]
  split_ifs with blank
  · rw [blank]
    rfl
  · rfl

theorem input_recodeChunks (made : EndsLast occasions) (line : List UInt8) :
    input (recodeChunks line occasions) = Text.recode (line ++ input occasions) := by
  induction occasions generalizing line with
  | nil =>
    have alone := input_typedRest_append line ([] : List (Occasion σ))
    rw [List.append_nil] at alone
    rw [recodeChunks, alone, input, List.flatMap_nil, List.append_nil, List.append_nil]
  | cons occasion rest ih =>
    rcases occasion with ⟨bytes | _ | _ | envelope | _⟩ | change
    case event.typed =>
      rcases cut : cutLines (line ++ bytes) with ⟨lines, last⟩
      obtain ⟨joined, ended, -⟩ := inLines_iff.mpr cut
      have front := recode_flatten_append ended []
      rw [List.append_nil, recode_nil, List.append_nil] at front
      simp only [recodeChunks, cut, input_cons, ih made.tail, Occasion.typed?, Option.getD_some]
      rw [← List.append_assoc line, ← joined, List.append_assoc, recode_flatten_append ended, front]
    case event.inputEnd =>
      rw [recodeChunks, recodeChunks_of_untyped made.untyped_tail, input_typedRest_append, input_cons,
        made.input_tail rfl]
      simp only [Occasion.typed?, Option.getD_none, List.append_nil]
    all_goals exact ih made.tail line

private theorem interludes_typedRest_append (completed : Nat) (unended : lineFeed ∉ line)
    (rest : List (Occasion σ)) :
    interludes completed (typedRest line ++ rest) = interludes completed rest := by
  have none : (Text.recode line).count lineFeed = 0 :=
    List.count_eq_zero.mpr (lineFeed_notMem_recode unended)
  rw [typedRest]
  split_ifs
  · rfl
  · simp only [List.singleton_append, interludes, Occasion.typed?, none, Nat.add_zero]

theorem interludes_recodeChunks (made : EndsLast occasions) (unended : lineFeed ∉ line)
    (completed : Nat) :
    interludes completed (recodeChunks line occasions) = interludes completed occasions := by
  induction occasions generalizing line completed with
  | nil =>
    have alone := interludes_typedRest_append completed unended ([] : List (Occasion σ))
    rwa [List.append_nil] at alone
  | cons occasion rest ih =>
    rcases occasion with ⟨bytes | _ | _ | envelope | _⟩ | change
    case event.typed =>
      rcases cut : cutLines (line ++ bytes) with ⟨lines, last⟩
      obtain ⟨joined, -, unended'⟩ := inLines_iff.mpr cut
      have counted : (Text.recode lines.flatten).count lineFeed = bytes.count lineFeed := by
        have both := congrArg (List.count lineFeed) joined
        rw [List.count_append, List.count_append, List.count_eq_zero.mpr unended,
          List.count_eq_zero.mpr unended', Nat.add_zero, Nat.zero_add] at both
        rw [count_recode, both]
      simp only [recodeChunks, cut, interludes, Occasion.typed?, counted, ih made.tail unended']
    case event.inputEnd =>
      rw [recodeChunks, recodeChunks_of_untyped made.untyped_tail,
        interludes_typedRest_append completed unended]
    all_goals simp only [recodeChunks, interludes, Occasion.typed?, ih made.tail unended]

/-- Every run of occasions has one that brings the bytes of the text of its input. -/
theorem recodes_recodeChunks (made : EndsLast occasions) :
    Recodes (recodeChunks [] occasions) occasions where
  ended := made.recodeChunks
  input := input_recodeChunks made []
  interludes := interludes_recodeChunks made List.not_mem_nil 0

end Moments

variable [Carrier σ] {session : Session} {start : State σ}

theorem deal_recode (session : Session) (state : State σ) (moment : Moment σ) :
    deal session state moment.recode = deal session state moment := by
  cases moment with
  | line raw =>
    rcases state with ⟨kept | result, screen, host⟩
    · simp only [Moment.recode, deal, executeLine, lineText_recode]
    · simp only [deal]
  | _ => rfl

theorem Deals.recode {moments done : List (Moment σ)} {reached : State σ}
    (deals : Deals session start moments done reached) :
    Deals session start (moments.map Moment.recode) (done.map Moment.recode) reached where
  first := deals.first.map Moment.recode
  dealt := by
    have blind (state : State σ) (moment : Moment σ) :
        dealRunning session state moment.recode = dealRunning session state moment := by
      rw [dealRunning, restrict, restrict, deal_recode]
    rw [replay?_map _ blind, deals.dealt]
  all running := by rw [deals.all running]

/-- A console does the same at the occasions of one run as at those of another. -/
structure SameChat (session : Session) (start : State σ) (occasions others : List (Occasion σ)) :
    Prop where
  /-- The moments are the same, but for the bytes of the lines. -/
  moments : Console.moments [] others = (Console.moments [] occasions).map Moment.recode
  commands : (Console.moments [] others).filterMap Moment.command? =
    (Console.moments [] occasions).filterMap Moment.command?
  /-- As many of them are dealt with, to the same effect. -/
  dealt : ∀ done reached, Deals session start (Console.moments [] occasions) done reached →
    Deals session start (Console.moments [] others) (done.map Moment.recode) reached
  /-- The screen, the host and the end are the same; or both wait for a lock. -/
  ran : replay? (attend session) start others =
    (replay? (attend session) start occasions).map State.recode

theorem sameChat_of_recodes {occasions others : List (Occasion σ)} (kept : start.keeping [] = start)
    (made : EndsLast occasions) (recodes : Recodes others occasions) :
    SameChat session start occasions others where
  moments := moments_of_recodes made recodes
  commands := by
    rw [moments_of_recodes made recodes, List.filterMap_map]
    exact List.filterMap_congr fun moment _ => moment.command?_recode
  dealt done reached deals := by
    rw [moments_of_recodes made recodes]
    exact deals.recode
  ran := by
    have forget : State.recode ∘ (fun state : State σ => state.keeping (pending [] occasions)) =
        fun state => state.keeping (Text.recode (pending [] occasions)) :=
      funext fun state => state.recode_keeping _
    rw [replay?_attend session kept, replay?_attend session kept, moments_of_recodes made recodes,
      pending_of_recodes made recodes, replay?_map _ (deal_recode session), Option.map_map, forget]

/-- What it means for a console that its input is read as text. -/
structure ReadsText (session : Session) (screen : Screen) (host : Host σ)
    (occasions : List (Occasion σ)) : Prop where
  /-- There are occasions that bring the bytes of the text instead. -/
  recoded : ∃ others, Recodes others occasions
  /-- On all of them the console does the same. -/
  same : ∀ others, Recodes others occasions → SameChat session (await [] screen host) occasions others
  runs : ∀ events others, occasions = events.map .event → Recodes (others.map .event) occasions →
    run session others screen host = (run session events screen host).map State.recode
  /-- Reading lines is cutting what is read. -/
  lines : ∀ bytes, Text.cutLines (decode bytes) =
    ((cutLines bytes).1.map decode, decode (cutLines bytes).2)
  /-- A text is read from its own bytes as it is. -/
  valid : ∀ text, Text.utf8 (Text.ofUtf8 (Text.utf8 text)) = Text.utf8 text

/-- A console does the same on any bytes and on the bytes of their text. -/
theorem reads_text (session : Session) (screen : Screen) (host : Host σ)
    (occasions : List (Occasion σ)) (made : EndsLast occasions) :
    ReadsText session screen host occasions := by
  have kept : (await [] screen host).keeping [] = await [] screen host := await_keeping ..
  have same others (recodes : Recodes others occasions) :
      SameChat session (await [] screen host) occasions others :=
    sameChat_of_recodes kept made recodes
  constructor
  case recoded => exact ⟨_, recodes_recodeChunks made⟩
  case same => exact same
  case runs =>
    rintro events others rfl recodes
    rw [run_eq_replay?, run_eq_replay?]
    exact (same _ recodes).ran
  case lines => exact cutLines_decode
  case valid => exact recode_utf8

/-- A line that ends within a character, after a notification in the middle of it, and an input that
ends within another. -/
def brokenOff : List Event :=
  [.typed [47, 109, 0xc3], .notified ⟨bert, .joinApprove bert⟩,
    .typed [10, 47, 109, 101, 10, 0xe2, 0x82], .inputEnd]

/-- The text of that input. -/
def mended : List Event :=
  [.typed (Text.utf8 "/m"), .notified ⟨bert, .joinApprove bert⟩,
    .typed (Text.utf8 "\ufffd\n/me\n\ufffd"), .inputEnd]

theorem reads_text_of_brokenOff :
    run Session.annasSession mended .empty (.empty Exchange.empty) =
        (run Session.annasSession brokenOff .empty (.empty Exchange.empty)).map State.recode ∧
      (run Session.annasSession brokenOff .empty (.empty Exchange.empty)).map (·.screen.shown) =
        some ("> > error: usage: unknown command \"/m\ufffd\"\n" ++ Command.summary ++ "> PID: 41\n" ++
          "> error: usage: unknown command \"\ufffd\"\n" ++ Command.summary ++ "> ") := by
  have ends : EndsLast (brokenOff.map (.event : Event → Occasion Exchange)) := by
    simp [brokenOff, EndsLast, Occasion.endsInput]
  have recodes : Recodes (mended.map .event) (brokenOff.map (.event : Event → Occasion Exchange)) :=
    { ended := by simp [mended, EndsLast, Occasion.endsInput]
      input := by decide +kernel
      interludes := rfl }
  have reads := reads_text Session.annasSession .empty (.empty Exchange.empty) _ ends
  exact ⟨reads.runs _ _ rfl recodes, by decide +kernel⟩

end HostChat.Console
