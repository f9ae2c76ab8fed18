import HostChat.Console
import HostChat.Proofs.Replay

/-! # The moments of a console

What comes to a console comes in occasions: chunks of input, the end of the input, notifications, and
changes that others make to the host in the meantime. What it deals with comes in moments, and a line
is a moment of its own. A run over occasions is a run over the moments they bring, up to the moment
that ends the console; the start of a line that is being typed has no part in it.
-/

namespace HostChat.Console

variable {σ : Type}

inductive Occasion (σ : Type) where
  | event (event : Event)
  /-- Somebody else does something to the host. -/
  | meanwhile (change : Host σ → Host σ)

inductive Moment (σ : Type) where
  /-- A line is executed. -/
  | line (raw : List UInt8)
  | notified (envelope : Envelope)
  | meanwhile (change : Host σ → Host σ)
  /-- Nothing can be dealt with any more. -/
  | stop (error : ChatError)

namespace State

variable {state reached : State σ} {line other : List UInt8}

def isRunning (state : State σ) : Bool :=
  match state.phase with
  | .running _ => true
  | .ended _ => false

/-- The state with another start of a line, if the console is running. -/
def keeping (state : State σ) (line : List UInt8) : State σ :=
  match state.phase with
  | .running _ => { state with phase := .running line }
  | .ended _ => state

@[simp] theorem keeping_running (screen : Screen) (host : Host σ) :
    (⟨.running line, screen, host⟩ : State σ).keeping other = ⟨.running other, screen, host⟩ := rfl

@[simp] theorem keeping_ended (result : Except ChatError Unit) (screen : Screen) (host : Host σ) :
    (⟨.ended result, screen, host⟩ : State σ).keeping line = ⟨.ended result, screen, host⟩ := rfl

@[simp] theorem keeping_host : (state.keeping line).host = state.host := by
  rcases state with ⟨_ | _, screen, host⟩ <;> rfl

@[simp] theorem keeping_screen : (state.keeping line).screen = state.screen := by
  rcases state with ⟨_ | _, screen, host⟩ <;> rfl

@[simp] theorem keeping_isRunning : (state.keeping line).isRunning = state.isRunning := by
  rcases state with ⟨_ | _, screen, host⟩ <;> rfl

@[simp] theorem keeping_keeping : (state.keeping line).keeping other = state.keeping other := by
  rcases state with ⟨_ | _, screen, host⟩ <;> rfl

theorem keeping_phase_ended_iff {result : Except ChatError Unit} :
    (state.keeping line).phase = .ended result ↔ state.phase = .ended result := by
  rcases state with ⟨_ | _, screen, host⟩
  · exact ⟨nofun, nofun⟩
  · exact Iff.rfl

theorem exists_keeping (state : State σ) : ∃ line, state.keeping line = state := by
  rcases state with ⟨line | _, screen, host⟩
  · exact ⟨line, rfl⟩
  · exact ⟨[], rfl⟩

theorem keeping_of_not_isRunning (finished : state.isRunning = false) :
    state.keeping line = state := by
  rcases state with ⟨_ | _, screen, host⟩
  · cases finished
  · rfl

end State

section Results

variable (line other : List UInt8) (screen : Screen)

@[simp] theorem await_host (host : Host σ) : (await line screen host).host = host := by
  simp only [await]
  cases screen.write prompt <;> rfl

variable {line screen} in
theorem await_line {kept : List UInt8} {host : Host σ}
    (runs : (await line screen host).phase = .running kept) : kept = line := by
  simp only [await] at runs
  cases written : screen.write prompt with
  | ok after =>
    rw [written] at runs
    cases runs
    rfl
  | error fault =>
    rw [written] at runs
    cases runs

theorem await_keeping (host : Host σ) :
    (await line screen host).keeping other = await other screen host := by
  simp only [await]
  cases screen.write prompt <;> rfl

@[simp] theorem conclude_host (result : Reaction × Host σ) :
    (conclude line screen result).host = result.2 := by
  obtain ⟨⟨texts, flow⟩, host⟩ := result
  simp only [conclude]
  rcases screen.writeAll texts with ⟨_ | fault, screen⟩
  · cases flow <;> simp
  · rfl

/-- What a console writes, and whether it goes on, has nothing to do with the line being typed. -/
theorem conclude_keeping (result : Reaction × Host σ) :
    (conclude line screen result).keeping other = conclude other screen result := by
  obtain ⟨⟨texts, flow⟩, host⟩ := result
  simp only [conclude]
  rcases screen.writeAll texts with ⟨_ | fault, screen⟩
  · cases flow
    · exact await_keeping line other screen host
    · rfl
    · rfl
  · rfl

end Results

/-- What an occasion brings to a console that keeps the start of a line, and the start of a line that
is kept after it. -/
def sortOut (line : List UInt8) : Occasion σ → List (Moment σ) × List UInt8
  | .event (.typed bytes) => ((cutLines (line ++ bytes)).1.map .line, (cutLines (line ++ bytes)).2)
  | .event .inputEnd => ([if line.isEmpty then .stop .input else .line line], [])
  | .event .readError => ([.stop .input], line)
  | .event (.notified envelope) => ([.notified envelope], line)
  | .event .inboxClosed => ([.stop (.signal "notification channel closed")], line)
  | .meanwhile change => ([.meanwhile change], line)

def moments : List UInt8 → List (Occasion σ) → List (Moment σ)
  | _, [] => []
  | line, occasion :: rest => (sortOut line occasion).1 ++ moments (sortOut line occasion).2 rest

/-- The start of a line that is kept after occasions. -/
def pending : List UInt8 → List (Occasion σ) → List UInt8
  | line, [] => line
  | line, occasion :: rest => pending (sortOut line occasion).2 rest

theorem moments_append (line : List UInt8) (front back : List (Occasion σ)) :
    moments line (front ++ back) = moments line front ++ moments (pending line front) back := by
  induction front generalizing line with
  | nil => rfl
  | cons occasion rest ih => simp only [List.cons_append, moments, pending, ih, List.append_assoc]

variable [Carrier σ]

/-- One moment. Nothing happens in a console that has ended. -/
def deal (session : Session) (state : State σ) (moment : Moment σ) : Option (State σ) :=
  match state.phase, moment with
  | .ended _, _ => some state
  | .running _, .line raw =>
      (executeLine session raw state.host).map (conclude [] state.screen)
  | .running line, .notified envelope =>
      (handleEnvelope session envelope state.host).map (conclude line state.screen)
  | .running _, .meanwhile change => some { state with host := change state.host }
  | .running _, .stop error => some (state.endWith error)

/-- One occasion. -/
def attend (session : Session) (state : State σ) : Occasion σ → Option (State σ)
  | .event event => react session event state
  | .meanwhile change =>
      some (if state.isRunning then { state with host := change state.host } else state)

/-- A run of a console is a number of occasions at which nobody else does anything. -/
theorem run_eq_replay? (session : Session) (events : List Event) (screen : Screen) (host : Host σ) :
    run session events screen host =
      replay? (attend session) (await [] screen host) (events.map .event) := by
  rw [run]
  generalize await [] screen host = state
  induction events generalizing state with
  | nil => rfl
  | cons event rest ih => exact congrArg _ (funext ih)

variable {session : Session} {state : State σ} {line : List UInt8}

theorem deal_of_not_isRunning (finished : state.isRunning = false) (moment : Moment σ) :
    deal session state moment = some state := by
  rcases state with ⟨_ | _, screen, host⟩
  · cases finished
  · rfl

theorem replay?_deal_of_not_isRunning (finished : state.isRunning = false) (moments : List (Moment σ)) :
    replay? (deal session) state moments = some state :=
  replay?_at_rest (fun _ moment finished => deal_of_not_isRunning finished moment) finished

/-- The moments of a console while it runs. -/
def dealRunning (session : Session) : State σ → Moment σ → Option (State σ) :=
  restrict (fun state _ => state.isRunning) (deal session)

theorem deal_exit {raw : List UInt8} (runs : state.isRunning = true)
    (exits : Command.parse (lineText raw) = .ok .exit) :
    deal session state (.line raw) = some { state with phase := .ended (.ok ()) } := by
  rcases state with ⟨kept | result, screen, host⟩
  · simp only [deal, executeLine, exits, execute]
    rfl
  · cases runs

private theorem deal_keeping (session : Session) (state : State σ) (line other : List UInt8)
    (moment : Moment σ) :
    (deal session (state.keeping line) moment).map (·.keeping other) =
      (deal session state moment).map (·.keeping other) := by
  rcases state with ⟨kept | result, screen, host⟩
  · cases moment with
    | notified envelope =>
      simp only [deal, State.keeping_running, Option.map_map]
      congr 1
      funext result
      exact (conclude_keeping line other screen result).trans
        (conclude_keeping kept other screen result).symm
    | _ => rfl
  · rfl

/-- The start of a line has no part in the moments that are dealt with. -/
private theorem replay?_deal_keeping (session : Session) (state : State σ) (line other : List UInt8)
    (moments : List (Moment σ)) :
    (replay? (deal session) (state.keeping line) moments).map (·.keeping other) =
      (replay? (deal session) state moments).map (·.keeping other) := by
  induction moments generalizing state line with
  | nil => simp
  | cons moment rest ih =>
    have same := deal_keeping session state line [] moment
    rw [replay?_cons, replay?_cons, Option.map_bind, Option.map_bind]
    -- both sides go on from states that agree once the start of the line is forgotten
    have forget (result : Option (State σ)) :
        result.bind (Option.map (·.keeping other) ∘ fun next => replay? (deal session) next rest) =
          (result.map (·.keeping [])).bind
            (Option.map (·.keeping other) ∘ fun next => replay? (deal session) next rest) := by
      rw [Option.bind_map]
      congr 1
      funext next
      exact (ih next []).symm
    rw [forget, same, ← forget]

/-- Lines are executed as moments, one after the other. -/
theorem runLines_eq_replay? (session : Session) (last : List UInt8) (lines : List (List UInt8))
    (state : State σ) :
    runLines session last lines state =
      (replay? (deal session) state (lines.map .line)).map (·.keeping last) := by
  induction lines generalizing state with
  | nil => rcases state with ⟨kept | result, screen, host⟩ <;> rfl
  | cons raw rest ih =>
    rcases state with ⟨kept | result, screen, host⟩
    · rw [List.map_cons, replay?_cons]
      simp only [runLines, deal, bind, Option.bind_map, Option.map_bind]
      congr 1
      funext executed
      exact ih _
    · have finished : (⟨.ended result, screen, host⟩ : State σ).isRunning = false := rfl
      rw [replay?_deal_of_not_isRunning finished]
      rfl

/-- A console deals with what an occasion brings, and keeps the start of a line that it leaves. -/
theorem attend_eq_replay? (session : Session) (kept : state.keeping line = state)
    (occasion : Occasion σ) :
    attend session state occasion =
      (replay? (deal session) state (sortOut line occasion).1).map
        (·.keeping (sortOut line occasion).2) := by
  rcases state with ⟨own | result, screen, host⟩
  · obtain rfl : line = own := by simpa using kept
    rcases occasion with ⟨bytes | _ | _ | envelope | _⟩ | change
    · exact runLines_eq_replay? session _ _ _
    · simp only [attend, react, sortOut]
      split_ifs with blank
      · rfl
      · exact runLines_eq_replay? session [] [line] _
    · rfl
    · have settled : (fun state => State.keeping state line) ∘ conclude line screen =
          conclude (σ := σ) line screen := funext (conclude_keeping line line screen)
      simp only [attend, react, sortOut, replay?_singleton, deal, Option.map_map, settled]
    · rfl
    · rfl
  · have finished : (⟨.ended result, screen, host⟩ : State σ).isRunning = false := rfl
    rw [replay?_deal_of_not_isRunning finished]
    rcases occasion with ⟨bytes | _ | _ | envelope | _⟩ | change <;> rfl

theorem attend_of_not_isRunning (finished : state.isRunning = false) (occasion : Occasion σ) :
    attend session state occasion = some state := by
  have kept : state.keeping [] = state := State.keeping_of_not_isRunning finished
  rw [attend_eq_replay? session kept occasion, replay?_deal_of_not_isRunning finished, Option.map_some,
    State.keeping_of_not_isRunning finished]

/-- What a console does on a run of occasions, it does on the moments they bring. -/
theorem replay?_attend (session : Session) (kept : state.keeping line = state)
    (occasions : List (Occasion σ)) :
    replay? (attend session) state occasions =
      (replay? (deal session) state (moments line occasions)).map
        (·.keeping (pending line occasions)) := by
  induction occasions generalizing state line with
  | nil =>
    rw [moments, replay?_nil, replay?_nil, pending, Option.map_some, kept]
  | cons occasion rest ih =>
    rw [moments, pending, replay?_cons, attend_eq_replay? session kept, replay?_append,
      Option.bind_map, Option.map_bind]
    congr 1
    funext reached
    exact (ih State.keeping_keeping).trans (replay?_deal_keeping ..)

/-- A console deals with the first of some moments: with all of them, unless it ends. -/
structure Deals (session : Session) (start : State σ) (moments done : List (Moment σ))
    (reached : State σ) : Prop where
  first : done <+: moments
  dealt : replay? (dealRunning session) start done = some reached
  all : reached.isRunning = true → done = moments

theorem exists_deals {reached : State σ} {moments : List (Moment σ)}
    (success : replay? (deal session) state moments = some reached) :
    ∃ done, Deals session state moments done reached := by
  obtain ⟨done, first, all, dealt⟩ :=
    replay?_until_rest (fun _ moment finished => deal_of_not_isRunning finished moment) success
  exact ⟨done, first, dealt, all⟩

/-- A console ends well with an exit, and deals with nothing after it. -/
theorem Deals.last_of_exit {reached : State σ} {moments front back : List (Moment σ)}
    {raw : List UInt8} (deals : Deals session state moments (front ++ .line raw :: back) reached)
    (exits : Command.parse (lineText raw) = .ok .exit) :
    back = [] ∧ reached.phase = .ended (.ok ()) := by
  obtain ⟨middle, -, rest⟩ := replay?_append_eq_some_iff.mp deals.dealt
  obtain ⟨finished, stepped, rest⟩ := Option.bind_eq_some_iff.mp rest
  obtain ⟨runs, stepped⟩ := restrict_eq_some_iff.mp stepped
  rw [deal_exit runs exits] at stepped
  cases stepped
  cases back with
  | nil =>
    cases rest
    exact ⟨rfl, rfl⟩
  | cons moment back =>
    obtain ⟨_, refused, -⟩ := Option.bind_eq_some_iff.mp rest
    cases (restrict_eq_some_iff.mp refused).1

end HostChat.Console
