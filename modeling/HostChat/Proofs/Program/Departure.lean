import HostChat.Program
import HostChat.Proofs.Console.Dealing
import HostChat.Proofs.Session.Clearing

/-! # A program leaves its room

Once the program has a session it becomes a console, and however the console ends, it leaves the room
before it returns. While it runs, others do what they like on its host.
-/

namespace HostChat.Program

open Console (Occasion attend)

variable {σ : Type}

/-- What can happen while the program runs. -/
inductive Happening (σ : Type) where
  /-- Something comes to the program itself. -/
  | own (event : Console.Event)
  /-- Somebody else does something on the host. -/
  | others (event : HostChat.Event σ)

def State.isOver (state : State σ) : Bool :=
  match state.phase with
  | .over _ => true
  | _ => false

variable [Carrier σ]

/-- What a happening is to a console. -/
def Happening.occasion : Happening σ → Occasion σ
  | .own event => .event event
  | .others event => .meanwhile fun host => host.after event

/-- One happening. A program that is over takes no notice. -/
def happen (config : Config) (me : ParticipantId) (state : State σ) :
    Happening σ → Option (State σ)
  | .own event => react config me event state
  | .others event =>
      some (if state.isOver then state else { state with host := state.host.after event })

/-- The program has obtained a session, because it has made a room or because an approval has come,
and goes on from there. -/
inductive Obtains (config : Config) (me : ParticipantId) (session : Session)
    (ahead : List Console.Event) (screen : Screen) (host : Host σ) : Option (State σ) → Prop
  | created (running : ParticipantId → Bool) (before : Host σ) (nothing : ahead = [])
      (outcome : Session.create running config.ns me before = some (.ok session, host)) :
      Obtains config me session ahead screen host (start running config none me screen before)
  | joined (before : Host σ) (envelope : Envelope) (queue : List Envelope)
      (outcome : Session.resumeJoin config.ns me ⟨[envelope], false⟩ before =
        some (.over (.ok session), queue, host)) :
      Obtains config me session ahead screen host
        (react config me (.notified envelope) ⟨.joining ahead, screen, before⟩)

variable {config : Config} {me : ParticipantId} {session : Session} {ahead : List Console.Event}
  {screen : Screen} {host : Host σ} {state next final : State σ} {console : Console.State σ}
  {happening : Happening σ} {happenings : List (Happening σ)}

private theorem enters_of_obtains {entered : Option (State σ)}
    (obtains : Obtains config me session ahead screen host entered) :
    entered = enterConsole ahead screen (.ok session, host) ∧ session.me = me := by
  cases obtains with
  | created running before nothing outcome =>
    subst nothing
    refine ⟨by simp only [start, outcome]; rfl, ?_⟩
    rcases Session.create_forgets_or_opens outcome with ⟨_, wrong, -⟩ | ⟨_, _, _, same, own, -⟩
    · cases wrong
    · cases same
      exact own
  | joined before envelope queue outcome =>
    refine ⟨by simp only [react, resumeJoin, outcome]; rfl, ?_⟩
    rcases Session.resumeJoin_cases outcome with ⟨wrong, -⟩ | ⟨_, same, entered⟩
    · cases wrong
    · cases same
      rcases entered with ⟨_, wrong, -⟩ | ⟨_, _, -, same, -⟩
      · cases wrong
      · cases same
        rfl

/-- Whatever happens to the program happens to its console, and a console that has ended has left. -/
private theorem happen_of_attend (config : Config) (me : ParticipantId)
    (at_console : ofConsole session console = some state) (happening : Happening σ) :
    (attend session console happening.occasion).bind (ofConsole session) =
      happen config me state happening := by
  rcases console with ⟨line | result, screen, host⟩
  · cases at_console
    cases happening <;> rfl
  · obtain ⟨⟨departure, after⟩, -, rfl⟩ := Option.map_eq_some_iff.mp at_console
    have same : (attend session ⟨.ended result, screen, host⟩ happening.occasion) =
        some ⟨.ended result, screen, host⟩ := Console.attend_of_not_isRunning rfl _
    rw [same, Option.bind_some, at_console]
    cases happening <;> rfl

omit [Carrier σ] in
private theorem exists_ofConsole (works : session.room.Working console.host) :
    ∃ state, ofConsole session console = some state := by
  rcases console with ⟨line | result, screen, host⟩
  · exact ⟨_, rfl⟩
  · obtain ⟨departure, after, outcome⟩ := Session.exists_leave works.unlocked
    exact ⟨_, by simp only [ofConsole, depart, outcome, Option.map_some]; rfl⟩

private theorem gentle_occasion (happening : Happening σ) : happening.occasion.Gentle session := by
  cases happening with
  | own event => trivial
  | others event => exact fun host works => works.after event

/-- A run on events is one in which nobody else does anything. -/
private theorem run_eq_replay? (config : Config) (me : ParticipantId) (events : List Console.Event)
    (state : State σ) :
    run config me events state = replay? (happen config me) state (events.map .own) := by
  induction events generalizing state with
  | nil => rfl
  | cons event rest ih => exact congrArg _ (funext ih)

/-- A run of the program is a run of its console, and comes to an end in a room that works. -/
theorem exists_run (config : Config) (me : ParticipantId) (works : session.room.Working console.host)
    (at_console : ofConsole session console = some state) (happenings : List (Happening σ)) :
    ∃ reached final,
      replay? (attend session) console (happenings.map Happening.occasion) = some reached ∧
      session.room.Working reached.host ∧ ofConsole session reached = some final ∧
      replay? (happen config me) state happenings = some final := by
  induction happenings generalizing console state with
  | nil => exact ⟨console, state, rfl, works, at_console, rfl⟩
  | cons happening rest ih =>
    obtain ⟨line, kept⟩ := console.exists_keeping
    have gentle : ∀ occasion ∈ [happening.occasion], occasion.Gentle session :=
      List.forall_mem_singleton.mpr (gentle_occasion happening)
    obtain ⟨middle, attended, works⟩ := Console.exists_replay_attend works kept gentle
    rw [replay?_singleton] at attended
    obtain ⟨next, at_middle⟩ := exists_ofConsole works
    have happened := happen_of_attend config me at_console happening
    rw [attended, Option.bind_some, at_middle] at happened
    obtain ⟨reached, final, later, works, at_end, run⟩ := ih works at_middle
    refine ⟨reached, final, ?_, works, at_end, ?_⟩
    · rw [List.map_cons, replay?_cons, attended]
      exact later
    · rw [replay?_cons, ← happened]
      exact run

/-- What the program returns, given how its console ended and what leaving answered. -/
structure Returns (ending : Except ChatError Unit) (departure : Except ChatError Departure)
    (result : Except ChatError Unit) : Prop where
  well : result = .ok () ↔ ending = .ok () ∧ ∃ answer, departure = .ok answer
  /-- The error of the console comes before one in leaving. -/
  first : ∀ error, ending = .error error → result = .error error
  second : ∀ error, ending = .ok () → departure = .error error → result = .error error
  success : result = .ok () → Exit.ofResult result = .success
  status : ∀ error, result = .error error →
    (Exit.ofResult result).status = error.exitCode ∧ error.exitCode ≠ 0

private theorem returns_discard (ending : Except ChatError Unit)
    (departure : Except ChatError Departure) :
    Returns ending departure (do ending; discard departure) := by
  have positive (error : ChatError) : error.exitCode ≠ 0 := by
    cases error <;> exact Nat.succ_ne_zero _
  constructor
  · rcases ending with error | _
    · exact ⟨nofun, fun well => nomatch well.1⟩
    · rcases departure with error | answer
      · exact ⟨nofun, fun ⟨_, _, wrong⟩ => nomatch wrong⟩
      · exact ⟨fun _ => ⟨rfl, answer, rfl⟩, fun _ => rfl⟩
  · rintro error rfl
    rfl
  · rintro error rfl rfl
    rfl
  · intro well
    rw [well]
    rfl
  · intro error failed
    rw [failed]
    exact ⟨rfl, positive error⟩

/-- The program has returned: its console has come to an end, and then it has left the room. -/
structure Departed (session : Session) (start : Console.State σ) (occasions : List (Occasion σ))
    (result : Except ChatError Unit) (final : State σ) (console : Console.State σ)
    (ending : Except ChatError Unit) (departure : Except ChatError Departure) : Prop where
  attended : replay? (attend session) start occasions = some console
  ended : console.phase = .ended ending
  works : session.room.Working console.host
  left : session.leave console.host = some (departure, final.host)
  /-- Nothing is written after the console has ended. -/
  screen : final.screen = console.screen
  clears : session.Clears console.host departure final.host
  returns : Returns ending departure result
  /-- The console has ended well just if the last line that it executed was an exit. -/
  exits : ∃ done, Console.Deals session start (Console.moments [] occasions) done console ∧
    (ending = .ok () ↔ ∃ raw, done.getLast? = some (.line raw) ∧
      Command.parse (Console.lineText raw) = .ok .exit)

/-- What has become of the program, by what has become of its console. -/
structure Follows (session : Session) (start : Console.State σ) (occasions : List (Occasion σ))
    (console : Console.State σ) (final : State σ) : Prop where
  attended : replay? (attend session) start occasions = some console
  at_console : ofConsole session console = some final
  chats : ∀ line, console.phase = .running line →
    final = ⟨.chatting session line, console.screen, console.host⟩
  /-- A console that has ended is not waited for. -/
  departs : ∀ ending, console.phase = .ended ending → ∃ departure result,
    final.phase = .over result ∧
      Departed session start occasions result final console ending departure
  /-- The program returns in no other way. -/
  returned : ∀ result, final.phase = .over result → ∃ ending departure,
    Departed session start occasions result final console ending departure

omit [Carrier σ] in
/-- A program whose console has ended has left, and returns what the two came to. -/
private theorem left_of_ended {ending : Except ChatError Unit}
    (at_console : ofConsole session console = some final) (ended : console.phase = .ended ending) :
    ∃ departure, session.leave console.host = some (departure, final.host) ∧
      final.screen = console.screen ∧ final.phase = .over (do ending; discard departure) := by
  simp only [ofConsole, ended, depart] at at_console
  obtain ⟨⟨departure, after⟩, left, rfl⟩ := Option.map_eq_some_iff.mp at_console
  exact ⟨departure, left, rfl, rfl⟩

omit [Carrier σ] in
private theorem chatting_of_running {line : List UInt8}
    (at_console : ofConsole session console = some final) (runs : console.phase = .running line) :
    final = ⟨.chatting session line, console.screen, console.host⟩ := by
  simp only [ofConsole, runs] at at_console
  exact (Option.some.inj at_console).symm

section Attended

variable {occasions : List (Occasion σ)} {ending : Except ChatError Unit}
  (works : session.room.Working host)
  (gentle : ∀ occasion ∈ occasions, occasion.Gentle session)
  (attended : replay? (attend session) (Console.await [] screen host) occasions = some console)
include works gentle attended

private theorem exits_of_ended (ended : console.phase = .ended ending) :
    ∃ done, Console.Deals session (Console.await [] screen host) (Console.moments [] occasions) done
        console ∧
      (ending = .ok () ↔ ∃ raw, done.getLast? = some (.line raw) ∧
        Command.parse (Console.lineText raw) = .ok .exit) := by
  have kept : (Console.await [] screen host).keeping [] = Console.await [] screen host :=
    Console.await_keeping ..
  rw [Console.replay?_attend session kept] at attended
  obtain ⟨reached, replayed, rfl⟩ := Option.map_eq_some_iff.mp attended
  rw [Console.State.keeping_phase_ended_iff] at ended
  have finished : reached.isRunning = false := by rw [Console.State.isRunning, ended]
  obtain ⟨done, deals⟩ := Console.exists_deals replayed
  rw [Console.State.keeping_of_not_isRunning finished]
  exact ⟨done, deals, deals.ok_iff_exit works (Console.gentle_moments gentle []) ended⟩

private theorem departed_of_ended (works' : session.room.Working console.host)
    (at_end : ofConsole session console = some final) (ended : console.phase = .ended ending) :
    ∃ departure result, final.phase = .over result ∧
      Departed session (Console.await [] screen host) occasions result final console ending
        departure := by
  obtain ⟨departure, left, shown, finished⟩ := left_of_ended at_end ended
  exact ⟨departure, _, finished, attended, ended, works', left, shown,
    Session.clears_of_leave works' left, returns_discard ending departure,
    exits_of_ended works gentle attended ended⟩

/-- A program is at what its console is at, and has left the room once that has ended. -/
private theorem follows_of_attended (works' : session.room.Working console.host)
    (at_end : ofConsole session console = some final) :
    Follows session (Console.await [] screen host) occasions console final where
  attended := attended
  at_console := at_end
  chats _ runs := chatting_of_running at_end runs
  departs _ ended := departed_of_ended works gentle attended works' at_end ended
  returned result finished := by
    cases phase : console.phase with
    | running line =>
      rw [chatting_of_running at_end phase] at finished
      cases finished
    | ended ending =>
      obtain ⟨departure, own, same, departed⟩ :=
        departed_of_ended works gentle attended works' at_end phase
      cases same.symm.trans finished
      exact ⟨ending, departure, departed⟩

end Attended

/-- Once the program has a session in a room that works, it goes on without ever getting stuck as long
as its console runs, and leaves the room before it returns, however the console ends. -/
theorem departure_on_every_path (config : Config) (me : ParticipantId) (session : Session)
    (ahead : List Console.Event) (screen : Screen) (host : Host σ)
    (works : session.room.Working host) :
    (∀ entered, Obtains config me session ahead screen host entered →
      entered = enterConsole ahead screen (.ok session, host) ∧ session.me = me) ∧
    ∃ state, enterConsole ahead screen (.ok session, host) = some state ∧
      (∀ happenings, ∃ console final, replay? (happen config me) state happenings = some final ∧
        Follows session (Console.await [] screen host)
          (ahead.map .event ++ happenings.map Happening.occasion) console final) ∧
      ∀ events, run config me events state =
        replay? (happen config me) state (events.map .own) := by
  refine ⟨fun entered => enters_of_obtains, ?_⟩
  have waiting : session.room.Working (Console.await [] screen host).host := by
    rwa [Console.await_host]
  have kept : (Console.await [] screen host).keeping [] = Console.await [] screen host :=
    Console.await_keeping ..
  have gentle_ahead : ∀ occasion ∈ (ahead.map .event : List (Occasion σ)),
      occasion.Gentle session := by
    intro occasion member
    obtain ⟨event, -, rfl⟩ := List.mem_map.mp member
    trivial
  obtain ⟨first, opened, works'⟩ := Console.exists_replay_attend waiting kept gentle_ahead
  obtain ⟨state, at_first⟩ := exists_ofConsole works'
  refine ⟨state, ?_, fun happenings => ?_, fun events => run_eq_replay? config me events state⟩
  · simp only [enterConsole, openConsole, Console.run_eq_replay?, opened]
    exact at_first
  · obtain ⟨console, final, attended, works', at_end, run⟩ :=
      exists_run config me works' at_first happenings
    have gentle : ∀ occasion ∈ ahead.map .event ++ happenings.map Happening.occasion,
        occasion.Gentle session := by
      intro occasion member
      rcases List.mem_append.mp member with member | member
      · exact gentle_ahead occasion member
      · obtain ⟨happening, -, rfl⟩ := List.mem_map.mp member
        exact gentle_occasion happening
    have whole := replay?_append_eq_some_iff.mpr ⟨_, opened, attended⟩
    exact ⟨console, final, run, follows_of_attended works gentle whole works' at_end⟩

/-- What a program that is over has come to. -/
def State.result? (state : State σ) : Option (Except ChatError Unit) :=
  match state.phase with
  | .over result => some result
  | _ => none

omit [Carrier σ] in
private theorem phase_of_result? {result : Except ChatError Unit}
    (came : state.result? = some result) :
    state.phase = .over result := by
  rw [State.result?] at came
  split at came
  next phase =>
    cases came
    exact phase
  next => cases came

/-- anna tells somebody who is not there, and exits. -/
def annasVisit : List (Happening Exchange) :=
  [.own (.typed (Text.utf8 "/tell 42 hi\n/ex")), .own (.typed (Text.utf8 "it\n"))]

theorem departed_after_exit : ∃ (host : Host Exchange) (state final : State Exchange),
    Session.create (fun _ => true) "x" anna Room.annasHost = some (.ok Session.annasSession, host) ∧
      Session.annasSession.room.Working host ∧
      enterConsole [] .empty (.ok Session.annasSession, host) = some state ∧
      replay? (happen ⟨"x"⟩ anna) state annasVisit = some final ∧
      final.phase = .over (.ok ()) ∧ final.screen.shown = "> error: 42 is not in this room\n> " ∧
      ∃ console ending departure, Departed Session.annasSession (Console.await [] .empty host)
        (annasVisit.map Happening.occasion) (.ok ()) final console ending departure := by
  have made : (Session.create (fun _ => true) "x" anna Room.annasHost).map (·.1.toOption) =
      some (some Session.annasSession) := by
    decide +kernel
  obtain ⟨⟨_ | session, host⟩, outcome, same⟩ := Option.map_eq_some_iff.mp made
  · cases same
  cases same
  have works := Session.working_of_create outcome
  obtain ⟨-, state, entered, goesOn, -⟩ :=
    departure_on_every_path ⟨"x"⟩ anna Session.annasSession [] .empty host works
  obtain ⟨console, final, run, follows⟩ := goesOn annasVisit
  have shown : ((Session.create (fun _ => true) "x" anna Room.annasHost).bind fun outcome =>
      (enterConsole [] .empty outcome).bind fun state =>
        replay? (happen ⟨"x"⟩ anna) state annasVisit).map (fun final =>
          (final.result?, final.screen.shown)) =
      some (some (.ok ()), "> error: 42 is not in this room\n> ") := by
    decide +kernel
  rw [outcome, Option.bind_some, entered, Option.bind_some, run, Option.map_some] at shown
  obtain ⟨finished, shown⟩ := Prod.mk.inj (Option.some.inj shown)
  have returned := phase_of_result? finished
  exact ⟨host, state, final, outcome, works, entered, run, returned, shown, console,
    follows.returned (.ok ()) returned⟩

end HostChat.Program
