import HostChat.Proofs.Console.Dealing
import HostChat.Scenario.Consoles

/-! # What ends a console

At a seat, a console reads from a keyboard and listens to a channel, while others do what they like on
its host. It ends well by an exit only, and otherwise because there is nothing more to read, nothing
more to hear, or no way to write. A line that fails has no other effect than that it is reported.
-/

namespace HostChat.Console

/-- What a read from a keyboard gives. The last thing a keyboard gives is its end. -/
inductive Key where
  | typed (bytes : List UInt8)
  | failure
deriving DecidableEq, Repr

/-- A console with what its keyboard will give. -/
structure Seat where
  keyboard : List Key
  console : State Exchange

inductive Move where
  | read
  /-- The console takes what its channel has for it. -/
  | receive
  | others (event : HostChat.Event Exchange)

namespace Seat

/-- The occasions of a move, and what is left of the keyboard. A channel may have nothing to take. -/
def occasions? (channel : Nat) (seat : Seat) : Move → Option (List (Occasion Exchange) × List Key)
  | .read =>
      match seat.keyboard with
      | [] => some ([.event .inputEnd], [])
      | .typed bytes :: rest => some ([.event (.typed bytes)], rest)
      | .failure :: rest => some ([.event .readError], rest)
  | .receive =>
      (Scenario.nextNotice? channel seat.console.host.carrier).map fun (event, carrier) =>
        ([.meanwhile fun host => { host with carrier }, .event event], seat.keyboard)
  | .others event => some ([.meanwhile fun host => host.after event], seat.keyboard)

/-- A move at a seat. None makes a difference once the console has ended. -/
def step (session : Session) (channel : Nat) (seat : Seat) (move : Move) : Option Seat :=
  if seat.console.isRunning then
    (seat.occasions? channel move).bind fun (occasions, keyboard) =>
      (replay? (attend session) seat.console occasions).map fun console => ⟨keyboard, console⟩
  else some seat

/-- A console that has just been opened. -/
def opened (keyboard : List Key) (screen : Screen) (host : Host Exchange) : Seat :=
  ⟨keyboard, await [] screen host⟩

/-- Why a console at a seat cannot go on. -/
inductive Stops (channel : Nat) (start final : Seat) : ChatError → Prop
  /-- All input is read, or a read has failed. -/
  | input (spent : final.keyboard = [] ∨
        ∃ consumed, start.keyboard = consumed ++ .failure :: final.keyboard) :
      Stops channel start final .input
  | signal (drained : final.console.host.carrier.inbox channel = ⟨[], true⟩) :
      Stops channel start final (.signal "notification channel closed")
  | output (fault : Fault) (text : String)
      (failed : final.console.screen.write text = .error fault) :
      Stops channel start final (.output fault)

/-- The ways in which a console at a seat ends, once it has dealt with some moments. -/
inductive Ending (channel : Nat) (start : Seat) (done : List (Moment Exchange)) (final : Seat) :
    Except ChatError Unit → Prop
  | exit (raw : List UInt8) (last : done.getLast? = some (.line raw))
      (parsed : Command.parse (lineText raw) = .ok .exit) : Ending channel start done final (.ok ())
  | error (error : ChatError) (stops : Stops channel start final error)
      (noExit : ∀ raw, .line raw ∈ done → Command.parse (lineText raw) ≠ .ok .exit) :
      Ending channel start done final (.error error)

/-- What has become of a seat. -/
structure Course (session : Session) (channel : Nat) (start final : Seat) : Prop where
  /-- The console has dealt with some moments, each of them in one of the ways there are, and there is
  a reason if it has ended. -/
  dealt : ∃ occasions done reached,
    replay? (attend session) start.console occasions = some final.console ∧
    Deals session start.console (moments [] occasions) done reached ∧
    final.console = reached.keeping (pending [] occasions) ∧
    (∀ front moment back, done = front ++ moment :: back → ∃ before after,
      replay? (dealRunning session) start.console front = some before ∧
      before.isRunning = true ∧ Dealt session before moment after ∧
      replay? (dealRunning session) after back = some reached) ∧
    ∀ result, final.console.phase = .ended result → Ending channel start done final result
  /-- There is always something to read, even if it is the end, and others can always act. -/
  goesOn : ∀ move, final.step session channel move = none →
    move = .receive ∧ final.console.host.carrier.inbox channel = ⟨[], false⟩
  rests : final.console.isRunning = false →
    ∀ moves, replay? (step session channel) final moves = some final

/-- What comes from a channel depends on its inbox. -/
private theorem nextNotice?_eq (channel : Nat) (exchange : Exchange) :
    Scenario.nextNotice? channel exchange =
      match exchange.inbox channel with
      | ⟨envelope :: rest, _⟩ => some (.notified envelope, exchange.keep channel rest)
      | ⟨[], true⟩ => some (.inboxClosed, exchange)
      | ⟨[], false⟩ => none := by
  simp only [Scenario.nextNotice?, Exchange.receive]
  rcases exchange.inbox channel with ⟨_ | ⟨envelope, rest⟩, _ | _⟩ <;> rfl

private theorem nextNotice?_eq_some {channel : Nat} {exchange after : Exchange} {event : Event}
    (found : Scenario.nextNotice? channel exchange = some (event, after)) :
    (∃ envelope, event = .notified envelope) ∨
      event = .inboxClosed ∧ after.inbox channel = ⟨[], true⟩ := by
  rw [nextNotice?_eq] at found
  split at found
  next envelope rest closed waiting =>
    cases found
    exact .inl ⟨envelope, rfl⟩
  next drained =>
    cases found
    exact .inr ⟨rfl, drained⟩
  next => cases found

variable {session : Session} {channel : Nat} {start seat next final : Seat} {move : Move}
  {moves : List Move} {occasions : List (Occasion Exchange)} {keyboard : List Key}

private theorem gentle_occasions (found : seat.occasions? channel move = some (occasions, keyboard)) :
    ∀ occasion ∈ occasions, occasion.Gentle session := by
  cases move with
  | read =>
    simp only [occasions?] at found
    split at found <;> cases found <;> intro occasion member <;>
      rw [List.mem_singleton.mp member] <;> trivial
  | receive =>
    obtain ⟨⟨event, carrier⟩, -, same⟩ := Option.map_eq_some_iff.mp found
    cases same
    intro occasion member
    rcases List.mem_cons.mp member with rfl | member
    · exact fun host works => works.after (.carry carrier)
    · rw [List.mem_singleton.mp member]
      trivial
  | others event =>
    cases found
    intro occasion member
    rw [List.mem_singleton.mp member]
    exact fun host works => works.after event

/-- A keyboard gives its keys one after the other. -/
private theorem exists_read (found : seat.occasions? channel move = some (occasions, keyboard)) :
    ∃ read, seat.keyboard = read ++ keyboard := by
  cases move with
  | read =>
    simp only [occasions?] at found
    split at found
    next blank =>
      cases found
      exact ⟨[], blank⟩
    next bytes rest typed =>
      cases found
      exact ⟨[.typed bytes], typed⟩
    next rest failed =>
      cases found
      exact ⟨[.failure], failed⟩
  | receive =>
    obtain ⟨_, -, same⟩ := Option.map_eq_some_iff.mp found
    cases same
    exact ⟨[], rfl⟩
  | others event =>
    cases found
    exact ⟨[], rfl⟩

/-- What a move does at the seat of a console that runs. -/
private theorem step_eq_some (runs : seat.console.isRunning = true)
    (stepped : seat.step session channel move = some next) :
    ∃ occasions, seat.occasions? channel move = some (occasions, next.keyboard) ∧
      replay? (attend session) seat.console occasions = some next.console := by
  rw [step, if_pos runs] at stepped
  obtain ⟨⟨occasions, keyboard⟩, found, stepped⟩ := Option.bind_eq_some_iff.mp stepped
  obtain ⟨console, attended, rfl⟩ := Option.map_eq_some_iff.mp stepped
  exact ⟨occasions, found, attended⟩

theorem step_of_not_isRunning (finished : seat.console.isRunning = false) (move : Move) :
    seat.step session channel move = some seat :=
  if_neg (by rw [finished]; exact Bool.false_ne_true)

/-- Moves bring occasions to a console. -/
private theorem exists_occasions (run : replay? (step session channel) start moves = some final) :
    ∃ occasions, (∀ occasion ∈ occasions, occasion.Gentle session) ∧
      replay? (attend session) start.console occasions = some final.console := by
  induction moves generalizing start with
  | nil =>
    cases run
    exact ⟨[], nofun, rfl⟩
  | cons move rest ih =>
    obtain ⟨next, stepped, run⟩ := Option.bind_eq_some_iff.mp run
    obtain ⟨later, gentle, attended⟩ := ih run
    cases runs : start.console.isRunning with
    | true =>
      obtain ⟨occasions, found, first⟩ := step_eq_some runs stepped
      refine ⟨occasions ++ later, ?_, replay?_append_eq_some_iff.mpr ⟨_, first, attended⟩⟩
      intro occasion member
      rcases List.mem_append.mp member with member | member
      · exact gentle_occasions found occasion member
      · exact gentle occasion member
    | false =>
      rw [step_of_not_isRunning runs] at stepped
      cases stepped
      exact ⟨later, gentle, attended⟩

/-- What is known of a seat at every moment: what of the keyboard is left, that the room works, and
why the console cannot go on if it cannot. -/
structure Accounted (session : Session) (channel : Nat) (start seat : Seat) : Prop where
  consumed : ∃ consumed, start.keyboard = consumed ++ seat.keyboard
  works : session.room.Working seat.console.host
  stopped : ∀ error, seat.console.phase = .ended (.error error) → Stops channel start seat error

theorem stops_of_step (accounted : Accounted session channel start seat)
    (runs : seat.console.isRunning = true)
    (found : seat.occasions? channel move = some (occasions, next.keyboard))
    (attended : replay? (attend session) seat.console occasions = some next.console)
    {error : ChatError} (ended : next.console.phase = .ended (.error error)) :
    Stops channel start next error := by
  obtain ⟨left, console⟩ := next
  obtain ⟨line, kept⟩ := seat.console.exists_keeping
  obtain ⟨consumed, split⟩ := accounted.consumed
  rcases stops_of_attend accounted.works kept runs (gentle_occasions found) attended ended with
    ⟨fault, text, rfl, failed⟩ | stop
  · exact .output fault text failed
  · cases move with
    | read =>
      simp only [occasions?] at found
      split at found
      next blank =>
        cases found
        rw [moments, moments, List.append_nil, sortOut, List.mem_singleton] at stop
        split_ifs at stop
        cases stop
        exact .input (.inl rfl)
      next bytes rest typed =>
        cases found
        rw [moments, moments, List.append_nil, sortOut] at stop
        obtain ⟨raw, -, wrong⟩ := List.mem_map.mp stop
        cases wrong
      next rest failed =>
        cases found
        rw [moments, moments, List.append_nil, sortOut, List.mem_singleton] at stop
        cases stop
        exact .input (.inr ⟨consumed, by rw [split, failed]⟩)
    | receive =>
      obtain ⟨⟨event, carrier⟩, heard, same⟩ := Option.map_eq_some_iff.mp found
      cases same
      rcases nextNotice?_eq_some heard with ⟨envelope, rfl⟩ | ⟨rfl, drained⟩
      · simp [moments, sortOut] at stop
      · obtain rfl : error = .signal "notification channel closed" := by
          simpa [moments, sortOut] using stop
        refine .signal ?_
        obtain ⟨own, shape⟩ := exists_of_isRunning runs
        rw [shape] at attended
        cases attended
        exact drained
    | others event =>
      cases found
      simp [moments, sortOut] at stop

/-- Whatever is read, heard or done by others, a seat stays accounted for. -/
theorem Accounted.step (accounted : Accounted session channel start seat)
    (stepped : seat.step session channel move = some next) :
    Accounted session channel start next := by
  cases runs : seat.console.isRunning with
  | false =>
    rw [step_of_not_isRunning runs] at stepped
    cases stepped
    exact accounted
  | true =>
    obtain ⟨occasions, found, attended⟩ := step_eq_some runs stepped
    obtain ⟨line, kept⟩ := seat.console.exists_keeping
    obtain ⟨consumed, split⟩ := accounted.consumed
    refine ⟨?_, ?_, fun error ended => stops_of_step accounted runs found attended ended⟩
    · obtain ⟨read, rest⟩ := exists_read found
      exact ⟨consumed ++ read, by rw [split, rest, List.append_assoc]⟩
    · obtain ⟨_, same, works⟩ :=
        exists_replay_attend accounted.works kept (gentle_occasions found)
      cases attended.symm.trans same
      exact works

private theorem accounted_opened {screen : Screen} {host : Host Exchange} {keyboard : List Key}
    (works : session.room.Working host) :
    Accounted session channel (opened keyboard screen host) (opened keyboard screen host) where
  consumed := ⟨[], rfl⟩
  works := by
    rw [opened, await_host]
    exact works
  stopped error ended := by
    obtain ⟨fault, text, same, failed⟩ := await_ended ended
    cases same
    exact .output fault text failed

/-- A move that is not possible is one of listening to a channel that is open and empty. -/
theorem waits_of_step (accounted : Accounted session channel start seat)
    (refused : seat.step session channel move = none) :
    move = .receive ∧ seat.console.host.carrier.inbox channel = ⟨[], false⟩ := by
  cases runs : seat.console.isRunning with
  | false =>
    rw [step_of_not_isRunning runs] at refused
    cases refused
  | true =>
    rw [Seat.step, if_pos runs] at refused
    cases found : seat.occasions? channel move with
    | some brought =>
      obtain ⟨occasions, keyboard⟩ := brought
      obtain ⟨line, kept⟩ := seat.console.exists_keeping
      obtain ⟨next, attended, -⟩ :=
        exists_replay_attend accounted.works kept (gentle_occasions found)
      simp only [found, Option.bind_some, attended, Option.map_some] at refused
      cases refused
    | none =>
      cases move with
      | read =>
        simp only [occasions?] at found
        split at found <;> cases found
      | receive =>
        have silent := Option.map_eq_none_iff.mp found
        rw [nextNotice?_eq] at silent
        split at silent
        next => cases silent
        next => cases silent
        next empty => exact ⟨rfl, empty⟩
      | others event => cases found

/-- What becomes of a console in a room that works, whatever it reads and hears and whatever others
do. -/
theorem course_of_replay (session : Session) (channel : Nat) (keyboard : List Key) (screen : Screen)
    (host : Host Exchange) (works : session.room.Working host) (moves : List Move) (final : Seat)
    (run : replay? (step session channel) (opened keyboard screen host) moves = some final) :
    Course session channel (opened keyboard screen host) final := by
  have accounted : Accounted session channel (opened keyboard screen host) final :=
    replay?_invariant _ (fun _ _ _ => Accounted.step) (accounted_opened works) run
  have rest (seat : Seat) (move : Move) (finished : seat.console.isRunning = false) :
      seat.step session channel move = some seat := step_of_not_isRunning finished move
  refine ⟨?_, fun move => waits_of_step accounted, fun finished moves => replay?_at_rest rest finished⟩
  obtain ⟨occasions, gentle, attended⟩ := exists_occasions run
  have kept : (opened keyboard screen host).console.keeping [] = (opened keyboard screen host).console :=
    await_keeping ..
  have opening : session.room.Working (opened keyboard screen host).console.host := by
    rw [opened, await_host]
    exact works
  have replayed := attended
  rw [replay?_attend session kept] at replayed
  obtain ⟨reached, replayed, shape⟩ := Option.map_eq_some_iff.mp replayed
  obtain ⟨done, deals⟩ := exists_deals replayed
  have gentle_done : ∀ moment ∈ done, moment.Gentle session := fun moment member =>
    gentle_moments gentle [] moment (deals.first.subset member)
  refine ⟨occasions, done, reached, attended, deals, shape.symm, ?_, ?_⟩
  · rintro front moment back rfl
    exact dealt_of_split opening gentle_done deals.dealt
  · rintro (error | _) ended
    · have finished : reached.phase = .ended (.error error) := by
        rwa [← shape, State.keeping_phase_ended_iff] at ended
      refine .error error (accounted.stopped error ended) fun raw member parsed => ?_
      obtain ⟨front, back, rfl⟩ := List.append_of_mem member
      cases finished.symm.trans (deals.last_of_exit parsed).2
    · have finished : reached.phase = .ended (.ok ()) := by
        rwa [← shape, State.keeping_phase_ended_iff] at ended
      obtain ⟨raw, last, parsed⟩ :=
        (deals.ok_iff_exit works (gentle_moments gentle []) finished).mp rfl
      exact .exit raw last parsed

private theorem exists_working : ∃ host,
    Room.create (fun _ => true) "x" anna Room.annasHost = (.ok Room.annasRoom, host) ∧
      Room.annasRoom.Working host := by
  have made : (Room.create (fun _ => true) "x" anna Room.annasHost).1 = .ok Room.annasRoom := by
    decide +kernel
  rcases outcome : Room.create (fun _ => true) "x" anna Room.annasHost with ⟨result, host⟩
  rw [outcome] at made
  cases made
  exact ⟨host, rfl, Room.working_of_create outcome []⟩

/-- A failing line, and an exit. -/
def failingKeys : List Key := [.typed (Text.utf8 "/tell 42 hi\n/e"), .typed (Text.utf8 "xit\n")]

theorem course_of_failing_line : ∃ host final,
    Room.annasRoom.Working host ∧
      replay? (step Session.annasSession 0) (opened failingKeys .empty host) [.read, .read] = some final ∧
      final.console.screen.shown = "> error: 42 is not in this room\n> " ∧
      Course Session.annasSession 0 (opened failingKeys .empty host) final := by
  obtain ⟨host, outcome, works⟩ := exists_working
  have shown : (replay? (step Session.annasSession 0) (opened failingKeys .empty
      (Room.create (fun _ => true) "x" anna Room.annasHost).2) [.read, .read]).map
        (·.console.screen.shown) = some "> error: 42 is not in this room\n> " := by
    decide +kernel
  rw [outcome] at shown
  obtain ⟨final, run, shown⟩ := Option.map_eq_some_iff.mp shown
  exact ⟨host, final, works, run, shown,
    course_of_replay Session.annasSession 0 failingKeys .empty host works _ final run⟩

/-- A console also ends as at the end of its input when it cannot read, although more would come. -/
theorem input_error_before_end : ¬∀ (session : Session) (channel : Nat) (keyboard : List Key)
    (screen : Screen) (host : Host Exchange) (moves : List Move) (final : Seat),
    session.room.Working host →
      replay? (step session channel) (opened keyboard screen host) moves = some final →
        final.console.phase = .ended (.error .input) → final.keyboard = [] := by
  intro exhausted
  obtain ⟨host, -, works⟩ := exists_working
  have wrong := exhausted Session.annasSession 0 [.failure, .typed (Text.utf8 "/exit\n")] .empty host
    [.read] ⟨[.typed (Text.utf8 "/exit\n")], ⟨.ended (.error .input), ⟨"> ", none⟩, host⟩⟩ works rfl rfl
  cases wrong

end Seat

end HostChat.Console
