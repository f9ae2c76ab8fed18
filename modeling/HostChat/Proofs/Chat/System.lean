import HostChat.Proofs.Console.Lines
import HostChat.Proofs.Console.Moments
import HostChat.Proofs.Meeting.Awaiting

/-! # Chats

At a meeting, whoever is inside a room may sit down at a console. What comes to a console comes in
events, and others act in between. Whatever a console does at an event, it is a number of turns of its
session.
-/

namespace HostChat

/-- A console between events, and its screen. -/
structure Desk where
  phase : Console.Phase
  screen : Screen

/-- A console that runs: the session it works for, the start of a line, and its screen. -/
structure Station where
  session : Session
  line : List UInt8
  screen : Screen
deriving DecidableEq, Repr

structure Chat where
  meeting : Meeting
  desks : Table ParticipantId Desk

/-- The participant tells or says something. -/
def Turn.speaks (turn : Turn) : Bool :=
  match turn.deed with
  | .tell .. | .say .. => true
  | _ => false

namespace Console

variable {σ : Type} [Carrier σ]

/-- What the execution of a line adds to the ledger. -/
def noted (session : Session) (line : List UInt8) (host : Host σ) : List Entry :=
  match Command.parse (lineText line) with
  | .ok (.tell target text) =>
      match session.tell target text host with
      | some (result, _) => session.told target (Text.utf8 text) result
      | none => []
  | .ok (.say text) => session.said text host
  | _ => []

/-- What lines add to the ledger that are executed one after the other. -/
def notedAll (session : Session) : List (List UInt8) → State σ → List Entry
  | line :: lines, ⟨.running _, screen, host⟩ =>
      noted session line host ++
        (executeLine session line host).elim [] fun result =>
          notedAll session lines (conclude [] screen result)
  | _, _ => []

/-- What the handling of an envelope adds to the ledger. -/
def heard (session : Session) (envelope : Envelope) (host : Host σ) : List Entry :=
  match session.handle envelope host with
  | some (answer, _) => session.handled envelope.notification answer
  | none => []

/-- What an event adds to the ledger. -/
def logged (session : Session) (event : Event) (line : List UInt8) (screen : Screen)
    (host : Host σ) : List Entry :=
  match event with
  | .notified envelope => heard session envelope host
  | event => notedAll session (completed line event).1 ⟨.running line, screen, host⟩

variable {session : Session} {last : List UInt8} {first second : List (List UInt8)}
  {state middle : State σ}

/-- Lines are executed one after the other, however many of them at a time. -/
theorem runLines_append :
    runLines session last (first ++ second) state =
      (runLines session [] first state).bind (runLines session last second) := by
  induction first generalizing state with
  | nil =>
    rcases state with ⟨_ | _, screen, host⟩ <;> cases second <;>
      simp only [List.nil_append, runLines, Option.bind_some]
  | cons line rest ih =>
    rcases state with ⟨_ | _, screen, host⟩
    · simp only [List.cons_append, runLines, ih, bind, Option.bind_assoc]
    · cases second <;> simp only [List.cons_append, runLines, Option.bind_some]

theorem notedAll_append (ran : runLines session [] first state = some middle) :
    notedAll session (first ++ second) state =
      notedAll session first state ++ notedAll session second middle := by
  induction first generalizing state with
  | nil =>
    rcases state with ⟨_ | _, screen, host⟩ <;> cases ran <;> cases second <;>
      simp only [List.nil_append, notedAll]
  | cons line rest ih =>
    rcases state with ⟨_ | _, screen, host⟩
    · simp only [runLines, bind] at ran
      obtain ⟨result, executed, ran⟩ := Option.bind_eq_some_iff.mp ran
      simp only [List.cons_append, notedAll, executed, Option.elim_some, ih ran, List.append_assoc]
    · cases ran
      cases second <;> rfl

/-- A console keeps what an event leaves of the last line. -/
private theorem kept_of_react {event : Event} {line kept : List UInt8} {screen : Screen}
    {host : Host σ} (reacted : react session event ⟨.running line, screen, host⟩ = some state)
    (runs : state.phase = .running kept) : kept = (completed line event).2 := by
  have same : (sortOut line (.event event : Occasion σ)).2 = (completed line event).2 := by
    cases event <;> rfl
  have attended : attend session ⟨.running line, screen, host⟩ (.event event) = some state := reacted
  rw [attend_eq_replay? session (State.keeping_running screen host), same] at attended
  obtain ⟨⟨_ | _, screen, host⟩, -, rfl⟩ := Option.map_eq_some_iff.mp attended
  · cases runs
    rfl
  · cases runs

end Console

namespace Chat

inductive Act where
  /-- A participant acts without a console. -/
  | turn (turn : Turn)
  /-- A participant sits down at a new console. -/
  | start (id : ParticipantId) (screen : Screen)
  /-- Something comes to the console of a participant. -/
  | event (id : ParticipantId) (event : Console.Event)

def start (stores : Directory Store) (locks : Directory Nat) : Chat :=
  ⟨.start stores locks, .empty⟩

def station? (chat : Chat) (id : ParticipantId) : Option Station :=
  match chat.meeting.session? id, chat.desks.find? id with
  | some session, some ⟨.running line, screen⟩ => some ⟨session, line, screen⟩
  | _, _ => none

/-- The next envelope in an inbox that has a receiver, and the host without it. -/
def next? (chat : Chat) (id : ParticipantId) : Option (Envelope × Host Exchange) :=
  (chat.meeting.members.find? id).bind fun member =>
    match member.receives, chat.meeting.host.carrier.receive member.channel with
    | true, (some envelope, carrier) => some (envelope, { chat.meeting.host with carrier })
    | _, _ => none

/-- The host as a console finds it when an event comes. What it is notified of is the next envelope in
the inbox, and taken out of it. -/
def finds? (chat : Chat) (id : ParticipantId) : Console.Event → Option (Host Exchange)
  | .notified envelope =>
      (chat.next? id).bind fun (first, host) => if first = envelope then some host else none
  | _ => some chat.meeting.host

/-- The state in which a console has come to another one of its own. -/
def settle (chat : Chat) (id : ParticipantId) (state : Console.State Exchange)
    (entries : List Entry) : Chat :=
  ⟨chat.meeting.record state.host entries, chat.desks.insert id ⟨state.phase, state.screen⟩⟩

def step (chat : Chat) : Act → Option Chat
  | .turn turn => (chat.meeting.step turn).map fun meeting => { chat with meeting }
  | .start id screen =>
      (chat.meeting.session? id).map fun _ =>
        chat.settle id (Console.await [] screen chat.meeting.host) []
  | .event id event =>
      (chat.station? id).bind fun station =>
        (chat.finds? id event).bind fun host =>
          (Console.react station.session event ⟨.running station.line, station.screen, host⟩).map
            fun state => chat.settle id state
              (Console.logged station.session event station.line station.screen host)

/-- The participant takes the next envelope out of its inbox. -/
def Act.takes (id : ParticipantId) : Act → Bool
  | .turn own => own.takes id
  | .event other (.notified _) => other == id
  | _ => false

/-- A policy for meetings as one for chats. Consoles may do what they do. -/
def allows (policy : Meeting → Turn → Bool) (chat : Chat) : Act → Bool
  | .turn turn => policy chat.meeting turn
  | _ => true

/-- A policy that has nothing against what consoles do. -/
def Tolerant (policy : Meeting → Turn → Bool) : Prop :=
  ∀ meeting turn, turn.speaks = true ∨ turn.deed = .handle → policy meeting turn = true

variable {chat next final : Chat} {meeting : Meeting} {id : ParticipantId} {session : Session}
  {station : Station} {event : Console.Event} {host : Host Exchange} {line last : List UInt8}
  {lines : List (List UInt8)} {state result : Console.State Exchange} {act : Act} {acts : List Act}

@[simp] theorem settle_meeting (entries : List Entry) :
    (chat.settle id state entries).meeting = chat.meeting.record state.host entries := rfl

theorem station?_eq_some (seated : chat.station? id = some station) :
    chat.meeting.session? id = some station.session ∧
      chat.desks.find? id = some ⟨.running station.line, station.screen⟩ := by
  simp only [station?] at seated
  split at seated
  next inside desk =>
    cases seated
    exact ⟨inside, desk⟩
  next => cases seated

private theorem next?_eq_some {envelope : Envelope}
    (found : chat.next? id = some (envelope, host)) :
    ∃ member carrier, chat.meeting.members.find? id = some member ∧ member.receives = true ∧
      chat.meeting.host.carrier.receive member.channel = (some envelope, carrier) ∧
        host = { chat.meeting.host with carrier } := by
  obtain ⟨member, there, found⟩ := Option.bind_eq_some_iff.mp found
  split at found
  next receives received =>
    cases found
    exact ⟨member, _, there, receives, received, rfl⟩
  next => cases found

theorem finds?_notified {envelope : Envelope} :
    chat.finds? id (.notified envelope) = some host ↔ chat.next? id = some (envelope, host) := by
  rw [finds?, Option.bind_eq_some_iff]
  constructor
  · rintro ⟨⟨first, after⟩, found, same⟩
    dsimp only at same
    split_ifs at same with equal
    cases same
    rw [found, equal]
  · intro found
    exact ⟨(envelope, host), found, if_pos rfl⟩

theorem step_event_eq_some :
    chat.step (.event id event) = some next ↔
      ∃ station host state, chat.station? id = some station ∧ chat.finds? id event = some host ∧
        Console.react station.session event ⟨.running station.line, station.screen, host⟩ =
          some state ∧
        chat.settle id state
          (Console.logged station.session event station.line station.screen host) = next := by
  simp only [step, Option.bind_eq_some_iff, Option.map_eq_some_iff, exists_and_left]

/-! ### Consoles take turns -/

theorem tolerant_honest : Tolerant Meeting.honest := by
  rintro meeting ⟨id, deed⟩ works
  cases deed <;> simp [Turn.speaks, Meeting.honest] at works ⊢

theorem tolerant_attended (id : ParticipantId) : Tolerant (Meeting.attended id) := by
  intro meeting turn works
  rw [Meeting.attended, tolerant_honest meeting turn works, Bool.true_and]
  obtain ⟨other, deed⟩ := turn
  cases deed <;> simp [Turn.speaks, Turn.departs] at works ⊢

private theorem not_takes_of_speaks {turn : Turn} (speaks : turn.speaks = true) (id : ParticipantId) :
    turn.takes id = false := by
  obtain ⟨other, deed⟩ := turn
  cases deed <;> simp [Turn.speaks, Turn.takes] at speaks ⊢

theorem countP_takes_of_speaks {turns : List Turn} (speak : ∀ turn ∈ turns, turn.speaks = true)
    (id : ParticipantId) : turns.countP (·.takes id) = 0 := by
  refine List.countP_eq_zero.mpr fun turn member => ?_
  rw [not_takes_of_speaks (speak turn member)]
  exact Bool.false_ne_true

/-- A line tells something, says something, or leaves the host alone. -/
theorem turns_of_line {executed : Console.Reaction × Host Exchange}
    (inside : meeting.session? id = some session)
    (success : Console.executeLine session line meeting.host = some executed) :
    ∃ turns, (∀ turn ∈ turns, turn.speaks = true) ∧ replay? Meeting.step meeting turns =
      some (meeting.record executed.2 (Console.noted session line meeting.host)) := by
  obtain ⟨member, found, within⟩ := Meeting.session?_eq_some inside
  simp only [Console.executeLine] at success
  simp only [Console.noted]
  cases parsed : Command.parse (Console.lineText line) with
  | error problem =>
    rw [parsed] at success
    cases success
    rw [Meeting.record_nil]
    exact ⟨[], List.forall_mem_nil _, rfl⟩
  | ok command =>
    rw [parsed] at success
    cases command with
    | tell target text =>
      obtain ⟨⟨told, after⟩, outcome, rfl⟩ := Option.map_eq_some_iff.mp success
      refine ⟨[⟨id, .tell target text⟩], by simp [Turn.speaks], ?_⟩
      simp only [replay?_singleton, Meeting.step, found, Meeting.perform, within, outcome,
        Option.map_some]
      cases told <;> rfl
    | say text =>
      obtain ⟨⟨said, after⟩, outcome, rfl⟩ := Option.map_eq_some_iff.mp success
      refine ⟨[⟨id, .say text⟩], by simp [Turn.speaks], ?_⟩
      simp only [replay?_singleton, Meeting.step, found, Meeting.perform, within, outcome,
        Option.map_some]
      cases said <;> rfl
    | _ =>
      cases success
      rw [Meeting.record_nil]
      exact ⟨[], List.forall_mem_nil _, rfl⟩

private theorem replay?_record_nil (here : meeting.host = host) :
    replay? Meeting.step meeting [] = some (meeting.record host []) := by
  rw [Meeting.record_nil, ← here]
  rfl

/-- Lines are executed as turns, all of them unless one of them ends the console. -/
theorem turns_of_runLines (inside : meeting.session? id = some session)
    (here : meeting.host = state.host)
    (ran : Console.runLines session last lines state = some result) :
    ∃ turns, (∀ turn ∈ turns, turn.speaks = true) ∧ replay? Meeting.step meeting turns =
      some (meeting.record result.host (Console.notedAll session lines state)) := by
  induction lines generalizing meeting state with
  | nil =>
    have nothing := replay?_record_nil here
    rcases state with ⟨_ | _, screen, host⟩ <;> cases ran <;> exact ⟨[], List.forall_mem_nil _, nothing⟩
  | cons line rest ih =>
    rcases state with ⟨_ | _, screen, host⟩
    · subst here
      simp only [Console.runLines, bind] at ran
      obtain ⟨executed, success, continued⟩ := Option.bind_eq_some_iff.mp ran
      obtain ⟨turns, speak, taken⟩ := turns_of_line inside success
      have next : (meeting.record executed.2 (Console.noted session line meeting.host)).host =
          (Console.conclude [] screen executed).host := (Console.conclude_host ..).symm
      have insideToo : (meeting.record executed.2
          (Console.noted session line meeting.host)).session? id = some session := inside
      obtain ⟨later, speakToo, takenToo⟩ := ih insideToo next continued
      refine ⟨turns ++ later, ?_, ?_⟩
      · exact fun turn member => (List.mem_append.mp member).elim (speak turn) (speakToo turn)
      · rw [replay?_append, taken, Option.bind_some, takenToo]
        rw [Meeting.record_record, Console.notedAll, success, Option.elim_some]
    · cases ran
      exact ⟨[], List.forall_mem_nil _, replay?_record_nil here⟩

/-- An envelope is handled at a console as it is without one. -/
private theorem turn_of_notified {envelope : Envelope} {handled : Console.Reaction × Host Exchange}
    (inside : chat.meeting.session? id = some session)
    (first : chat.next? id = some (envelope, host))
    (success : Console.handleEnvelope session envelope host = some handled) :
    chat.meeting.step ⟨id, .handle⟩ =
      some (chat.meeting.record handled.2 (Console.heard session envelope host)) := by
  obtain ⟨member, found, within⟩ := Meeting.session?_eq_some inside
  obtain ⟨own, carrier, there, receives, received, rfl⟩ := next?_eq_some first
  cases found.symm.trans there
  obtain ⟨⟨answer, after⟩, outcome, rfl⟩ := Option.map_eq_some_iff.mp success
  simp only [Console.heard, Meeting.step, found, Meeting.perform, within, receives, received, outcome,
    Option.map_some]

/-- A meeting goes on by turns as consoles take them, in which the same envelopes are taken as in an
act. -/
def Act.Turns (act : Act) (meeting next : Meeting) : Prop :=
  ∃ turns : List Turn, (∀ turn ∈ turns, turn.speaks = true ∨ turn.deed = .handle) ∧
    (∀ id, turns.countP (·.takes id) = (act.takes id).toNat) ∧
    replay? Meeting.step meeting turns = some next

private theorem turns_of_nothing (quiet : ∀ id, act.takes id = false) (here : meeting.host = host) :
    act.Turns meeting (meeting.record host []) := by
  refine ⟨[], List.forall_mem_nil _, fun id => ?_, replay?_record_nil here⟩
  rw [quiet]
  rfl

private theorem turns_of_quiet (quiet : ∀ id, act.takes id = false)
    (inside : meeting.session? id = some session) (here : meeting.host = state.host)
    (ran : Console.runLines session last lines state = some result) :
    act.Turns meeting (meeting.record result.host (Console.notedAll session lines state)) := by
  obtain ⟨turns, speak, taken⟩ := turns_of_runLines inside here ran
  refine ⟨turns, fun turn member => .inl (speak turn member), fun id => ?_, taken⟩
  rw [quiet, countP_takes_of_speaks speak]
  rfl

/-- What a console does at an event is a number of turns. -/
private theorem turns_of_event (stepped : chat.step (.event id event) = some next) :
    (Act.event id event).Turns chat.meeting next.meeting := by
  obtain ⟨station, host, state, seated, finds, reacted, rfl⟩ := step_event_eq_some.mp stepped
  obtain ⟨inside, -⟩ := station?_eq_some seated
  rw [settle_meeting]
  cases event with
  | typed bytes => exact turns_of_quiet (fun _ => rfl) inside (Option.some.inj finds) reacted
  | inputEnd =>
    simp only [Console.react] at reacted
    simp only [Console.logged, Console.completed]
    split_ifs at reacted ⊢ with blank
    · cases reacted
      exact turns_of_nothing (fun _ => rfl) (Option.some.inj finds)
    · exact turns_of_quiet (fun _ => rfl) inside (Option.some.inj finds) reacted
  | readError =>
    cases reacted
    exact turns_of_nothing (fun _ => rfl) (Option.some.inj finds)
  | inboxClosed =>
    cases reacted
    exact turns_of_nothing (fun _ => rfl) (Option.some.inj finds)
  | notified envelope =>
    obtain ⟨handled, success, rfl⟩ := Option.map_eq_some_iff.mp reacted
    refine ⟨[⟨id, .handle⟩], by simp, fun other => ?_, ?_⟩
    · simp only [List.countP_singleton, Turn.takes, Act.takes]
      cases id == other <;> rfl
    · rw [replay?_singleton, turn_of_notified inside (finds?_notified.mp finds) success,
        Console.conclude_host]
      rfl

/-- A chat under a policy is a meeting under that policy, in which the same envelopes are taken. -/
theorem turns_of_replay {policy : Meeting → Turn → Bool} (tolerant : Tolerant policy)
    (run : replay? (restrict (allows policy) step) chat acts = some final) :
    ∃ turns, replay? (restrict policy Meeting.step) chat.meeting turns = some final.meeting ∧
      ∀ id, turns.countP (·.takes id) = acts.countP (·.takes id) := by
  induction acts generalizing chat with
  | nil =>
    cases run
    exact ⟨[], rfl, fun _ => rfl⟩
  | cons act rest ih =>
    obtain ⟨next, stepped, run⟩ := Option.bind_eq_some_iff.mp run
    obtain ⟨allowed, stepped⟩ := restrict_eq_some_iff.mp stepped
    obtain ⟨later, takenToo, counts⟩ := ih run
    have own : ∃ turns, replay? (restrict policy Meeting.step) chat.meeting turns = some next.meeting ∧
        ∀ id, turns.countP (·.takes id) = (act.takes id).toNat := by
      cases act with
      | turn turn =>
        obtain ⟨meeting, taken, rfl⟩ := Option.map_eq_some_iff.mp stepped
        refine ⟨[turn], ?_, fun id => ?_⟩
        · rw [replay?_singleton]
          exact restrict_eq_some_iff.mpr ⟨allowed, taken⟩
        · rw [List.countP_singleton, Act.takes]
          cases turn.takes id <;> rfl
      | start id screen =>
        obtain ⟨session, -, rfl⟩ := Option.map_eq_some_iff.mp stepped
        refine ⟨[], ?_, fun _ => rfl⟩
        rw [settle_meeting, Console.await_host, Meeting.record_nil]
        rfl
      | event id event =>
        obtain ⟨turns, own, count, taken⟩ := turns_of_event stepped
        exact ⟨turns, replay?_restrict (fun meeting turn member => tolerant meeting turn
          (own turn member)) taken, count⟩
    obtain ⟨turns, taken, count⟩ := own
    refine ⟨turns ++ later, replay?_append_eq_some_iff.mpr ⟨_, taken, takenToo⟩, fun id => ?_⟩
    rw [List.countP_append, count, counts, List.countP_cons]
    cases act.takes id <;> simp [Nat.add_comm]

/-! ### What consoles keep -/

/-- No console keeps a line feed. -/
def Unended (chat : Chat) : Prop :=
  ∀ id desk line, chat.desks.find? id = some desk → desk.phase = .running line →
    Text.Utf8.lineFeed ∉ line

theorem Unended.settle (unended : chat.Unended) {entries : List Entry}
    (own : ∀ line, state.phase = .running line → Text.Utf8.lineFeed ∉ line) :
    (chat.settle id state entries).Unended := by
  intro other desk line found runs
  rw [Chat.settle, Table.find?_insert] at found
  split_ifs at found
  · cases found
    exact own line runs
  · exact unended other desk line found runs

theorem Unended.step (unended : chat.Unended) (stepped : chat.step act = some next) :
    next.Unended := by
  cases act with
  | turn turn =>
    obtain ⟨meeting, -, rfl⟩ := Option.map_eq_some_iff.mp stepped
    exact unended
  | start id screen =>
    obtain ⟨session, -, rfl⟩ := Option.map_eq_some_iff.mp stepped
    refine unended.settle fun line runs => ?_
    rw [Console.await_line runs]
    exact List.not_mem_nil
  | event id event =>
    obtain ⟨station, host, state, seated, -, reacted, rfl⟩ := step_event_eq_some.mp stepped
    refine unended.settle fun line runs => ?_
    rw [Console.kept_of_react reacted runs]
    have pending := unended id _ _ (station?_eq_some seated).2 rfl
    exact Console.lineFeed_notMem_completed pending event

theorem unended_of_replay {stores : Directory Store} {locks : Directory Nat}
    (run : replay? step (start stores locks) acts = some final) : final.Unended :=
  replay?_invariant Unended (fun _ _ _ unended stepped => unended.step stepped)
    (fun _ _ _ found => by cases found) run

end Chat

end HostChat
