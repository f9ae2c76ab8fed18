import HostChat.Proofs.Chat.System
import HostChat.Proofs.Console.Lines
import HostChat.Proofs.Session.Working

/-! # From one console to another

A text that is told at one console is shown at the console of its recipient as it was told, in a line
of its own, however many notifications are handled there first and whatever else is done in between.
-/

namespace HostChat

private theorem Screen.writeAll_of_whole {screen : Screen} (whole : screen.writesLeft = none)
    (texts : List String) :
    screen.writeAll texts = (none, ⟨texts.foldl (· ++ ·) screen.shown, none⟩) := by
  obtain ⟨shown, _⟩ := screen
  subst whole
  induction texts generalizing shown with
  | nil => rfl
  | cons text rest ih =>
    simp only [Screen.writeAll, Screen.write]
    exact ih (shown ++ text)

/-- A screen that does not break shows all that is written, and the prompt after it. -/
private theorem Console.conclude_of_whole {σ : Type} {screen : Screen}
    (whole : screen.writesLeft = none) (line : List UInt8) (texts : List String) (host : Host σ) :
    Console.conclude line screen (⟨texts, .goOn⟩, host) =
      ⟨.running line, ⟨texts.foldl (· ++ ·) screen.shown ++ Console.prompt, none⟩, host⟩ := by
  simp only [Console.conclude, Screen.writeAll_of_whole whole]
  rfl

/-- The participant is inside a room, and its inbox is open and connected. -/
structure Meeting.Listens (meeting : Meeting) (id : ParticipantId) (session : Session) : Prop where
  inside : meeting.session? id = some session
  inbox : ∃ member, meeting.members.find? id = some member ∧ member.receives = true ∧
    meeting.host.carrier.target? id = some member.channel

/-- A line that a console executes at an event, with the lines before it and after it and the start of
another one that is kept, and what the console has come to when the line is due. -/
structure Station.Due (station : Station) (event : Console.Event) (host : Host Exchange)
    (line : List UInt8) where
  earlier : List (List UInt8)
  later : List (List UInt8)
  rest : List UInt8
  completed : Console.completed station.line event = (earlier ++ line :: later, rest)
  screen : Screen
  here : Host Exchange
  executed : Console.runLines station.session [] earlier
    ⟨.running station.line, station.screen, host⟩ = some ⟨.running [], screen, here⟩

namespace Chat

variable {base : Nat} {chat final later : Chat} {meeting : Meeting} {id sender recipient : ParticipantId}
  {station : Station} {session theirs : Session} {event : Console.Event} {line last : List UInt8}
  {lines : List (List UInt8)} {text : String} {slot : Fin mailboxSlots} {posting : Posting}
  {host after : Host Exchange} {state result : Console.State Exchange} {acts : List Act}

/-- The policy that all notifications come from sessions, and that everybody has one session. -/
abbrev honest : Chat → Act → Bool := allows Meeting.honest

/-- A console writes just these texts at an event, and goes on with the start of a line that it
keeps. -/
structure Writes (chat : Chat) (id : ParticipantId) (event : Console.Event) (texts : List String)
    (final : Chat) : Prop where
  taken : chat.step (.event id event) = some final
  reacts : ∃ station host, chat.station? id = some station ∧ chat.finds? id event = some host ∧
    Console.react station.session event ⟨.running station.line, station.screen, host⟩ =
      some (Console.conclude station.line station.screen (⟨texts, .goOn⟩, final.meeting.host))

theorem Writes.shown {texts : List String} (writes : chat.Writes id event texts final)
    (seated : chat.station? id = some station) (whole : station.screen.writesLeft = none) :
    final.station? id = some { station with
      screen := ⟨texts.foldl (· ++ ·) station.screen.shown ++ Console.prompt, none⟩ } := by
  obtain ⟨own, host, there, finds, reacts⟩ := writes.reacts
  cases seated.symm.trans there
  obtain ⟨own, host', state, there, finds', reacted, rfl⟩ := step_event_eq_some.mp writes.taken
  cases seated.symm.trans there
  cases finds.symm.trans finds'
  rw [Console.conclude_of_whole whole, reacted, Option.some.injEq] at reacts
  have phase : state.phase = .running station.line := congrArg Console.State.phase reacts
  have screen : state.screen =
      ⟨texts.foldl (· ++ ·) station.screen.shown ++ Console.prompt, none⟩ :=
    congrArg Console.State.screen reacts
  have inside : (chat.meeting.record state.host (Console.logged station.session event station.line
      station.screen host)).session? id = some station.session := (station?_eq_some seated).1
  simp only [station?, inside, settle, Table.find?_insert, if_pos, phase, screen]

/-- The line that a console shows for a message. -/
def incoming (sender : ParticipantId) (text : String) : String :=
  "\r" ++ toString sender.toNat ++ ": " ++ text ++ "\n"

private theorem count_lineFeed_incoming (sender : ParticipantId) (within : '\n' ∉ text.toList) :
    (incoming sender text).toList.count '\n' = 1 := by
  have digits : '\n' ∉ (toString sender.toNat).toList :=
    sender.notMem_of_not_isDigit (by decide)
  simp only [incoming, String.toList_append, List.count_append,
    List.count_eq_zero_of_not_mem within, List.count_eq_zero_of_not_mem digits]
  rfl

private theorem render_of_text {message : Message} (written : message.text = Text.utf8 text) :
    s!"\r{message.render}\n" = incoming message.sender text := by
  rw [Message.render, written, Text.ofUtf8_utf8]
  change "\r" ++ (toString message.sender.toNat ++ ": " ++ text) ++ "\n" = _
  simp only [incoming, String.append_assoc]

/-- A message that is told in a line is accepted without a word and announced at the end of its
recipient's inbox. Once what lies before it there is taken, the recipient's console shows it. -/
structure Delivers (chat : Chat) (sender recipient : ParticipantId) (station : Station)
    (event : Console.Event) {line : List UInt8}
    (due : station.Due event chat.meeting.host line) (text : String) (slot : Fin mailboxSlots)
    (sent : Chat) : Prop where
  taken : chat.step (.event sender event) = some sent
  accepted : ∃ after,
    Console.react station.session event
        ⟨.running station.line, station.screen, chat.meeting.host⟩ =
      Console.runLines station.session due.rest due.later
        (Console.conclude [] due.screen (⟨[], .goOn⟩, after)) ∧
    Meeting.queue { chat.meeting with host := after } recipient =
      Meeting.queue { chat.meeting with host := due.here } recipient ++ [⟨sender, .messageReady slot⟩]
  shown : ∀ acts later,
    replay? (restrict (allows (Meeting.attended recipient)) step) sent acts = some later →
      acts.countP (·.takes recipient) =
          (Meeting.queue { chat.meeting with host := due.here } recipient).length →
        (later.meeting.queue recipient).head? = some ⟨sender, .messageReady slot⟩ ∧
        ∀ station, later.station? recipient = some station → ∃ final,
          later.Writes recipient (.notified ⟨sender, .messageReady slot⟩) [incoming sender text] final

/-! ### At the console of the sender -/

private theorem exists_executeLine (unlocked : session.room.Unlocked host) (line : List UInt8) :
    ∃ executed, Console.executeLine session line host = some executed := by
  simp only [Console.executeLine]
  cases Command.parse (Console.lineText line) with
  | error problem => exact ⟨_, rfl⟩
  | ok command =>
    cases command with
    | tell target text =>
      obtain ⟨outcome, told⟩ := Session.exists_tell unlocked target text
      exact ⟨_, Option.map_eq_some_iff.mpr ⟨outcome, told, rfl⟩⟩
    | say text =>
      obtain ⟨outcome, said⟩ := Session.exists_say unlocked text
      exact ⟨_, Option.map_eq_some_iff.mpr ⟨outcome, said, rfl⟩⟩
    | _ => exact ⟨_, rfl⟩

private theorem ordered_of_speech {next : Meeting} {turns : List Turn}
    (ordered : meeting.Ordered base) (speak : ∀ turn ∈ turns, turn.speaks = true)
    (taken : replay? Meeting.step meeting turns = some next) : next.Ordered base := by
  have allowed := replay?_restrict (fun meeting turn member =>
    tolerant_honest meeting turn (.inl (speak turn member))) taken
  refine replay?_invariant _ (fun meeting turn next ordered stepped => ?_) ordered allowed
  obtain ⟨allowed, stepped⟩ := restrict_eq_some_iff.mp stepped
  exact ordered.step allowed (Meeting.moves_of_step stepped)

/-- No line keeps a console waiting. -/
private theorem exists_runLines (ordered : meeting.Ordered base)
    (inside : meeting.session? id = some session) (here : meeting.host = state.host) :
    ∃ result, Console.runLines session last lines state = some result := by
  induction lines generalizing meeting state with
  | nil => rcases state with ⟨_ | _, screen, host⟩ <;> exact ⟨_, rfl⟩
  | cons line rest ih =>
    rcases state with ⟨_ | _, screen, host⟩
    · subst here
      obtain ⟨member, found, within⟩ := Meeting.session?_eq_some inside
      obtain ⟨-, unlocked⟩ := ordered.founded.session_of found within
      obtain ⟨executed, success⟩ := exists_executeLine unlocked line
      obtain ⟨turns, speak, taken⟩ := turns_of_line inside success
      obtain ⟨result, ran⟩ := ih (ordered_of_speech ordered speak taken) inside
        (Console.conclude_host [] screen executed).symm
      exact ⟨result, by simp only [Console.runLines, success, bind, Option.bind_some, ran]⟩
    · exact ⟨_, rfl⟩

/-- A line that tells something to somebody who can be reached is taken without a word, and what it
tells waits behind all that was in the inbox. -/
private theorem awaits_of_line (ordered : meeting.Ordered base)
    (inside : meeting.session? sender = some session) (listens : meeting.Listens recipient theirs)
    (together : theirs.room.store = session.room.store)
    (free : ∃ slot ∈ (meeting.host.memory session.room.store).mailbox.slots, slot.isFree = true)
    (parsed : Command.parse (Console.lineText line) = .ok (.tell recipient text))
    (some : text.toList ≠ []) (fits : (Text.utf8 text).length ≤ maxMessageBytes) :
    session.me = sender ∧ ∃ slot after,
      Console.executeLine session line meeting.host = Option.some (⟨[], .goOn⟩, after) ∧
      (meeting.record after (Console.noted session line meeting.host)).queue recipient =
        meeting.queue recipient ++ [⟨sender, .messageReady slot⟩] ∧
      (meeting.record after (Console.noted session line meeting.host)).Ordered base ∧
      (meeting.record after (Console.noted session line meeting.host)).Awaits recipient
        (session.posting recipient (Text.utf8 text) slot) (meeting.queue recipient) := by
  obtain ⟨member, found, receives, reached⟩ := listens.inbox
  obtain ⟨own, there, within⟩ := Meeting.session?_eq_some inside
  obtain ⟨rfl, made⟩ := ordered.regular.housed.session_of there within
  obtain ⟨founded, unlocked⟩ := ordered.founded.session_of there within
  have listed := (ordered.regular.housed.registered _ recipient founded).mpr
    ⟨theirs, listens.inside, together⟩
  obtain ⟨slot, after, told, posts⟩ := Session.tell_of_free made unlocked listed some fits free
    fun notification => Exchange.notify_of_target _ notification reached
  have executed : Console.executeLine session line meeting.host =
      Option.some (⟨[], .goOn⟩, after) := by
    simp only [Console.executeLine, Console.execute, parsed, told, Option.map_some]
  have noted : Console.noted session line meeting.host =
      [.accepted (session.posting recipient (Text.utf8 text) slot)] := by
    simp only [Console.noted, parsed, told]
    rfl
  rw [noted]
  refine ⟨rfl, slot, after, executed, ?_, ordered.posts founded listed posts, ?_⟩
  · rw [ordered.regular.wired.queue_record _ posts.sent, if_pos rfl]
  · exact Meeting.awaits_of_posts ordered listens.inside found receives posts

/-- What waits in an inbox waits at the same place after any number of lines. -/
private theorem awaits_of_runLines {ahead : List Envelope} (ordered : meeting.Ordered base)
    (awaits : meeting.Awaits recipient posting ahead)
    (inside : meeting.session? sender = some session) (here : meeting.host = state.host)
    (ran : Console.runLines session last lines state = some result) :
    (meeting.record result.host (Console.notedAll session lines state)).Ordered base ∧
      (meeting.record result.host (Console.notedAll session lines state)).Awaits recipient posting
        ahead := by
  obtain ⟨turns, speak, taken⟩ := turns_of_runLines inside here ran
  have none := countP_takes_of_speaks speak recipient
  have allowed := replay?_restrict (fun meeting turn member =>
    tolerant_attended recipient meeting turn (.inl (speak turn member))) taken
  have replayed := awaits.replay ordered allowed (none ▸ Nat.zero_le _)
  rwa [none, List.drop_zero] at replayed

section Due

variable (due : station.Due event host line)
include due

/-- The lines before one that is due are executed, and then that one. -/
private theorem react_of_due :
    Console.react station.session event ⟨.running station.line, station.screen, host⟩ =
      Console.runLines station.session due.rest (line :: due.later)
        ⟨.running [], due.screen, due.here⟩ := by
  have ran : Console.runLines station.session due.rest (due.earlier ++ line :: due.later)
      ⟨.running station.line, station.screen, host⟩ =
        Console.runLines station.session due.rest (line :: due.later)
          ⟨.running [], due.screen, due.here⟩ := by
    rw [Console.runLines_append, due.executed, Option.bind_some]
  rw [← ran]
  have completed := due.completed
  cases event with
  | typed bytes =>
    simp only [Console.completed] at completed
    simp only [Console.react, completed]
  | inputEnd =>
    simp only [Console.completed] at completed
    obtain ⟨cut, rest⟩ := Prod.mk.inj completed
    split_ifs at cut with blank
    · simp at cut
    · simp only [Console.react, if_neg blank, ← rest, cut]
  | _ => simp [Console.completed] at completed

private theorem finds?_of_due : chat.finds? id event = some chat.meeting.host := by
  cases event with
  | notified envelope => exact absurd due.completed (by simp [Console.completed])
  | _ => rfl

private theorem logged_of_due :
    Console.logged station.session event station.line station.screen host =
      Console.notedAll station.session due.earlier
          ⟨.running station.line, station.screen, host⟩ ++
        Console.notedAll station.session (line :: due.later)
          ⟨.running [], due.screen, due.here⟩ := by
  have lines : (Console.completed station.line event).1 = due.earlier ++ line :: due.later :=
    congrArg Prod.fst due.completed
  rw [← Console.notedAll_append due.executed, ← lines]
  cases event with
  | notified envelope => exact absurd due.completed (by simp [Console.completed])
  | _ => rfl

end Due

/-- What a line tells that is due waits behind all that is in the inbox then, and the lines after it
change nothing about that. -/
private theorem awaits_of_due (start : chat.meeting.Ordered base)
    (seated : chat.station? sender = some station)
    (due : station.Due event chat.meeting.host line)
    (listens : Meeting.Listens { chat.meeting with host := due.here } recipient theirs)
    (together : theirs.room.store = station.session.room.store)
    (free : ∃ slot ∈ (due.here.memory station.session.room.store).mailbox.slots, slot.isFree = true)
    (parsed : Command.parse (Console.lineText line) = .ok (.tell recipient text))
    (some : text.toList ≠ []) (fits : (Text.utf8 text).length ≤ maxMessageBytes) :
    station.session.me = sender ∧ ∃ slot after sent,
      chat.step (.event sender event) = Option.some sent ∧
      Console.react station.session event
          ⟨.running station.line, station.screen, chat.meeting.host⟩ =
        Console.runLines station.session due.rest due.later
          (Console.conclude [] due.screen (⟨[], .goOn⟩, after)) ∧
      Meeting.queue { chat.meeting with host := after } recipient =
        Meeting.queue { chat.meeting with host := due.here } recipient ++
          [⟨sender, .messageReady slot⟩] ∧
      sent.meeting.Ordered base ∧
      sent.meeting.Awaits recipient (station.session.posting recipient (Text.utf8 text) slot)
        (Meeting.queue { chat.meeting with host := due.here } recipient) := by
  obtain ⟨inside, -⟩ := station?_eq_some seated
  -- the lines before
  obtain ⟨turns, speak, before⟩ := turns_of_runLines inside rfl due.executed
  have ordered := ordered_of_speech start speak before
  -- the line itself
  obtain ⟨own, slot, after, executed, announced, orderedToo, awaits⟩ :=
    awaits_of_line ordered inside ⟨listens.inside, listens.inbox⟩ together free parsed some fits
  have accepted : Console.executeLine station.session line due.here =
    Option.some (⟨[], .goOn⟩, after) := executed
  -- the lines after it
  have here : after = (Console.conclude [] due.screen (⟨[], .goOn⟩, after)).host :=
    (Console.conclude_host [] due.screen (⟨[], .goOn⟩, after)).symm
  obtain ⟨state, ran⟩ : ∃ state, Console.runLines station.session due.rest due.later
      (Console.conclude [] due.screen (⟨[], .goOn⟩, after)) = Option.some state :=
    exists_runLines orderedToo inside here
  obtain ⟨orderedThen, awaitsThen⟩ := awaits_of_runLines orderedToo awaits inside here ran
  have reacts : Console.react station.session event
      ⟨.running station.line, station.screen, chat.meeting.host⟩ =
        Console.runLines station.session due.rest due.later
          (Console.conclude [] due.screen (⟨[], .goOn⟩, after)) := by
    rw [react_of_due due, Console.runLines, accepted]
    rfl
  have stepped := step_event_eq_some.mpr
    ⟨station, _, state, seated, finds?_of_due due, reacts.trans ran, rfl⟩
  refine ⟨own, slot, after, _, stepped, reacts, announced, ?_⟩
  rw [settle_meeting, logged_of_due due, Console.notedAll, accepted, Option.elim_some,
    ← Meeting.record_record, ← Meeting.record_record]
  exact ⟨orderedThen, awaitsThen⟩

/-! ### At the console of the recipient -/

/-- A console shows the message whose notification is the next one in the inbox. -/
private theorem writes_of_awaits (awaits : chat.meeting.Awaits id posting [])
    (ordered : chat.meeting.Ordered base) (seated : chat.station? id = some station)
    (written : posting.message.text = Text.utf8 text) :
    ∃ final, chat.Writes id (.notified ⟨posting.message.sender, .messageReady posting.slot⟩)
      [incoming posting.message.sender text] final := by
  obtain ⟨member, session, later, after, found, inside, receives, queued, handled⟩ :=
    awaits.head ordered
  have own : session = station.session :=
    Option.some.inj ((Meeting.session?_of_inside found inside).symm.trans (station?_eq_some seated).1)
  have first : chat.next? id = some (⟨posting.message.sender, .messageReady posting.slot⟩,
      { chat.meeting.host with carrier := chat.meeting.host.carrier.keep member.channel later }) := by
    simp only [next?, found, Option.bind_some, receives, Exchange.receive_of_queue queued]
  have shown : Console.handleEnvelope station.session
      ⟨posting.message.sender, .messageReady posting.slot⟩ { chat.meeting.host with
        carrier := chat.meeting.host.carrier.keep member.channel later } =
          some (⟨[incoming posting.message.sender text], .goOn⟩, after) := by
    rw [← own, Console.handleEnvelope, handled, ← render_of_text written]
    rfl
  have reacts (screen : Screen) :
      Console.react station.session (.notified ⟨posting.message.sender, .messageReady posting.slot⟩)
        ⟨.running station.line, screen, { chat.meeting.host with
          carrier := chat.meeting.host.carrier.keep member.channel later }⟩ =
        some (Console.conclude station.line screen
          (⟨[incoming posting.message.sender text], .goOn⟩, after)) := by
    simp only [Console.react, shown, Option.map_some]
  have finds := finds?_notified.mpr first
  refine ⟨_, step_event_eq_some.mpr ⟨_, _, _, seated, finds, reacts _, rfl⟩, _, _, seated, finds, ?_⟩
  rw [reacts, settle_meeting, Console.conclude_host]
  rfl

/-! ### From one to the other -/

/-- Whatever is typed at one console as a message to somebody who can be reached, in one chunk or in
several and among other lines, is shown at the other console as it was typed, in a line of its own. -/
theorem console_to_console {stores : Directory Store} {locks : Directory Nat} {acts : List Act}
    (nameless : (Meeting.start stores locks).host.Nameless)
    (run : replay? (restrict honest step) (start stores locks) acts = some chat)
    (seated : chat.station? sender = some station)
    (due : station.Due event chat.meeting.host line)
    (listens : Meeting.Listens { chat.meeting with host := due.here } recipient theirs)
    (together : theirs.room.store = station.session.room.store)
    (free : ∃ slot ∈ (due.here.memory station.session.room.store).mailbox.slots, slot.isFree = true)
    (parsed : Command.parse (Console.lineText line) = .ok (.tell recipient text))
    (fits : (Text.utf8 text).length ≤ maxMessageBytes) :
    '\n' ∉ text.toList ∧ (incoming sender text).toList.count '\n' = 1 ∧
      ∃ slot sent, chat.Delivers sender recipient station event due text slot sent := by
  have unended := unended_of_replay (replay?_of_restrict run)
  obtain ⟨inside, desk⟩ := station?_eq_some seated
  have typed : Console.IsLine line := Console.isLine_of_completed (unended _ _ _ desk rfl) (by
    rw [due.completed]
    exact List.mem_append_right _ (List.mem_cons_self ..))
  obtain ⟨some, within⟩ := Console.text_of_line typed parsed
  obtain ⟨turns, taken, -⟩ := turns_of_replay tolerant_honest run
  have start : chat.meeting.Ordered stores.objects.size := Meeting.ordered_of_replay nameless taken
  obtain ⟨rfl, slot, after, sent, stepped, accepted, announced, ordered, awaits⟩ :=
    awaits_of_due start seated due listens together free parsed some fits
  refine ⟨within, count_lineFeed_incoming _ within, slot, sent, stepped, ⟨after, accepted, announced⟩,
    fun acts later rest count => ?_⟩
  obtain ⟨turns, takenToo, counts⟩ := turns_of_replay (tolerant_attended recipient) rest
  rw [← counts] at count
  obtain ⟨orderedThen, next⟩ := awaits.replay ordered takenToo (Nat.le_of_eq count)
  rw [count, List.drop_length] at next
  refine ⟨?_, fun own waits => writes_of_awaits next orderedThen waits rfl⟩
  obtain ⟨behind, queued⟩ := next.queued
  rw [← queued]
  rfl

/-- anna and bert sit at consoles, and bert has told anna something and begun another line. -/
def seating : List Act :=
  arrival.map Act.turn ++ [.start anna .empty, .start bert .empty,
    .event bert (.typed (Text.utf8 "/tell 41 one\n/m"))]

/-- A line to anna with characters of several bytes, a byte that is none, and white space at its
end. -/
def greeting : List UInt8 :=
  Text.utf8 "  /tell +41  né😀" ++ [0xff, 0x20, 13, 10]

/-- The end of the line that bert has begun, the line to anna, another one, and the start of one. -/
def chunk : Console.Event :=
  .typed (Text.utf8 "e\n" ++ greeting ++ Text.utf8 "/say two\n/s")

/-- anna's console handles the first message, bert ends the line, and anna begins one. -/
def meanwhile : List Act :=
  [.event anna (.notified ⟨bert, .messageReady 0⟩), .event bert (.typed (Text.utf8 "ay three\n")),
    .event anna (.typed (Text.utf8 "/sa"))]

/-- Before bert's line to anna, the one that bert has begun is executed. -/
def dueGreeting {station : Station} {host : Host Exchange} (line : station.line = Text.utf8 "/m")
    (whole : station.screen.writesLeft = none) : station.Due chunk host greeting where
  earlier := [Text.utf8 "/me\n"]
  later := [Text.utf8 "/say two\n"]
  rest := Text.utf8 "/s"
  completed := by
    rw [line]
    decide +kernel
  screen := ⟨station.screen.shown ++ s!"PID: {station.session.me}\n" ++ Console.prompt, none⟩
  here := host
  executed := by
    have asks : Command.parse (Console.lineText (Text.utf8 "/me\n")) = .ok .me := by
      decide +kernel
    simp only [Console.runLines, Console.executeLine, asks, Console.execute, bind, Option.bind_some]
    rw [Console.conclude_of_whole whole]
    rfl

theorem console_to_console_among_others :
    ∃ chat station, ∃ due : station.Due chunk chat.meeting.host greeting, ∃ slot sent later final,
      replay? (restrict honest step) (start .empty .empty) seating = some chat ∧
      chat.station? bert = some station ∧
      Command.parse (Console.lineText greeting) = .ok (.tell anna "né😀\ufffd ") ∧
      chat.Delivers bert anna station chunk due "né😀\ufffd " slot sent ∧
      replay? (restrict (allows (Meeting.attended anna)) step) sent meanwhile = some later ∧
      later.Writes anna (.notified ⟨bert, .messageReady slot⟩) ["\r42: né😀\ufffd \n"] final ∧
      (final.station? anna).map (·.screen.shown) =
        some "> \r42: one\n> \r42: né😀\ufffd \n> " := by
  have seats : (replay? (restrict honest step) (start .empty .empty) seating).map (fun chat =>
      ((chat.station? bert).map fun station =>
          (station.session.room.store, station.line, station.screen.writesLeft),
        (chat.meeting.session? anna).map (·.room.store),
        decide (∃ slot ∈ (chat.meeting.host.memory 0).mailbox.slots, slot.isFree = true))) =
          some (some (0, Text.utf8 "/m", none), some 0, true) := by
    decide +kernel
  have inboxes : (replay? (restrict honest step) (start .empty .empty) seating).map (fun chat =>
      ((chat.meeting.members.find? anna).map fun member => (member.receives, member.channel),
        chat.meeting.host.carrier.target? anna, (chat.meeting.queue anna).length)) =
          some (some (true, 0), some 0, 1) := by
    decide +kernel
  have rest : ((replay? (restrict honest step) (start .empty .empty) seating).bind fun chat =>
      (chat.step (.event bert chunk)).bind fun sent =>
        replay? (restrict (allows (Meeting.attended anna)) step) sent meanwhile).map (fun later =>
          (later.station? anna).map (·.screen)) = some (some ⟨"> \r42: one\n> ", none⟩) := by
    decide +kernel
  have parsed : Command.parse (Console.lineText greeting) = .ok (.tell anna "né😀\ufffd ") := by
    decide +kernel
  have line : incoming bert "né😀\ufffd " = "\r42: né😀\ufffd \n" := by
    decide +kernel
  have nameless : (Meeting.start .empty .empty).host.Nameless := ⟨fun _ => rfl, fun _ => rfl⟩
  obtain ⟨chat, run, seats⟩ := Option.map_eq_some_iff.mp seats
  rw [run] at inboxes rest
  simp only [Prod.mk.injEq] at seats
  obtain ⟨bertsSeat, annasSeat, free⟩ := seats
  obtain ⟨station, seated, begun⟩ := Option.map_eq_some_iff.mp bertsSeat
  simp only [Prod.mk.injEq] at begun
  obtain ⟨here, begun, whole⟩ := begun
  obtain ⟨theirs, inside, there⟩ := Option.map_eq_some_iff.mp annasSeat
  simp only [Option.map_some, Option.some.injEq, Prod.mk.injEq] at inboxes
  obtain ⟨inbox, reached, length⟩ := inboxes
  obtain ⟨member, found, inbox⟩ := Option.map_eq_some_iff.mp inbox
  obtain ⟨receives, channel⟩ := Prod.mk.inj inbox
  have listens : chat.meeting.Listens anna theirs :=
    ⟨inside, member, found, receives, by rw [reached, channel]⟩
  obtain ⟨-, -, slot, sent, delivers⟩ := console_to_console nameless run seated
    (dueGreeting begun whole) listens (there.trans here.symm) (here ▸ of_decide_eq_true free) parsed
      (by decide +kernel)
  rw [Option.bind_some, delivers.taken, Option.bind_some] at rest
  obtain ⟨later, rest, pending⟩ := Option.map_eq_some_iff.mp rest
  obtain ⟨own, waits, screen⟩ := Option.map_eq_some_iff.mp pending
  have taken : meanwhile.countP (·.takes anna) = (chat.meeting.queue anna).length := by
    rw [length]
    decide +kernel
  obtain ⟨-, shown⟩ := delivers.shown meanwhile later rest taken
  obtain ⟨final, writes⟩ := shown own waits
  rw [line] at writes
  refine ⟨chat, station, _, slot, sent, later, final, run, seated, parsed, delivers, rest, writes,
    ?_⟩
  have after : ["\r42: né😀\ufffd \n"].foldl (· ++ ·) "> \r42: one\n> " ++ Console.prompt =
      "> \r42: one\n> \r42: né😀\ufffd \n> " := by
    decide +kernel
  rw [writes.shown waits (by rw [screen]), screen]
  exact congrArg some after

end Chat

end HostChat
