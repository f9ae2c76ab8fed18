import HostChat.Proofs.Console.Moments
import HostChat.Proofs.Session.Working

/-! # What a moment can do

In a room that works, every moment of a console comes to an end. A line exits, fails or does something.
If it fails, it is reported and nothing else has changed. Whatever a moment writes may fail to be
written, and then the console ends with that.
-/

namespace HostChat

private theorem Screen.writeAll_eq_some {screen after : Screen} {texts : List String} {fault : Fault}
    (failed : screen.writeAll texts = (some fault, after)) :
    ∃ text ∈ texts, after.write text = .error fault := by
  induction texts generalizing screen with
  | nil => cases failed
  | cons text rest ih =>
    simp only [writeAll] at failed
    cases written : screen.write text with
    | ok next =>
      rw [written] at failed
      obtain ⟨later, member, refused⟩ := ih failed
      exact ⟨later, List.mem_cons_of_mem _ member, refused⟩
    | error problem =>
      rw [written] at failed
      cases failed
      exact ⟨text, List.mem_cons_self .., written⟩

namespace Console

variable {σ : Type}

/-- What an error that is reported begins with. -/
def errorMark : String := "error: "

/-- The help that goes with a reported error. -/
def hint : ChatError → List String
  | .usage _ => [Command.summary]
  | _ => []

private theorem unmarked_summary : ¬errorMark.toList <+: Command.summary.toList := by decide +kernel

private theorem report_of_isRecoverable {error : ChatError}
    (recoverable : error.isRecoverable = true) :
    report error = ⟨(errorMark ++ error.message ++ "\n") :: hint error, .goOn⟩ := by
  cases error <;> first | rfl | cases recoverable

section Writing

variable {line : List UInt8} {screen : Screen} {state : State σ} {result : Except ChatError Unit}

/-- A console that ends while it writes its prompt has failed to write it. -/
theorem await_ended {host : Host σ} (ended : (await line screen host).phase = .ended result) :
    ∃ fault text, result = .error (.output fault) ∧
      (await line screen host).screen.write text = .error fault := by
  simp only [await] at ended ⊢
  cases written : screen.write prompt with
  | ok next =>
    rw [written] at ended
    cases ended
  | error fault =>
    rw [written] at ended
    cases ended
    exact ⟨fault, prompt, rfl, written⟩

/-- A console ends with a reaction because it cannot write all of it, or because the reaction says
so. -/
private theorem conclude_ended {reaction : Reaction} {host : Host σ}
    (ended : (conclude line screen (reaction, host)).phase = .ended result) :
    (∃ fault text, result = .error (.output fault) ∧
        (conclude line screen (reaction, host)).screen.write text = .error fault) ∨
      reaction.flow = .exit ∧ result = .ok () ∨
      ∃ error, reaction.flow = .fail error ∧ result = .error error := by
  obtain ⟨texts, flow⟩ := reaction
  simp only [conclude] at ended ⊢
  rcases written : screen.writeAll texts with ⟨_ | fault, after⟩
  · rw [written] at ended
    cases flow with
    | goOn => exact .inl (await_ended ended)
    | exit =>
      cases ended
      exact .inr (.inl ⟨rfl, rfl⟩)
    | fail error =>
      cases ended
      exact .inr (.inr ⟨error, rfl, rfl⟩)
  · rw [written] at ended
    cases ended
    obtain ⟨text, -, refused⟩ := Screen.writeAll_eq_some written
    exact .inl ⟨fault, text, rfl, refused⟩

end Writing

variable [Carrier σ] {session : Session} {raw : List UInt8} {host after : Host σ}

/-- Why a line fails, if it does. -/
def failure? (session : Session) (raw : List UInt8) (host : Host σ) : Option ChatError :=
  match Command.parse (lineText raw) with
  | .error problem => some (.ofCommand problem)
  | .ok (.tell target text) =>
      match session.tell target text host with
      | some (.error error, _) => some error
      | _ => none
  | .ok (.say text) =>
      match session.say text host with
      | some (.error error, _) => some error
      | _ => none
  | .ok _ => none

/-- What a line does in a room that works. -/
inductive Executes (session : Session) (raw : List UInt8) (host : Host σ) : Reaction → Host σ → Prop
  | exits (parsed : Command.parse (lineText raw) = .ok .exit) :
      Executes session raw host ⟨[], .exit⟩ host
  /-- The line fails, which is reported and all that happens. -/
  | reports (error : ChatError) (failed : failure? session raw host = some error)
      (recoverable : error.isRecoverable = true) :
      Executes session raw host ⟨(errorMark ++ error.message ++ "\n") :: hint error, .goOn⟩ host
  | performs (texts : List String) (after : Host σ) (succeeded : failure? session raw host = none)
      (unmarked : ∀ text ∈ texts, ¬errorMark.toList <+: text.toList) :
      Executes session raw host ⟨texts, .goOn⟩ after

private theorem executes_command {command : Command} (works : session.room.Working host)
    (parsed : Command.parse (lineText raw) = .ok command) :
    ∃ reaction after, execute session command host = some (reaction, after) ∧
      Executes session raw host reaction after ∧ session.room.Working after := by
  cases command with
  | me =>
    refine ⟨_, _, rfl, .performs _ _ ?_ ?_, works⟩
    · simp only [failure?, parsed]
    · simp [errorMark, toString]
  | tell target text =>
    obtain ⟨⟨result, after⟩, outcome⟩ := Session.exists_tell works.unlocked target text
    have works' : session.room.Working after := by
      have next := works.after (.tell session target text)
      rwa [Host.after, outcome] at next
    cases result with
    | ok slot =>
      refine ⟨_, _, by rw [execute, outcome]; rfl, .performs [] after ?_ nofun, works'⟩
      simp only [failure?, parsed, outcome]
    | error error =>
      obtain ⟨rfl, recoverable⟩ := Session.eq_of_tell_error works outcome
      refine ⟨_, _, by rw [execute, outcome]; rfl, ?_, works⟩
      rw [report_of_isRecoverable recoverable]
      refine .reports error ?_ recoverable
      simp only [failure?, parsed, outcome]
  | say text =>
    obtain ⟨⟨result, after⟩, outcome⟩ := Session.exists_say works.unlocked text
    have works' : session.room.Working after := by
      have next := works.after (.say session text)
      rwa [Host.after, outcome] at next
    cases result with
    | ok broadcast =>
      refine ⟨_, _, by rw [execute, outcome]; rfl, .performs _ after ?_ ?_, works'⟩
      · simp only [failure?, parsed, outcome]
      · intro text member
        obtain ⟨⟨recipient, error⟩, -, rfl⟩ := List.mem_map.mp member
        simp [errorMark, toString]
    | error error =>
      obtain ⟨rfl, recoverable⟩ := Session.eq_of_say_error outcome
      refine ⟨_, _, by rw [execute, outcome]; rfl, ?_, works⟩
      rw [report_of_isRecoverable recoverable]
      refine .reports error ?_ recoverable
      simp only [failure?, parsed, outcome]
  | help =>
    refine ⟨_, _, rfl, .performs _ _ ?_ ?_, works⟩
    · simp only [failure?, parsed]
    · intro text member
      rw [List.mem_singleton.mp member]
      exact unmarked_summary
  | exit => exact ⟨_, _, rfl, .exits parsed, works⟩

theorem executes_line (works : session.room.Working host) (raw : List UInt8) :
    ∃ reaction after, executeLine session raw host = some (reaction, after) ∧
      Executes session raw host reaction after ∧ session.room.Working after := by
  cases parsed : Command.parse (lineText raw) with
  | ok command =>
    simp only [executeLine, parsed]
    exact executes_command works parsed
  | error problem =>
    simp only [executeLine, parsed]
    refine ⟨_, _, rfl, ?_, works⟩
    rw [report_of_isRecoverable rfl]
    refine .reports (.ofCommand problem) ?_ rfl
    simp only [failure?, parsed]

/-- What dealing with a moment makes of a console that runs. -/
inductive Dealt (session : Session) (state : State σ) : Moment σ → State σ → Prop
  | line (raw : List UInt8) (reaction : Reaction) (after : Host σ)
      (executes : Executes session raw state.host reaction after) :
      Dealt session state (.line raw) (conclude [] state.screen (reaction, after))
  | notified (envelope : Envelope) (line : List UInt8) (texts : List String) (after : Host σ)
      (handled : handleEnvelope session envelope state.host = some (⟨texts, .goOn⟩, after)) :
      Dealt session state (.notified envelope) (conclude line state.screen (⟨texts, .goOn⟩, after))
  | meanwhile (change : Host σ → Host σ) :
      Dealt session state (.meanwhile change) { state with host := change state.host }
  | stop (error : ChatError) :
      Dealt session state (.stop error) { state with phase := .ended (.error error) }

/-- Why a console has ended with a moment. -/
inductive Closes (after : State σ) : Moment σ → Except ChatError Unit → Prop
  | exit (raw : List UInt8) (parsed : Command.parse (lineText raw) = .ok .exit) :
      Closes after (.line raw) (.ok ())
  | output (moment : Moment σ) (fault : Fault) (text : String)
      (failed : after.screen.write text = .error fault) :
      Closes after moment (.error (.output fault))
  | stop (error : ChatError) : Closes after (.stop error) (.error error)

/-- What others do at the moment, if they do anything, leaves the room at work. -/
def Moment.Gentle (session : Session) : Moment σ → Prop
  | .meanwhile change => ∀ host, session.room.Working host → session.room.Working (change host)
  | _ => True

def Occasion.Gentle (session : Session) : Occasion σ → Prop
  | .meanwhile change => ∀ host, session.room.Working host → session.room.Working (change host)
  | _ => True

variable {state next start reached : State σ} {moment : Moment σ} {moments : List (Moment σ)}
  {result : Except ChatError Unit}

omit [Carrier σ] in
theorem gentle_moments {occasions : List (Occasion σ)}
    (gentle : ∀ occasion ∈ occasions, occasion.Gentle session) (line : List UInt8) :
    ∀ moment ∈ Console.moments line occasions, moment.Gentle session := by
  induction occasions generalizing line with
  | nil => nofun
  | cons occasion rest ih =>
    have first := gentle occasion (List.mem_cons_self ..)
    have later := ih (fun other member => gentle other (List.mem_cons_of_mem _ member))
      (sortOut line occasion).2
    intro moment member
    rcases List.mem_append.mp member with own | other
    · rcases occasion with ⟨bytes | _ | _ | envelope | _⟩ | change
      · obtain ⟨raw, -, rfl⟩ := List.mem_map.mp own
        trivial
      · rw [List.mem_singleton.mp own]
        split_ifs <;> trivial
      · rw [List.mem_singleton.mp own]
        trivial
      · rw [List.mem_singleton.mp own]
        trivial
      · rw [List.mem_singleton.mp own]
        trivial
      · rw [List.mem_singleton.mp own]
        exact first
    · exact later moment other

omit [Carrier σ] in
theorem exists_of_isRunning (runs : state.isRunning = true) :
    ∃ line, state = ⟨.running line, state.screen, state.host⟩ := by
  rcases state with ⟨line | _, screen, host⟩
  · exact ⟨line, rfl⟩
  · cases runs

private theorem deal_of_working (works : session.room.Working state.host)
    (runs : state.isRunning = true) (gentle : moment.Gentle session) :
    ∃ next, deal session state moment = some next ∧ Dealt session state moment next ∧
      session.room.Working next.host := by
  obtain ⟨line, shape⟩ := exists_of_isRunning runs
  generalize state.screen = screen at shape
  generalize state.host = host at shape works
  subst shape
  cases moment with
  | line raw =>
    obtain ⟨reaction, after, executed, executes, works⟩ := executes_line works raw
    refine ⟨_, by simp only [deal, executed, Option.map_some], .line raw reaction after executes, ?_⟩
    rwa [conclude_host]
  | notified envelope =>
    obtain ⟨⟨message, after⟩, outcome⟩ := Session.exists_handle works.unlocked envelope
    have handled : handleEnvelope session envelope host =
        some (⟨message.toList.map fun message => s!"\r{message.render}\n", .goOn⟩, after) := by
      rw [handleEnvelope, outcome]
      rfl
    have next := works.after (.handle session envelope)
    rw [Host.after, outcome] at next
    refine ⟨_, by simp only [deal, handled, Option.map_some], .notified envelope line _ after handled, ?_⟩
    rwa [conclude_host]
  | meanwhile change => exact ⟨_, rfl, .meanwhile change, gentle host works⟩
  | stop error => exact ⟨_, rfl, .stop error, works⟩

/-- A console ends by a line that exits, by an occasion that stops it, or because it cannot write. -/
theorem Dealt.closes (dealt : Dealt session state moment next) (runs : state.isRunning = true)
    (ended : next.phase = .ended result) : Closes next moment result := by
  cases dealt with
  | line raw reaction after executes =>
    rcases conclude_ended ended with ⟨fault, text, rfl, failed⟩ | ⟨flow, rfl⟩ | ⟨error, flow, -⟩
    · exact .output _ fault text failed
    · cases executes with
      | exits parsed => exact .exit raw parsed
      | reports => cases flow
      | performs => cases flow
    · cases executes <;> cases flow
  | notified envelope line texts after handled =>
    rcases conclude_ended ended with ⟨fault, text, rfl, failed⟩ | ⟨flow, -⟩ | ⟨error, flow, -⟩
    · exact .output _ fault text failed
    · cases flow
    · cases flow
  | meanwhile change =>
    rw [State.isRunning, show state.phase = .ended result from ended] at runs
    cases runs
  | stop error =>
    cases ended
    exact .stop error

/-- Nothing keeps a console waiting in a room that works. -/
theorem exists_replay_deal (works : session.room.Working state.host)
    (gentle : ∀ moment ∈ moments, moment.Gentle session) :
    ∃ reached, replay? (deal session) state moments = some reached ∧
      session.room.Working reached.host := by
  induction moments generalizing state with
  | nil => exact ⟨state, rfl, works⟩
  | cons moment rest ih =>
    cases runs : state.isRunning with
    | false => exact ⟨state, replay?_deal_of_not_isRunning runs _, works⟩
    | true =>
      obtain ⟨next, dealt, -, works⟩ :=
        deal_of_working works runs (gentle moment (List.mem_cons_self ..))
      obtain ⟨reached, replayed, works⟩ :=
        ih works fun later member => gentle later (List.mem_cons_of_mem _ member)
      refine ⟨reached, ?_, works⟩
      rw [replay?_cons, dealt]
      exact replayed

theorem working_of_dealRunning (works : session.room.Working start.host)
    (gentle : ∀ moment ∈ moments, moment.Gentle session)
    (dealt : replay? (dealRunning session) start moments = some reached) :
    session.room.Working reached.host := by
  induction moments generalizing start with
  | nil =>
    cases dealt
    exact works
  | cons moment rest ih =>
    obtain ⟨next, stepped, dealt⟩ := Option.bind_eq_some_iff.mp dealt
    obtain ⟨runs, stepped⟩ := restrict_eq_some_iff.mp stepped
    obtain ⟨_, same, -, works⟩ := deal_of_working works runs (gentle moment (List.mem_cons_self ..))
    cases stepped.symm.trans same
    exact ih works (fun later member => gentle later (List.mem_cons_of_mem _ member)) dealt

/-- What has become of each moment of a run. -/
theorem dealt_of_split (works : session.room.Working start.host) {front back : List (Moment σ)}
    (gentle : ∀ earlier ∈ front ++ moment :: back, earlier.Gentle session)
    (dealt : replay? (dealRunning session) start (front ++ moment :: back) = some reached) :
    ∃ before after, replay? (dealRunning session) start front = some before ∧
      before.isRunning = true ∧ Dealt session before moment after ∧
      replay? (dealRunning session) after back = some reached := by
  obtain ⟨before, first, rest⟩ := replay?_append_eq_some_iff.mp dealt
  obtain ⟨after, stepped, rest⟩ := Option.bind_eq_some_iff.mp rest
  obtain ⟨runs, stepped⟩ := restrict_eq_some_iff.mp stepped
  have works := working_of_dealRunning works
    (fun earlier member => gentle earlier (List.mem_append_left _ member)) first
  obtain ⟨_, same, dealt, -⟩ := deal_of_working works runs
    (gentle moment (List.mem_append_right _ (List.mem_cons_self ..)))
  cases stepped.symm.trans same
  exact ⟨before, after, first, runs, dealt, rest⟩

/-- A run over occasions comes to an end in a room that works. -/
theorem exists_replay_attend {line : List UInt8} {occasions : List (Occasion σ)}
    (works : session.room.Working state.host) (kept : state.keeping line = state)
    (gentle : ∀ occasion ∈ occasions, occasion.Gentle session) :
    ∃ next, replay? (attend session) state occasions = some next ∧
      session.room.Working next.host := by
  obtain ⟨reached, replayed, works⟩ := exists_replay_deal works (gentle_moments gentle line)
  refine ⟨_, by rw [replay?_attend session kept, replayed, Option.map_some], ?_⟩
  rwa [State.keeping_host]

/-- The moment that has ended a console is the last one. -/
theorem closes_of_ended (works : session.room.Working start.host)
    (gentle : ∀ moment ∈ moments, moment.Gentle session) (runs : start.isRunning = true)
    (dealt : replay? (dealRunning session) start moments = some reached)
    (ended : reached.phase = .ended result) :
    ∃ front moment, moments = front ++ [moment] ∧ Closes reached moment result := by
  rcases List.eq_nil_or_concat moments with rfl | ⟨front, moment, rfl⟩
  · cases dealt
    rw [State.isRunning, ended] at runs
    cases runs
  · rw [List.concat_eq_append] at gentle dealt ⊢
    obtain ⟨before, after, -, running, last, rest⟩ := dealt_of_split works gentle dealt
    cases rest
    exact ⟨front, moment, rfl, last.closes running ended⟩

/-- A console has ended well just if the last moment it dealt with was an exit. -/
theorem Deals.ok_iff_exit {screen : Screen} {done : List (Moment σ)}
    (deals : Deals session (await [] screen host) moments done reached)
    (works : session.room.Working host) (gentle : ∀ moment ∈ moments, moment.Gentle session)
    (ended : reached.phase = .ended result) :
    result = .ok () ↔ ∃ raw, done.getLast? = some (.line raw) ∧
      Command.parse (lineText raw) = .ok .exit := by
  constructor
  · rintro rfl
    cases runs : (await [] screen host).isRunning with
    | true =>
      have works : session.room.Working (await [] screen host).host := by rwa [await_host]
      obtain ⟨front, moment, rfl, closes⟩ := closes_of_ended works
        (fun moment member => gentle moment (deals.first.subset member)) runs deals.dealt ended
      cases closes with
      | exit raw parsed => exact ⟨raw, List.getLast?_concat, parsed⟩
    | false =>
      -- the first prompt could not be written
      have still : done = [] := by
        cases done with
        | nil => rfl
        | cons moment rest =>
          obtain ⟨_, refused, -⟩ := Option.bind_eq_some_iff.mp deals.dealt
          cases runs.symm.trans (restrict_eq_some_iff.mp refused).1
      have dealt := deals.dealt
      rw [still] at dealt
      cases dealt
      obtain ⟨fault, text, wrong, -⟩ := await_ended ended
      cases wrong
  · rintro ⟨raw, last, parsed⟩
    obtain ⟨front, rfl⟩ := List.getLast?_eq_some_iff.mp last
    cases ended.symm.trans (deals.last_of_exit parsed).2
    rfl

/-- A console that ends with an error cannot write, or is stopped. -/
theorem stops_of_attend {line : List UInt8} {occasions : List (Occasion σ)} {error : ChatError}
    (works : session.room.Working state.host) (kept : state.keeping line = state)
    (runs : state.isRunning = true) (gentle : ∀ occasion ∈ occasions, occasion.Gentle session)
    (attended : replay? (attend session) state occasions = some next)
    (ended : next.phase = .ended (.error error)) :
    (∃ fault text, error = .output fault ∧ next.screen.write text = .error fault) ∨
      .stop error ∈ Console.moments line occasions := by
  rw [replay?_attend session kept] at attended
  obtain ⟨reached, replayed, rfl⟩ := Option.map_eq_some_iff.mp attended
  obtain ⟨done, deals⟩ := exists_deals replayed
  rw [State.keeping_phase_ended_iff] at ended
  have within : ∀ moment ∈ done, moment ∈ Console.moments line occasions :=
    fun moment member => deals.first.subset member
  obtain ⟨front, moment, rfl, closes⟩ := closes_of_ended works
    (fun moment member => gentle_moments gentle line moment (within moment member)) runs deals.dealt
    ended
  cases closes with
  | output moment fault text failed =>
    rw [State.keeping_screen]
    exact .inl ⟨fault, text, rfl, failed⟩
  | stop error => exact .inr (within _ (List.mem_append_right _ (List.mem_singleton_self _)))

end Console

end HostChat
