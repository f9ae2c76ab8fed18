import HostChat.Proofs.Meeting.Letters

/-! # Requests and approvals correspond

An approval says neither what it answers nor whom it is for, and whoever waits takes the first one. Yet
at most one request of a participant or approval for it is on its way, and only while it waits in the
join that the request began. So a join goes to the room that the participant it asked was inside of
when it handled that very request.
-/

namespace HostChat

namespace Phase

/-- The room that a join goes to once an approval has named it, until its session ends. -/
def destination? : Phase → Option ParticipantId
  | .approved _ room => some room
  | .attached session => some session.room.id
  | .inside session => if session.role = .joiner then some session.room.id else none
  | _ => none

private theorem destination?_ofAnswer_eq_some {ns : String} {room : ParticipantId}
    {answer : Option (Except ChatError ParticipantId)}
    (led : (ofAnswer ns answer).destination? = some room) : answer = some (.ok room) := by
  rcases answer with _ | _ | _
  · cases led
  · cases led
  · cases led
    rfl

end Phase

namespace Turn

/-- The participant begins a join. -/
def asks (id : ParticipantId) (turn : Turn) : Bool :=
  match turn.deed with
  | .request _ _ => turn.id = id
  | _ => false

private theorem exists_of_asks {id : ParticipantId} {turn : Turn} (asks : turn.asks id = true) :
    ∃ ns known, turn = ⟨id, .request ns known⟩ := by
  obtain ⟨other, deed⟩ := turn
  cases deed with
  | request ns known =>
    obtain rfl : other = id := of_decide_eq_true asks
    exact ⟨ns, known, rfl⟩
  | _ => cases asks

end Turn

namespace Meeting

variable {base : Nat} {initial meeting next : Meeting} {id known sender room : ParticipantId}
  {member changed : Member} {after : Host Exchange} {log : List Entry} {turn : Turn}
  {turns : List Turn} {ns : String}

/-- A join begins outside all rooms. -/
private theorem outside_of_asks (stepped : meeting.step turn = some next)
    (asks : turn.asks id = true) :
    meeting.phase? id = some .outside := by
  obtain ⟨ns, known, rfl⟩ := Turn.exists_of_asks asks
  simp only [step] at stepped
  cases found : meeting.members.find? id with
  | none =>
    simp only [found] at stepped
    cases stepped
  | some member =>
    simp only [found, perform] at stepped
    rw [phase?_of found]
    split at stepped
    next outside _ => rw [outside]
    next outside _ => rw [outside]
    next => cases stepped

private theorem not_asks_of_phase {phase : Phase} (stepped : meeting.step turn = some next)
    (there : meeting.phase? id = some phase) (busy : phase ≠ .outside) : turn.asks id = false := by
  rw [Bool.eq_false_iff]
  intro asks
  rw [outside_of_asks stepped asks, Option.some.injEq] at there
  exact busy there.symm

/-- In the last join that `id` has begun in a run, it has sent a request to `known`, and nothing was on
its way then about its joins. -/
def Asked (initial : Meeting) (turns : List Turn) (id : ParticipantId) (ns : String)
    (known : ParticipantId) : Prop :=
  ∃ before since asking after, turns = before ++ ⟨id, .request ns known⟩ :: since ∧
    (∀ turn ∈ since, turn.asks id = false) ∧
    replay? (restrict undisturbed step) initial before = some asking ∧
    (∀ owner, asking.letters id owner = []) ∧
    Session.requestJoin id known asking.host = .ok after

/-- `known` has handled the request of the last join that `id` has begun in a run, inside the room
`room`. -/
def Granted (initial : Meeting) (turns : List Turn) (id : ParticipantId) (ns : String)
    (known room : ParticipantId) : Prop :=
  ∃ before since handling session later, turns = before ++ ⟨known, .handle⟩ :: since ∧
    (∀ turn ∈ since, turn.asks id = false) ∧
    replay? (restrict undisturbed step) initial before = some handling ∧
    Asked initial before id ns known ∧ handling.queue known = ⟨id, .joinRequest⟩ :: later ∧
    handling.session? known = some session ∧ session.room.id = room

theorem Asked.more (asked : Asked initial turns id ns known) (still : turn.asks id = false) :
    Asked initial (turns ++ [turn]) id ns known := by
  obtain ⟨before, since, asking, after, rfl, last, rest⟩ := asked
  refine ⟨before, since ++ [turn], asking, after, ?_, ?_, rest⟩
  · rw [List.append_assoc, List.cons_append]
  · exact List.forall_mem_append.mpr ⟨last, List.forall_mem_singleton.mpr still⟩

namespace Granted

theorem more (granted : Granted initial turns id ns known room) (still : turn.asks id = false) :
    Granted initial (turns ++ [turn]) id ns known room := by
  obtain ⟨before, since, handling, session, later, rfl, last, rest⟩ := granted
  refine ⟨before, since ++ [turn], handling, session, later, ?_, ?_, rest⟩
  · rw [List.append_assoc, List.cons_append]
  · exact List.forall_mem_append.mpr ⟨last, List.forall_mem_singleton.mpr still⟩

theorem asked (granted : Granted initial turns id ns known room) : Asked initial turns id ns known := by
  obtain ⟨before, since, handling, session, later, rfl, last, -, asked, -⟩ := granted
  obtain ⟨first, middle, asking, after, rfl, none, rest⟩ := asked
  refine ⟨first, middle ++ ⟨known, .handle⟩ :: since, asking, after, ?_, ?_, rest⟩
  · rw [List.append_assoc, List.cons_append]
  · exact List.forall_mem_append.mpr ⟨none, List.forall_mem_cons.mpr ⟨rfl, last⟩⟩

end Granted

/-- Of all inboxes, only that of `owner` has letters about the joins of `id`, and it has one. -/
def Single (meeting : Meeting) (id owner : ParticipantId) (envelope : Envelope) : Prop :=
  ∀ other, meeting.letters id other = if other = owner then [envelope] else []

/-- How far the last join of a participant has come, as seen from the letters about it: there are none,
or its request is on its way to whom it asks, or the answer is on its way back. -/
inductive Stage (initial : Meeting) (turns : List Turn) (meeting : Meeting) (id : ParticipantId) : Prop
  | quiet (none : ∀ owner, meeting.letters id owner = [])
  | asked {ns : String} {known : ParticipantId} (waiting : meeting.phase? id = some (.waiting ns))
      (asked : Asked initial turns id ns known) (single : meeting.Single id known ⟨id, .joinRequest⟩)
  | answered {ns : String} {known room : ParticipantId}
      (waiting : meeting.phase? id = some (.waiting ns))
      (granted : Granted initial turns id ns known room)
      (single : meeting.Single id id ⟨known, .joinApprove room⟩)

namespace Single

variable {owner : ParticipantId} {envelope : Envelope}

/-- Where there is one letter, taking some away leaves it or nothing. -/
theorem fewer (single : meeting.Single id owner envelope)
    (letters : ∀ other, (next.letters id other).Sublist (meeting.letters id other)) :
    (∀ other, next.letters id other = []) ∨ next.Single id owner envelope := by
  have own := letters owner
  rw [single owner, if_pos rfl] at own
  have elsewhere (other : ParticipantId) (different : other ≠ owner) : next.letters id other = [] := by
    have none := letters other
    rwa [single other, if_neg different, List.sublist_nil] at none
  rcases List.sublist_singleton.mp own with none | one
  · refine .inl fun other => ?_
    by_cases same : other = owner
    · rw [same, none]
    · exact elsewhere other same
  · refine .inr fun other => ?_
    split_ifs with same
    · rw [same, one]
    · exact elsewhere other same

/-- Nothing is left once the letter is taken. -/
theorem taken {skipped later : List Envelope} (single : meeting.Single id owner envelope)
    (split : meeting.queue owner = skipped ++ envelope :: later) (other : ParticipantId) :
    (if other = owner then later.filter (Envelope.concerns id owner)
      else meeting.letters id other) = [] := by
  have own : meeting.letters id owner = [envelope] := (single owner).trans (if_pos rfl)
  split_ifs with same
  · have concerns : envelope.concerns id owner = true :=
      List.of_mem_filter (own.symm ▸ List.mem_singleton_self envelope)
    have count := congrArg List.length own
    rw [letters, split, List.filter_append, List.filter_cons_of_pos concerns] at count
    simp only [List.length_append, List.length_cons, List.length_nil] at count
    exact List.eq_nil_of_length_eq_zero (by omega)
  · rw [single, if_neg same]

/-- However many inboxes are looked into, there is one letter at most. -/
theorem length_le (single : meeting.Single id owner envelope) {owners : List ParticipantId}
    (distinct : owners.Nodup) : (owners.flatMap (meeting.letters id)).length ≤ 1 := by
  induction owners with
  | nil => exact Nat.zero_le 1
  | cons first rest ih =>
    obtain ⟨new, distinct⟩ := List.nodup_cons.mp distinct
    rw [List.flatMap_cons, single first]
    split_ifs with same
    · have none : rest.flatMap (meeting.letters id) = [] := by
        refine List.flatMap_eq_nil_iff.mpr fun other member => ?_
        rw [single other, if_neg]
        rintro rfl
        exact new (same ▸ member)
      rw [none]
      exact Nat.le_refl 1
    · exact ih distinct

end Single

namespace Stage

private theorem quiet_of_phase (stage : Stage initial turns meeting id)
    (awake : ∀ ns, meeting.phase? id ≠ some (.waiting ns)) (owner : ParticipantId) :
    meeting.letters id owner = [] := by
  cases stage with
  | quiet none => exact none owner
  | asked waiting => exact absurd waiting (awake _)
  | answered waiting => exact absurd waiting (awake _)

/-- Whose request there is has been asked last. -/
theorem asked_of_mem (stage : Stage initial turns meeting id)
    (there : ⟨id, .joinRequest⟩ ∈ meeting.queue known) :
    ∃ ns, meeting.phase? id = some (.waiting ns) ∧ Asked initial turns id ns known ∧
      meeting.Single id known ⟨id, .joinRequest⟩ := by
  have letter : ⟨id, .joinRequest⟩ ∈ meeting.letters id known :=
    List.mem_filter.mpr ⟨there, by simp [Envelope.concerns]⟩
  cases stage with
  | quiet none =>
    rw [none] at letter
    cases letter
  | @asked ns asked waiting began single =>
    rw [single known] at letter
    split_ifs at letter with same
    · subst same
      exact ⟨ns, waiting, began, single⟩
    · cases letter
  | answered waiting granted single =>
    rw [single known] at letter
    split_ifs at letter
    · cases List.mem_singleton.mp letter
    · cases letter

/-- An approval in an inbox answers the last request. -/
theorem answered_of_mem (stage : Stage initial turns meeting id)
    (there : ⟨sender, .joinApprove room⟩ ∈ meeting.queue id) :
    ∃ ns, meeting.phase? id = some (.waiting ns) ∧ Granted initial turns id ns sender room ∧
      meeting.Single id id ⟨sender, .joinApprove room⟩ := by
  have letter : ⟨sender, .joinApprove room⟩ ∈ meeting.letters id id :=
    List.mem_filter.mpr ⟨there, by simp [Envelope.concerns]⟩
  cases stage with
  | quiet none =>
    rw [none] at letter
    cases letter
  | asked waiting asked single =>
    rw [single id] at letter
    split_ifs at letter
    · cases List.mem_singleton.mp letter
    · cases letter
  | @answered ns known other waiting granted single =>
    rw [single id, if_pos rfl] at letter
    cases List.mem_singleton.mp letter
    exact ⟨ns, waiting, granted, single⟩

/-- Taking letters away and doing something else than asking. -/
theorem takes (stage : Stage initial turns meeting id)
    (still : ∀ ns, meeting.phase? id = some (.waiting ns) → turn.asks id = false)
    (letters : ∀ owner, (next.letters id owner).Sublist (meeting.letters id owner))
    (waits : ∀ ns, meeting.phase? id = some (.waiting ns) → next.phase? id = some (.waiting ns)) :
    Stage initial (turns ++ [turn]) next id := by
  cases stage with
  | quiet none => exact .quiet fun owner => List.sublist_nil.mp (none owner ▸ letters owner)
  | asked waiting asked single =>
    rcases single.fewer letters with none | single
    · exact .quiet none
    · exact .asked (waits _ waiting) (asked.more (still _ waiting)) single
  | answered waiting granted single =>
    rcases single.fewer letters with none | single
    · exact .quiet none
    · exact .answered (waits _ waiting) (granted.more (still _ waiting)) single

/-- A turn goes from one stage to another. -/
theorem step (stage : Stage initial turns meeting id)
    (ran : replay? (restrict undisturbed Meeting.step) initial turns = some meeting)
    (mails : Mails id meeting turn next)
    (still : ∀ ns, meeting.phase? id = some (.waiting ns) → turn.asks id = false) :
    Stage initial (turns ++ [turn]) next id := by
  cases mails with
  | takes letters waits => exact stage.takes still letters waits
  | @asks ns known _ after outside requested waits letters =>
    have none := stage.quiet_of_phase (by rw [outside]; nofun)
    refine .asked waits ⟨turns, [], meeting, after, rfl, nofun, ran, none, requested⟩ fun owner => ?_
    rw [letters, none, List.nil_append]
  | @answers known session later _ inside queued waits letters =>
    obtain ⟨ns, waiting, asked, single⟩ := stage.asked_of_mem (queued ▸ List.mem_cons_self)
    refine .answered (waits.trans waiting)
      ⟨turns, [], meeting, session, later, rfl, nofun, ran, asked, queued, inside, rfl⟩ fun owner => ?_
    -- the answer takes the place of the request, which was the only letter
    have split : meeting.queue known = [] ++ ⟨id, .joinRequest⟩ :: later := queued
    rw [letters, single.taken split, List.nil_append]
  | @looks ns answer queue _ waiting awaited phase letters =>
    rcases Session.awaitApproval_cases awaited with ⟨rfl, rfl⟩ | ⟨skipped, sender, room, rfl, split⟩
    · refine stage.takes still (fun owner => ?_) fun ns same => ?_
      · rw [letters]
        split_ifs
        · exact List.nil_sublist _
        · exact List.Sublist.refl _
      · cases waiting.symm.trans same
        exact phase
    · have there : ⟨sender, .joinApprove room⟩ ∈ meeting.queue id := by
        rw [split]
        exact List.mem_append_right _ List.mem_cons_self
      obtain ⟨-, -, -, single⟩ := stage.answered_of_mem there
      exact .quiet fun owner => (letters owner).trans (single.taken split owner)

end Stage

/-- The room that the last join of a participant goes to, if it has got that far. -/
def destination? (meeting : Meeting) (id : ParticipantId) : Option ParticipantId :=
  (meeting.phase? id).bind Phase.destination?

private theorem destination?_of (found : meeting.members.find? id = some member) :
    meeting.destination? id = member.phase.destination? := by
  rw [destination?, phase?_of found]
  rfl

private theorem destination?_setMember (meeting : Meeting) (id : ParticipantId) (member : Member)
    (other : ParticipantId) :
    (meeting.setMember id member).destination? other =
      if id = other then member.phase.destination? else meeting.destination? other := by
  simp only [destination?, phase?_setMember]
  split_ifs <;> rfl

/-- A participant moves, and goes nowhere else than before. -/
theorem destination_moved {other : ParticipantId} (found : meeting.members.find? other = some member)
    (keeps : changed.phase.destination? = some room → member.phase.destination? = some room)
    (led : (({ meeting with host := after, log } : Meeting).setMember other changed).destination? id =
      some room) : meeting.destination? id = some room := by
  rw [destination?_setMember] at led
  split_ifs at led with same
  · rw [← same, destination?_of found]
    exact keeps led
  · exact led

/-- Only an approval leads a join to a room. -/
theorem destination_of_moves (connected : meeting.Connected)
    (allowed : undisturbed meeting turn = true) (moves : meeting.Moves turn next)
    (led : next.destination? id = some room) :
    meeting.destination? id = some room ∨
      ∃ skipped sender later, meeting.queue id = skipped ++ ⟨sender, .joinApprove room⟩ :: later := by
  cases moves with
  | connect new =>
    rw [destination?_setMember] at led
    split_ifs at led with same
    · cases led
    · exact .inl led
  | disconnect => cases allowed
  | close => cases allowed
  | drop found => cases allowed
  | @create _ member running ns result after found outside outcome =>
    refine .inl ?_
    cases result with
    | error error => exact destination_moved found (fun wrong => by cases wrong) led
    | ok session =>
      refine destination_moved found (fun joins => ?_) led
      simp only [Phase.destination?, Session.role_of_create outcome] at joins
      cases joins
  | request found outside requested =>
    exact .inl (destination_moved found (fun wrong => by cases wrong) led)
  | @wait other member ns answer queue found waiting awaited =>
    rw [destination?_setMember] at led
    split_ifs at led with same
    · subst same
      cases Phase.destination?_ofAnswer_eq_some led
      rw [connected.inbox_eq found] at awaited
      rcases Session.awaitApproval_cases awaited with ⟨wrong, -⟩ | ⟨skipped, sender, room, found, split⟩
      · cases wrong
      · cases found
        exact .inr ⟨skipped, sender, queue, split⟩
    · exact .inl led
  | @attach _ known member ns room found approved attached =>
    refine .inl (destination_moved found (fun there => ?_) led)
    obtain ⟨store, lock, -, -, -, rfl⟩ := Room.attach_eq_ok_iff.mp attached
    rw [approved]
    exact there
  | astray found approved => exact .inl (destination_moved found (fun wrong => by cases wrong) led)
  | @register _ member session result after found attached outcome =>
    refine .inl ?_
    cases result with
    | error error => exact destination_moved found (fun wrong => by cases wrong) led
    | ok place =>
      refine destination_moved found (fun inside => ?_) led
      rw [attached]
      simp only [Phase.destination?] at inside ⊢
      split_ifs at inside
      exact inside
  | tell found inside outcome => exact .inl led
  | say found inside outcome => exact .inl led
  | handle found inside receives queued outcome => exact .inl led
  | leave found inside outcome => exact .inl (destination_moved found (fun wrong => by cases wrong) led)
  | forge sent => cases allowed
  | nothing => exact .inl led

/-- What is kept along a run. -/
structure Corresponding (base : Nat) (initial : Meeting) (turns : List Turn) (meeting : Meeting) :
    Prop where
  regular : meeting.Regular base
  connected : meeting.Connected
  stage : ∀ id, Stage initial turns meeting id
  led : ∀ id room, meeting.destination? id = some room →
    ∃ ns known, Granted initial turns id ns known room

namespace Corresponding

theorem start (stores : Directory Store) (locks : Directory Nat) :
    Corresponding stores.objects.size (Meeting.start stores locks) [] (Meeting.start stores locks) where
  regular := .start stores locks
  connected := .start stores locks
  stage _ := .quiet fun _ => rfl
  led _ _ there := by cases there

theorem step (corresponding : Corresponding base initial turns meeting)
    (ran : replay? (restrict undisturbed Meeting.step) initial turns = some meeting)
    (stepped : restrict undisturbed Meeting.step meeting turn = some next) :
    Corresponding base initial (turns ++ [turn]) next := by
  obtain ⟨allowed, stepped⟩ := restrict_eq_some_iff.mp stepped
  have moves := moves_of_step stepped
  have regular := corresponding.regular
  have connected := corresponding.connected
  refine ⟨regular.step moves, connected.step regular allowed moves, fun id => ?_, fun id room led => ?_⟩
  · refine (corresponding.stage id).step ran (mails_of_moves regular connected allowed moves id) ?_
    exact fun ns waiting => not_asks_of_phase stepped waiting nofun
  · rcases destination_of_moves connected allowed moves led with
      before | ⟨skipped, sender, later, split⟩
    · obtain ⟨ns, known, granted⟩ := corresponding.led id room before
      obtain ⟨phase, there, joins⟩ := Option.bind_eq_some_iff.mp before
      refine ⟨ns, known, granted.more (not_asks_of_phase stepped there ?_)⟩
      rintro rfl
      cases joins
    · have waiting : ⟨sender, .joinApprove room⟩ ∈ meeting.queue id := by
        rw [split]
        exact List.mem_append_right _ List.mem_cons_self
      obtain ⟨ns, waiting, granted, -⟩ := (corresponding.stage id).answered_of_mem waiting
      exact ⟨ns, sender, granted.more (not_asks_of_phase stepped waiting nofun)⟩

theorem of_replay {stores : Directory Store} {locks : Directory Nat}
    (run : replay? (restrict undisturbed Meeting.step) (Meeting.start stores locks) turns =
      some meeting) :
    Corresponding stores.objects.size (Meeting.start stores locks) turns meeting :=
  replay?_history _ (fun _ _ _ _ ran corresponding => corresponding.step ran) (.start stores locks) run

end Corresponding

/-- How the joins of a participant go together with the requests and approvals that lie in inboxes. -/
structure Corresponds (initial : Meeting) (turns : List Turn) (meeting : Meeting)
    (id : ParticipantId) : Prop where
  /-- In all inboxes together there is at most one request of the participant or approval for it. -/
  atMostOne : ∀ owners : List ParticipantId, owners.Nodup →
    (owners.flatMap (meeting.letters id)).length ≤ 1
  /-- It was sent in the join that the participant is waiting in, or is the answer to what was. -/
  current : ∀ owner envelope, envelope ∈ meeting.letters id owner →
    ∃ ns known, meeting.phase? id = some (.waiting ns) ∧ Asked initial turns id ns known ∧
      ((owner = known ∧ envelope = ⟨id, .joinRequest⟩) ∨
        ∃ room, owner = id ∧ envelope = ⟨known, .joinApprove room⟩ ∧
          Granted initial turns id ns known room)
  /-- A join that does not wait any more goes to the room of the session that has handled its request. -/
  led : ∀ room, meeting.destination? id = some room →
    ∃ ns known, Granted initial turns id ns known room
  /-- A session finds no approvals. -/
  unmet : ∀ session, meeting.session? id = some session →
    ∀ sender room, ⟨sender, .joinApprove room⟩ ∉ meeting.queue id

/-- Requests and approvals correspond as long as participants do what sessions offer and nothing
else. -/
theorem requests_and_approvals_correspond {stores : Directory Store} {locks : Directory Nat}
    {turns : List Turn} {final : Meeting}
    (run : replay? (restrict undisturbed step) (start stores locks) turns = some final)
    (id : ParticipantId) : Corresponds (start stores locks) turns final id := by
  have corresponding := Corresponding.of_replay run
  have stage := corresponding.stage id
  refine ⟨fun owners distinct => ?_, fun owner envelope letter => ?_, corresponding.led id, ?_⟩
  · cases stage with
    | quiet none =>
      rw [List.flatMap_eq_nil_iff.mpr fun owner _ => none owner]
      exact Nat.zero_le 1
    | asked waiting asked single => exact single.length_le distinct
    | answered waiting granted single => exact single.length_le distinct
  · cases stage with
    | quiet none =>
      rw [none] at letter
      cases letter
    | @asked ns known waiting asked single =>
      rw [single owner] at letter
      split_ifs at letter with same
      · exact ⟨ns, known, waiting, asked, .inl ⟨same, List.mem_singleton.mp letter⟩⟩
      · cases letter
    | @answered ns known room waiting granted single =>
      rw [single owner] at letter
      split_ifs at letter with same
      · exact ⟨ns, known, waiting, granted.asked,
          .inr ⟨room, same, List.mem_singleton.mp letter, granted⟩⟩
      · cases letter
  · intro session inside sender room there
    obtain ⟨member, found, within⟩ := session?_eq_some inside
    obtain ⟨ns, waiting, -⟩ := stage.answered_of_mem there
    rw [phase?_of found, within] at waiting
    cases waiting

/-- bert is let into a room that is gone when he gets there, and tries again with another. -/
def secondAttempt : List Turn :=
  [⟨anna, .connect⟩, ⟨bert, .connect⟩, ⟨cleo, .connect⟩, ⟨anna, .create (fun _ => true) "x"⟩,
    ⟨bert, .request "x" anna⟩, ⟨anna, .handle⟩, ⟨anna, .leave⟩, ⟨bert, .wait⟩, ⟨bert, .attach⟩,
    ⟨cleo, .create (fun _ => true) "x"⟩, ⟨anna, .request "x" cleo⟩, ⟨bert, .request "x" cleo⟩,
    ⟨cleo, .handle⟩, ⟨anna, .wait⟩, ⟨cleo, .handle⟩, ⟨bert, .wait⟩, ⟨bert, .attach⟩,
    ⟨bert, .register⟩]

theorem second_attempt_corresponds : ∃ final,
    replay? (restrict undisturbed step) (start .empty .empty) secondAttempt = some final ∧
      final.destination? anna = some cleo ∧ final.destination? bert = some cleo ∧
        Corresponds (start .empty .empty) secondAttempt final bert := by
  have facts : (replay? (restrict undisturbed step) (start .empty .empty) secondAttempt).map
      (fun final => (final.destination? anna, final.destination? bert)) =
        some (some cleo, some cleo) := by
    decide +kernel
  obtain ⟨final, run, same⟩ := Option.map_eq_some_iff.mp facts
  obtain ⟨first, second⟩ := Prod.mk.inj same
  exact ⟨final, run, first, second, requests_and_approvals_correspond run bert⟩

end Meeting

end HostChat
