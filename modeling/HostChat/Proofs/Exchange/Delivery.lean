import HostChat.Proofs.Exchange.Switch

/-! # What inboxes take and give

Notifications to somebody lead to the inbox of the latest connection of that one. Whatever is done with
an exchange, its inboxes give out what they have been brought, in that order. An inbox whose connection
is gone gets nothing more; it gives out the rest, and is then found closed.
-/

namespace HostChat

namespace Exchange

def Deed.connected? : Deed → Option ParticipantId
  | .connect id => some id
  | _ => none

/-- The ids of all connections that are made, by their numbers. -/
def owners (deeds : List Deed) : List ParticipantId :=
  deeds.filterMap Deed.connected?

/-- What cuts the inbox `number` off from the notifications to `id`, whom it was given to. -/
inductive Deed.Severs (id : ParticipantId) (number : Nat) : Deed → Prop where
  | connect : Severs id number (.connect id)
  | disconnect : Severs id number (.disconnect id)
  | close : Severs id number (.close number)
  | drop : Severs id number (.drop number)

/-- Notifications to `target` lead to the inbox of its latest connection, as long as `target` is not
disconnected and the inbox is neither closed nor dropped. -/
inductive Leads (target : ParticipantId) (number : Nat) : List Deed → Prop where
  | connected {before since : List Deed} (own : (owners before).length = number)
      (lasting : ∀ deed ∈ since, ¬deed.Severs target number) :
      Leads target number (before ++ .connect target :: since)

/-- What a deed brings to light about an inbox: one reading, if it reads that inbox. -/
def finds (number : Nat) : Deed → Outcome → List Reading
  | .read inbox, .found reading => if inbox = number then [reading] else []
  | _, _ => []

/-- All that its receiver has found in an inbox, in order. -/
def readings (number : Nat) (deeds : List Deed) (outcomes : List Outcome) : List Reading :=
  (deeds.zip outcomes).flatMap fun done => finds number done.1 done.2

def Reading.envelopes : Reading → List Envelope
  | .envelope found => [found]
  | .nothing | .closed => []

/-- The envelopes that its receiver has got out of an inbox, in order. -/
def obtained (number : Nat) (deeds : List Deed) (outcomes : List Outcome) : List Envelope :=
  (readings number deeds outcomes).flatMap Reading.envelopes

namespace Switch

variable {history since before : List Deed} {deed : Deed} {target id : ParticipantId} {number : Nat}

/-! ### Whom notifications lead to -/

theorem connections_eq (history : List Deed) : connections history = owners history.reverse := by
  induction history with
  | nil => rfl
  | cons deed earlier ih =>
    rw [List.reverse_cons, owners, List.filterMap_append]
    cases deed with
    | connect id => exact congrArg (· ++ [id]) ih
    | _ => exact ih.trans (List.append_nil _).symm

private theorem line?_cons (connects : deed ≠ .connect target)
    (disconnects : deed ≠ .disconnect target) :
    line? target (deed :: history) = line? target history := by
  cases deed with
  | connect id => exact if_neg fun same => connects (congrArg _ same)
  | disconnect id => exact if_neg fun same => disconnects (congrArg _ same)
  | _ => rfl

private theorem isOpen_cons (made : number < (connections history).length)
    (closes : deed ≠ .close number)
    (drops : deed ≠ .drop number) : isOpen number (deed :: history) = isOpen number history := by
  cases deed with
  | connect id => rw [isOpen, beq_eq_false_iff_ne.mpr (Nat.ne_of_lt made), Bool.false_or]
  | close inbox =>
    rw [isOpen, bne_iff_ne.mpr fun same => closes (congrArg _ same), Bool.true_and]
  | drop inbox =>
    rw [isOpen, bne_iff_ne.mpr fun same => drops (congrArg _ same), Bool.true_and]
  | _ => rfl

private theorem getElem?_connections_cons (there : (connections history)[number]? = some id)
    (deed : Deed) :
    (connections (deed :: history))[number]? = some id := by
  cases deed with
  | connect other => exact connections_append there
  | _ => exact there

private theorem getElem?_connections_append (there : (connections history)[number]? = some id)
    (later : List Deed) : (connections (later ++ history))[number]? = some id := by
  induction later with
  | nil => exact there
  | cons deed rest ih => exact getElem?_connections_cons ih deed

theorem connections_connect :
    (connections (.connect target :: before))[(connections before).length]? = some target :=
  List.getElem?_concat_length

theorem line?_eq_some_iff : line? target history = some number ↔
    ∃ since before, history = since ++ .connect target :: before ∧
      (connections before).length = number ∧
        .connect target ∉ since ∧ .disconnect target ∉ since := by
  constructor
  · intro line
    induction history with
    | nil => cases line
    | cons deed earlier ih =>
      by_cases connects : deed = .connect target
      · subst connects
        rw [line?, if_pos rfl] at line
        exact ⟨[], earlier, rfl, Option.some.inj line, List.not_mem_nil, List.not_mem_nil⟩
      by_cases disconnects : deed = .disconnect target
      · subst disconnects
        rw [line?, if_pos rfl] at line
        cases line
      rw [line?_cons connects disconnects] at line
      obtain ⟨since, before, rfl, own, latest, lasting⟩ := ih line
      exact ⟨deed :: since, before, rfl, own,
        List.not_mem_cons_of_ne_of_not_mem (Ne.symm connects) latest,
        List.not_mem_cons_of_ne_of_not_mem (Ne.symm disconnects) lasting⟩
  · rintro ⟨since, before, rfl, rfl, latest, lasting⟩
    induction since with
    | nil => exact if_pos rfl
    | cons deed rest ih =>
      obtain ⟨connects, latest⟩ := List.ne_and_not_mem_of_not_mem_cons latest
      obtain ⟨disconnects, lasting⟩ := List.ne_and_not_mem_of_not_mem_cons lasting
      exact (line?_cons connects.symm disconnects.symm).trans (ih latest lasting)

theorem isOpen_append :
    isOpen (connections before).length (since ++ .connect target :: before) = true ↔
      .close (connections before).length ∉ since ∧ .drop (connections before).length ∉ since := by
  induction since with
  | nil => simp [isOpen]
  | cons deed rest ih =>
    by_cases closes : deed = .close (connections before).length
    · simp [closes, isOpen]
    by_cases drops : deed = .drop (connections before).length
    · simp [drops, isOpen]
    have there := getElem?_connections_append (@connections_connect before target) rest
    rw [List.cons_append, isOpen_cons (List.getElem?_eq_some_iff.mp there).1 closes drops, ih]
    simp [Ne.symm closes, Ne.symm drops]

theorem forall_not_severs_iff : (∀ deed ∈ since, ¬deed.Severs target number) ↔
    (.connect target ∉ since ∧ .disconnect target ∉ since) ∧
      .close number ∉ since ∧ .drop number ∉ since := by
  constructor
  · intro lasting
    exact ⟨⟨fun member => lasting _ member .connect, fun member => lasting _ member .disconnect⟩,
      fun member => lasting _ member .close, fun member => lasting _ member .drop⟩
  · rintro ⟨⟨latest, lasting⟩, accepting, held⟩ deed member severs
    cases severs <;> contradiction

private theorem reverse_split (before since : List Deed) (deed : Deed) :
    (before ++ deed :: since).reverse = since.reverse ++ deed :: before.reverse := by
  rw [List.reverse_append, List.reverse_cons, List.append_assoc, List.singleton_append]

theorem destination?_reverse_eq_some_iff {deeds : List Deed} :
    destination? target deeds.reverse = some number ↔ Leads target number deeds := by
  rw [destination?_eq_some_iff, line?_eq_some_iff]
  constructor
  · rintro ⟨⟨since, before, split, rfl, latest⟩, accepting⟩
    rw [split, isOpen_append] at accepting
    obtain rfl : deeds = before.reverse ++ .connect target :: since.reverse := by
      rw [← List.reverse_reverse deeds, split, reverse_split]
    refine .connected ?_ fun deed member => ?_
    · rw [connections_eq]
    · exact forall_not_severs_iff.mpr ⟨latest, accepting⟩ deed (List.mem_reverse.mp member)
  · intro leads
    cases leads with
    | @connected before since own lasting =>
      have made : (connections before.reverse).length = number := by
        rw [connections_eq, List.reverse_reverse, own]
      subst made
      obtain ⟨latest, accepting⟩ := forall_not_severs_iff.mp fun deed member =>
        lasting deed (List.mem_reverse.mp member)
      rw [reverse_split]
      exact ⟨⟨since.reverse, before.reverse, rfl, rfl, latest⟩, isOpen_append.mpr accepting⟩

/-! ### Connections that are gone -/

private theorem made_cons (made : number < (connections history).length) (deed : Deed) :
    number < (connections (deed :: history)).length :=
  (List.getElem?_eq_some_iff.mp
    (getElem?_connections_cons (List.getElem?_eq_getElem made) deed)).1

theorem isAttached_of_severs (there : (connections history)[number]? = some id)
    (severs : deed.Severs id number) : isAttached number (deed :: history) = false := by
  have made := (List.getElem?_eq_some_iff.mp there).1
  rw [isAttached_eq (getElem?_connections_cons there deed)]
  cases severs with
  | connect =>
    rw [line?, if_pos rfl, beq_eq_false_iff_ne.mpr fun same => Nat.ne_of_gt made (Option.some.inj same),
      Bool.and_false]
  | disconnect => rw [line?, if_pos rfl, Option.none_beq_some, Bool.and_false]
  | close => rw [isOpen, bne_self_eq_false, Bool.false_and, Bool.false_and]
  | drop => rw [isOpen, bne_self_eq_false, Bool.false_and, Bool.false_and]

/-- No deed attaches an inbox that is not attached. -/
private theorem isAttached_cons (made : number < (connections history).length)
    (detached : isAttached number history = false) (deed : Deed) :
    isAttached number (deed :: history) = false := by
  have there := List.getElem?_eq_getElem made
  by_cases severs : deed.Severs (connections history)[number] number
  · exact isAttached_of_severs there severs
  rw [isAttached_eq there] at detached
  rw [isAttached_eq (getElem?_connections_cons there deed), line?_cons, isOpen_cons made, detached]
  all_goals
    rintro rfl
    exact severs (by constructor)

theorem isAttached_of_mem (there : (connections history)[number]? = some id)
    (severed : ∃ deed ∈ since, deed.Severs id number) :
    isAttached number (since ++ history) = false := by
  obtain ⟨cut, member, severs⟩ := severed
  induction since with
  | nil => cases member
  | cons deed rest ih =>
    have still := getElem?_connections_append there rest
    rcases List.mem_cons.mp member with rfl | earlier
    · exact isAttached_of_severs still severs
    · exact isAttached_cons (List.getElem?_eq_some_iff.mp still).1 (ih earlier) deed

theorem delivery_of_detached (detached : isAttached number history = false) (notifier : Nat)
    (target : ParticipantId) (notification : Notification) :
    delivery number notifier target notification history = [] := by
  refine delivery_eq_nil fun reached => ?_
  rw [isAttached, connection_of_line? (destination?_eq_some_iff.mp reached).1, Option.any_some,
    reached, beq_self_eq_true] at detached
  cases detached

private theorem routed_cons (detached : isAttached number history = false) (deed : Deed) :
    routed number (deed :: history) = routed number history := by
  cases deed with
  | notify notifier target notification =>
    rw [routed, delivery_of_detached detached, List.append_nil]
  | _ => rfl

theorem routed_respond (made : number < (connections history).length)
    (detached : isAttached number history = false) (later : List Deed) :
    routed number (respond perform history later).2 = routed number history := by
  induction later generalizing history with
  | nil => rfl
  | cons deed rest ih =>
    exact (ih (made_cons made deed) (isAttached_cons made detached deed)).trans
      (routed_cons detached deed)

/-! ### Envelopes on their way through an inbox -/

private theorem readings_cons (history : List Deed) (deed : Deed) (rest : List Deed) :
    readings number (deed :: rest) (respond perform history (deed :: rest)).1 =
      finds number deed (outcome history deed) ++
        readings number rest (respond perform (deed :: history) rest).1 :=
  rfl

private theorem obtained_cons (history : List Deed) (deed : Deed) (rest : List Deed) :
    obtained number (deed :: rest) (respond perform history (deed :: rest)).1 =
      (finds number deed (outcome history deed)).flatMap Reading.envelopes ++
        obtained number rest (respond perform (deed :: history) rest).1 := by
  rw [obtained, readings_cons, List.flatMap_append, obtained]

private theorem finds_of_ne (different : deed ≠ .read number) (outcome : Outcome) :
    finds number deed outcome = [] := by
  cases deed with
  | read inbox =>
    cases outcome with
    | found reading => exact if_neg fun same => different (congrArg _ same)
    | _ => rfl
  | _ => rfl

theorem finds_read (made : number < (connections history).length) :
    finds number (.read number) (outcome history (.read number)) = [reading number history] := by
  rw [outcome, if_pos made, finds, if_pos rfl]

theorem waiting_read : waiting number (.read number :: history) = (waiting number history).tail :=
  if_pos rfl

theorem waiting_drop : waiting number (.drop number :: history) = [] :=
  if_pos rfl

/-- What a reading brings is what it takes out of the inbox. -/
theorem envelopes_read :
    (finds number (.read number) (outcome history (.read number))).flatMap Reading.envelopes ++
      waiting number (.read number :: history) = waiting number history := by
  rw [waiting_read]
  by_cases made : number < (connections history).length
  · rw [finds_read made, reading]
    cases waiting number history with
    | nil => cases isAttached number history <;> rfl
    | cons envelope rest => rfl
  · rw [outcome, if_neg made, waiting_eq_nil (Nat.not_lt.mp made)]
    rfl

/-- What is routed to an inbox is added to what waits there, and what is read is taken away. -/
theorem flow (kept : deed ≠ .drop number) : ∃ brought,
    routed number (deed :: history) = routed number history ++ brought ∧
      waiting number history ++ brought =
        (finds number deed (outcome history deed)).flatMap Reading.envelopes ++
          waiting number (deed :: history) := by
  by_cases reads : deed = .read number
  · subst reads
    exact ⟨[], (List.append_nil _).symm, (List.append_nil _).trans envelopes_read.symm⟩
  rw [finds_of_ne reads]
  cases deed with
  | notify notifier target notification =>
    exact ⟨delivery number notifier target notification history, rfl, rfl⟩
  | drop inbox =>
    refine ⟨[], (List.append_nil _).symm, (List.append_nil _).trans ?_⟩
    exact (if_neg fun same => kept (congrArg _ same)).symm
  | read inbox =>
    refine ⟨[], (List.append_nil _).symm, (List.append_nil _).trans ?_⟩
    exact (if_neg fun same => reads (congrArg _ same)).symm
  | _ => exact ⟨[], (List.append_nil _).symm, List.append_nil _⟩

/-- What has been waiting in an inbox and what is brought later is obtained or still waits there,
but for what is lost when the inbox is dropped. -/
theorem conserved (number : Nat) (deeds history : List Deed) : ∃ brought lost,
    routed number (respond perform history deeds).2 = routed number history ++ brought ∧
      waiting number history ++ brought = obtained number deeds (respond perform history deeds).1 ++
        waiting number (respond perform history deeds).2 ++ lost ∧
          (.drop number ∉ deeds → lost = []) := by
  induction deeds generalizing history with
  | nil =>
    refine ⟨[], [], (List.append_nil _).symm, ?_, fun _ => rfl⟩
    simp [respond, obtained, readings]
  | cons deed rest ih =>
    obtain ⟨more, lost, grown, shared, whole⟩ := ih (deed :: history)
    rw [obtained_cons]
    change ∃ brought lost, routed number (respond perform (deed :: history) rest).2 = _ ∧
      _ = _ ++ waiting number (respond perform (deed :: history) rest).2 ++ _ ∧ _
    by_cases drops : deed = .drop number
    · subst drops
      rw [waiting_drop, List.nil_append] at shared
      -- either the inbox is not there yet, or nothing more gets into it
      have apart : waiting number history = [] ∨ more = [] := by
        by_cases made : number < (connections history).length
        · have detached := isAttached_of_severs (List.getElem?_eq_getElem made) .drop
          rw [routed_respond (made_cons made _) detached, List.self_eq_append_right] at grown
          exact .inr grown
        · exact .inl (waiting_eq_nil (Nat.not_lt.mp made))
      refine ⟨more, waiting number history ++ lost, grown, ?_,
        fun held => absurd List.mem_cons_self held⟩
      rcases apart with empty | nothing
      · rw [empty, List.nil_append, List.nil_append]
        exact shared
      · rw [nothing, List.nil_eq_append_iff, List.append_eq_nil_iff] at shared
        obtain ⟨⟨unread, empty⟩, rfl⟩ := shared
        rw [nothing, unread, empty]
        rfl
    · obtain ⟨brought, grows, flows⟩ := flow drops
      refine ⟨brought ++ more, lost, ?_, ?_, fun held => whole (List.not_mem_of_not_mem_cons held)⟩
      · rw [grown, grows, List.append_assoc]
      · rw [← List.append_assoc, flows, List.append_assoc, shared]
        simp only [List.append_assoc]

/-- Nothing but its receiver changes an inbox that is not attached. -/
theorem waiting_of_detached (detached : isAttached number history = false)
    (reads : deed ≠ .read number) (drops : deed ≠ .drop number) :
    waiting number (deed :: history) = waiting number history := by
  obtain ⟨brought, grows, flows⟩ := flow drops
  rw [routed_cons detached, List.self_eq_append_right] at grows
  rw [grows, finds_of_ne reads, List.append_nil] at flows
  exact flows.symm

/-- An inbox that is not attached gives out what it has, and is found closed ever after. -/
theorem readings_of_detached (made : number < (connections history).length)
    (detached : isAttached number history = false) {later : List Deed}
    (held : .drop number ∉ later) :
    readings number later (respond perform history later).1 =
      (List.range (later.count (.read number))).map fun index =>
        ((waiting number history)[index]?).elim .closed .envelope := by
  induction later generalizing history with
  | nil => rfl
  | cons deed rest ih =>
    obtain ⟨keeps, held⟩ := List.ne_and_not_mem_of_not_mem_cons held
    have after := ih (made_cons made deed) (isAttached_cons made detached deed) held
    rw [readings_cons, after]
    by_cases reads : deed = .read number
    · subst reads
      have first : reading number history =
          ((waiting number history)[0]?).elim .closed .envelope := by
        rw [reading, detached]
        cases waiting number history <;> rfl
      rw [finds_read made, first, List.count_cons_self, List.range_succ_eq_map, List.map_cons,
        List.map_map, List.singleton_append, waiting_read]
      simp only [List.getElem?_tail, Function.comp_def]
    · rw [finds_of_ne reads, List.nil_append, waiting_of_detached detached reads keeps.symm,
        List.count_cons_of_ne reads]

theorem respond_perform (deeds history : List Deed) :
    (respond perform history deeds).2 = deeds.reverse ++ history := by
  induction deeds generalizing history with
  | nil => rfl
  | cons deed rest ih =>
    rw [List.reverse_cons, List.append_assoc]
    exact ih (deed :: history)

end Switch

open Switch

variable {exchange : Exchange} {history : List Deed} {sender target : ParticipantId}
  {notifier number : Nat}

namespace Shows

theorem queue_eq (shows : exchange.Shows history) (number : Nat) :
    (exchange.inbox number).queue = waiting number history := by
  by_cases made : number < (connections history).length
  · rw [shows.inbox_eq (List.getElem?_eq_getElem made)]
  · rw [inbox, Array.getElem?_eq_none (shows.size ▸ Nat.not_lt.mp made),
      waiting_eq_nil (Nat.not_lt.mp made)]

/-- All that is done with an exchange has the outcomes that its history tells. -/
theorem run (shows : exchange.Shows history) (deeds : List Deed) :
    (respond Exchange.perform exchange deeds).1 = (respond Switch.perform history deeds).1 ∧
      (respond Exchange.perform exchange deeds).2.Shows (respond Switch.perform history deeds).2 :=
  respond_simulates Shows (fun _ _ deed shows => shows.perform deed) shows deeds

theorem delivers (shows : exchange.Shows history)
    (own : (connections history)[notifier]? = some sender)
    (reached : destination? target history = some number) (notification : Notification) :
    ∃ sent, exchange.perform (.notify notifier target notification) = (.notified (.ok ()), sent) ∧
      ∀ other, sent.inbox other =
        if other = number then
          ⟨(exchange.inbox number).queue ++ [⟨sender, notification⟩], (exchange.inbox number).closed⟩
        else exchange.inbox other := by
  have route : exchange.target? target = some number := by rw [shows.target?_eq, reached]
  have success : exchange.notify sender target notification =
      .ok (exchange.put target ⟨sender, notification⟩) := by
    refine (exchange.notify_eq sender target notification).trans ?_
    rw [route]
    rfl
  refine ⟨exchange.put target ⟨sender, notification⟩, ?_, fun other => ?_⟩
  · rw [shows.perform_of_notifier own, success]
  · have after : (exchange.putAll [(target, ⟨sender, notification⟩)]).inbox other = _ := inbox_putAll
    refine after.trans ?_
    split_ifs with same
    · simp [route, same]
    · simp [route, Ne.symm same]

theorem refuses (shows : exchange.Shows history)
    (own : (connections history)[notifier]? = some sender)
    (unreached : destination? target history = none) (notification : Notification) :
    exchange.perform (.notify notifier target notification) =
      (.notified (.error .noSuchProcess), exchange) := by
  rw [shows.perform_of_notifier own, Exchange.notify, shows.target?_eq, unreached]

end Shows

/-- What is to be seen of an exchange with which `deeds` have been done. -/
structure ActsAsSwitch (deeds : List Deed) (outcomes : List Outcome) (exchange : Exchange) : Prop where
  /-- Every outcome is what the deeds before tell. -/
  outcomes_eq : outcomes = (respond Switch.perform [] deeds).1
  /-- A notification is one more envelope, with the id that its notifier was made for, in the inbox
  that notifications to its target lead to. -/
  delivers : ∀ (notifier : Nat) (sender target : ParticipantId) (notification : Notification)
    (number : Nat), (owners deeds)[notifier]? = some sender → Leads target number deeds →
      ∃ sent, exchange.perform (.notify notifier target notification) = (.notified (.ok ()), sent) ∧
        ∀ other, sent.inbox other =
          if other = number then
            ⟨(exchange.inbox number).queue ++ [⟨sender, notification⟩], (exchange.inbox number).closed⟩
          else exchange.inbox other
  /-- If they lead nowhere, it is turned down, and nothing happens. -/
  refuses : ∀ (notifier : Nat) (sender target : ParticipantId) (notification : Notification),
    (owners deeds)[notifier]? = some sender → (∀ number, ¬Leads target number deeds) →
      exchange.perform (.notify notifier target notification) =
        (.notified (.error .noSuchProcess), exchange)
  /-- What has been routed to an inbox has been got out of it in that order, up to what is still there.
  Nothing is lost but what was there when the inbox was dropped. -/
  conserves : ∀ number, ∃ lost, Switch.routed number deeds.reverse =
    obtained number deeds outcomes ++ (exchange.inbox number).queue ++ lost ∧
      (.drop number ∉ deeds → lost = [])
  /-- An inbox that has been cut off gives out what is left in it, whatever is done. After that it is
  found closed. -/
  runsDry : ∀ (before : List Deed) (id : ParticipantId) (since : List Deed) (number : Nat),
    deeds = before ++ .connect id :: since → (owners before).length = number →
      (∃ deed ∈ since, deed.Severs id number) → ∀ later, .drop number ∉ later →
        readings number later (respond Exchange.perform exchange later).1 =
          (List.range (later.count (.read number))).map fun index =>
            ((exchange.inbox number).queue[index]?).elim .closed .envelope

/-- An exchange routes as a switch does that looks back on all that has been done with it. -/
theorem routes_like_switch (deeds : List Deed) :
    ActsAsSwitch deeds (respond Exchange.perform .empty deeds).1
      (respond Exchange.perform .empty deeds).2 := by
  obtain ⟨same, shows⟩ := Shows.empty.run deeds
  generalize (respond Exchange.perform .empty deeds).1 = outcomes at same ⊢
  generalize (respond Exchange.perform .empty deeds).2 = exchange at shows ⊢
  have history : (respond Switch.perform [] deeds).2 = deeds.reverse := by
    rw [respond_perform, List.append_nil]
  rw [history] at shows
  have connected : connections deeds.reverse = owners deeds := by
    rw [connections_eq, List.reverse_reverse]
  constructor
  case outcomes_eq => exact same
  case delivers =>
    intro notifier sender target notification number own leads
    exact shows.delivers (connected ▸ own) (destination?_reverse_eq_some_iff.mpr leads) notification
  case refuses =>
    intro notifier sender target notification own nowhere
    refine shows.refuses (connected ▸ own) (Option.eq_none_iff_forall_ne_some.mpr ?_) notification
    exact fun number reached => nowhere number (destination?_reverse_eq_some_iff.mp reached)
  case conserves =>
    intro number
    obtain ⟨brought, lost, grown, shared, whole⟩ := conserved number deeds []
    rw [history, ← same, ← shows.queue_eq] at shared
    rw [history] at grown
    refine ⟨lost, ?_, whole⟩
    rw [grown, ← shared]
    rfl
  case runsDry =>
    rintro before id since number split rfl severed later held
    have there : (connections (.connect id :: before.reverse))[(owners before).length]? = some id := by
      rw [← List.reverse_reverse before, ← connections_eq, List.reverse_reverse]
      exact connections_connect
    have past : deeds.reverse = since.reverse ++ .connect id :: before.reverse := by
      rw [split, reverse_split]
    obtain ⟨cut, member, severs⟩ := severed
    have detached := isAttached_of_mem there ⟨cut, List.mem_reverse.mpr member, severs⟩
    have made := (List.getElem?_eq_some_iff.mp (getElem?_connections_append there since.reverse)).1
    rw [← past] at detached made
    rw [(shows.run later).1, shows.queue_eq]
    exact readings_of_detached made detached held

/-- bert connects once more while his first notifier and his first inbox are still in use, and is
disconnected. -/
def reconnection : List Deed :=
  [.connect anna, .connect bert, .notify 0 bert (.messageReady 3), .connect bert,
    .notify 1 bert .joinRequest, .notify 0 bert (.messageReady 4), .read 1, .disconnect bert,
    .notify 0 bert .joinRequest]

def reconnected : Exchange := (respond Exchange.perform .empty reconnection).2

/-- What bert's first notifier sends gets into his second inbox. In the end notifications to him are
turned down; his first inbox has been read out and is found closed, and the second one is found so after
its two envelopes. -/
theorem routes_after_reconnection :
    (∃ sent, (respond Exchange.perform .empty (reconnection.take 4)).2.perform
        (.notify 1 bert .joinRequest) = (.notified (.ok ()), sent) ∧
      sent.inbox 1 = ⟨[⟨anna, .messageReady 3⟩], true⟩ ∧
      sent.inbox 2 = ⟨[⟨bert, .joinRequest⟩], false⟩) ∧
    reconnected.perform (.notify 0 bert .joinRequest) =
      (.notified (.error .noSuchProcess), reconnected) ∧
    readings 1 [.read 1] (respond Exchange.perform reconnected [.read 1]).1 = [.closed] ∧
    readings 2 [.read 2, .read 2, .read 2]
        (respond Exchange.perform reconnected [.read 2, .read 2, .read 2]).1 =
      [.envelope ⟨bert, .joinRequest⟩, .envelope ⟨anna, .messageReady 4⟩, .closed] := by
  have acts := routes_like_switch reconnection
  refine ⟨?_, ?_, ?_, ?_⟩
  · obtain ⟨sent, success, inboxes⟩ := (routes_like_switch (reconnection.take 4)).delivers 1 bert bert
      .joinRequest 2 rfl (@Leads.connected _ _ (reconnection.take 3) [] rfl nofun)
    refine ⟨sent, success, (inboxes 1).trans ?_, (inboxes 2).trans ?_⟩ <;> decide +kernel
  · refine acts.refuses 0 anna bert .joinRequest rfl fun number leads => ?_
    have nowhere : destination? bert reconnection.reverse = none := by decide +kernel
    cases nowhere.symm.trans (destination?_reverse_eq_some_iff.mpr leads)
  · refine (acts.runsDry (reconnection.take 1) bert (reconnection.drop 2) 1 rfl rfl
      ⟨.connect bert, ?_, .connect⟩ [.read 1] ?_).trans ?_ <;> decide +kernel
  · refine (acts.runsDry (reconnection.take 3) bert (reconnection.drop 4) 2 rfl rfl
      ⟨.disconnect bert, ?_, .disconnect⟩ [.read 2, .read 2, .read 2] ?_).trans ?_ <;> decide +kernel

end Exchange

end HostChat
