import HostChat.Proofs.Session.Effects
import HostChat.Proofs.Text.Utf8

/-! # What sessions do with messages

An accepted message goes into a free slot and its recipient is notified of that slot; a message that
is not accepted leaves the contents of the mailbox and the carrier as they were. What a session is
told about messages is written down as entries of a ledger.
-/

namespace HostChat

section Texts

variable {text : String} {bytes : List UInt8}

theorem checkText_of_blank (blank : Text.utf8 text = []) :
    checkText text = .error .emptyMessage := by
  rw [checkText, if_pos (by simpa using blank)]

theorem checkText_of_long (long : maxMessageBytes < (Text.utf8 text).length) :
    checkText text = .error (.overflow (Text.utf8 text).length maxMessageBytes) := by
  have filled : Text.utf8 text ≠ [] := List.ne_nil_of_length_pos (Nat.zero_lt_of_lt long)
  rw [checkText, if_neg (by simpa using filled), if_pos long]

theorem checkText_of_fits (filled : Text.utf8 text ≠ [])
    (bound : (Text.utf8 text).length ≤ maxMessageBytes) : checkText text = .ok (Text.utf8 text) := by
  rw [checkText, if_neg (by simpa using filled), if_neg (Nat.not_lt.mpr bound)]

/-- A text is sent as its bytes, if these are neither none nor too many. -/
theorem checkText_eq_ok (legal : checkText text = .ok bytes) :
    bytes = Text.utf8 text ∧ Text.utf8 text ≠ [] ∧ (Text.utf8 text).length ≤ maxMessageBytes := by
  by_cases blank : Text.utf8 text = []
  · cases (checkText_of_blank blank).symm.trans legal
  · by_cases long : maxMessageBytes < (Text.utf8 text).length
    · cases (checkText_of_long long).symm.trans legal
    · have bound := Nat.le_of_not_lt long
      cases (checkText_of_fits blank bound).symm.trans legal
      exact ⟨rfl, blank, bound⟩

end Texts

namespace Session

variable {σ : Type} [Carrier σ] {session : Session} {host after : Host σ} {target : ParticipantId}
  {text : List UInt8}

/-- The place and the message of a delivery that was given a slot. -/
def posting (session : Session) (target : ParticipantId) (text : List UInt8)
    (slot : Fin mailboxSlots) : Posting :=
  ⟨session.room.store, slot, ⟨session.me, target, text⟩⟩

/-- What a delivery adds to the ledger. -/
def told (session : Session) (target : ParticipantId) (text : List UInt8) :
    Except ChatError (Fin mailboxSlots) → List Entry
  | .ok slot => [.accepted (session.posting target text slot)]
  | .error _ => []

/-- What a delivery to several recipients, one after the other, adds to the ledger. -/
def toldAll (session : Session) (text : List UInt8) : List ParticipantId → Host σ → List Entry
  | [], _ => []
  | recipient :: rest, host =>
      let (result, host) := session.deliver recipient text host
      session.told recipient text result ++ session.toldAll text rest host

/-- What a broadcast adds to the ledger. -/
def said (session : Session) (text : String) (host : Host σ) : List Entry :=
  match checkText text with
  | .ok bytes => session.toldAll bytes (session.others host) host
  | .error _ => []

/-- What handling a notification adds to the ledger. -/
def handled (session : Session) (notification : Notification) (answer : Option Message) :
    List Entry :=
  match notification, answer with
  | .messageReady slot, some message => [.returned session.me ⟨session.room.store, slot, message⟩]
  | _, _ => []

/-- A delivery that was not accepted. -/
structure Refuses (host after : Host σ) : Prop where
  members : host.SameMembers after
  carrier : after.carrier = host.carrier
  contents : after.contents = host.contents

/-- A delivery that was given a slot: the message lies there, and the recipient is notified. -/
structure Posts (session : Session) (target : ParticipantId) (text : List UInt8)
    (slot : Fin mailboxSlots) (host after : Host σ) : Prop where
  members : host.SameMembers after
  sent : Carrier.notify host.carrier session.me target (.messageReady slot) = .ok after.carrier
  applied : Entry.effect? host.contents (.accepted (session.posting target text slot)) =
    some after.contents

theorem deliver_cases {result : Except ChatError (Fin mailboxSlots)}
    (made : session.room.store < host.stores.objects.size)
    (outcome : session.deliver target text host = (result, after)) :
    (∃ error, result = .error error ∧ Refuses host after) ∨
      ∃ slot, result = .ok slot ∧ session.Posts target text slot host after := by
  simp only [deliver, Room.memory, Room.setMemory] at outcome
  cases stores : (host.memory session.room.store).mailbox.store session.me target text with
  | error error =>
    simp only [stores] at outcome
    cases outcome
    exact .inl ⟨_, rfl, .refl host, rfl, rfl⟩
  | ok stored =>
    obtain ⟨slot, mailbox⟩ := stored
    simp only [stores] at outcome
    have free := (Mailbox.store_eq_ok stores).1
    have content := Mailbox.content?_store stores
    have members := Host.sameMembers_setMailbox mailbox made
    cases sent : Host.notify (host.setMemory session.room.store
        { host.memory session.room.store with mailbox }) session.me target (.messageReady slot) with
    | ok notified =>
      simp only [sent] at outcome
      cases outcome
      have still := Host.sameMembers_notify sent
      obtain ⟨carrier, notify, rfl⟩ := Host.notify_eq_ok sent
      refine .inr ⟨slot, rfl, members.trans still, notify, ?_⟩
      have lies : host.contents session.room.store slot = none := free
      rw [Entry.effect?, posting, if_pos lies]
      congr 1
      funext store index
      change _ = Host.contents (host.setMemory _ _) store index
      rw [Host.contents_setMemory _ made]
      simp only [Contents.put, content]
      by_cases same : store = session.room.store
      · by_cases own : index = slot <;> simp [same, own, Host.contents]
      · simp [same]
    | error fault =>
      simp only [sent] at outcome
      cases outcome
      rw [Host.setMemory_setMemory]
      refine .inl ⟨_, rfl, Host.sameMembers_setMailbox (mailbox.release slot) made, rfl, ?_⟩
      funext store index
      rw [Host.contents_setMemory _ made, Mailbox.content?_release, content]
      by_cases same : store = session.room.store
      · by_cases own : index = slot
        · simpa [same, own, Host.contents] using free.symm
        · simp [same, own, Host.contents]
      · simp [same]

/-- A text that fits is accepted for a recipient that can be notified, as long as a slot is free. -/
theorem deliver_of_free (made : session.room.store < host.stores.objects.size) (some : text ≠ [])
    (bound : text.length ≤ maxMessageBytes)
    (free : ∃ slot ∈ (host.memory session.room.store).mailbox.slots, slot.isFree = true)
    (reached : ∀ notification, ∃ carrier,
      Carrier.notify host.carrier session.me target notification = .ok carrier) :
    ∃ slot after, session.deliver target text host = (.ok slot, after) ∧
      session.Posts target text slot host after := by
  obtain ⟨slot, mailbox, stores⟩ : ∃ slot mailbox, (host.memory session.room.store).mailbox.store
      session.me target text = .ok (slot, mailbox) := Mailbox.store_of_free some bound free
  obtain ⟨carrier, sent⟩ := reached (.messageReady slot)
  have notified : Host.notify (host.setMemory session.room.store
      { host.memory session.room.store with mailbox }) session.me target (.messageReady slot) =
        .ok { host.setMemory session.room.store
          { host.memory session.room.store with mailbox } with carrier } := by
    rw [Host.notify, Host.setMemory_carrier, sent]
    rfl
  rcases delivered : session.deliver target text host with ⟨result, after⟩
  rcases deliver_cases made delivered with ⟨error, rfl, -⟩ | ⟨_, rfl, posts⟩
  · simp only [deliver, Room.memory, Room.setMemory, stores, notified] at delivered
    cases delivered
  · exact ⟨_, after, rfl, posts⟩

/-- What deliveries to several recipients keep holds after all of them. -/
theorem deliverAll_induction (holds : Host σ → List Entry → Prop) (log : List Entry)
    {recipients : List ParticipantId}
    (each : ∀ recipient ∈ recipients, ∀ host log result after, holds host log →
      session.deliver recipient text host = (result, after) →
        holds after (log ++ session.told recipient text result))
    (initial : holds host log) :
    holds (session.deliverAll text recipients host).2
      (log ++ session.toldAll text recipients host) := by
  induction recipients generalizing host log with
  | nil => simpa [deliverAll, toldAll] using initial
  | cons recipient rest ih =>
    have first := each recipient (List.mem_cons_self ..) host log _ _ initial rfl
    have others := ih _ (fun other member => each other (List.mem_cons_of_mem _ member)) first
    have same : (session.deliverAll text (recipient :: rest) host).2 =
        (session.deliverAll text rest (session.deliver recipient text host).2).2 := by
      simp only [deliverAll]
      split <;> rfl
    rw [same, toldAll]
    rwa [List.append_assoc] at others

/-- The recipients of the messages that a ledger lists as accepted. -/
def recipients (log : List Entry) : List ParticipantId :=
  log.filterMap fun
    | .accepted posting => some posting.message.recipient
    | _ => none

/-- The ledger lists exactly those recipients that a broadcast reports as served. -/
theorem delivered_eq (session : Session) (text : List UInt8) (targets : List ParticipantId)
    (host : Host σ) :
    (session.deliverAll text targets host).1.delivered =
      recipients (session.toldAll text targets host) := by
  induction targets generalizing host with
  | nil => rfl
  | cons target rest ih =>
    simp only [deliverAll, toldAll]
    rcases session.deliver target text host with ⟨_ | slot, after⟩
    · simpa [told] using ih after
    · simpa [told, recipients, posting] using ih after

theorem tell_cases {text : String} {result : Except ChatError (Fin mailboxSlots)}
    (made : session.room.store < host.stores.objects.size)
    (outcome : session.tell target text host = some (result, after)) :
    (∃ error, result = .error error ∧ Refuses host after) ∨
      ∃ slot, result = .ok slot ∧ target ∈ (host.registry session.room.store).participants ∧
        session.Posts target (Text.utf8 text) slot host after := by
  cases legal : checkText text with
  | error error =>
    simp only [tell, legal] at outcome
    cases outcome
    exact .inl ⟨error, rfl, .refl host, rfl, rfl⟩
  | ok bytes =>
    obtain ⟨-, held⟩ := (tell_eq_some_iff legal).mp outcome
    obtain ⟨rfl, -, -⟩ := checkText_eq_ok legal
    simp only [tellHeld] at held
    split_ifs at held with member
    · rcases deliver_cases made held with refused | ⟨slot, success, posts⟩
      · exact .inl refused
      · exact .inr ⟨slot, success, Registry.contains_iff.mp member, posts⟩
    · cases held
      exact .inl ⟨_, rfl, .refl host, rfl, rfl⟩

theorem tell_of_free {text : String} (made : session.room.store < host.stores.objects.size)
    (unlocked : session.room.Unlocked host)
    (listed : target ∈ (host.registry session.room.store).participants) (some : text.toList ≠ [])
    (bound : (Text.utf8 text).length ≤ maxMessageBytes)
    (free : ∃ slot ∈ (host.memory session.room.store).mailbox.slots, slot.isFree = true)
    (reached : ∀ notification, ∃ carrier,
      Carrier.notify host.carrier session.me target notification = .ok carrier) :
    ∃ slot after, session.tell target text host = Option.some (.ok slot, after) ∧
      session.Posts target (Text.utf8 text) slot host after := by
  have member : (session.room.memory host).registry.contains target = true :=
    Registry.contains_iff.mpr listed
  have filled := Text.utf8_ne_nil some
  obtain ⟨slot, after, delivered, posts⟩ := deliver_of_free made filled bound free reached
  refine ⟨slot, after, (tell_eq_some_iff (checkText_of_fits filled bound)).mpr ⟨unlocked, ?_⟩, posts⟩
  rw [tellHeld, if_pos member, delivered]

theorem say_cases {text : String} {result : Except ChatError Broadcast}
    (outcome : session.say text host = some (result, after)) :
    (∃ error, result = .error error ∧ after = host ∧ session.said text host = []) ∨
      ∃ bytes, checkText text = .ok bytes ∧
        result = .ok (session.deliverAll bytes (session.others host) host).1 ∧
          after = (session.deliverAll bytes (session.others host) host).2 ∧
            session.said text host = session.toldAll bytes (session.others host) host := by
  cases legal : checkText text with
  | error error =>
    simp only [say, legal] at outcome
    cases outcome
    exact .inl ⟨error, rfl, rfl, by rw [said, legal]⟩
  | ok bytes =>
    obtain ⟨-, held⟩ := (say_eq_some_iff legal).mp outcome
    cases held
    exact .inr ⟨bytes, rfl, rfl, rfl, by rw [said, legal]⟩

omit [Carrier σ] in
theorem mem_others {recipient : ParticipantId} (member : recipient ∈ session.others host) :
    recipient ∈ (host.registry session.room.store).participants := by
  simp only [others, List.mem_filter] at member
  exact member.1

/-- Handling takes the recipient's own message out of the slot that a notification names, and
nothing else. -/
structure Takes (session : Session) (slot : Nat) (answer : Option Message) (host after : Host σ) :
    Prop where
  members : host.SameMembers after
  carrier : after.carrier = host.carrier
  applied : replay? Entry.effect? host.contents (session.handled (.messageReady slot) answer) =
    some after.contents
  missed : answer = none → ∀ message, host.contents session.room.store slot = some message →
    message.recipient ≠ session.me

omit [Carrier σ] in
theorem takes_takeHeld (slot : Nat) (made : session.room.store < host.stores.objects.size) :
    session.Takes slot (session.takeHeld slot host).1 host (session.takeHeld slot host).2 := by
  have members := Host.sameMembers_setMailbox
    ((host.memory session.room.store).mailbox.take slot session.me).2 made
  refine ⟨members, rfl, ?_, ?_⟩
  · rcases taken : (host.memory session.room.store).mailbox.take slot session.me with
      ⟨_ | message, mailbox⟩
    · obtain ⟨rfl, -⟩ := Mailbox.take_eq_none taken
      have same : (session.takeHeld slot host).2.contents = host.contents := by
        funext store index
        simp only [takeHeld, Room.memory, Room.setMemory, taken, Host.contents_setMemory _ made]
        split_ifs with own
        · rw [own, Host.contents]
        · rfl
      simp only [takeHeld, Room.memory, taken, handled] at same ⊢
      rw [same]
      rfl
    · obtain ⟨lies, recipient, rfl⟩ := Mailbox.take_eq_some taken
      have lies : host.contents session.room.store slot = some message := lies
      have same : (session.takeHeld slot host).2.contents =
          host.contents.put session.room.store slot none := by
        funext store index
        simp only [takeHeld, Room.memory, Room.setMemory, taken, Host.contents_setMemory _ made,
          Mailbox.content?_release, Contents.put]
        by_cases own : store = session.room.store
        · by_cases there : index = slot <;> simp [own, there, Host.contents]
        · simp [own]
      simp only [takeHeld, Room.memory, taken, handled] at same ⊢
      rw [same]
      simp [replay?_cons, Entry.effect?, lies, recipient]
  · intro nothing message lies
    rcases taken : (host.memory session.room.store).mailbox.take slot session.me with
      ⟨_ | other, mailbox⟩
    · exact (Mailbox.take_eq_none taken).2 message lies
    · simp only [takeHeld, Room.memory, taken] at nothing
      cases nothing

omit [Carrier σ] in
/-- A message that lies in a slot after a taking lay there before, and the taking was not of its
recipient in its slot. -/
theorem Takes.lies {slot : Nat} {answer : Option Message} {posting : Posting}
    (takes : session.Takes slot answer host after)
    (lies : after.contents posting.store posting.slot = some posting.message) :
    host.contents posting.store posting.slot = some posting.message ∧
      (posting.message.recipient = session.me → posting.store = session.room.store →
        posting.slot ≠ slot) := by
  have applied := takes.applied
  cases answer with
  | none =>
    have same : host.contents = after.contents := Option.some.inj applied
    rw [same]
    refine ⟨lies, fun own here there => takes.missed rfl posting.message ?_ own⟩
    rw [same, ← here, ← there, lies]
  | some message =>
    obtain ⟨_, entry, same⟩ := Option.bind_eq_some_iff.mp applied
    cases same
    rcases Posting.effect?_lies entry lies with wrong | ⟨kept, before⟩
    · cases wrong
    · exact ⟨before, fun _ here there => kept ⟨here.symm, there.symm⟩⟩

/-- What a refused and an accepted delivery keep, telling keeps. -/
theorem tell_invariant (holds : Host σ → List Entry → Prop) {text : String}
    {result : Except ChatError (Fin mailboxSlots)} {log : List Entry}
    (made : session.room.store < host.stores.objects.size)
    (outcome : session.tell target text host = some (result, after))
    (refuses : ∀ last, Refuses host last → holds last log)
    (posts : ∀ bytes slot last, target ∈ (host.registry session.room.store).participants →
      session.Posts target bytes slot host last →
        holds last (log ++ [.accepted (session.posting target bytes slot)])) :
    holds after (log ++ session.told target (Text.utf8 text) result) := by
  rcases tell_cases made outcome with ⟨_, rfl, refused⟩ | ⟨slot, rfl, member, posted⟩
  · simpa [told] using refuses after refused
  · exact posts _ slot after member posted

/-- What refused and accepted deliveries keep, saying keeps. -/
theorem say_invariant (holds : Host σ → List Entry → Prop) (log : List Entry) {text : String}
    {result : Except ChatError Broadcast}
    (made : session.room.store < host.stores.objects.size)
    (outcome : session.say text host = some (result, after)) (initial : holds host log)
    (refuses : ∀ middle log last, host.SameMembers middle → holds middle log → Refuses middle last →
      holds last log)
    (posts : ∀ middle log target bytes slot last, host.SameMembers middle → holds middle log →
      target ∈ (host.registry session.room.store).participants →
        session.Posts target bytes slot middle last →
          holds last (log ++ [.accepted (session.posting target bytes slot)])) :
    holds after (log ++ session.said text host) := by
  rcases say_cases outcome with ⟨_, -, rfl, nothing⟩ | ⟨bytes, -, -, rfl, entries⟩
  · simpa [nothing] using initial
  · rw [entries]
    refine (deliverAll_induction (fun reached log => host.SameMembers reached ∧ holds reached log) log
      (fun recipient among middle log result reached kept delivered => ?_) ⟨.refl host, initial⟩).2
    obtain ⟨members, held⟩ := kept
    have still : session.room.store < middle.stores.objects.size := by rwa [members.rooms.size]
    rcases deliver_cases still delivered with ⟨_, rfl, refused⟩ | ⟨slot, rfl, posted⟩
    · exact ⟨members.trans refused.members, by simpa [told] using refuses _ _ _ members held refused⟩
    · exact ⟨members.trans posted.members,
        posts _ _ _ _ slot _ members held (mem_others among) posted⟩

theorem tell_sameMembers {text : String} {result : Except ChatError (Fin mailboxSlots)}
    (made : session.room.store < host.stores.objects.size)
    (outcome : session.tell target text host = some (result, after)) : host.SameMembers after := by
  rcases tell_cases made outcome with ⟨_, -, refuses⟩ | ⟨_, -, -, posts⟩
  · exact refuses.members
  · exact posts.members

theorem say_sameMembers {text : String} {result : Except ChatError Broadcast}
    (made : session.room.store < host.stores.objects.size)
    (outcome : session.say text host = some (result, after)) : host.SameMembers after :=
  say_invariant (fun reached _ => host.SameMembers reached) [] made outcome (.refl host)
    (fun _ _ _ _ members refused => members.trans refused.members)
    (fun _ _ _ _ _ _ _ members _ posted => members.trans posted.members)

/-- Handling a notification of a message takes the message; handling any other one at most answers
it. -/
theorem handle_cases {envelope : Envelope} {answer : Option Message}
    (made : session.room.store < host.stores.objects.size)
    (outcome : session.handle envelope host = some (answer, after)) :
    ((∀ slot, envelope.notification ≠ .messageReady slot) ∧
      session.handled envelope.notification answer = [] ∧ (after = host ∨
        host.notify session.me envelope.sender (.joinApprove session.room.id) = .ok after)) ∨
      ∃ slot, envelope.notification = .messageReady slot ∧ session.Takes slot answer host after := by
  rcases envelope with ⟨sender, _ | room | slot⟩
  · refine .inl ⟨nofun, rfl, ?_⟩
    simp only [handle] at outcome
    cases sent : host.notify session.me sender (.joinApprove session.room.id) with
    | error fault =>
      rw [sent] at outcome
      cases outcome
      exact .inl rfl
    | ok notified =>
      rw [sent] at outcome
      cases outcome
      exact .inr rfl
  · cases outcome
    exact .inl ⟨nofun, rfl, .inl rfl⟩
  · obtain ⟨-, held⟩ := handle_messageReady_eq_some_iff.mp outcome
    have takes := takes_takeHeld slot made
    rw [held] at takes
    exact .inr ⟨slot, rfl, takes⟩

theorem handle_sameMembers {envelope : Envelope} {answer : Option Message}
    (made : session.room.store < host.stores.objects.size)
    (outcome : session.handle envelope host = some (answer, after)) : host.SameMembers after := by
  rcases handle_cases made outcome with ⟨-, -, rfl | sent⟩ | ⟨_, -, takes⟩
  · exact .refl _
  · exact Host.sameMembers_notify sent
  · exact takes.members

end Session

end HostChat
