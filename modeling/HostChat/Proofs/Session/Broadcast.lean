import HostChat.Proofs.Exchange.Routes
import HostChat.Proofs.Memory.Vacancies
import HostChat.Proofs.Session.Allotment
import HostChat.Proofs.Session.Working

/-! # What a broadcast does

A broadcast is a list of deliveries. Each of them puts a message into the lowest free slot and notifies
its recipient of that, or changes nothing at all; in either case it stays the same who can be reached.
So a broadcast is determined by the free slots and by who can be reached when it begins.
-/

namespace HostChat

/-- Whether notifications to somebody get to a channel. -/
def Host.reaches (host : Host Exchange) (id : ParticipantId) : Bool :=
  (host.carrier.target? id).isSome

/-- Puts a message into a slot of a room. -/
def Room.put {σ : Type} (room : Room) (host : Host σ) (slot : Fin mailboxSlots) (message : Message) :
    Host σ :=
  let memory := room.memory host
  room.setMemory host { memory with mailbox := memory.mailbox.put slot message }

theorem Room.memory_put {σ : Type} {room : Room} {host : Host σ}
    (made : room.store < host.stores.objects.size) (slot : Fin mailboxSlots) (message : Message)
    (carrier : σ) : room.memory { room.put host slot message with carrier } =
      { room.memory host with mailbox := (room.memory host).mailbox.put slot message } :=
  Host.memory_setMemory host _ made

namespace Session

variable {session : Session} {host : Host Exchange} {target : ParticipantId} {text : List UInt8}
  {slot : Fin mailboxSlots} {free : List (Fin mailboxSlots)}

/-- The slots of the room that are free. -/
def vacancies (session : Session) (host : Host Exchange) : List (Fin mailboxSlots) :=
  (session.room.memory host).mailbox.vacancies

/-- Puts a message into a slot and notifies its recipient. -/
def post (session : Session) (text : List UInt8) (host : Host Exchange)
    (letter : ParticipantId × Fin mailboxSlots) : Host Exchange :=
  let memory := session.room.memory host
  let mailbox := memory.mailbox.put letter.2 ⟨session.me, letter.1, text⟩
  { session.room.setMemory host { memory with mailbox } with
    carrier := host.carrier.put letter.1 ⟨session.me, .messageReady letter.2⟩ }

/-- What a broadcast relies on. -/
structure Ready (session : Session) (host : Host Exchange) : Prop where
  made : session.room.store < host.stores.objects.size
  clean : (session.room.memory host).mailbox.Clean

private theorem memory_post (made : session.room.store < host.stores.objects.size) (text : List UInt8)
    (letter : ParticipantId × Fin mailboxSlots) :
    session.room.memory (session.post text host letter) =
      { session.room.memory host with
        mailbox := (session.room.memory host).mailbox.put letter.2 ⟨session.me, letter.1, text⟩ } :=
  Room.memory_put made letter.2 _ _

private theorem size_post (letter : ParticipantId × Fin mailboxSlots) :
    (session.post text host letter).stores.objects.size = host.stores.objects.size :=
  Host.setMemory_size ..

private theorem reaches_post (letter : ParticipantId × Fin mailboxSlots) :
    (session.post text host letter).reaches = host.reaches :=
  funext fun _ => congrArg Option.isSome Exchange.target?_put

theorem Ready.post (ready : session.Ready host) (letter : ParticipantId × Fin mailboxSlots)
    (fits : (⟨session.me, letter.1, text⟩ : Message).Fits) :
    session.Ready (session.post text host letter) where
  made := by
    rw [size_post]
    exact ready.made
  clean := by
    rw [memory_post ready.made]
    exact ready.clean.put fits

private theorem vacancies_post (ready : session.Ready host)
    (fits : (⟨session.me, target, text⟩ : Message).Fits)
    (vacant : session.vacancies host = slot :: free) :
    session.vacancies (session.post text host (target, slot)) = free := by
  rw [vacancies, memory_post ready.made]
  exact Mailbox.vacancies_put fits vacant

section Deliver

variable {σ : Type} [Carrier σ] {host : Host σ}

theorem deliver_of_full (fits : (⟨session.me, target, text⟩ : Message).Fits)
    (full : (session.room.memory host).mailbox.vacancies = []) :
    session.deliver target text host = (.error .mailboxFull, host) := by
  rw [deliver, Mailbox.store_of_full fits full]
  rfl

/-- A delivery fills the lowest free slot, and frees it again if the recipient cannot be notified. -/
theorem deliver_eq (fits : (⟨session.me, target, text⟩ : Message).Fits)
    (clean : (session.room.memory host).mailbox.Clean)
    (vacant : (session.room.memory host).mailbox.vacancies = slot :: free) :
    session.deliver target text host =
      match Carrier.notify host.carrier session.me target (.messageReady slot) with
      | .ok carrier =>
        (.ok slot, { session.room.put host slot ⟨session.me, target, text⟩ with carrier })
      | .error fault => (.error (.unreachable target fault), host) := by
  have alike (memory : RoomMemory) : (session.room.setMemory host memory).carrier = host.carrier :=
    rfl
  rw [deliver, Mailbox.store_of_vacant fits clean vacant]
  dsimp only
  rw [Host.notify, alike]
  cases Carrier.notify host.carrier session.me target (.messageReady slot) with
  | ok carrier => rfl
  | error fault =>
    dsimp only [Except.map]
    rw [Mailbox.release_put (clean.of_vacant vacant), Room.setMemory, Room.setMemory,
      Host.setMemory_setMemory]
    exact congrArg (Prod.mk _) (Host.setMemory_self host session.room.store)

end Deliver

theorem deliver_of_vacant (ready : session.Ready host)
    (fits : (⟨session.me, target, text⟩ : Message).Fits)
    (vacant : session.vacancies host = slot :: free) :
    session.deliver target text host =
      if host.reaches target then (.ok slot, session.post text host (target, slot))
      else (.error (.unreachable target .noSuchProcess), host) := by
  rw [deliver_eq fits ready.clean vacant, Exchange.notify_eq, Host.reaches]
  split_ifs <;> rfl

/-- Makes several deliveries that nothing is in the way of. -/
def postAll (session : Session) (text : List UInt8) (host : Host Exchange)
    (letters : List (ParticipantId × Fin mailboxSlots)) : Host Exchange :=
  letters.foldl (session.post text) host

theorem deliverAll_eq (ready : session.Ready host)
    (fits : ∀ target, (⟨session.me, target, text⟩ : Message).Fits) (recipients : List ParticipantId) :
    session.deliverAll text recipients host =
      (.report (allot host.reaches (session.vacancies host) recipients),
        session.postAll text host
          ((recipients.filter host.reaches).zip (session.vacancies host))) := by
  induction recipients generalizing host with
  | nil => rfl
  | cons recipient rest ih =>
    rw [deliverAll]
    cases vacant : session.vacancies host with
    | nil =>
      have nobody := ih ready
      rw [vacant, List.zip_nil_right] at nobody
      rw [deliver_of_full (fits recipient) vacant, List.zip_nil_right, allot, List.tail_nil, ite_self]
      dsimp only
      rw [nobody]
      rfl
    | cons slot free =>
      rw [deliver_of_vacant ready (fits recipient) vacant, allot, fate]
      cases reached : host.reaches recipient with
      | true =>
        have others := ih (ready.post (recipient, slot) (fits recipient))
        rw [reaches_post, vacancies_post ready (fits recipient) vacant] at others
        rw [List.filter_cons_of_pos reached, List.zip_cons_cons]
        simp only [if_true, others]
        rfl
      | false =>
        have others := ih ready
        rw [vacant] at others
        rw [List.filter_cons_of_neg (by simp [reached])]
        simp only [Bool.false_eq_true, if_false, others]
        rfl

/-- The letters of a broadcast as the room holds them. -/
def stored (session : Session) (text : List UInt8) (letters : List (ParticipantId × Fin mailboxSlots)) :
    List (Fin mailboxSlots × Message) :=
  letters.map fun letter => (letter.2, ⟨session.me, letter.1, text⟩)

/-- The notifications of the letters of a broadcast. -/
def announced (session : Session) (letters : List (ParticipantId × Fin mailboxSlots)) :
    List (ParticipantId × Envelope) :=
  letters.map fun letter => (letter.1, ⟨session.me, .messageReady letter.2⟩)

/-- Deliveries write one mailbox and send notifications. -/
theorem postAll_eq (made : session.room.store < host.stores.objects.size)
    (letters : List (ParticipantId × Fin mailboxSlots)) :
    session.postAll text host letters =
      { session.room.setMemory host { session.room.memory host with
          mailbox := (session.room.memory host).mailbox.putAll (session.stored text letters) } with
        carrier := host.carrier.putAll (session.announced letters) } := by
  induction letters generalizing host with
  | nil =>
    have same := Host.setMemory_self host session.room.store
    exact congrArg (fun kept => { kept with carrier := host.carrier }) same.symm
  | cons letter rest ih =>
    have first := memory_post made text letter
    have others := @ih (session.post text host letter) (by rwa [size_post])
    rw [first] at others
    refine others.trans ?_
    have once (memory next : RoomMemory) :
        session.room.setMemory (session.room.setMemory host memory) next =
          session.room.setMemory host next :=
      Host.setMemory_setMemory host session.room.store memory next
    exact congrArg (fun written => { written with
      carrier := (session.post text host letter).carrier.putAll (session.announced rest) }) (once _ _)

private theorem memory_postAll (made : session.room.store < host.stores.objects.size)
    (text : List UInt8) (letters : List (ParticipantId × Fin mailboxSlots)) :
    session.room.memory (session.postAll text host letters) =
      { session.room.memory host with
        mailbox := (session.room.memory host).mailbox.putAll (session.stored text letters) } := by
  rw [postAll_eq made]
  exact Host.memory_setMemory host _ made

private theorem carrier_postAll (made : session.room.store < host.stores.objects.size)
    (text : List UInt8) (letters : List (ParticipantId × Fin mailboxSlots)) :
    (session.postAll text host letters).carrier =
      host.carrier.putAll (session.announced letters) := by
  rw [postAll_eq made]

/-- What a broadcast reports. -/
def report (session : Session) (host : Host Exchange) : Broadcast :=
  .report (allot host.reaches (session.vacancies host) (session.others host))

/-- Who gets which slot in a broadcast. -/
def letters (session : Session) (host : Host Exchange) : List (ParticipantId × Fin mailboxSlots) :=
  ((session.others host).filter host.reaches).zip (session.vacancies host)

private theorem slots_letters : (session.letters host).map Prod.snd =
    (session.vacancies host).take (session.letters host).length := by
  rw [letters, List.length_zip, List.zip_eq_zip_take_min, List.map_snd_zip (by simp)]

/-- What a broadcast reports and what it leaves behind. -/
structure Said (session : Session) (text : List UInt8) (host : Host Exchange) (broadcast : Broadcast)
    (after : Host Exchange) : Prop where
  delivered : broadcast.delivered.Sublist (session.others host)
  failed : (broadcast.failed.map Prod.fst).Sublist (session.others host)
  once : (broadcast.delivered ++ broadcast.failed.map Prod.fst).Nodup
  everyone : ∀ id, id ∈ broadcast.delivered ++ broadcast.failed.map Prod.fst ↔
    id ∈ (session.room.memory host).registry.participants ∧ id ≠ session.me
  /-- What becomes of a recipient depends on how many of those before it can be reached. -/
  fates : ∀ before recipient later, session.others host = before ++ recipient :: later →
    ((recipient, .mailboxFull) ∈ broadcast.failed ↔
      (session.vacancies host).length ≤ before.countP host.reaches) ∧
    ((recipient, .unreachable recipient .noSuchProcess) ∈ broadcast.failed ↔
      before.countP host.reaches < (session.vacancies host).length ∧ host.reaches recipient = false) ∧
    (recipient ∈ broadcast.delivered ↔
      before.countP host.reaches < (session.vacancies host).length ∧ host.reaches recipient = true)
  /-- The free slots are given out from the lowest one on. -/
  letters : ∀ (index : Nat) recipient, broadcast.delivered[index]? = some recipient →
    ∃ slot number, (session.vacancies host)[index]? = some slot ∧
      (session.room.memory after).mailbox.slots.get slot = .holding ⟨session.me, recipient, text⟩ ∧
      host.carrier.target? recipient = some number ∧
      after.carrier.inbox number =
        ⟨(host.carrier.inbox number).queue ++ [⟨session.me, .messageReady slot⟩],
          (host.carrier.inbox number).closed⟩
  slots : ∀ slot ∉ (session.vacancies host).take broadcast.delivered.length,
    (session.room.memory after).mailbox.slots.get slot = (session.room.memory host).mailbox.slots.get slot
  registry : (session.room.memory after).registry = (session.room.memory host).registry
  header : (session.room.memory after).header = (session.room.memory host).header
  inboxes : ∀ number,
    (∀ recipient ∈ broadcast.delivered, host.carrier.target? recipient ≠ some number) →
      after.carrier.inbox number = host.carrier.inbox number
  reaches : after.reaches = host.reaches
  /-- Other rooms, all names and all locks stay as they are. -/
  elsewhere : after = { session.room.setMemory host (session.room.memory after) with
    carrier := after.carrier }

theorem said_postAll (made : session.room.store < host.stores.objects.size)
    (apart : (session.others host).Nodup) (routed : host.carrier.Routed) :
    session.Said text host (session.report host)
      (session.postAll text host (session.letters host)) := by
  have everyone : ((session.report host).delivered ++ (session.report host).failed.map Prod.fst).Perm
      (session.others host) := report_perm map_fst_allot
  have served : (session.report host).delivered = (session.letters host).map Prod.fst :=
    delivered_allot
  have recipients : ((session.letters host).map Prod.fst).Nodup := by
    rw [← served]
    exact (everyone.nodup_iff.mpr apart).of_append_left
  have slots : (session.stored text (session.letters host)).map Prod.fst =
      (session.vacancies host).take (session.letters host).length := by
    rw [← slots_letters, stored, List.map_map]
    rfl
  have memory := memory_postAll made text (session.letters host)
  have carrier := carrier_postAll made text (session.letters host)
  constructor
  case delivered => exact delivered_report_sublist map_fst_allot
  case failed => exact failed_report_sublist map_fst_allot
  case once => exact everyone.nodup_iff.mpr apart
  case everyone =>
    intro id
    rw [everyone.mem_iff, others, List.mem_filter, decide_eq_true_eq]
  case fates =>
    intro before recipient later split
    rw [split] at apart
    rw [report, split]
    exact ⟨mailboxFull_mem_allot apart, unreachable_mem_allot apart, mem_delivered_allot apart⟩
  case letters =>
    intro index recipient delivered
    rw [served, List.getElem?_map, Option.map_eq_some_iff] at delivered
    obtain ⟨⟨_, slot⟩, given, rfl⟩ := delivered
    have sent := List.mem_of_getElem? given
    obtain ⟨reached, lowest⟩ := List.getElem?_zip_eq_some.mp given
    obtain ⟨number, target⟩ := Option.isSome_iff_exists.mp
      (List.mem_filter.mp (List.mem_of_getElem? reached)).2
    refine ⟨slot, number, lowest, ?_, target, ?_⟩
    · rw [memory]
      refine Mailbox.slots_putAll_of_mem ?_ (List.mem_map_of_mem sent)
      rw [slots]
      exact (Mailbox.nodup_vacancies _).sublist (List.take_sublist _ _)
    · rw [carrier]
      refine routed.inbox_putAll_of_mem ?_ (List.mem_map_of_mem sent) target
      rwa [announced, List.map_map]
  case slots =>
    intro slot spared
    rw [memory]
    refine Mailbox.slots_putAll_of_notMem ?_
    rwa [slots, ← List.length_map Prod.fst, ← served]
  case registry => rw [memory]
  case header => rw [memory]
  case inboxes =>
    intro number silent
    rw [carrier]
    refine Exchange.inbox_putAll_of_silent fun envelope sent => ?_
    obtain ⟨letter, given, rfl⟩ := List.mem_map.mp sent
    exact silent letter.1 (served ▸ List.mem_map_of_mem given)
  case reaches =>
    funext id
    rw [Host.reaches, Host.reaches, carrier, Exchange.target?_putAll]
  case elsewhere => rw [memory, carrier, ← postAll_eq made]

/-- Everybody else in a room is served in the order of the registry: with the lowest slot that is
left, if there is one and the notification of it arrives, and otherwise not at all. A text that is
empty or too long is refused. -/
theorem say_serves_in_order (works : session.room.Working host) (reachable : host.carrier.Reachable)
    (text : String) :
    (Text.utf8 text ≠ [] → (Text.utf8 text).length ≤ maxMessageBytes → ∃ broadcast after,
      session.say text host = some (.ok broadcast, after) ∧
        session.Said (Text.utf8 text) host broadcast after) ∧
    (Text.utf8 text = [] → session.say text host = some (.error .emptyMessage, host)) ∧
    (maxMessageBytes < (Text.utf8 text).length → session.say text host =
      some (.error (.overflow (Text.utf8 text).length maxMessageBytes), host)) := by
  refine ⟨fun filled bound => ?_, fun blank => ?_, fun long => ?_⟩
  · have legal := checkText_of_fits filled bound
    have ready : session.Ready host := ⟨works.made, works.usable.mailbox.clean⟩
    have fits (target : ParticipantId) : (⟨session.me, target, Text.utf8 text⟩ : Message).Fits :=
      ⟨filled, bound⟩
    refine ⟨_, _, (say_eq_some_iff legal).mpr ⟨works.unlocked, ?_⟩,
      said_postAll works.made (works.usable.apart.filter _) reachable.routed⟩
    rw [sayHeld, deliverAll_eq ready fits]
    rfl
  · rw [say, checkText_of_blank blank]
  · rw [say, checkText_of_long long]

def dora : ParticipantId := ⟨44, by decide⟩

/-- anna is in a room with three others, and all slots but one hold messages to her. -/
def cramped : RoomMemory where
  header := .room
  registry := ⟨#v[anna.raw, bert.raw, 0, cleo.raw, dora.raw, 0, 0, 0, 0, 0]⟩
  mailbox := Mailbox.release ⟨.replicate mailboxSlots (.holding ⟨cleo, anna, [7]⟩)⟩ 200

/-- cleo and dora can be notified, and bert no longer can. -/
def waiting : Exchange :=
  (((Exchange.empty.connect bert).2.connect cleo).2.connect dora).2.disconnect bert

def crampedHost : Host Exchange :=
  ⟨⟨#[⟨RoomMemory.byteSize, cramped⟩], .empty⟩, ⟨#[1], .empty⟩, waiting⟩

def slot200 : Fin mailboxSlots := ⟨200, by decide⟩

theorem working_crampedHost : annasSession.room.Working crampedHost := by
  refine ⟨by decide, ⟨by decide +kernel, ?_⟩, 0, rfl⟩
  refine Mailbox.Usable.release (fun slot member => ?_) 200
  rw [Vector.eq_of_mem_replicate member]
  exact .inr ⟨⟨cleo, anna, [7]⟩, by decide +kernel, by decide +kernel⟩

theorem vacancies_crampedHost : annasSession.vacancies crampedHost = [slot200] := by
  decide +kernel

/-- bert does not use up the slot, so that cleo gets it, and nothing is left for dora. -/
theorem say_serves_in_order_when_cramped : ∃ broadcast after,
    annasSession.say "hi" crampedHost = some (.ok broadcast, after) ∧
    (bert, .unreachable bert .noSuchProcess) ∈ broadcast.failed ∧
    cleo ∈ broadcast.delivered ∧ (dora, .mailboxFull) ∈ broadcast.failed ∧
    (annasSession.room.memory after).mailbox.slots.get slot200 =
      .holding ⟨anna, cleo, Text.utf8 "hi"⟩ := by
  have reachable : crampedHost.carrier.Reachable :=
    .disconnect (.connect (.connect (.connect .empty bert) cleo) dora) bert
  obtain ⟨broadcast, after, said, done⟩ := (say_serves_in_order working_crampedHost reachable "hi").1
    (by decide +kernel) (by decide +kernel)
  have others : annasSession.others crampedHost = [bert, cleo, dora] := by decide +kernel
  have served : cleo ∈ broadcast.delivered :=
    (done.fates [bert] cleo [dora] others).2.2.mpr (by rw [vacancies_crampedHost]; decide +kernel)
  refine ⟨broadcast, after, said, ?_, served, ?_, ?_⟩
  · exact (done.fates [] bert [cleo, dora] others).2.1.mpr (by rw [vacancies_crampedHost]; decide +kernel)
  · exact (done.fates [bert, cleo] dora [] others).1.mpr (by rw [vacancies_crampedHost]; decide +kernel)
  · obtain ⟨index, first⟩ := List.mem_iff_getElem?.mp served
    obtain ⟨slot, _, lowest, holds, -⟩ := done.letters index cleo first
    have only : slot ∈ [slot200] := vacancies_crampedHost ▸ List.mem_of_getElem? lowest
    rw [List.mem_singleton.mp only] at holds
    exact holds

end Session

end HostChat
