import HostChat.Exchange
import HostChat.Proofs.Occupancy.Departure

/-! # Rooms that stay reachable

As long as nobody has two sessions or joins at a time, the room of every live session is found under
its names, except after a join has registered in a store that was emptied since it attached. Then
the names are gone for good, or belong to another room. So a run keeps all live sessions reachable
exactly if no registration in it comes too late.
-/

namespace HostChat

variable {σ : Type}

namespace Occupancy

variable {state next : Occupancy σ} {after : Host σ} {seat : Seat} {act : Act σ}

namespace Settled

/-- With the names of a room free, its maker finds nobody in it. -/
theorem occupants_free (settled : state.Settled) (running : ParticipantId → Bool) {ns : String}
    {me : ParticipantId}
    (free : ∀ seat ∈ state.live, ∀ key, objectKey .store seat.session.room.names.store = .ok key →
      objectKey .store (RoomNames.ofRoom ns me).store ≠ .ok key) :
    (Room.occupants running ns me state.host).1 = 0 := by
  cases attached : Room.attach ns me state.host with
  | error error => exact Room.occupants_of_error attached
  | ok room =>
    obtain ⟨store, -, found, -⟩ := Room.attach_eq_ok_iff.mp attached
    obtain ⟨key, own, found⟩ := Directory.find?_eq_some_iff.mp found
    rw [(settled.names_free free).1 key own] at found
    cases found

theorem create (settled : state.Settled) {running : ParticipantId → Bool} {ns : String}
    {me : ParticipantId} {result : Except ChatError Session} (covers : state.covers running = true)
    (vacant : me ∉ ids (state.entering ++ state.live))
    (outcome : Session.create running ns me state.host = some (result, after)) :
    (state.conclude ns result after).Settled := by
  by_cases occupied : ∃ seat ∈ state.live, ∃ key,
      objectKey .store seat.session.room.names.store = .ok key ∧
        objectKey .store (RoomNames.ofRoom ns me).store = .ok key
  · obtain ⟨seat, member, key, legal, own⟩ := occupied
    have absent : me ∉ ids state.live := by
      rw [ids, List.map_append] at vacant
      exact fun live => vacant (List.mem_append_right _ live)
    obtain ⟨count, succ⟩ := Nat.exists_eq_succ_of_ne_zero
      (Nat.ne_of_gt (occupants_pos member))
    have found := (settled.occupants covers absent member legal own).trans succ
    rw [Session.create_of_occupied found] at outcome
    cases outcome
    exact settled
  · have free : ∀ seat ∈ state.live, ∀ key,
        objectKey .store seat.session.room.names.store = .ok key →
          objectKey .store (RoomNames.ofRoom ns me).store ≠ .ok key :=
      fun seat member key legal own => occupied ⟨seat, member, key, legal, own⟩
    rcases Session.create_cases (settled.occupants_free running free) outcome with
      ⟨error, rfl, forgets⟩ | ⟨room, storeKey, lockKey, rfl, id, names, opens⟩
    · exact settled.forgets free forgets
    · have fresh : room.store ∉ state.emptied := by
        intro member
        have bound := (settled.emptied room.store member).1
        have new : room.store = state.host.stores.objects.size := opens.store
        omega
      simp only [conclude, if_neg fresh]
      exact settled.opens free vacant id names opens

theorem enters (settled : state.Settled) {ns : String} {me : ParticipantId}
    {result : Except ChatError Session} (vacant : me ∉ ids (state.entering ++ state.live))
    (enters : Session.Enters ns me result state.host after) :
    (state.conclude ns result after).Settled := by
  rcases enters with ⟨error, rfl, rfl⟩ | ⟨id, room, attached, rfl, registers⟩
  · exact settled
  · obtain ⟨placed, storeKey, lockKey, named⟩ := settled.attached me attached
    have open_ : room.store ∉ state.emptied :=
      fun member => (settled.emptied room.store member).2 storeKey named.store
    simp only [conclude, if_neg open_]
    exact settled.registers vacant placed named registers

theorem resume (settled : state.Settled) {ns : String} {me : ParticipantId} {inbox : Inbox}
    {joining : Joining} {queue : List Envelope} (vacant : me ∉ ids (state.entering ++ state.live))
    (outcome : Session.resumeJoin ns me inbox state.host = some (joining, queue, after)) :
    (state.proceed ns joining after).Settled := by
  rcases Session.resumeJoin_cases outcome with ⟨rfl, rfl⟩ | ⟨result, rfl, enters⟩
  · exact settled
  · exact settled.enters vacant enters

theorem join [Carrier σ] (settled : state.Settled) {ns : String} {me known : ParticipantId}
    {inbox : σ → Inbox} {joining : Joining} {queue : List Envelope}
    (vacant : me ∉ ids (state.entering ++ state.live))
    (outcome : Session.join ns me known inbox state.host = some (joining, queue, after)) :
    (state.proceed ns joining after).Settled := by
  simp only [Session.join] at outcome
  cases requested : Session.requestJoin me known state.host with
  | error error =>
    simp only [requested] at outcome
    cases outcome
    exact settled
  | ok sent =>
    simp only [requested] at outcome
    have members := Host.sameMembers_notify (Session.requestJoin_eq_ok requested)
    exact (settled.sameMembers members).resume vacant outcome

theorem leave (settled : state.Settled) (member : seat ∈ state.live)
    {result : Except ChatError Departure}
    (outcome : seat.session.leave state.host = some (result, after)) :
    (state.depart seat result after).Settled := by
  by_cases last : inStore (state.live.erase seat) seat.session.room.store = []
  · obtain ⟨⟨dropped, rfl⟩, settled⟩ := settled.leave_last member last outcome
    exact settled
  · obtain ⟨⟨dropped, rfl⟩, settled⟩ := settled.leave_remaining member last outcome
    exact settled

/-- A session that registers in an emptied store is in a room that its names do not lead to. -/
theorem unreachable (settled : state.Settled)
    (emptied : seat.session.room.store ∈ state.emptied)
    (names : after.stores.names = state.host.stores.names) : ¬seat.Reachable after := by
  intro reachable
  obtain ⟨store, lock, found, -, -, same⟩ := Room.attach_eq_ok_iff.mp reachable
  obtain ⟨key, -, found⟩ := Directory.find?_eq_some_iff.mp found
  rw [names] at found
  rw [same] at emptied
  exact (settled.emptied store emptied).2 key found

end Settled

/-- A registration that comes too late for its room. -/
def TooLate (act : Act σ) (next : Occupancy σ) : Prop :=
  ∃ seat, act = .register seat ∧ seat ∈ next.live ∧ ¬seat.Reachable next.host ∧ next.late ≠ []

theorem Settled.register (settled : state.Settled) (member : seat ∈ state.entering)
    {result : Except ChatError (Fin maxParticipants)}
    (outcome : seat.session.register state.host = some (result, after)) :
    let next := { state with entering := state.entering.erase seat }.conclude seat.ns
      (result.map fun _ => seat.session) after
    next.Settled ∨ TooLate (.register seat) next := by
  have placed := settled.placed seat (List.mem_append_left _ member)
  obtain ⟨erased, vacant⟩ := settled.erase member
  rcases Session.register_cases _ placed.made outcome with ⟨error, rfl, rfl⟩ | ⟨place, rfl, registers⟩
  · exact .inl erased
  · by_cases emptied : seat.session.room.store ∈ state.emptied
    · refine .inr ⟨seat, rfl, List.mem_cons_self .., ?_, ?_⟩
      · exact settled.unreachable emptied registers.rooms.names
      · simp [conclude, Except.map, emptied]
    · obtain ⟨storeKey, lockKey, named⟩ := settled.ahead seat member emptied
      left
      simp only [conclude, Except.map, if_neg emptied]
      exact erased.registers vacant placed named registers

/-- Every step keeps names, registries and sessions in step, unless it registers too late. -/
theorem Settled.step [Carrier σ] (settled : state.Settled) (allowed : state.exclusive act = true)
    (stepped : state.step act = some next) : next.Settled ∨ TooLate act next := by
  cases moves_of_step stepped with
  | create outcome =>
    simp only [exclusive, vacant, Bool.and_eq_true, decide_eq_true_eq] at allowed
    exact .inl (settled.create allowed.1 allowed.2 outcome)
  | join outcome =>
    simp only [exclusive, vacant, decide_eq_true_eq] at allowed
    exact .inl (settled.join allowed outcome)
  | resume outcome =>
    simp only [exclusive, vacant, decide_eq_true_eq] at allowed
    exact .inl (settled.resume allowed outcome)
  | attach attached =>
    simp only [exclusive, vacant, decide_eq_true_eq] at allowed
    obtain ⟨placed, storeKey, lockKey, named⟩ := settled.attached _ attached
    exact .inl (settled.attach allowed placed named)
  | astray => exact .inl settled
  | register member outcome => exact settled.register member outcome
  | tell member outcome =>
    exact .inl (settled.sameMembers (Session.tell_sameMembers (settled.placedLive member).made outcome))
  | say member outcome =>
    exact .inl (settled.sameMembers (Session.say_sameMembers (settled.placedLive member).made outcome))
  | handle member outcome =>
    exact .inl (settled.sameMembers
      (Session.handle_sameMembers (settled.placedLive member).made outcome))
  | leave member outcome => exact .inl (settled.leave member outcome)
  | carry => exact .inl (settled.sameMembers (Host.sameMembers_carrier _ _))

/-- The rooms of all live sessions are found under their names. -/
def AllReachable (state : Occupancy σ) : Prop :=
  ∀ seat ∈ state.live, seat.Reachable state.host

theorem Settled.allReachable (settled : state.Settled) : state.AllReachable :=
  fun _ member => settled.reachable member

private theorem late_conclude (state : Occupancy σ) (ns : String) (result : Except ChatError Session)
    (host : Host σ) : state.late <:+ (state.conclude ns result host).late := by
  simp only [conclude]
  split
  · split_ifs
    · exact List.suffix_cons ..
    · exact List.suffix_refl _
  · exact List.suffix_refl _

private theorem late_proceed (state : Occupancy σ) (ns : String) (joining : Joining) (host : Host σ) :
    state.late <:+ (state.proceed ns joining host).late := by
  rcases joining with _ | result
  · exact List.suffix_refl _
  · exact late_conclude state ns result host

/-- Being late is never made good. -/
theorem late_of_step [Carrier σ] (stepped : state.step act = some next) :
    state.late <:+ next.late := by
  cases moves_of_step stepped with
  | create => exact late_conclude state _ _ _
  | join => exact late_proceed state _ _ _
  | resume => exact late_proceed state _ _ _
  | @register seat _ _ _ _ =>
    exact late_conclude { state with entering := state.entering.erase seat } seat.ns _ _
  | _ => exact List.suffix_refl _

theorem late_of_replay [Carrier σ] {final : Occupancy σ} {acts : List (Act σ)}
    (run : replay? (restrict exclusive step) state acts = some final) :
    state.late <:+ final.late :=
  replay?_invariant (fun reached : Occupancy σ => state.late <:+ reached.late)
    (fun _ _ _ grown stepped => grown.trans (late_of_step (restrict_eq_some_iff.mp stepped).2))
    (List.suffix_refl _) run

/-- A run that starts settled stays settled up to its first late registration. -/
theorem Settled.replay [Carrier σ] {final : Occupancy σ} {acts : List (Act σ)}
    (settled : state.Settled)
    (run : replay? (restrict exclusive Occupancy.step) state acts = some final)
    (timely : final.late = []) : final.Settled := by
  induction acts generalizing state with
  | nil =>
    cases run
    exact settled
  | cons act rest ih =>
    obtain ⟨next, stepped, run⟩ := Option.bind_eq_some_iff.mp run
    obtain ⟨allowed, stepped⟩ := restrict_eq_some_iff.mp stepped
    rcases settled.step allowed stepped with settled | ⟨_, -, -, -, late⟩
    · exact ih settled run
    · have grown := late_of_replay run
      rw [timely, List.suffix_nil] at grown
      exact absurd grown late

/-- Over a run in which nobody has two sessions or joins at a time, all live sessions can be reached
at every moment exactly if no registration lands in a store that was emptied before. -/
theorem always_reachable_iff_never_late [Carrier σ] {host : Host σ} {final : Occupancy σ}
    {acts : List (Act σ)} (nameless : host.Nameless)
    (run : replay? (restrict exclusive step) (start host) acts = some final) :
    (∀ earlier later reached, acts = earlier ++ later →
      replay? (restrict exclusive step) (start host) earlier = some reached →
        reached.AllReachable) ↔ final.late = [] := by
  constructor
  · intro always
    -- a first late registration would leave a live session that cannot be reached
    suffices settled : final.Settled from settled.timely
    have initial := settled_start nameless
    induction acts using List.reverseRecOn generalizing final with
    | nil =>
      cases run
      exact initial
    | append_singleton earlier act ih =>
      obtain ⟨reached, before, last⟩ := replay?_append_eq_some_iff.mp run
      have settled := ih before fun first second middle split =>
        always first (second ++ [act]) middle (by rw [split, List.append_assoc])
      obtain ⟨_, stepped, same⟩ := Option.bind_eq_some_iff.mp last
      cases same
      obtain ⟨allowed, stepped⟩ := restrict_eq_some_iff.mp stepped
      rcases settled.step allowed stepped with settled | ⟨seat, -, live, unreachable, -⟩
      · exact settled
      · exact absurd (always _ [] final (by simp) run seat live) unreachable
  · rintro timely earlier later reached rfl before
    obtain ⟨middle, first, second⟩ := replay?_append_eq_some_iff.mp run
    rw [before, Option.some.injEq] at first
    subst first
    have grown := late_of_replay second
    rw [timely, List.suffix_nil] at grown
    exact ((settled_start nameless).replay before grown).allReachable

/-- The session that anna makes a room for. -/
def annaSeat : Seat := ⟨"x", anna, .creator, anna, .ofRoom "x" anna, 0, 0⟩

/-- The session that bert has in that room. -/
def bertSeat : Seat := ⟨"x", bert, .joiner, anna, .ofRoom "x" anna, 0, 0⟩

def timelyJoin : List (Act Exchange) :=
  [.create (fun _ => true) "x" anna, .attach "x" bert anna, .register bertSeat, .leave annaSeat]

theorem reachable_after_timely_join : ∃ final,
    replay? (restrict exclusive step) (start (.empty Exchange.empty)) timelyJoin = some final ∧
      bertSeat ∈ final.live ∧ final.AllReachable := by
  have facts : (replay? (restrict exclusive step) (start (.empty Exchange.empty)) timelyJoin).map
      (fun final => (decide (bertSeat ∈ final.live), final.late)) = some (true, []) := by
    decide +kernel
  obtain ⟨final, run, same⟩ := Option.map_eq_some_iff.mp facts
  obtain ⟨live, late⟩ := Prod.mk.inj same
  have nameless : (Host.empty Exchange.empty).Nameless := ⟨fun _ => rfl, fun _ => rfl⟩
  exact ⟨final, run, of_decide_eq_true live,
    (always_reachable_iff_never_late nameless run).mpr late timelyJoin [] final (by simp) run⟩

def lateJoin : List (Act Exchange) :=
  [.create (fun _ => true) "x" anna, .attach "x" bert anna, .leave annaSeat, .register bertSeat]

def secondRoom : List (Act Exchange) :=
  [.create (fun _ => true) "x" anna, .create (fun _ => true) "x" anna]

/-- A join that registers after the last participant has left is in a room without names, even if
nobody has two sessions; and a participant that makes its room again has its first session in a room
whose names lead to the second. -/
theorem live_session_out_of_reach :
    (∃ final,
      replay? (restrict exclusive step) (start (.empty Exchange.empty)) lateJoin = some final ∧
        bertSeat ∈ final.live ∧ bert ∈ (final.host.registry 0).participants ∧
          ¬bertSeat.Reachable final.host) ∧
    ∃ final,
      replay? (restrict truthful step) (start (.empty Exchange.empty)) secondRoom = some final ∧
        annaSeat ∈ final.live ∧ anna ∈ (final.host.registry 0).participants ∧
          ¬annaSeat.Reachable final.host := by
  constructor
  · have facts : (replay? (restrict exclusive step) (start (.empty Exchange.empty)) lateJoin).map
        (fun final => (decide (bertSeat ∈ final.live),
          decide (bert ∈ (final.host.registry 0).participants),
          (Room.attach "x" anna final.host).toOption)) = some (true, true, none) := by
      decide +kernel
    obtain ⟨final, run, same⟩ := Option.map_eq_some_iff.mp facts
    simp only [Prod.mk.injEq, decide_eq_true_eq] at same
    refine ⟨final, run, same.1, same.2.1, fun reachable => ?_⟩
    have attached : Room.attach "x" anna final.host = .ok bertSeat.session.room := reachable
    rw [attached] at same
    cases same.2.2
  · have facts : (replay? (restrict truthful step) (start (.empty Exchange.empty)) secondRoom).map
        (fun final => (decide (annaSeat ∈ final.live),
          decide (anna ∈ (final.host.registry 0).participants),
          (Room.attach "x" anna final.host).toOption.map Room.store)) =
            some (true, true, some 1) := by
      decide +kernel
    obtain ⟨final, run, same⟩ := Option.map_eq_some_iff.mp facts
    simp only [Prod.mk.injEq, decide_eq_true_eq] at same
    refine ⟨final, run, same.1, same.2.1, fun reachable => ?_⟩
    have attached : Room.attach "x" anna final.host = .ok annaSeat.session.room := reachable
    rw [attached] at same
    exact absurd same.2.2 (by decide)

end Occupancy

end HostChat
