import Mathlib.Data.List.Induction
import Mathlib.Tactic.SplitIfs

/-! # Replaying actions

A system is a step that may refuse an action. A replay goes through a list of actions and fails with
the first one that is refused; a policy refuses actions that the step would take.
-/

namespace HostChat

variable {State Action : Type} {step : State → Action → Option State}

def replay? (step : State → Action → Option State) : State → List Action → Option State
  | state, [] => some state
  | state, action :: rest => (step state action).bind fun next => replay? step next rest

@[simp] theorem replay?_nil (step : State → Action → Option State) (state : State) :
    replay? step state [] = some state := rfl

theorem replay?_cons (step : State → Action → Option State) (state : State) (action : Action)
    (rest : List Action) :
    replay? step state (action :: rest) =
      (step state action).bind fun next => replay? step next rest := rfl

theorem replay?_singleton (step : State → Action → Option State) (state : State) (action : Action) :
    replay? step state [action] = step state action := by
  rw [replay?_cons]
  exact Option.bind_fun_some _

theorem replay?_append (step : State → Action → Option State) (state : State)
    (first second : List Action) :
    replay? step state (first ++ second) =
      (replay? step state first).bind fun next => replay? step next second := by
  induction first generalizing state with
  | nil => rfl
  | cons action rest ih =>
    rw [List.cons_append, replay?_cons, replay?_cons, Option.bind_assoc]
    exact congrArg _ (funext fun next => ih next)

theorem replay?_append_eq_some_iff {state final : State} {first second : List Action} :
    replay? step state (first ++ second) = some final ↔
      ∃ middle, replay? step state first = some middle ∧ replay? step middle second = some final := by
  rw [replay?_append, Option.bind_eq_some_iff]

/-- A change of actions that no step takes notice of makes no difference to a replay. -/
theorem replay?_map (change : Action → Action)
    (same : ∀ state action, step state (change action) = step state action) (start : State)
    (actions : List Action) :
    replay? step start (actions.map change) = replay? step start actions := by
  induction actions generalizing start with
  | nil => rfl
  | cons action rest ih =>
    rw [List.map_cons, replay?_cons, replay?_cons, same]
    exact congrArg _ (funext ih)

/-- What every step keeps holds after every replay. -/
theorem replay?_invariant (holds : State → Prop) {start final : State} {actions : List Action}
    (preserved : ∀ state action next, holds state → step state action = some next → holds next)
    (initial : holds start) (success : replay? step start actions = some final) : holds final := by
  induction actions generalizing start with
  | nil =>
    cases success
    exact initial
  | cons action rest ih =>
    obtain ⟨next, stepped, rest⟩ := Option.bind_eq_some_iff.mp success
    exact ih (preserved start action next initial stepped) rest

/-- What every step keeps of the actions so far and the state that they lead to holds after every
replay. -/
theorem replay?_history (holds : List Action → State → Prop) {start final : State}
    {actions : List Action}
    (preserved : ∀ done state action next, replay? step start done = some state → holds done state →
      step state action = some next → holds (done ++ [action]) next)
    (initial : holds [] start) (success : replay? step start actions = some final) :
    holds actions final := by
  induction actions using List.reverseRecOn generalizing final with
  | nil =>
    cases success
    exact initial
  | append_singleton done action ih =>
    obtain ⟨state, earlier, last⟩ := replay?_append_eq_some_iff.mp success
    rw [replay?_singleton] at last
    exact preserved done state action final earlier (ih earlier) last

/-- The step that takes only what a policy allows. -/
def restrict (allowed : State → Action → Bool) (step : State → Action → Option State)
    (state : State) (action : Action) : Option State :=
  if allowed state action then step state action else none

theorem restrict_eq_some_iff {allowed : State → Action → Bool} {state next : State}
    {action : Action} :
    restrict allowed step state action = some next ↔
      allowed state action = true ∧ step state action = some next := by
  simp only [restrict]
  split_ifs with permitted <;> simp [permitted]

theorem replay?_of_restrict {allowed : State → Action → Bool} {start final : State}
    {actions : List Action} (success : replay? (restrict allowed step) start actions = some final) :
    replay? step start actions = some final := by
  induction actions generalizing start with
  | nil => exact success
  | cons action rest ih =>
    obtain ⟨next, taken, success⟩ := Option.bind_eq_some_iff.mp success
    rw [replay?_cons, (restrict_eq_some_iff.mp taken).2]
    exact ih success

/-- A policy makes no difference to a replay of nothing but what it allows everywhere. -/
theorem replay?_restrict {allowed : State → Action → Bool} {start final : State}
    {actions : List Action} (all : ∀ state, ∀ action ∈ actions, allowed state action = true)
    (success : replay? step start actions = some final) :
    replay? (restrict allowed step) start actions = some final := by
  induction actions generalizing start with
  | nil => exact success
  | cons action rest ih =>
    obtain ⟨next, stepped, success⟩ := Option.bind_eq_some_iff.mp success
    have taken : restrict allowed step start action = some next :=
      restrict_eq_some_iff.mpr ⟨all start action (List.mem_cons_self ..), stepped⟩
    rw [replay?_cons, taken]
    exact ih (fun state other member => all state other (List.mem_cons_of_mem _ member)) success

section Rest

variable {moves : State → Bool} {start final : State} {actions : List Action}
  (rests : ∀ state action, moves state = false → step state action = some state)
include rests

/-- A system at rest takes no notice of its actions. -/
theorem replay?_at_rest (still : moves start = false) : replay? step start actions = some start := by
  induction actions with
  | nil => rfl
  | cons action rest ih => rw [replay?_cons, rests start action still, Option.bind_some, ih]

/-- Only the first actions of a replay are those of a moving system: all of them, unless it comes to
rest. -/
theorem replay?_until_rest (success : replay? step start actions = some final) :
    ∃ done, done <+: actions ∧ (moves final = true → done = actions) ∧
      replay? (restrict (fun state _ => moves state) step) start done = some final := by
  induction actions generalizing start with
  | nil =>
    cases success
    exact ⟨[], List.prefix_rfl, fun _ => rfl, rfl⟩
  | cons action rest ih =>
    cases moving : moves start with
    | true =>
      obtain ⟨next, stepped, success⟩ := Option.bind_eq_some_iff.mp success
      obtain ⟨done, front, all, replayed⟩ := ih success
      refine ⟨action :: done, List.cons_prefix_cons.mpr ⟨rfl, front⟩, fun moving => ?_, ?_⟩
      · rw [all moving]
      · have taken : restrict (fun state _ => moves state) step start action = some next :=
          restrict_eq_some_iff.mpr ⟨moving, stepped⟩
        rw [replay?_cons, taken]
        exact replayed
    | false =>
      rw [replay?_at_rest rests moving] at success
      cases success
      refine ⟨[], List.nil_prefix, fun moving' => ?_, rfl⟩
      rw [moving] at moving'
      cases moving'

/-- A replay that fails gets to an action that is refused, and the system has not come to rest. -/
theorem replay?_stuck (failure : replay? step start actions = none) :
    ∃ done action rest reached, actions = done ++ action :: rest ∧
      replay? (restrict (fun state _ => moves state) step) start done = some reached ∧
      moves reached = true ∧ step reached action = none := by
  induction actions generalizing start with
  | nil => cases failure
  | cons action rest ih =>
    cases moving : moves start with
    | false =>
      rw [replay?_at_rest rests moving] at failure
      cases failure
    | true =>
      cases stepped : step start action with
      | none => exact ⟨[], action, rest, start, rfl, rfl, moving, stepped⟩
      | some next =>
        rw [replay?_cons, stepped] at failure
        obtain ⟨done, refused, later, reached, split, replayed, stuck⟩ := ih failure
        have taken : restrict (fun state _ => moves state) step start action = some next :=
          restrict_eq_some_iff.mpr ⟨moving, stepped⟩
        refine ⟨action :: done, refused, later, reached, ?_, ?_, stuck⟩
        · rw [split]
          rfl
        · rw [replay?_cons, taken]
          exact replayed

end Rest

end HostChat
