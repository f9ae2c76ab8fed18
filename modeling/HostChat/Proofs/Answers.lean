/-! # Machines that answer

A machine takes one input after the other, and answers each of them. Two machines cannot be told apart
by their answers if a relation between their states says that they answer alike, and each input takes
related states to related states.
-/

namespace HostChat

variable {State Other Input Answer : Type}

/-- The answers to a list of inputs, and the state in which a machine is afterwards. -/
def respond (step : State → Input → Answer × State) : State → List Input → List Answer × State
  | state, [] => ([], state)
  | state, input :: rest =>
      let (answer, next) := step state input
      let (answers, final) := respond step next rest
      (answer :: answers, final)

variable {step : State → Input → Answer × State} {follow : Other → Input → Answer × Other}

/-- What every step keeps holds in the end. -/
theorem respond_invariant (holds : State → Prop) {state : State} {inputs : List Input}
    (preserved : ∀ state, ∀ input ∈ inputs, holds state → holds (step state input).2)
    (initial : holds state) : holds (respond step state inputs).2 := by
  induction inputs generalizing state with
  | nil => exact initial
  | cons input rest ih =>
    exact ih (fun state other member => preserved state other (List.mem_cons_of_mem _ member))
      (preserved state input (List.mem_cons_self ..) initial)

theorem respond_simulates (related : State → Other → Prop) {state : State} {other : Other}
    (simulates : ∀ state other input, related state other →
      (step state input).1 = (follow other input).1 ∧
        related (step state input).2 (follow other input).2)
    (initial : related state other) (inputs : List Input) :
    (respond step state inputs).1 = (respond follow other inputs).1 ∧
      related (respond step state inputs).2 (respond follow other inputs).2 := by
  induction inputs generalizing state other with
  | nil => exact ⟨rfl, initial⟩
  | cons input rest ih =>
    obtain ⟨answer, next⟩ := simulates state other input initial
    obtain ⟨answers, final⟩ := ih next
    exact ⟨List.cons_eq_cons.mpr ⟨answer, answers⟩, final⟩

end HostChat
