import Mathlib.Data.List.Basic

/-!
# Runs of a state machine

A machine answers each input and moves to a new state. A condition on the steps of a run is read
along the run, each input in the state it finds.
-/

namespace KarpenterIBM.Machine

section
variable {σ ι : Type} (step : σ → ι → σ)

/-- The state after these inputs. -/
def run (state : σ) (inputs : List ι) : σ :=
  inputs.foldl step state

/-- Every input meets the condition in the state it finds. -/
def Along (condition : σ → ι → Prop) : σ → List ι → Prop
  | _, [] => True
  | state, input :: rest => condition state input ∧ Along condition (step state input) rest

instance Along.decidable (condition : σ → ι → Prop)
    [∀ state input, Decidable (condition state input)] :
    ∀ (state : σ) (inputs : List ι), Decidable (Along step condition state inputs)
  | _, [] => isTrue trivial
  | state, input :: rest =>
    have := Along.decidable condition (step state input) rest
    inferInstanceAs (Decidable (condition state input ∧ Along step condition _ rest))

variable {step} {condition : σ → ι → Prop} {state : σ} {inputs : List ι}

@[simp] theorem run_nil : run step state [] = state := rfl

@[simp] theorem run_cons (input : ι) :
    run step state (input :: inputs) = run step (step state input) inputs := rfl

theorem run_append (first later : List ι) :
    run step state (first ++ later) = run step (run step state first) later :=
  List.foldl_append

@[simp] theorem along_nil : Along step condition state [] := trivial

@[simp] theorem along_cons (input : ι) : Along step condition state (input :: inputs) ↔
      condition state input ∧ Along step condition (step state input) inputs := Iff.rfl

theorem along_append_iff (first later : List ι) : Along step condition state (first ++ later) ↔
      Along step condition state first ∧ Along step condition (run step state first) later := by
  induction first generalizing state with
  | nil => simp
  | cons input rest ih => simp [ih, and_assoc]

theorem invariant_run {inv : σ → Prop}
    (kept : ∀ state input, inv state → condition state input → inv (step state input))
    (start : inv state) (along : Along step condition state inputs) :
    inv (run step state inputs) := by
  induction inputs generalizing state with
  | nil => exact start
  | cons input rest ih => exact ih (kept state input start along.1) along.2

theorem along_of_invariant {inv : σ → Prop} {conclusion : σ → ι → Prop}
    (kept : ∀ state input, inv state → condition state input → inv (step state input))
    (gives : ∀ state input, inv state → condition state input → conclusion state input)
    (start : inv state) (along : Along step condition state inputs) :
    Along step conclusion state inputs := by
  induction inputs generalizing state with
  | nil => trivial
  | cons input rest ih =>
    exact ⟨gives state input start along.1, ih (kept state input start along.1) along.2⟩

end

/-! ## Answers and simulation -/

variable {σ τ ι α : Type}

/-- The answers to these inputs, in order. -/
def answers (perform : σ → ι → α × σ) : σ → List ι → List α
  | _, [] => []
  | state, input :: rest =>
    (perform state input).1 :: answers perform (perform state input).2 rest

theorem answers_append (perform : σ → ι → α × σ) (state : σ) (first later : List ι) :
    answers perform state (first ++ later) = answers perform state first ++
        answers perform (run (fun state input => (perform state input).2) state first) later := by
  induction first generalizing state with
  | nil => rfl
  | cons input rest ih => simp [answers, ih]

theorem answers_eq_of_simulation {left : σ → ι → α × σ} {right : τ → ι → α × τ}
    {related : σ → τ → Prop} {condition : σ → ι → Prop}
    (simulates : ∀ state other input, related state other → condition state input →
      (left state input).1 = (right other input).1 ∧
        related (left state input).2 (right other input).2)
    {state : σ} {other : τ} {inputs : List ι} (start : related state other)
    (along : Along (fun state input => (left state input).2) condition state inputs) :
    answers left state inputs = answers right other inputs := by
  induction inputs generalizing state other with
  | nil => rfl
  | cons input rest ih =>
    obtain ⟨same, later⟩ := simulates state other input start along.1
    rw [answers, answers, same, ih later along.2]

end KarpenterIBM.Machine
