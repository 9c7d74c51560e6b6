import Mathlib

/-! Transition systems: invariants of runs, actions that keep what holds of a state, and relations between the states of machines
that no input tells apart. Instance search takes an action apart, down to those that touch the state. -/
namespace ZeffBoy.Library

section
variable {σ : Type} {step : σ → σ → Prop}

theorem invariant_of_run {keeps : σ → Prop} {start finish : σ} (initial : keeps start)
    (preserved : ∀ before after, keeps before → step before after → keeps after)
    (run : Relation.ReflTransGen step start finish) : keeps finish := by
  induction run with
  | refl => exact initial
  | tail _ last ih => exact preserved _ _ ih last

end

section
variable {σ α β : Type} {good : σ → Prop}

/-- Every run of the action keeps what holds of the state. -/
class Keeps (good : σ → Prop) (action : StateM σ α) : Prop where
  keeps : ∀ state, good state → good (action state).2

namespace Keeps

instance pure (value : α) : Keeps good (Pure.pure value : StateM σ α) := ⟨fun _ holds => holds⟩

instance bind (action : StateM σ α) (next : α → StateM σ β) [Keeps good action] [∀ value, Keeps good (next value)] :
    Keeps good (action >>= next) := by
  constructor
  intro state holds
  have first : good (action state).2 := (inferInstance : Keeps good action).keeps state holds
  exact (inferInstance : Keeps good (next (action state).1)).keeps _ first

instance ite (condition : Prop) [Decidable condition] (yes no : StateM σ α) [Keeps good yes] [Keeps good no] :
    Keeps good (if condition then yes else no) := by
  split <;> infer_instance

end Keeps

end

section
variable {σ τ ι ο : Type}

def runInputs (step : σ → ι → σ × ο) (state : σ) (inputs : List ι) : σ :=
  inputs.foldl (fun state input => (step state input).1) state

def answers (step : σ → ι → σ × ο) : σ → List ι → List ο
  | _, [] => []
  | state, input::inputs => (step state input).2::answers step (step state input).1 inputs

theorem runInputs_invariant (step : σ → ι → σ × ο) (keeps : σ → Prop) (preserved : ∀ state input, keeps state → keeps (step state input).1)
    (state : σ) (initial : keeps state) (inputs : List ι) : keeps (runInputs step state inputs) := by
  induction inputs generalizing state with
  | nil => exact initial
  | cons input inputs ih => exact ih _ (preserved state input initial)

def Simulates (step : σ → ι → σ × ο) (other : τ → ι → τ × ο) (related : σ → τ → Prop) : Prop :=
  ∀ left right input, related left right →
    (step left input).2 = (other right input).2 ∧ related (step left input).1 (other right input).1

theorem Simulates.run {step : σ → ι → σ × ο} {other : τ → ι → τ × ο} {related : σ → τ → Prop}
    (simulates : Simulates step other related) (left : σ) (right : τ) (start : related left right) (inputs : List ι) :
    answers step left inputs = answers other right inputs ∧
      related (runInputs step left inputs) (runInputs other right inputs) := by
  induction inputs generalizing left right with
  | nil => exact ⟨rfl,start⟩
  | cons input inputs ih =>
    obtain ⟨answered,next⟩ := simulates left right input start
    obtain ⟨rest,final⟩ := ih _ _ next
    refine ⟨?_,final⟩
    rw [answers,answers,answered,rest]

end

end ZeffBoy.Library
