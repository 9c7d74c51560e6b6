import Mathlib

/-! Steps that change one state, one after another, and may fail.
A failed step should leave the state as it found it. When every step does, the steps that succeed decide the end alone. -/
namespace ZeffBoy.Library
open List

section
variable {ι σ ε : Type} (step : ι → σ → Except ε Unit × σ)

def runAll (state : σ) (items : List ι) : σ := items.foldl (fun state item => (step item state).2) state

def successful (state : σ) (item : ι) : σ :=
  match step item state with
  | (.ok _,after) => after
  | (.error _,_) => state

/-- The steps that succeed, each on the result of the successful ones before it. -/
def runSuccessful (state : σ) (items : List ι) : σ := items.foldl (successful step) state

def FailsCleanly (item : ι) (state : σ) : Prop := ∀ error, (step item state).1 = .error error → (step item state).2 = state

variable {step} {state : σ} {items : List ι}

theorem successful_of_clean {item : ι} (clean : FailsCleanly step item state) :
    successful step state item = (step item state).2 := by
  unfold FailsCleanly at clean
  unfold successful
  rcases outcome : step item state with ⟨_ | _,after⟩
  · rw [outcome] at clean
    exact (clean _ rfl).symm
  · rfl

theorem runAll_append (state : σ) (before after : List ι) :
    runAll step state (before ++ after) = runAll step (runAll step state before) after :=
  foldl_append

theorem runSuccessful_append (state : σ) (before after : List ι) :
    runSuccessful step state (before ++ after) = runSuccessful step (runSuccessful step state before) after :=
  foldl_append

/-- Every step of the list fails cleanly, on the state that a given run of the steps before it leaves. -/
def EachClean (step : ι → σ → Except ε Unit × σ) (run : σ → List ι → σ) (state : σ) (items : List ι) : Prop :=
  ∀ before item after, items = before ++ item::after → FailsCleanly step item (run state before)

theorem EachClean.front {run : σ → List ι → σ} {item : ι}
    (clean : EachClean step run state (items ++ [item])) : EachClean step run state items ∧
      FailsCleanly step item (run state items) := by
  refine ⟨?_,clean items item [] rfl⟩
  intro before inner after split
  exact clean before inner (after ++ [item]) (by rw [split,append_assoc,cons_append])

theorem runAll_eq_of_clean (clean : EachClean step (runAll step) state items) :
    runAll step state items = runSuccessful step state items := by
  induction items using List.reverseRecOn with
  | nil => rfl
  | append_singleton items item ih =>
    obtain ⟨front,last⟩ := clean.front
    rw [runAll_append,runSuccessful_append,← ih front]
    exact (successful_of_clean last).symm

theorem runAll_eq_of_successful (clean : EachClean step (runSuccessful step) state items) :
    runAll step state items = runSuccessful step state items := by
  induction items using List.reverseRecOn with
  | nil => rfl
  | append_singleton items item ih =>
    obtain ⟨front,last⟩ := clean.front
    rw [runAll_append,runSuccessful_append,ih front]
    exact (successful_of_clean last).symm

theorem eachClean_iff (state : σ) (items : List ι) :
    EachClean step (runAll step) state items ↔ EachClean step (runSuccessful step) state items := by
  have front {run : σ → List ι → σ} {before after : List ι} {item : ι} (clean : EachClean step run state items)
      (split : items = before ++ item::after) : EachClean step run state before := by
    intro before' item' after' split'
    exact clean before' item' (after' ++ item::after) (by rw [split,split',append_assoc,cons_append])
  constructor
  · intro clean before item after split
    rw [← runAll_eq_of_clean (front clean split)]
    exact clean before item after split
  · intro clean before item after split
    rw [runAll_eq_of_successful (front clean split)]
    exact clean before item after split

end

end ZeffBoy.Library
