import Mathlib

/-! Hardware that is stepped by many cycles at once.
A step is additive when many cycles at once are the same as the cycles one after the other. Counters that are reloaded are
additive, and so are parts of a machine that do not see each other. -/
namespace ZeffBoy.Library
open List

def Additive {σ : Type} (step : Nat → σ → σ) : Prop :=
  ∀ first second state, step second (step first state) = step (first + second) state

theorem additive_of_iterate {σ : Type} {step : Nat → σ → σ} {cycle : σ → σ} (iterated : ∀ cycles, step cycles = cycle^[cycles]) :
    Additive step := by
  intro first second state
  rw [iterated,iterated,iterated,← Function.iterate_add_apply,add_comm]

theorem additive_foldl {σ ι : Type} {step : ι → Nat → σ → σ} {parts : List ι} (each : ∀ part ∈ parts, Additive (step part))
    (apart : parts.Pairwise fun one two => ∀ first second state,
      step one first (step two second state) = step two second (step one first state)) :
    Additive fun cycles state => parts.foldl (fun state part => step part cycles state) state := by
  induction parts with
  | nil => exact fun _ _ _ => rfl
  | cons part parts ih =>
    rw [pairwise_cons] at apart
    have passes (later : List ι) (inside : ∀ other ∈ later, other ∈ parts) (first second : Nat) (state : σ) :
        step part second (later.foldl (fun state part => step part first state) state) =
          later.foldl (fun state part => step part first state) (step part second state) := by
      induction later generalizing state with
      | nil => rfl
      | cons other later here =>
        rw [foldl_cons,foldl_cons,here (fun _ member => inside _ (mem_cons_of_mem _ member)),
          apart.1 other (inside other mem_cons_self)]
    intro first second state
    dsimp only
    rw [foldl_cons,foldl_cons,foldl_cons,passes parts (fun _ member => member),
      each part mem_cons_self]
    exact ih (fun other inside => each other (mem_cons_of_mem _ inside)) apart.2 first second _

theorem Additive.parts {σ : Type} {step : Nat → σ → σ} (additive : Additive step) (first : Nat) (parts : List Nat) (state : σ) :
    parts.foldl (fun state cycles => step cycles state) (step first state) = step (first + parts.sum) state := by
  induction parts generalizing first with
  | nil => rfl
  | cons part parts ih => rw [foldl_cons,additive,ih,sum_cons,add_assoc]

section
variable {σ : Type} (period : Nat) (tick : σ → σ)

/-- A counter that has run out is reloaded until it is positive again, and ticks each time. -/
def reload (state : σ) (counter : Int) : σ × Int :=
  if counter ≤ 0 ∧ 0 < period then reload (tick state) (counter + period) else (state,counter)
termination_by (1 - counter).toNat
decreasing_by omega

variable {period tick}

theorem reload_sub (state : σ) (counter : Int) (cycles : Nat) :
    reload period tick (reload period tick state counter).1 ((reload period tick state counter).2 - cycles) =
      reload period tick state (counter - cycles) := by
  fun_induction reload period tick state counter with
  | case1 state counter out ih =>
    rw [ih]
    conv_rhs => rw [reload]
    rw [if_pos (by omega)]
    congr 1
    ring
  | case2 state counter running => rfl

theorem reload_bounds (reloadable : 0 < period) (state : σ) (counter : Int) :
    0 < (reload period tick state counter).2 ∧ (reload period tick state counter).2 ≤ max counter period := by
  fun_induction reload period tick state counter with
  | case1 state counter out ih => exact ⟨ih.1,by omega⟩
  | case2 state counter running => exact ⟨by omega,le_max_left _ _⟩

def countdown (period : Nat) (tick : σ → σ) (cycles : Nat) (state : σ × Int) : σ × Int :=
  reload period tick state.1 (state.2 - cycles)

theorem countdown_additive : Additive (countdown period tick) := by
  intro first second state
  simp only [countdown]
  rw [reload_sub]
  congr 1
  push_cast
  ring

theorem countdown_bounds (reloadable : 0 < period) (cycles : Nat) (state : σ × Int) :
    0 < (countdown period tick cycles state).2 ∧ (countdown period tick cycles state).2 ≤ max state.2 period := by
  obtain ⟨positive,bounded⟩ := @reload_bounds σ period tick reloadable state.1 (state.2 - cycles)
  rw [countdown]
  exact ⟨positive,by omega⟩

end

end ZeffBoy.Library
