import Mathlib

/-! Service that is put off.
A machine that is stepped cycle by cycle may let the cycles pile up as long as nothing can happen in them. What happens in between
must commute with the service that is due, or must wait for it. -/
namespace ZeffBoy.Library

/-- A state whose last cycles have not been serviced, and the number of cycles in which nothing can happen (zero: not known). -/
@[ext] structure Deferred (σ : Type) where
  state : σ
  pending : Nat
  horizon : Nat

section
variable {σ : Type} (service : Nat → σ → σ) (horizon : σ → Nat)

namespace Deferred

def materialize (deferred : Deferred σ) : Deferred σ :=
  ⟨if deferred.pending = 0 then deferred.state else service deferred.pending deferred.state,0,0⟩

/-- Some cycles pile up, or are serviced after all those before them. What they charge at once is not put off. -/
def step (charge : σ → σ) (cycles : Nat) (deferred : Deferred σ) : Deferred σ :=
  let near := if deferred.horizon = 0 then horizon deferred.state else deferred.horizon
  if deferred.pending + cycles < near then ⟨charge deferred.state,deferred.pending + cycles,near⟩
  else ⟨service cycles (charge (deferred.materialize service).state),0,0⟩

def map (action : σ → σ) (deferred : Deferred σ) : Deferred σ :=
  {deferred with state := action deferred.state}

end Deferred

variable (good : σ → Prop)

/-- Cycles before the horizon may be serviced together. -/
structure Deferrable : Prop where
  split : ∀ state first second, good state → 0 < first → 0 < second → first + second < horizon state →
    service second (service first state) = service (first + second) state
  keeps : ∀ state cycles, good state → good (service cycles state)

/-- An action that may come before the service that is due. -/
structure Free (action : σ → σ) : Prop where
  commutes : ∀ state pending, good state → 0 < pending → pending < horizon state →
    action (service pending state) = service pending (action state)
  still : ∀ state, good state → horizon (action state) = horizon state
  keeps : ∀ state, good state → good (action state)

def Settled {α : Type} (value : σ → α) : Prop :=
  ∀ state pending, good state → 0 < pending → pending < horizon state → value (service pending state) = value state

/-- The deferred state has the eager one ahead of it. -/
structure Behind (eager : σ) (deferred : Deferred σ) : Prop where
  sound : good deferred.state
  ahead : eager = (deferred.materialize service).state
  near : (deferred.pending = 0 ∧ deferred.horizon = 0) ∨
    (0 < deferred.pending ∧ deferred.pending < deferred.horizon ∧ deferred.horizon = horizon deferred.state)

variable {service horizon good} {eager : σ} {deferred : Deferred σ}

namespace Behind

theorem refl {state : σ} (sound : good state) : Behind service horizon good state ⟨state,0,0⟩ :=
  ⟨sound,rfl,.inl ⟨rfl,rfl⟩⟩

theorem near_eq (behind : Behind service horizon good eager deferred) :
    (if deferred.horizon = 0 then horizon deferred.state else deferred.horizon) = horizon deferred.state := by
  rcases behind.near with ⟨_,none'⟩ | ⟨_,before,fresh⟩
  · rw [if_pos none']
  · rw [if_neg (by omega),fresh]

theorem value {α : Type} {read : σ → α} (settled : Settled service horizon good read)
    (behind : Behind service horizon good eager deferred) : read eager = read deferred.state := by
  rw [behind.ahead,Deferred.materialize]
  dsimp only
  split
  · rfl
  · rename_i some'
    rcases behind.near with ⟨none',_⟩ | ⟨_,before,fresh⟩
    · exact absurd none' some'
    · exact settled _ _ behind.sound (by omega) (fresh ▸ before)

theorem map {action : σ → σ} (free : Free service horizon good action) (behind : Behind service horizon good eager deferred) :
    Behind service horizon good (action eager) (deferred.map action) := by
  refine ⟨free.keeps _ behind.sound,?_,?_⟩
  · rw [behind.ahead,Deferred.materialize,Deferred.materialize,Deferred.map]
    dsimp only
    split
    · rfl
    · rename_i some'
      rcases behind.near with ⟨none',_⟩ | ⟨_,before,fresh⟩
      · exact absurd none' some'
      · exact free.commutes _ _ behind.sound (by omega) (fresh ▸ before)
  · rw [Deferred.map]
    dsimp only
    rw [free.still _ behind.sound]
    exact behind.near

theorem materialize (deferrable : Deferrable service horizon good) (behind : Behind service horizon good eager deferred) :
    deferred.materialize service = ⟨eager,0,0⟩ ∧ good eager := by
  refine ⟨?_,?_⟩
  · rw [behind.ahead]
    rfl
  · rw [behind.ahead,Deferred.materialize]
    dsimp only
    split
    · exact behind.sound
    · exact deferrable.keeps _ _ behind.sound

theorem settled (deferrable : Deferrable service horizon good) (behind : Behind service horizon good eager deferred)
    (nothing : deferred.pending = 0) : deferred = ⟨eager,0,0⟩ := by
  obtain ⟨whole,_⟩ := behind.materialize deferrable
  rcases behind.near with ⟨_,none'⟩ | ⟨some',_⟩
  · rw [← whole]
    ext
    · rw [Deferred.materialize,if_pos nothing]
    · exact nothing
    · exact none'
  · omega

theorem step (deferrable : Deferrable service horizon good) {charge : σ → σ} (free : Free service horizon good charge)
    (behind : Behind service horizon good eager deferred) {cycles : Nat} (some' : 0 < cycles) :
    Behind service horizon good (service cycles (charge eager)) (deferred.step service horizon charge cycles) := by
  obtain ⟨whole,sound⟩ := behind.materialize deferrable
  rw [Deferred.step,behind.near_eq]
  split
  · rename_i before
    have charged := free.keeps _ behind.sound
    have same := free.still _ behind.sound
    have positive : ¬deferred.pending + cycles = 0 := by omega
    refine ⟨charged,?_,.inr ⟨pos_of_ne_zero positive,before,same.symm⟩⟩
    rw [Deferred.materialize]
    dsimp only
    rw [if_neg positive,behind.ahead,Deferred.materialize]
    dsimp only
    split
    · rename_i none'
      rw [none',zero_add]
    · rename_i pending
      rw [free.commutes _ _ behind.sound (by omega) (by omega),deferrable.split _ _ _ charged (by omega) some' (by rwa [same])]
  · rw [whole]
    exact refl (deferrable.keeps _ _ (free.keeps _ sound))

end Behind

end

end ZeffBoy.Library
