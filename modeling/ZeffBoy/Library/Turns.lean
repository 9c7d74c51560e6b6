import Mathlib

/-! Loops that take turns until one of them stops.
Two loops that keep step end in the same way, also where a turn of one of them is many turns of the other. -/
namespace ZeffBoy.Library

inductive Turn (σ : Type)
  | stop (state : σ)
  | next (state : σ)

section
variable {σ τ : Type} (turn : σ → Turn σ)

/-- A loop within a number of turns. -/
def loop : Nat → σ → Option σ
  | 0,_ => none
  | fuel + 1,state =>
    match turn state with
    | .stop state => some state
    | .next state => loop fuel state

def Goes : σ → σ → Prop := Relation.ReflTransGen fun before after => turn before = .next after

def goesIn : Nat → σ → σ → Prop
  | 0,before,after => before = after
  | count + 1,before,after => ∃ between, turn before = .next between ∧ goesIn count between after

variable {turn} {before after : σ} {count : Nat}

theorem loop_next (goes : turn before = .next after) (fuel : Nat) :
    loop turn (fuel + 1) before = loop turn fuel after := by
  rw [loop,goes]

theorem loop_stop (stops : turn before = .stop after) (fuel : Nat) :
    loop turn (fuel + 1) before = some after := by
  rw [loop,stops]

theorem goes_of_goesIn (goes : goesIn turn count before after) : Goes turn before after := by
  induction count generalizing before with
  | zero => exact goes ▸ .refl
  | succ count ih =>
    obtain ⟨between,first,rest⟩ := goes
    exact .head first (ih rest)

theorem goesIn_succ {before between after : σ} (goes : goesIn turn count before between)
    (last : turn between = .next after) : goesIn turn (count + 1) before after := by
  induction count generalizing before with
  | zero =>
    subst goes
    exact ⟨after,last,rfl⟩
  | succ count ih =>
    obtain ⟨first,start,rest⟩ := goes
    exact ⟨first,start,ih rest⟩

theorem loop_goesIn (goes : goesIn turn count before after) (fuel : Nat) :
    loop turn (fuel + count) before = loop turn fuel after := by
  induction count generalizing before with
  | zero => exact goes ▸ rfl
  | succ count ih =>
    obtain ⟨between,first,rest⟩ := goes
    rw [← add_assoc,loop_next first,ih rest]

theorem loop_passes {count fuel : Nat} {before after result : σ} (goes : goesIn turn count before after)
    (ends : loop turn fuel before = some result) : ∃ left, left + count = fuel ∧ loop turn left after = some result := by
  induction count generalizing fuel before with
  | zero => exact ⟨fuel,rfl,goes ▸ ends⟩
  | succ count ih =>
    obtain ⟨between,first,rest⟩ := goes
    cases fuel with
    | zero => exact absurd ends (by simp [loop])
    | succ fuel =>
      rw [loop_next first] at ends
      obtain ⟨left,total,later⟩ := ih rest ends
      exact ⟨left,by omega,later⟩

/-- A turn of the fast loop is one or more turns of the slow loop, and they stop together. -/
def KeepsStep (slow : σ → Turn σ) (fast : τ → Turn τ) (related finished : σ → τ → Prop) : Prop :=
  ∀ one two, related one two →
    (∃ one' two', slow one = .stop one' ∧ fast two = .stop two' ∧ finished one' two') ∨
    ∃ count one' two', goesIn slow (count + 1) one one' ∧ fast two = .next two' ∧ related one' two'

variable {slow : σ → Turn σ} {fast : τ → Turn τ} {related finished : σ → τ → Prop}

theorem KeepsStep.fast_ends (keeps : KeepsStep slow fast related finished) {fuel : Nat} {one result : σ} {two : τ}
    (start : related one two) (ends : loop slow fuel one = some result) :
    ∃ fuel' result', loop fast fuel' two = some result' ∧ finished result result' := by
  induction fuel using Nat.strongRecOn generalizing one two with
  | ind fuel ih =>
    rcases keeps one two start with ⟨one',two',slowStops,fastStops,same⟩ | ⟨count,one',two',goes,next,later⟩
    · cases fuel with
      | zero => exact absurd ends (by simp [loop])
      | succ fuel =>
        rw [loop_stop slowStops,Option.some_inj] at ends
        exact ⟨1,two',loop_stop fastStops 0,ends ▸ same⟩
    · obtain ⟨left,total,rest⟩ := loop_passes goes ends
      obtain ⟨fuel',result',done,same⟩ := ih left (by omega) later rest
      exact ⟨fuel' + 1,result',(loop_next next fuel').trans done,same⟩

theorem KeepsStep.slow_ends (keeps : KeepsStep slow fast related finished) {fuel : Nat} {one : σ} {two result : τ}
    (start : related one two) (ends : loop fast fuel two = some result) :
    ∃ fuel' result', loop slow fuel' one = some result' ∧ finished result' result := by
  induction fuel generalizing one two with
  | zero => exact absurd ends (by simp [loop])
  | succ fuel ih =>
    rcases keeps one two start with ⟨one',two',slowStops,fastStops,same⟩ | ⟨count,one',two',goes,next,later⟩
    · rw [loop_stop fastStops,Option.some_inj] at ends
      exact ⟨1,one',loop_stop slowStops 0,ends ▸ same⟩
    · rw [loop_next next] at ends
      obtain ⟨fuel',result',done,same⟩ := ih later ends
      exact ⟨fuel' + (count + 1),result',(loop_goesIn goes fuel').trans done,same⟩

end

section
variable {σ ε ρ : Type} {more : σ → Prop} [DecidablePred more] {body : σ → Except ε σ}

/-- A loop whose turns may fail. -/
def attemptTurn (more : σ → Prop) [DecidablePred more] (body : σ → Except ε σ) : Except ε σ → Turn (Except ε σ)
  | .error error => .stop (.error error)
  | .ok state => if more state then .next (body state) else .stop (.ok state)

theorem attemptTurn_next {state : σ} (going : more state) : attemptTurn more body (.ok state) = .next (body state) := if_pos going

theorem attemptTurn_stop {state : σ} (stopped : ¬more state) : attemptTurn more body (.ok state) = .stop (.ok state) := if_neg stopped

/-- Every turn leaves less, so that the loop stops by itself. A loop with a bound gives the same result within any bound that is
not below what is left. -/
structure Terminates (more : σ → Prop) [DecidablePred more] (body : σ → Except ε σ) (left : σ → Nat) (run : Nat → σ → Except ε ρ)
    (finish : σ → Except ε ρ) : Prop where
  onward : ∀ before after, more before → body before = .ok after → left after < left before
  stops : ∀ state, ∃ result, loop (attemptTurn more body) (left state + 1) (.ok state) = some result ∧
    ∀ bound, left state ≤ bound → run bound state = result >>= finish

theorem attempt_terminates {left : σ → Nat} {run : Nat → σ → Except ε ρ} {finish : σ → Except ε ρ}
    (some' : ∀ state, more state → 0 < left state)
    (onward : ∀ before after, more before → body before = .ok after → left after < left before)
    (goes : ∀ bound state, more state → run (bound + 1) state = body state >>= run bound)
    (done : ∀ bound state, ¬more state → left state ≤ bound → run bound state = finish state) :
    Terminates more body left run finish := by
  refine ⟨onward,?_⟩
  intro state
  suffices within : ∀ turns state, left state ≤ turns → ∃ result, loop (attemptTurn more body) (turns + 1) (.ok state) = some result ∧
      ∀ bound, left state ≤ bound → run bound state = result >>= finish from within _ state le_rfl
  intro turns
  induction turns with
  | zero =>
    intro state none'
    have stopped : ¬more state := fun going => by
      have := some' state going
      omega
    exact ⟨.ok state,loop_stop (attemptTurn_stop stopped) 0,fun bound enough => done bound state stopped enough⟩
  | succ turns ih =>
    intro state within
    by_cases going : more state
    · rw [loop_next (attemptTurn_next going)]
      have positive := some' state going
      cases moved : body state with
      | error error =>
        refine ⟨.error error,rfl,?_⟩
        intro bound enough
        obtain ⟨bound,rfl⟩ := Nat.exists_eq_succ_of_ne_zero (show bound ≠ 0 by omega)
        rw [goes bound state going,moved]
        rfl
      | ok next =>
        have less := onward state next going moved
        obtain ⟨result,stops,runs⟩ := ih next (by omega)
        refine ⟨result,stops,?_⟩
        intro bound enough
        obtain ⟨bound,rfl⟩ := Nat.exists_eq_succ_of_ne_zero (show bound ≠ 0 by omega)
        rw [goes bound state going,moved]
        exact runs bound (by omega)
    · exact ⟨.ok state,loop_stop (attemptTurn_stop going) _,fun bound enough => done bound state going enough⟩

end

end ZeffBoy.Library
