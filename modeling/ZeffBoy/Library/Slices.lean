import ZeffBoy.Library.Turns

/-! Runs that are cut into slices.
A run advances until it ends. A slice of it also stops where a predicate on the states it has passed asks it to, and the
next slice goes on from there: whatever the predicates are, the slices make up the run. -/
namespace ZeffBoy.Library

section
variable {σ τ : Type}

def Returns (turn : σ → Turn σ) (start finish : σ) : Prop := ∃ fuel, loop turn fuel start = some finish

/-- A loop that tests before each turn, and may also be left after one. -/
def whileTurn (test : σ → Bool) (body : σ → σ × Bool) (state : σ) : Turn σ :=
  if test state then
    let (state,leaves) := body state
    if leaves then .stop state else .next state
  else .stop state

def untilTurn (test : σ → Bool) (body : σ → σ × Bool) (state : σ) : Turn σ :=
  let (state,leaves) := body state
  if leaves || !test state then .stop state else .next state

variable {test : σ → Bool} {body : σ → σ × Bool} {start finish : σ}

theorem loop_while_of_until {fuel : Nat} (goes : test start = true)
    (returns : loop (untilTurn test body) fuel start = some finish) : loop (whileTurn test body) (fuel + 1) start = some finish := by
  induction fuel generalizing start with
  | zero => exact absurd returns (by simp [loop])
  | succ fuel ih =>
    rw [loop,whileTurn,if_pos goes]
    rw [loop,untilTurn] at returns
    rcases leaves : (body start).2 with _ | _
    · cases later : test (body start).1 with
      | true =>
        simp only [leaves,later,Bool.not_true,Bool.or_self,Bool.false_eq_true,if_false] at returns ⊢
        exact ih later returns
      | false =>
        simp only [leaves,later,Bool.not_false,Bool.or_true,if_true] at returns
        simp only [leaves,Bool.false_eq_true,if_false,loop,whileTurn,later]
        exact returns
    · simpa only [leaves,Bool.true_or,if_true] using returns

theorem loop_until_of_while {fuel : Nat} (goes : test start = true)
    (returns : loop (whileTurn test body) fuel start = some finish) : loop (untilTurn test body) fuel start = some finish := by
  induction fuel generalizing start with
  | zero => exact absurd returns (by simp [loop])
  | succ fuel ih =>
    rw [loop,untilTurn]
    rw [loop,whileTurn,if_pos goes] at returns
    rcases leaves : (body start).2 with _ | _
    · cases later : test (body start).1 with
      | true =>
        simp only [leaves,later,Bool.not_true,Bool.or_self,Bool.false_eq_true,if_false] at returns ⊢
        exact ih later returns
      | false =>
        simp only [leaves,Bool.false_eq_true,if_false] at returns
        simp only [leaves,later,Bool.not_false,Bool.or_true,if_true]
        cases fuel with
        | zero => exact absurd returns (by simp [loop])
        | succ fuel => rwa [loop,whileTurn,later,if_neg (by simp)] at returns
    · simpa only [leaves,Bool.true_or,if_true] using returns

theorem returns_while_iff (goes : test start = true) :
    Returns (whileTurn test body) start finish ↔ Returns (untilTurn test body) start finish :=
  ⟨fun ⟨fuel,returns⟩ => ⟨fuel,loop_until_of_while goes returns⟩,
    fun ⟨fuel,returns⟩ => ⟨fuel + 1,loop_while_of_until goes returns⟩⟩

theorem loop_mono {turn : σ → Turn σ} {less more : Nat} (returns : loop turn less start = some finish)
    (enough : less ≤ more) : loop turn more start = some finish := by
  induction less generalizing more start with
  | zero => exact absurd returns (by simp [loop])
  | succ less ih =>
    obtain ⟨more,rfl⟩ := Nat.exists_eq_add_of_le' (Nat.one_le_iff_ne_zero.2 (by omega : more ≠ 0))
    cases step : turn start with
    | stop state =>
      rw [loop_stop step] at returns ⊢
      exact returns
    | next state =>
      rw [loop_next step] at returns ⊢
      exact ih returns (by omega)

theorem KeepsStep.returns {slow : σ → Turn σ} {fast : τ → Turn τ} {related finished : σ → τ → Prop}
    (keeps : KeepsStep slow fast related finished) {one : σ} {two : τ} (start : related one two) :
    (∀ finish, Returns slow one finish → ∃ finish', Returns fast two finish' ∧ finished finish finish') ∧
    ∀ finish, Returns fast two finish → ∃ finish', Returns slow one finish' ∧ finished finish' finish := by
  constructor
  · rintro finish ⟨fuel,returns⟩
    obtain ⟨fuel',finish',later,same⟩ := keeps.fast_ends start returns
    exact ⟨finish',⟨fuel',later⟩,same⟩
  · rintro finish ⟨fuel,returns⟩
    obtain ⟨fuel',finish',later,same⟩ := keeps.slow_ends start returns
    exact ⟨finish',⟨fuel',later⟩,same⟩

end

section
variable {σ ε : Type} (step : σ → σ) (judge : σ → σ × Option ε)

def wholeTurn (state : σ × Option ε) : Turn (σ × Option ε) :=
  let (later,ended) := judge (step state.1)
  if ended.isSome then .stop (later,ended) else .next (later,none)

def Ends (start finish : σ) (ended : ε) : Prop := Returns (wholeTurn step judge) (start,none) (finish,some ended)

/-- The run goes on for a number of turns. -/
def Passes (count : Nat) (start later : σ) : Prop := goesIn (wholeTurn step judge) count (start,none) (later,none)

/-- A slice of the run. The predicate sees the states that the steps of the slice have led to, the last one first. -/
def runSlice (shouldStop : List σ → Bool) : Nat → List σ → σ → Option (σ × Option ε × Bool)
  | 0,_,_ => none
  | fuel + 1,seen,state =>
    let stepped := step state
    let stops := shouldStop (stepped :: seen)
    let (later,ended) := judge stepped
    if ended.isSome then some (later,ended,stops)
    else if stops then some (later,none,true)
    else runSlice shouldStop fuel (stepped :: seen) later

variable {step judge}

theorem wholeTurn_next {start later : σ} (goes : judge (step start) = (later,none)) :
    wholeTurn step judge (start,none) = .next (later,none) := by
  rw [wholeTurn,goes]
  rfl

variable {start finish : σ} {ended : ε}

theorem wholeTurn_stop (ends : judge (step start) = (finish,some ended)) :
    wholeTurn step judge (start,none) = .stop (finish,some ended) := by
  rw [wholeTurn,ends]
  rfl

theorem Ends.of_judge (ends : judge (step start) = (finish,some ended)) :
    Ends step judge start finish ended := ⟨1,loop_stop (wholeTurn_stop ends) 0⟩

theorem Passes.ends_iff {count : Nat} {start later : σ} (passes : Passes step judge count start later) (finish : σ) (ended : ε) :
    Ends step judge start finish ended ↔ Ends step judge later finish ended := by
  constructor
  · rintro ⟨fuel,returns⟩
    obtain ⟨left,_,rest⟩ := loop_passes passes returns
    exact ⟨left,rest⟩
  · rintro ⟨fuel,returns⟩
    exact ⟨fuel + count,(loop_goesIn passes fuel).trans returns⟩

theorem Passes.trans {first second : Nat} {start between later : σ} (one : Passes step judge first start between)
    (two : Passes step judge second between later) : Passes step judge (second + first) start later := by
  induction first generalizing start with
  | zero =>
    obtain ⟨rfl,_⟩ := Prod.mk.inj one
    exact two
  | succ first ih =>
    obtain ⟨⟨next,ended⟩,goes,rest⟩ := one
    rw [wholeTurn] at goes
    rcases judged : judge (step start) with ⟨after,_ | last⟩
    · rw [judged] at goes
      obtain ⟨rfl,rfl⟩ := Prod.mk.inj (Turn.next.inj goes)
      exact ⟨(after,none),wholeTurn_next judged,ih rest⟩
    · rw [judged] at goes
      exact absurd goes (by simp)

theorem Passes.keeps (keeps : Nat → σ → Prop) (before : Nat) {count : Nat} {start later : σ} (passes : Passes step judge count start later)
    (initial : keeps before start)
    (kept : ∀ count state next, keeps count state → judge (step state) = (next,none) → keeps (count + 1) next) :
    keeps (before + count) later := by
  induction count generalizing start before with
  | zero =>
    obtain ⟨rfl,_⟩ := Prod.mk.inj passes
    exact initial
  | succ count ih =>
    obtain ⟨⟨between,ended⟩,first,rest⟩ := passes
    rw [wholeTurn] at first
    rcases judged : judge (step start) with ⟨next,_ | last⟩
    · rw [judged] at first
      obtain ⟨rfl,rfl⟩ := Prod.mk.inj (Turn.next.inj first)
      rw [← add_assoc,add_right_comm]
      exact ih (before + 1) rest (kept _ _ _ initial judged)
    · rw [judged] at first
      exact absurd first (by simp)

theorem Ends.passes (ends : Ends step judge start finish ended) :
    ∃ count later, Passes step judge count start later ∧ judge (step later) = (finish,some ended) := by
  obtain ⟨fuel,returns⟩ := ends
  induction fuel generalizing start with
  | zero => exact absurd returns (by simp [loop])
  | succ fuel ih =>
    rcases judged : judge (step start) with ⟨next,_ | last⟩
    · rw [loop_next (wholeTurn_next judged)] at returns
      obtain ⟨count,later,passes,last⟩ := ih returns
      exact ⟨count + 1,later,⟨(next,none),wholeTurn_next judged,passes⟩,last⟩
    · rw [loop_stop (wholeTurn_stop judged)] at returns
      obtain ⟨rfl,same⟩ := Prod.mk.inj (Option.some.inj returns)
      exact ⟨0,start,rfl,same ▸ judged⟩

theorem runSlice_spec {shouldStop : List σ → Bool} {fuel : Nat} {seen : List σ} {ended : Option ε} {stops : Bool}
    (sliced : runSlice step judge shouldStop fuel seen start = some (finish,ended,stops)) :
    match ended with
    | none => ∃ count, Passes step judge (count + 1) start finish
    | some ended => Ends step judge start finish ended := by
  induction fuel generalizing seen start with
  | zero => exact absurd sliced (by simp [runSlice])
  | succ fuel ih =>
    rw [runSlice] at sliced
    rcases judged : judge (step start) with ⟨state,_ | last⟩
    · simp only [judged,Option.isSome_none,Bool.false_eq_true,if_false] at sliced
      split at sliced
      · obtain ⟨rfl,rfl,rfl⟩ := Prod.mk.inj (Option.some.inj sliced) |>.imp_right Prod.mk.inj
        exact ⟨0,(state,none),wholeTurn_next judged,rfl⟩
      · have later := ih sliced
        cases ended with
        | none =>
          obtain ⟨count,passes⟩ := later
          exact ⟨count + 1,(state,none),wholeTurn_next judged,passes⟩
        | some ended =>
          have one : Passes step judge 1 start state := ⟨_,wholeTurn_next judged,rfl⟩
          exact (one.ends_iff _ _).2 later
    · simp only [judged,Option.isSome_some,if_true] at sliced
      obtain ⟨rfl,rfl,rfl⟩ := Prod.mk.inj (Option.some.inj sliced) |>.imp_right Prod.mk.inj
      exact .of_judge judged

theorem runSlice_isSome {fuel : Nat} {start : σ} {finish : σ × Option ε}
    (ends : loop (wholeTurn step judge) fuel (start,none) = some finish) (shouldStop : List σ → Bool) (seen : List σ) :
    (runSlice step judge shouldStop fuel seen start).isSome = true := by
  induction fuel generalizing seen start with
  | zero => exact absurd ends (by simp [loop])
  | succ fuel ih =>
    rw [runSlice]
    rcases judged : judge (step start) with ⟨state,_ | last⟩
    · simp only [Option.isSome_none,Bool.false_eq_true,if_false]
      split
      · rfl
      · rw [loop_next (wholeTurn_next judged)] at ends
        exact ih ends _
    · rfl

end

end ZeffBoy.Library
