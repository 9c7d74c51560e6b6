import Mathlib

/-! Counters that are reloaded at the top and pass on what runs over.
A chain of them is stepped from its head: each one sees the cycles and what ran over in the one before it. -/
namespace ZeffBoy.Library

/-- A counter below `top` after a number of pulses, and how often it was reloaded. -/
def countUp (top reload counter pulses : Nat) : Nat × Nat :=
  if pulses < top - counter then (counter + pulses,0)
  else (reload + (pulses - (top - counter)) % (top - reload),1 + (pulses - (top - counter)) / (top - reload))

variable {top reload counter : Nat}

theorem countUp_lt (below : counter < top) (reloadable : reload < top) (pulses : Nat) :
    (countUp top reload counter pulses).1 < top := by
  have rest := Nat.mod_lt (pulses - (top - counter)) (show 0 < top - reload by omega)
  rw [countUp]
  split <;> dsimp only <;> omega

theorem countUp_zero (below : counter < top) : countUp top reload counter 0 = (counter,0) := by
  simp [countUp,Nat.sub_pos_of_lt below]

theorem countUp_overflows_le (pulses : Nat) (below : counter < top) : (countUp top reload counter pulses).2 ≤ pulses := by
  have quotient := Nat.div_le_self (pulses - (top - counter)) (top - reload)
  rw [countUp]
  split <;> dsimp only <;> omega

theorem countUp_overflows_pos (pulses : Nat) : 0 < (countUp top reload counter pulses).2 ↔ top - counter ≤ pulses := by
  have least := Nat.zero_le ((pulses - (top - counter)) / (top - reload))
  rw [countUp]
  split <;> dsimp only <;> omega

theorem reloaded_add {span : Nat} (spanning : 0 < span) (done more : Nat) :
    (if more < span - done % span then (done % span + more,0)
      else ((more - (span - done % span)) % span,1 + (more - (span - done % span)) / span)) =
      ((done + more) % span,(done + more) / span - done / span) := by
  have rest := Nat.mod_lt done spanning
  have whole : done + more = done % span + more + span * (done / span) := by
    have parts := Nat.mod_add_div done span
    omega
  rw [whole,Nat.add_mul_mod_self_left,Nat.add_mul_div_left _ _ spanning]
  split
  · rename_i within
    rw [Nat.mod_eq_of_lt (show done % span + more < span by omega),Nat.div_eq_of_lt (show done % span + more < span by omega)]
    simp
  · rename_i past
    have beyond : done % span + more = more - (span - done % span) + span := by omega
    rw [beyond,Nat.add_mod_right,Nat.add_div_right _ spanning,Nat.add_sub_cancel,add_comm 1]

theorem countUp_add (reloadable : reload < top) (counter first second : Nat) :
    countUp top reload counter (first + second) =
      ((countUp top reload (countUp top reload counter first).1 second).1,
        (countUp top reload counter first).2 + (countUp top reload (countUp top reload counter first).1 second).2) := by
  rw [countUp.eq_def top reload counter first]
  split
  · rename_i within
    simp only [countUp,show top - (counter + first) = top - counter - first by omega]
    have same : second < top - counter - first ↔ first + second < top - counter := by omega
    simp only [same]
    split
    · simp [add_assoc]
    · rw [show second - (top - counter - first) = first + second - (top - counter) by omega]
      simp
  · rename_i past
    have again := reloaded_add (show 0 < top - reload by omega) (first - (top - counter)) second
    simp only [countUp,show ¬first + second < top - counter by omega,if_false,
      show top - (reload + (first - (top - counter)) % (top - reload)) =
        top - reload - (first - (top - counter)) % (top - reload) by omega,
      show first + second - (top - counter) = first - (top - counter) + second by omega]
    have further := Nat.div_le_div_right (c := top - reload) (Nat.le_add_right (first - (top - counter)) second)
    split at again
    · rename_i within
      obtain ⟨low,high⟩ := Prod.mk.inj again
      simp only [if_pos within,← low]
      congr 1
      · omega
      · omega
    · rename_i reloaded
      obtain ⟨low,high⟩ := Prod.mk.inj again
      simp only [if_neg reloaded,low]
      congr 1
      omega

section
variable {σ : Type} (feed : Nat → Nat → σ → σ × Nat)

def Metered : Prop :=
  ∀ first second carry more stage, feed (first + second) (carry + more) stage =
    ((feed second more (feed first carry stage).1).1,
      (feed first carry stage).2 + (feed second more (feed first carry stage).1).2)

/-- The counters of a chain after a number of cycles, each with what ran over in it. -/
def cascade (cycles : Nat) : Nat → List σ → List (σ × Nat)
  | _,[] => []
  | carry,stage :: rest => feed cycles carry stage :: cascade cycles (feed cycles carry stage).2 rest

variable {feed}

theorem cascade_add (metered : Metered feed) (first second carry more : Nat) (stages : List σ) :
    cascade feed (first + second) (carry + more) stages =
      List.zipWith (fun before after => (after.1,before.2 + after.2)) (cascade feed first carry stages)
        (cascade feed second more ((cascade feed first carry stages).map Prod.fst)) := by
  induction stages generalizing carry more with
  | nil => rfl
  | cons stage rest ih =>
    simp only [cascade,List.map_cons,List.zipWith_cons_cons]
    rw [metered first second carry more stage,ih]

end

end ZeffBoy.Library
