import Mathlib

/-! Hunks collected under a limit.
A walk offers hunks one after the other. A hunk that continues the pending one joins it; a
finished hunk is kept while there is room and counted otherwise. -/
namespace ZeffBoy.Library
open List

structure Collected (η : Type) where
  pending : Option η := none
  hunks : List η := []
  omitted : Nat := 0

namespace Collected
variable {η : Type} (join : η → η → Option η) (maxHunks : Nat)

def flush (collected : Collected η) : Collected η :=
  match collected.pending with
  | none => collected
  | some hunk =>
    if collected.hunks.length < maxHunks then ⟨none,collected.hunks ++ [hunk],collected.omitted⟩
    else ⟨none,collected.hunks,min (collected.omitted + 1) (2^64 - 1)⟩

def queue (collected : Collected η) (next : η) : Collected η :=
  match collected.pending.bind (fun previous => join previous next) with
  | some joined => { collected with pending := some joined }
  | none => { collected.flush maxHunks with pending := some next }

def offer (collected : Collected η) : Option η → Collected η
  | none => collected.flush maxHunks
  | some next => collected.queue join maxHunks next

/-- All hunks that a walk finishes, joined. -/
def finished (pending : Option η) : List (Option η) → List η
  | [] => pending.toList
  | none::steps => pending.toList ++ finished none steps
  | some next::steps =>
    match pending.bind (fun previous => join previous next) with
    | some joined => finished (some joined) steps
    | none => pending.toList ++ finished (some next) steps

/-- Of the hunks finished so far, the first are kept and the others counted. -/
structure Holds (collected : Collected η) (all : List η) : Prop where
  hunks : collected.hunks = all.take maxHunks
  omitted : collected.omitted = min (all.length - maxHunks) (2^64 - 1)

theorem holds_flush (collected : Collected η) (all : List η) (holds : collected.Holds maxHunks all) :
    (collected.flush maxHunks).Holds maxHunks (all ++ collected.pending.toList) ∧
      (collected.flush maxHunks).pending = none := by
  obtain ⟨kept,counted⟩ := holds
  rw [flush]
  cases pending : collected.pending with
  | none =>
    rw [Option.toList_none,append_nil]
    exact ⟨⟨kept,counted⟩,pending⟩
  | some hunk =>
    dsimp only
    by_cases room : collected.hunks.length < maxHunks
    · have short : all.length < maxHunks := by
        rw [kept,length_take] at room
        omega
      rw [if_pos room]
      refine ⟨⟨?_,?_⟩,rfl⟩
      · dsimp only
        rw [kept,take_of_length_le (le_of_lt short),take_of_length_le (by simpa using short)]
        rfl
      · dsimp only
        rw [counted,length_append,Option.toList_some,length_singleton]
        omega
    · have long : maxHunks ≤ all.length := by
        rw [kept,length_take] at room
        omega
      rw [if_neg room]
      refine ⟨⟨?_,?_⟩,rfl⟩
      · dsimp only
        rw [kept,take_append_of_le_length long]
      · dsimp only
        rw [counted,length_append,Option.toList_some,length_singleton]
        omega

theorem holds_walk (steps : List (Option η)) (collected : Collected η) (all : List η)
    (holds : collected.Holds maxHunks all) : ((steps.foldl (offer join maxHunks) collected).flush maxHunks).Holds maxHunks
      (all ++ finished join collected.pending steps) := by
  induction steps generalizing collected all with
  | nil => exact (holds_flush maxHunks collected all holds).1
  | cons step steps ih =>
    obtain ⟨flushed,clear⟩ := holds_flush maxHunks collected all holds
    rw [foldl_cons]
    cases step with
    | none =>
      have rest := ih (collected.flush maxHunks) _ flushed
      rw [clear,append_assoc] at rest
      exact rest
    | some next =>
      rw [offer,queue,finished]
      cases collected.pending.bind (fun previous => join previous next) with
      | some joined => exact ih { collected with pending := some joined } all ⟨holds.hunks,holds.omitted⟩
      | none =>
        have rest := ih { collected.flush maxHunks with pending := some next } _ ⟨flushed.hunks,flushed.omitted⟩
        rw [append_assoc] at rest
        exact rest

theorem holds_empty : ({} : Collected η).Holds maxHunks [] := ⟨take_nil.symm,by simp⟩

theorem length_finished (steps : List (Option η)) (pending : Option η) :
    (finished join pending steps).length ≤ steps.length + pending.toList.length := by
  induction steps generalizing pending with
  | nil => simp [finished]
  | cons step steps ih =>
    cases step with
    | none =>
      have rest := ih none
      rw [finished,length_append,length_cons]
      simp only [Option.toList_none,length_nil] at rest
      omega
    | some next =>
      rw [finished,length_cons]
      cases pending.bind (fun previous => join previous next) with
      | some joined =>
        have rest := ih (some joined)
        simp only [Option.toList_some,length_singleton] at rest
        dsimp only
        omega
      | none =>
        have rest := ih (some next)
        simp only [Option.toList_some,length_singleton] at rest
        rw [length_append]
        omega

end Collected

end ZeffBoy.Library
