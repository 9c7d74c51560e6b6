import ZeffBoy.Library.Bytes

/-! Run-length coding with one control byte before each run.
A control byte below 0x80 is followed by that many literal bytes and one more; from 0x80 on it repeats the byte behind
it. The first run of a string is known from its control byte. -/
namespace ZeffBoy.Library
open List

inductive Run
  | literal (bytes : Bytes) (some : 0 < bytes.length) (few : bytes.length ≤ 128)
  | repeated (value : UInt8) (count : Nat) (two : 2 ≤ count) (few : count ≤ 129)

namespace Run

def encode : Run → Bytes
  | literal bytes _ _ => UInt8.ofNat (bytes.length - 1)::bytes
  | repeated value count _ _ => [UInt8.ofNat (0x80 + (count - 2)),value]

def expand : Run → Bytes
  | literal bytes _ _ => bytes
  | repeated value count _ _ => List.replicate count value

end Run

def RunLength (encoded decoded : Bytes) : Prop := ∃ runs : List Run, encoded = runs.flatMap Run.encode ∧ decoded = runs.flatMap Run.expand

theorem RunLength.cons (run : Run) {encoded decoded : Bytes} (rest : RunLength encoded decoded) :
    RunLength (run.encode ++ encoded) (run.expand ++ decoded) := by
  obtain ⟨runs,rfl,rfl⟩ := rest
  exact ⟨run::runs,rfl,rfl⟩

theorem RunLength.uncons {control : UInt8} {encoded decoded : Bytes} (runs : RunLength (control::encoded) decoded) :
    ∃ (run : Run) (rest : Bytes) (others : Bytes), control::encoded = run.encode ++ rest ∧ decoded = run.expand ++ others ∧
      RunLength rest others := by
  obtain ⟨runs,whole,rfl⟩ := runs
  cases runs with
  | nil => exact nomatch whole
  | cons run runs => exact ⟨run,runs.flatMap Run.encode,runs.flatMap Run.expand,whole,rfl,⟨runs,rfl,rfl⟩⟩

theorem control_literal : ∀ length : Fin 128,
    UInt8.ofNat length.val &&& 0x80 = 0 ∧ (UInt8.ofNat length.val).toNat = length.val := by
  decide +kernel

theorem control_repeated : ∀ length : Fin 128,
    UInt8.ofNat (0x80 + length.val) &&& 0x80 ≠ 0 ∧ (UInt8.ofNat (0x80 + length.val) &&& 0x7F).toNat = length.val := by
  decide +kernel

theorem control_cases : ∀ control : UInt8, if control &&& 0x80 = 0 then UInt8.ofNat control.toNat = control ∧ control.toNat < 128
    else UInt8.ofNat (0x80 + (control &&& 0x7F).toNat) = control ∧ (control &&& 0x7F).toNat < 128 := by
  decide +kernel

theorem runLength_nil_iff (decoded : Bytes) : RunLength [] decoded ↔ decoded = [] := by
  constructor
  · rintro ⟨runs,whole,rfl⟩
    cases runs with
    | nil => rfl
    | cons run runs => cases run <;> exact nomatch whole
  · rintro rfl
    exact ⟨[],rfl,rfl⟩

theorem runLength_literal {control : UInt8} (literal : control &&& 0x80 = 0) (encoded decoded : Bytes) :
    RunLength (control::encoded) decoded ↔ control.toNat + 1 ≤ encoded.length ∧
      ∃ others, RunLength (encoded.drop (control.toNat + 1)) others ∧ decoded = encoded.take (control.toNat + 1) ++ others := by
  constructor
  · intro runs
    obtain ⟨run,rest,others,whole,rfl,later⟩ := runs.uncons
    cases run with
    | literal bytes some few =>
      obtain ⟨rfl,rfl⟩ := List.cons.inj whole
      have length : (UInt8.ofNat (bytes.length - 1)).toNat + 1 = bytes.length := by
        rw [(control_literal ⟨bytes.length - 1,by omega⟩).2]
        exact Nat.sub_add_cancel some
      change _ ≤ (bytes ++ rest).length ∧ ∃ others, RunLength ((bytes ++ rest).drop _) others ∧ _ = (bytes ++ rest).take _ ++ others
      rw [length,drop_left,take_left,length_append]
      exact ⟨Nat.le_add_right _ _,others,later,rfl⟩
    | repeated value count two few =>
      obtain ⟨rfl,_⟩ := List.cons.inj whole
      exact absurd literal (control_repeated ⟨count - 2,by omega⟩).1
  · rintro ⟨enough,others,later,rfl⟩
    have control_eq := control_cases control
    rw [if_pos literal] at control_eq
    have length : (encoded.take (control.toNat + 1)).length = control.toNat + 1 := length_take_of_le enough
    have run := later.cons (.literal (encoded.take (control.toNat + 1)) (by omega) (by omega))
    rwa [Run.encode,Run.expand,length,Nat.add_sub_cancel,control_eq.1,cons_append,take_append_drop] at run

theorem runLength_repeated {control : UInt8} (repeated : control &&& 0x80 ≠ 0) (encoded decoded : Bytes) :
    RunLength (control::encoded) decoded ↔ ∃ value rest others, encoded = value::rest ∧ RunLength rest others ∧
      decoded = List.replicate ((control &&& 0x7F).toNat + 2) value ++ others := by
  constructor
  · intro runs
    obtain ⟨run,rest,others,whole,rfl,later⟩ := runs.uncons
    cases run with
    | literal bytes some few =>
      obtain ⟨rfl,_⟩ := List.cons.inj whole
      exact absurd (control_literal ⟨bytes.length - 1,by omega⟩).1 repeated
    | repeated value count two few =>
      obtain ⟨rfl,rfl⟩ := List.cons.inj whole
      refine ⟨value,rest,others,rfl,later,?_⟩
      rw [(control_repeated ⟨count - 2,by omega⟩).2,Nat.sub_add_cancel two]
      rfl
  · rintro ⟨value,rest,others,rfl,later,rfl⟩
    have control_eq := control_cases control
    rw [if_neg repeated] at control_eq
    have run := later.cons (.repeated value ((control &&& 0x7F).toNat + 2) (by omega) (by omega))
    rwa [Run.encode,Run.expand,Nat.add_sub_cancel,control_eq.1] at run

end ZeffBoy.Library
