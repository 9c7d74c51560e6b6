import Mathlib

/-! Fallible computations and checked 64-bit arithmetic.
A method with a mutable receiver is modelled by the pair of its result and the
receiver it leaves behind, so that a failed call has a state as well. -/
namespace ZeffBoy.Library
open List

/-- Outcome of a method with a mutable receiver. The receiver survives a failure. -/
abbrev Call (σ α : Type) := Except String α × σ

def ensure (condition : Prop) [Decidable condition] (message : String) : Except String Unit :=
  if condition then .ok () else .error message

/-- Addition of unsigned 64-bit words that reports overflow instead of wrapping. -/
def checkedAdd (left right : Nat) (message : String) : Except String Nat :=
  if left + right < 2^64 then .ok (left + right) else .error message

def checkedSub (left right : Nat) (message : String) : Except String Nat :=
  if right ≤ left then .ok (left - right) else .error message

def checkedMul (left right : Nat) (message : String) : Except String Nat :=
  if left * right < 2^64 then .ok (left * right) else .error message

def checkedDiv (left right : Nat) (message : String) : Except String Nat :=
  if right = 0 then .error message else .ok (left / right)

def saturatingAdd (left right : Nat) : Nat := min (left + right) (2^64 - 1)

def checkedSubWord (one two : UInt64) : Option UInt64 := if two ≤ one then some (one - two) else none

def checkedAddByte (one two : UInt8) : Option UInt8 := if one.toNat + two.toNat < 256 then some (one + two) else none

-- A sum or product of bytes.
def checkedByte (value : Nat) : Option Nat := if value < 256 then some value else none

/-- Reads an optional value, failing with the given context when it is absent. -/
def context {α : Type} (value : Option α) (message : String) : Except String α :=
  match value with
  | some value => .ok value
  | none => .error message

-- Continues with the receiver of a successful call; a failed call ends the computation.
def attempt {σ α : Type} (call : Call σ α) : Except String (α × σ) := call.1.map (fun value => (value,call.2))

theorem attempt_ok {σ α : Type} {call : Call σ α} {value : α} {state : σ} :
    attempt call = .ok (value,state) ↔ call = (.ok value,state) := by
  rcases call with ⟨result,left⟩
  cases result <;> simp [attempt,Except.map]

variable {ε α β : Type} {first : Except ε α} {left right : Nat} {message : String}

theorem bind_ok {next : α → Except ε β} {result : β} :
    (first >>= next) = .ok result ↔ ∃ value, first = .ok value ∧ next value = .ok result := by
  cases first with
  | error error => simp [bind,Except.bind]
  | ok value => simp [bind,Except.bind]

@[simp] theorem ok_bind (value : α) (next : α → Except ε β) : (.ok value >>= next) = next value := rfl

@[simp] theorem map_ok (value : α) (convert : α → β) :
    Except.map convert (.ok value : Except ε α) = .ok (convert value) := rfl

theorem map_eq_ok {convert : α → β} {result : β} :
    first.map convert = .ok result ↔ ∃ value, first = .ok value ∧ convert value = result := by
  cases first with
  | error error => simp [Except.map]
  | ok value => simp [Except.map]

theorem bind_congr_ok {next next' : α → Except ε β}
    (same : ∀ value, first = .ok value → next value = next' value) : (first >>= next) = (first >>= next') := by
  cases first with
  | error error => rfl
  | ok value => exact same value rfl

theorem ensure_pos {condition : Prop} [Decidable condition] (holds : condition) (message : String) :
    ensure condition message = .ok () := if_pos holds

theorem checkedAdd_pos (fits : left + right < 2^64) (message : String) :
    checkedAdd left right message = .ok (left + right) := if_pos fits

theorem checkedSub_pos (enough : right ≤ left) (message : String) :
    checkedSub left right message = .ok (left - right) := if_pos enough

theorem checkedMul_pos (fits : left * right < 2^64) (message : String) :
    checkedMul left right message = .ok (left * right) := if_pos fits

theorem checkedByte_pos {value : Nat} (fits : value < 256) : checkedByte value = some value := if_pos fits

theorem ensure_ok {condition : Prop} [Decidable condition] {result : Unit} :
    ensure condition message = .ok result ↔ condition := by
  unfold ensure
  split <;> simp_all

variable {result : Nat}

theorem checkedAdd_ok :
    checkedAdd left right message = .ok result ↔ left + right < 2^64 ∧ result = left + right := by
  unfold checkedAdd
  split
  · simp_all [eq_comm]
  · simp only [reduceCtorEq,false_iff]
    omega

theorem checkedSub_ok :
    checkedSub left right message = .ok result ↔ right ≤ left ∧ result = left - right := by
  unfold checkedSub
  split
  · simp_all [eq_comm]
  · simp only [reduceCtorEq,false_iff]
    omega

theorem checkedMul_ok :
    checkedMul left right message = .ok result ↔ left * right < 2^64 ∧ result = left * right := by
  unfold checkedMul
  split
  · rename_i fits
    rw [Except.ok.injEq,eq_comm]
    exact (and_iff_right fits).symm
  · rename_i large
    exact ⟨(nomatch ·),fun both => absurd both.1 large⟩

theorem saturatingAdd_le {left right : Nat} : saturatingAdd left right ≤ 2^64 - 1 := min_le_right _ _

theorem checkedSubWord_eq (one two : UInt64) : checkedSubWord one two =
    if two.toNat ≤ one.toNat then some (UInt64.ofNat (one.toNat - two.toNat)) else none := by
  by_cases less : two ≤ one
  · have below := UInt64.le_iff_toNat_le.mp less
    rw [checkedSubWord,if_pos less,if_pos below]
    refine congrArg some (UInt64.toNat_inj.mp ?_)
    rw [UInt64.toNat_sub_of_le _ _ less,UInt64.toNat_ofNat',Nat.mod_eq_of_lt]
    exact (Nat.sub_le _ _).trans_lt one.toNat_lt
  · rw [checkedSubWord,if_neg less,if_neg (mt UInt64.le_iff_toNat_le.mpr less)]

theorem context_ok {value : Option α} {result : α} :
    context value message = .ok result ↔ value = some result := by
  cases value <;> simp [context]

theorem mapError_ok (first : Except String α) (convert : String → String) (result : α) :
    first.mapError convert = .ok result ↔ first = .ok result := by
  cases first <;> simp [Except.mapError]

theorem check_bind_ok {ε β : Type} {first : Except ε Unit} {next : Unit → Except ε β} {result : β} :
    (first >>= next) = .ok result ↔ first = .ok () ∧ next () = .ok result := by
  rw [bind_ok]
  constructor
  · rintro ⟨_,passed,rest⟩
    exact ⟨passed,rest⟩
  · rintro ⟨passed,rest⟩
    exact ⟨(),passed,rest⟩

theorem forM_ok {check : α → Except String Unit} {values : List α} :
    forM values check = .ok () ↔ ∀ value ∈ values, check value = .ok () := by
  induction values with
  | nil => simp [pure,Except.pure]
  | cons value values ih => simp [check_bind_ok,ih]

theorem option_forM_ok (check : α → Except String Unit) (value : Option α) :
    forM value check = .ok () ↔ ∀ inner, value = some inner → check inner = .ok () := by
  cases value <;> simp [pure,Except.pure]

theorem foldlM_congr_mem {step step' : β → α → Except ε β} (values : List α) (start : β)
    (same : ∀ value ∈ values, ∀ state, step state value = step' state value) :
    values.foldlM step start = values.foldlM step' start := by
  induction values generalizing start with
  | nil => rfl
  | cons value values ih =>
    obtain ⟨first,later⟩ := forall_mem_cons.mp same
    rw [foldlM_cons,foldlM_cons,first start]
    exact bind_congr fun state => ih state later

theorem mapM_of_ok {first : α → Except ε β} {result : α → β} {values : List α}
    (ok : ∀ value ∈ values, first value = .ok (result value)) : values.mapM first = .ok (values.map result) := by
  induction values with
  | nil => rfl
  | cons value values ih =>
    obtain ⟨head,tail⟩ := forall_mem_cons.mp ok
    rw [mapM_cons,head,ok_bind,ih tail]
    rfl

theorem mapM_exists (first : α → Except ε β) (values : List α)
    (ok : ∀ value ∈ values, ∃ result, first value = .ok result) : ∃ results, values.mapM first = .ok results := by
  induction values with
  | nil => exact ⟨[],rfl⟩
  | cons value values ih =>
    obtain ⟨⟨result,head⟩,tail⟩ := forall_mem_cons.mp ok
    obtain ⟨results,rest⟩ := ih tail
    exact ⟨result::results,by rw [mapM_cons,head,ok_bind,rest]; rfl⟩

end ZeffBoy.Library
