import ZeffBoy.Library.Bytes
import ZeffBoy.Library.Checked

/-! Sequential readers over byte strings.
A reader consumes a front part of its input and leaves the rest. What a reader does
on an encoding followed by anything is an equation, so a decoder runs symbolically on
the encoder's output: the equations of its parts rewrite it field by field. -/
namespace ZeffBoy.Library
open List

abbrev Reader (α : Type) := StateT Bytes (Except String) α

namespace Reader

variable {α β : Type}

def fail (message : String) : Reader α := fun _ => .error message

def lift (outcome : Except String α) : Reader α := fun input => outcome.map (fun value => (value,input))

def remaining : Reader Nat := fun input => .ok (input.length,input)

def exact (message : String) (count : Nat) : Reader Bytes := fun input =>
  if count ≤ input.length then .ok (input.take count,input.drop count) else .error message

def array (message : String) (count : Nat) : Reader (List.Vector UInt8 count) := fun input =>
  if enough : count ≤ input.length then
    .ok (⟨input.take count,by simp [enough]⟩,input.drop count)
  else
    .error message

def many (item : Reader α) : Nat → Reader (List α)
  | 0 => pure []
  | count + 1 => do
    let value ← item
    let values ← many item count
    return value::values

@[simp] theorem run_bind (first : Reader α) (next : α → Reader β) (input : Bytes) :
    (first >>= next) input = (first input >>= fun step => next step.1 step.2) := rfl

@[simp] theorem run_pure (value : α) (input : Bytes) : (pure value : Reader α) input = .ok (value,input) := rfl

@[simp] theorem run_map (first : Reader α) (convert : α → β) (input : Bytes) :
    (convert <$> first) input = (first input).map (fun step => (convert step.1,step.2)) := by
  rw [← bind_pure_comp,run_bind]
  cases first input <;> rfl

@[simp] theorem run_fail (message : String) (input : Bytes) : (fail message : Reader α) input = .error message := rfl

@[simp] theorem run_lift (outcome : Except String α) (input : Bytes) :
    lift outcome input = outcome.map (fun value => (value,input)) := rfl

def withContext (message : String) (reader : Reader α) : Reader α := fun input =>
  (reader input).mapError (fun _ => message)

theorem run_exact (message : String) (count : Nat) (front rest : Bytes) (whole : front.length = count) :
    exact message count (front ++ rest) = .ok (front,rest) := by
  subst whole
  simp [exact]

theorem run_array (message : String) (count : Nat) (front : List.Vector UInt8 count) (rest : Bytes) :
    array message count (front.toList ++ rest) = .ok (front,rest) := by
  have width := front.toList_length
  have enough : count ≤ (front.toList ++ rest).length := by simp
  rw [array,dif_pos enough]
  congr 2
  · apply Subtype.ext
    simp only [take_left' width]
    rfl
  · exact drop_left' width

theorem run_many (item : Reader α) (encode : α → Bytes) (outcome : α → Except String α) (values : List α)
    (answers : ∀ value ∈ values, ∀ rest,
      item (encode value ++ rest) = (outcome value).map (fun value => (value,rest))) (rest : Bytes) :
    many item values.length (values.flatMap encode ++ rest) =
      (values.mapM outcome).map (fun values => (values,rest)) := by
  induction values with
  | nil => rfl
  | cons value values ih =>
    have later := ih (fun other member => answers other (mem_cons_of_mem value member))
    simp only [flatMap_cons,append_assoc,length_cons,many,run_bind,
      answers value mem_cons_self,mapM_cons]
    cases outcome value with
    | error message => rfl
    | ok first =>
      simp only [Except.map,ok_bind,later]
      cases values.mapM outcome with
      | error message => rfl
      | ok others => rfl

@[simp] theorem mapM_ok {ε : Type} (values : List α) :
    values.mapM (fun value => (.ok value : Except ε α)) = .ok values := by
  induction values with
  | nil => rfl
  | cons value values ih => rw [mapM_cons,ih]; rfl

def Accepts (item : Reader α) (write : α → Bytes) : Prop :=
  ∀ input value rest, item input = .ok (value,rest) → input = write value ++ rest

theorem bind_eq_ok {first : Reader α} {next : α → Reader β} {input : Bytes} {result : β × Bytes} :
    (first >>= next) input = .ok result ↔
      ∃ value rest, first input = .ok (value,rest) ∧ next value rest = .ok result := by
  rw [run_bind,bind_ok,Prod.exists]

theorem pure_eq_ok {value result : α} {input rest : Bytes} :
    (pure value : Reader α) input = .ok (result,rest) ↔ value = result ∧ input = rest := by
  rw [run_pure,Except.ok.injEq,Prod.mk.injEq]

def Yields (item : Reader α) (good : α → Prop) : Prop :=
  ∀ input value rest, item input = .ok (value,rest) → good value

theorem Yields.bind {first : Reader α} {next : α → Reader β} {good : β → Prop}
    (yields : ∀ value, (next value).Yields good) : (first >>= next).Yields good := by
  intro input value rest ok
  obtain ⟨middle,left,_,ok⟩ := bind_eq_ok.mp ok
  exact yields middle left value rest ok

theorem Yields.pure {good : α → Prop} {value : α} (holds : good value) : (pure value : Reader α).Yields good := by
  intro input result rest ok
  obtain ⟨rfl,_⟩ := pure_eq_ok.mp ok
  exact holds

theorem lift_eq_ok {outcome : Except String α} {input rest : Bytes} {value : α} :
    lift outcome input = .ok (value,rest) ↔ outcome = .ok value ∧ input = rest := by
  cases outcome <;> simp [Except.map]

theorem exact_eq_ok (message : String) (count : Nat) (input front rest : Bytes) :
    exact message count input = .ok (front,rest) ↔ front.length = count ∧ input = front ++ rest := by
  constructor
  · intro read
    unfold exact at read
    split at read
    · rename_i enough
      obtain ⟨rfl,rfl⟩ := Prod.mk.inj (Except.ok.inj read)
      exact ⟨length_take_of_le enough,(take_append_drop count input).symm⟩
    · contradiction
  · rintro ⟨whole,rfl⟩
    exact run_exact message count front rest whole

theorem withContext_eq_ok (message : String) (reader : Reader α) (input : Bytes) (result : α × Bytes) :
    withContext message reader input = .ok result ↔ reader input = .ok result := mapError_ok _ _ _

end Reader

def checkedBy {α : Type} (check : α → Except String Unit) (value : α) : Except String α :=
  (check value).map (fun _ => value)

theorem checkedBy_ok {α : Type} (check : α → Except String Unit) (value result : α) :
    checkedBy check value = .ok result ↔ check value = .ok () ∧ result = value := by
  cases passed : check value <;> simp [checkedBy,passed,Except.map,eq_comm]

theorem mapM_checkedBy_ok {α : Type} (check : α → Except String Unit) (values results : List α) :
    values.mapM (checkedBy check) = .ok results ↔ (∀ value ∈ values, check value = .ok ()) ∧ results = values := by
  induction values generalizing results with
  | nil => simp [pure,Except.pure,eq_comm]
  | cons value values ih =>
    simp only [mapM_cons,bind_ok,checkedBy_ok,ih,pure,Except.pure,Except.ok.injEq,forall_mem_cons]
    constructor
    · rintro ⟨_,⟨passed,rfl⟩,_,⟨others,rfl⟩,rfl⟩
      exact ⟨⟨passed,others⟩,rfl⟩
    · rintro ⟨⟨passed,others⟩,rfl⟩
      exact ⟨value,⟨passed,rfl⟩,values,⟨others,rfl⟩,rfl⟩

theorem option_mapM_checkedBy_ok {α : Type} (check : α → Except String Unit) (value result : Option α) :
    value.mapM (checkedBy check) = .ok result ↔ (∀ inner, value = some inner → check inner = .ok ()) ∧ result = value := by
  cases value with
  | none => simp [pure,Except.pure,eq_comm]
  | some inner =>
    cases passed : check inner <;> simp [checkedBy,passed,Except.map,Functor.map,eq_comm]

end ZeffBoy.Library
