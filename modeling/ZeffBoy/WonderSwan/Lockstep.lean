import ZeffBoy.WonderSwan.Interrupts

/-! Programs that run in lockstep on stores that agree, and the string instructions as such programs. -/
namespace ZeffBoy.WonderSwan

variable {Cell σ α β γ δ : Type}

namespace Guest

/-- Two programs with the same accesses, whose results are related whatever is read. -/
inductive Rel (related : α → β → Prop) : Guest α → Guest β → Prop
  | done {result : α} {other : β} (same : related result other) : Rel related (.done result) (.done other)
  | read8 {next : UInt8 → Guest α} {after : UInt8 → Guest β} (addr : UInt32) (rest : ∀ value, Rel related (next value) (after value)) :
    Rel related (.read8 addr next) (.read8 addr after)
  | write8 {next : Guest α} {after : Guest β} (addr : UInt32) (value : UInt8) (rest : Rel related next after) :
    Rel related (.write8 addr value next) (.write8 addr value after)
  | ioRead8 {next : UInt8 → Guest α} {after : UInt8 → Guest β} (port : UInt16)
      (rest : ∀ value, Rel related (next value) (after value)) : Rel related (.ioRead8 port next) (.ioRead8 port after)
  | ioWrite8 {next : Guest α} {after : Guest β} (port : UInt16) (value : UInt8) (rest : Rel related next after) :
    Rel related (.ioWrite8 port value next) (.ioWrite8 port value after)
  | stepCycles {next : Guest α} {after : Guest β} (cycles : Nat) (rest : Rel related next after) :
    Rel related (.stepCycles cycles next) (.stepCycles cycles after)
  | flush {next : Guest α} {after : Guest β} (rest : Rel related next after) :
    Rel related (.flushDeferredLinearBank next) (.flushDeferredLinearBank after)

theorem Rel.bind {related : α → β → Prop} {results : γ → δ → Prop} {program : Guest α} {other : Guest β}
    {next : α → Guest γ} {after : β → Guest δ} (rel : Rel related program other)
    (rest : ∀ result other, related result other → Rel results (next result) (after other)) :
    Rel results (program >>= next) (other >>= after) := by
  induction rel with
  | done same => exact rest _ _ same
  | read8 addr _ ih => exact .read8 addr ih
  | write8 addr value _ ih => exact .write8 addr value ih
  | ioRead8 port _ ih => exact .ioRead8 port ih
  | ioWrite8 port value _ ih => exact .ioWrite8 port value ih
  | stepCycles cycles _ ih => exact .stepCycles cycles ih
  | flush _ ih => exact .flush ih

theorem Rel.mono {related weaker : α → β → Prop} {program : Guest α} {other : Guest β} (rel : Rel related program other)
    (weaken : ∀ result other, related result other → weaker result other) : Rel weaker program other := by
  induction rel with
  | done same => exact .done (weaken _ _ same)
  | read8 addr _ ih => exact .read8 addr ih
  | write8 addr value _ ih => exact .write8 addr value ih
  | ioRead8 port _ ih => exact .ioRead8 port ih
  | ioWrite8 port value _ ih => exact .ioWrite8 port value ih
  | stepCycles cycles _ ih => exact .stepCycles cycles ih
  | flush _ ih => exact .flush ih

theorem read16_rel (addr : UInt32) : Rel (· = ·) (read16 addr) (read16 addr) := .read8 _ fun _ => .read8 _ fun _ => .done rfl

theorem write16_rel (addr : UInt32) (value : UInt16) : Rel (· = ·) (write16 addr value) (write16 addr value) :=
  .write8 _ _ (.write8 _ _ (.done rfl))

theorem ioRead16_rel (port : UInt16) : Rel (· = ·) (ioRead16 port) (ioRead16 port) :=
  .ioRead8 _ fun _ => .ioRead8 _ fun _ => .done rfl

theorem ioWrite16_rel (port value : UInt16) : Rel (· = ·) (ioWrite16 port value) (ioWrite16 port value) :=
  .ioWrite8 _ _ (.ioWrite8 _ _ (.done rfl))

end Guest

namespace Store
variable {map : MemoryMap Cell} {aside : Set Cell} {store other : Store Cell σ}

theorem Agree.refl (store : Store Cell σ) : store.Agree aside store := ⟨rfl,fun _ _ => rfl⟩

theorem Agree.symm (agree : store.Agree aside other) : other.Agree aside store :=
  ⟨agree.device.symm,fun cell out => (agree.memory cell out).symm⟩

theorem Agree.trans {third : Store Cell σ} (agree : store.Agree aside other) (rest : other.Agree aside third) :
    store.Agree aside third :=
  ⟨agree.device.trans rest.device,fun cell out => (agree.memory cell out).trans (rest.memory cell out)⟩

theorem Agree.device_step (agree : store.Agree aside other) (device : σ) :
    Agree aside { store with device := device } { other with device := device } := ⟨rfl,agree.memory⟩

variable [DecidableEq Cell]

theorem Agree.write (agree : store.Agree aside other) (addr : UInt32) (value : UInt8) :
    (store.write map addr value).Agree aside (other.write map addr value) := by
  unfold Store.write
  split
  · refine ⟨agree.device,?_⟩
    intro cell out
    dsimp only
    by_cases here : cell = map.cell (addr &&& addressMask)
    · rw [here,Function.update_self,Function.update_self]
    · rw [Function.update_of_ne here,Function.update_of_ne here]
      exact agree.memory cell out
  · exact agree

theorem write_aside (addr : UInt32) (value : UInt8) (inside : map.cell (addr &&& addressMask) ∈ aside) :
    (store.write map addr value).Agree aside store := by
  unfold Store.write
  split
  · refine ⟨rfl,?_⟩
    intro cell out
    have apart : cell ≠ map.cell (addr &&& addressMask) := by
      rintro rfl
      exact out inside
    exact Function.update_of_ne apart _ _
  · exact .refl _

end Store

namespace Guest
variable [DecidableEq Cell] {map : MemoryMap Cell} {ports : Device σ} {aside : Set Cell}

theorem within_bind (program : Guest α) (next : α → Guest β) (store : Store Cell σ) :
    (program >>= next).within map ports store =
      (next (program.within map ports store).1).within map ports (program.within map ports store).2 := by
  change (program.bind next).within map ports store = _
  induction program generalizing store with
  | done result => rfl
  | read8 addr after ih => exact ih _ _
  | write8 addr value after ih => exact ih _
  | ioRead8 port after ih => exact ih _ _
  | ioWrite8 port value after ih => exact ih _
  | stepCycles cycles after ih => exact ih _
  | flushDeferredLinearBank after ih => exact ih _

theorem avoids_bind (program : Guest α) (next : α → Guest β) (store : Store Cell σ) :
    (program >>= next).Avoids map ports aside store ↔ program.Avoids map ports aside store ∧
      (next (program.within map ports store).1).Avoids map ports aside (program.within map ports store).2 := by
  change (program.bind next).Avoids map ports aside store ↔ _
  induction program generalizing store with
  | done result => exact (and_iff_right trivial).symm
  | read8 addr after ih =>
    simp only [bind,Avoids,within,ih,and_assoc]
  | write8 addr value after ih => exact ih _
  | ioRead8 port after ih => exact ih _ _
  | ioWrite8 port value after ih => exact ih _
  | stepCycles cycles after ih => exact ih _
  | flushDeferredLinearBank after ih => exact ih _

theorem Rel.lockstep {related : α → β → Prop} {program : Guest α} {other : Guest β} (rel : Rel related program other)
    {store after : Store Cell σ} (agree : store.Agree aside after) (avoids : program.Avoids map ports aside store) :
    related (program.within map ports store).1 (other.within map ports after).1 ∧
      (program.within map ports store).2.Agree aside (other.within map ports after).2 ∧
      other.Avoids map ports aside after := by
  induction rel generalizing store after with
  | done same => exact ⟨same,agree,trivial⟩
  | read8 addr _ ih =>
    obtain ⟨out,avoids⟩ := avoids
    have same : store.read map addr = after.read map addr := agree.memory _ out
    obtain ⟨results,left,right⟩ := ih (store.read map addr) agree avoids
    simp only [within,Avoids]
    rw [← same]
    exact ⟨results,left,out,right⟩
  | write8 addr value _ ih => exact ih (agree.write addr value) avoids
  | ioRead8 port _ ih =>
    simp only [within,Avoids]
    rw [← agree.device]
    exact ih _ (agree.device_step _) avoids
  | ioWrite8 port value _ ih =>
    simp only [within,Avoids]
    rw [← agree.device]
    exact ih (agree.device_step _) avoids
  | stepCycles cycles _ ih => exact ih agree avoids
  | flush _ ih => exact ih agree avoids

end Guest

end ZeffBoy.WonderSwan
