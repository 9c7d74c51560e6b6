import ZeffBoy.WonderSwan.Iterations

/-! An interrupt from its entry to its return. The six bytes of its frame are read back as they were pushed. -/
namespace ZeffBoy.WonderSwan
open List Function

variable {Cell σ : Type} {map : MemoryMap Cell}

theorem and_mask_twice (addr : UInt32) : addr &&& addressMask &&& addressMask = addr &&& addressMask := by
  rw [UInt32.and_assoc]
  rfl

namespace Store

theorem read_mask (store : Store Cell σ) (addr : UInt32) : store.read map (addr &&& addressMask) = store.read map addr := by
  rw [read,read,and_mask_twice]

variable [DecidableEq Cell]

theorem read_write (store : Store Cell σ) (addr other : UInt32) (value : UInt8)
    (writable : map.writable (addr &&& addressMask) = true) : (store.write map addr value).read map other =
      if map.cell (other &&& addressMask) = map.cell (addr &&& addressMask) then value else store.read map other := by
  rw [write,if_pos writable,read,read]
  exact update_apply _ _ _ _

def writes (map : MemoryMap Cell) (store : Store Cell σ) (entries : List (UInt32 × UInt8)) : Store Cell σ :=
  entries.foldl (fun store entry => store.write map entry.1 entry.2) store

def cells (map : MemoryMap Cell) (entries : List (UInt32 × UInt8)) : List Cell :=
  entries.map fun entry => map.cell (entry.1 &&& addressMask)

theorem read_writes_other (store : Store Cell σ) (entries : List (UInt32 × UInt8)) (addr : UInt32)
    (writable : ∀ entry ∈ entries, map.writable (entry.1 &&& addressMask) = true)
    (apart : map.cell (addr &&& addressMask) ∉ cells map entries) :
    (store.writes map entries).read map addr = store.read map addr := by
  induction entries generalizing store with
  | nil => rfl
  | cons entry entries ih =>
    obtain ⟨first,rest⟩ := forall_mem_cons.mp writable
    simp only [cells,map_cons,mem_cons,not_or] at apart
    change ((store.write map entry.1 entry.2).writes map entries).read map addr = _
    rw [ih _ rest apart.2,read_write _ _ _ _ first,if_neg apart.1]

theorem read_writes (store : Store Cell σ) (entries : List (UInt32 × UInt8))
    (writable : ∀ entry ∈ entries, map.writable (entry.1 &&& addressMask) = true) (apart : (cells map entries).Nodup)
    {addr : UInt32} {value : UInt8} (inside : (addr,value) ∈ entries) : (store.writes map entries).read map addr = value := by
  induction entries generalizing store with
  | nil => cases inside
  | cons entry entries ih =>
    obtain ⟨first,rest⟩ := forall_mem_cons.mp writable
    obtain ⟨absent,distinct⟩ := nodup_cons.mp apart
    change ((store.write map entry.1 entry.2).writes map entries).read map addr = _
    rcases mem_cons.mp inside with rfl | later
    · rw [read_writes_other _ _ _ rest absent,read_write _ _ _ _ first,if_pos rfl]
    · exact ih _ rest distinct later

theorem writes_aside {aside : Set Cell} (store : Store Cell σ) (entries : List (UInt32 × UInt8))
    (inside : ∀ cell ∈ cells map entries, cell ∈ aside) : (store.writes map entries).Agree aside store := by
  induction entries generalizing store with
  | nil => exact .refl _
  | cons entry entries ih =>
    obtain ⟨first,rest⟩ := forall_mem_cons.mp inside
    exact (ih _ rest).trans (write_aside _ _ first)

end Store

theorem wordOf_bytes (word : UInt16) : wordOf (lowByte word) (highByte word) = word := by
  have bound := word.toNat_lt
  apply UInt16.toNat_inj.mp
  rw [wordOf,lowByte,highByte,UInt16.toNat_or,UInt16.toNat_shiftLeft,UInt8.toNat_toUInt16,UInt8.toNat_toUInt16,
    UInt16.toNat_toUInt8,UInt16.toNat_toUInt8,UInt16.toNat_shiftRight]
  change word.toNat % 2^8 ||| (word.toNat >>> 8 % 2^8) <<< 8 % 2^16 = _
  have small : (word.toNat / 2^8 % 2^8) <<< 8 < 2^16 := by
    rw [Nat.shiftLeft_eq]
    omega
  rw [Nat.shiftRight_eq_div_pow,Nat.mod_eq_of_lt small,Nat.or_comm,
    ← Nat.shiftLeft_add_eq_or_of_lt (Nat.mod_lt _ (by norm_num)),Nat.shiftLeft_eq]
  omega

namespace Machine

/-- The bytes that an interrupt pushes, and where. -/
def pushes (machine : Machine Cell σ) : List (UInt32 × UInt8) :=
  let cpu := machine.cpu
  let address (offset : UInt16) := cpu.physicalAddress 2 (cpu.regs 4 - offset)
  [(address 2,lowByte (cpu.flags ||| flagFixed)),(address 2 + 1,highByte (cpu.flags ||| flagFixed)),
    (address 4,lowByte (cpu.segments 1)),(address 4 + 1,highByte (cpu.segments 1)),
    (address 6,lowByte cpu.ip),(address 6 + 1,highByte cpu.ip)]

theorem frame_pushes (machine : Machine Cell σ) :
    machine.frame = machine.pushes.map (fun entry => entry.1 &&& addressMask) := rfl

theorem cells_pushes (machine : Machine Cell σ) : Store.cells map machine.pushes = machine.frame.map map.cell := rfl

theorem toNat_physicalAddress (cpu : Cpu) (segment : Fin 4) (offset : UInt16) :
    (cpu.physicalAddress segment offset).toNat = ((cpu.segments segment).toNat * 16 + offset.toNat) % 2^20 := by
  have high := (cpu.segments segment).toNat_lt
  have low := offset.toNat_lt
  rw [Cpu.physicalAddress,UInt32.toNat_and]
  change _ &&& (2^20 - 1) = _
  rw [Nat.and_two_pow_sub_one_eq_mod,UInt32.toNat_add,UInt32.toNat_shiftLeft,UInt16.toNat_toUInt32,UInt16.toNat_toUInt32]
  change ((cpu.segments segment).toNat <<< 4 % 2^32 + offset.toNat) % 2^32 % 2^20 = _
  rw [Nat.shiftLeft_eq]
  omega

theorem frame_nodup (machine : Machine Cell σ) : machine.frame.Nodup := by
  have segment := (machine.cpu.segments 2).toNat_lt
  have pointer := (machine.cpu.regs 4).toNat_lt
  have low (offset : UInt16) : (machine.cpu.physicalAddress 2 (machine.cpu.regs 4 - offset) &&& addressMask).toNat =
      ((machine.cpu.segments 2).toNat * 16 + (2^16 - offset.toNat + (machine.cpu.regs 4).toNat) % 2^16) % 2^20 := by
    rw [UInt32.toNat_and,toNat_physicalAddress,UInt16.toNat_sub]
    change _ &&& (2^20 - 1) = _
    rw [Nat.and_two_pow_sub_one_eq_mod,Nat.mod_mod]
  have high (offset : UInt16) : (machine.cpu.physicalAddress 2 (machine.cpu.regs 4 - offset) + 1 &&& addressMask).toNat =
      (((machine.cpu.segments 2).toNat * 16 + (2^16 - offset.toNat + (machine.cpu.regs 4).toNat) % 2^16) % 2^20 + 1) % 2^20 := by
    rw [UInt32.toNat_and,UInt32.toNat_add,toNat_physicalAddress,UInt16.toNat_sub]
    change _ % 2^32 &&& (2^20 - 1) = _
    rw [Nat.and_two_pow_sub_one_eq_mod]
    change ((_ + 1) % 2^32) % 2^20 = _
    omega
  apply List.Nodup.of_map UInt32.toNat
  simp only [frame,map_cons,map_nil,low,high]
  simp only [nodup_cons,mem_cons,not_mem_nil,or_false,not_or,not_false_eq_true,nodup_nil,and_true]
  have two : (2 : UInt16).toNat = 2 := rfl
  have four : (4 : UInt16).toNat = 4 := rfl
  have six : (6 : UInt16).toNat = 6 := rfl
  rw [two,four,six]
  omega

variable [DecidableEq Cell] {ports : Device σ} {other : Option Decoded → Cpu → Guest Cpu} {machine : Machine Cell σ}

def looked (cpu : Cpu) : Cpu := Cpu.consumeShadows {cpu with lastStepWasInterrupt := false}

theorem looked_same (cpu : Cpu) : (looked cpu).Same cpu := ⟨rfl,rfl,rfl,rfl,rfl⟩

variable {cpu : Cpu} {vector : Option UInt8}

theorem wake_running (running : cpu.state = .running) (signal : Bool) :
    cpu.wake signal = {cpu with lastStepWasInterrupt := false} := by
  unfold Cpu.wake
  rw [if_neg]
  rintro ⟨halted,_⟩
  cases running.symm.trans halted

theorem step_runs (run : Cpu → Guest Cpu) (running : cpu.state = .running) (signal : Bool)
    (quiet : cpu.pendingInterruptOrBrk vector = none) :
    cpu.step run signal vector = run (looked cpu) >>= fun cpu => pure (true,cpu) := by
  have looks : Cpu.pendingInterruptOrBrk {cpu with lastStepWasInterrupt := false} vector = none := quiet
  have runs : (Cpu.consumeShadows {cpu with lastStepWasInterrupt := false}).state = .running := running
  unfold Cpu.step
  rw [if_neg (by rw [running]; exact fun suspended => by cases suspended),wake_running running]
  dsimp only
  rw [looks]
  dsimp only
  rw [runs]
  rfl

theorem step_interrupts (run : Cpu → Guest Cpu) (running : cpu.state = .running) (signal : Bool)
    {number : UInt8} (pending : cpu.pendingInterruptOrBrk vector = some number) :
    cpu.step run signal vector =
      (looked cpu).enterInterrupt number 32 >>= fun cpu => pure (false,{cpu with lastStepWasInterrupt := true}) := by
  have looks : Cpu.pendingInterruptOrBrk {cpu with lastStepWasInterrupt := false} vector = some number := pending
  unfold Cpu.step
  rw [if_neg (by rw [running]; exact fun suspended => by cases suspended),wake_running running]
  dsimp only
  rw [looks]
  rfl

theorem step_quiet (running : machine.cpu.state = .running) {signal : Bool}
    (quiet : machine.cpu.pendingInterruptOrBrk vector = none) :
    machine.step map ports other signal vector = (true,execute map ports other ⟨looked machine.cpu,machine.store⟩) := by
  unfold step
  rw [step_runs _ running _ quiet,Guest.within_bind]
  rfl

theorem push16_within (cpu : Cpu) (value : UInt16) (store : Store Cell σ) :
    (cpu.push16 value).within map ports store = ({cpu with regs := update cpu.regs 4 (cpu.regs 4 - 2)},
      store.writes map [(cpu.physicalAddress 2 (cpu.regs 4 - 2),lowByte value),
        (cpu.physicalAddress 2 (cpu.regs 4 - 2) + 1,highByte value)]) := rfl

theorem pop16_within (cpu : Cpu) (store : Store Cell σ) :
    (cpu.pop16).within map ports store = ((wordOf (store.read map (cpu.physicalAddress 2 (cpu.regs 4)))
      (store.read map (cpu.physicalAddress 2 (cpu.regs 4) + 1)),cpu.setReg16 4 (cpu.regs 4 + 2)),store) := rfl

theorem sub_two (sp : UInt16) : sp - 2 - 2 = sp - 4 := by grind

theorem sub_four (sp : UInt16) : sp - 4 - 2 = sp - 6 := by grind

theorem enterInterrupt_within (ports : Device σ) (cpu : Cpu) (vector : UInt8) (cycles : Nat) (store : Store Cell σ) :
    ((cpu.enterInterrupt vector cycles).within map ports store).1.regs = update cpu.regs 4 (cpu.regs 4 - 6) ∧
      (∀ segment, segment ≠ 1 →
        ((cpu.enterInterrupt vector cycles).within map ports store).1.segments segment = cpu.segments segment) ∧
      ((cpu.enterInterrupt vector cycles).within map ports store).2 = store.writes map (pushes ⟨cpu,store⟩) := by
  unfold Cpu.enterInterrupt
  simp only [Guest.within_bind,push16_within]
  refine ⟨?_,?_,?_⟩
  · change update (update (update cpu.regs 4 _) 4 _) 4 _ = _
    simp only [update_self,update_idem,sub_two,sub_four]
  · intro segment apart
    exact update_of_ne apart _ _
  · simp only [update_self,sub_two,sub_four]
    rfl

theorem fetch8_within (cpu : Cpu) (store : Store Cell σ) : (cpu.fetch8).within map ports store =
    ((store.read map (cpu.physicalAddress 1 cpu.ip),{cpu with ip := cpu.ip + 1}),store) := rfl

theorem fetchOpcode_iret (fuel : Nat) (cpu : Cpu) (store : Store Cell σ)
    (iret : store.read map (cpu.physicalAddress 1 cpu.ip) = 0xCF) :
    (Cpu.fetchOpcode (fuel + 1) none none cpu).within map ports store =
      (some (⟨0xCF,none,none⟩,{cpu with ip := cpu.ip + 1}),store) := by
  unfold Cpu.fetchOpcode
  rw [Guest.within_bind,fetch8_within,iret]
  rfl

-- The word on the stack behind a number of bytes.
def stacked (map : MemoryMap Cell) (store : Store Cell σ) (cpu : Cpu) (offset : UInt16) : UInt16 :=
  wordOf (store.read map (cpu.physicalAddress 2 (cpu.regs 4 + offset)))
    (store.read map (cpu.physicalAddress 2 (cpu.regs 4 + offset) + 1))

/-- What a return makes of the six bytes on the stack. -/
def returned (map : MemoryMap Cell) (store : Store Cell σ) (cpu : Cpu) : Cpu := {cpu with
  regs := update cpu.regs 4 (cpu.regs 4 + 6)
  segments := update cpu.segments 1 (stacked map store cpu 2)
  ip := stacked map store cpu 0
  flags := Cpu.normalizePoppedFlags (stacked map store cpu 4)}

theorem iret_within (ports : Device σ) (cpu : Cpu) (store : Store Cell σ) :
    (cpu.iret.within map ports store).1.Same (returned map store cpu) ∧ (cpu.iret.within map ports store).2 = store := by
  have zero : cpu.regs 4 + 0 = cpu.regs 4 := UInt16.add_zero _
  have two : cpu.regs 4 + 2 + 2 = cpu.regs 4 + 4 := by grind
  have four : cpu.regs 4 + 4 + 2 = cpu.regs 4 + 6 := by grind
  have segment (cs : UInt16) : update cpu.segments 1 cs 2 = cpu.segments 2 := rfl
  unfold Cpu.iret
  simp only [Guest.within_bind,pop16_within]
  refine ⟨⟨?_,?_,?_,?_,rfl⟩,rfl⟩
  · change update (update (update cpu.regs 4 (cpu.regs 4 + 2)) 4 _) 4 _ = _
    simp only [Cpu.setReg16,update_self,update_idem,two,four,returned]
  · change update cpu.segments 1 (wordOf _ _) = _
    simp only [Cpu.setReg16,update_self,returned,stacked]
    rfl
  · change wordOf _ _ = _
    simp only [returned,stacked,zero]
  · change Cpu.normalizePoppedFlags (wordOf _ _) = _
    simp only [Cpu.setReg16,update_self,two,returned,stacked]
    rfl

-- The program counter after a string that is not done.
def rewound (decoded : Decoded) (ip : UInt16) (after : Cpu) : Cpu :=
  if after.shouldResumeRepeatedString decoded then {after with ip := ip} else after

theorem instruction_within {cpu fetched : Cpu} {decoded : Decoded} {store after : Store Cell σ}
    (found : (Cpu.fetchOpcode 65536 none none cpu).within map ports store = (some (decoded,fetched),after)) :
    (Cpu.instruction other cpu).within map ports store =
      (rewound decoded cpu.ip
        ((Cpu.execute other decoded {fetched with lastOpcode := decoded.opcode}).within map ports after).1,
        ((Cpu.execute other decoded {fetched with lastOpcode := decoded.opcode}).within map ports after).2) := by
  unfold Cpu.instruction
  rw [Guest.within_bind,found]
  dsimp only
  rw [Guest.within_bind]
  rfl

theorem execute_iret (iret : machine.store.read map (machine.cpu.physicalAddress 1 machine.cpu.ip) = 0xCF) :
    (machine.execute map ports other).cpu.Same (returned map machine.store machine.cpu) ∧
    (machine.execute map ports other).store = machine.store := by
  have string : Cpu.stringBody ⟨0xCF,none,none⟩ = none := rfl
  have once (cpu : Cpu) : rewound ⟨0xCF,none,none⟩ machine.cpu.ip cpu = cpu := if_neg fun resumes => by cases resumes
  unfold execute
  rw [instruction_within (fetchOpcode_iret 65535 _ _ iret),once]
  unfold Cpu.execute
  rw [string]
  dsimp only
  rw [if_pos rfl]
  have result := @iret_within Cell σ map _ ports {machine.cpu with ip := machine.cpu.ip + 1, lastOpcode := 0xCF} machine.store
  exact ⟨result.1.trans ⟨rfl,rfl,rfl,rfl,rfl⟩,result.2⟩

theorem Taken.restores {aside : Set Cell} {after : Machine Cell σ} (taken : Taken map ports other aside machine after) :
    after.cpu.Same {machine.cpu with flags := Cpu.normalizePoppedFlags machine.cpu.flags} ∧
      after.store.Agree aside machine.store := by
  obtain ⟨entered,last,_,_,_,_,_,number,running,stack,pending,entry,handled,quiet,exit⟩ := taken
  obtain ⟨regs,segments,store⟩ : entered.cpu.regs = update machine.cpu.regs 4 (machine.cpu.regs 4 - 6) ∧
      (∀ segment, segment ≠ 1 → entered.cpu.segments segment = machine.cpu.segments segment) ∧
      entered.store = machine.store.writes map machine.pushes := by
    unfold step at entry
    rw [step_interrupts _ running _ pending,Guest.within_bind] at entry
    obtain rfl := (Prod.mk.inj entry).2
    exact enterInterrupt_within ports (looked machine.cpu) number 32 machine.store
  have writable : ∀ entry ∈ machine.pushes, map.writable (entry.1 &&& addressMask) = true := by
    intro entry inside
    apply stack.writable
    rw [frame_pushes]
    exact mem_map.mpr ⟨entry,inside,rfl⟩
  have apart : (Store.cells map machine.pushes).Nodup := by
    rw [cells_pushes]
    exact (frame_nodup machine).map_on stack.apart
  -- The handler gives back what the entry pushed.
  have bytes {addr : UInt32} {value : UInt8} (inside : (addr,value) ∈ machine.pushes) : last.store.read map addr = value := by
    have framed : addr &&& addressMask ∈ machine.frame := by
      rw [frame_pushes]
      exact mem_map.mpr ⟨(addr,value),inside,rfl⟩
    rw [← Store.read_mask,handled.frame _ framed,Store.read_mask,store]
    exact Store.read_writes _ _ writable apart inside
  have pointer : last.cpu.regs 4 = machine.cpu.regs 4 - 6 := by
    rw [handled.regs,regs,update_self]
  have place (offset : UInt16) : last.cpu.physicalAddress 2 offset = machine.cpu.physicalAddress 2 offset := by
    rw [Cpu.physicalAddress,handled.segments 2 (by decide),segments 2 (by decide)]
    rfl
  have word (offset back value : UInt16) (same : machine.cpu.regs 4 - 6 + offset = machine.cpu.regs 4 - back)
      (low : (machine.cpu.physicalAddress 2 (machine.cpu.regs 4 - back),lowByte value) ∈ machine.pushes)
      (high : (machine.cpu.physicalAddress 2 (machine.cpu.regs 4 - back) + 1,highByte value) ∈ machine.pushes) :
      stacked map last.store last.cpu offset = value := by
    rw [stacked,pointer,same,place,bytes low,bytes high,wordOf_bytes]
  have ip := word 0 6 machine.cpu.ip (by grind) (by simp [pushes]) (by simp [pushes])
  have cs := word 2 4 (machine.cpu.segments 1) (by grind) (by simp [pushes]) (by simp [pushes])
  have flags := word 4 2 (machine.cpu.flags ||| flagFixed) (by grind) (by simp [pushes]) (by simp [pushes])
  rw [step_quiet handled.state quiet] at exit
  obtain rfl := (Prod.mk.inj exit).2
  have result : (execute map ports other ⟨looked last.cpu,last.store⟩).cpu.Same (returned map last.store (looked last.cpu)) ∧
      (execute map ports other ⟨looked last.cpu,last.store⟩).store = last.store := execute_iret handled.iret
  refine ⟨result.1.trans ⟨?_,?_,?_,?_,?_⟩,?_⟩
  · change update last.cpu.regs 4 (last.cpu.regs 4 + 6) = machine.cpu.regs
    have back : machine.cpu.regs 4 - 6 + 6 = machine.cpu.regs 4 := UInt16.sub_add_cancel _ _
    rw [pointer,handled.regs,regs,update_idem,back,update_eq_self]
  · change update last.cpu.segments 1 (stacked map last.store last.cpu 2) = machine.cpu.segments
    funext segment
    by_cases code : segment = 1
    · rw [code,update_self,cs]
    · rw [update_of_ne code,handled.segments segment code,segments segment code]
  · exact ip
  · change Cpu.normalizePoppedFlags (stacked map last.store last.cpu 4) = _
    rw [flags,normalize_fixed]
  · exact handled.state.trans running.symm
  · rw [result.2]
    have pushed : entered.store.Agree aside machine.store := by
      rw [store]
      apply Store.writes_aside
      rw [cells_pushes]
      intro cell inside
      obtain ⟨addr,framed,rfl⟩ := mem_map.mp inside
      exact stack.aside addr framed
    exact handled.store.trans pushed

end Machine
end ZeffBoy.WonderSwan
