import ZeffBoy.Gba.Timer

/-! Many cycles of the timers at once.
A step is a cascade of the four timers: each counts its own prescaled cycles, or what runs over in the one before it. -/
namespace ZeffBoy.Gba
open Library List Function

local instance neZero_stages : NeZero 4 := ⟨by decide⟩

/-- A timer with the part of the timing state that is its own. -/
structure TimerStage where
  index : Fin 4
  timer : Timer
  accum : Nat
  delay : Nat

def Timer.count (timer : Timer) (pulses : Nat) : Timer × Nat :=
  let counted := countUp 0x10000 timer.reload.toNat timer.counter.toNat pulses
  ({ timer with counter := UInt16.ofNat counted.1 },counted.2)

def TimerStage.feed (cycles carry : Nat) (stage : TimerStage) : TimerStage × Nat :=
  if timerUsesCpuClock stage.index stage.timer.control then
    let waited := { stage with delay := stage.delay - cycles }
    if cycles ≤ stage.delay then (waited,0) else
    let total := stage.accum + (cycles - stage.delay)
    let counted := stage.timer.count (total / timerPeriod stage.timer.control)
    ({ waited with timer := counted.1, accum := total % timerPeriod stage.timer.control },counted.2)
  else if stage.timer.control &&& 0x0080 ≠ 0 then
    let counted := stage.timer.count carry
    ({ stage with timer := counted.1 },counted.2)
  else (stage,0)

namespace Timer

@[simp] theorem count_control (timer : Timer) (pulses : Nat) : (timer.count pulses).1.control = timer.control := rfl

@[simp] theorem count_reload (timer : Timer) (pulses : Nat) : (timer.count pulses).1.reload = timer.reload := rfl

theorem count_zero (timer : Timer) : timer.count 0 = (timer,0) := by
  simp [count,countUp_zero timer.counter.toNat_lt]

theorem count_counter (timer : Timer) (pulses : Nat) :
    (timer.count pulses).1.counter.toNat = (countUp 0x10000 timer.reload.toNat timer.counter.toNat pulses).1 := by
  have low := countUp_lt timer.counter.toNat_lt timer.reload.toNat_lt pulses
  simp [count,Nat.mod_eq_of_lt low]

theorem count_add (timer : Timer) (first second : Nat) :
    timer.count (first + second) =
      (((timer.count first).1.count second).1,(timer.count first).2 + ((timer.count first).1.count second).2) := by
  have counted := countUp_add timer.reload.toNat_lt timer.counter.toNat first second
  rw [← count_counter] at counted
  rw [count,counted]
  rfl

theorem count_le (timer : Timer) (pulses : Nat) : (timer.count pulses).2 ≤ pulses :=
  countUp_overflows_le pulses timer.counter.toNat_lt

end Timer

theorem prescaled_add (accum first second : Nat) {period : Nat} (periodic : 0 < period) :
    (accum + (first + second)) / period = (accum + first) / period + ((accum + first) % period + second) / period ∧
      (accum + (first + second)) % period = ((accum + first) % period + second) % period := by
  have whole : accum + (first + second) = (accum + first) % period + second + period * ((accum + first) / period) := by
    have parts := Nat.mod_add_div (accum + first) period
    omega
  constructor
  · rw [whole,Nat.add_mul_div_left _ _ periodic,add_comm]
  · rw [Nat.mod_add_mod,add_assoc]

theorem feed_metered : Metered TimerStage.feed := by
  intro first second carry more stage
  by_cases clocked : timerUsesCpuClock stage.index stage.timer.control
  · by_cases waits : first ≤ stage.delay
    · by_cases stays : first + second ≤ stage.delay
      · have later : second ≤ stage.delay - first := by omega
        simp [TimerStage.feed,clocked,waits,stays,later,Nat.sub_sub]
      · have later : ¬second ≤ stage.delay - first := by omega
        have left : second - (stage.delay - first) = first + second - stage.delay := by omega
        simp [TimerStage.feed,clocked,waits,stays,later,left,Nat.sub_sub]
    · have passed : ¬first + second ≤ stage.delay := by omega
      have ended : stage.delay - first = 0 := by omega
      have gone : stage.delay - (first + second) = 0 := by omega
      have split : first + second - stage.delay = first - stage.delay + second := by omega
      obtain ⟨pulses,rest⟩ := prescaled_add stage.accum (first - stage.delay) second (timerPeriod_pos stage.timer.control)
      by_cases none : second = 0
      · simp [TimerStage.feed,clocked,waits,none]
      · simp [TimerStage.feed,clocked,waits,passed,ended,gone,none,split,pulses,rest,Timer.count_add]
  · by_cases enabled : stage.timer.control &&& 0x0080 = 0
    · simp [TimerStage.feed,clocked,enabled]
    · simp [TimerStage.feed,clocked,enabled,Timer.count_add]

/-- What a timer hands back when it has overflowed. -/
def TimerOverflows.note (raised : TimerOverflows) (index : Fin 4) (control : UInt16) (overflows : Nat) : TimerOverflows :=
  if overflows = 0 then raised else
  { overflowCounts := update raised.overflowCounts index (min (raised.overflowCounts index + overflows) u32Max),
    irqFlags := if control &&& 0x0040 ≠ 0 then raised.irqFlags ||| 1 <<< UInt16.ofNat (3 + index.val) else raised.irqFlags,
    irqExtraDelays :=
      if control &&& 0x0040 ≠ 0 then update raised.irqExtraDelays index 0 else raised.irqExtraDelays }

namespace Timers

def stage (self : Timers) (index : Fin 4) : TimerStage :=
  ⟨index,self.timers index,self.cycleAccum index,self.startDelayCycles index⟩

def put (self : Timers) (stage : TimerStage) : Timers :=
  { self with
    timers := update self.timers stage.index stage.timer,
    cycleAccum := update self.cycleAccum stage.index stage.accum,
    startDelayCycles := update self.startDelayCycles stage.index stage.delay }

theorem incrementTimerBy_eq (self : Timers) (index : Fin 4) {increments : Nat} (fits : increments ≤ u32Max) (raised : TimerOverflows) :
    self.incrementTimerBy index increments raised =
      ({ self with timers := update self.timers index ((self.timers index).count increments).1 },
        raised.note index (self.timers index).control ((self.timers index).count increments).2,
        ((self.timers index).count increments).2) := by
  have below := (self.timers index).counter.toNat_lt
  unfold incrementTimerBy
  split
  · rename_i none
    simp [none,Timer.count_zero,TimerOverflows.note]
  · dsimp only
    split
    · rename_i within
      simp [Timer.count,countUp,within,TimerOverflows.note]
    · rename_i past
      have counted := Timer.count_le (self.timers index) increments
      simp only [Timer.count,countUp,past,if_false] at counted ⊢
      rw [min_eq_left (counted.trans fits)]
      simp [TimerOverflows.note]

theorem incrementCascadeBy_zero (self : Timers) (index : Nat) (raised : TimerOverflows) :
    self.incrementCascadeBy index 0 raised = (self,raised) := by
  unfold incrementCascadeBy
  split
  · dsimp only
    split
    · rfl
    · simp [incrementTimerBy]
  · rfl

variable {self : Timers} {index : Fin 4}

theorem clockTimer_idle (idle : ¬timerUsesCpuClock index (self.timers index).control)
    (cycles : Nat) (raised : TimerOverflows) : clockTimer cycles self raised index = (self,raised) := by
  simp [clockTimer,idle]

theorem cascades_eq (self : Timers) (index cascades : Nat) (raised : TimerOverflows) :
    (if cascades ≠ 0 then self.incrementCascadeBy index cascades raised else (self,raised)) =
      self.incrementCascadeBy index cascades raised := by
  split
  · rfl
  · rename_i none
    rw [not_not.mp none,incrementCascadeBy_zero]

@[simp] theorem note_zero (raised : TimerOverflows) (index : Fin 4) (control : UInt16) :
    raised.note index control 0 = raised := rfl

@[simp] theorem put_stage (self : Timers) (index : Fin 4) : self.put (self.stage index) = self := by
  simp [put,stage]

theorem feed_le {stage : TimerStage} {cycles carry : Nat} (inRange : stage.accum + cycles ≤ u32Max) (carried : carry ≤ u32Max) :
    (stage.feed cycles carry).2 ≤ u32Max := by
  unfold TimerStage.feed
  split
  · dsimp only
    split
    · exact Nat.zero_le _
    · refine (Timer.count_le _ _).trans ((Nat.div_le_self _ _).trans ?_)
      omega
  · split
    · exact (Timer.count_le _ _).trans carried
    · exact Nat.zero_le _

theorem clockTimer_clocked (clocked : timerUsesCpuClock index (self.timers index).control)
    {cycles : Nat} (carry : Nat) (inRange : self.cycleAccum index + cycles ≤ u32Max) (raised : TimerOverflows) :
    clockTimer cycles self raised index =
      (self.put (TimerStage.feed cycles carry (self.stage index)).1).incrementCascadeBy (index.val + 1)
        (TimerStage.feed cycles carry (self.stage index)).2
        (raised.note index (self.timers index).control (TimerStage.feed cycles carry (self.stage index)).2) := by
  by_cases waits : cycles ≤ self.startDelayCycles index
  · have fed : TimerStage.feed cycles carry (self.stage index) =
        ({ self.stage index with delay := self.startDelayCycles index - cycles },0) := by
      simp [TimerStage.feed,stage,clocked,waits]
    rw [fed,note_zero,incrementCascadeBy_zero]
    simp [clockTimer,clocked,waits,put,stage]
  · have passed : cycles - min (self.startDelayCycles index) cycles = cycles - self.startDelayCycles index := by omega
    have counts : cycles - self.startDelayCycles index ≠ 0 := by omega
    have total : self.cycleAccum index + (cycles - self.startDelayCycles index) ≤ u32Max := by omega
    have waited : self.startDelayCycles index - min (self.startDelayCycles index) cycles = self.startDelayCycles index - cycles := by
      omega
    simp only [clockTimer,clocked,not_true,if_false,passed,counts,min_eq_left total,waited]
    rw [incrementTimerBy_eq _ _ ((Nat.div_le_self _ _).trans total)]
    dsimp only
    rw [cascades_eq]
    simp [TimerStage.feed,stage,clocked,waits,put]

theorem incrementCascadeBy_stops
    (stops : (self.timers index).control &&& 0x0080 = 0 ∨ (self.timers index).control &&& 0x0004 = 0)
    (carry : Nat) (raised : TimerOverflows) : self.incrementCascadeBy index carry raised = (self,raised) := by
  unfold incrementCascadeBy
  simp [stops]

theorem incrementCascadeBy_counts (enabled : (self.timers index).control &&& 0x0080 ≠ 0)
    (countsUp : (self.timers index).control &&& 0x0004 ≠ 0) {carry : Nat} (carried : carry ≤ u32Max) (raised : TimerOverflows) :
    self.incrementCascadeBy index carry raised =
      ({ self with timers := update self.timers index ((self.timers index).count carry).1 }).incrementCascadeBy
        (index.val + 1) ((self.timers index).count carry).2
        (raised.note index (self.timers index).control ((self.timers index).count carry).2) := by
  rw [incrementCascadeBy]
  simp only [index.isLt,enabled,countsUp,dite_true,or_self,if_false]
  rw [incrementTimerBy_eq _ _ carried]
  exact cascades_eq _ _ _ _

theorem clockTimer_cascade {cycles carry : Nat}
    (inRange : self.cycleAccum index + cycles ≤ u32Max) (carried : carry ≤ u32Max) (first : index = 0 → carry = 0)
    (raised : TimerOverflows) :
    clockTimer cycles (self.incrementCascadeBy index carry raised).1 (self.incrementCascadeBy index carry raised).2 index =
      (self.put (TimerStage.feed cycles carry (self.stage index)).1).incrementCascadeBy (index.val + 1)
        (TimerStage.feed cycles carry (self.stage index)).2
        (raised.note index (self.timers index).control (TimerStage.feed cycles carry (self.stage index)).2) := by
  by_cases clocked : timerUsesCpuClock index (self.timers index).control
  · have unpulsed : self.incrementCascadeBy index carry raised = (self,raised) := by
      by_cases head : index = 0
      · rw [first head,incrementCascadeBy_zero]
      · have counts : (self.timers index).control &&& 0x0004 = 0 := by
          simp only [timerUsesCpuClock,Bool.and_eq_true,Bool.or_eq_true,beq_iff_eq,head,false_or] at clocked
          exact clocked.2
        rw [incrementCascadeBy_stops (.inr counts)]
    rw [unpulsed]
    exact clockTimer_clocked clocked carry inRange raised
  · rw [clockTimer_idle (by rwa [incrementCascadeBy_frame.2])]
    by_cases enabled : (self.timers index).control &&& 0x0080 = 0
    · have fed : TimerStage.feed cycles carry (self.stage index) = (self.stage index,0) := by
        simp [TimerStage.feed,stage,clocked,enabled]
      rw [incrementCascadeBy_stops (.inl enabled),fed,put_stage,note_zero,incrementCascadeBy_zero]
    · have countsUp : (self.timers index).control &&& 0x0004 ≠ 0 := by
        intro prescaled
        simp [timerUsesCpuClock,enabled,prescaled] at clocked
      rw [incrementCascadeBy_counts enabled countsUp carried]
      simp [TimerStage.feed,stage,clocked,enabled,put]

def stages (self : Timers) : List TimerStage := [self.stage 0,self.stage 1,self.stage 2,self.stage 3]

/-- The timers after a chain of stages has been put back, with the phase of the prescaler. -/
def putAll (self : Timers) (chain : List (TimerStage × Nat)) : Timers :=
  chain.foldl (fun self fed => self.put fed.1) self

def noteAll (self : Timers) (chain : List (TimerStage × Nat)) : TimerOverflows :=
  chain.foldl (fun raised fed => raised.note fed.1.index (self.timers fed.1.index).control fed.2) .none

@[simp] theorem feed_index (cycles carry : Nat) (stage : TimerStage) : (stage.feed cycles carry).1.index = stage.index := by
  unfold TimerStage.feed
  split
  · dsimp only
    split <;> rfl
  · split <;> rfl

theorem put_other {stage : TimerStage} (other : index ≠ stage.index) :
    (self.put stage).stage index = self.stage index := by
  simp [put,Timers.stage,update_of_ne other]

theorem turns_eq {bank : Timers} {cycles : Nat} (inRange : ∀ index, bank.cycleAccum index + cycles ≤ u32Max)
    (indices : List (Fin 4)) (next : Nat) (chained : indices.map Fin.val = List.range' next indices.length)
    (whole : next + indices.length = 4) (rest : ∀ index ∈ indices, self.stage index = bank.stage index)
    {carry : Nat} (carried : carry ≤ u32Max) (first : next = 0 → carry = 0) (raised : TimerOverflows) :
    indices.foldl (fun run index => clockTimer cycles run.1 run.2 index) (self.incrementCascadeBy next carry raised) =
      ((cascade TimerStage.feed cycles carry (indices.map bank.stage)).foldl (fun self fed => self.put fed.1) self,
        (cascade TimerStage.feed cycles carry (indices.map bank.stage)).foldl
          (fun raised fed => raised.note fed.1.index (bank.timers fed.1.index).control fed.2) raised) := by
  induction indices generalizing next self carry raised with
  | nil =>
    have ended : next = 4 := by simpa using whole
    rw [ended,incrementCascadeBy]
    rfl
  | cons index indices ih =>
    simp only [map_cons,length_cons,List.range'_succ,List.cons.injEq] at chained
    obtain ⟨here,later⟩ := chained
    have same := rest index mem_cons_self
    have timer : self.timers index = bank.timers index := congrArg TimerStage.timer same
    have accum : self.cycleAccum index = bank.cycleAccum index := congrArg TimerStage.accum same
    rw [foldl_cons,← here,clockTimer_cascade (by rw [accum]; exact inRange index) carried
      (fun head => first (by rw [← here,head]; rfl)),same,timer]
    rw [ih (index.val + 1) (by rw [here,later]) (by rw [here]; simp at whole; omega) ?_ (feed_le (inRange index) carried) (by omega)]
    · simp [cascade,stage]
    · intro other inside
      rw [put_other,rest other (mem_cons_of_mem _ inside)]
      rw [feed_index]
      intro twice
      have above : index.val + 1 ≤ other.val := by
        have member : other.val ∈ indices.map Fin.val := mem_map_of_mem inside
        rw [later,List.mem_range'_1] at member
        omega
      have again : other.val = index.val := congrArg Fin.val twice
      omega

theorem loop_eq (sound : self.Sound) {cycles : Nat} (inRange : cycles ≤ 2 ^ 32 - 1024) :
    ([0,1,2,3] : List (Fin 4)).foldl (fun run index => clockTimer cycles run.1 run.2 index) (self,.none) =
      (self.putAll (cascade TimerStage.feed cycles 0 self.stages),self.noteAll (cascade TimerStage.feed cycles 0 self.stages)) := by
  have total (index : Fin 4) : self.cycleAccum index + cycles ≤ u32Max := by
    have accum := sound.accum index
    unfold u32Max
    omega
  have turns := turns_eq total [0,1,2,3] 0 rfl rfl (fun _ _ => rfl) zero_le (fun _ => rfl) .none
  rw [incrementCascadeBy_zero] at turns
  exact turns

theorem cascade_indices (cycles carry : Nat) (stages : List TimerStage) :
    (cascade TimerStage.feed cycles carry stages).map (·.1.index) = stages.map TimerStage.index := by
  induction stages generalizing carry with
  | nil => rfl
  | cons stage rest ih => simp [cascade,ih]

theorem four_of_indices {chain : List (TimerStage × Nat)} (indexed : chain.map (·.1.index) = [0,1,2,3]) :
    ∃ zero one two three : TimerStage × Nat, chain = [zero,one,two,three] ∧
      zero.1.index = 0 ∧ one.1.index = 1 ∧ two.1.index = 2 ∧ three.1.index = 3 := by
  simp only [map_eq_cons_iff,map_eq_nil_iff] at indexed
  obtain ⟨zero,_,rfl,first,one,_,rfl,second,two,_,rfl,third,three,_,rfl,fourth,rfl⟩ := indexed
  exact ⟨zero,one,two,three,rfl,first,second,third,fourth⟩

theorem stages_putAll (self : Timers) {chain : List (TimerStage × Nat)} (indexed : chain.map (·.1.index) = [0,1,2,3]) :
    (self.putAll chain).stages = chain.map Prod.fst := by
  obtain ⟨⟨⟨_,_,_,_⟩,_⟩,⟨⟨_,_,_,_⟩,_⟩,⟨⟨_,_,_,_⟩,_⟩,⟨⟨_,_,_,_⟩,_⟩,rfl,rfl,rfl,rfl,rfl⟩ := four_of_indices indexed
  simp [stages,putAll,put,stage]

theorem putAll_putAll (self : Timers) {chain later : List (TimerStage × Nat)} (indexed : chain.map (·.1.index) = [0,1,2,3])
    (again : later.map (·.1.index) = [0,1,2,3]) : (self.putAll chain).putAll later = self.putAll later := by
  obtain ⟨⟨⟨_,_,_,_⟩,_⟩,⟨⟨_,_,_,_⟩,_⟩,⟨⟨_,_,_,_⟩,_⟩,⟨⟨_,_,_,_⟩,_⟩,rfl,rfl,rfl,rfl,rfl⟩ := four_of_indices indexed
  obtain ⟨⟨⟨_,_,_,_⟩,_⟩,⟨⟨_,_,_,_⟩,_⟩,⟨⟨_,_,_,_⟩,_⟩,⟨⟨_,_,_,_⟩,_⟩,rfl,rfl,rfl,rfl,rfl⟩ := four_of_indices again
  simp only [putAll,put,foldl_cons,foldl_nil]
  congr 1 <;> funext index <;> fin_cases index <;> rfl

def irqBit (index : Fin 4) (control : UInt16) (overflows : Nat) : UInt16 :=
  if overflows ≠ 0 ∧ control &&& 0x0040 ≠ 0 then 1 <<< UInt16.ofNat (3 + index.val) else 0

theorem irqBit_add (index : Fin 4) (control : UInt16) (first second : Nat) :
    irqBit index control (first + second) = irqBit index control first ||| irqBit index control second := by
  unfold irqBit
  by_cases enabled : control &&& 0x0040 = 0
  · simp [enabled]
  · by_cases before : first = 0 <;> by_cases after : second = 0 <;> simp [enabled,before,after]

theorem note_fresh {raised : TimerOverflows} (fresh : raised.overflowCounts index = 0)
    (undelayed : raised.irqExtraDelays = fun _ => 0) {overflows : Nat} (fits : overflows ≤ u32Max) (control : UInt16) :
    raised.note index control overflows =
      ⟨raised.irqFlags ||| irqBit index control overflows,update raised.overflowCounts index overflows,fun _ => 0⟩ := by
  unfold TimerOverflows.note irqBit
  by_cases none : overflows = 0
  · have same : update raised.overflowCounts index 0 = raised.overflowCounts := by
      rw [← fresh,update_eq_self]
    simp [none,same,← undelayed]
  · by_cases enabled : control &&& 0x0040 = 0
    · simp [none,enabled,fresh,undelayed,min_eq_left fits]
    · simp [none,enabled,fresh,undelayed,min_eq_left fits]

theorem noteAll_four (self : Timers) {zero one two three : TimerStage × Nat} (first : zero.1.index = 0)
    (second : one.1.index = 1) (third : two.1.index = 2) (fourth : three.1.index = 3)
    (fits : ∀ fed ∈ [zero,one,two,three], fed.2 ≤ u32Max) :
    self.noteAll [zero,one,two,three] =
      ⟨irqBit 0 (self.timers 0).control zero.2 ||| irqBit 1 (self.timers 1).control one.2 |||
          irqBit 2 (self.timers 2).control two.2 ||| irqBit 3 (self.timers 3).control three.2,
        ![zero.2,one.2,two.2,three.2],fun _ => 0⟩ := by
  simp only [mem_cons,not_mem_nil,or_false,forall_eq_or_imp,forall_eq] at fits
  obtain ⟨low,next,high,top⟩ := fits
  simp only [noteAll,foldl_cons,foldl_nil,first,second,third,fourth]
  rw [note_fresh rfl rfl low,note_fresh rfl rfl next,note_fresh rfl rfl high,note_fresh rfl rfl top]
  ext index
  · simp [TimerOverflows.none]
  · fin_cases index <;> rfl
  · rfl

end Timers

def TimerOverflows.join (first second : TimerOverflows) : TimerOverflows :=
  ⟨first.irqFlags ||| second.irqFlags,fun index => first.overflowCounts index + second.overflowCounts index,
    fun index => first.irqExtraDelays index + second.irqExtraDelays index⟩

namespace Timers

theorem noteAll_join {self next : Timers} (controls : ∀ index, (next.timers index).control = (self.timers index).control)
    {chain later : List (TimerStage × Nat)} (indexed : chain.map (·.1.index) = [0,1,2,3])
    (again : later.map (·.1.index) = [0,1,2,3])
    (fits : ∀ fed ∈ List.zipWith (fun before after => (after.1,before.2 + after.2)) chain later, fed.2 ≤ u32Max) :
    (self.noteAll chain).join (next.noteAll later) =
      self.noteAll (List.zipWith (fun before after => (after.1,before.2 + after.2)) chain later) := by
  obtain ⟨zero,one,two,three,rfl,first,second,third,fourth⟩ := four_of_indices indexed
  obtain ⟨nought,single,double,triple,rfl,head,after,ahead,last⟩ := four_of_indices again
  simp only [zipWith_cons_cons,zipWith_nil_left] at fits ⊢
  have whole := noteAll_four self (show (nought.1,zero.2 + nought.2).1.index = 0 from head)
    (show (single.1,one.2 + single.2).1.index = 1 from after) (show (double.1,two.2 + double.2).1.index = 2 from ahead)
    (show (triple.1,three.2 + triple.2).1.index = 3 from last) fits
  simp only [mem_cons,not_mem_nil,or_false,forall_eq_or_imp,forall_eq] at fits
  rw [noteAll_four self first second third fourth (by simp; omega),noteAll_four next head after ahead last (by simp; omega),whole]
  simp only [controls,irqBit_add]
  ext index
  · simp only [TimerOverflows.join]
    ac_rfl
  · fin_cases index <;> rfl
  · rfl

variable {cycles : Nat} {self : Timers}

theorem cascade_le {stages : List TimerStage} (inRange : ∀ stage ∈ stages, stage.accum + cycles ≤ u32Max)
    {carry : Nat} (carried : carry ≤ u32Max) : ∀ fed ∈ cascade TimerStage.feed cycles carry stages, fed.2 ≤ u32Max := by
  induction stages generalizing carry with
  | nil => simp [cascade]
  | cons stage rest ih =>
    have fits := feed_le (inRange stage mem_cons_self) carried
    simp only [cascade,mem_cons,forall_eq_or_imp]
    exact ⟨fits,ih (fun other inside => inRange other (mem_cons_of_mem _ inside)) fits⟩

theorem Sound.inRange (sound : self.Sound) (bounded : cycles ≤ 2 ^ 32 - 1024) :
    ∀ stage ∈ self.stages, stage.accum + cycles ≤ u32Max := by
  have total (index : Fin 4) : self.cycleAccum index + cycles ≤ u32Max := by
    have accum := sound.accum index
    unfold u32Max
    omega
  simpa [stages,stage] using ⟨total 0,total 1,total 2,total 3⟩

theorem stepWithOverflows_eq (sound : self.Sound) (bounded : cycles ≤ 2 ^ 32 - 1024) :
    self.stepWithOverflows cycles =
      ({ self.putAll (cascade TimerStage.feed cycles 0 self.stages) with clockPhase := (self.clockPhase + cycles) % 0x0400 },
        self.noteAll (cascade TimerStage.feed cycles 0 self.stages)) := by
  have phase : (self.clockPhase + cycles % 0x10000) % 0x10000 &&& 0x03FF = (self.clockPhase + cycles) % 0x0400 := by
    rw [show 0x03FF = 2 ^ 10 - 1 from rfl,Nat.and_two_pow_sub_one_eq_mod]
    omega
  unfold stepWithOverflows
  dsimp only
  rw [phase]
  split
  · rename_i unclocked
    have idle (index : Fin 4) : ¬timerUsesCpuClock index (self.timers index).control := by
      rw [← sound.mask index,unclocked]
      simp
    have loop := loop_eq sound bounded
    simp only [foldl_cons,foldl_nil,clockTimer_idle (idle _)] at loop
    obtain ⟨same,silent⟩ := Prod.mk.inj loop
    rw [← same,← silent]
  · have begun : Sound { self with clockPhase := (self.clockPhase + cycles) % 0x0400 } :=
      ⟨sound.mask,sound.accum,sound.delay,Nat.le_of_lt_succ (Nat.mod_lt _ (by decide))⟩
    exact loop_eq begun bounded

@[simp] theorem putAll_phase (self : Timers) (phase : Nat) (chain : List (TimerStage × Nat)) :
    ({ self with clockPhase := phase }).putAll chain = { self.putAll chain with clockPhase := phase } := by
  induction chain generalizing self with
  | nil => rfl
  | cons fed rest ih => exact ih (self.put fed.1)

theorem putAll_congr (self : Timers) {chain later : List (TimerStage × Nat)} (same : chain.map Prod.fst = later.map Prod.fst) :
    self.putAll chain = self.putAll later := by
  have mapped (chain : List (TimerStage × Nat)) : self.putAll chain = (chain.map Prod.fst).foldl put self := by
    rw [putAll,foldl_map]
  rw [mapped,mapped,same]

theorem step_step (sound : self.Sound) {first second : Nat} (bounded : first + second ≤ 2 ^ 32 - 1024) :
    (((self.stepWithOverflows first).1.stepWithOverflows second).1,
      (self.stepWithOverflows first).2.join ((self.stepWithOverflows first).1.stepWithOverflows second).2) =
        self.stepWithOverflows (first + second) := by
  have before := stepWithOverflows_eq sound (show first ≤ 2 ^ 32 - 1024 by omega)
  have after := stepWithOverflows_eq (sound.step first) (show second ≤ 2 ^ 32 - 1024 by omega)
  have indexed := cascade_indices first 0 self.stages
  have stepped : (self.stepWithOverflows first).1.stages = (cascade TimerStage.feed first 0 self.stages).map Prod.fst := by
    rw [before,← stages_putAll self indexed]
    rfl
  have again := cascade_indices second 0 (self.stepWithOverflows first).1.stages
  have whole := cascade_add feed_metered first second 0 0 self.stages
  rw [← stepped] at whole
  have fits := cascade_le (sound.inRange bounded) (Nat.zero_le u32Max)
  rw [whole] at fits
  rw [after,stepWithOverflows_eq sound bounded,whole]
  generalize cascade TimerStage.feed second 0 (self.stepWithOverflows first).1.stages = later at again fits ⊢
  have joined := noteAll_join (step_control self first) indexed again fits
  have same : (List.zipWith (fun before after => (after.1,before.2 + after.2)) (cascade TimerStage.feed first 0 self.stages)
      later).map Prod.fst = later.map Prod.fst := by
    obtain ⟨_,_,_,_,one,_⟩ := four_of_indices indexed
    obtain ⟨_,_,_,_,two,_⟩ := four_of_indices again
    rw [one,two]
    rfl
  refine Prod.ext ?_ ?_
  · dsimp only
    rw [putAll_congr self same,before,putAll_phase,putAll_putAll self indexed again]
    simp [add_assoc]
  · dsimp only
    rw [← joined,before]

theorem step_zero (sound : self.Sound) : self.stepWithOverflows 0 = (self,.none) := by
  have kept (index : Fin 4) : (self.stage index).feed 0 0 = (self.stage index,0) := by
    unfold TimerStage.feed
    split
    · simp
    · split <;> simp [Timer.count_zero]
  have phase : (self.clockPhase + 0) % 0x0400 = self.clockPhase := by
    have low := sound.phase
    omega
  rw [stepWithOverflows_eq sound zero_le,phase]
  simp [stages,cascade,kept,putAll,noteAll]

/-- One call after the other, with the union of the flags and the sums of the counts. -/
def stepEach : List Nat → Timers → Timers × TimerOverflows
  | [],self => (self,.none)
  | cycles :: rest,self =>
    let stepped := self.stepWithOverflows cycles
    let later := stepEach rest stepped.1
    (later.1,stepped.2.join later.2)

theorem stepEach_eq (sound : self.Sound) (parts : List Nat) (bounded : parts.sum ≤ 2 ^ 32 - 1024) :
    stepEach parts self = self.stepWithOverflows parts.sum := by
  induction parts generalizing self with
  | nil => exact (step_zero sound).symm
  | cons cycles rest ih =>
    rw [sum_cons] at bounded ⊢
    rw [stepEach,ih (sound.step cycles) (by omega)]
    exact step_step sound bounded

theorem bulk_step_is_single_steps {self : Timers} (reachable : Reachable self) (cycles : Nat) (bounded : cycles ≤ 2 ^ 32 - 1024) :
    stepEach (List.replicate cycles 1) self = self.stepWithOverflows cycles ∧
      ∀ parts : List Nat, parts.sum = cycles → stepEach parts self = self.stepWithOverflows cycles := by
  constructor
  · rw [stepEach_eq reachable.sound _ (by simpa using bounded)]
    simp
  · intro parts whole
    rw [stepEach_eq reachable.sound parts (whole ▸ bounded),whole]

def cascaded : Timers :=
  setAll ![⟨0xFFFE,0xFFFF,0x00C0⟩,⟨0,0xFFFE,0x0084⟩,⟨0,0,0⟩,⟨0x1234,0,0x0082⟩]

theorem bulk_step_is_single_steps_cascaded :
    stepEach (List.replicate 5000 1) cascaded = cascaded.stepWithOverflows 5000 :=
  (bulk_step_is_single_steps (.setAll _) 5000 (by decide)).1

theorem overflowCounts_eq (sound : self.Sound) {index : Fin 4}
    (clocked : timerUsesCpuClock index (self.timers index).control) (bounded : cycles ≤ 2 ^ 32 - 1024) :
    (self.stepWithOverflows cycles).2.overflowCounts index = (TimerStage.feed cycles 0 (self.stage index)).2 := by
  have alone (carry : Nat) : TimerStage.feed cycles carry (self.stage index) = TimerStage.feed cycles 0 (self.stage index) := by
    simp [TimerStage.feed,stage,clocked]
  have fits := cascade_le (sound.inRange bounded) (Nat.zero_le u32Max)
  rw [stepWithOverflows_eq sound bounded]
  simp only [stages,cascade] at fits ⊢
  rw [noteAll_four self (by simp [stage]) (by simp [stage]) (by simp [stage]) (by simp [stage]) fits]
  fin_cases index
  · rfl
  · exact congrArg Prod.snd (alone _)
  · exact congrArg Prod.snd (alone _)
  · exact congrArg Prod.snd (alone _)

theorem overflows_iff {index : Fin 4} (clocked : timerUsesCpuClock index (self.timers index).control) (cycles : Nat) :
    0 < (TimerStage.feed cycles 0 (self.stage index)).2 ↔
      self.startDelayCycles index < cycles ∧
        (0x10000 - (self.timers index).counter.toNat) * timerPeriod (self.timers index).control ≤
          self.cycleAccum index + (cycles - self.startDelayCycles index) := by
  simp only [TimerStage.feed,stage,clocked,if_true]
  by_cases waits : cycles ≤ self.startDelayCycles index
  · simp only [waits,if_true]
    omega
  · simp only [waits,if_false]
    rw [Timer.count,countUp_overflows_pos,Nat.le_div_iff_mul_le (timerPeriod_pos _)]
    exact ⟨fun reached => ⟨by omega,reached⟩,And.right⟩

theorem cyclesUntilOverflow_eq (sound : self.Sound) {index : Fin 4}
    (clocked : timerUsesCpuClock index (self.timers index).control) :
    self.cyclesUntilOverflow index = some (self.startDelayCycles index +
      max ((0x10000 - (self.timers index).counter.toNat) * timerPeriod (self.timers index).control - self.cycleAccum index) 1) := by
  have masked := (sound.mask index).mpr clocked
  have span : (0x10000 - (self.timers index).counter.toNat) * timerPeriod (self.timers index).control ≤ 0x10000 * 0x0400 :=
    Nat.mul_le_mul (Nat.sub_le _ _) (timerPeriod_le _)
  have delay := sound.delay index
  unfold cyclesUntilOverflow
  simp only [index.isLt,dite_true,Fin.eta,if_neg masked,u32Max]
  rw [min_eq_left (by omega),min_eq_left (by omega)]

theorem cyclesUntilOverflow_none (sound : self.Sound) (index : Fin 4) :
    self.cyclesUntilOverflow index = none ↔ ¬timerUsesCpuClock index (self.timers index).control := by
  constructor
  · intro missing clocked
    rw [cyclesUntilOverflow_eq sound clocked] at missing
    cases missing
  · intro idle
    have masked := not_not.mp (mt (sound.mask index).mp idle)
    unfold cyclesUntilOverflow
    simp [masked]

theorem deadline_is_least_overflow {self : Timers} (reachable : Reachable self) (index : Fin 4) :
    (∀ deadline, self.cyclesUntilOverflow index = some deadline →
      IsLeast { cycles | 1 ≤ cycles ∧ cycles < 2 ^ 32 ∧ 0 < (self.stepWithOverflows cycles).2.overflowCounts index } deadline) ∧
    (self.cyclesUntilOverflow index = none ↔
      (self.timers index).control &&& 0x0080 = 0 ∨ index ≠ 0 ∧ (self.timers index).control &&& 0x0004 ≠ 0) := by
  have sound := reachable.sound
  constructor
  · intro deadline reported
    have clocked : timerUsesCpuClock index (self.timers index).control := by
      by_contra idle
      rw [(cyclesUntilOverflow_none sound index).mpr idle] at reported
      cases reported
    have span : (0x10000 - (self.timers index).counter.toNat) * timerPeriod (self.timers index).control ≤ 0x10000 * 0x0400 :=
      Nat.mul_le_mul (Nat.sub_le _ _) (timerPeriod_le _)
    have delay := sound.delay index
    rw [cyclesUntilOverflow_eq sound clocked,Option.some.injEq] at reported
    constructor
    · refine ⟨by omega,by omega,?_⟩
      rw [overflowCounts_eq sound clocked (by omega),overflows_iff clocked]
      omega
    · intro cycles ⟨positive,_,overflows⟩
      by_cases bounded : cycles ≤ 2 ^ 32 - 1024
      · rw [overflowCounts_eq sound clocked bounded,overflows_iff clocked] at overflows
        omega
      · omega
  · rw [cyclesUntilOverflow_none sound index]
    unfold timerUsesCpuClock
    simp only [Bool.and_eq_true,bne_iff_ne,Bool.or_eq_true,beq_iff_eq,not_and_or,not_not,not_or,ne_eq]

theorem deadline_is_least_overflow_cascaded :
    IsLeast { cycles | 1 ≤ cycles ∧ cycles < 2 ^ 32 ∧ 0 < (cascaded.stepWithOverflows cycles).2.overflowCounts 0 } 1 :=
  (deadline_is_least_overflow (.setAll _) 0).1 1 (by decide)

theorem stepWithOverflows_idle (idle : ∀ index, ¬timerUsesCpuClock index (self.timers index).control)
    (cycles : Nat) : self.stepWithOverflows cycles =
      ({ self with clockPhase := (self.clockPhase + cycles % 0x10000) % 0x10000 &&& 0x03FF },.none) := by
  have still (index : Fin 4) := @clockTimer_idle
    { self with clockPhase := (self.clockPhase + cycles % 0x10000) % 0x10000 &&& 0x03FF } index (idle index) cycles .none
  unfold stepWithOverflows
  dsimp only
  split
  · rfl
  · simp only [foldl_cons,foldl_nil,still]

/-- Before the first deadline a step raises nothing, and a timer that counts the overflows of another one stands still. -/
theorem silent_before_deadlines {self : Timers} (reachable : Reachable self) {cycles : Nat}
    (early : ∀ index : Fin 4, ∀ deadline ∈ self.cyclesUntilOverflow index, cycles < deadline) :
    (self.stepWithOverflows cycles).2 = .none ∧ ∀ index, ¬timerUsesCpuClock index (self.timers index).control →
      (self.stepWithOverflows cycles).1.timers index = self.timers index := by
  have sound := reachable.sound
  have still (index : Fin 4) (idle : ¬timerUsesCpuClock index (self.timers index).control) :
      TimerStage.feed cycles 0 (self.stage index) = (self.stage index,0) := by
    unfold TimerStage.feed stage
    rw [if_neg idle]
    dsimp only
    rw [Timer.count_zero]
    exact ite_self _
  have quiet (index : Fin 4) : (TimerStage.feed cycles 0 (self.stage index)).2 = 0 := by
    by_cases clocked : timerUsesCpuClock index (self.timers index).control
    · have before := early index _ (cyclesUntilOverflow_eq sound clocked)
      have few := (overflows_iff clocked cycles).mp.mt (by omega)
      exact Nat.eq_zero_of_not_pos few
    · rw [still index clocked]
  by_cases idle : ∀ index, ¬timerUsesCpuClock index (self.timers index).control
  · rw [stepWithOverflows_idle idle]
    exact ⟨rfl,fun _ _ => rfl⟩
  -- The deadline of a clocked timer bounds the step.
  have bounded : cycles ≤ 2 ^ 32 - 1024 := by
    obtain ⟨index,clocked⟩ := not_forall_not.mp idle
    have before := early index _ (cyclesUntilOverflow_eq sound clocked)
    have span : (0x10000 - (self.timers index).counter.toNat) * timerPeriod (self.timers index).control ≤ 0x10000 * 0x0400 :=
      Nat.mul_le_mul (Nat.sub_le _ _) (timerPeriod_le _)
    have delay := sound.delay index
    omega
  have put := stages_putAll self (cascade_indices cycles 0 self.stages)
  rw [stepWithOverflows_eq sound bounded]
  simp only [stages,cascade,quiet,map_cons,map_nil,List.cons.injEq] at put ⊢
  obtain ⟨zero,one,two,three,_⟩ := put
  constructor
  · have unraised (index : Fin 4) (control : UInt16) : irqBit index control 0 = 0 := by simp [irqBit]
    rw [noteAll_four self (by simp [stage]) (by simp [stage]) (by simp [stage]) (by simp [stage]) (by simp [quiet])]
    simp only [quiet,unraised]
    ext index
    · rfl
    · fin_cases index <;> rfl
    · rfl
  · intro index idle
    have same := congrArg Prod.fst (still index idle)
    fin_cases index
    · exact congrArg TimerStage.timer (zero.trans same)
    · exact congrArg TimerStage.timer (one.trans same)
    · exact congrArg TimerStage.timer (two.trans same)
    · exact congrArg TimerStage.timer (three.trans same)

theorem silent_before_deadlines_waiting :
    ((setAll ![⟨0,0xFFF0,0x00C0⟩,⟨0,0xFFFF,0x0084⟩,⟨0,0,0⟩,⟨0,0,0x0082⟩]).stepWithOverflows 15).2 = .none :=
  (silent_before_deadlines (.setAll _) (by decide)).1

end Timers

end ZeffBoy.Gba
