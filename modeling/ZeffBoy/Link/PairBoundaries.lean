import ZeffBoy.Link.PairScheduler

/-! What a run of the paired scheduler hands over, and when.
A byte is stamped inside the turn that completes it, after the clock of its sender at the boundary before. So it cannot have been
due there, and the bytes leave the cable in its order. -/
namespace ZeffBoy.Link.WonderSwan.Local
open Library List Function

/-- What a stretch of time did to a machine: the clock moved forward, and what the UART completed is stamped with the cycles
in between. -/
structure Elapsed {M Digest Sample : Type} (m : Machines M Digest Sample) (before after : M) : Prop where
  forward : m.busCycles before ≤ m.busCycles after
  queued : ∃ completed, m.completedTx after = m.completedTx before ++ completed ∧
    ∀ event ∈ completed, m.busCycles before < event.completedCycle ∧ event.completedCycle ≤ m.busCycles after

theorem Elapsed.refl {M Digest Sample : Type} {m : Machines M Digest Sample} (machine : M) : Elapsed m machine machine :=
  ⟨le_rfl,[],by rw [append_nil],by simp⟩

/-- A machine that differs from another in its clock and its queue at most as its input does. -/
structure Still {M Digest Sample : Type} (m : Machines M Digest Sample) (before after : M) : Prop where
  clock : m.busCycles after = m.busCycles before
  queue : m.completedTx after = m.completedTx before

def Machines.setup {M Digest Sample : Type} (m : Machines M Digest Sample) (machine : M) : Nat × Nat × Digest × Bool × Bool :=
  (m.linkIdentity machine,m.sharedRom machine,m.romHash machine,m.untraced machine,m.fullAudio machine)

/-- What the scheduler relies on. Instructions may do anything that takes time; halted time is additive up to the next event
of the bus, and every machine can be encoded. -/
structure Machines.Lawful {M Digest Sample : Type} (m : Machines M Digest Sample) : Prop where
  step : ∀ machine, Elapsed m machine (m.stepInstruction machine)
  advance : ∀ machine cycles, m.canHalt machine = true → 0 < cycles → cycles ≤ m.nextEvent machine →
    Elapsed m machine (m.advanceHalted machine cycles)
  clock : ∀ machine cycles, m.canHalt machine = true → 0 < cycles → cycles ≤ m.nextEvent machine →
    m.busCycles (m.advanceHalted machine cycles) = m.busCycles machine + cycles
  within : ∀ machine cycles, m.canHalt machine = true → 0 < cycles → cycles < m.nextEvent machine →
    m.canHalt (m.advanceHalted machine cycles) = true ∧
      m.nextEvent (m.advanceHalted machine cycles) = m.nextEvent machine - cycles ∧
      m.completedTx (m.advanceHalted machine cycles) = m.completedTx machine
  additive : ∀ machine first second, m.canHalt machine = true → 0 < first → 0 < second →
    first + second ≤ m.nextEvent machine →
      m.advanceHalted (m.advanceHalted machine first) second = m.advanceHalted machine (first + second)
  takeTx_queue : ∀ machine, m.completedTx (m.takeTx machine) = (m.completedTx machine).tail
  takeTx_clock : ∀ machine, m.busCycles (m.takeTx machine) = m.busCycles machine
  receive : ∀ machine byte, Still m machine (m.receive machine byte)
  endFrameService : ∀ machine, m.endFrameService machine = machine
  setInput : ∀ machine buttons keys, Still m machine (m.setInput machine buttons keys)
  clearFrameReady : ∀ machine, Still m machine (m.clearFrameReady machine)
  countFrame : ∀ machine, Still m machine (m.countFrame machine)
  drainAudio : ∀ machine, Still m machine (m.drainAudio machine)
  hashed : ∀ machine, ∃ digest, m.machineHash machine = .ok digest
  step_setup : ∀ machine, m.setup (m.stepInstruction machine) = m.setup machine
  advance_setup : ∀ machine cycles, m.setup (m.advanceHalted machine cycles) = m.setup machine
  takeTx_setup : ∀ machine, m.setup (m.takeTx machine) = m.setup machine
  receive_setup : ∀ machine byte, m.setup (m.receive machine byte) = m.setup machine
  setInput_setup : ∀ machine buttons keys, m.setup (m.setInput machine buttons keys) = m.setup machine
  clearFrameReady_setup : ∀ machine, m.setup (m.clearFrameReady machine) = m.setup machine
  countFrame_setup : ∀ machine, m.setup (m.countFrame machine) = m.setup machine
  drainAudio_setup : ∀ machine, m.setup (m.drainAudio machine) = m.setup machine

namespace Cable
variable {M Digest Sample : Type} {m : Machines M Digest Sample}

def now (m : Machines M Digest Sample) (cable : Cable M) (side : Endpoint) : Nat :=
  m.busCycles (cable.machines side) - cable.schedule.epochs side

/-- The clocks are past their epochs, what is on the cable is in order, and none of it is ahead of its sender. -/
structure Sound (m : Machines M Digest Sample) (cable : Cable M) : Prop where
  epochs : ∀ side, cable.schedule.epochs side ≤ m.busCycles (cable.machines side)
  ordered : cable.schedule.events.Pairwise fun first second => first.before second = true
  stamped : ∀ event ∈ cable.schedule.events, event.tick ≤ cable.now m event.sender

def Taken (m : Machines M Digest Sample) (cable : Cable M) : Prop := ∀ side, m.completedTx (cable.machines side) = []

theorem before_iff (first second : CableEvent) : first.before second = true ↔ first.tick < second.tick ∨
    (first.tick = second.tick ∧ (first.sender.index < second.sender.index ∨
      (first.sender.index = second.sender.index ∧ first.generation.toNat ≤ second.generation.toNat))) := by
  simp [CableEvent.before,UInt64.le_iff_toNat_le]

theorem before_total (first second : CableEvent) : (first.before second || second.before first) = true := by
  rw [Bool.or_eq_true,before_iff,before_iff]
  omega

theorem before_trans (first second third : CableEvent) (left : first.before second = true) (right : second.before third = true) :
    first.before third = true := by
  rw [before_iff] at *
  omega

theorem ticks_ok {cable : Cable M} (epochs : ∀ side, cable.schedule.epochs side ≤ m.busCycles (cable.machines side)) :
    cable.ticks m = .ok (cable.now m) := by
  rw [ticks,checkedSub_pos (epochs .zero),ok_bind,checkedSub_pos (epochs .one),ok_bind]
  congr 1
  funext side
  cases side <;> rfl

theorem deliverDue_eq (watermark : Nat) (events : List CableEvent) (machines : Endpoint → M) :
    deliverDue m watermark events machines =
      (events.takeWhile (·.tick ≤ watermark),events.dropWhile (·.tick ≤ watermark),
        (events.takeWhile (·.tick ≤ watermark)).foldl (handOver m) machines) := by
  induction events generalizing machines with
  | nil => rfl
  | cons event events ih =>
    rw [deliverDue]
    by_cases due : event.tick ≤ watermark
    · rw [if_pos due,ih,takeWhile_cons_of_pos (by simpa using due),dropWhile_cons_of_pos (by simpa using due)]
      rfl
    · rw [if_neg due,takeWhile_cons_of_neg (by simpa using due),dropWhile_cons_of_neg (by simpa using due)]
      rfl

/-- A byte that a UART has completed, as it goes on the cable. -/
def sent (epochs : Endpoint → Nat) (sender : Endpoint) (event : TxEvent) : CableEvent :=
  ⟨event.completedCycle - epochs sender,sender,event.generation,event.byte,event.baudBps⟩

/-- What taking the bytes of one machine does. -/
structure Drained (m : Machines M Digest Sample) (sender : Endpoint) (queue : List TxEvent) (cable : Cable M)
    (taken : List CableEvent) (next : Cable M) : Prop where
  schedule : next.schedule = {cable.schedule with events := cable.schedule.events ++ taken}
  others : next.machines sender.other = cable.machines sender.other
  machine : next.machines sender = m.takeTx^[queue.length] (cable.machines sender)
  whole : taken = queue.map (sent cable.schedule.epochs sender)
  clock : m.busCycles (next.machines sender) = m.busCycles (cable.machines sender)
  empty : m.completedTx (next.machines sender) = []
  stamps : ∀ event ∈ taken, event.sender = sender ∧
    ∃ completed ∈ queue, completed.completedCycle = event.tick + cable.schedule.epochs sender

theorem other_ne (side : Endpoint) : side.other ≠ side := by cases side <;> simp [Endpoint.other]

variable {cable next : Cable M} {taken : List CableEvent}

theorem collectFrom_ok (lawful : m.Lawful) {sender : Endpoint} {queue : List TxEvent}
    (here : m.completedTx (cable.machines sender) = queue)
    (ran : collectFrom m sender queue cable = (.ok taken,next)) : Drained m sender queue cable taken next := by
  induction queue generalizing cable taken with
  | nil =>
    cases ran
    exact ⟨by rw [append_nil],rfl,rfl,rfl,rfl,here,by simp⟩
  | cons event queue ih =>
    unfold collectFrom at ran
    dsimp only at ran
    split at ran
    · cases ran
    split at ran
    · cases ran
    rename_i early
    let first := sent cable.schedule.epochs sender event
    let pushed := (cable.setMachine sender (m.takeTx (cable.machines sender))).setEvents (cable.schedule.events ++ [first])
    have popped : m.completedTx (pushed.machines sender) = queue := by
      change m.completedTx (update cable.machines sender _ sender) = queue
      rw [update_self,lawful.takeTx_queue,here,tail_cons]
    rcases rest : collectFrom m sender queue pushed with ⟨later,last⟩
    replace ran : (later.map (first::·),last) = (.ok taken,next) := by
      rw [← ran]
      change _ = (Except.map _ (collectFrom m sender queue pushed).1,(collectFrom m sender queue pushed).2)
      rw [rest]
      rfl
    cases later with
    | error => cases ran
    | ok later =>
      cases ran
      obtain ⟨schedule,others,machine,whole,clock,empty,stamps⟩ := ih popped rest
      refine ⟨?_,?_,?_,?_,?_,empty,?_⟩
      · rw [schedule]
        simp only [pushed,setEvents,setMachine,append_assoc,singleton_append]
      · rw [others]
        exact update_of_ne (other_ne sender) _ _
      · rw [machine,length_cons,iterate_succ_apply]
        exact congrArg _ (update_self _ _ _)
      · rw [whole]
        rfl
      · rw [clock]
        change m.busCycles (update cable.machines sender _ sender) = _
        rw [update_self,lawful.takeTx_clock]
      · intro inner inside
        rcases mem_cons.mp inside with rfl | inside
        · exact ⟨rfl,event,mem_cons_self,(Nat.sub_add_cancel (Nat.le_of_not_lt early)).symm⟩
        · obtain ⟨mine,completed,member,same⟩ := stamps inner inside
          exact ⟨mine,completed,mem_cons_of_mem _ member,same⟩

/-- What the UARTs of both machines hold is taken. -/
structure Taking (m : Machines M Digest Sample) (epochs : Endpoint → Nat) (machines : Endpoint → M) (taken : List CableEvent)
    (next : Endpoint → M) : Prop where
  emptied : ∀ side, next side = m.takeTx^[(m.completedTx (machines side)).length] (machines side)
  whole : taken = (m.completedTx (machines .zero)).map (sent epochs .zero) ++ (m.completedTx (machines .one)).map (sent epochs .one)

/-- What the collection does: the clocks stand still, and the completed bytes are sorted into the cable. -/
structure Collected (m : Machines M Digest Sample) (cable : Cable M) (taken : List CableEvent) (next : Cable M) : Prop where
  epochs : next.schedule.epochs = cable.schedule.epochs
  frame : next.schedule.frame = cable.schedule.frame
  events : next.schedule.events = (cable.schedule.events ++ taken).mergeSort CableEvent.before
  clocks : ∀ side, m.busCycles (next.machines side) = m.busCycles (cable.machines side)
  empty : Taken m next
  taking : Taking m cable.schedule.epochs cable.machines taken next.machines
  stamps : ∀ event ∈ taken, ∃ completed ∈ m.completedTx (cable.machines event.sender),
    completed.completedCycle = event.tick + cable.schedule.epochs event.sender

theorem collect_ok (lawful : m.Lawful)
    (ran : cable.collect m = (.ok taken,next)) : Collected m cable taken next := by
  unfold collect at ran
  rcases first : collectFrom m .zero (m.completedTx (cable.machines .zero)) cable with ⟨_ | early,between⟩
  · rw [first] at ran
    cases ran
  rcases second : collectFrom m .one (m.completedTx (between.machines .one)) between with ⟨_ | late,last⟩
  · rw [first] at ran
    simp only [second] at ran
    cases ran
  rw [first] at ran
  simp only [second] at ran
  cases ran
  have zero := collectFrom_ok lawful rfl first
  have one := collectFrom_ok lawful rfl second
  have kept : between.machines .one = cable.machines .one := zero.others
  have held : last.machines .zero = between.machines .zero := one.others
  refine ⟨by rw [setEvents,one.schedule,zero.schedule],by rw [setEvents,one.schedule,zero.schedule],?_,?_,?_,⟨?_,?_⟩,?_⟩
  · rw [setEvents,one.schedule,zero.schedule,append_assoc]
  · rintro (_ | _)
    · exact (congrArg m.busCycles held).trans zero.clock
    · exact one.clock.trans (congrArg m.busCycles kept)
  · rintro (_ | _)
    · exact (congrArg m.completedTx held).trans zero.empty
    · exact one.empty
  · rintro (_ | _)
    · exact held.trans zero.machine
    · rw [← kept]
      exact one.machine
  · have second' := one.whole
    rw [zero.schedule,kept] at second'
    exact congrArg₂ (· ++ ·) zero.whole second'
  · intro event inside
    rcases mem_append.mp inside with inside | inside
    · obtain ⟨mine,stamped⟩ := zero.stamps event inside
      rw [mine]
      exact stamped
    · obtain ⟨mine,stamped⟩ := one.stamps event inside
      rw [mine,← kept]
      rw [zero.schedule] at stamped
      exact stamped

theorem collect_taken {cable : Cable M} (taken : Taken m cable)
    (ordered : cable.schedule.events.Pairwise fun first second => first.before second = true) :
    cable.collect m = (.ok [],cable) := by
  rw [collect,taken .zero]
  simp only [collectFrom,taken .one,append_nil]
  rw [mergeSort_of_pairwise ordered]
  rfl

def jointRoom (m : Machines M Digest Sample) (cable : Cable M) (ticks : Endpoint → Nat) : Nat :=
  match cable.schedule.events.head? with
  | some event => min (min (m.nextEvent (cable.machines .zero)) (m.nextEvent (cable.machines .one))) (event.tick - ticks .zero)
  | none => min (m.nextEvent (cable.machines .zero)) (m.nextEvent (cable.machines .one))

def loneRoom (m : Machines M Digest Sample) (cable : Cable M) (ticks : Endpoint → Nat) (side : Endpoint) : Nat :=
  match cable.schedule.events.find? fun event => event.sender ≠ side with
  | some event => min (min (m.nextEvent (cable.machines side)) (max (ticks side.other - ticks side) 1))
    (max (event.tick - ticks side) 1)
  | none => min (m.nextEvent (cable.machines side)) (max (ticks side.other - ticks side) 1)

theorem jointAdvance_eq (cable : Cable M) (limits ticks : Endpoint → Nat) : cable.jointAdvance m limits ticks =
    min (cable.jointRoom m ticks) (min (limits .zero - ticks .zero) (limits .one - ticks .one)) := by
  unfold jointAdvance jointRoom
  cases cable.schedule.events.head? with
  | none => exact min_assoc _ _ _
  | some event =>
    dsimp only
    rw [min_assoc (min (m.nextEvent (cable.machines .zero)) (m.nextEvent (cable.machines .one)))]
    exact Nat.min_right_comm _ _ _

theorem loneAdvance_eq (cable : Cable M) (limits ticks : Endpoint → Nat) (side : Endpoint) :
    cable.loneAdvance m limits ticks side = min (cable.loneRoom m ticks side) (limits side - ticks side) := by
  unfold loneAdvance loneRoom
  cases cable.schedule.events.find? fun event => event.sender ≠ side with
  | none => exact Nat.min_right_comm _ _ _
  | some event =>
    dsimp only
    rw [Nat.min_right_comm (m.nextEvent (cable.machines side))]
    exact Nat.min_right_comm _ _ _

theorem jointRoom_le (cable : Cable M) (ticks : Endpoint → Nat) (side : Endpoint) :
    cable.jointRoom m ticks ≤ m.nextEvent (cable.machines side) := by
  unfold jointRoom
  cases side <;> split <;> omega

theorem loneRoom_le (cable : Cable M) (ticks : Endpoint → Nat) (side : Endpoint) :
    cable.loneRoom m ticks side ≤ m.nextEvent (cable.machines side) := by
  unfold loneRoom
  split <;> omega

/-- What the scheduler has a machine do between two boundaries. -/
inductive Acts (m : Machines M Digest Sample) (machine : M) : M → Prop
  | rests : Acts m machine machine
  | steps : Acts m machine (m.stepInstruction machine)
  | waits (cycles : Nat) (halted : m.canHalt machine = true) (positive : 0 < cycles) (near : cycles ≤ m.nextEvent machine) :
    Acts m machine (m.advanceHalted machine cycles)

theorem Acts.elapsed (lawful : m.Lawful) {before after : M} (acts : Acts m before after) : Elapsed m before after := by
  cases acts with
  | rests => exact .refl before
  | steps => exact lawful.step before
  | waits cycles halted positive near => exact lawful.advance before cycles halted positive near

/-- The machines act between two boundaries, and all they have completed by then is taken. -/
def Works (m : Machines M Digest Sample) (epochs : Endpoint → Nat) (before : Endpoint → M) (taken : List CableEvent)
    (found : Endpoint → M) : Prop :=
  ∃ after, (∀ side, Acts m (before side) (after side)) ∧ Taking m epochs after taken found

theorem act_ok {limits ticks : Endpoint → Nat}
    (ran : cable.act m limits ticks = .ok next) :
    next.schedule = cable.schedule ∧ ∀ side, Acts m (cable.machines side) (next.machines side) := by
  unfold act at ran
  dsimp only at ran
  split at ran
  · rename_i halted
    obtain ⟨progress,done⟩ := check_bind_ok.mp ran
    cases done
    rw [ensure_ok] at progress
    have near (side : Endpoint) : cable.jointAdvance m limits ticks ≤ m.nextEvent (cable.machines side) := by
      rw [jointAdvance_eq]
      exact (min_le_left _ _).trans (cable.jointRoom_le ticks side)
    refine ⟨rfl,?_⟩
    rintro (_ | _)
    · exact .waits _ halted.2.2.2.1 (by omega) (near _)
    · exact .waits _ halted.2.2.2.2 (by omega) (near _)
  split at ran
  · rename_i halts
    obtain ⟨progress,done⟩ := check_bind_ok.mp ran
    cases done
    rw [ensure_ok] at progress
    have near : cable.loneAdvance m limits ticks (behind limits ticks) ≤ m.nextEvent (cable.machines (behind limits ticks)) := by
      rw [loneAdvance_eq]
      exact (min_le_left _ _).trans (cable.loneRoom_le ticks _)
    refine ⟨rfl,?_⟩
    intro side
    simp only [setMachine,update_apply]
    split
    · rename_i same
      rw [same]
      exact .waits _ halts (by omega) near
    · exact .rests
  · cases ran
    refine ⟨rfl,?_⟩
    intro side
    simp only [setMachine,update_apply]
    split
    · rename_i same
      rw [same]
      exact .steps
    · exact .rests

def mark (m : Machines M Digest Sample) (cable : Cable M) : Nat := min (cable.now m .zero) (cable.now m .one)

theorem mark_le (cable : Cable M) (side : Endpoint) : cable.mark m ≤ cable.now m side := by
  unfold mark
  cases side <;> omega

theorem now_congr (epochs : next.schedule.epochs = cable.schedule.epochs)
    (clocks : ∀ side, m.busCycles (next.machines side) = m.busCycles (cable.machines side)) : next.now m = cable.now m := by
  funext side
  rw [now,now,epochs,clocks]

theorem mark_congr (epochs : next.schedule.epochs = cable.schedule.epochs)
    (clocks : ∀ side, m.busCycles (next.machines side) = m.busCycles (cable.machines side)) : next.mark m = cable.mark m := by
  rw [mark,mark,now_congr epochs clocks]

theorem handOver_still (lawful : m.Lawful) (machines : Endpoint → M) (event : CableEvent) (side : Endpoint) :
    Still m (machines side) (handOver m machines event side) := by
  unfold handOver
  rw [update_apply]
  split
  · rename_i same
    rw [same]
    exact lawful.receive _ _
  · exact ⟨rfl,rfl⟩

theorem foldl_handOver_still (lawful : m.Lawful) (machines : Endpoint → M) (events : List CableEvent) (side : Endpoint) :
    Still m (machines side) (events.foldl (handOver m) machines side) := by
  induction events generalizing machines with
  | nil => exact ⟨rfl,rfl⟩
  | cons event events ih =>
    have first := handOver_still lawful machines event side
    have rest := ih (handOver m machines event)
    exact ⟨rest.clock.trans first.clock,rest.queue.trans first.queue⟩

/-- What a boundary does: the bytes in front of the cable that both clocks have reached are handed over, and no other. -/
structure Delivered (m : Machines M Digest Sample) (cable : Cable M) (handed : List CableEvent) (next : Cable M) : Prop where
  epochs : next.schedule.epochs = cable.schedule.epochs
  frame : next.schedule.frame = cable.schedule.frame
  events : handed ++ next.schedule.events = cable.schedule.events
  machines : next.machines = handed.foldl (handOver m) cable.machines
  still : ∀ side, Still m (cable.machines side) (next.machines side)
  due : ∀ event ∈ handed, event.tick ≤ cable.mark m
  waits : ∀ event ∈ next.schedule.events, cable.mark m < event.tick

theorem lt_of_mem_dropWhile {events : List CableEvent} {watermark : Nat} {event : CableEvent}
    (ordered : events.Pairwise fun first second => first.before second = true)
    (inside : event ∈ events.dropWhile (·.tick ≤ watermark)) : watermark < event.tick := by
  induction events with
  | nil => cases inside
  | cons first later ih =>
    rw [pairwise_cons] at ordered
    by_cases due : first.tick ≤ watermark
    · rw [dropWhile_cons_of_pos (by simpa using due)] at inside
      exact ih ordered.2 inside
    · rw [dropWhile_cons_of_neg (by simpa using due)] at inside
      rcases mem_cons.mp inside with rfl | inside
      · exact Nat.lt_of_not_le due
      · have behind := (before_iff _ _).mp (ordered.1 event inside)
        omega

theorem deliver_ok (lawful : m.Lawful) {cable : Cable M} (sound : Sound m cable) :
    ∃ handed next, cable.deliver m = .ok (cable.now m,handed,next) ∧ Delivered m cable handed next := by
  rw [deliver,ticks_ok sound.epochs,ok_bind,deliverDue_eq]
  refine ⟨_,_,rfl,rfl,rfl,takeWhile_append_dropWhile,rfl,foldl_handOver_still lawful _ _,?_,?_⟩
  · intro event inside
    have due := mem_takeWhile_imp inside
    exact of_decide_eq_true due
  · intro event inside
    exact lt_of_mem_dropWhile sound.ordered inside

theorem Delivered.sound {handed : List CableEvent} (delivered : Delivered m cable handed next)
    (sound : Sound m cable) : Sound m next := by
  have clocks (side : Endpoint) := (delivered.still side).clock
  refine ⟨?_,?_,?_⟩
  · intro side
    rw [delivered.epochs,clocks]
    exact sound.epochs side
  · have ordered := sound.ordered
    rw [← delivered.events] at ordered
    exact (pairwise_append.mp ordered).2.1
  · intro event inside
    rw [now_congr delivered.epochs clocks]
    exact sound.stamped event (delivered.events ▸ mem_append_right _ inside)

/-- What a turn does to a cable on which nothing is due. -/
structure Turned (m : Machines M Digest Sample) (cable : Cable M) (taken : List CableEvent) (next : Cable M) : Prop where
  epochs : next.schedule.epochs = cable.schedule.epochs
  frame : next.schedule.frame = cable.schedule.frame
  events : next.schedule.events.Perm (cable.schedule.events ++ taken)
  forward : ∀ side, cable.now m side ≤ next.now m side
  fresh : ∀ event ∈ taken, cable.mark m < event.tick
  works : Works m cable.schedule.epochs cable.machines taken next.machines
  empty : Taken m next
  sound : Sound m next

theorem turn_ok (lawful : m.Lawful) {limits ticks : Endpoint → Nat}
    (sound : Sound m cable) (empty : Taken m cable) (ran : cable.turn m limits ticks = (.ok taken,next)) :
    Turned m cable taken next := by
  unfold turn at ran
  dsimp only at ran
  rcases acted : cable.act m limits ticks with error | moved
  · rw [acted] at ran
    cases ran
  rw [acted] at ran
  dsimp only at ran
  split at ran
  · cases ran
  split at ran
  · cases ran
  obtain ⟨schedule,acts⟩ := act_ok acted
  have elapsed (side : Endpoint) := (acts side).elapsed lawful
  have collected := collect_ok lawful ran
  have epochs : next.schedule.epochs = cable.schedule.epochs := by rw [collected.epochs,schedule]
  have forward (side : Endpoint) : m.busCycles (cable.machines side) ≤ m.busCycles (next.machines side) := by
    rw [collected.clocks]
    exact (elapsed side).forward
  have events : next.schedule.events.Perm (cable.schedule.events ++ taken) := by
    rw [collected.events,schedule]
    exact mergeSort_perm _ _
  have stamps : ∀ event ∈ taken, cable.now m event.sender < event.tick ∧ event.tick ≤ next.now m event.sender := by
    intro event inside
    obtain ⟨completed,member,same⟩ := collected.stamps event inside
    obtain ⟨queue,appended,between⟩ := (elapsed event.sender).queued
    rw [appended,empty,nil_append] at member
    obtain ⟨after,until'⟩ := between completed member
    have start := sound.epochs event.sender
    rw [schedule] at same
    rw [← collected.clocks] at until'
    rw [now,now,epochs]
    omega
  refine ⟨epochs,by rw [collected.frame,schedule],events,?_,?_,⟨moved.machines,acts,?_⟩,collected.empty,?_⟩
  · intro side
    rw [now,now,epochs]
    exact Nat.sub_le_sub_right (forward side) _
  · intro event inside
    exact (mark_le cable _).trans_lt (stamps event inside).1
  · have taking := collected.taking
    rwa [schedule] at taking
  · refine ⟨?_,?_,?_⟩
    · intro side
      rw [epochs]
      exact (sound.epochs side).trans (forward side)
    · rw [collected.events]
      exact pairwise_mergeSort before_trans before_total _
    · intro event inside
      rcases mem_append.mp (events.mem_iff.mp inside) with old | new
      · have stamped := sound.stamped event old
        have later := forward event.sender
        rw [now] at stamped ⊢
        rw [epochs]
        omega
      · exact (stamps event new).2

end Cable

def Boundary.mark {M : Type} (boundary : Boundary M) : Nat := min (boundary.ticks .zero) (boundary.ticks .one)

/-- The machines from one boundary to the next: they act, what they have completed is taken, and they are left with the bytes that
are handed over. -/
def Follows {M Digest Sample : Type} (m : Machines M Digest Sample) (epochs : Endpoint → Nat) :
    (Endpoint → M) → List (Boundary M) → (Endpoint → M) → Prop
  | before,[],after => after = before
  | before,boundary::log,after => Cable.Works m epochs before boundary.collected boundary.found ∧
    boundary.left = boundary.handed.foldl (Cable.handOver m) boundary.found ∧ Follows m epochs boundary.left log after

/-- The boundaries of a run of the cable. Every byte that a UART completes is handed over once and to the other machine, in the
order of the cable, at the first boundary at which both clocks have reached it. -/
structure Journal {M Digest Sample : Type} (m : Machines M Digest Sample) (start : Cable M) (log : List (Boundary M))
    (finish : Cable M) : Prop where
  epochs : finish.schedule.epochs = start.schedule.epochs
  follows : Follows m start.schedule.epochs start.machines log finish.machines
  once : (log.flatMap Boundary.handed ++ finish.schedule.events).Perm (start.schedule.events ++ log.flatMap Boundary.collected)
  ordered : (log.flatMap Boundary.handed ++ finish.schedule.events).Pairwise fun first second => first.before second = true
  clocks : ∀ boundary ∈ log, ∀ side, boundary.ticks side = m.busCycles (boundary.found side) - start.schedule.epochs side
  reached : ∀ boundary ∈ log, ∀ event ∈ boundary.handed, ∀ side, event.tick ≤ boundary.ticks side
  first : log.Pairwise fun earlier later => ∀ event ∈ later.handed, ∃ side, earlier.ticks side < event.tick
  waiting : ∀ boundary ∈ log, ∀ event ∈ finish.schedule.events, boundary.mark < event.tick
  past : ∀ boundary ∈ log, boundary.mark ≤ finish.mark m
  late : ∀ tick ≤ start.mark m, (∀ event ∈ start.schedule.events, tick < event.tick) →
    ∀ event ∈ log.flatMap Boundary.handed ++ finish.schedule.events, tick < event.tick

namespace Journal
variable {M Digest Sample : Type} {m : Machines M Digest Sample}

theorem ahead {boundary : Boundary M} {event : CableEvent} (before : boundary.mark < event.tick) :
    ∃ side, boundary.ticks side < event.tick := by
  unfold Boundary.mark at before
  rcases lt_or_ge (boundary.ticks .zero) event.tick with first | first
  · exact ⟨.zero,first⟩
  · exact ⟨.one,by omega⟩

theorem nil {cable : Cable M} (ordered : cable.schedule.events.Pairwise fun first second => first.before second = true) :
    Journal m cable [] cable := by
  refine ⟨rfl,rfl,by simp,ordered,?_,?_,.nil,?_,?_,fun _ _ after => after⟩
  all_goals
    intro boundary inside
    cases inside

theorem follows_append {epochs : Endpoint → Nat} {before between after : Endpoint → M} {log later : List (Boundary M)}
    (one : Follows m epochs before log between) (two : Follows m epochs between later after) :
    Follows m epochs before (log ++ later) after := by
  induction log generalizing before with
  | nil =>
    cases one
    exact two
  | cons boundary log ih =>
    obtain ⟨works,left,rest⟩ := one
    exact ⟨works,left,ih rest⟩

theorem append {start middle finish : Cable M} {log later : List (Boundary M)} (one : Journal m start log middle)
    (two : Journal m middle later finish) (begun : start.mark m ≤ middle.mark m) (onward : middle.mark m ≤ finish.mark m) :
    Journal m start (log ++ later) finish := by
  have beyond (boundary) (inside : boundary ∈ log) (event)
      (behind : event ∈ later.flatMap Boundary.handed ++ finish.schedule.events) : boundary.mark < event.tick :=
    two.late _ (one.past boundary inside) (one.waiting boundary inside) event behind
  refine ⟨two.epochs.trans one.epochs,follows_append one.follows (one.epochs ▸ two.follows),?_,?_,?_,?_,?_,?_,?_,?_⟩
  · rw [flatMap_append,flatMap_append,append_assoc,← append_assoc start.schedule.events]
    exact ((two.once.append_left _).trans (by rw [append_assoc])).trans (one.once.append_right _)
  · rw [flatMap_append,append_assoc,pairwise_append]
    refine ⟨(pairwise_append.mp one.ordered).1,two.ordered,?_⟩
    intro event handed behind rest
    obtain ⟨boundary,inside,member⟩ := mem_flatMap.mp handed
    have due := one.reached boundary inside event member
    have after := beyond boundary inside behind rest
    rw [Cable.before_iff]
    have first := due .zero
    have second := due .one
    unfold Boundary.mark at after
    omega
  · intro boundary inside
    exact (mem_append.mp inside).elim (one.clocks boundary) (one.epochs ▸ two.clocks boundary)
  · intro boundary inside
    exact (mem_append.mp inside).elim (one.reached boundary) (two.reached boundary)
  · rw [pairwise_append]
    refine ⟨one.first,two.first,?_⟩
    intro earlier inside boundary behind event handed
    exact ahead (beyond earlier inside event (mem_append_left _ (mem_flatMap.mpr ⟨boundary,behind,handed⟩)))
  · intro boundary inside event waits
    rcases mem_append.mp inside with inside | inside
    · exact beyond boundary inside event (mem_append_right _ waits)
    · exact two.waiting boundary inside event waits
  · intro boundary inside
    rcases mem_append.mp inside with inside | inside
    · exact (one.past boundary inside).trans onward
    · exact two.past boundary inside
  · intro tick early after event inside
    rw [flatMap_append,append_assoc] at inside
    rcases mem_append.mp inside with inside | inside
    · exact one.late tick early after event (mem_append_left _ inside)
    · exact two.late tick (early.trans begun)
        (fun event waits => one.late tick early after event (mem_append_right _ waits)) event inside

theorem single {start cable next : Cable M} {collected handed : List CableEvent}
    (delivered : Cable.Delivered m cable handed next) (sound : cable.Sound m)
    (epochs : cable.schedule.epochs = start.schedule.epochs)
    (works : Cable.Works m start.schedule.epochs start.machines collected cable.machines)
    (pending : cable.schedule.events.Perm (start.schedule.events ++ collected))
    (fresh : ∀ event ∈ collected, start.mark m < event.tick) :
    Journal m start [⟨collected,cable.now m,cable.machines,handed,next.machines⟩] next := by
  have same : next.mark m = cable.mark m := Cable.mark_congr delivered.epochs fun side => (delivered.still side).clock
  constructor
  · exact delivered.epochs.trans epochs
  · exact ⟨works,delivered.machines,rfl⟩
  · simpa [delivered.events] using pending
  · simpa [delivered.events] using sound.ordered
  · intro boundary inside side
    rw [mem_singleton.mp inside,← epochs]
    rfl
  · intro boundary inside event due side
    rw [mem_singleton.mp inside] at due ⊢
    exact (delivered.due event due).trans (cable.mark_le side)
  · exact pairwise_singleton _ _
  · intro boundary inside
    rw [mem_singleton.mp inside]
    exact delivered.waits
  · intro boundary inside
    rw [mem_singleton.mp inside,same]
    exact le_rfl
  · intro tick early after event inside
    rw [flatMap_singleton,delivered.events] at inside
    rcases mem_append.mp (pending.mem_iff.mp inside) with old | new
    · exact after event old
    · exact early.trans_lt (fresh event new)

end Journal

namespace Cable
variable {M Digest Sample : Type} {m : Machines M Digest Sample}

/-- What a successful run of the scheduler leaves behind. -/
structure Ended (m : Machines M Digest Sample) (cable finish : Cable M) : Prop where
  epochs : finish.schedule.epochs = cable.schedule.epochs
  frame : finish.schedule.frame = cable.schedule.frame
  forward : ∀ side, cable.now m side ≤ finish.now m side
  empty : Taken m finish
  sound : Sound m finish

theorem Ended.mark_le {cable finish : Cable M} (ended : Ended m cable finish) : cable.mark m ≤ finish.mark m := by
  have first := ended.forward .zero
  have second := ended.forward .one
  unfold mark
  omega

theorem turns_ok (lawful : m.Lawful) {limits : Endpoint → Nat} {fuel : Nat} {collected : List CableEvent}
    {start cable finish : Cable M} {log : List (Boundary M)} (sound : Sound m cable) (empty : Taken m cable)
    (epochs : cable.schedule.epochs = start.schedule.epochs)
    (works : Works m start.schedule.epochs start.machines collected cable.machines)
    (pending : cable.schedule.events.Perm (start.schedule.events ++ collected))
    (fresh : ∀ event ∈ collected, start.mark m < event.tick) (begun : start.mark m ≤ cable.mark m)
    (ran : turns m limits fuel collected cable = (.ok (),finish,log)) : Ended m cable finish ∧ Journal m start log finish := by
  induction fuel generalizing collected start cable log with
  | zero => cases ran
  | succ fuel ih =>
    obtain ⟨handed,next,deliver,delivered⟩ := deliver_ok lawful sound
    have clocks (side : Endpoint) := (delivered.still side).clock
    have nextSound := delivered.sound sound
    have nextEmpty : Taken m next := fun side => (delivered.still side).queue.trans (empty side)
    have here : next.now m = cable.now m := now_congr delivered.epochs clocks
    have same : next.mark m = cable.mark m := mark_congr delivered.epochs clocks
    have one := Journal.single delivered sound epochs works pending fresh
    rw [turns,deliver] at ran
    dsimp only at ran
    split at ran
    · cases ran
    rw [ticks_ok nextSound.epochs] at ran
    dsimp only at ran
    split at ran
    · cases ran
      exact ⟨⟨delivered.epochs,delivered.frame,fun side => (congrFun here side).ge,nextEmpty,nextSound⟩,one⟩
    rcases turned : next.turn m limits (next.now m) with ⟨_ | taken,moved⟩
    · rw [turned] at ran
      cases ran
    rw [turned] at ran
    rcases rest : turns m limits fuel taken moved with ⟨result,last,later⟩
    simp only [rest] at ran
    cases ran
    have turn := turn_ok lawful nextSound nextEmpty turned
    have ahead : next.mark m ≤ moved.mark m := by
      have first := turn.forward .zero
      have second := turn.forward .one
      unfold mark
      omega
    obtain ⟨ended,two⟩ := ih turn.sound turn.empty turn.epochs turn.works turn.events turn.fresh ahead rest
    refine ⟨⟨?_,?_,?_,ended.empty,ended.sound⟩,?_⟩
    · rw [ended.epochs,turn.epochs,delivered.epochs]
    · rw [ended.frame,turn.frame,delivered.frame]
    · intro side
      rw [← here]
      exact (turn.forward side).trans (ended.forward side)
    · exact one.append two (same.symm ▸ begun) (ahead.trans ended.mark_le)

theorem run_ok (lawful : m.Lawful) {limits : Endpoint → Nat} {cable finish : Cable M} {log : List (Boundary M)}
    (sound : Sound m cable) (empty : Taken m cable) (ran : cable.run m limits = (.ok (),finish,log)) :
    Ended m cable finish ∧ Journal m cable log finish := by
  rw [run,collect_taken empty sound.ordered] at ran
  have works : Works m cable.schedule.epochs cable.machines [] cable.machines := by
    refine ⟨cable.machines,fun _ => .rests,⟨?_,?_⟩⟩
    · intro side
      rw [empty side]
      rfl
    · rw [empty .zero,empty .one]
      rfl
  exact turns_ok lawful sound empty rfl works (by rw [append_nil]) (by simp) le_rfl ran

end Cable

end ZeffBoy.Link.WonderSwan.Local
