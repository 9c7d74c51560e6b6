import ZeffBoy.Link.PairBoundaries

/-! A run of the paired scheduler may be cut anywhere.
Which machine moves does not depend on the limits. A limit only cuts the time that halted machines skip, and then nothing is due
at the cut: the rest of that time is skipped by the next run. -/
namespace ZeffBoy.Link.WonderSwan.Local
open Library
namespace Cable
variable {M Digest Sample : Type} {m : Machines M Digest Sample}

/-- A successful run, as a derivation. -/
inductive Reaches (m : Machines M Digest Sample) (limit : Nat) : Cable M → Cable M → Prop
  | done {cable next : Cable M} {reached ticks : Endpoint → Nat} {handed : List CableEvent}
      (deliver : cable.deliver m = .ok (reached,handed,next)) (quiet : next.quiet m) (clocks : next.ticks m = .ok ticks)
      (full : limit ≤ ticks .zero ∧ limit ≤ ticks .one) : Reaches m limit cable next
  | turn {cable next moved finish : Cable M} {reached ticks : Endpoint → Nat} {handed taken : List CableEvent}
      (deliver : cable.deliver m = .ok (reached,handed,next)) (quiet : next.quiet m) (clocks : next.ticks m = .ok ticks)
      (more : ¬(limit ≤ ticks .zero ∧ limit ≤ ticks .one))
      (turned : next.turn m (fun _ => limit) ticks = (.ok taken,moved)) (rest : Reaches m limit moved finish) :
      Reaches m limit cable finish

theorem reaches_of_turns {limit fuel : Nat} {collected : List CableEvent} {cable finish : Cable M} {log : List (Boundary M)}
    (ran : turns m (fun _ => limit) fuel collected cable = (.ok (),finish,log)) : Reaches m limit cable finish := by
  induction fuel generalizing collected cable log with
  | zero => cases ran
  | succ fuel ih =>
    rw [turns] at ran
    rcases deliver : cable.deliver m with error | ⟨reached,handed,next⟩
    · rw [deliver] at ran
      cases ran
    rw [deliver] at ran
    dsimp only at ran
    split at ran
    · cases ran
    rename_i quiet
    rcases clocks : next.ticks m with error | ticks
    · rw [clocks] at ran
      cases ran
    rw [clocks] at ran
    dsimp only at ran
    split at ran
    · rename_i full
      cases ran
      exact .done deliver (not_not.mp quiet) clocks full
    rename_i more
    rcases turned : next.turn m (fun _ => limit) ticks with ⟨_ | taken,moved⟩
    · rw [turned] at ran
      cases ran
    rw [turned] at ran
    rcases rest : turns m (fun _ => limit) fuel taken moved with ⟨result,last,later⟩
    simp only [rest] at ran
    cases ran
    exact .turn deliver (not_not.mp quiet) clocks more turned (ih rest)

variable {limit : Nat} {ticks : Endpoint → Nat} {first second : Nat}

theorem reaches_of_run {cable finish : Cable M} {log : List (Boundary M)} (sound : Sound m cable)
    (empty : Taken m cable) (ran : cable.run m (fun _ => limit) = (.ok (),finish,log)) : Reaches m limit cable finish := by
  rw [run,collect_taken empty sound.ordered] at ran
  exact reaches_of_turns ran

theorem Reaches.unique {cable first second : Cable M} (one : Reaches m limit cable first)
    (two : Reaches m limit cable second) : first = second := by
  induction one generalizing second with
  | done deliver quiet clocks full =>
    cases two with
    | done deliver' quiet' clocks' full' =>
      rw [deliver] at deliver'
      cases deliver'
      rfl
    | turn deliver' quiet' clocks' more' turned' rest' =>
      rw [deliver] at deliver'
      cases deliver'
      rw [clocks] at clocks'
      cases clocks'
      exact absurd full more'
  | turn deliver quiet clocks more turned rest ih =>
    cases two with
    | done deliver' quiet' clocks' full' =>
      rw [deliver] at deliver'
      cases deliver'
      rw [clocks] at clocks'
      cases clocks'
      exact absurd full' more
    | turn deliver' quiet' clocks' more' turned' rest' =>
      rw [deliver] at deliver'
      cases deliver'
      rw [clocks] at clocks'
      cases clocks'
      rw [turned] at turned'
      cases turned'
      exact ih rest'

def Waits (m : Machines M Digest Sample) (cable : Cable M) : Prop := ∀ event ∈ cable.schedule.events, cable.mark m < event.tick

variable {cable : Cable M} {side : Endpoint}

theorem deliver_waits (sound : Sound m cable) (waits : Waits m cable) :
    cable.deliver m = .ok (cable.now m,[],cable) := by
  have early (event) (inside : event ∈ cable.schedule.events) :
      ¬event.tick ≤ min (cable.now m .zero) (cable.now m .one) := Nat.not_le_of_lt (waits event inside)
  rw [deliver,ticks_ok sound.epochs,ok_bind]
  rcases events : cable.schedule.events with _ | ⟨event,rest⟩
  · rw [deliverDue,← events]
  · rw [deliverDue,if_neg (early event (events ▸ List.mem_cons_self)),← events]

theorem behind_limit (later : first ≤ second)
    (more : ¬(first ≤ ticks .zero ∧ first ≤ ticks .one)) : behind (fun _ => first) ticks = behind (fun _ => second) ticks := by
  unfold behind
  dsimp only
  split <;> split <;> first | rfl | omega

theorem behind_spec (more : ¬(limit ≤ ticks .zero ∧ limit ≤ ticks .one)) :
    ticks (behind (fun _ => limit) ticks) < limit ∧
      ticks (behind (fun _ => limit) ticks) ≤ ticks (behind (fun _ => limit) ticks).other := by
  unfold behind
  dsimp only
  split
  · simp only [Endpoint.other]
    omega
  · simp only [Endpoint.other]
    omega

theorem behind_eq (open' : ticks side < limit)
    (after : ticks side < ticks side.other) : behind (fun _ => limit) ticks = side := by
  unfold behind
  dsimp only
  cases side with
  | zero =>
    rw [if_neg]
    simp only [Endpoint.other] at after
    omega
  | one =>
    rw [if_pos]
    simp only [Endpoint.other] at after
    omega

def settled (m : Machines M Digest Sample) (side : Endpoint) (before : Nat) (moved : Cable M) : Call (Cable M) (List CableEvent) :=
  if m.busCycles (moved.machines side) ≤ before then (.error "paired instruction made no bus progress",moved)
  else if ¬moved.running m then (.error "paired execution stopped or trapped",moved)
  else moved.collect m

theorem turn_of_act {cable moved : Cable M} {limits ticks : Endpoint → Nat} (acted : cable.act m limits ticks = .ok moved) :
    cable.turn m limits ticks =
      settled m (behind limits ticks) (m.busCycles (cable.machines (behind limits ticks))) moved := by
  rw [turn,acted]
  rfl

theorem settled_ok {cable moved : Cable M} {before : Nat} {taken : List CableEvent}
    (ran : settled m side before cable = (.ok taken,moved)) :
    before < m.busCycles (cable.machines side) ∧ cable.running m ∧ cable.collect m = (.ok taken,moved) := by
  unfold settled at ran
  split at ran
  · cases ran
  split at ran
  · cases ran
  rename_i progress running
  exact ⟨Nat.lt_of_not_le progress,not_not.mp running,ran⟩

theorem settled_of {before : Nat} (progress : before < m.busCycles (cable.machines side))
    (running : cable.running m) : settled m side before cable = cable.collect m := by
  rw [settled,if_neg (Nat.not_le_of_lt progress),if_neg (not_not.mpr running)]

/-- A turn that a limit cut short: nothing is due at the cut, and a later limit takes the machines on to where they would have
gone at once. -/
structure Cut (m : Machines M Digest Sample) (first second : Nat) (moved : Cable M) (taken : List CableEvent)
    (further : Cable M) : Prop where
  full : ∀ side, first ≤ moved.now m side
  more : ¬(second ≤ moved.now m .zero ∧ second ≤ moved.now m .one)
  sound : Sound m moved
  waits : Waits m moved
  resumes : moved.turn m (fun _ => second) (moved.now m) = (.ok taken,further)

section Lone
variable {cycles : Nat}

theorem setMachine_machines (cable : Cable M) (side : Endpoint) (machine : M) :
    (cable.setMachine side machine).machines side = machine ∧
      (cable.setMachine side machine).machines side.other = cable.machines side.other :=
  ⟨Function.update_self _ _ _,Function.update_of_ne (other_ne side) _ _⟩

theorem forall_endpoint {holds : Endpoint → Prop} (side : Endpoint) (here : holds side) (there : holds side.other) :
    ∀ reader, holds reader := by
  intro reader
  cases side <;> cases reader <;> assumption

theorem find?_first {events : List CableEvent} {event : CableEvent}
    (ordered : events.Pairwise fun first second => first.before second = true) (inside : event ∈ events)
    (foreign : event.sender ≠ side) :
    ∃ first, events.find? (fun event => event.sender ≠ side) = some first ∧ first.tick ≤ event.tick := by
  induction events with
  | nil => cases inside
  | cons head later ih =>
    rw [List.pairwise_cons] at ordered
    by_cases mine : head.sender = side
    · rw [List.find?_cons_of_neg (by simpa using mine)]
      rcases List.mem_cons.mp inside with rfl | inside
      · exact absurd mine foreign
      · exact ih ordered.2 inside
    · refine ⟨head,List.find?_cons_of_pos (by simpa using mine),?_⟩
      rcases List.mem_cons.mp inside with rfl | inside
      · exact le_rfl
      · have order := (before_iff _ _).mp (ordered.1 event inside)
        omega

/-- Where a halted machine stands in the middle of the time it may skip. -/
structure Midway (m : Machines M Digest Sample) (cable : Cable M) (side : Endpoint) (cycles : Nat) (moved : Cable M) : Prop where
  here : moved.now m side = cable.now m side + cycles
  there : moved.now m side.other = cable.now m side.other
  halts : m.canHalt (moved.machines side) = true
  room : moved.loneRoom m (moved.now m) side = cable.loneRoom m (cable.now m) side - cycles
  before : moved.now m side < moved.now m side.other
  sound : Sound m moved
  empty : Taken m moved
  waits : Waits m moved

theorem spare_sub {start cycles stop : Nat} (short : start + cycles < stop) :
    max (stop - (start + cycles)) 1 = max (stop - start) 1 - cycles := by
  rw [max_eq_left (by omega),max_eq_left (by omega),Nat.sub_add_eq]

theorem midway (lawful : m.Lawful) (sound : Sound m cable) (empty : Taken m cable) (waits : Waits m cable)
    (after : cable.now m side ≤ cable.now m side.other) (halts : m.canHalt (cable.machines side) = true) (some' : 0 < cycles)
    (inside : cycles < cable.loneRoom m (cable.now m) side) :
    Midway m cable side cycles (cable.setMachine side (m.advanceHalted (cable.machines side) cycles)) := by
  have near := cable.loneRoom_le (m := m) (cable.now m) side
  obtain ⟨still,next,queue⟩ := lawful.within _ _ halts some' (inside.trans_le near)
  have clock := lawful.clock _ _ halts some' (inside.le.trans near)
  obtain ⟨mine,theirs⟩ := cable.setMachine_machines side (m.advanceHalted (cable.machines side) cycles)
  generalize moved : cable.setMachine side (m.advanceHalted (cable.machines side) cycles) = next' at mine theirs ⊢
  have schedule : next'.schedule = cable.schedule := by rw [← moved]; rfl
  have start := sound.epochs side
  have here : next'.now m side = cable.now m side + cycles := by
    rw [now,now,mine,schedule,clock]
    omega
  have there : next'.now m side.other = cable.now m side.other := by rw [now,now,theirs,schedule]
  have gap : cycles < cable.now m side.other - cable.now m side := by
    unfold loneRoom at inside
    split at inside <;> omega
  have foreign (event) (member : event ∈ cable.schedule.events) : event.sender = side.other := by
    have stamped := sound.stamped event member
    have due := waits event member
    by_contra mine
    have same : event.sender = side := by
      cases side <;> cases sender : event.sender <;> simp_all [Endpoint.other]
    rw [same] at stamped
    unfold mark at due
    cases side <;> simp only [Endpoint.other] at after <;> omega
  have beyond (event) (member : event ∈ cable.schedule.events) : cable.now m side + cycles < event.tick := by
    obtain ⟨first,found,early⟩ := @find?_first side _ _ sound.ordered member (by rw [foreign event member]; exact other_ne side)
    rw [loneRoom,found] at inside
    dsimp only at inside
    omega
  refine ⟨here,there,by rw [mine]; exact still,?_,by omega,?_,?_,?_⟩
  · unfold loneRoom
    rw [here,there,mine,schedule,next,spare_sub (by omega)]
    cases found : cable.schedule.events.find? fun event => event.sender ≠ side with
    | none => exact Nat.sub_min_sub_right _ _ _
    | some event =>
      dsimp only
      rw [spare_sub (beyond event (List.mem_of_find?_eq_some found)),Nat.sub_min_sub_right,Nat.sub_min_sub_right]
  · refine ⟨forall_endpoint side ?_ ?_,by rw [schedule]; exact sound.ordered,?_⟩
    · rw [schedule,mine,clock]
      omega
    · rw [schedule,theirs]
      exact sound.epochs _
    · intro event member
      rw [schedule] at member
      rw [foreign event member,there,← foreign event member]
      exact sound.stamped event member
  · exact forall_endpoint side (by rw [mine,queue]; exact empty side) (by rw [theirs]; exact empty _)
  · intro event member
    rw [schedule] at member
    have far := beyond event member
    have low := next'.mark_le (m := m) side
    omega

theorem act_lone {limit : Nat} {ticks : Endpoint → Nat} (lone : ¬cable.bothHalted m (fun _ => limit) ticks)
    (mine : behind (fun _ => limit) ticks = side) (halts : m.canHalt (cable.machines side) = true)
    (progress : min (cable.loneRoom m ticks side) (limit - ticks side) ≠ 0) :
    cable.act m (fun _ => limit) ticks = .ok (cable.setMachine side
      (m.advanceHalted (cable.machines side) (min (cable.loneRoom m ticks side) (limit - ticks side)))) := by
  rw [act]
  dsimp only
  rw [if_neg lone,mine,if_pos halts,loneAdvance_eq,ensure_pos progress]
  rfl

theorem lone_cut (lawful : m.Lawful) (sound : Sound m cable) (empty : Taken m cable) (waits : Waits m cable)
    {first second : Nat} (mine : ∀ limit, limit = first ∨ limit = second → behind (fun _ => limit) (cable.now m) = side)
    (lone : ∀ limit, limit = first ∨ limit = second → ¬cable.bothHalted m (fun _ => limit) (cable.now m))
    (after : cable.now m side ≤ cable.now m side.other) (halts : m.canHalt (cable.machines side) = true)
    (short : min (cable.loneRoom m (cable.now m) side) (first - cable.now m side) <
      min (cable.loneRoom m (cable.now m) side) (second - cable.now m side))
    {early late : List CableEvent} {moved further : Cable M}
    (one : cable.turn m (fun _ => first) (cable.now m) = (.ok early,moved))
    (two : cable.turn m (fun _ => second) (cable.now m) = (.ok late,further)) : Cut m first second moved late further := by
  have some' : min (cable.loneRoom m (cable.now m) side) (first - cable.now m side) ≠ 0 := by
    intro none'
    have stuck : cable.act m (fun _ => first) (cable.now m) = .error "paired halt made no progress" := by
      rw [act]
      dsimp only
      rw [if_neg (lone _ (.inl rfl)),mine _ (.inl rfl),if_pos halts,loneAdvance_eq,none']
      rfl
    rw [turn,stuck] at one
    cases one
  rw [turn_of_act (act_lone (lone _ (.inl rfl)) (mine _ (.inl rfl)) halts some'),mine _ (.inl rfl)] at one
  rw [turn_of_act (act_lone (lone _ (.inr rfl)) (mine _ (.inr rfl)) halts (by omega)),mine _ (.inr rfl)] at two
  have near := cable.loneRoom_le (m := m) (cable.now m) side
  -- What is left of the time is skipped by the later turn.
  obtain ⟨cycles,part⟩ : ∃ cycles, cycles = min (cable.loneRoom m (cable.now m) side) (first - cable.now m side) := ⟨_,rfl⟩
  obtain ⟨rest,whole⟩ : ∃ rest, cycles + rest = min (cable.loneRoom m (cable.now m) side) (second - cable.now m side) :=
    ⟨_,Nat.add_sub_cancel' (part ▸ short.le)⟩
  rw [← part] at one some' short
  rw [← whole] at two short
  have mid := midway lawful sound empty waits after halts (pos_of_ne_zero some') (by omega)
  obtain ⟨_,_,collected⟩ := settled_ok one
  rw [collect_taken mid.empty mid.sound.ordered] at collected
  cases collected
  obtain ⟨_,running,collect⟩ := settled_ok two
  obtain ⟨here,there,still,room,before,midSound,midEmpty,midWaits⟩ := mid
  obtain ⟨self,_⟩ := cable.setMachine_machines side (m.advanceHalted (cable.machines side) cycles)
  have joined : (cable.setMachine side (m.advanceHalted (cable.machines side) cycles)).setMachine side
      (m.advanceHalted (m.advanceHalted (cable.machines side) cycles) rest) =
        cable.setMachine side (m.advanceHalted (cable.machines side) (cycles + rest)) := by
    rw [lawful.additive _ _ _ halts (by omega) (by omega) (by omega),setMachine,setMachine,setMachine,Function.update_idem]
  generalize cable.setMachine side (m.advanceHalted (cable.machines side) cycles) = moved at *
  have again : behind (fun _ => second) (moved.now m) = side := behind_eq (by omega) before
  have apart : ¬moved.bothHalted m (fun _ => second) (moved.now m) := by
    rintro ⟨_,_,level,_⟩
    cases side <;> simp only [Endpoint.other] at before <;> omega
  have amount : min (moved.loneRoom m (moved.now m) side) (second - moved.now m side) = rest := by omega
  refine ⟨forall_endpoint side (by omega) (by omega),?_,midSound,midWaits,?_⟩
  · rintro ⟨_,_⟩
    cases side <;> omega
  · rw [turn_of_act (act_lone apart again still (by omega)),again,amount,self,joined]
    rw [settled_of ?_ running,collect]
    rw [(cable.setMachine_machines side _).1,lawful.clock _ _ halts (by omega) (by omega),
      lawful.clock _ _ halts (by omega) (by omega)]
    omega

end Lone

section Joint

def skip (m : Machines M Digest Sample) (cable : Cable M) (cycles : Nat) : Cable M :=
  {cable with machines := fun side => m.advanceHalted (cable.machines side) cycles}

theorem bothHalted_iff {limit : Nat} {ticks : Endpoint → Nat} : cable.bothHalted m (fun _ => limit) ticks ↔
    ticks .zero < limit ∧ ticks .zero = ticks .one ∧ ∀ side, m.canHalt (cable.machines side) = true := by
  constructor
  · rintro ⟨open',_,level,zero,one⟩
    exact ⟨Nat.lt_of_not_le open',level,forall_endpoint .zero zero one⟩
  · rintro ⟨open',level,halts⟩
    exact ⟨Nat.not_le_of_lt open',Nat.not_le_of_lt (level ▸ open'),level,halts .zero,halts .one⟩

theorem events_of_level (sound : Sound m cable) (waits : Waits m cable) (level : cable.now m .zero = cable.now m .one) :
    cable.schedule.events = [] := by
  rw [List.eq_nil_iff_forall_not_mem]
  intro event inside
  have stamped := sound.stamped event inside
  have due := waits event inside
  unfold mark at due
  cases sender : event.sender <;> rw [sender] at stamped <;> omega

theorem act_joint {limit : Nat} {ticks : Endpoint → Nat} (both : cable.bothHalted m (fun _ => limit) ticks)
    (progress : min (cable.jointRoom m ticks) (limit - ticks .zero) ≠ 0) :
    cable.act m (fun _ => limit) ticks = .ok (cable.skip m (min (cable.jointRoom m ticks) (limit - ticks .zero))) := by
  have level := both.2.2.1
  rw [act]
  dsimp only
  rw [if_pos both,jointAdvance_eq,← level,min_self,ensure_pos progress]
  rfl

theorem joint_cut (lawful : m.Lawful) (sound : Sound m cable) (empty : Taken m cable) (waits : Waits m cable)
    {first second : Nat} (both : ∀ limit, limit = first ∨ limit = second → cable.bothHalted m (fun _ => limit) (cable.now m))
    (short : min (cable.jointRoom m (cable.now m)) (first - cable.now m .zero) <
      min (cable.jointRoom m (cable.now m)) (second - cable.now m .zero))
    {early late : List CableEvent} {moved further : Cable M}
    (one : cable.turn m (fun _ => first) (cable.now m) = (.ok early,moved))
    (two : cable.turn m (fun _ => second) (cable.now m) = (.ok late,further)) : Cut m first second moved late further := by
  obtain ⟨open',level,halts⟩ := bothHalted_iff.mp (both first (.inl rfl))
  have near (side : Endpoint) := cable.jointRoom_le (m := m) (cable.now m) side
  have none' := events_of_level sound waits level
  have some' : min (cable.jointRoom m (cable.now m)) (first - cable.now m .zero) ≠ 0 := by
    intro none'
    have stuck : cable.act m (fun _ => first) (cable.now m) = .error "paired halt made no progress" := by
      rw [act]
      dsimp only
      rw [if_pos (both _ (.inl rfl)),jointAdvance_eq,← level,min_self,none']
      rfl
    rw [turn,stuck] at one
    cases one
  rw [turn_of_act (act_joint (both _ (.inl rfl)) some')] at one
  rw [turn_of_act (act_joint (both _ (.inr rfl)) (by omega))] at two
  obtain ⟨cycles,part⟩ : ∃ cycles, cycles = min (cable.jointRoom m (cable.now m)) (first - cable.now m .zero) := ⟨_,rfl⟩
  obtain ⟨rest,whole⟩ : ∃ rest, cycles + rest = min (cable.jointRoom m (cable.now m)) (second - cable.now m .zero) :=
    ⟨_,Nat.add_sub_cancel' (part ▸ short.le)⟩
  rw [← part] at one some' short
  rw [← whole] at two short
  have within (side : Endpoint) := lawful.within _ _ (halts side) (pos_of_ne_zero some')
    (lt_of_lt_of_le (by omega) (near side))
  have clock (side : Endpoint) := lawful.clock _ _ (halts side) (pos_of_ne_zero some')
    (le_trans (by omega) (near side))
  have here (side : Endpoint) : (cable.skip m cycles).now m side = cable.now m side + cycles := by
    have start := sound.epochs side
    rw [now,now,skip]
    dsimp only
    rw [clock]
    omega
  have midSound : Sound m (cable.skip m cycles) := by
    refine ⟨?_,sound.ordered,?_⟩
    · intro side
      have start := sound.epochs side
      rw [skip]
      dsimp only
      rw [clock]
      omega
    · intro event inside
      rw [skip,none'] at inside
      cases inside
  have midEmpty : Taken m (cable.skip m cycles) := fun side => (within side).2.2.trans (empty side)
  have midWaits : Waits m (cable.skip m cycles) := by
    intro event inside
    rw [skip,none'] at inside
    cases inside
  obtain ⟨_,_,collected⟩ := settled_ok one
  rw [collect_taken midEmpty midSound.ordered] at collected
  cases collected
  obtain ⟨_,running,collect⟩ := settled_ok two
  have room : (cable.skip m cycles).jointRoom m ((cable.skip m cycles).now m) = cable.jointRoom m (cable.now m) - cycles := by
    have left := (within .zero).2.1
    have right := (within .one).2.1
    unfold jointRoom skip
    dsimp only
    rw [none',List.head?_nil]
    dsimp only
    rw [left,right]
    omega
  have again : (cable.skip m cycles).bothHalted m (fun _ => second) ((cable.skip m cycles).now m) := by
    refine bothHalted_iff.mpr ⟨?_,?_,fun side => (within side).1⟩
    · rw [here]
      omega
    · rw [here,here,level]
  have joined : (cable.skip m cycles).skip m rest = cable.skip m (cycles + rest) := by
    unfold skip
    dsimp only
    congr 1
    funext side
    exact lawful.additive _ _ _ (halts side) (by omega) (by omega) (le_trans (by omega) (near side))
  have amount : min ((cable.skip m cycles).jointRoom m ((cable.skip m cycles).now m)) (second - (cable.skip m cycles).now m .zero) =
      rest := by
    rw [room,here]
    omega
  refine ⟨?_,?_,midSound,midWaits,?_⟩
  · intro side
    rw [here]
    cases side <;> omega
  · rw [here,here]
    omega
  · rw [turn_of_act (act_joint again (by omega)),amount,joined,settled_of ?_ running,collect]
    have further := lawful.clock _ (cycles + rest) (halts (behind (fun _ => second) ((cable.skip m cycles).now m))) (by omega)
      (le_trans (by omega) (near _))
    unfold skip at further ⊢
    dsimp only at further ⊢
    rw [further,clock]
    omega

end Joint

theorem turn_congr {cable moved further : Cable M}
    {early late : List CableEvent} (same : behind (fun _ => first) ticks = behind (fun _ => second) ticks)
    (acts : cable.act m (fun _ => first) ticks = cable.act m (fun _ => second) ticks)
    (one : cable.turn m (fun _ => first) ticks = (.ok early,moved))
    (two : cable.turn m (fun _ => second) ticks = (.ok late,further)) : moved = further := by
  rw [turn,acts,same] at one
  rw [turn] at two
  exact (Prod.mk.inj (one.symm.trans two)).2

theorem turn_split (lawful : m.Lawful) (sound : Sound m cable) (empty : Taken m cable)
    (waits : Waits m cable) (later : first ≤ second)
    (more : ¬(first ≤ cable.now m .zero ∧ first ≤ cable.now m .one)) {early late : List CableEvent} {moved further : Cable M}
    (one : cable.turn m (fun _ => first) (cable.now m) = (.ok early,moved))
    (two : cable.turn m (fun _ => second) (cable.now m) = (.ok late,further)) :
    moved = further ∨ Cut m first second moved late further := by
  have same := behind_limit later more
  obtain ⟨_,after⟩ := behind_spec more
  by_cases both : cable.bothHalted m (fun _ => first) (cable.now m)
  · obtain ⟨open',level,halts⟩ := bothHalted_iff.mp both
    have both' : cable.bothHalted m (fun _ => second) (cable.now m) :=
      bothHalted_iff.mpr ⟨open'.trans_le later,level,halts⟩
    rcases lt_or_ge (min (cable.jointRoom m (cable.now m)) (first - cable.now m .zero))
      (min (cable.jointRoom m (cable.now m)) (second - cable.now m .zero)) with short | long
    · exact .inr (joint_cut lawful sound empty waits (by rintro _ (rfl | rfl) <;> assumption) short one two)
    · refine .inl (turn_congr same ?_ one two)
      have equal : min (cable.jointRoom m (cable.now m)) (first - cable.now m .zero) =
          min (cable.jointRoom m (cable.now m)) (second - cable.now m .zero) := by omega
      rw [act,act]
      dsimp only
      rw [if_pos both,if_pos both',jointAdvance_eq,jointAdvance_eq,← level,min_self,min_self,equal]
  have lone : ¬cable.bothHalted m (fun _ => second) (cable.now m) := by
    intro both'
    obtain ⟨open',level,halts⟩ := bothHalted_iff.mp both'
    exact both (bothHalted_iff.mpr ⟨by omega,level,halts⟩)
  by_cases halts : m.canHalt (cable.machines (behind (fun _ => first) (cable.now m))) = true
  · rcases lt_or_ge
      (min (cable.loneRoom m (cable.now m) (behind (fun _ => first) (cable.now m)))
        (first - cable.now m (behind (fun _ => first) (cable.now m))))
      (min (cable.loneRoom m (cable.now m) (behind (fun _ => first) (cable.now m)))
        (second - cable.now m (behind (fun _ => first) (cable.now m)))) with short | long
    · exact .inr (lone_cut lawful sound empty waits (by rintro _ (rfl | rfl) <;> simp [same])
        (by rintro _ (rfl | rfl) <;> assumption) after halts short one two)
    · refine .inl (turn_congr same ?_ one two)
      have equal : min (cable.loneRoom m (cable.now m) (behind (fun _ => first) (cable.now m)))
          (first - cable.now m (behind (fun _ => first) (cable.now m))) =
          min (cable.loneRoom m (cable.now m) (behind (fun _ => first) (cable.now m)))
            (second - cable.now m (behind (fun _ => first) (cable.now m))) := by omega
      rw [act,act]
      dsimp only
      rw [if_neg both,if_neg lone,← same,if_pos halts,if_pos halts,loneAdvance_eq,loneAdvance_eq,equal]
  · refine .inl (turn_congr same ?_ one two)
    rw [act,act]
    dsimp only
    rw [if_neg both,if_neg lone,← same,if_neg halts,if_neg halts]

theorem Reaches.split (lawful : m.Lawful) (later : first ≤ second) {cable middle finish : Cable M}
    (sound : Sound m cable) (empty : Taken m cable) (one : Reaches m first cable middle) (two : Reaches m second cable finish) :
    Reaches m second middle finish := by
  induction one with
  | @done cable next reached ticks handed deliver quiet clocks full =>
    obtain ⟨_,_,same,delivered⟩ := deliver_ok lawful sound
    rw [deliver] at same
    cases same
    have again := deliver_waits (delivered.sound sound) (m := m) (by
      intro event inside
      rw [mark_congr delivered.epochs fun side => (delivered.still side).clock]
      exact delivered.waits event inside)
    cases two with
    | done deliver' quiet' clocks' full' =>
      rw [deliver] at deliver'
      cases deliver'
      exact .done again quiet' clocks' full'
    | turn deliver' quiet' clocks' more' turned' rest' =>
      rw [deliver] at deliver'
      cases deliver'
      exact .turn again quiet' clocks' more' turned' rest'
  | @turn cable next moved middle reached ticks handed taken deliver quiet clocks more turned rest ih =>
    obtain ⟨_,_,same,delivered⟩ := deliver_ok lawful sound
    rw [deliver] at same
    cases same
    have nextSound := delivered.sound sound
    have nextEmpty : Taken m next := fun side => (delivered.still side).queue.trans (empty side)
    have waits : Waits m next := by
      intro event inside
      rw [mark_congr delivered.epochs fun side => (delivered.still side).clock]
      exact delivered.waits event inside
    rw [ticks_ok nextSound.epochs] at clocks
    cases clocks
    cases two with
    | done deliver' quiet' clocks' full' =>
      rw [deliver] at deliver'
      cases deliver'
      rw [ticks_ok nextSound.epochs] at clocks'
      cases clocks'
      exact absurd ⟨later.trans full'.1,later.trans full'.2⟩ more
    | @turn _ _ further _ _ _ _ late deliver' quiet' clocks' more' turned' rest' =>
      rw [deliver] at deliver'
      cases deliver'
      rw [ticks_ok nextSound.epochs] at clocks'
      cases clocks'
      rcases turn_split lawful nextSound nextEmpty waits later more turned turned' with rfl | cut
      · have turn := turn_ok lawful nextSound nextEmpty turned
        exact ih turn.sound turn.empty rest'
      · have still := deliver_waits cut.sound cut.waits
        cases rest with
        | done deliver'' quiet'' clocks'' full'' =>
          rw [still] at deliver''
          cases deliver''
          exact .turn still quiet'' (ticks_ok cut.sound.epochs) cut.more cut.resumes rest'
        | turn deliver'' quiet'' clocks'' more'' turned'' rest'' =>
          rw [still] at deliver''
          cases deliver''
          rw [ticks_ok cut.sound.epochs] at clocks''
          cases clocks''
          exact absurd ⟨cut.full .zero,cut.full .one⟩ more''

end Cable

end ZeffBoy.Link.WonderSwan.Local
