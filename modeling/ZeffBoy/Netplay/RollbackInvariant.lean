import ZeffBoy.Netplay.Rollback

/-! What every call keeps true of a rollback timeline.
The abstract account of a timeline records, for every frame of the whole run,
the inputs fixed so far and the inputs the frame was last simulated with. The
sparse input map, the executed queue and the dirty mark are windows into it. -/
namespace ZeffBoy.Netplay
open Library List Function

structure Account where
  known : Nat → Ports (Option UInt16)
  used : Nat → Ports UInt16
  floor : Nat
  low : Nat

def Account.fix (g : Account) (frame : Nat) (player : Player) (value : UInt16) : Account :=
  {g with known := update g.known frame ((g.known frame).set player (some value))}

-- Neutral inputs are fixed for the frames before the first sampled one.
def Account.initial (delay : InputDelay) : Account where
  known := fun f => if f < delay.frames then .both (some 0) else .both none
  used := fun _ => .both 0
  floor := 0
  low := 0

namespace Timeline

structure Consistent (g : Account) (t : Timeline) : Prop where
  entries : ∀ f e, t.inputs.get? f = some e → e = g.known f
  missing : ∀ f, t.inputs.get? f = none → g.known f = .both none ∨ f < g.floor
  above : ∀ f, (t.inputs.get? f).isSome → g.floor ≤ f
  present : ∀ f, g.floor ≤ f → f < t.confirmed → (t.inputs.get? f).isSome
  floor : g.floor ≤ t.confirmedFrame - retainedInputs
  complete : ∀ f, f < t.confirmed → (g.known f).complete
  depth : t.frame ≤ t.confirmed + predictionWindow
  executed : t.executed = (List.range' g.low (t.frame - g.low)).map (fun f => ⟨f,g.used f⟩)
  low : g.low ≤ t.confirmedFrame
  agree : ∀ f, f < t.frame → ∀ player value, (g.known f).get player = some value →
    (g.used f).get player = value ∨ ∃ x, t.dirty = some x ∧ x ≤ f
  dirty : ∀ x, t.dirty = some x → g.low ≤ x ∧ x < t.frame ∧ t.frame ≤ x + predictionWindow
  ahead : ∀ f, ((g.known f).get t.player).isSome → f ≤ t.frame + t.inputDelay.frames

section Confirmation
variable (inputs : OrderedMap (Ports (Option UInt16))) (fuel confirmed : Nat)

private theorem confirmLoop_wait (unready : ¬ (inputs.get? confirmed).any Ports.complete) :
    confirmLoop inputs (fuel + 1) confirmed = (.ok (),confirmed) := by
  simp only [confirmLoop,unready,Bool.false_eq_true,if_false]

private theorem confirmLoop_next (ready : (inputs.get? confirmed).any Ports.complete)
    (fits : confirmed + 1 < 2^64) :
    confirmLoop inputs (fuel + 1) confirmed = confirmLoop inputs fuel (confirmed + 1) := by
  simp only [confirmLoop,ready,if_true,checkedAdd,if_pos fits]

private theorem confirmLoop_overflow (ready : (inputs.get? confirmed).any Ports.complete)
    (full : ¬ confirmed + 1 < 2^64) :
    confirmLoop inputs (fuel + 1) confirmed = (.error "frame overflow",confirmed) := by
  simp only [confirmLoop,ready,if_true,checkedAdd,if_neg full]

theorem confirmLoop_spec :
    confirmed ≤ (confirmLoop inputs fuel confirmed).2 ∧
    (∀ f, confirmed ≤ f → f < (confirmLoop inputs fuel confirmed).2 → (inputs.get? f).any Ports.complete) ∧
    ((confirmLoop inputs fuel confirmed).1 = .ok () ∨
      (confirmLoop inputs fuel confirmed).1 = .error "frame overflow" ∧
      2^64 ≤ (confirmLoop inputs fuel confirmed).2 + 1 ∧
      (inputs.get? (confirmLoop inputs fuel confirmed).2).any Ports.complete) := by
  induction fuel generalizing confirmed with
  | zero => exact ⟨le_rfl,fun f low high => by simp only [confirmLoop] at high; omega,Or.inl rfl⟩
  | succ fuel ih =>
    by_cases ready : (inputs.get? confirmed).any Ports.complete
    · by_cases fits : confirmed + 1 < 2^64
      · obtain ⟨grows,filled,outcome⟩ := ih (confirmed + 1)
        rw [confirmLoop_next inputs fuel confirmed ready fits]
        refine ⟨by omega,?_,outcome⟩
        intro f low high
        by_cases same : f = confirmed
        · exact same ▸ ready
        · exact filled f (by omega) high
      · rw [confirmLoop_overflow inputs fuel confirmed ready fits]
        refine ⟨le_rfl,fun f low high => ?_,Or.inr ⟨rfl,by simp only; omega,ready⟩⟩
        simp only at high
        omega
    · rw [confirmLoop_wait inputs fuel confirmed ready]
      exact ⟨le_rfl,fun f low high => by simp only at high; omega,Or.inl rfl⟩

private theorem confirmLoop_exhausts (ok : (confirmLoop inputs fuel confirmed).1 = .ok ()) :
    ¬ (inputs.get? (confirmLoop inputs fuel confirmed).2).any Ports.complete ∨
      (confirmLoop inputs fuel confirmed).2 = confirmed + fuel := by
  induction fuel generalizing confirmed with
  | zero => exact Or.inr rfl
  | succ fuel ih =>
    by_cases ready : (inputs.get? confirmed).any Ports.complete
    · by_cases fits : confirmed + 1 < 2^64
      · rw [confirmLoop_next inputs fuel confirmed ready fits] at ok ⊢
        rcases ih (confirmed + 1) ok with stopped | spent
        · exact Or.inl stopped
        · exact Or.inr (by omega)
      · rw [confirmLoop_overflow inputs fuel confirmed ready fits] at ok
        contradiction
    · rw [confirmLoop_wait inputs fuel confirmed ready]
      exact Or.inl ready

theorem isSome_of_any (value : Option (Ports (Option UInt16))) (any : value.any Ports.complete) :
    value.isSome := by
  cases value <;> simp_all

theorem confirmLoop_stops (enough : inputs.size ≤ fuel) (ok : (confirmLoop inputs fuel confirmed).1 = .ok ()) :
    ¬ (inputs.get? (confirmLoop inputs fuel confirmed).2).any Ports.complete := by
  rcases confirmLoop_exhausts inputs fuel confirmed ok with stopped | spent
  · exact stopped
  · intro ready
    -- Out of fuel and still ready: one complete frame more than the map has entries.
    have filled := (confirmLoop_spec inputs fuel confirmed).2.1
    have bound := inputs.le_size_of_present confirmed (fuel + 1) (by
      intro key above below
      by_cases last : key = confirmed + fuel
      · rw [last,← spent]
        exact isSome_of_any _ ready
      · exact isSome_of_any _ (filled key above (by omega)))
    omega

end Confirmation

/-- The part of a timeline that sampling and arrival leave alone. -/
structure Extends (t next : Timeline) : Prop where
  player : next.player = t.player
  inputDelay : next.inputDelay = t.inputDelay
  frame : next.frame = t.frame
  executed : next.executed = t.executed
  confirmed : t.confirmed ≤ next.confirmed

section Account
variable {g : Account} {t : Timeline}

theorem fix_known (frame : Nat) (player : Player) (value : UInt16) (f : Nat) (reader : Player) :
    ((g.fix frame player value).known f).get reader =
      if f = frame ∧ reader = player then some value else (g.known f).get reader := by
  by_cases same : f = frame
  · subst same
    simp [Account.fix,Ports.get_set]
  · simp [Account.fix,same]

theorem Consistent.entry_known (c : Consistent g t) (frame : Nat) (inside : g.floor ≤ frame) :
    t.entry frame = g.known frame := by
  cases found : t.inputs.get? frame with
  | none =>
    rcases c.missing frame found with empty | retired
    · simp [entry,found,empty]
    · omega
  | some e => simpa [entry,found] using c.entries frame e found

theorem Consistent.floor_le (c : Consistent g t) : g.floor ≤ t.confirmed ∧ g.floor ≤ t.frame ∧
    (g.floor = t.confirmed → t.confirmed = 0) := by
  have bound := c.floor
  simp only [confirmedFrame,retainedInputs] at bound
  omega

theorem Consistent.floor_le_of_oldest (c : Consistent g t) (frame : Nat) (fresh : t.oldest ≤ frame) :
    g.floor ≤ frame := by
  cases first : t.inputs.first? with
  | none =>
    have empty := (OrderedMap.first?_eq_none _).mp first
    by_cases lower : g.floor < t.confirmed
    · have present := c.present g.floor le_rfl lower
      simp [empty] at present
    · have bound := c.floor_le
      omega
  | some pair =>
    obtain ⟨key,value⟩ := pair
    have found := (OrderedMap.first?_eq_some _ key value first).1
    have above := c.above key (by simp [found])
    simp only [oldest,first,Option.map_some,Option.getD_some] at fresh
    omega

theorem Consistent.stale_confirmed (c : Consistent g t) (frame : Nat) (stale : frame < t.oldest)
    (started : 0 < t.confirmed) : frame < t.confirmed := by
  have bound := c.floor_le
  have present := c.present g.floor le_rfl (by omega)
  cases first : t.inputs.first? with
  | none =>
    have empty := (OrderedMap.first?_eq_none _).mp first
    simp [empty] at present
  | some pair =>
    obtain ⟨key,value⟩ := pair
    have least := (OrderedMap.first?_eq_some _ key value first).2 g.floor present
    simp only [oldest,first,Option.map_some,Option.getD_some] at stale
    omega

theorem Consistent.confirmed_le (c : Consistent g t) (frame : Nat) (player : Player)
    (unknown : (g.known frame).get player = none) : t.confirmed ≤ frame := by
  by_contra below
  have complete := (Ports.complete_iff _).mp (c.complete frame (by omega)) player
  simp [unknown] at complete

theorem portsAt_get (t : Timeline) (frame : Nat) (player : Player) : (t.portsAt frame).get player =
    (t.inputs.latest? frame (fun entry => entry.get player)).getD (t.basePorts.get player) := by
  cases player <;> rfl

theorem Consistent.portsAt_known (c : Consistent g t) (frame : Nat) (inside : g.floor ≤ frame)
    (player : Player) (value : UInt16) (known : (g.known frame).get player = some value) :
    (t.portsAt frame).get player = value := by
  cases found : t.inputs.get? frame with
  | none =>
    rcases c.missing frame found with empty | retired
    · simp [empty] at known
    · omega
  | some e =>
    have same := c.entries frame e found
    subst same
    have latest := t.inputs.latest?_of_get? frame (fun e => e.get player) _ value found known
    rw [portsAt_get,latest,Option.getD_some]

theorem consistent_withDelay (player : Player) (delay : InputDelay) :
    Consistent (Account.initial delay) (withDelay player delay) where
  entries := by
    intro f e found
    simp only [withDelay,OrderedMap.get?_ofRange,Nat.zero_le,true_and,zero_add] at found
    by_cases primed : f < delay.frames
    · simpa [Account.initial,primed,eq_comm] using found
    · simp [primed] at found
  missing := by
    intro f found
    simp only [withDelay,OrderedMap.get?_ofRange,Nat.zero_le,true_and,zero_add] at found
    by_cases primed : f < delay.frames
    · simp [primed] at found
    · exact Or.inl (by simp [Account.initial,primed])
  above := fun _ _ => Nat.zero_le _
  present := by
    intro f _ below
    simp only [withDelay] at below
    simp [withDelay,OrderedMap.get?_ofRange,below]
  floor := Nat.zero_le _
  complete := by
    intro f below
    simp only [withDelay] at below
    simp [Account.initial,below,Ports.complete,Ports.both]
  depth := Nat.zero_le _
  executed := rfl
  low := Nat.zero_le _
  agree := fun f below => absurd below (Nat.not_lt_zero f)
  dirty := fun x marked => by simp [withDelay] at marked
  ahead := by
    intro f known
    by_cases primed : f < delay.frames
    · simp only [withDelay]
      omega
    · simp [Account.initial,primed] at known

theorem Consistent.grow (c : Consistent g t) (confirmed : Nat) (grows : t.confirmed ≤ confirmed)
    (filled : ∀ f, t.confirmed ≤ f → f < confirmed → (t.inputs.get? f).any Ports.complete) :
    Consistent g {t with confirmed := confirmed} where
  entries := c.entries
  missing := c.missing
  above := c.above
  present := by
    intro f inside below
    by_cases old : f < t.confirmed
    · exact c.present f inside old
    · exact isSome_of_any _ (filled f (by omega) below)
  floor := by
    have bound := c.floor
    simp only [confirmedFrame] at bound ⊢
    omega
  complete := by
    intro f below
    by_cases old : f < t.confirmed
    · exact c.complete f old
    · have ready := filled f (by omega) below
      cases found : t.inputs.get? f with
      | none => simp [found] at ready
      | some e =>
        rw [← c.entries f e found]
        simpa [found] using ready
  depth := by
    have bound := c.depth
    simp only
    omega
  executed := c.executed
  low := by
    have bound := c.low
    simp only [confirmedFrame] at bound ⊢
    omega
  agree := c.agree
  dirty := c.dirty
  ahead := c.ahead

theorem Consistent.record (c : Consistent g t) (frame : Nat) (player : Player) (value : UInt16)
    (dirty : Option Nat) (inside : g.floor ≤ frame)
    (raised : ∀ x, t.dirty = some x → ∃ y, dirty = some y ∧ y ≤ x)
    (covered : frame < t.frame → (g.used frame).get player = value ∨ ∃ x, dirty = some x ∧ x ≤ frame)
    (ranged : ∀ x, dirty = some x → g.low ≤ x ∧ x < t.frame ∧ t.frame ≤ x + predictionWindow)
    (near : player = t.player → frame ≤ t.frame + t.inputDelay.frames) :
    Consistent (g.fix frame player value) (t.record frame player value dirty) where
  entries := by
    intro f e found
    rw [Timeline.record,OrderedMap.get?_insert] at found
    by_cases same : f = frame
    · subst same
      rw [if_pos rfl,c.entry_known f inside] at found
      simpa [Account.fix] using (Option.some.inj found).symm
    · rw [if_neg same] at found
      simpa [Account.fix,update_of_ne same] using c.entries f e found
  missing := by
    intro f found
    rw [Timeline.record,OrderedMap.get?_insert] at found
    by_cases same : f = frame
    · simp [same] at found
    · rw [if_neg same] at found
      simpa [Account.fix,update_of_ne same] using c.missing f found
  above := by
    intro f found
    rw [Timeline.record,OrderedMap.get?_insert] at found
    by_cases same : f = frame
    · exact same ▸ inside
    · exact c.above f (by simpa [same] using found)
  present := by
    intro f low below
    rw [Timeline.record,OrderedMap.get?_insert]
    by_cases same : f = frame
    · simp [same]
    · simpa [same] using c.present f low below
  floor := c.floor
  complete := by
    intro f below
    have old := (Ports.complete_iff _).mp (c.complete f below)
    refine (Ports.complete_iff _).mpr fun reader => ?_
    rw [fix_known]
    split
    · rfl
    · exact old reader
  depth := c.depth
  executed := c.executed
  low := c.low
  agree := by
    intro f below reader fixed known
    rw [fix_known] at known
    split at known
    · rename_i same
      obtain ⟨rfl,rfl⟩ := same
      exact Option.some.inj known ▸ covered below
    · rcases c.agree f below reader fixed known with same | ⟨x,marked,under⟩
      · exact Or.inl same
      · obtain ⟨y,marked,lower⟩ := raised x marked
        exact Or.inr ⟨y,marked,lower.trans under⟩
  dirty := ranged
  ahead := by
    intro f known
    rw [fix_known] at known
    split at known
    · rename_i same
      exact same.1 ▸ near same.2.symm
    · exact c.ahead f known

theorem Consistent.ready_iff (c : Consistent g t) (frame : Nat) (inside : g.floor ≤ frame) :
    (t.inputs.get? frame).any Ports.complete ↔ (g.known frame).complete := by
  cases found : t.inputs.get? frame with
  | none =>
    rcases c.missing frame found with empty | retired
    · simp [empty,Ports.complete,Ports.both]
    · omega
  | some e => simp [c.entries frame e found]

theorem Consistent.updateConfirmation (c : Consistent g t) :
    Consistent g t.updateConfirmation.2 ∧ Extends t t.updateConfirmation.2 ∧
    t.updateConfirmation.2.dirty = t.dirty ∧
    (t.updateConfirmation.1 = .ok () ∧ ¬ (g.known t.updateConfirmation.2.confirmed).complete ∨
      t.updateConfirmation.1 = .error "frame overflow" ∧ ∃ f, 2^64 ≤ f + 1 ∧ (g.known f).complete) := by
  obtain ⟨grows,filled,outcome⟩ := confirmLoop_spec t.inputs t.inputs.size t.confirmed
  have kept := c.grow _ grows filled
  refine ⟨kept,⟨rfl,rfl,rfl,rfl,grows⟩,rfl,?_⟩
  have ready := kept.ready_iff _ kept.floor_le.1
  rcases outcome with ok | ⟨failed,full,complete⟩
  · refine Or.inl ⟨ok,fun complete => ?_⟩
    exact confirmLoop_stops t.inputs t.inputs.size t.confirmed le_rfl ok (ready.mpr complete)
  · exact Or.inr ⟨failed,_,full,ready.mp complete⟩

theorem Consistent.sampleLocal (c : Consistent g t) (buttons : UInt16)
    (fits : t.frame + t.inputDelay.frames < 2^64) (value : UInt16)
    (fixed : value = ((g.known (t.frame + t.inputDelay.frames)).get t.player).getD buttons) :
    Consistent (g.fix (t.frame + t.inputDelay.frames) t.player value) (t.sampleLocal buttons).2 ∧
    Extends t (t.sampleLocal buttons).2 ∧ (t.sampleLocal buttons).2.dirty = t.dirty ∧
    ((t.sampleLocal buttons).1 = .ok (t.frame + t.inputDelay.frames,value) ∧
      ¬ ((g.fix (t.frame + t.inputDelay.frames) t.player value).known (t.sampleLocal buttons).2.confirmed).complete ∨
      (t.sampleLocal buttons).1 = .error "frame overflow" ∧
      ∃ f, 2^64 ≤ f + 1 ∧ ((g.fix (t.frame + t.inputDelay.frames) t.player value).known f).complete) := by
  have inside : g.floor ≤ t.frame + t.inputDelay.frames := c.floor_le.2.1.trans (Nat.le_add_right _ _)
  have next := c.record (t.frame + t.inputDelay.frames) t.player value t.dirty inside
    (fun x marked => ⟨x,marked,le_rfl⟩) (fun below => by omega) c.dirty (fun _ => le_rfl)
  obtain ⟨kept,same,clean,outcome⟩ := next.updateConfirmation
  have unfolded : t.sampleLocal buttons =
      ((t.record (t.frame + t.inputDelay.frames) t.player value t.dirty).updateConfirmation.1.map
        (fun _ => (t.frame + t.inputDelay.frames,value)),
      (t.record (t.frame + t.inputDelay.frames) t.player value t.dirty).updateConfirmation.2) := by
    simp only [Timeline.sampleLocal,checkedAdd,if_pos fits,c.entry_known _ inside,← fixed]
  rw [unfolded]
  refine ⟨kept,⟨same.player,same.inputDelay,same.frame,same.executed,same.confirmed⟩,clean,?_⟩
  rcases outcome with ⟨ok,open_⟩ | ⟨failed,full⟩
  · exact Or.inl ⟨by rw [ok]; rfl,open_⟩
  · exact Or.inr ⟨by rw [failed]; rfl,full⟩

theorem Consistent.executed_mem (c : Consistent g t) (used : FrameInput) :
    used ∈ t.executed ↔ g.low ≤ used.frame ∧ used.frame < t.frame ∧ used.ports = g.used used.frame := by
  have low := c.low
  simp only [confirmedFrame] at low
  rw [c.executed,mem_map]
  constructor
  · rintro ⟨f,inside,rfl⟩
    rw [List.mem_range'_1] at inside
    exact ⟨inside.1,by simp only; omega,rfl⟩
  · rintro ⟨above,below,same⟩
    exact ⟨used.frame,by rw [List.mem_range'_1]; omega,by cases used; simp_all⟩

-- The dirty mark an arrival leaves: lowered to the frame when its simulation used another value.
def marked (t : Timeline) (frame : Nat) (buttons : UInt16) : Option Nat :=
  if t.executed.any (fun used => used.frame = frame && used.ports.get (other t.player) != buttons) then
    some ((t.dirty.map (min · frame)).getD frame)
  else t.dirty

theorem Consistent.marked_cases (c : Consistent g t) (frame : Nat) (buttons : UInt16) :
    (t.marked frame buttons = t.dirty ∧
      (g.low ≤ frame → frame < t.frame → (g.used frame).get (other t.player) = buttons)) ∨
    (g.low ≤ frame ∧ frame < t.frame ∧ ∃ x, t.marked frame buttons = some x ∧ x ≤ frame ∧
      (x = frame ∨ t.dirty = some x) ∧ ∀ y, t.dirty = some y → x ≤ y) := by
  unfold marked
  split
  · rename_i found
    obtain ⟨used,member,wrong⟩ := any_eq_true.mp found
    simp only [Bool.and_eq_true,decide_eq_true_eq] at wrong
    obtain ⟨above,below,_⟩ := (c.executed_mem used).mp member
    refine Or.inr ⟨by omega,by omega,?_⟩
    cases dirty : t.dirty with
    | none => exact ⟨frame,by simp,le_rfl,Or.inl rfl,by simp⟩
    | some y =>
      refine ⟨min y frame,by simp,by omega,?_,?_⟩
      · by_cases lower : y ≤ frame
        · exact Or.inr (by rw [min_eq_left lower])
        · exact Or.inl (by omega)
      · intro z same
        have := Option.some.inj same
        omega
  · rename_i absent
    refine Or.inl ⟨rfl,fun above below => ?_⟩
    by_contra wrong
    apply absent
    refine any_eq_true.mpr ⟨⟨frame,g.used frame⟩,(c.executed_mem _).mpr ⟨above,below,rfl⟩,?_⟩
    simp [wrong]

theorem Consistent.receiveRemote (c : Consistent g t) (frame : Nat) (buttons : UInt16)
    (fits : t.frame + t.inputDelay.lookahead < 2^64) (inside : frame ≤ t.frame + t.inputDelay.lookahead)
    (fresh : t.oldest ≤ frame) (unknown : (g.known frame).get (other t.player) = none) :
    Consistent (g.fix frame (other t.player) buttons) (t.receiveRemote frame buttons).2 ∧
    Extends t (t.receiveRemote frame buttons).2 ∧
    (t.receiveRemote frame buttons).2.dirty = t.marked frame buttons ∧
    (t.receiveRemote frame buttons).1 = .ok true ∧
    ¬ ((g.fix frame (other t.player) buttons).known (t.receiveRemote frame buttons).2.confirmed).complete := by
  have above := c.floor_le_of_oldest frame fresh
  have open_ := c.confirmed_le frame (other t.player) unknown
  have depth := c.depth
  have low := c.low
  simp only [confirmedFrame] at low
  have next := c.record frame (other t.player) buttons (t.marked frame buttons) above
    (by
      intro x dirty
      rcases c.marked_cases frame buttons with ⟨same,_⟩ | ⟨_,_,y,set,_,_,least⟩
      · exact ⟨x,same.trans dirty,le_rfl⟩
      · exact ⟨y,set,least x dirty⟩)
    (by
      intro below
      rcases c.marked_cases frame buttons with ⟨_,matched⟩ | ⟨_,_,y,set,under,_⟩
      · exact Or.inl (matched (by omega) below)
      · exact Or.inr ⟨y,set,under⟩)
    (by
      intro x set
      rcases c.marked_cases frame buttons with ⟨same,_⟩ | ⟨_,_,y,chosen,under,source,_⟩
      · exact c.dirty x (same.symm.trans set)
      · obtain rfl := Option.some.inj (chosen.symm.trans set)
        rcases source with rfl | old
        · exact ⟨by omega,by omega,by omega⟩
        · exact c.dirty y old)
    (fun same => absurd same (other_ne _))
  obtain ⟨kept,same,clean,outcome⟩ := next.updateConfirmation
  have unfolded : t.receiveRemote frame buttons =
      ((t.record frame (other t.player) buttons (t.marked frame buttons)).updateConfirmation.1.map (fun _ => true),
        (t.record frame (other t.player) buttons (t.marked frame buttons)).updateConfirmation.2) := by
    simp only [Timeline.receiveRemote,checkedAdd,if_pos fits,not_lt.mpr inside,not_lt.mpr fresh,
      if_false,c.entry_known frame above,unknown,marked]
  rw [unfolded]
  refine ⟨kept,⟨same.player,same.inputDelay,same.frame,same.executed,same.confirmed⟩,clean,?_⟩
  rcases outcome with ⟨ok,halted⟩ | ⟨_,f,full,complete⟩
  · rw [ok]
    exact ⟨rfl,halted⟩
  · -- A complete frame is sampled locally, hence well below the checked upper bound.
    have sampled := next.ahead f ((Ports.complete_iff _).mp complete _)
    simp only [Timeline.record,InputDelay.lookahead,InputDelay.pauseLead] at sampled fits
    omega

theorem Consistent.receiveRemote_known (c : Consistent g t) (frame : Nat) (buttons previous : UInt16)
    (fits : t.frame + t.inputDelay.lookahead < 2^64) (inside : frame ≤ t.frame + t.inputDelay.lookahead)
    (known : (g.known frame).get (other t.player) = some previous) :
    t.receiveRemote frame buttons =
      if frame < t.oldest ∨ previous = buttons then (.ok false,t)
      else (.error "remote input was rewritten",t) := by
  simp only [Timeline.receiveRemote,checkedAdd,if_pos fits,not_lt.mpr inside,if_false]
  by_cases stale : frame < t.oldest
  · simp only [stale,if_true,true_or]
  · have above := c.floor_le_of_oldest frame (not_lt.mp stale)
    simp only [stale,if_false,c.entry_known frame above,known,false_or]

private theorem dropWhile_range' (low cut count : Nat) (used : Nat → Ports UInt16)
    (inside : low ≤ cut) (below : cut ≤ low + count) :
    ((List.range' low count).map (fun f => (⟨f,used f⟩ : FrameInput))).dropWhile
        (fun used => used.frame < cut) =
      (List.range' cut (low + count - cut)).map (fun f => ⟨f,used f⟩) := by
  induction count generalizing low with
  | zero =>
    obtain rfl : cut = low := by omega
    simp
  | succ count ih =>
    by_cases head : low < cut
    · rw [List.range'_succ,map_cons,dropWhile_cons_of_pos (by simpa using head),ih (low + 1) head (by omega)]
      congr 2
      omega
    · obtain rfl : cut = low := by omega
      have size : cut + (count + 1) - cut = count + 1 := by omega
      rw [size,List.range'_succ,map_cons,dropWhile_cons_of_neg (by simp)]

theorem Consistent.retire (c : Consistent g t) (clean : t.dirty = none) :
    Consistent {g with floor := t.confirmedFrame - retainedInputs, low := t.confirmedFrame} t.retire where
  entries := by
    intro f e found
    rw [Timeline.retire,OrderedMap.get?_retain_key] at found
    split at found
    · exact c.entries f e found
    · contradiction
  missing := by
    intro f found
    rw [Timeline.retire,OrderedMap.get?_retain_key] at found
    have bound := c.floor
    split at found
    · rcases c.missing f found with empty | retired
      · exact Or.inl empty
      · exact Or.inr (by simp only; omega)
    · rename_i dropped
      simp only [decide_eq_true_eq] at dropped
      exact Or.inr (by simp only; omega)
  above := by
    intro f found
    rw [Timeline.retire,OrderedMap.get?_retain_key] at found
    split at found
    · rename_i kept
      simpa using kept
    · simp at found
  present := by
    intro f inside below
    rw [Timeline.retire,OrderedMap.get?_retain_key,if_pos (by simpa using inside)]
    exact c.present f (c.floor.trans inside) below
  floor := le_rfl
  complete := c.complete
  depth := c.depth
  executed := by
    have low := c.low
    have bound : t.confirmedFrame ≤ t.frame := min_le_right _ _
    simp only [Timeline.retire]
    rw [c.executed,dropWhile_range' g.low t.confirmedFrame (t.frame - g.low) g.used low (by omega)]
    congr 2
    omega
  low := le_rfl
  agree := c.agree
  dirty := by
    intro x marked
    simp [Timeline.retire,clean] at marked
  ahead := c.ahead

theorem nextFrame_ok (t : Timeline) (next : Option FrameInput) :
    t.nextFrame = .ok next ↔ t.dirty = none ∧
      next = if predictionWindow ≤ t.frame - t.confirmed then none else some ⟨t.frame,t.portsAt t.frame⟩ := by
  unfold nextFrame
  rw [bind_ok]
  simp only [ensure_ok]
  constructor
  · rintro ⟨_,clean,rest⟩
    refine ⟨clean,?_⟩
    split at rest <;> rename_i guard <;> simp only [guard,if_true,if_false] <;> exact (Except.ok.inj rest).symm
  · rintro ⟨clean,rfl⟩
    refine ⟨(),clean,?_⟩
    split <;> rfl

theorem advance_ok (t : Timeline) (input : FrameInput) (ok : (t.advance input).1 = .ok ()) :
    t.dirty = none ∧ t.frame < t.confirmed + predictionWindow ∧ input = ⟨t.frame,t.portsAt t.frame⟩ ∧
    (t.advance input).2 = retire {t with frame := t.frame + 1, executed := t.executed ++ [input]} := by
  unfold advance at ok ⊢
  cases found : t.nextFrame with
  | error message => simp [found] at ok
  | ok next =>
    obtain ⟨clean,shape⟩ := (nextFrame_ok t next).mp found
    simp only [found] at ok ⊢
    by_cases same : next = some input
    · simp only [same,if_true] at ok ⊢
      split at shape
      · simp [shape] at same
      · rename_i shallow
        have equal := Option.some.inj (same.symm.trans shape)
        refine ⟨clean,by omega,equal,?_⟩
        cases sum : checkedAdd t.frame 1 "frame overflow" with
        | error message => simp [sum] at ok
        | ok frame =>
          obtain ⟨_,rfl⟩ := checkedAdd_ok.mp sum
          rfl
    · simp [same] at ok

theorem Consistent.advance (c : Consistent g t) (input : FrameInput) (ok : (t.advance input).1 = .ok ()) :
    ∃ floor low, Consistent ⟨g.known,update g.used t.frame input.ports,floor,low⟩ (t.advance input).2 := by
  obtain ⟨clean,shallow,rfl,stepped⟩ := advance_ok t input ok
  rw [stepped]
  have low := c.low
  have floor := c.floor
  have floors := c.floor_le
  simp only [confirmedFrame] at low floor
  have pushed : Consistent ⟨g.known,update g.used t.frame (t.portsAt t.frame),g.floor,g.low⟩
      {t with frame := t.frame + 1, executed := t.executed ++ [⟨t.frame,t.portsAt t.frame⟩]} := {
    entries := c.entries
    missing := c.missing
    above := c.above
    present := c.present
    floor := by simp only [confirmedFrame]; omega
    complete := c.complete
    depth := by simp only; omega
    executed := by
      have size : t.frame + 1 - g.low = (t.frame - g.low) + 1 := by omega
      have last : g.low + 1 * (t.frame - g.low) = t.frame := by omega
      simp only [size]
      rw [List.range'_concat,map_append,c.executed,last]
      simp only [map_cons,map_nil,update_self]
      congr 1
      apply map_congr_left
      intro f inside
      rw [List.mem_range'_1] at inside
      rw [update_of_ne (by omega)]
    low := by simp only [confirmedFrame]; omega
    agree := by
      intro f below player value known
      by_cases same : f = t.frame
      · subst same
        simp only [update_self]
        exact Or.inl (c.portsAt_known t.frame floors.2.1 player value known)
      · simp only [update_of_ne same]
        exact c.agree f (by simp only at below; omega) player value known
    dirty := by simp [clean]
    ahead := by
      intro f known
      have near := c.ahead f known
      simp only
      omega }
  exact ⟨_,_,pushed.retire clean⟩

private theorem replaceUsed_range' (low count frame : Nat) (used : Nat → Ports UInt16) (ports : Ports UInt16)
    (inside : low ≤ frame) :
    replaceUsed ⟨frame,ports⟩ ((List.range' low count).map (fun f => ⟨f,used f⟩)) =
      (List.range' low count).map (fun f => ⟨f,update used frame ports f⟩) := by
  induction count generalizing low with
  | zero => rfl
  | succ count ih =>
    rw [List.range'_succ,map_cons,map_cons]
    by_cases head : low = frame
    · subst head
      simp only [replaceUsed,if_true,update_self,List.cons.injEq,true_and]
      apply map_congr_left
      intro f later
      rw [List.mem_range'_1] at later
      rw [update_of_ne (by omega)]
    · simp only [replaceUsed,head,if_false,ih (low + 1) (by omega),update_of_ne head]

private theorem replaceAll_range' (low count first size : Nat) (used ports : Nat → Ports UInt16)
    (inside : low ≤ first) (below : first + size ≤ low + count) :
    replaceAll ((List.range' first size).map (fun f => ⟨f,ports f⟩))
        ((List.range' low count).map (fun f => ⟨f,used f⟩)) =
      (.ok (),(List.range' low count).map
        (fun f => ⟨f,if first ≤ f ∧ f < first + size then ports f else used f⟩)) := by
  induction size generalizing first used with
  | zero =>
    simp only [List.range'_zero,map_nil,replaceAll,Prod.mk.injEq,true_and]
    apply map_congr_left
    intro f _
    rw [if_neg (by omega)]
  | succ size ih =>
    rw [List.range'_succ,map_cons]
    have found : ((List.range' low count).map (fun f => (⟨f,used f⟩ : FrameInput))).any
        (fun used => used.frame = first) := by
      simp only [any_map,any_eq_true,List.mem_range'_1]
      exact ⟨first,by omega,by simp⟩
    simp only [replaceAll,found,if_true]
    rw [replaceUsed_range' low count first used (ports first) inside,
      ih (first + 1) (update used first (ports first)) (by omega) (by omega)]
    simp only [Prod.mk.injEq,true_and]
    apply map_congr_left
    intro f _
    by_cases head : f = first
    · subst head
      simp
    · simp only [update_of_ne head]
      congr 1
      by_cases later : first + 1 ≤ f ∧ f < first + 1 + size
      · rw [if_pos later,if_pos (by omega)]
      · rw [if_neg later,if_neg (by omega)]

def plan (t : Timeline) : List FrameInput :=
  match t.dirty with
  | none => []
  | some dirty => (List.range' dirty (t.frame - dirty)).map (fun f => ⟨f,t.portsAt f⟩)

-- What the frames are simulated with once the plan has been replayed.
def replayed (g : Account) (t : Timeline) (f : Nat) : Ports UInt16 :=
  match t.dirty with
  | none => g.used f
  | some dirty => if dirty ≤ f ∧ f < t.frame then t.portsAt f else g.used f

theorem Consistent.correction (c : Consistent g t) : t.correction = .ok t.plan := by
  unfold Timeline.correction plan
  cases dirty : t.dirty with
  | none => rfl
  | some x =>
    have bound := c.dirty x dirty
    have close : t.frame - x ≤ predictionWindow := by omega
    simp only [ensure,if_pos close]
    rfl

theorem Consistent.corrected (c : Consistent g t) :
    (t.corrected t.plan).1 = .ok () ∧ (t.corrected t.plan).2.dirty = none ∧
    (t.corrected t.plan).2.frame = t.frame ∧ (t.corrected t.plan).2.confirmed = t.confirmed ∧
    (t.corrected t.plan).2.player = t.player ∧ (t.corrected t.plan).2.inputDelay = t.inputDelay ∧
    ∃ floor low, Consistent ⟨g.known,replayed g t,floor,low⟩ (t.corrected t.plan).2 := by
  have low := c.low
  have floors := c.floor_le
  simp only [confirmedFrame] at low
  have replaced : replaceAll t.plan t.executed =
      (.ok (),(List.range' g.low (t.frame - g.low)).map (fun f => ⟨f,replayed g t f⟩)) := by
    rw [c.executed]
    cases dirty : t.dirty with
    | none => simp [plan,replayed,dirty,replaceAll]
    | some x =>
      have bound := c.dirty x dirty
      have size : x + (t.frame - x) = t.frame := by omega
      simp only [plan,dirty]
      rw [replaceAll_range' g.low (t.frame - g.low) x (t.frame - x) g.used t.portsAt bound.1 (by omega),size]
      simp only [replayed,dirty]
  have unfolded : t.corrected t.plan = (.ok (),Timeline.retire
      {t with executed := (List.range' g.low (t.frame - g.low)).map (fun f => ⟨f,replayed g t f⟩), dirty := none}) := by
    simp only [Timeline.corrected,c.correction,if_true,replaced]
  have settled : Consistent ⟨g.known,replayed g t,g.floor,g.low⟩
      {t with executed := (List.range' g.low (t.frame - g.low)).map (fun f => ⟨f,replayed g t f⟩), dirty := none} := {
    entries := c.entries
    missing := c.missing
    above := c.above
    present := c.present
    floor := c.floor
    complete := c.complete
    depth := c.depth
    executed := rfl
    low := c.low
    agree := by
      intro f below player value known
      refine Or.inl ?_
      simp only [replayed]
      cases dirty : t.dirty with
      | none =>
        rcases c.agree f below player value known with same | ⟨x,set,_⟩
        · exact same
        · simp [dirty] at set
      | some x =>
        have bound := c.dirty x dirty
        by_cases inside : x ≤ f ∧ f < t.frame
        · have floor := c.floor
          simp only [confirmedFrame,retainedInputs] at floor
          have near := bound.2.2
          simp only [predictionWindow] at near
          simp only [inside,and_self,if_true]
          exact c.portsAt_known f (by omega) player value known
        · simp only [inside,if_false]
          rcases c.agree f below player value known with same | ⟨y,set,under⟩
          · exact same
          · obtain rfl := Option.some.inj (dirty.symm.trans set)
            exact absurd ⟨under,below⟩ inside
    dirty := by simp
    ahead := c.ahead }
  rw [unfolded]
  exact ⟨rfl,rfl,rfl,rfl,rfl,rfl,_,_,settled.retire rfl⟩

end Account

end Timeline
end ZeffBoy.Netplay
