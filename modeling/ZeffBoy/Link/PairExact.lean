import ZeffBoy.Link.PairSplit
import ZeffBoy.Library.Transition

/-! The methods of the paired scheduler: what is handed over, cuts of the time line, snapshots, and calls that fail. -/
namespace ZeffBoy.Link.WonderSwan.Local
open Library

section
variable {M Digest Sample : Type} [DecidableEq Digest] {m : Machines M Digest Sample}

/-- An advance of the pair, successful or not. -/
inductive Advances (m : Machines M Digest Sample) (world : World M Digest) : World M Digest → Prop
  | toTick (tick : Nat) : Advances m world (world.advanceTo m tick).2.1
  | frame (inputs : Endpoint → UInt16) : Advances m world (world.advanceFrame m inputs).2

/-- What a pair can come to: it is advanced, and put back to snapshots of itself. -/
inductive Reachable (m : Machines M Digest Sample) (start : World M Digest) : World M Digest → Prop
  | start : Reachable m start start
  | advance {world next : World M Digest} (before : Reachable m start world) (advances : Advances m world next) :
    Reachable m start next
  | restore {world saved : World M Digest} {snapshot : PairSnapshot M Digest} (before : Reachable m start world)
    (earlier : Reachable m start saved) (captured : saved.capture m = .ok snapshot) :
    Reachable m start (world.restore m snapshot).2

/-- What holds between two calls. The machines are those of the start, as the pair expects them; while the pair is valid, nothing
is left in their UARTs and the cable is in order. -/
structure Kept (m : Machines M Digest Sample) (start world : World M Digest) : Prop where
  owner : world.pair.owner = start.pair.owner
  media : world.pair.media = start.pair.media
  identities : world.pair.identities = start.pair.identities
  mediaRom : world.pair.mediaRom = start.pair.mediaRom
  epochs : world.pair.schedule.epochs = start.pair.schedule.epochs
  setup : ∀ side, m.setup (world.machines side) = m.setup (start.machines side)
  hashes : machineHashes m world.machines = .ok world.pair.expected
  sound : world.pair.valid = true → Cable.Sound m world.cable ∧ Cable.Taken m world.cable

/-- A pair that was made for its machines. -/
structure Made (m : Machines M Digest Sample) (start : World M Digest) : Prop where
  media : start.pair.media = fun side => m.romHash (start.machines side)
  identities : start.pair.identities = fun side => m.linkIdentity (start.machines side)
  mediaRom : start.pair.mediaRom = fun side => m.sharedRom (start.machines side)
  untraced : ∀ side, m.untraced (start.machines side) = true
  fullAudio : ∀ side, m.fullAudio (start.machines side) = true

theorem eachEndpoint_ok (check : Endpoint → Except String Unit) : eachEndpoint check = .ok () ↔ ∀ side, check side = .ok () := by
  rw [eachEndpoint,check_bind_ok]
  constructor
  · rintro ⟨first,second⟩
    exact Cable.forall_endpoint .zero first second
  · intro all
    exact ⟨all .zero,all .one⟩

omit [DecidableEq Digest] in
theorem validateControls_ok (machine : M) :
    validateControls m machine = .ok () ↔ m.untraced machine = true ∧ m.fullAudio machine = true := by
  rw [validateControls,check_bind_ok,ensure_ok,ensure_ok]

theorem new_ok {owner : Nat} {machines : Endpoint → M} {pair : LinkPair Digest}
    (made : LinkPair.new m owner machines = .ok pair) : Made m ⟨machines,pair⟩ ∧ Kept m ⟨machines,pair⟩ ⟨machines,pair⟩ := by
  unfold LinkPair.new at made
  obtain ⟨_,made⟩ := check_bind_ok.mp made
  obtain ⟨each,made⟩ := check_bind_ok.mp made
  obtain ⟨expected,hashes,made⟩ := bind_ok.mp made
  rw [eachEndpoint_ok] at each
  have sides (side : Endpoint) : (m.untraced (machines side) = true ∧ m.fullAudio (machines side) = true) ∧
      m.completedTx (machines side) = [] := by
    obtain ⟨valid,rest⟩ := check_bind_ok.mp (each side)
    obtain ⟨_,none'⟩ := check_bind_ok.mp rest
    rw [ensure_ok] at none'
    obtain ⟨_,rest⟩ := check_bind_ok.mp valid
    obtain ⟨controls,_⟩ := check_bind_ok.mp rest
    exact ⟨(validateControls_ok _).mp controls,List.eq_nil_of_length_eq_zero none'⟩
  cases made
  refine ⟨⟨rfl,rfl,rfl,fun side => (sides side).1.1,fun side => (sides side).1.2⟩,
    ⟨rfl,rfl,rfl,rfl,rfl,fun _ => rfl,hashes,fun _ => ⟨⟨fun _ => le_rfl,.nil,by simp [World.cable]⟩,fun side => (sides side).2⟩⟩⟩

theorem Kept.context {start world : World M Digest} (made : Made m start) (kept : Kept m start world) :
    world.pair.checkContext m world.machines = .ok () := by
  have same (side : Endpoint) := kept.setup side
  simp only [Machines.setup,Prod.mk.injEq] at same
  rw [LinkPair.checkContext,check_bind_ok,check_bind_ok,check_bind_ok,bind_ok,ensure_ok,LinkPair.checkMedia,ensure_ok,ensure_ok]
  refine ⟨?_,?_,?_,_,kept.hashes,?_⟩
  · rw [kept.identities,made.identities]
    exact ⟨(same .zero).1,(same .one).1⟩
  · rw [kept.mediaRom,made.mediaRom]
    exact ⟨(same .zero).2.1,(same .one).2.1⟩
  · rw [kept.media,made.media]
    exact ⟨(same .zero).2.2.1,(same .one).2.2.1⟩
  · rw [check_bind_ok,ensure_ok,eachEndpoint_ok]
    refine ⟨⟨rfl,rfl⟩,?_⟩
    intro side
    rw [validateControls_ok,(same side).2.2.2.1,(same side).2.2.2.2]
    exact ⟨made.untraced side,made.fullAudio side⟩

end

namespace Cable
variable {M Digest Sample : Type} {m : Machines M Digest Sample}

/-- The scheduler leaves the epochs and the contexts of the machines alone, also when it fails. -/
structure SameSetup (m : Machines M Digest Sample) (before after : Cable M) : Prop where
  epochs : after.schedule.epochs = before.schedule.epochs
  setup : ∀ side, m.setup (after.machines side) = m.setup (before.machines side)

theorem SameSetup.refl (cable : Cable M) : SameSetup m cable cable := ⟨rfl,fun _ => rfl⟩

theorem SameSetup.trans {first second third : Cable M} (one : SameSetup m first second) (two : SameSetup m second third) :
    SameSetup m first third :=
  ⟨two.epochs.trans one.epochs,fun side => (two.setup side).trans (one.setup side)⟩

theorem sameSetup_setMachine {cable : Cable M} {side : Endpoint} {machine : M}
    (same : m.setup machine = m.setup (cable.machines side)) : SameSetup m cable (cable.setMachine side machine) := by
  refine ⟨rfl,?_⟩
  intro reader
  simp only [setMachine,Function.update_apply]
  split
  · rename_i here
    rw [here,same]
  · rfl

theorem sameSetup_setEvents (cable : Cable M) (events : List CableEvent) : SameSetup m cable (cable.setEvents events) :=
  ⟨rfl,fun _ => rfl⟩

theorem sameSetup_collectFrom (lawful : m.Lawful) (sender : Endpoint) (queue : List TxEvent) (cable : Cable M) :
    SameSetup m cable (collectFrom m sender queue cable).2 := by
  induction queue generalizing cable with
  | nil => exact .refl cable
  | cons event queue ih =>
    have taken : SameSetup m cable (cable.setMachine sender (m.takeTx (cable.machines sender))) :=
      sameSetup_setMachine (lawful.takeTx_setup _)
    unfold collectFrom
    dsimp only
    split
    · exact taken
    split
    · exact taken
    · exact (taken.trans (sameSetup_setEvents _ _)).trans (ih _)

theorem sameSetup_collect (lawful : m.Lawful) (cable : Cable M) : SameSetup m cable (cable.collect m).2 := by
  have first := sameSetup_collectFrom lawful .zero (m.completedTx (cable.machines .zero)) cable
  unfold collect
  rcases one : collectFrom m .zero (m.completedTx (cable.machines .zero)) cable with ⟨_ | early,between⟩
  · rw [one] at first
    exact first
  rw [one] at first
  have second := sameSetup_collectFrom lawful .one (m.completedTx (between.machines .one)) between
  dsimp only
  rcases two : collectFrom m .one (m.completedTx (between.machines .one)) between with ⟨_ | late,last⟩
  · rw [two] at second
    exact first.trans second
  · rw [two] at second
    exact (first.trans second).trans (sameSetup_setEvents _ _)

theorem setup_foldl_handOver (lawful : m.Lawful) (machines : Endpoint → M) (events : List CableEvent) (side : Endpoint) :
    m.setup (events.foldl (handOver m) machines side) = m.setup (machines side) := by
  induction events generalizing machines with
  | nil => rfl
  | cons event events ih =>
    rw [List.foldl_cons,ih,handOver,Function.update_apply]
    split
    · rename_i here
      rw [here,lawful.receive_setup]
    · rfl

theorem sameSetup_deliver (lawful : m.Lawful) {cable next : Cable M} {reached : Endpoint → Nat} {handed : List CableEvent}
    (ran : cable.deliver m = .ok (reached,handed,next)) : SameSetup m cable next := by
  obtain ⟨ticks,_,rest⟩ := bind_ok.mp ran
  rw [deliverDue_eq] at rest
  cases rest
  exact ⟨rfl,setup_foldl_handOver lawful _ _⟩

theorem sameSetup_act (lawful : m.Lawful) {cable next : Cable M} {limits ticks : Endpoint → Nat}
    (ran : cable.act m limits ticks = .ok next) : SameSetup m cable next := by
  unfold act at ran
  dsimp only at ran
  split at ran
  · obtain ⟨_,done⟩ := check_bind_ok.mp ran
    cases done
    exact ⟨rfl,fun _ => lawful.advance_setup _ _⟩
  split at ran
  · obtain ⟨_,done⟩ := check_bind_ok.mp ran
    cases done
    exact sameSetup_setMachine (lawful.advance_setup _ _)
  · cases ran
    exact sameSetup_setMachine (lawful.step_setup _)

theorem sameSetup_turn (lawful : m.Lawful) (cable : Cable M) (limits ticks : Endpoint → Nat) :
    SameSetup m cable (cable.turn m limits ticks).2 := by
  unfold turn
  dsimp only
  rcases acted : cable.act m limits ticks with error | moved
  · exact .refl cable
  have first := sameSetup_act lawful acted
  dsimp only
  split
  · exact first
  split
  · exact first
  · exact first.trans (sameSetup_collect lawful moved)

theorem sameSetup_turns (lawful : m.Lawful) (limits : Endpoint → Nat) (fuel : Nat) (collected : List CableEvent)
    (cable : Cable M) : SameSetup m cable (turns m limits fuel collected cable).2.1 := by
  induction fuel generalizing collected cable with
  | zero => exact .refl cable
  | succ fuel ih =>
    rw [turns]
    rcases deliver : cable.deliver m with error | ⟨reached,handed,next⟩
    · exact .refl cable
    have first := sameSetup_deliver lawful deliver
    dsimp only
    split
    · exact first
    rcases next.ticks m with error | ticks
    · exact first
    dsimp only
    split
    · exact first
    have second := sameSetup_turn lawful next limits ticks
    rcases turned : next.turn m limits ticks with ⟨_ | taken,moved⟩
    · rw [turned] at second
      exact first.trans second
    · rw [turned] at second
      exact (first.trans second).trans (ih taken moved)

theorem sameSetup_run (lawful : m.Lawful) (limits : Endpoint → Nat) (cable : Cable M) :
    SameSetup m cable (cable.run m limits).2.1 := by
  have first := sameSetup_collect lawful cable
  unfold run
  rcases collected : cable.collect m with ⟨_ | taken,next⟩
  · rw [collected] at first
    exact first
  · rw [collected] at first
    exact first.trans (sameSetup_turns lawful limits maxSteps taken next)

end Cable

section
variable {M Digest Sample : Type} [DecidableEq Digest] {m : Machines M Digest Sample}

omit [DecidableEq Digest] in
theorem machineHashes_ok (lawful : m.Lawful) (machines : Endpoint → M) :
    ∃ expected, machineHashes m machines = .ok expected := by
  obtain ⟨first,one⟩ := lawful.hashed (machines .zero)
  obtain ⟨second,two⟩ := lawful.hashed (machines .one)
  exact ⟨_,by rw [machineHashes,one,ok_bind,two]; rfl⟩

omit [DecidableEq Digest] in
theorem rehash_ok (lawful : m.Lawful) (world : World M Digest) : ∃ expected, machineHashes m world.machines = .ok expected ∧
    world.rehash m = (.ok (),{world with pair := {world.pair with expected := expected}}) := by
  obtain ⟨expected,hashes⟩ := machineHashes_ok lawful world.machines
  exact ⟨expected,hashes,by rw [World.rehash,hashes]⟩

variable {world : World M Digest} {tick : Nat}

theorem advanceTo_ready (lawful : m.Lawful) (ready : world.readyTo m tick = .ok ()) :
    ∃ expected, machineHashes m (world.cable.run m fun _ => tick).2.1.machines = .ok expected ∧
      world.advanceTo m tick = ((world.cable.run m fun _ => tick).1,
        ⟨(world.cable.run m fun _ => tick).2.1.machines,{world.pair with
          schedule := (world.cable.run m fun _ => tick).2.1.schedule
          expected := expected
          valid := match (world.cable.run m fun _ => tick).1 with
            | .ok _ => world.pair.valid
            | .error _ => false}⟩,(world.cable.run m fun _ => tick).2.2) := by
  have start : ({world.cable with machines := fun side => m.endFrameService (world.machines side)} : Cable M) = world.cable := by
    simp only [World.cable,lawful.endFrameService]
  rw [World.advanceTo,ready]
  dsimp only
  rw [start]
  rcases world.cable.run m fun _ => tick with ⟨_ | _,cable,log⟩
  · obtain ⟨expected,hashes,same⟩ := rehash_ok lawful (world.settle cable).retired
    refine ⟨expected,hashes,?_⟩
    dsimp only
    rw [same]
    rfl
  · obtain ⟨expected,hashes,same⟩ := rehash_ok lawful (world.settle cable)
    refine ⟨expected,hashes,?_⟩
    dsimp only
    rw [same]
    rfl

theorem check_ok {pair : LinkPair Digest} {machines : Endpoint → M} (passed : pair.check m machines = .ok ()) :
    pair.valid = true ∧ ∀ side, validate m (machines side) = .ok () := by
  obtain ⟨valid,rest⟩ := check_bind_ok.mp passed
  obtain ⟨_,each⟩ := check_bind_ok.mp rest
  exact ⟨ensure_ok.mp valid,(eachEndpoint_ok _).mp each⟩

theorem readyTo_valid (ready : world.readyTo m tick = .ok ()) :
    world.pair.valid = true :=
  (check_ok (check_bind_ok.mp ready).1).1

theorem readyFrame_valid {inputs : Endpoint → UInt16} {frame : Nat}
    (ready : world.readyFrame m inputs = .ok frame) : world.pair.valid = true :=
  (check_ok (check_bind_ok.mp ready).1).1

variable {start : World M Digest}

omit [DecidableEq Digest] in
theorem Kept.ran (kept : Kept m start world) {cable : Cable M}
    (same : Cable.SameSetup m world.cable cable) {expected : Endpoint → Digest}
    (hashes : machineHashes m cable.machines = .ok expected) {valid : Bool}
    (sound : valid = true → Cable.Sound m cable ∧ Cable.Taken m cable) :
    Kept m start ⟨cable.machines,{world.pair with schedule := cable.schedule, expected := expected, valid := valid}⟩ :=
  ⟨kept.owner,kept.media,kept.identities,kept.mediaRom,same.epochs.trans kept.epochs,
    fun side => (same.setup side).trans (kept.setup side),hashes,sound⟩

theorem Kept.advanceTo (lawful : m.Lawful) (kept : Kept m start world) (tick : Nat) :
    Kept m start (world.advanceTo m tick).2.1 := by
  rcases ready : world.readyTo m tick with error | _
  · rw [World.advanceTo,ready]
    exact kept
  obtain ⟨sound,empty⟩ := kept.sound (readyTo_valid ready)
  obtain ⟨expected,hashes,same⟩ := advanceTo_ready lawful ready
  have setup := Cable.sameSetup_run lawful (fun _ => tick) world.cable
  rw [same]
  refine kept.ran setup hashes ?_
  intro valid
  rcases ran : world.cable.run m fun _ => tick with ⟨_ | _,cable,log⟩
  · rw [ran] at valid
    cases valid
  · obtain ⟨ended,_⟩ := Cable.run_ok lawful sound empty ran
    exact ⟨ended.sound,ended.empty⟩

omit [DecidableEq Digest] in
theorem Cable.still_sound {cable next : Cable M} (schedule : next.schedule.epochs = cable.schedule.epochs)
    (events : next.schedule.events = cable.schedule.events)
    (still : ∀ side, Still m (cable.machines side) (next.machines side)) (sound : Cable.Sound m cable)
    (empty : Cable.Taken m cable) : Cable.Sound m next ∧ Cable.Taken m next := by
  have clocks (side : Endpoint) := (still side).clock
  refine ⟨⟨?_,by rw [events]; exact sound.ordered,?_⟩,fun side => (still side).queue.trans (empty side)⟩
  · intro side
    rw [schedule,clocks]
    exact sound.epochs side
  · intro event inside
    rw [Cable.now_congr schedule clocks]
    exact sound.stamped event (events ▸ inside)

omit [DecidableEq Digest] in
theorem primed_still (lawful : m.Lawful) (world : World M Digest) (inputs : Endpoint → UInt16) (side : Endpoint) :
    Still m (world.cable.machines side) ((world.primed m inputs).machines side) ∧
      m.setup ((world.primed m inputs).machines side) = m.setup (world.cable.machines side) := by
  unfold World.primed World.cable
  dsimp only
  rw [lawful.endFrameService]
  have input := lawful.setInput (world.machines side) (World.buttons (inputs side)) ((inputs side).toUInt8 &&& (0x0F : UInt8))
  have cleared := lawful.clearFrameReady
    (m.setInput (world.machines side) (World.buttons (inputs side)) ((inputs side).toUInt8 &&& (0x0F : UInt8)))
  refine ⟨⟨cleared.clock.trans input.clock,cleared.queue.trans input.queue⟩,?_⟩
  rw [lawful.clearFrameReady_setup,lawful.setInput_setup]

theorem advanceFrame_ready (lawful : m.Lawful) (kept : Kept m start world)
    {inputs : Endpoint → UInt16} {frame : Nat} (ready : world.readyFrame m inputs = .ok frame) :
    ∃ result next, world.advanceFrame m inputs = (result,next) ∧ Kept m start next ∧
      ∀ error, result = .error error → next.pair.valid = false := by
  obtain ⟨sound,empty⟩ := kept.sound (readyFrame_valid ready)
  have primed (side : Endpoint) := primed_still lawful world inputs side
  obtain ⟨primedSound,primedEmpty⟩ := @Cable.still_sound _ _ _ m world.cable (world.primed m inputs) rfl rfl
    (fun side => (primed side).1) sound empty
  have before : Cable.SameSetup m world.cable (world.primed m inputs) := ⟨rfl,fun side => (primed side).2⟩
  have setup := before.trans (Cable.sameSetup_run lawful (fun _ => frame * cyclesPerFrame) (world.primed m inputs))
  rw [World.advanceFrame,ready]
  dsimp only
  rcases ran : (world.primed m inputs).run m fun _ => frame * cyclesPerFrame with ⟨error | _,cable,log⟩
  · obtain ⟨expected,hashes,same⟩ := rehash_ok lawful (world.settle cable).retired
    rw [ran] at setup
    dsimp only
    rw [same]
    exact ⟨_,_,rfl,kept.ran setup hashes (fun valid => by cases valid),fun _ _ => rfl⟩
  · obtain ⟨ended,_⟩ := Cable.run_ok lawful primedSound primedEmpty ran
    rw [ran] at setup
    dsimp only
    generalize shut : (world.settle cable).closeFrame m frame = closed
    obtain ⟨expected,hashes,same⟩ := rehash_ok lawful closed
    have still (side : Endpoint) : Still m (cable.machines side) (closed.machines side) := by
      have counted := lawful.countFrame (cable.machines side)
      have drained := lawful.drainAudio (m.countFrame (cable.machines side))
      rw [← shut]
      exact ⟨drained.clock.trans counted.clock,drained.queue.trans counted.queue⟩
    obtain ⟨closedSound,closedEmpty⟩ := @Cable.still_sound _ _ _ m cable closed.cable (by rw [← shut]; rfl)
      (by rw [← shut]; rfl) still ended.sound ended.empty
    have closedSetup : Cable.SameSetup m world.cable closed.cable := by
      refine setup.trans ⟨by rw [← shut]; rfl,?_⟩
      intro side
      rw [← shut]
      change m.setup (m.drainAudio (m.countFrame (cable.machines side))) = _
      rw [lawful.drainAudio_setup,lawful.countFrame_setup]
    have ticks : ({closed with pair := {closed.pair with expected := expected}} : World M Digest).cable.ticks m = _ :=
      Cable.ticks_ok closedSound.epochs
    rw [same]
    dsimp only
    rw [ticks]
    refine ⟨_,_,rfl,?_,fun _ failed => by cases failed⟩
    have last := @Kept.ran _ _ _ _ _ _ kept _ closedSetup _ hashes closed.pair.valid fun _ => ⟨closedSound,closedEmpty⟩
    rw [← shut] at last ⊢
    exact last

theorem restore_captured {start world saved : World M Digest} (made : Made m start) (kept : Kept m start world)
    (earlier : Kept m start saved) {snapshot : PairSnapshot M Digest} (captured : saved.capture m = .ok snapshot) :
    world.restore m snapshot = (.ok (),saved) := by
  obtain ⟨checked,rest⟩ := check_bind_ok.mp captured
  obtain ⟨schedule,rest⟩ := check_bind_ok.mp rest
  obtain ⟨_,_,taken⟩ := bind_ok.mp rest
  cases taken
  obtain ⟨valid,each⟩ := check_ok checked
  have same (side : Endpoint) := earlier.setup side
  simp only [Machines.setup,Prod.mk.injEq] at same
  have back : world.restored m ⟨saved.pair.owner,saved.machines,saved.pair.schedule,
      m.pairHash saved.pair.expected saved.pair.schedule⟩ = .ok saved := by
    rw [World.restored,check_bind_ok,check_bind_ok,check_bind_ok,check_bind_ok,check_bind_ok,check_bind_ok,bind_ok,
      ensure_ok,ensure_ok,LinkPair.checkMedia,ensure_ok,ensure_ok]
    refine ⟨kept.context made,earlier.owner.trans kept.owner.symm,?_,?_,?_,schedule,_,earlier.hashes,?_⟩
    · rw [kept.identities,made.identities,kept.epochs,earlier.epochs]
      exact ⟨(same .zero).1,(same .one).1,rfl,rfl⟩
    · rw [kept.mediaRom,made.mediaRom]
      exact ⟨(same .zero).2.1,(same .one).2.1⟩
    · rw [kept.media,made.media]
      exact ⟨(same .zero).2.2.1,(same .one).2.2.1⟩
    · rw [check_bind_ok,check_bind_ok,ensure_ok,eachEndpoint_ok]
      refine ⟨rfl,each,?_⟩
      obtain ⟨machines,pair⟩ := saved
      obtain ⟨owner,schedule,expected,media,identities,mediaRom,valid'⟩ := pair
      have owner' := earlier.owner
      have media' := earlier.media
      have identities' := earlier.identities
      have mediaRom' := earlier.mediaRom
      dsimp only at owner' media' identities' mediaRom' valid ⊢
      rw [kept.owner,kept.media,kept.identities,kept.mediaRom,owner',media',identities',mediaRom',valid]
  rw [World.restore,back]

theorem Kept.advances (lawful : m.Lawful) {start world next : World M Digest} (kept : Kept m start world)
    (advances : Advances m world next) : Kept m start next := by
  cases advances with
  | toTick tick => exact kept.advanceTo lawful tick
  | frame inputs =>
    rcases ready : world.readyFrame m inputs with error | frame
    · rw [World.advanceFrame,ready]
      exact kept
    · obtain ⟨result,next,ran,held,_⟩ := advanceFrame_ready lawful kept ready
      rw [ran]
      exact held

theorem Reachable.kept (lawful : m.Lawful) (made : Made m start) (first : Kept m start start)
    (reached : Reachable m start world) : Kept m start world := by
  induction reached with
  | start => exact first
  | advance _ advances ih => exact ih.advances lawful advances
  | restore _ _ captured ih earlier =>
    rw [restore_captured made ih earlier captured]
    exact earlier

def Refuses (m : Machines M Digest Sample) (world : World M Digest) : Prop :=
  (∀ tick, world.advanceTo m tick = (.error "paired scheduler is retired",world,[])) ∧
    (∀ inputs, world.advanceFrame m inputs = (.error "paired scheduler is retired",world)) ∧
    world.capture m = .error "paired scheduler is retired"

theorem refuses_of_retired (retired : world.pair.valid = false) : Refuses m world := by
  have check : world.pair.check m world.machines = .error "paired scheduler is retired" := by
    rw [LinkPair.check,retired]
    rfl
  refine ⟨?_,?_,?_⟩
  · intro tick
    rw [World.advanceTo,World.readyTo,check]
    rfl
  · intro inputs
    rw [World.advanceFrame,World.readyFrame,check]
    rfl
  · rw [World.capture,check]
    rfl

/-- Calls of `advance_to` that all succeed, with the boundaries of all of them. -/
def World.advanceAll (m : Machines M Digest Sample) (world : World M Digest) : List Nat → Option (World M Digest × List (Boundary M))
  | [] => some (world,[])
  | tick::ticks =>
    match world.advanceTo m tick with
    | (.ok _,next,log) => (next.advanceAll m ticks).map fun (finish,later) => (finish,log ++ later)
    | (.error _,_,_) => none

/-- The paired scheduler is exact, and does not care how the time line is cut. -/
structure Exact (m : Machines M Digest Sample) (world : World M Digest) : Prop where
  deliveries : world.pair.valid = true → ∀ ticks finish log, world.advanceAll m ticks = some (finish,log) →
    Journal m world.cable log finish.cable
  split : ∀ first second between finish straight log later whole, first ≤ second →
    world.advanceTo m first = (.ok (),between,log) → between.advanceTo m second = (.ok (),finish,later) →
    world.advanceTo m second = (.ok (),straight,whole) → finish = straight
  recalled : ∀ snapshot, world.capture m = .ok snapshot → ∀ later, Relation.ReflTransGen (Advances m) world later →
    later.restore m snapshot = (.ok (),world)
  retired : (∀ tick error next log, world.readyTo m tick = .ok () → world.advanceTo m tick = (.error error,next,log) →
      ∀ later, Relation.ReflTransGen (Advances m) next later → Refuses m later) ∧
    ∀ inputs frame error next, world.readyFrame m inputs = .ok frame → world.advanceFrame m inputs = (.error error,next) →
      ∀ later, Relation.ReflTransGen (Advances m) next later → Refuses m later

theorem advanceTo_ok (lawful : m.Lawful) {start world next : World M Digest} (kept : Kept m start world)
    {log : List (Boundary M)} (ran : world.advanceTo m tick = (.ok (),next,log)) :
    world.cable.run m (fun _ => tick) = (.ok (),next.cable,log) ∧ next.pair.valid = true ∧
      Cable.Sound m world.cable ∧ Cable.Taken m world.cable := by
  rcases ready : world.readyTo m tick with error | _
  · rw [World.advanceTo,ready] at ran
    cases ran
  obtain ⟨expected,_,same⟩ := advanceTo_ready lawful ready
  rw [same] at ran
  have valid := readyTo_valid ready
  refine ⟨?_,?_,kept.sound valid⟩
  · rcases outcome : world.cable.run m (fun _ => tick) with ⟨result,cable,boundaries⟩
    rw [outcome] at ran
    cases ran
    rfl
  · rcases outcome : world.cable.run m (fun _ => tick) with ⟨result,cable,boundaries⟩
    rw [outcome] at ran
    cases ran
    exact valid

theorem advanceAll_journal (lawful : m.Lawful) {start world finish : World M Digest} (kept : Kept m start world)
    (valid : world.pair.valid = true) {ticks : List Nat} {log : List (Boundary M)}
    (ran : world.advanceAll m ticks = some (finish,log)) : world.cable.mark m ≤ finish.cable.mark m ∧
      Journal m world.cable log finish.cable := by
  induction ticks generalizing world log with
  | nil =>
    cases ran
    exact ⟨le_rfl,.nil (kept.sound valid).1.ordered⟩
  | cons tick ticks ih =>
    rw [World.advanceAll] at ran
    rcases first : world.advanceTo m tick with ⟨_ | _,next,early⟩
    · rw [first] at ran
      cases ran
    rw [first] at ran
    obtain ⟨⟨last,later⟩,rest,same⟩ := Option.map_eq_some_iff.mp ran
    cases same
    obtain ⟨run,nextValid,sound,empty⟩ := advanceTo_ok lawful kept first
    obtain ⟨ended,journal⟩ := Cable.run_ok lawful sound empty run
    have nextKept := kept.advanceTo lawful tick
    rw [first] at nextKept
    obtain ⟨onward,behind⟩ := ih nextKept nextValid rest
    exact ⟨ended.mark_le.trans onward,journal.append behind ended.mark_le onward⟩

theorem retired_advances {world later : World M Digest} (retired : world.pair.valid = false)
    (run : Relation.ReflTransGen (Advances m) world later) : Refuses m later := by
  have still : later = world := by
    induction run with
    | refl => rfl
    | tail _ last ih =>
      subst ih
      obtain ⟨tick,frame,_⟩ := refuses_of_retired (m := m) retired
      cases last with
      | toTick => rw [tick]
      | frame => rw [frame]
  rw [still]
  exact refuses_of_retired retired

omit [DecidableEq Digest] in
theorem Kept.eq {start one two : World M Digest} (first : Kept m start one) (second : Kept m start two)
    (machines : one.machines = two.machines) (schedule : one.pair.schedule = two.pair.schedule)
    (valid : one.pair.valid = two.pair.valid) : one = two := by
  have hashes := first.hashes.symm.trans (machines ▸ second.hashes)
  obtain ⟨machines',pair⟩ := one
  obtain ⟨machines'',pair'⟩ := two
  obtain ⟨owner,schedule',expected,media,identities,mediaRom,valid'⟩ := pair
  obtain ⟨owner',schedule'',expected',media',identities',mediaRom',valid''⟩ := pair'
  dsimp only at machines schedule valid hashes
  subst machines
  subst schedule
  subst valid
  have sameOwner := first.owner.trans second.owner.symm
  have sameMedia := first.media.trans second.media.symm
  have sameIdentities := first.identities.trans second.identities.symm
  have sameRom := first.mediaRom.trans second.mediaRom.symm
  dsimp only at sameOwner sameMedia sameIdentities sameRom
  rw [sameOwner,sameMedia,sameIdentities,sameRom,Except.ok.inj hashes]

theorem reachable_exact (lawful : m.Lawful) {owner : Nat} {machines : Endpoint → M} {pair : LinkPair Digest}
    (created : LinkPair.new m owner machines = .ok pair) {world : World M Digest}
    (reached : Reachable m ⟨machines,pair⟩ world) : Exact m world := by
  obtain ⟨made,initial⟩ := new_ok created
  have kept := reached.kept lawful made initial
  refine ⟨?_,?_,?_,?_,?_⟩
  · intro valid ticks finish log ran
    exact (advanceAll_journal lawful kept valid ran).2
  · intro first second between finish straight log later whole order one two direct
    obtain ⟨oneRun,_,sound,empty⟩ := advanceTo_ok lawful kept one
    have betweenKept : Kept m ⟨machines,pair⟩ between := by
      have held := kept.advanceTo lawful first
      rwa [one] at held
    obtain ⟨twoRun,twoValid,betweenSound,betweenEmpty⟩ := advanceTo_ok lawful betweenKept two
    obtain ⟨directRun,directValid,_⟩ := advanceTo_ok lawful kept direct
    have finishKept := betweenKept.advanceTo lawful second
    have straightKept := kept.advanceTo lawful second
    rw [two] at finishKept
    rw [direct] at straightKept
    have same : finish.cable = straight.cable :=
      Cable.Reaches.unique (Cable.reaches_of_run betweenSound betweenEmpty twoRun)
        ((Cable.reaches_of_run sound empty oneRun).split lawful order sound empty (Cable.reaches_of_run sound empty directRun))
    have sameMachines : finish.machines = straight.machines := congrArg Cable.machines same
    have sameSchedule : finish.pair.schedule = straight.pair.schedule := congrArg Cable.schedule same
    exact finishKept.eq straightKept sameMachines sameSchedule (twoValid.trans directValid.symm)
  · intro snapshot captured later run
    have laterKept : Kept m ⟨machines,pair⟩ later :=
      invariant_of_run kept (fun _ _ held advances => held.advances lawful advances) run
    exact restore_captured made laterKept kept captured
  · intro tick error next log ready failed later run
    obtain ⟨expected,_,same⟩ := advanceTo_ready lawful ready
    apply retired_advances _ run
    rw [same] at failed
    rcases outcome : world.cable.run m (fun _ => tick) with ⟨_ | _,cable,boundaries⟩
    · rw [outcome] at failed
      cases failed
      rfl
    · rw [outcome] at failed
      cases failed
  · intro inputs frame error next ready failed later run
    obtain ⟨result,next',ran,_,retires⟩ := advanceFrame_ready lawful kept ready
    rw [ran] at failed
    cases failed
    exact retired_advances (retires error rfl) run

end

/-- A machine whose CPU is halted for good: only its display and its UART run. A byte on the line has cycles left. -/
@[ext] structure IdleMachine where
  identity : Nat
  busCycles : Nat
  control : UInt8
  uart : Uart
  sending : uart.txPending = true → 0 < uart.txCyclesRemaining

namespace IdleMachine

def stepCycles (machine : IdleMachine) (cycles : Nat) : IdleMachine where
  identity := machine.identity
  busCycles := machine.busCycles + cycles
  control := machine.control
  uart := machine.uart.stepCycles cycles machine.control (machine.busCycles + cycles)
  sending := by
    unfold Uart.stepCycles
    split
    · exact machine.sending
    · split
      · intro _
        dsimp only
        omega
      · simp

def takeTx (machine : IdleMachine) : IdleMachine :=
  {machine with uart := {machine.uart with completedTxEvents := machine.uart.completedTxEvents.tail}, sending := machine.sending}

def receive (machine : IdleMachine) (byte : UInt8) : IdleMachine where
  __ := machine
  uart := machine.uart.receiveByte byte machine.control
  sending := by
    unfold Uart.receiveByte
    split
    · exact machine.sending
    · split <;> exact machine.sending

def sends (machine : IdleMachine) : Prop := machine.control &&& serialControlEnable ≠ 0 ∧ machine.uart.txPending = true

instance (machine : IdleMachine) : Decidable machine.sends := inferInstanceAs (Decidable (_ ∧ _))

-- The end of the scanline, or of the byte on the line.
def nextEvent (machine : IdleMachine) : Nat :=
  if machine.sends then min (256 - machine.busCycles % 256) machine.uart.txCyclesRemaining
  else 256 - machine.busCycles % 256

def machines : Machines IdleMachine Nat Unit where
  busCycles := busCycles
  completedTx machine := machine.uart.completedTxEvents
  takeTx := takeTx
  receive := receive
  canHalt _ := true
  nextEvent := nextEvent
  advanceHalted := stepCycles
  stepInstruction machine := machine.stepCycles 1
  endFrameService := id
  setInput machine _ _ := machine
  clearFrameReady := id
  countFrame := id
  drainAudio := id
  audio _ := []
  bufferedSamples _ := 0
  suspended _ := false
  trapped _ := false
  untraced _ := true
  fullAudio _ := true
  linkIdentity := identity
  sharedRom _ := 0
  romHash _ := 0
  romDigest _ := 0
  machineHash machine := .ok machine.busCycles
  pairHash expected _ := expected .zero + expected .one

theorem stepCycles_elapsed (machine : IdleMachine) (cycles : Nat) : Elapsed machines machine (machine.stepCycles cycles) := by
  refine ⟨Nat.le_add_right _ _,?_⟩
  simp only [machines,stepCycles,Uart.stepCycles]
  split
  · exact ⟨[],(List.append_nil _).symm,by simp⟩
  rename_i sends
  have busy := machine.sending (by simpa using (not_or.mp sends).2)
  split
  · exact ⟨[],(List.append_nil _).symm,by simp⟩
  · refine ⟨_,rfl,?_⟩
    intro event inside
    rw [List.mem_singleton.mp inside]
    dsimp only
    omega

variable {machine : IdleMachine} {cycles : Nat}

theorem stepCycles_of_not_sends (idle : ¬machine.sends) (cycles : Nat) :
    (machine.stepCycles cycles).uart = machine.uart := by
  simp only [stepCycles,Uart.stepCycles]
  rw [if_pos]
  by_contra busy
  exact idle (by simpa [sends] using busy)

theorem stepCycles_of_sends (sends : machine.sends)
    (short : cycles < machine.uart.txCyclesRemaining) : (machine.stepCycles cycles).uart =
      {machine.uart with txCyclesRemaining := machine.uart.txCyclesRemaining - cycles} := by
  simp only [stepCycles,Uart.stepCycles]
  rw [if_neg (by simpa [IdleMachine.sends] using sends),if_pos short]

theorem sends_stepCycles (short : cycles < machine.nextEvent) :
    (machine.stepCycles cycles).sends ↔ machine.sends := by
  unfold nextEvent at short
  by_cases busy : machine.sends
  · rw [if_pos busy] at short
    rw [sends,stepCycles_of_sends busy (by omega)]
    rfl
  · rw [sends,stepCycles_of_not_sends busy]
    rfl

theorem nextEvent_stepCycles (short : cycles < machine.nextEvent) :
    (machine.stepCycles cycles).nextEvent = machine.nextEvent - cycles := by
  have still := sends_stepCycles short
  have clock : (machine.stepCycles cycles).busCycles = machine.busCycles + cycles := rfl
  unfold nextEvent at short ⊢
  rw [clock]
  by_cases busy : machine.sends
  · rw [if_pos busy] at short
    rw [if_pos (still.mpr busy),if_pos busy,stepCycles_of_sends busy (by omega)]
    dsimp only
    omega
  · rw [if_neg busy] at short
    rw [if_neg (still.not.mpr busy),if_neg busy]
    omega

theorem completed_stepCycles (short : cycles < machine.nextEvent) :
    (machine.stepCycles cycles).uart.completedTxEvents = machine.uart.completedTxEvents := by
  by_cases busy : machine.sends
  · unfold nextEvent at short
    rw [if_pos busy] at short
    rw [stepCycles_of_sends busy (by omega)]
  · rw [stepCycles_of_not_sends busy]

theorem stepCycles_add {first second : Nat} (later : 0 < second) (near : first + second ≤ machine.nextEvent) :
    (machine.stepCycles first).stepCycles second = machine.stepCycles (first + second) := by
  have uart : ((machine.stepCycles first).stepCycles second).uart = (machine.stepCycles (first + second)).uart := by
    by_cases busy : machine.sends
    · unfold nextEvent at near
      rw [if_pos busy] at near
      have left : first < machine.uart.txCyclesRemaining := by omega
      have enabled : ¬(machine.control &&& serialControlEnable = 0 ∨ (!machine.uart.txPending) = true) := by
        simpa [sends] using busy
      simp only [stepCycles,Uart.stepCycles,if_neg enabled,if_pos left]
      by_cases whole : first + second < machine.uart.txCyclesRemaining
      · rw [if_pos whole,if_pos (show second < machine.uart.txCyclesRemaining - first by omega),Nat.sub_sub]
      · have last : second - (machine.uart.txCyclesRemaining - first) = first + second - machine.uart.txCyclesRemaining := by
          omega
        rw [if_neg whole,if_neg (show ¬second < machine.uart.txCyclesRemaining - first by omega),last,add_assoc]
    · have still := (sends_stepCycles (show first < machine.nextEvent by omega)).not.mpr busy
      rw [stepCycles_of_not_sends still,stepCycles_of_not_sends busy,stepCycles_of_not_sends busy]
  exact IdleMachine.ext rfl (add_assoc _ _ _) rfl uart

theorem lawful : machines.Lawful where
  step machine := machine.stepCycles_elapsed 1
  advance machine cycles _ _ _ := machine.stepCycles_elapsed cycles
  clock _ _ _ _ _ := rfl
  within _ _ _ _ short := ⟨rfl,nextEvent_stepCycles short,completed_stepCycles short⟩
  additive _ _ _ _ _ later near := stepCycles_add later near
  takeTx_queue _ := rfl
  takeTx_clock _ := rfl
  receive _ _ := ⟨rfl,Uart.receiveByte_completedTxEvents _ _ _⟩
  endFrameService _ := rfl
  setInput _ _ _ := ⟨rfl,rfl⟩
  clearFrameReady _ := ⟨rfl,rfl⟩
  countFrame _ := ⟨rfl,rfl⟩
  drainAudio _ := ⟨rfl,rfl⟩
  hashed machine := ⟨machine.busCycles,rfl⟩
  step_setup _ := rfl
  advance_setup _ _ := rfl
  takeTx_setup _ := rfl
  receive_setup _ _ := rfl
  setInput_setup _ _ _ := rfl
  clearFrameReady_setup _ := rfl
  countFrame_setup _ := rfl
  drainAudio_setup _ := rfl

def fresh : Endpoint → IdleMachine
  | .zero => ⟨0,0,serialControlEnable,{Uart.empty with txData := 0x5A, txPending := true, txCyclesRemaining := 3200},
    fun _ => by decide⟩
  | .one => ⟨1,0,serialControlEnable,.empty,fun pending => by cases pending⟩

end IdleMachine

theorem reachable_exact_fresh : ∃ pair finish log, LinkPair.new IdleMachine.machines 0 IdleMachine.fresh = .ok pair ∧
    World.advanceTo IdleMachine.machines ⟨IdleMachine.fresh,pair⟩ 3200 = (.ok (),finish,log) ∧
    log.flatMap Boundary.handed = [⟨3200,.zero,0,0x5A,9600⟩] ∧ (finish.machines .one).uart.rxData = 0x5A ∧
    Exact IdleMachine.machines ⟨IdleMachine.fresh,pair⟩ :=
  ⟨_,_,_,rfl,Prod.ext (by decide +kernel) rfl,by decide +kernel,by decide +kernel,reachable_exact IdleMachine.lawful rfl .start⟩

end ZeffBoy.Link.WonderSwan.Local
