import ZeffBoy.Rewind.Timeline

/-! The rewind buffer holds what its capacity leaves of its timeline, in every run that keeps its counters in range. -/
namespace ZeffBoy.Rewind
open Library Moment List

namespace RewindBuffer

/-- What a run is asked for: counters below saturation and states below 4 GiB. -/
def Fits (buffer : RewindBuffer) : RewindOperation → Prop
  | .advanceFrames count => buffer.emulatedFrame + count < 2^64
  | .push stateBytes _ => stateBytes.length < 2^32
  | _ => True

def Within (compression : Compression) (buffer : RewindBuffer) : List RewindOperation → Prop
  | [] => True
  | operation::operations => buffer.Fits operation ∧ Within compression (buffer.perform compression operation) operations

instance (buffer : RewindBuffer) : (operation : RewindOperation) → Decidable (buffer.Fits operation)
  | .advanceFrames count => inferInstanceAs (Decidable (buffer.emulatedFrame + count < 2^64))
  | .push stateBytes _ => inferInstanceAs (Decidable (stateBytes.length < 2^32))
  | .popSteps _ => inferInstanceAs (Decidable True)
  | .discardLatest => inferInstanceAs (Decidable True)
  | .clear => inferInstanceAs (Decidable True)

instance decidableWithin (compression : Compression) (buffer : RewindBuffer) :
    (operations : List RewindOperation) → Decidable (buffer.Within compression operations)
  | [] => inferInstanceAs (Decidable True)
  | operation::operations =>
    have := decidableWithin compression (buffer.perform compression operation) operations
    inferInstanceAs (Decidable (buffer.Fits operation ∧ Within compression (buffer.perform compression operation) operations))

def clock (buffer : RewindBuffer) : Nat × Nat × Nat := (buffer.captureInterval,buffer.emulatedFrame,buffer.frameCounter)

def cadence (buffer : RewindBuffer) : List Nat → List Bool
  | [] => []
  | count::counts => (buffer.advanceFrames count).1::cadence (buffer.advanceFrames count).2 counts

end RewindBuffer

/-- The buffer is what its capacity leaves of a timeline. -/
structure Represents (compression : Compression) (start buffer : RewindBuffer) (timeline : Timeline) : Prop where
  capacity : buffer.capacity = start.capacity
  interval : buffer.captureInterval = start.captureInterval
  snapshots : buffer.snapshots =
    (snapshotsOf compression start.captureInterval timeline.moments).take (timeline.held start.capacity)
  emulatedFrame : buffer.emulatedFrame = elapsed timeline.moments
  frameCounter : buffer.frameCounter = elapsed timeline.moments % start.captureInterval
  word : elapsed timeline.moments < 2^64
  small : ∀ capture ∈ captures timeline.moments, capture.1.length < 2^32
  peak : timeline.live ≤ timeline.peak
  evicted : timeline.peak - start.capacity ≤ timeline.live

theorem RewindBuffer.advanceFrames_eq (buffer : RewindBuffer) (count : Nat) (emulated : buffer.emulatedFrame + count < 2^64)
    (phase : buffer.frameCounter ≤ buffer.emulatedFrame) : (buffer.advanceFrames count).2 = { buffer with
      emulatedFrame := buffer.emulatedFrame + count
      frameCounter := (buffer.frameCounter + count) % buffer.captureInterval } := by
  have sum : saturatingAdd buffer.emulatedFrame count = buffer.emulatedFrame + count := min_eq_left (by omega)
  have counted : saturatingAdd buffer.frameCounter count = buffer.frameCounter + count := min_eq_left (by omega)
  unfold advanceFrames
  rw [sum,counted]
  dsimp only
  split
  · rfl
  · rename_i early
    rw [Nat.mod_eq_of_lt (not_le.mp early)]

theorem popBack_found (steps : Nat) (positive : 0 < steps) (snapshots : List RewindSnapshot) :
    (RewindBuffer.popBack none steps snapshots).1 = snapshots[min steps snapshots.length - 1]? := by
  rw [popBack_eq,Option.or_none,List.getLast?_eq_getElem?,length_take]
  by_cases empty : snapshots = []
  · simp [empty]
  · have some_ := length_pos_of_ne_nil empty
    rw [List.getElem?_take_of_lt (by omega)]

section
variable {compression : Compression} {start buffer : RewindBuffer} {timeline : Timeline}

namespace Represents

theorem length_snapshots (represents : Represents compression start buffer timeline) :
    buffer.snapshots.length = timeline.held start.capacity := by
  rw [represents.snapshots,length_take,length_snapshotsOf]
  exact min_eq_left (Nat.sub_le _ _)

theorem advanceFrames (represents : Represents compression start buffer timeline) (count : Nat)
    (fits : buffer.Fits (.advanceFrames count)) : Represents compression start (buffer.advanceFrames count).2
      (timeline.perform start.capacity (.advanceFrames count)) := by
  have phase : buffer.frameCounter ≤ buffer.emulatedFrame := by
    rw [represents.frameCounter,represents.emulatedFrame]
    exact Nat.mod_le _ _
  have word : buffer.emulatedFrame + count < 2^64 := fits
  rw [buffer.advanceFrames_eq count word phase]
  refine ⟨represents.capacity,represents.interval,represents.snapshots,?_,?_,?_,represents.small,represents.peak,
    represents.evicted⟩
  · exact congrArg (· + count) represents.emulatedFrame
  · change (buffer.frameCounter + count) % buffer.captureInterval = (elapsed timeline.moments + count) % start.captureInterval
    rw [represents.frameCounter,represents.interval,Nat.mod_add_mod]
  · change elapsed timeline.moments + count < 2^64
    rwa [← represents.emulatedFrame]

theorem push (represents : Represents compression start buffer timeline) (stateBytes framebuffer : Bytes)
    (fits : buffer.Fits (.push stateBytes framebuffer)) : Represents compression start
      (buffer.push compression stateBytes framebuffer) (timeline.perform start.capacity (.push stateBytes framebuffer)) := by
  have small : ∀ capture ∈ (stateBytes,framebuffer)::captures timeline.moments, capture.1.length < 2^32 :=
    forall_mem_cons.mpr ⟨fits,represents.small⟩
  have held := represents.length_snapshots
  have capacity := represents.capacity
  have live : (captures timeline.moments).length = timeline.live := rfl
  have peak := represents.peak
  have evicted := represents.evicted
  have grown : Timeline.held start.capacity (timeline.perform start.capacity (.push stateBytes framebuffer)) =
      timeline.live + 1 - (max timeline.peak (timeline.live + 1) - start.capacity) := rfl
  rw [Timeline.held] at held
  unfold RewindBuffer.push
  split
  · rename_i none_
    refine ⟨capacity,represents.interval,?_,represents.emulatedFrame,represents.frameCounter,represents.word,small,?_,?_⟩
    · rw [grown,take_eq_nil_iff.mpr (.inl (by omega))]
      exact eq_nil_of_length_eq_zero (by omega)
    · exact le_max_right _ _
    · change max timeline.peak (timeline.live + 1) - start.capacity ≤ timeline.live + 1
      omega
  · rename_i room
    refine ⟨capacity,represents.interval,?_,represents.emulatedFrame,represents.frameCounter,represents.word,small,?_,?_⟩
    · have snapshot : RewindSnapshot.compress compression stateBytes framebuffer buffer.emulatedFrame buffer.frameCounter =
          .compress compression stateBytes framebuffer (elapsed timeline.moments)
            (elapsed timeline.moments % start.captureInterval) := by
        rw [represents.emulatedFrame,represents.frameCounter]
      change _::_ = List.take _ (_::snapshotsOf compression start.captureInterval timeline.moments)
      have more : timeline.live + 1 - (max timeline.peak (timeline.live + 1) - start.capacity) =
          timeline.live - (max timeline.peak (timeline.live + 1) - start.capacity) + 1 := by omega
      rw [grown,more,take_succ_cons,snapshot]
      congr 1
      split
      · rename_i full
        rw [represents.snapshots,dropLast_eq_take,length_take,length_snapshotsOf,take_take,live,Timeline.held]
        congr 1
        omega
      · rename_i free
        rw [represents.snapshots,Timeline.held]
        congr 1
        omega
    · exact le_max_right _ _
    · change max timeline.peak (timeline.live + 1) - start.capacity ≤ timeline.live + 1
      omega

theorem undone (represents : Represents compression start buffer timeline) (moments : List Moment) (count : Nat)
    (inside : count ≤ timeline.held start.capacity)
    (snapshots : snapshotsOf compression start.captureInterval moments =
      (snapshotsOf compression start.captureInterval timeline.moments).drop count)
    (captured : captures moments = (captures timeline.moments).drop count) (past : elapsed moments ≤ elapsed timeline.moments) :
    Represents compression start { buffer with
        snapshots := buffer.snapshots.drop count
        emulatedFrame := elapsed moments
        frameCounter := elapsed moments % start.captureInterval } ⟨moments,timeline.peak⟩ := by
  have live : Timeline.live ⟨moments,timeline.peak⟩ = timeline.live - count := by
    rw [Timeline.live,captured,length_drop,Timeline.live]
  have held : Timeline.held start.capacity ⟨moments,timeline.peak⟩ = timeline.held start.capacity - count := by
    rw [Timeline.held,Timeline.held,live]
    exact Nat.sub_right_comm _ _ _
  have peak := represents.peak
  have evicted := represents.evicted
  rw [Timeline.held] at inside
  refine ⟨represents.capacity,represents.interval,?_,rfl,rfl,past.trans_lt represents.word,?_,?_,?_⟩
  · change buffer.snapshots.drop count = _
    rw [held,snapshots,represents.snapshots,drop_take]
  · rw [captured]
    exact fun capture member => represents.small capture (mem_of_mem_drop member)
  · rw [live]
    exact (Nat.sub_le _ _).trans peak
  · rw [live]
    change timeline.peak - start.capacity ≤ _
    omega

theorem discardLatest (represents : Represents compression start buffer timeline) :
    Represents compression start buffer.discardLatest (timeline.perform start.capacity .discardLatest) := by
  unfold Timeline.perform
  dsimp only
  split
  · rename_i some_
    have forgotten := represents.undone (forget timeline.moments) 1 some_
      (by rw [snapshotsOf_forget,drop_one]) (by rw [captures_forget,drop_one]) (elapsed_forget _).le
    rw [elapsed_forget,drop_one,← represents.frameCounter,← represents.emulatedFrame] at forgotten
    exact forgotten
  · rename_i empty
    have none_ : buffer.snapshots = [] := by
      rw [represents.snapshots,Nat.le_zero.mp (not_lt.mp empty),take_zero]
    have unchanged : buffer.discardLatest = buffer := by
      rw [RewindBuffer.discardLatest,none_]
      change { buffer with snapshots := [] } = buffer
      rw [← none_]
    rwa [unchanged]

theorem clear (represents : Represents compression start buffer timeline) :
    Represents compression start buffer.clear (timeline.perform start.capacity .clear) := by
  have none_ : 0 - start.capacity ≤ 0 := (Nat.zero_sub _).le
  exact ⟨represents.capacity,represents.interval,take_nil.symm,rfl,(Nat.zero_mod _).symm,Nat.two_pow_pos 64,
    by simp [Timeline.perform,captures],Nat.le_refl 0,none_⟩

theorem popSteps (represents : Represents compression start buffer timeline) (steps : Nat) :
    (timeline.held start.capacity = 0 ∧ buffer.popSteps compression steps = (none,buffer) ∧
        timeline.perform start.capacity (.popSteps steps) = timeline) ∨
      ∃ stateBytes framebuffer snapshot, 0 < timeline.held start.capacity ∧
        buffer.snapshots[timeline.reached start.capacity steps - 1]? = some snapshot ∧
        (captures timeline.moments)[timeline.reached start.capacity steps - 1]? = some (stateBytes,framebuffer) ∧
        snapshot = .compress compression stateBytes framebuffer
          (elapsed (before (timeline.reached start.capacity steps) timeline.moments))
          (elapsed (before (timeline.reached start.capacity steps) timeline.moments) % start.captureInterval) ∧
        buffer.popSteps compression steps =
          ((snapshot.decompress compression).map fun frame => { frame with
              rewoundFrames := buffer.emulatedFrame - snapshot.emulatedFrame },
            { buffer with
              snapshots := buffer.snapshots.drop (timeline.reached start.capacity steps)
              emulatedFrame := snapshot.emulatedFrame
              frameCounter := snapshot.capturePhase }) := by
  have length := represents.length_snapshots
  have found := popBack_found (max steps 1) (by omega) buffer.snapshots
  have left : (RewindBuffer.popBack none (max steps 1) buffer.snapshots).2 =
      buffer.snapshots.drop (timeline.reached start.capacity steps) := by
    rw [popBack_eq]
    change buffer.snapshots.drop (max steps 1) = buffer.snapshots.drop (min (max steps 1) _)
    rw [← length]
    rcases Nat.le_total (max steps 1) buffer.snapshots.length with enough | few
    · rw [min_eq_left enough]
    · rw [min_eq_right few,drop_length,drop_eq_nil_of_le few]
  rw [length] at found
  change _ = buffer.snapshots[timeline.reached start.capacity steps - 1]? at found
  rcases Nat.eq_zero_or_pos (timeline.held start.capacity) with empty | some_
  · refine .inl ⟨empty,?_,?_⟩
    · have none_ : buffer.snapshots = [] := eq_nil_of_length_eq_zero (length.trans empty)
      rw [RewindBuffer.popSteps,popBack_eq,none_]
      simp only [take_nil,List.getLast?_nil,Option.or_none,drop_nil]
      rw [← none_]
    · have zero : timeline.reached start.capacity steps = 0 := by
        rw [Timeline.reached,empty,Nat.min_zero]
      rw [Timeline.perform,zero,before_zero]
  · have positive : 0 < timeline.reached start.capacity steps := lt_min (by omega) some_
    have inside : timeline.reached start.capacity steps ≤ timeline.held start.capacity := min_le_right _ _
    obtain ⟨snapshot,taken⟩ : ∃ snapshot, buffer.snapshots[timeline.reached start.capacity steps - 1]? = some snapshot :=
      ⟨_,List.getElem?_eq_getElem (by omega)⟩
    have original := taken
    rw [represents.snapshots,List.getElem?_take_of_lt (by omega)] at original
    obtain ⟨stateBytes,framebuffer,captured,built⟩ := getElem?_snapshotsOf _ _ _ _ _ original
    rw [Nat.sub_add_cancel positive] at built
    refine .inr ⟨stateBytes,framebuffer,snapshot,some_,taken,captured,built,?_⟩
    rw [taken] at found
    rw [RewindBuffer.popSteps]
    dsimp only
    rw [found,left]

theorem perform (represents : Represents compression start buffer timeline) (operation : RewindOperation)
    (fits : buffer.Fits operation) :
    Represents compression start (buffer.perform compression operation) (timeline.perform start.capacity operation) := by
  cases operation with
  | advanceFrames count => exact represents.advanceFrames count fits
  | push stateBytes framebuffer => exact represents.push stateBytes framebuffer fits
  | popSteps steps =>
    change Represents compression start (buffer.popSteps compression steps).2 _
    rcases represents.popSteps steps with ⟨_,none_,same⟩ | ⟨_,_,snapshot,_,_,_,built,popped⟩
    · rwa [none_,same]
    · rw [popped,built]
      exact represents.undone _ _ (min_le_right _ _) (snapshotsOf_before _ _ _ _) (captures_before _ _)
        (elapsed_before_le _ _)
  | discardLatest => exact represents.discardLatest
  | clear => exact represents.clear

theorem run (represents : Represents compression start buffer timeline) (operations : List RewindOperation)
    (within : buffer.Within compression operations) : Represents compression start (buffer.run compression operations)
      (operations.foldl (Timeline.perform start.capacity) timeline) := by
  induction operations generalizing buffer timeline with
  | nil => exact represents
  | cons operation operations ih => exact ih (represents.perform operation within.1) within.2

end Represents

end

theorem RewindSnapshot.decompress_compress (compression : Compression)
    (lossless : ∀ bytes, compression.decompressSizePrepended (compression.compressPrependSize bytes) = some bytes)
    (stateBytes framebuffer : Bytes) (small : stateBytes.length < 2^32) (emulatedFrame capturePhase : Nat) :
    (compress compression stateBytes framebuffer emulatedFrame capturePhase).decompress compression =
      some ⟨stateBytes,framebuffer,0⟩ := by
  have split : (UInt32.ofNat stateBytes.length).toNat = stateBytes.length := UInt32.toNat_ofNat_of_lt' small
  have whole : ¬(stateBytes ++ framebuffer).length < stateBytes.length := by
    rw [length_append]
    omega
  rw [decompress,compress,lossless,Option.bind_eq_bind,Option.bind_some]
  dsimp only
  rw [split,if_neg whole,take_left,drop_left]

theorem decompress_snapshotsOf (compression : Compression)
    (lossless : ∀ bytes, compression.decompressSizePrepended (compression.compressPrependSize bytes) = some bytes)
    (interval : Nat) (moments : List Moment) (small : ∀ capture ∈ captures moments, capture.1.length < 2^32) :
    (snapshotsOf compression interval moments).map (RewindSnapshot.decompress compression) =
      (captures moments).map (fun capture => some ⟨capture.1,capture.2,0⟩) := by
  induction moments with
  | nil => rfl
  | cons moment moments ih =>
    cases moment with
    | frames count => exact ih small
    | capture stateBytes framebuffer =>
      obtain ⟨head,tail⟩ := forall_mem_cons.mp small
      rw [snapshotsOf,captures,map_cons,map_cons,ih tail,
        RewindSnapshot.decompress_compress compression lossless stateBytes framebuffer head]

namespace RewindBuffer

def replay (compression : Compression) (start : RewindBuffer) (moments : List Moment) : RewindBuffer :=
  start.run compression (moments.reverse.map Moment.operation)

theorem push_clock (compression : Compression) (buffer : RewindBuffer) (stateBytes framebuffer : Bytes) :
    (buffer.push compression stateBytes framebuffer).clock = buffer.clock := by
  unfold push
  split <;> rfl

theorem replay_clock (compression : Compression) (start : RewindBuffer) (fresh : start.emulatedFrame = 0)
    (phase : start.frameCounter = 0) (moments : List Moment) (word : elapsed moments < 2^64) :
    (replay compression start moments).clock =
      (start.captureInterval,elapsed moments,elapsed moments % start.captureInterval) := by
  induction moments with
  | nil =>
    change (start.captureInterval,start.emulatedFrame,start.frameCounter) = _
    rw [fresh,phase,elapsed,Nat.zero_mod]
  | cons moment moments ih =>
    have last : replay compression start (moment::moments) =
        (replay compression start moments).perform compression moment.operation := by
      rw [replay,reverse_cons,map_append,run,foldl_append]
      rfl
    rw [last]
    cases moment with
    | frames count =>
      have before : elapsed moments < 2^64 := (Nat.le_add_right _ _).trans_lt word
      obtain ⟨interval,times⟩ := Prod.mk.inj (ih before)
      obtain ⟨emulated,counter⟩ := Prod.mk.inj times
      change ((replay compression start moments).advanceFrames count).2.clock = _
      rw [advanceFrames_eq _ count (by rw [emulated]; exact word) (by rw [emulated,counter]; exact Nat.mod_le _ _)]
      rw [clock,interval,emulated,counter,Nat.mod_add_mod,elapsed]
    | capture stateBytes framebuffer => exact (push_clock _ _ _ _).trans (ih word)

theorem cadence_of_clock (left right : RewindBuffer) (same : left.clock = right.clock) (counts : List Nat) :
    left.cadence counts = right.cadence counts := by
  induction counts generalizing left right with
  | nil => rfl
  | cons count counts ih =>
    obtain ⟨interval,times⟩ := Prod.mk.inj same
    obtain ⟨emulated,counter⟩ := Prod.mk.inj times
    have due : (left.advanceFrames count).1 = (right.advanceFrames count).1 ∧
        (left.advanceFrames count).2.clock = (right.advanceFrames count).2.clock := by
      unfold advanceFrames
      rw [interval,emulated,counter]
      dsimp only
      split <;> exact ⟨rfl,rfl⟩
    rw [cadence,cadence,due.1,ih _ _ due.2]

/-- In every run the buffer is a stack of the latest captures that were not undone, less those that were evicted,
each with its frames. A rewind returns the capture it reaches and how long ago it was, and leaves the clock and the
cadence of a buffer to which only what came before that capture has happened. -/
theorem rewind_runs_exact (compression : Compression)
    (lossless : ∀ bytes, compression.decompressSizePrepended (compression.compressPrependSize bytes) = some bytes)
    (seconds captureInterval frameDurationNs : Nat) (operations : List RewindOperation)
    (within : (newWithFrameDuration seconds captureInterval frameDurationNs).Within compression operations) :
    let start := newWithFrameDuration seconds captureInterval frameDurationNs
    let buffer := start.run compression operations
    let timeline := Timeline.run start.capacity operations
    buffer.snapshots.length = timeline.held start.capacity ∧
      buffer.snapshots.map (RewindSnapshot.decompress compression) =
        ((captures timeline.moments).take (timeline.held start.capacity)).map
          (fun capture => some ⟨capture.1,capture.2,0⟩) ∧
      timeline.held start.capacity ≤ start.capacity ∧
      (timeline.peak ≤ start.capacity ∨ timeline.live = timeline.peak →
        timeline.held start.capacity = min start.capacity timeline.live) ∧
      buffer.snapshots.Pairwise (fun newer older => older.emulatedFrame ≤ newer.emulatedFrame) ∧
      (∀ snapshot ∈ buffer.snapshots, snapshot.emulatedFrame ≤ buffer.emulatedFrame) ∧
      buffer.emulatedFrame = elapsed timeline.moments ∧
      ∀ steps, (buffer.snapshots = [] → buffer.popSteps compression steps = (none,buffer)) ∧
        (buffer.snapshots ≠ [] → ∃ frame snapshot popped, buffer.popSteps compression steps = (some frame,popped) ∧
          let reached := min (max steps 1) buffer.snapshots.length
          buffer.snapshots[reached - 1]? = some snapshot ∧
            (captures timeline.moments)[reached - 1]? = some (frame.stateBytes,frame.framebuffer) ∧
            frame.rewoundFrames + elapsed (before reached timeline.moments) = elapsed timeline.moments ∧
            popped.snapshots = buffer.snapshots.drop reached ∧ popped.frameCounter = snapshot.capturePhase ∧
            popped.clock = (replay compression start (before reached timeline.moments)).clock ∧
            ∀ counts, popped.cadence counts = (replay compression start (before reached timeline.moments)).cadence counts) := by
  intro start buffer timeline
  have fresh : Represents compression start start {} :=
    ⟨rfl,rfl,take_nil.symm,rfl,(Nat.zero_mod _).symm,Nat.two_pow_pos 64,(fun _ absent => nomatch absent),Nat.le_refl 0,
      (Nat.zero_sub _).le⟩
  have represents : Represents compression start buffer timeline := fresh.run operations within
  obtain ⟨ordered,past⟩ := snapshotsOf_ordered compression start.captureInterval timeline.moments
  have length := represents.length_snapshots
  have peak := represents.peak
  refine ⟨length,?_,?_,?_,?_,?_,represents.emulatedFrame,?_⟩
  · rw [represents.snapshots,map_take,decompress_snapshotsOf compression lossless _ _ represents.small,← map_take]
  · rw [Timeline.held]
    omega
  · rw [Timeline.held]
    omega
  · rw [represents.snapshots]
    exact ordered.sublist (take_sublist _ _)
  · rw [represents.snapshots,represents.emulatedFrame]
    exact fun snapshot member => past snapshot (mem_of_mem_take member)
  intro steps
  rw [length]
  rcases represents.popSteps steps with ⟨empty,none_,_⟩ | ⟨stateBytes,framebuffer,snapshot,some_,taken,captured,built,popped⟩
  · exact ⟨fun _ => none_,fun more => absurd (eq_nil_of_length_eq_zero (length.trans empty)) more⟩
  · refine ⟨fun empty => ?_,fun _ => ?_⟩
    · rw [empty,length_nil] at length
      omega
    have small := represents.small _ (List.mem_of_getElem? captured)
    have frame := RewindSnapshot.decompress_compress compression lossless stateBytes framebuffer small
      (elapsed (before (timeline.reached start.capacity steps) timeline.moments))
      (elapsed (before (timeline.reached start.capacity steps) timeline.moments) % start.captureInterval)
    rw [← built] at frame
    rw [frame,Option.map_some] at popped
    have earlier := elapsed_before_le (timeline.reached start.capacity steps) timeline.moments
    have clock : (buffer.popSteps compression steps).2.clock =
        (replay compression start (before (timeline.reached start.capacity steps) timeline.moments)).clock := by
      rw [replay_clock compression start rfl rfl _ (earlier.trans_lt represents.word),popped,built,clock,represents.interval]
      rfl
    rw [popped] at clock
    refine ⟨_,snapshot,_,popped,taken,captured,?_,rfl,rfl,clock,cadence_of_clock _ _ clock⟩
    rw [represents.emulatedFrame,built]
    exact Nat.sub_add_cancel earlier

def stored : Compression := ⟨id,some⟩

/-- Two captures, a rewind to the first of them, and what happens then. -/
theorem rewind_runs_exact_stored : ∃ frame popped,
    (run stored (newWithFrameDuration 10 4 16666667) [.advanceFrames 5,.push [5] [],.advanceFrames 7,.push [12] [],
      .advanceFrames 2]).popSteps stored 2 = (some frame,popped) ∧
      frame.stateBytes = [5] ∧ frame.rewoundFrames = 9 ∧ popped.cadence [2,1] = [false,true] := by
  obtain ⟨_,_,_,_,_,_,_,pops⟩ := rewind_runs_exact stored (fun _ => rfl) 10 4 16666667
    [.advanceFrames 5,.push [5] [],.advanceFrames 7,.push [12] [],.advanceFrames 2]
    (by decide)
  obtain ⟨frame,_,popped,popped_,_,captured,rewound,_,_,_,cadence⟩ := (pops 2).2 (by decide)
  refine ⟨frame,popped,popped_,?_,?_,?_⟩
  · exact ((Prod.mk.inj (Option.some.inj captured)).1).symm
  · exact Nat.add_right_cancel rewound
  · exact cadence [2,1]

/-- A snapshot that was evicted does not come back when a newer one is popped: two captures are left on the timeline,
there is room for two, and one is held. -/
theorem run_evicted :
    let start := newWithFrameDuration 2 1 1000000000
    let operations := [.push [1] [],.push [2] [],.push [3] [],.popSteps 1]
    start.capacity = 2 ∧ captures (Timeline.run 2 operations).moments = [([2],[]),([1],[])] ∧
      (start.run stored operations).snapshots.map (RewindSnapshot.decompress stored) = [some ⟨[2],[],0⟩] := by
  decide

end RewindBuffer

end ZeffBoy.Rewind
