import ZeffBoy.Tas.BranchDiff
import ZeffBoy.Tas.Impacts

/-! Branch diffs are exact.
Each walk offers its hunks in order and ends a run of hunks where the branches agree. What
is proved of a walk that starts with a pending hunk follows the rounds of the walk. -/
namespace ZeffBoy.Tas
open Library Replay Spans List

def TasInputDiffHunk.stop (hunk : TasInputDiffHunk) : Nat := hunk.start + hunk.length

/-- Hunks of the frames from a cursor on: the inputs agree in front of each hunk, and a hunk ends where its
pair of inputs does. -/
def InputHunksFrom (source target : Nat → TasInputFrame) (frameCount cursor : Nat) : List TasInputDiffHunk → Prop
  | [] => ∀ frame, cursor ≤ frame → frame < frameCount → source frame = target frame
  | hunk::hunks =>
    cursor ≤ hunk.start ∧ 0 < hunk.length ∧ hunk.stop ≤ frameCount ∧ hunk.sourceInput ≠ hunk.targetInput ∧
      (∀ frame, cursor ≤ frame → frame < hunk.start → source frame = target frame) ∧
      (∀ frame, hunk.start ≤ frame → frame < hunk.stop →
        hunk.sourceInput = source frame ∧ hunk.targetInput = target frame) ∧
      (hunk.stop < frameCount → (source hunk.stop,target hunk.stop) ≠ (hunk.sourceInput,hunk.targetInput)) ∧
      InputHunksFrom source target frameCount hunk.stop hunks

/-- The hunks of two timelines: sorted and disjoint, exactly where the inputs differ, with both inputs, and
none of them could be longer. -/
structure InputHunks (source target : Nat → TasInputFrame) (frameCount : Nat) (hunks : List TasInputDiffHunk) : Prop where
  filled : ∀ hunk ∈ hunks, 0 < hunk.length ∧ hunk.stop ≤ frameCount
  sorted : hunks.Pairwise (fun left right => left.stop ≤ right.start)
  covered : ∀ frame < frameCount, (∃ hunk ∈ hunks, hunk.start ≤ frame ∧ frame < hunk.stop) ↔ source frame ≠ target frame
  carried : ∀ hunk ∈ hunks, ∀ frame, hunk.start ≤ frame → frame < hunk.stop →
    hunk.sourceInput = source frame ∧ hunk.targetInput = target frame
  maximal : ∀ hunk ∈ hunks,
    (0 < hunk.start → (source (hunk.start - 1),target (hunk.start - 1)) ≠ (hunk.sourceInput,hunk.targetInput)) ∧
    (hunk.stop < frameCount → (source hunk.stop,target hunk.stop) ≠ (hunk.sourceInput,hunk.targetInput))

namespace InputHunksFrom
variable {source target : Nat → TasInputFrame} {frameCount cursor : Nat} {hunks : List TasInputDiffHunk}

theorem bounds (from_ : InputHunksFrom source target frameCount cursor hunks) : ∀ hunk ∈ hunks,
    cursor ≤ hunk.start ∧ 0 < hunk.length ∧ hunk.stop ≤ frameCount ∧ hunk.sourceInput ≠ hunk.targetInput := by
  induction hunks generalizing cursor with
  | nil => exact fun _ member => nomatch member
  | cons hunk hunks ih =>
    obtain ⟨begun,filled,stop,differ,_,_,_,rest⟩ := from_
    refine forall_mem_cons.mpr ⟨⟨begun,filled,stop,differ⟩,fun other member => ?_⟩
    obtain ⟨after,facts⟩ := ih rest other member
    exact ⟨begun.trans ((Nat.le_add_right _ _).trans after),facts⟩

theorem sorted (from_ : InputHunksFrom source target frameCount cursor hunks) :
    hunks.Pairwise (fun left right => left.stop ≤ right.start) := by
  induction hunks generalizing cursor with
  | nil => exact List.Pairwise.nil
  | cons hunk hunks ih =>
    obtain ⟨_,_,_,_,_,_,_,rest⟩ := from_
    exact pairwise_cons.mpr ⟨fun other member => (rest.bounds other member).1,ih rest⟩

theorem carried (from_ : InputHunksFrom source target frameCount cursor hunks) : ∀ hunk ∈ hunks,
    ∀ frame, hunk.start ≤ frame → frame < hunk.stop →
      hunk.sourceInput = source frame ∧ hunk.targetInput = target frame := by
  induction hunks generalizing cursor with
  | nil => exact fun _ member => nomatch member
  | cons hunk hunks ih =>
    obtain ⟨_,_,_,_,_,carried,_,rest⟩ := from_
    exact forall_mem_cons.mpr ⟨carried,ih rest⟩

theorem covered (from_ : InputHunksFrom source target frameCount cursor hunks) (frame : Nat) (reached : cursor ≤ frame)
    (below : frame < frameCount) (differ : source frame ≠ target frame) :
    ∃ hunk ∈ hunks, hunk.start ≤ frame ∧ frame < hunk.stop := by
  induction hunks generalizing cursor with
  | nil => exact absurd (from_ frame reached below) differ
  | cons hunk hunks ih =>
    obtain ⟨_,_,_,_,agree,_,_,rest⟩ := from_
    rcases lt_or_ge frame hunk.start with before | begun
    · exact absurd (agree frame reached before) differ
    · rcases lt_or_ge frame hunk.stop with short | past
      · exact ⟨hunk,mem_cons_self,begun,short⟩
      · obtain ⟨other,member,inside⟩ := ih rest past
        exact ⟨other,mem_cons_of_mem _ member,inside⟩

theorem ends (from_ : InputHunksFrom source target frameCount cursor hunks) : ∀ hunk ∈ hunks,
    hunk.stop < frameCount → (source hunk.stop,target hunk.stop) ≠ (hunk.sourceInput,hunk.targetInput) := by
  induction hunks generalizing cursor with
  | nil => exact fun _ member => nomatch member
  | cons hunk hunks ih =>
    obtain ⟨_,_,_,_,_,_,ends,rest⟩ := from_
    exact forall_mem_cons.mpr ⟨ends,ih rest⟩

theorem begins (from_ : InputHunksFrom source target frameCount cursor hunks)
    (fresh : ∀ hunk ∈ hunks.head?, 0 < cursor → hunk.start = cursor →
      (source (cursor - 1),target (cursor - 1)) ≠ (hunk.sourceInput,hunk.targetInput)) :
    ∀ hunk ∈ hunks, 0 < hunk.start →
      (source (hunk.start - 1),target (hunk.start - 1)) ≠ (hunk.sourceInput,hunk.targetInput) := by
  induction hunks generalizing cursor with
  | nil => exact fun _ member => nomatch member
  | cons hunk hunks ih =>
    obtain ⟨begun,filled,stop,differ,agree,carried,ends,rest⟩ := from_
    have last := carried (hunk.stop - 1) (by rw [TasInputDiffHunk.stop]; omega) (by rw [TasInputDiffHunk.stop]; omega)
    refine forall_mem_cons.mpr ⟨fun positive same => ?_,ih rest ?_⟩
    · rcases Nat.eq_or_lt_of_le begun with first | apart
      · rw [← first] at positive same
        exact fresh hunk rfl positive first.symm same
      · have quiet := agree (hunk.start - 1) (by omega) (by omega)
        obtain ⟨left,right⟩ := Prod.mk.inj same
        exact differ (left.symm.trans (quiet.trans right))
    · intro next head positive touching same
      cases hunks with
      | nil => nomatch head
      | cons other hunks =>
        obtain rfl := Option.some.inj head
        obtain ⟨_,filledNext,stopNext,_,_,carriedNext,_,_⟩ := rest
        have here := carriedNext hunk.stop (le_of_eq touching) (by
          rw [TasInputDiffHunk.stop] at touching ⊢
          rw [TasInputDiffHunk.stop]
          omega)
        have inside : hunk.stop < frameCount := by
          simp only [TasInputDiffHunk.stop] at stopNext touching ⊢
          omega
        obtain ⟨left,right⟩ := Prod.mk.inj same
        refine ends inside ?_
        rw [← here.1,← here.2,← left,← right,last.1,last.2]

theorem exact (from_ : InputHunksFrom source target frameCount 0 hunks) : InputHunks source target frameCount hunks where
  filled := fun hunk member => ⟨(from_.bounds hunk member).2.1,(from_.bounds hunk member).2.2.1⟩
  sorted := from_.sorted
  covered := by
    intro frame below
    refine ⟨?_,from_.covered frame zero_le below⟩
    rintro ⟨hunk,member,begun,before⟩ same
    obtain ⟨left,right⟩ := from_.carried hunk member frame begun before
    exact (from_.bounds hunk member).2.2.2 (left.trans (same.trans right.symm))
  carried := from_.carried
  maximal := fun hunk member =>
    ⟨from_.begins (fun _ _ positive => absurd positive (lt_irrefl 0)) hunk member,from_.ends hunk member⟩

end InputHunksFrom

theorem inputSegment_reads (spans : List TasInputSpan) (cursor frameCount : Nat) :
    (∀ frame, cursor ≤ frame → frame < (inputSegment spans cursor frameCount).2.2 →
      valueAt {} spans frame = (inputSegment spans cursor frameCount).2.1) ∧
    (∀ frame, cursor ≤ frame → valueAt {} (inputSegment spans cursor frameCount).1 frame = valueAt {} spans frame) ∧
    (inputSegment spans cursor frameCount).2.2 ≤ frameCount := by
  have same : ∀ frame, cursor ≤ frame → valueAt {} spans frame =
      valueAt {} (spans.dropWhile (fun span => span.start + span.length ≤ cursor)) frame :=
    fun frame later => (valueAt_dropWhile spans cursor frame later).symm
  unfold inputSegment
  split
  · rename_i dropped
    have rest := fun frame later => (same frame later).trans (congrArg (valueAt {} · frame) dropped)
    exact ⟨fun frame later _ => rest frame later,fun frame later => (rest frame later).symm,le_rfl⟩
  · rename_i span behind dropped
    have rest := fun frame later => (same frame later).trans (congrArg (valueAt {} · frame) dropped)
    split
    · rename_i begun
      refine ⟨fun frame later before => ?_,fun frame later => (rest frame later).symm,min_le_right _ _⟩
      rw [rest frame later]
      exact valueAt_cons_covers span behind frame ⟨begun.trans later,lt_of_lt_of_le before (min_le_left _ _)⟩
    · refine ⟨fun frame later before => ?_,fun frame later => (rest frame later).symm,min_le_right _ _⟩
      rw [rest frame later]
      exact valueAt_cons_before span behind frame (lt_of_lt_of_le before (min_le_left _ _))

/-- The hunks that the walk over the inputs offers. -/
def inputSteps (frameCount : Nat) (source target : List TasInputSpan) (cursor : Nat) : List (Option TasInputDiffHunk) :=
  if _inside : cursor < frameCount then
    let left := inputSegment source cursor frameCount
    let right := inputSegment target cursor frameCount
    let stop := min left.2.2 right.2.2
    (if left.2.1 = right.2.1 then none else some ⟨cursor,stop - cursor,left.2.1,right.2.1⟩)::
      inputSteps frameCount left.1 right.1 stop
  else []
termination_by frameCount - cursor
decreasing_by
  have later := inputSegment_later source cursor frameCount _inside
  have sooner := inputSegment_later target cursor frameCount _inside
  omega

theorem diffInputsFrom_eq (maxHunks frameCount : Nat) (source target : List TasInputSpan) (cursor : Nat)
    (collected : Collected TasInputDiffHunk) : diffInputsFrom maxHunks frameCount source target cursor collected =
      (inputSteps frameCount source target cursor).foldl (Collected.offer joinInputHunk maxHunks) collected := by
  induction source,target,cursor,collected using diffInputsFrom.induct maxHunks frameCount with
  | case1 source target cursor collected inside left right stop next ih =>
    rw [diffInputsFrom,dif_pos inside,inputSteps,dif_pos inside,foldl_cons]
    refine ih.trans (congrArg (List.foldl _ · _) ?_)
    dsimp only [next]
    split <;> rfl
  | case2 source target cursor collected beyond =>
    rw [diffInputsFrom,dif_neg beyond,inputSteps,dif_neg beyond,foldl_nil]

theorem length_inputSteps (frameCount : Nat) (source target : List TasInputSpan) (cursor : Nat) :
    (inputSteps frameCount source target cursor).length ≤ frameCount - cursor := by
  induction source,target,cursor using inputSteps.induct frameCount with
  | case1 source target cursor inside left right stop ih =>
    have later := inputSegment_later source cursor frameCount inside
    have sooner := inputSegment_later target cursor frameCount inside
    have rest : (inputSteps frameCount (inputSegment source cursor frameCount).1 (inputSegment target cursor frameCount).1
        (min (inputSegment source cursor frameCount).2.2 (inputSegment target cursor frameCount).2.2)).length ≤
        frameCount - min (inputSegment source cursor frameCount).2.2 (inputSegment target cursor frameCount).2.2 := ih
    rw [inputSteps,dif_pos inside,length_cons]
    omega
  | case2 source target cursor beyond =>
    rw [inputSteps,dif_neg beyond]
    exact Nat.zero_le _

/-- What the walk has behind it: an agreement since the last hunk, and the pending hunk up to the cursor. -/
def PendingInput (source target : Nat → TasInputFrame) (last cursor : Nat) : Option TasInputDiffHunk → Prop
  | none => last ≤ cursor ∧ ∀ frame, last ≤ frame → frame < cursor → source frame = target frame
  | some hunk =>
    last ≤ hunk.start ∧ 0 < hunk.length ∧ hunk.stop = cursor ∧ hunk.sourceInput ≠ hunk.targetInput ∧
      (∀ frame, last ≤ frame → frame < hunk.start → source frame = target frame) ∧
      ∀ frame, hunk.start ≤ frame → frame < cursor → hunk.sourceInput = source frame ∧ hunk.targetInput = target frame

theorem inputHunksFrom_finished (frameCount : Nat) (readSource readTarget : Nat → TasInputFrame)
    (source target : List TasInputSpan) (cursor last : Nat) (pending : Option TasInputDiffHunk)
    (within : cursor ≤ frameCount)
    (sourceReads : ∀ frame, cursor ≤ frame → valueAt {} source frame = readSource frame)
    (targetReads : ∀ frame, cursor ≤ frame → valueAt {} target frame = readTarget frame)
    (behind : PendingInput readSource readTarget last cursor pending) :
    InputHunksFrom readSource readTarget frameCount last
      (Collected.finished joinInputHunk pending (inputSteps frameCount source target cursor)) := by
  induction source,target,cursor using inputSteps.induct frameCount generalizing last pending with
  | case1 source target cursor inside left right stop ih =>
    obtain ⟨leftReads,leftRest,leftStop⟩ := inputSegment_reads source cursor frameCount
    obtain ⟨rightReads,rightRest,_⟩ := inputSegment_reads target cursor frameCount
    have moved : cursor < stop :=
      lt_min (inputSegment_later source cursor frameCount inside) (inputSegment_later target cursor frameCount inside)
    have here : ∀ frame, cursor ≤ frame → frame < stop → readSource frame = left.2.1 ∧ readTarget frame = right.2.1 := by
      intro frame later before
      rw [← sourceReads frame later,← targetReads frame later]
      exact ⟨leftReads frame later (lt_of_lt_of_le before (min_le_left _ _)),
        rightReads frame later (lt_of_lt_of_le before (min_le_right _ _))⟩
    have next := fun last pending => ih last pending ((min_le_left _ _).trans leftStop)
      (fun frame later => (leftRest frame ((le_of_lt moved).trans later)).trans
        (sourceReads frame ((le_of_lt moved).trans later)))
      (fun frame later => (rightRest frame ((le_of_lt moved).trans later)).trans
        (targetReads frame ((le_of_lt moved).trans later)))
    rw [inputSteps,dif_pos inside]
    dsimp only
    by_cases alike : left.2.1 = right.2.1
    · have agree : ∀ frame, cursor ≤ frame → frame < stop → readSource frame = readTarget frame := by
        intro frame later before
        obtain ⟨leftHere,rightHere⟩ := here frame later before
        rw [leftHere,rightHere,alike]
      rw [if_pos alike,Collected.finished]
      cases pending with
      | none =>
        refine next last none ⟨behind.1.trans (le_of_lt moved),fun frame later before => ?_⟩
        rcases lt_or_ge frame cursor with earlier | reached
        · exact behind.2 frame later earlier
        · exact agree frame reached before
      | some hunk =>
        obtain ⟨begun,filled,ends,differ,quiet,carried⟩ := behind
        refine ⟨begun,filled,ends ▸ within,differ,quiet,ends ▸ carried,fun _ same => ?_,next hunk.stop none ?_⟩
        · obtain ⟨sameLeft,sameRight⟩ := Prod.mk.inj same
          rw [ends] at sameLeft sameRight
          exact differ (sameLeft.symm.trans ((agree cursor le_rfl moved).trans sameRight))
        · rw [ends]
          exact ⟨le_of_lt moved,agree⟩
    · have fresh : PendingInput readSource readTarget cursor stop (some ⟨cursor,stop - cursor,left.2.1,right.2.1⟩) := by
        refine ⟨le_rfl,by dsimp only; omega,?_,alike,fun frame later before => ?_,fun frame later before => ?_⟩
        · rw [TasInputDiffHunk.stop]
          dsimp only
          omega
        · dsimp only at before
          omega
        · exact ⟨(here frame later before).1.symm,(here frame later before).2.symm⟩
      rw [if_neg alike,Collected.finished]
      cases pending with
      | none =>
        refine next last _ ⟨behind.1,fresh.2.1,fresh.2.2.1,alike,?_,fresh.2.2.2.2.2⟩
        exact behind.2
      | some hunk =>
        obtain ⟨begun,filled,ends,differ,quiet,carried⟩ := behind
        rw [TasInputDiffHunk.stop] at ends
        rw [Option.bind_some,joinInputHunk]
        by_cases continued : hunk.sourceInput = left.2.1 ∧ hunk.targetInput = right.2.1
        · rw [if_pos ⟨ends,continued⟩]
          refine next last _ ⟨begun,Nat.add_pos_left filled _,?_,differ,quiet,fun frame later before => ?_⟩
          · calc hunk.start + (hunk.length + (stop - cursor)) = cursor + (stop - cursor) := by rw [← add_assoc,ends]
              _ = stop := Nat.add_sub_cancel' (le_of_lt moved)
          · rcases lt_or_ge frame cursor with earlier | reached
            · exact carried frame later earlier
            · obtain ⟨leftHere,rightHere⟩ := here frame reached before
              exact ⟨continued.1.trans leftHere.symm,continued.2.trans rightHere.symm⟩
        · rw [if_neg fun all => continued all.2]
          refine ⟨begun,filled,?_,differ,quiet,?_,fun _ same => ?_,next _ _ ?_⟩
          · exact (le_of_eq ends).trans within
          · rw [TasInputDiffHunk.stop,ends]
            exact carried
          · rw [TasInputDiffHunk.stop,ends] at same
            obtain ⟨leftHere,rightHere⟩ := here cursor le_rfl moved
            obtain ⟨sameLeft,sameRight⟩ := Prod.mk.inj same
            exact continued ⟨sameLeft.symm.trans leftHere,sameRight.symm.trans rightHere⟩
          · rw [TasInputDiffHunk.stop,ends]
            exact fresh
  | case2 source target cursor beyond =>
    rw [inputSteps,dif_neg beyond,Collected.finished]
    obtain rfl : cursor = frameCount := by omega
    cases pending with
    | none => exact behind.2
    | some hunk =>
      obtain ⟨begun,filled,ends,differ,quiet,carried⟩ := behind
      refine ⟨begun,filled,le_of_eq ends,differ,quiet,ends ▸ carried,fun below => ?_,fun frame later below => ?_⟩
      · omega
      · omega

theorem eventRun_append (events : List ReplayEvent) (start middle stop : Nat) (first : start ≤ middle)
    (second : middle ≤ stop) : eventRun events ⟨start,middle⟩ ++ eventRun events ⟨middle,stop⟩ = eventRun events ⟨start,stop⟩ := by
  have split := take_append_drop (middle - start) (eventRun events ⟨start,stop⟩)
  rw [← split]
  simp only [eventRun,take_take,drop_take,drop_drop]
  congr 2
  · omega
  · omega
  · congr 1
    omega

theorem eventRun_drop (events : List ReplayEvent) (start stop : Nat) (ordered : start ≤ stop) :
    eventRun events ⟨start,stop⟩ ++ events.drop stop = events.drop start := by
  have split := take_append_drop (stop - start) (events.drop start)
  rw [drop_drop,Nat.add_sub_cancel' ordered] at split
  exact split

theorem eventRun_all (events : List ReplayEvent) (start stop : Nat) (whole : events.length ≤ stop) :
    eventRun events ⟨start,stop⟩ = events.drop start := by
  rw [eventRun,take_of_length_le]
  rw [length_drop]
  exact Nat.sub_le_sub_right whole start

theorem eventRun_self (events : List ReplayEvent) (start : Nat) : eventRun events ⟨start,start⟩ = [] := by
  rw [eventRun,Nat.sub_self,take_zero]

/-- Replaces the source range of every hunk by its target range. -/
def replaceHunks (source target : List ReplayEvent) (cursor : Nat) : List TasEventDiffHunk → List ReplayEvent
  | [] => source.drop cursor
  | hunk::hunks =>
    eventRun source ⟨cursor,hunk.sourceEventIndices.start⟩ ++ (eventRun target hunk.targetEventIndices ++
      replaceHunks source target hunk.sourceEventIndices.stop hunks)

/-- Hunks of the events from two indices on: in front of a hunk both lists agree. -/
def EventHunksFrom (source target : List ReplayEvent) (sourceIndex targetIndex : Nat) : List TasEventDiffHunk → Prop
  | [] => source.drop sourceIndex = target.drop targetIndex
  | hunk::hunks =>
    (sourceIndex ≤ hunk.sourceEventIndices.start ∧ hunk.sourceEventIndices.start ≤ hunk.sourceEventIndices.stop ∧
      hunk.sourceEventIndices.stop ≤ source.length) ∧
    (targetIndex ≤ hunk.targetEventIndices.start ∧ hunk.targetEventIndices.start ≤ hunk.targetEventIndices.stop ∧
      hunk.targetEventIndices.stop ≤ target.length) ∧
    eventRun source ⟨sourceIndex,hunk.sourceEventIndices.start⟩ = eventRun target ⟨targetIndex,hunk.targetEventIndices.start⟩ ∧
    EventHunksFrom source target hunk.sourceEventIndices.stop hunk.targetEventIndices.stop hunks

/-- The hunks of two event lists: in order on both sides, and replacing turns the one list into the other. -/
structure EventHunks (source target : List ReplayEvent) (hunks : List TasEventDiffHunk) : Prop where
  inside : ∀ hunk ∈ hunks,
    (hunk.sourceEventIndices.start ≤ hunk.sourceEventIndices.stop ∧ hunk.sourceEventIndices.stop ≤ source.length) ∧
    hunk.targetEventIndices.start ≤ hunk.targetEventIndices.stop ∧ hunk.targetEventIndices.stop ≤ target.length
  ordered : hunks.Pairwise (fun left right => left.sourceEventIndices.stop ≤ right.sourceEventIndices.start ∧
    left.targetEventIndices.stop ≤ right.targetEventIndices.start)
  replaced : replaceHunks source target 0 hunks = target
  empty : hunks = [] ↔ source = target

namespace EventHunksFrom
variable {source target : List ReplayEvent} {sourceIndex targetIndex : Nat} {hunks : List TasEventDiffHunk}

theorem bounds (from_ : EventHunksFrom source target sourceIndex targetIndex hunks) : ∀ hunk ∈ hunks,
    (sourceIndex ≤ hunk.sourceEventIndices.start ∧ targetIndex ≤ hunk.targetEventIndices.start) ∧
    (hunk.sourceEventIndices.start ≤ hunk.sourceEventIndices.stop ∧ hunk.sourceEventIndices.stop ≤ source.length) ∧
    hunk.targetEventIndices.start ≤ hunk.targetEventIndices.stop ∧ hunk.targetEventIndices.stop ≤ target.length := by
  induction hunks generalizing sourceIndex targetIndex with
  | nil => exact fun _ member => nomatch member
  | cons hunk hunks ih =>
    obtain ⟨left,right,_,rest⟩ := from_
    refine forall_mem_cons.mpr ⟨⟨⟨left.1,right.1⟩,left.2,right.2⟩,fun other member => ?_⟩
    obtain ⟨after,facts⟩ := ih rest other member
    exact ⟨⟨(left.1.trans left.2.1).trans after.1,(right.1.trans right.2.1).trans after.2⟩,facts⟩

theorem ordered (from_ : EventHunksFrom source target sourceIndex targetIndex hunks) :
    hunks.Pairwise (fun left right => left.sourceEventIndices.stop ≤ right.sourceEventIndices.start ∧
      left.targetEventIndices.stop ≤ right.targetEventIndices.start) := by
  induction hunks generalizing sourceIndex targetIndex with
  | nil => exact List.Pairwise.nil
  | cons hunk hunks ih =>
    obtain ⟨_,_,_,rest⟩ := from_
    exact pairwise_cons.mpr ⟨fun other member => (rest.bounds other member).1,ih rest⟩

theorem replaced (from_ : EventHunksFrom source target sourceIndex targetIndex hunks) :
    replaceHunks source target sourceIndex hunks = target.drop targetIndex := by
  induction hunks generalizing sourceIndex targetIndex with
  | nil => exact from_
  | cons hunk hunks ih =>
    obtain ⟨_,right,same,rest⟩ := from_
    rw [replaceHunks,ih rest,same,eventRun_drop target _ _ right.2.1,eventRun_drop target _ _ right.1]

end EventHunksFrom

/-- The hunks that the walk over the events offers. -/
def eventSteps (source target : List ReplayEvent) (sourceIndex targetIndex : Nat) : List (Option TasEventDiffHunk) :=
  match _step : eventStep source target sourceIndex targetIndex with
  | none => []
  | some (hunk,sourceNext,targetNext) => hunk::eventSteps source target sourceNext targetNext
termination_by (source.length - sourceIndex) + (target.length - targetIndex)
decreasing_by
  have later := eventStep_later source target sourceIndex targetIndex hunk sourceNext targetNext _step
  omega

theorem eventSteps_none {source target : List ReplayEvent} {sourceIndex targetIndex : Nat}
    (ended : eventStep source target sourceIndex targetIndex = none) : eventSteps source target sourceIndex targetIndex = [] := by
  rw [eventSteps]
  split
  · rfl
  · rename_i found
    rw [ended] at found
    nomatch found

theorem eventSteps_some {source target : List ReplayEvent} {sourceIndex targetIndex : Nat} {hunk : Option TasEventDiffHunk}
    {sourceNext targetNext : Nat} (step : eventStep source target sourceIndex targetIndex = some (hunk,sourceNext,targetNext)) :
    eventSteps source target sourceIndex targetIndex = hunk::eventSteps source target sourceNext targetNext := by
  rw [eventSteps]
  split
  · rename_i ended
    rw [ended] at step
    nomatch step
  · rename_i found
    rw [step] at found
    cases found
    rfl

theorem diffEventsFrom_eq (maxHunks : Nat) (source target : List ReplayEvent) (sourceIndex targetIndex : Nat)
    (collected : Collected TasEventDiffHunk) : diffEventsFrom maxHunks source target sourceIndex targetIndex collected =
      (eventSteps source target sourceIndex targetIndex).foldl (Collected.offer joinEventHunk maxHunks) collected := by
  induction sourceIndex,targetIndex,collected using diffEventsFrom.induct maxHunks source target with
  | case1 sourceIndex targetIndex collected ended =>
    rw [eventSteps_none ended,diffEventsFrom]
    split
    · rfl
    · rename_i found
      rw [ended] at found
      nomatch found
  | case2 sourceIndex targetIndex collected hunk sourceNext targetNext step ih =>
    rw [eventSteps_some step,diffEventsFrom,foldl_cons]
    split
    · rename_i ended
      rw [ended] at step
      nomatch step
    · rename_i found
      rw [step] at found
      cases found
      exact ih

theorem length_eventSteps (source target : List ReplayEvent) (sourceIndex targetIndex : Nat) :
    (eventSteps source target sourceIndex targetIndex).length ≤ (source.length - sourceIndex) + (target.length - targetIndex) := by
  induction sourceIndex,targetIndex using eventSteps.induct source target with
  | case1 sourceIndex targetIndex ended =>
    rw [eventSteps_none ended]
    exact Nat.zero_le _
  | case2 sourceIndex targetIndex hunk sourceNext targetNext step ih =>
    have later := eventStep_later source target sourceIndex targetIndex hunk sourceNext targetNext step
    rw [eventSteps_some step,length_cons]
    omega

theorem eventGroupEnd_inside (events : List ReplayEvent) (start : Nat) (inside : start < events.length) :
    eventGroupEnd events start ≤ events.length := by
  unfold eventGroupEnd
  split
  · exact inside
  · rename_i first rest dropped
    have length := congrArg List.length dropped
    rw [length_drop,length_cons] at length
    have taken := (takeWhile_sublist (fun event => first.canonicalCmp event == .eq) (l := rest)).length_le
    omega

theorem eventStep_none (source target : List ReplayEvent) (sourceIndex targetIndex : Nat)
    (ended : eventStep source target sourceIndex targetIndex = none) :
    source.length ≤ sourceIndex ∧ target.length ≤ targetIndex := by
  cases left : source[sourceIndex]? with
  | none =>
    cases right : target[targetIndex]? with
    | none => exact ⟨List.getElem?_eq_none_iff.mp left,List.getElem?_eq_none_iff.mp right⟩
    | some _ =>
      rw [eventStep,left,right] at ended
      nomatch ended
  | some first =>
    cases right : target[targetIndex]? with
    | none =>
      rw [eventStep,left,right] at ended
      nomatch ended
    | some second =>
      rw [eventStep,left,right] at ended
      dsimp only at ended
      split at ended
      · nomatch ended
      · nomatch ended
      · split at ended <;> nomatch ended

theorem eventStep_some (source target : List ReplayEvent) (sourceIndex targetIndex : Nat)
    (sourceInside : sourceIndex ≤ source.length) (targetInside : targetIndex ≤ target.length)
    (hunk : Option TasEventDiffHunk) (sourceNext targetNext : Nat)
    (step : eventStep source target sourceIndex targetIndex = some (hunk,sourceNext,targetNext)) :
    (sourceIndex ≤ sourceNext ∧ sourceNext ≤ source.length) ∧ (targetIndex ≤ targetNext ∧ targetNext ≤ target.length) ∧
      (hunk = none → eventRun source ⟨sourceIndex,sourceNext⟩ = eventRun target ⟨targetIndex,targetNext⟩) ∧
      ∀ offered, hunk = some offered → offered.sourceEventIndices = ⟨sourceIndex,sourceNext⟩ ∧
        offered.targetEventIndices = ⟨targetIndex,targetNext⟩ := by
  obtain ⟨sourceLater,targetLater,_⟩ := eventStep_later source target sourceIndex targetIndex hunk sourceNext targetNext step
  have sourceEnd : ∀ event, source[sourceIndex]? = some event → eventGroupEnd source sourceIndex ≤ source.length :=
    fun _ found => eventGroupEnd_inside source sourceIndex (List.getElem?_eq_some_iff.mp found).1
  have targetEnd : ∀ event, target[targetIndex]? = some event → eventGroupEnd target targetIndex ≤ target.length :=
    fun _ found => eventGroupEnd_inside target targetIndex (List.getElem?_eq_some_iff.mp found).1
  unfold eventStep at step
  grind [eventHunk]

/-- What the walk has behind it: agreeing events since the last hunk, and the pending hunk up to the indices. -/
def PendingEvents (source target : List ReplayEvent) (lastSource lastTarget sourceIndex targetIndex : Nat) :
    Option TasEventDiffHunk → Prop
  | none => lastSource ≤ sourceIndex ∧ lastTarget ≤ targetIndex ∧
    eventRun source ⟨lastSource,sourceIndex⟩ = eventRun target ⟨lastTarget,targetIndex⟩
  | some hunk =>
    (lastSource ≤ hunk.sourceEventIndices.start ∧ hunk.sourceEventIndices.start ≤ hunk.sourceEventIndices.stop ∧
      hunk.sourceEventIndices.stop = sourceIndex) ∧
    (lastTarget ≤ hunk.targetEventIndices.start ∧ hunk.targetEventIndices.start ≤ hunk.targetEventIndices.stop ∧
      hunk.targetEventIndices.stop = targetIndex) ∧
    eventRun source ⟨lastSource,hunk.sourceEventIndices.start⟩ = eventRun target ⟨lastTarget,hunk.targetEventIndices.start⟩

theorem eventHunksFrom_finished (source target : List ReplayEvent) (sourceIndex targetIndex lastSource lastTarget : Nat)
    (pending : Option TasEventDiffHunk) (sourceInside : sourceIndex ≤ source.length)
    (targetInside : targetIndex ≤ target.length)
    (behind : PendingEvents source target lastSource lastTarget sourceIndex targetIndex pending) :
    EventHunksFrom source target lastSource lastTarget
      (Collected.finished joinEventHunk pending (eventSteps source target sourceIndex targetIndex)) := by
  induction sourceIndex,targetIndex using eventSteps.induct source target generalizing lastSource lastTarget pending with
  | case1 sourceIndex targetIndex ended =>
    obtain ⟨sourceAll,targetAll⟩ := eventStep_none source target sourceIndex targetIndex ended
    rw [eventSteps_none ended,Collected.finished]
    cases pending with
    | none =>
      rw [Option.toList_none,EventHunksFrom,← eventRun_all source lastSource sourceIndex sourceAll,
        ← eventRun_all target lastTarget targetIndex targetAll]
      exact behind.2.2
    | some hunk =>
      obtain ⟨⟨left,leftFilled,leftStop⟩,⟨right,rightFilled,rightStop⟩,same⟩ := behind
      refine ⟨⟨left,leftFilled,leftStop ▸ sourceInside⟩,⟨right,rightFilled,rightStop ▸ targetInside⟩,same,?_⟩
      rw [EventHunksFrom,leftStop,rightStop,drop_of_length_le sourceAll,drop_of_length_le targetAll]
  | case2 sourceIndex targetIndex hunk sourceNext targetNext step ih =>
    obtain ⟨⟨sourceLater,sourceEnd⟩,⟨targetLater,targetEnd⟩,quiet,covers⟩ :=
      eventStep_some source target sourceIndex targetIndex sourceInside targetInside hunk sourceNext targetNext step
    rw [eventSteps_some step]
    cases hunk with
    | none =>
      have agree := quiet rfl
      rw [Collected.finished]
      cases pending with
      | none =>
        obtain ⟨left,right,same⟩ := behind
        refine ih lastSource lastTarget none sourceEnd targetEnd ⟨left.trans sourceLater,right.trans targetLater,?_⟩
        rw [← eventRun_append source _ _ _ left sourceLater,← eventRun_append target _ _ _ right targetLater,same,agree]
      | some hunk =>
        obtain ⟨⟨left,leftFilled,leftStop⟩,⟨right,rightFilled,rightStop⟩,same⟩ := behind
        refine ⟨⟨left,leftFilled,leftStop ▸ sourceInside⟩,⟨right,rightFilled,rightStop ▸ targetInside⟩,same,?_⟩
        rw [leftStop,rightStop]
        exact ih _ _ none sourceEnd targetEnd ⟨sourceLater,targetLater,agree⟩
    | some offered =>
      obtain ⟨onSource,onTarget⟩ := covers offered rfl
      have fresh : PendingEvents source target sourceIndex targetIndex sourceNext targetNext (some offered) := by
        rw [PendingEvents,onSource,onTarget]
        exact ⟨⟨le_rfl,sourceLater,rfl⟩,⟨le_rfl,targetLater,rfl⟩,
          (eventRun_self source sourceIndex).trans (eventRun_self target targetIndex).symm⟩
      rw [Collected.finished]
      cases pending with
      | none =>
        obtain ⟨left,right,same⟩ := behind
        refine ih lastSource lastTarget _ sourceEnd targetEnd ?_
        rw [PendingEvents,onSource,onTarget]
        exact ⟨⟨left,sourceLater,rfl⟩,⟨right,targetLater,rfl⟩,same⟩
      | some hunk =>
        obtain ⟨⟨left,leftFilled,leftStop⟩,⟨right,rightFilled,rightStop⟩,same⟩ := behind
        rw [Option.bind_some,joinEventHunk]
        by_cases alike : hunk.kind = offered.kind
        · rw [if_pos ⟨alike,by rw [onSource,leftStop],by rw [onTarget,rightStop]⟩]
          refine ih lastSource lastTarget _ sourceEnd targetEnd ?_
          rw [PendingEvents,onSource,onTarget]
          exact ⟨⟨left,by dsimp only; omega,rfl⟩,⟨right,by dsimp only; omega,rfl⟩,same⟩
        · rw [if_neg fun all => alike all.1]
          refine ⟨⟨left,leftFilled,leftStop ▸ sourceInside⟩,⟨right,rightFilled,rightStop ▸ targetInside⟩,same,?_⟩
          rw [leftStop,rightStop]
          exact ih _ _ _ sourceEnd targetEnd fresh

theorem finished_self (events : List ReplayEvent) (index : Nat) :
    Collected.finished joinEventHunk none (eventSteps events events index index) = [] := by
  cases found : eventStep events events index index with
  | none =>
    rw [eventSteps_none found]
    rfl
  | some step =>
    obtain ⟨hunk,sourceNext,targetNext⟩ := step
    have later := eventStep_later events events index index hunk sourceNext targetNext found
    have same : hunk = none ∧ sourceNext = targetNext := by
      rw [eventStep] at found
      cases inside : events[index]? with
      | none =>
        rw [inside] at found
        nomatch found
      | some event =>
        have equal : event.canonicalCmp event = .eq := compare_eq_iff_eq.mpr rfl
        simp only [inside,equal,if_true,Option.some.injEq,Prod.mk.injEq] at found
        exact ⟨found.1.symm,found.2.1.symm.trans found.2.2⟩
    obtain ⟨rfl,rfl⟩ := same
    rw [eventSteps_some found]
    exact finished_self events sourceNext
termination_by events.length - index

def allInputHunks (source target : TasBranch) (frameCount : Nat) : List TasInputDiffHunk :=
  Collected.finished joinInputHunk none (inputSteps frameCount source.inputSpans target.inputSpans 0)

def allEventHunks (source target : List ReplayEvent) : List TasEventDiffHunk :=
  Collected.finished joinEventHunk none (eventSteps source target 0 0)

theorem diffInputs_eq (source target : TasBranch) (frameCount maxHunks : Nat) (word : frameCount < 2^64) :
    diffInputs source target frameCount maxHunks = ((allInputHunks source target frameCount).take maxHunks,
      (allInputHunks source target frameCount).length - maxHunks) := by
  have few : (allInputHunks source target frameCount).length ≤ frameCount :=
    (Collected.length_finished _ _ none).trans (length_inputSteps frameCount source.inputSpans target.inputSpans 0)
  have holds : ((diffInputsFrom maxHunks frameCount source.inputSpans target.inputSpans 0 {}).flush maxHunks).Holds maxHunks
      (allInputHunks source target frameCount) := by
    rw [diffInputsFrom_eq]
    exact Collected.holds_walk joinInputHunk maxHunks _ {} [] (Collected.holds_empty maxHunks)
  rw [diffInputs,holds.hunks,holds.omitted]
  exact Prod.ext rfl (min_eq_left (by omega))

theorem diffEvents_eq (source target : List ReplayEvent) (maxHunks : Nat) (word : source.length + target.length < 2^64) :
    diffEvents source target maxHunks = ((allEventHunks source target).take maxHunks,
      (allEventHunks source target).length - maxHunks) := by
  have few : (allEventHunks source target).length ≤ source.length + target.length :=
    (Collected.length_finished _ _ none).trans (length_eventSteps source target 0 0)
  have holds : ((diffEventsFrom maxHunks source target 0 0 {}).flush maxHunks).Holds maxHunks
      (allEventHunks source target) := by
    rw [diffEventsFrom_eq]
    exact Collected.holds_walk joinEventHunk maxHunks _ {} [] (Collected.holds_empty maxHunks)
  rw [diffEvents,holds.hunks,holds.omitted]
  exact Prod.ext rfl (min_eq_left (by omega))

theorem allInputHunks_exact (source target : TasBranch) (validSource : ValidMovie source) (validTarget : ValidMovie target) :
    InputHunks source.inputAt target.inputAt (min source.frameCount target.frameCount)
      (allInputHunks source target (min source.frameCount target.frameCount)) := by
  have readSource := inputAt_eq_valueAt source fun span member =>
    lt_of_le_of_lt (validSource.inside span member) validSource.word
  have readTarget := inputAt_eq_valueAt target fun span member =>
    lt_of_le_of_lt (validTarget.inside span member) validTarget.word
  refine (inputHunksFrom_finished _ _ _ _ _ 0 0 none zero_le (fun frame _ => (readSource frame).symm)
    (fun frame _ => (readTarget frame).symm) ⟨le_rfl,?_⟩).exact
  exact fun frame _ before => absurd before (Nat.not_lt_zero frame)

theorem allEventHunks_exact (source target : List ReplayEvent) : EventHunks source target (allEventHunks source target) := by
  have from_ := eventHunksFrom_finished source target 0 0 0 0 none zero_le zero_le
    ⟨le_rfl,le_rfl,(eventRun_self source 0).trans (eventRun_self target 0).symm⟩
  have replaced := from_.replaced
  refine ⟨fun hunk member => (from_.bounds hunk member).2,from_.ordered,replaced,?_,?_⟩
  · intro none_
    rw [← allEventHunks,none_] at replaced
    exact replaced
  · rintro rfl
    exact finished_self source 0

theorem enforceScanLimits_events (source target : TasBranch) (commonFrameCount : Nat) (limits : TasBranchDiffLimits)
    (ok : enforceScanLimits source target commonFrameCount limits = .ok ()) :
    source.events.length + target.events.length < 2^64 := by
  obtain ⟨_,_,ok⟩ := bind_ok.mp ok
  obtain ⟨_,ok⟩ := check_bind_ok.mp ok
  obtain ⟨_,summed,_⟩ := bind_ok.mp ok
  exact (checkedAdd_ok.mp summed).1

namespace TasEncoding
variable (encoding : TasEncoding) (project : TasProject) (sourceBranchId targetBranchId : String) (source target : TasBranch)

theorem diffBranches_ok (foundSource : project.branch sourceBranchId = some source)
    (foundTarget : project.branch targetBranchId = some target) (limits : TasBranchDiffLimits) (diff : TasBranchDiff)
    (ok : encoding.diffBranches project sourceBranchId targetBranchId limits = .ok diff) :
    enforceScanLimits source target (min source.frameCount target.frameCount) limits = .ok () ∧
      (diff.inputHunks,diff.omittedInputHunks) =
        diffInputs source target (min source.frameCount target.frameCount) limits.maxInputHunks ∧
      (diff.eventHunks,diff.omittedEventHunks) = diffEvents source.events target.events limits.maxEventHunks := by
  obtain ⟨_,ok⟩ := check_bind_ok.mp ok
  rw [foundSource,foundTarget] at ok
  simp only [context,ok_bind] at ok
  obtain ⟨syncIdentity,_,ok⟩ := bind_ok.mp ok
  obtain ⟨_,ok⟩ := check_bind_ok.mp ok
  obtain ⟨scanned,ok⟩ := check_bind_ok.mp ok
  obtain ⟨_,_,ok⟩ := bind_ok.mp ok
  obtain ⟨_,_,ok⟩ := bind_ok.mp ok
  obtain rfl := Except.ok.inj ok
  exact ⟨scanned,rfl,rfl⟩

theorem diffBranches_succeeds (valid : project.validate encoding.sha256 = .ok ())
    (foundSource : project.branch sourceBranchId = some source) (foundTarget : project.branch targetBranchId = some target)
    (limits : TasBranchDiffLimits) (limited : validateLimits limits = .ok ())
    (scanned : enforceScanLimits source target (min source.frameCount target.frameCount) limits = .ok ()) :
    ∃ diff, encoding.diffBranches project sourceBranchId targetBranchId limits = .ok diff := by
  obtain ⟨validState,_⟩ := check_bind_ok.mp valid
  have movie := fun id branch (found : project.branch id = some branch) =>
    validMovie_of_valid encoding.sha256 project validState branch (List.mem_of_find?_eq_some found)
  have hashed : ∀ id branch, project.branch id = some branch → ∀ syncIdentity, ∃ digest,
      encoding.hashCompleteBranch syncIdentity branch = .ok digest := by
    intro id branch found syncIdentity
    obtain ⟨eventBytes,_,encoded,_⟩ := (movie id branch found).encoded
    exact ⟨_,by rw [hashCompleteBranch,encoded,ok_bind]; rfl⟩
  have synchronized : ∃ syncIdentity, encoding.syncIdentitySha256FromValidated project = .ok syncIdentity := by
    obtain ⟨_,state⟩ := check_bind_ok.mp validState
    obtain ⟨_,state⟩ := check_bind_ok.mp state
    obtain ⟨_,state⟩ := check_bind_ok.mp state
    obtain ⟨replayStart,encoded,_⟩ := bind_ok.mp state
    exact ⟨_,by rw [syncIdentitySha256FromValidated,encoded,ok_bind]; rfl⟩
  obtain ⟨syncIdentity,synchronized⟩ := synchronized
  obtain ⟨sourceMovie,sourceHashed⟩ := hashed sourceBranchId source foundSource syncIdentity
  obtain ⟨targetMovie,targetHashed⟩ := hashed targetBranchId target foundTarget syncIdentity
  rw [diffBranches,limited,ok_bind,foundSource,foundTarget]
  simp only [context,ok_bind,synchronized,diffBranchTimelines,limited,scanned,sourceHashed]
  split
  · exact ⟨_,rfl⟩
  · rw [targetHashed]
    exact ⟨_,rfl⟩

/-- Branch diffs are exact: there are hunks of the inputs and of the events that are exact, a diff keeps the first of
them and counts the others. -/
theorem branch_diffs_exact (valid : project.validate encoding.sha256 = .ok ())
    (foundSource : project.branch sourceBranchId = some source) (foundTarget : project.branch targetBranchId = some target) :
    ∃ inputHunks eventHunks,
      InputHunks source.inputAt target.inputAt (min source.frameCount target.frameCount) inputHunks ∧
      EventHunks source.events target.events eventHunks ∧
      (∀ limits, validateLimits limits = .ok () →
        enforceScanLimits source target (min source.frameCount target.frameCount) limits = .ok () →
        ∃ diff, encoding.diffBranches project sourceBranchId targetBranchId limits = .ok diff) ∧
      ∀ limits diff, encoding.diffBranches project sourceBranchId targetBranchId limits = .ok diff →
        (diff.isTruncated = false → diff.inputHunks = inputHunks ∧ diff.eventHunks = eventHunks) ∧
        diff.inputHunks = inputHunks.take limits.maxInputHunks ∧
        diff.eventHunks = eventHunks.take limits.maxEventHunks ∧
        diff.inputHunks.length + diff.omittedInputHunks = inputHunks.length ∧
        diff.eventHunks.length + diff.omittedEventHunks = eventHunks.length := by
  obtain ⟨validState,_⟩ := check_bind_ok.mp valid
  have validSource := validMovie_of_valid encoding.sha256 project validState source (List.mem_of_find?_eq_some foundSource)
  have validTarget := validMovie_of_valid encoding.sha256 project validState target (List.mem_of_find?_eq_some foundTarget)
  refine ⟨_,_,allInputHunks_exact source target validSource validTarget,allEventHunks_exact _ _,
    encoding.diffBranches_succeeds project sourceBranchId targetBranchId source target valid foundSource foundTarget,?_⟩
  intro limits diff ok
  obtain ⟨scanned,inputs,events⟩ :=
    encoding.diffBranches_ok project sourceBranchId targetBranchId source target foundSource foundTarget limits diff ok
  rw [diffInputs_eq _ _ _ _ (lt_of_le_of_lt (min_le_left _ _) validSource.word)] at inputs
  rw [diffEvents_eq _ _ _ (enforceScanLimits_events source target _ limits scanned)] at events
  obtain ⟨keptInputs,countedInputs⟩ := Prod.mk.inj inputs
  obtain ⟨keptEvents,countedEvents⟩ := Prod.mk.inj events
  refine ⟨fun whole => ?_,keptInputs,keptEvents,?_,?_⟩
  · have uncut : diff.omittedInputHunks = 0 ∧ diff.omittedEventHunks = 0 := by
      simpa [TasBranchDiff.isTruncated] using whole
    rw [countedInputs,countedEvents] at uncut
    rw [keptInputs,keptEvents]
    exact ⟨take_of_length_le (by omega),take_of_length_le (by omega)⟩
  · rw [keptInputs,countedInputs,length_take]
    omega
  · rw [keptEvents,countedEvents,length_take]
    omega

def plainEncoding : TasEncoding := ⟨fun _ => emptyDigest,fun _ => [],fun _ => []⟩

def branchedProject : TasProject := { smallProject with
  branches := [smallMovie,{ smallMovie with
    id := "other", inputSpans := [⟨0,2,{ tiltXBits := 1 }⟩], events := [.fdsDiskSide 3 1] }] }

theorem branch_diffs_exact_branched : ∃ source target diff,
    branchedProject.branch "main" = some source ∧ branchedProject.branch "other" = some target ∧
    plainEncoding.diffBranches branchedProject "main" "other" {} = .ok diff ∧
    ∃ inputHunks, InputHunks source.inputAt target.inputAt 4 inputHunks ∧
      diff.inputHunks.length + diff.omittedInputHunks = inputHunks.length := by
  have valid : branchedProject.validate plainEncoding.sha256 = .ok () := by decide +kernel
  obtain ⟨inputHunks,_,exact_,_,succeeds,diffs⟩ :=
    plainEncoding.branch_diffs_exact branchedProject "main" "other" _ _ valid rfl rfl
  obtain ⟨diff,ok⟩ := succeeds {} rfl rfl
  exact ⟨_,_,diff,rfl,rfl,ok,inputHunks,exact_,(diffs {} diff ok).2.2.2.1⟩

end TasEncoding

end ZeffBoy.Tas
