import ZeffBoy.Library.Hunks
import ZeffBoy.Tas.Validate
import ZeffBoy.Tas.InputPattern

/-! Differences of two branches of a project.
Both input timelines are walked together, and both event lists group by group; a group is a
run of events with one key, whose order is significant. -/
namespace ZeffBoy.Tas
open Library Replay

def maxBranchDiffInputSpansScanned : Nat := 200000
def maxBranchDiffEventsScanned : Nat := 200000
def maxBranchDiffRetainedHunks : Nat := 128

structure TasBranchDiffLimits where
  maxInputSpansScanned : Nat := maxBranchDiffInputSpansScanned
  maxEventsScanned : Nat := maxBranchDiffEventsScanned
  maxInputHunks : Nat := maxBranchDiffRetainedHunks
  maxEventHunks : Nat := maxBranchDiffRetainedHunks

inductive TasBranchDiffSide
  | source | target
deriving DecidableEq

structure TasInputDiffHunk where
  start : Nat
  length : Nat
  sourceInput : TasInputFrame
  targetInput : TasInputFrame
deriving DecidableEq

structure TasTimelineTailDiff where
  longerSide : TasBranchDiffSide
  start : Nat
  length : Nat
deriving DecidableEq

inductive TasEventDiffKind
  | changed | sourceOnly | targetOnly
deriving DecidableEq

structure EventIndices where
  start : Nat
  stop : Nat
deriving DecidableEq

structure TasEventDiffHunk where
  kind : TasEventDiffKind
  sourceEventIndices : EventIndices
  targetEventIndices : EventIndices
  firstFrame : UInt64
  lastFrame : UInt64
deriving DecidableEq

structure TasBranchDiff where
  sourceMovieSha256 : TasDigest
  targetMovieSha256 : TasDigest
  sourceFrameCount : Nat
  targetFrameCount : Nat
  inputHunks : List TasInputDiffHunk
  timelineTail : Option TasTimelineTailDiff
  eventHunks : List TasEventDiffHunk
  omittedInputHunks : Nat
  omittedEventHunks : Nat
deriving DecidableEq

def TasBranchDiff.isTruncated (diff : TasBranchDiff) : Bool := diff.omittedInputHunks ≠ 0 ∨ diff.omittedEventHunks ≠ 0

def validateLimits (limits : TasBranchDiffLimits) : Except String Unit := do
  ensure (limits.maxInputSpansScanned ≤ maxBranchDiffInputSpansScanned)
    s!"TAS branch diff input scan limit exceeds the hard maximum of {maxBranchDiffInputSpansScanned} spans"
  ensure (limits.maxEventsScanned ≤ maxBranchDiffEventsScanned)
    s!"TAS branch diff event scan limit exceeds the hard maximum of {maxBranchDiffEventsScanned} events"
  ensure (¬(maxBranchDiffRetainedHunks < limits.maxInputHunks ∨ maxBranchDiffRetainedHunks < limits.maxEventHunks))
    s!"TAS branch diff hunk limit exceeds the hard maximum of {maxBranchDiffRetainedHunks} per domain"

def enforceScanLimits (source target : TasBranch) (commonFrameCount : Nat) (limits : TasBranchDiffLimits) :
    Except String Unit := do
  let sourceInputSpans := partitionPoint source.inputSpans (fun span => span.start < commonFrameCount)
  let targetInputSpans := partitionPoint target.inputSpans (fun span => span.start < commonFrameCount)
  let inputSpans ← checkedAdd sourceInputSpans targetInputSpans "TAS branch diff input scan size overflows"
  let configured := limits.maxInputSpansScanned
  ensure (inputSpans ≤ configured)
    s!"TAS branch diff requires scanning {inputSpans} input spans, above the configured limit of {configured}"
  let events ← checkedAdd source.events.length target.events.length "TAS branch diff event scan size overflows"
  let configured := limits.maxEventsScanned
  ensure (events ≤ configured)
    s!"TAS branch diff requires scanning {events} events, above the configured limit of {configured}"

def timelineTail (sourceFrames targetFrames : Nat) : Option TasTimelineTailDiff :=
  match compare sourceFrames targetFrames with
  | .gt => some ⟨.source,targetFrames,sourceFrames - targetFrames⟩
  | .lt => some ⟨.target,sourceFrames,targetFrames - sourceFrames⟩
  | .eq => none

/-- The input at a cursor, where it ends at the latest, and the spans from there on; the index of the source
is the rest of the list. -/
def inputSegment (spans : List TasInputSpan) (cursor frameCount : Nat) : List TasInputSpan × TasInputFrame × Nat :=
  match spans.dropWhile (fun span => span.stop ≤ cursor) with
  | [] => ([],{},frameCount)
  | span::rest =>
    if span.start ≤ cursor then (span::rest,span.value,min span.stop frameCount)
    else (span::rest,{},min span.start frameCount)

theorem inputSegment_later (spans : List TasInputSpan) (cursor frameCount : Nat) (inside : cursor < frameCount) :
    cursor < (inputSegment spans cursor frameCount).2.2 := by
  unfold inputSegment
  split
  · exact inside
  · rename_i span rest dropped
    have reaches := List.head?_dropWhile_not (fun span : TasInputSpan => decide (span.stop ≤ cursor)) spans
    rw [dropped] at reaches
    have short : cursor < span.stop := by simpa using reaches
    split
    · exact lt_min short inside
    · rename_i unbegun
      exact lt_min (Nat.lt_of_not_le unbegun) inside

/-- A hunk that continues another one with the same two inputs. -/
def joinInputHunk (previous next : TasInputDiffHunk) : Option TasInputDiffHunk :=
  if previous.start + previous.length = next.start ∧ previous.sourceInput = next.sourceInput ∧
      previous.targetInput = next.targetInput then
    some { previous with length := previous.length + next.length }
  else none

def diffInputsFrom (maxHunks frameCount : Nat) (source target : List TasInputSpan) (cursor : Nat)
    (collected : Collected TasInputDiffHunk) : Collected TasInputDiffHunk :=
  if _inside : cursor < frameCount then
    let left := inputSegment source cursor frameCount
    let right := inputSegment target cursor frameCount
    let stop := min left.2.2 right.2.2
    let collected :=
      if left.2.1 = right.2.1 then collected.flush maxHunks
      else collected.queue joinInputHunk maxHunks ⟨cursor,stop - cursor,left.2.1,right.2.1⟩
    diffInputsFrom maxHunks frameCount left.1 right.1 stop collected
  else collected
termination_by frameCount - cursor
decreasing_by
  have later := inputSegment_later source cursor frameCount _inside
  have sooner := inputSegment_later target cursor frameCount _inside
  omega

def diffInputs (source target : TasBranch) (frameCount maxHunks : Nat) : List TasInputDiffHunk × Nat :=
  let collected := (diffInputsFrom maxHunks frameCount source.inputSpans target.inputSpans 0 {}).flush maxHunks
  (collected.hunks,collected.omitted)

def eventGroupEnd (events : List ReplayEvent) (start : Nat) : Nat :=
  match events.drop start with
  | [] => start + 1
  | first::rest => start + 1 + (rest.takeWhile (fun event => first.canonicalCmp event == .eq)).length

def eventHunk (kind : TasEventDiffKind) (sourceEventIndices targetEventIndices : EventIndices) (frame : UInt64) :
    TasEventDiffHunk := ⟨kind,sourceEventIndices,targetEventIndices,frame,frame⟩

/-- A hunk of the same kind that follows another one on both sides. -/
def joinEventHunk (previous next : TasEventDiffHunk) : Option TasEventDiffHunk :=
  if previous.kind = next.kind ∧ previous.sourceEventIndices.stop = next.sourceEventIndices.start ∧
      previous.targetEventIndices.stop = next.targetEventIndices.start then
    some { previous with
      sourceEventIndices := ⟨previous.sourceEventIndices.start,next.sourceEventIndices.stop⟩
      targetEventIndices := ⟨previous.targetEventIndices.start,next.targetEventIndices.stop⟩
      lastFrame := next.lastFrame }
  else none

def eventRun (events : List ReplayEvent) (indices : EventIndices) : List ReplayEvent :=
  (events.drop indices.start).take (indices.stop - indices.start)

theorem eventGroupEnd_later (events : List ReplayEvent) (start : Nat) : start < eventGroupEnd events start := by
  unfold eventGroupEnd
  split <;> omega

/-- One round of the walk over the events: the hunk of the groups at two indices, or none where they agree, and
the indices behind them. -/
def eventStep (source target : List ReplayEvent) (sourceIndex targetIndex : Nat) :
    Option (Option TasEventDiffHunk × Nat × Nat) :=
  let sourceEnd := eventGroupEnd source sourceIndex
  let targetEnd := eventGroupEnd target targetIndex
  let sourceOnly (left : ReplayEvent) :=
    (some (eventHunk .sourceOnly ⟨sourceIndex,sourceEnd⟩ ⟨targetIndex,targetIndex⟩ left.frame),sourceEnd,targetIndex)
  let targetOnly (right : ReplayEvent) :=
    (some (eventHunk .targetOnly ⟨sourceIndex,sourceIndex⟩ ⟨targetIndex,targetEnd⟩ right.frame),sourceIndex,targetEnd)
  match source[sourceIndex]?, target[targetIndex]? with
  | none, none => none
  | some left, none => some (sourceOnly left)
  | none, some right => some (targetOnly right)
  | some left, some right =>
    match left.canonicalCmp right with
    | .lt => some (sourceOnly left)
    | .gt => some (targetOnly right)
    | .eq =>
      if eventRun source ⟨sourceIndex,sourceEnd⟩ = eventRun target ⟨targetIndex,targetEnd⟩ then
        some (none,sourceEnd,targetEnd)
      else
        some (some (eventHunk .changed ⟨sourceIndex,sourceEnd⟩ ⟨targetIndex,targetEnd⟩ left.frame),sourceEnd,targetEnd)

theorem eventStep_later (source target : List ReplayEvent) (sourceIndex targetIndex : Nat) (hunk : Option TasEventDiffHunk)
    (sourceNext targetNext : Nat) (step : eventStep source target sourceIndex targetIndex = some (hunk,sourceNext,targetNext)) :
    sourceIndex ≤ sourceNext ∧ targetIndex ≤ targetNext ∧
      (sourceIndex < source.length ∧ sourceIndex < sourceNext ∨ targetIndex < target.length ∧ targetIndex < targetNext) := by
  have sourceLater := eventGroupEnd_later source sourceIndex
  have targetLater := eventGroupEnd_later target targetIndex
  have sourceInside : ∀ event, source[sourceIndex]? = some event → sourceIndex < source.length :=
    fun _ found => (List.getElem?_eq_some_iff.mp found).1
  have targetInside : ∀ event, target[targetIndex]? = some event → targetIndex < target.length :=
    fun _ found => (List.getElem?_eq_some_iff.mp found).1
  unfold eventStep at step
  grind

def diffEventsFrom (maxHunks : Nat) (source target : List ReplayEvent) (sourceIndex targetIndex : Nat)
    (collected : Collected TasEventDiffHunk) : Collected TasEventDiffHunk :=
  match _step : eventStep source target sourceIndex targetIndex with
  | none => collected
  | some (hunk,sourceNext,targetNext) =>
    diffEventsFrom maxHunks source target sourceNext targetNext (collected.offer joinEventHunk maxHunks hunk)
termination_by (source.length - sourceIndex) + (target.length - targetIndex)
decreasing_by
  have later := eventStep_later source target sourceIndex targetIndex hunk sourceNext targetNext _step
  omega

def diffEvents (source target : List ReplayEvent) (maxHunks : Nat) : List TasEventDiffHunk × Nat :=
  let collected := (diffEventsFrom maxHunks source target 0 0 {}).flush maxHunks
  (collected.hunks,collected.omitted)

namespace TasEncoding
variable (encoding : TasEncoding)

def diffBranchTimelines (syncIdentity : TasDigest) (source target : TasBranch) (sourceEqualsTarget : Bool)
    (limits : TasBranchDiffLimits) : Except String TasBranchDiff := do
  validateLimits limits
  let commonFrameCount := min source.frameCount target.frameCount
  enforceScanLimits source target commonFrameCount limits
  let sourceMovieSha256 ← encoding.hashCompleteBranch syncIdentity source
  let targetMovieSha256 ← (if sourceEqualsTarget then .ok sourceMovieSha256
    else encoding.hashCompleteBranch syncIdentity target)
  let inputs := diffInputs source target commonFrameCount limits.maxInputHunks
  let events := diffEvents source.events target.events limits.maxEventHunks
  return {
    sourceMovieSha256 := sourceMovieSha256
    targetMovieSha256 := targetMovieSha256
    sourceFrameCount := source.frameCount
    targetFrameCount := target.frameCount
    inputHunks := inputs.1
    timelineTail := timelineTail source.frameCount target.frameCount
    eventHunks := events.1
    omittedInputHunks := inputs.2
    omittedEventHunks := events.2 }

def diffBranches (project : TasProject) (sourceBranchId targetBranchId : String) (limits : TasBranchDiffLimits) :
    Except String TasBranchDiff := do
  validateLimits limits
  let source ← context (project.branch sourceBranchId) s!"unknown TAS branch {quoted sourceBranchId}"
  let target ← context (project.branch targetBranchId) s!"unknown TAS branch {quoted targetBranchId}"
  let syncIdentity ← encoding.syncIdentitySha256FromValidated project
  encoding.diffBranchTimelines syncIdentity source target (sourceBranchId == targetBranchId) limits

end TasEncoding

end ZeffBoy.Tas
