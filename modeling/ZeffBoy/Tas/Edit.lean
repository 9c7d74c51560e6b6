import ZeffBoy.Tas.Model

/-! Timeline edits of a project: inserting and deleting frames of a branch, with the
spans, events, markers and annotations behind the edit moved along. -/
namespace ZeffBoy.Tas
open Library Replay

/-- A project under edit, and for each branch the earliest cursor of its timeline edits. -/
structure TasProjectEdit where
  project : TasProject
  timelineEarliestCursors : String → Option Nat := fun _ => none

def setEventFrame (event : ReplayEvent) (newFrame : UInt64) : ReplayEvent :=
  match event with
  | .fdsDiskSide _ side => .fdsDiskSide newFrame side
  | .media _ sequence event => .media newFrame sequence event
  | .gameBoyLink _ tick event => .gameBoyLink newFrame tick event
  | .gameBoyLinkState _ state => .gameBoyLinkState newFrame state
  | .gameBoyLinkStateAtTick _ tick state => .gameBoyLinkStateAtTick newFrame tick state
  | .wonderSwanLink _ sessionCycle event => .wonderSwanLink newFrame sessionCycle event

/-- Sorts by start and merges; the spans of an edit start at different frames, so the
order of equal keys does not matter. -/
def normalizeSpans (spans : List TasInputSpan) : List TasInputSpan := Spans.normalize {} spans

def insertInputSpan (cursor count : Nat) (span : TasInputSpan) : Except String (List TasInputSpan) := do
  let spanEnd ← checkedAdd span.start span.length "TAS input span insertion overflows"
  if spanEnd ≤ cursor then
    return [span]
  else if cursor ≤ span.start then
    let start ← checkedAdd span.start count "TAS input span insertion overflows"
    return [{ span with start := start }]
  else
    let front ← checkedSub cursor span.start "TAS input span insertion range underflows"
    let start ← checkedAdd cursor count "TAS input span insertion overflows"
    let back ← checkedSub spanEnd cursor "TAS input span insertion range underflows"
    return [{ span with length := front },⟨start,back,span.value⟩]

def insertInputFrames (spans : List TasInputSpan) (cursor count : Nat) : Except String (List TasInputSpan) := do
  let rebased ← spans.mapM (insertInputSpan cursor count)
  return normalizeSpans rebased.flatten

def deleteInputSpan (start stop count : Nat) (span : TasInputSpan) : Except String (List TasInputSpan) := do
  let spanEnd ← checkedAdd span.start span.length "TAS input span deletion overflows"
  if spanEnd ≤ start then
    return [span]
  else if stop ≤ span.start then
    let start ← checkedSub span.start count "TAS input span deletion underflows"
    return [{ span with start := start }]
  else
    let front ← deleteFront span
    let back ← deleteBack span spanEnd
    return front ++ back
where
  deleteFront (span : TasInputSpan) : Except String (List TasInputSpan) :=
    if span.start < start then do
      let length ← checkedSub start span.start "TAS input span deletion range underflows"
      return [{ span with length := length }]
    else
      return []
  deleteBack (span : TasInputSpan) (spanEnd : Nat) : Except String (List TasInputSpan) :=
    if stop < spanEnd then do
      let start ← checkedSub stop count "TAS input span deletion underflows"
      let length ← checkedSub spanEnd stop "TAS input span deletion range underflows"
      return [⟨start,length,span.value⟩]
    else
      return []

def deleteInputFrames (spans : List TasInputSpan) (start stop count : Nat) : Except String (List TasInputSpan) := do
  let rebased ← spans.mapM (deleteInputSpan start stop count)
  return normalizeSpans rebased.flatten

def deleteCursor (cursor start stop count : Nat) : Except String Nat :=
  if cursor ≤ start then .ok cursor
  else if cursor < stop then .ok start
  else checkedSub cursor count "TAS cursor deletion underflows"

def insertEvent (cursor count : Nat) (event : ReplayEvent) : Except String ReplayEvent :=
  if cursor ≤ event.frame.toNat then do
    let frame ← checkedAdd event.frame.toNat count "TAS event frame insertion overflows"
    return setEventFrame event (UInt64.ofNat frame)
  else
    return event

def insertMarker (branchId : String) (cursor count : Nat) (marker : TasMarker) : Except String TasMarker :=
  if marker.branchId = branchId ∧ cursor ≤ marker.cursor then do
    let moved ← checkedAdd marker.cursor count "TAS marker cursor insertion overflows"
    return { marker with cursor := moved }
  else
    return marker

def annotationInserted (branchId : String) (cursor count : Nat) (note : TasAnnotation) :
    Except String TasAnnotation :=
  if note.branchId = branchId then do
    let stop ← checkedAdd note.start note.length "TAS annotation range overflows"
    if cursor ≤ note.start then
      let start ← checkedAdd note.start count "TAS annotation insertion overflows"
      return { note with start := start }
    else if cursor < stop then
      let length ← checkedAdd note.length count "TAS annotation insertion overflows"
      return { note with length := length }
    else
      return note
  else
    return note

-- A deleted event is dropped; a later one moves back.
def deleteEvent (start stop count : Nat) (event : ReplayEvent) : Except String (Option ReplayEvent) :=
  if start ≤ event.frame.toNat ∧ event.frame.toNat < stop then
    return none
  else if stop ≤ event.frame.toNat then do
    let rebased ← checkedSub event.frame.toNat count "TAS event frame deletion underflows"
    return some (setEventFrame event (UInt64.ofNat rebased))
  else
    return some event

def deleteMarker (branchId : String) (start stop count : Nat) (marker : TasMarker) : Except String TasMarker :=
  if marker.branchId = branchId then do
    let cursor ← deleteCursor marker.cursor start stop count
    return { marker with cursor := cursor }
  else
    return marker

-- An annotation that loses all of its frames is dropped.
def annotationDeleted (branchId : String) (start stop count : Nat) (note : TasAnnotation) :
    Except String (Option TasAnnotation) :=
  if note.branchId = branchId then do
    let annotationEnd ← checkedAdd note.start note.length "TAS annotation range overflows"
    let rebasedStart ← deleteCursor note.start start stop count
    let rebasedEnd ← deleteCursor annotationEnd start stop count
    if rebasedStart = rebasedEnd then
      return none
    else
      let length ← checkedSub rebasedEnd rebasedStart "TAS annotation deletion range underflows"
      return some { note with start := rebasedStart, length := length }
  else
    return some note

namespace TasProjectEdit

def branchIndex (edit : TasProjectEdit) (branchId : String) : Except String (Fin edit.project.branches.length) :=
  context (edit.project.branches.findFinIdx? (fun branch => branch.id == branchId))
    s!"unknown TAS branch {quoted branchId}"

def recordTimelineImpact (cursors : String → Option Nat) (branchId : String) (cursor : Nat) : String → Option Nat :=
  fun id =>
    if id = branchId then
      match cursors branchId with
      | some earliest => some (min earliest cursor)
      | none => some cursor
    else
      cursors id

def insertFrames (edit : TasProjectEdit) (branchId : String) (cursor count : Nat) : Except String TasProjectEdit := do
  ensure (count ≠ 0) "TAS frame insertion cannot be empty"
  let branchIndex ← edit.branchIndex branchId
  let branch := edit.project.branches.get branchIndex
  ensure (cursor ≤ branch.frameCount) "TAS frame insertion cursor is past branch end"
  let newFrameCount ← checkedAdd branch.frameCount count "TAS frame insertion overflows"
  ensure (newFrameCount ≤ maxProjectFrames) s!"TAS frame insertion exceeds the {maxProjectFrames} frame limit"
  let inputSpans ← insertInputFrames branch.inputSpans cursor count
  let events ← branch.events.mapM (insertEvent cursor count)
  let inserted := { branch with inputSpans := inputSpans, events := events, frameCount := newFrameCount }
  let markers ← edit.project.markers.mapM (insertMarker branchId cursor count)
  let annotations ← edit.project.annotations.mapM (annotationInserted branchId cursor count)
  return {
    project := { edit.project with
      branches := edit.project.branches.set branchIndex inserted
      markers := markers
      annotations := annotations }
    timelineEarliestCursors := recordTimelineImpact edit.timelineEarliestCursors branchId cursor }

def deleteFrames (edit : TasProjectEdit) (branchId : String) (start count : Nat) : Except String TasProjectEdit := do
  ensure (count ≠ 0) "TAS frame deletion cannot be empty"
  let stop ← checkedAdd start count "TAS frame deletion range overflows"
  let branchIndex ← edit.branchIndex branchId
  let branch := edit.project.branches.get branchIndex
  ensure (stop ≤ branch.frameCount) "TAS frame deletion extends past branch end"
  let inputSpans ← deleteInputFrames branch.inputSpans start stop count
  let events ← branch.events.mapM (deleteEvent start stop count)
  let frameCount ← checkedSub branch.frameCount count "TAS frame count deletion underflows"
  let deleted := { branch with inputSpans := inputSpans, events := events.reduceOption, frameCount := frameCount }
  let markers ← edit.project.markers.mapM (deleteMarker branchId start stop count)
  let annotations ← edit.project.annotations.mapM (annotationDeleted branchId start stop count)
  return {
    project := { edit.project with
      branches := edit.project.branches.set branchIndex deleted
      markers := markers
      annotations := annotations.reduceOption }
    timelineEarliestCursors := recordTimelineImpact edit.timelineEarliestCursors branchId start }

end TasProjectEdit

end ZeffBoy.Tas
