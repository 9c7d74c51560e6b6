import ZeffBoy.Tas.Operations

/-! Edit transactions and what they report.
A transaction works on a copy, compares it with the project, forgets verifications
that no longer hold and commits the copy only when it is valid. -/
namespace ZeffBoy.Tas
open Library Replay

inductive TasBranchEditImpactKind
  | created (forkCursor : Nat)
  | modified (earliestCursor : Nat)
deriving DecidableEq

structure TasBranchEditImpact where
  branchId : String
  kind : TasBranchEditImpactKind
deriving DecidableEq

structure TasEditOutcome where
  changed : Bool
  editGeneration : Nat
  rerecordCount : Nat
  branchImpacts : List TasBranchEditImpact
deriving DecidableEq

def branchIds (project : TasProject) : List String :=
  (project.branches.map TasBranch.id).dedup.mergeSort (fun left right => ¬right < left)

def sameBranchMovie (left right : TasBranch) : Bool :=
  left.frameCount == right.frameCount && left.inputSpans == right.inputSpans && left.events == right.events

structure BranchChanges where
  changedExistingIds : List String
  divergentForkCreated : Bool

/-- Whether some created branch is not the movie that its origin records. -/
def divergentFork (encoding : TasEncoding) (syncIdentity : TasDigest) (after : TasProject) :
    List String → Except String Bool
  | [] => .ok false
  | id::ids => do
    let branch ← context (after.branch id) "created branch ID was collected from the candidate project"
    match branch.parent with
    | none => divergentFork encoding syncIdentity after ids
    | some parent => do
      let digest ← encoding.hashBranch syncIdentity branch branch.frameCount true
      if digest ≠ parent.branchMovieSha256 then return true else divergentFork encoding syncIdentity after ids

def movieChanged (before after : TasProject) (id : String) : Bool :=
  match before.branch id,after.branch id with
  | some before,some after => !sameBranchMovie before after
  | _,_ => false

def classifyBranchChangesStructural (encoding : TasEncoding) (before after : TasProject)
    (beforeIds afterIds createdIds : List String) : Except String BranchChanges := do
  let changedExistingIds := (beforeIds.filter (· ∈ afterIds)).filter (movieChanged before after)
  if createdIds = [] then
    return ⟨changedExistingIds,false⟩
  else do
    let syncIdentity ← encoding.syncIdentitySha256FromValidated before
    let divergentForkCreated ← divergentFork encoding syncIdentity after createdIds
    return ⟨changedExistingIds,divergentForkCreated⟩

/-- The first frame of the first difference, each event list read to its end. -/
def earliestEventDifference (before after : List ReplayEvent) : Nat :=
  let shared := ((before.zip after).takeWhile (fun pair => pair.1 == pair.2)).length
  match before[shared]?,after[shared]? with
  | some left,some right => min left.frame.toNat right.frame.toNat
  | some event,none => event.frame.toNat
  | none,some event => event.frame.toNat
  | none,none => 0

/-- The input at a cursor, where it may end, and the spans from there on; the index of the source is the
rest of the list. -/
def inputAndNextBoundary (spans : List TasInputSpan) (cursor frameCount : Nat) :
    List TasInputSpan × TasInputFrame × Nat :=
  match spans.dropWhile (fun span => span.start + span.length ≤ cursor) with
  | [] => ([],{},frameCount)
  | span::rest =>
    if span.start ≤ cursor then (span::rest,span.value,span.start + span.length)
    else (span::rest,{},min span.start frameCount)

theorem inputAndNextBoundary_later (spans : List TasInputSpan) (cursor frameCount : Nat) (inside : cursor < frameCount) :
    cursor < (inputAndNextBoundary spans cursor frameCount).2.2 := by
  unfold inputAndNextBoundary
  split
  · exact inside
  · rename_i span rest dropped
    have open_ := List.head?_dropWhile_not (fun span : TasInputSpan => decide (span.start + span.length ≤ cursor)) spans
    rw [dropped] at open_
    split
    · simpa using open_
    · dsimp only
      omega

def inputDifferenceFrom (before after : List TasInputSpan) (cursor frameCount : Nat) : Option Nat :=
  if _inside : cursor < frameCount then
    let left := inputAndNextBoundary before cursor frameCount
    let right := inputAndNextBoundary after cursor frameCount
    if left.2.1 ≠ right.2.1 then some cursor
    else inputDifferenceFrom left.1 right.1 (min left.2.2 right.2.2) frameCount
  else
    none
termination_by frameCount - cursor
decreasing_by
  have later := inputAndNextBoundary_later before cursor frameCount _inside
  have sooner := inputAndNextBoundary_later after cursor frameCount _inside
  omega

def earliestInputDifference (before after : TasBranch) : Option Nat :=
  inputDifferenceFrom before.inputSpans after.inputSpans 0 (min before.frameCount after.frameCount)

def earliestBranchMovieDifference (before after : TasBranch) : Option Nat :=
  let input := earliestInputDifference before after
  let events := if before.events ≠ after.events then some (earliestEventDifference before.events after.events) else none
  match input,events with
  | some input,some event => some (min input event)
  | some cursor,none => some cursor
  | none,some cursor => some cursor
  | none,none =>
    if before.frameCount ≠ after.frameCount then some (min before.frameCount after.frameCount) else none

def branchImpact (before candidate : TasProject) (timelineEarliestCursors : String → Option Nat)
    (createdIds changedExistingIds : List String) (branchId : String) : Option TasBranchEditImpact :=
  if branchId ∈ createdIds then
    let forkCursor := (((candidate.branch branchId).bind TasBranch.parent).map TasBranchOrigin.forkCursor).getD 0
    some ⟨branchId,.created forkCursor⟩
  else if branchId ∈ changedExistingIds then
    match before.branch branchId,candidate.branch branchId with
    | some old,some new =>
      let earliestCursor := (earliestBranchMovieDifference old new).getD 0
      some ⟨branchId,.modified (((timelineEarliestCursors branchId).map (min · earliestCursor)).getD earliestCursor)⟩
    | _,_ => none
  else
    none

def forgetVerification (ids : List String) (branch : TasBranch) : TasBranch :=
  if branch.id ∈ ids then { branch with verification := none } else branch

def bumped (count : Nat) (grows : Bool) (message : String) : Except String Nat :=
  if grows then checkedAdd count 1 message else .ok count

def TasProject.editTransaction (encoding : TasEncoding) (project : TasProject)
    (edit : TasProjectEdit → Except String TasProjectEdit) : Except String (TasEditOutcome × TasProject) := do
  project.validate encoding.sha256
  let beforeIds := branchIds project
  let edited ← edit { project := project }
  let changed := decide (edited.project ≠ project)
  let afterIds := branchIds edited.project
  let createdIds := afterIds.filter (· ∉ beforeIds)
  let changes ← classifyBranchChangesStructural encoding project edited.project beforeIds afterIds createdIds
  let candidate := { edited.project with
    branches := edited.project.branches.map (forgetVerification (createdIds ++ changes.changedExistingIds)) }
  candidate.validateEditorState encoding.sha256
  let editGeneration ← bumped candidate.editGeneration changed "TAS edit generation overflow"
  let rerecordCount ← bumped candidate.rerecordCount
    (changes.changedExistingIds ≠ [] ∨ changes.divergentForkCreated) "TAS rerecord count overflow"
  let committed := { candidate with editGeneration := editGeneration, rerecordCount := rerecordCount }
  committed.validateEditorState encoding.sha256
  let branchImpacts := afterIds.filterMap
    (branchImpact project committed edited.timelineEarliestCursors createdIds changes.changedExistingIds)
  return (⟨changed,editGeneration,rerecordCount,branchImpacts⟩,committed)

end ZeffBoy.Tas
