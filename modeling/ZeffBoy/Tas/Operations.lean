import ZeffBoy.Tas.Edit
import ZeffBoy.Tas.Validate
import ZeffBoy.Tas.InputPattern

/-! The operations of an edit besides those on the timeline. -/
namespace ZeffBoy.Tas
open Library Replay

/-- Adds the branches whose parents are to be deleted, in one pass over the project. -/
def deleteRound (branches : List TasBranch) (deleted : List String) : List String :=
  branches.foldl (fun deleted branch =>
    if branch.parent.any (fun parent => parent.branchId ∈ deleted) ∧ branch.id ∉ deleted then branch.id::deleted
    else deleted) deleted

/-- Repeats the pass until it adds nothing. A pass that adds something finds another branch, so as many
rounds as there are branches suffice. -/
def deletedSubtree (branches : List TasBranch) (deleted : List String) : Nat → List String
  | 0 => deleted
  | rounds + 1 =>
    let grown := deleteRound branches deleted
    if grown.length = deleted.length then deleted else deletedSubtree branches grown rounds

/-- Assets are kept in the order of their digests. -/
def insertAsset (digest : TasDigest) (bytes : Bytes) : List (TasDigest × Bytes) → List (TasDigest × Bytes)
  | [] => [(digest,bytes)]
  | (other,held)::assets =>
    if digest = other then (digest,bytes)::assets
    else if digest.toList < other.toList then (digest,bytes)::(other,held)::assets
    else (other,held)::insertAsset digest bytes assets

namespace TasProjectEdit

variable (encoding : TasEncoding)

def forkBranch (edit : TasProjectEdit) (sourceBranchId : String) (forkCursor : Nat) (newBranchId name : String) :
    Except String TasProjectEdit := do
  ensure (edit.project.branch newBranchId).isNone s!"duplicate TAS branch ID {quoted newBranchId}"
  let source ← context (edit.project.branch sourceBranchId) s!"unknown TAS branch {quoted sourceBranchId}"
  ensure (forkCursor ≤ source.frameCount) "TAS fork cursor is past branch end"
  let sourceHash ← encoding.branchMovieSha256 edit.project sourceBranchId
  let branch := { source with
    id := newBranchId
    name := name
    comment := ""
    parent := some ⟨sourceBranchId,sourceHash,forkCursor⟩
    verification := none }
  return { edit with project := { edit.project with branches := edit.project.branches ++ [branch] } }

def setActiveBranch (edit : TasProjectEdit) (branchId : String) : Except String TasProjectEdit := do
  ensure (edit.project.branch branchId).isSome s!"unknown TAS branch {quoted branchId}"
  return { edit with project := { edit.project with activeBranchId := branchId } }

def deleteBranchSubtree (edit : TasProjectEdit) (branchId : String) : Except String (Nat × TasProjectEdit) := do
  let branch ← context (edit.project.branch branchId) s!"unknown TAS branch {quoted branchId}"
  ensure branch.parent.isSome "the root TAS branch cannot be deleted"
  let deleted := deletedSubtree edit.project.branches [branchId] (edit.project.branches.length + 1)
  ensure (edit.project.activeBranchId ∉ deleted) "the active TAS branch or one of its ancestors cannot be deleted"
  return (deleted.length,{ edit with project := { edit.project with
    branches := edit.project.branches.filter (fun branch => branch.id ∉ deleted)
    markers := edit.project.markers.filter (fun marker => marker.branchId ∉ deleted)
    annotations := edit.project.annotations.filter (fun annotated => annotated.branchId ∉ deleted) } })

def setProjectComment (edit : TasProjectEdit) (comment : String) : TasProjectEdit :=
  { edit with project := { edit.project with projectComment := comment } }

/-- Changes the branch with an ID in place. -/
def onBranch (edit : TasProjectEdit) (branchId : String) (change : TasBranch → Except String TasBranch) :
    Except String TasProjectEdit := do
  let branchIndex ← edit.branchIndex branchId
  let changed ← change (edit.project.branches.get branchIndex)
  return { edit with project := { edit.project with branches := edit.project.branches.set branchIndex changed } }

def renameBranch (edit : TasProjectEdit) (branchId name : String) : Except String TasProjectEdit :=
  edit.onBranch branchId (fun branch => .ok { branch with name := name })

def setBranchComment (edit : TasProjectEdit) (branchId comment : String) : Except String TasProjectEdit :=
  edit.onBranch branchId (fun branch => .ok { branch with comment := comment })

def replaceMarkers (edit : TasProjectEdit) (markers : List TasMarker) : TasProjectEdit :=
  { edit with project := { edit.project with markers := markers } }

def replaceAnnotations (edit : TasProjectEdit) (annotations : List TasAnnotation) : TasProjectEdit :=
  { edit with project := { edit.project with annotations := annotations } }

def insertCameraAsset (edit : TasProjectEdit) (bytes : Bytes) : TasDigest × TasProjectEdit :=
  let digest := encoding.sha256 bytes
  (digest,{ edit with project := { edit.project with assets := insertAsset digest bytes edit.project.assets } })

def removeCameraAsset (edit : TasProjectEdit) (digest : TasDigest) : Bool × TasProjectEdit :=
  (containsAsset edit.project.assets digest,{ edit with project := { edit.project with
    assets := edit.project.assets.filter (fun asset => asset.1 ≠ digest) } })

def replaceInputPattern (edit : TasProjectEdit) (branchId : String) (start : Nat) (pattern : TasInputPattern) :
    Except String TasProjectEdit :=
  edit.onBranch branchId (fun branch => replaceBranchInputPattern branch start pattern)

def setInputRange (edit : TasProjectEdit) (branchId : String) (start length : Nat) (input : TasInputFrame) :
    Except String TasProjectEdit := do
  let pattern ← TasInputPattern.constant length input
  edit.replaceInputPattern branchId start pattern

def replaceBranchEvents (edit : TasProjectEdit) (branchId : String) (events : List ReplayEvent) :
    Except String TasProjectEdit := do
  let bytes ← encodeReplayEventStream events
  let canonical ← decodeReplayEventStream bytes
  edit.onBranch branchId (fun branch => .ok { branch with events := canonical })

def insertedEvents (cursor : Nat) (relativeEvents : List ReplayEvent) : Except String (List ReplayEvent) :=
  relativeEvents.mapM (fun event => do
    let frame ← checkedAdd cursor event.frame.toNat "inserted TAS event frame overflows"
    return setEventFrame event (UInt64.ofNat frame))

def insertInputPatternWithEvents (edit : TasProjectEdit) (branchId : String) (cursor : Nat) (pattern : TasInputPattern)
    (relativeEvents : List ReplayEvent) : Except String TasProjectEdit := do
  relativeEvents.forM (fun event =>
    ensure (event.frame.toNat < pattern.length) "inserted TAS event is outside the copied frame range")
  let edit ← edit.insertFrames branchId cursor pattern.length
  let edit ← edit.replaceInputPattern branchId cursor pattern
  let branch ← context (edit.project.branch branchId) s!"unknown TAS branch {quoted branchId}"
  let inserted ← insertedEvents cursor relativeEvents
  edit.replaceBranchEvents branchId (branch.events ++ inserted)

end TasProjectEdit

/-- A call of one of the operations with its arguments. -/
inductive TasOperation
  | forkBranch (sourceBranchId : String) (forkCursor : Nat) (newBranchId name : String)
  | setActiveBranch (branchId : String)
  | deleteBranchSubtree (branchId : String)
  | setProjectComment (comment : String)
  | renameBranch (branchId name : String)
  | setBranchComment (branchId comment : String)
  | replaceMarkers (markers : List TasMarker)
  | replaceAnnotations (annotations : List TasAnnotation)
  | insertCameraAsset (bytes : Bytes)
  | removeCameraAsset (digest : TasDigest)
  | insertFrames (branchId : String) (cursor count : Nat)
  | deleteFrames (branchId : String) (start count : Nat)
  | setInputRange (branchId : String) (start length : Nat) (input : TasInputFrame)
  | replaceInputPattern (branchId : String) (start : Nat) (pattern : TasInputPattern)
  | insertInputPatternWithEvents (branchId : String) (cursor : Nat) (pattern : TasInputPattern)
      (relativeEvents : List ReplayEvent)
  | replaceBranchEvents (branchId : String) (events : List ReplayEvent)

def TasOperation.perform (encoding : TasEncoding) (edit : TasProjectEdit) : TasOperation → Except String TasProjectEdit
  | .forkBranch source forkCursor id name => edit.forkBranch encoding source forkCursor id name
  | .setActiveBranch branchId => edit.setActiveBranch branchId
  | .deleteBranchSubtree branchId => (edit.deleteBranchSubtree branchId).map Prod.snd
  | .setProjectComment comment => .ok (edit.setProjectComment comment)
  | .renameBranch branchId name => edit.renameBranch branchId name
  | .setBranchComment branchId comment => edit.setBranchComment branchId comment
  | .replaceMarkers markers => .ok (edit.replaceMarkers markers)
  | .replaceAnnotations annotations => .ok (edit.replaceAnnotations annotations)
  | .insertCameraAsset bytes => .ok (edit.insertCameraAsset encoding bytes).2
  | .removeCameraAsset digest => .ok (edit.removeCameraAsset digest).2
  | .insertFrames branchId cursor count => edit.insertFrames branchId cursor count
  | .deleteFrames branchId start count => edit.deleteFrames branchId start count
  | .setInputRange branchId start length input => edit.setInputRange branchId start length input
  | .replaceInputPattern branchId start pattern => edit.replaceInputPattern branchId start pattern
  | .insertInputPatternWithEvents branchId cursor pattern events =>
    edit.insertInputPatternWithEvents branchId cursor pattern events
  | .replaceBranchEvents branchId events => edit.replaceBranchEvents branchId events

end ZeffBoy.Tas
