import ZeffBoy.Tas.Package

/-! Editing sessions: a project with a selected branch, a cursor and the undo history, two bounded stacks with the newest entry first.
A method that fails may leave its receiver changed, so each returns the session it leaves. -/
namespace ZeffBoy.Tas
open Library Replay

def maxTasEditorHistoryEntries : Nat := 32
def maxTasEditorHistoryBytes : Nat := 128 * 1024 * 1024

structure TasEditorHistoryEntry where
  projectBytes : Bytes
  selectedBranchId : String
  cursor : Nat
deriving DecidableEq

def TasEditorHistoryEntry.retainedBytes (entry : TasEditorHistoryEntry) : Nat :=
  saturatingAdd entry.projectBytes.length (utf8 entry.selectedBranchId).length

structure TasEditorHistoryStack where
  entries : List TasEditorHistoryEntry := []
  retainedBytes : Nat := 0
  maxEntries : Nat := maxTasEditorHistoryEntries
  maxBytes : Nat := maxTasEditorHistoryBytes
deriving DecidableEq

structure TasEditorHistory where
  undo : TasEditorHistoryStack := {}
  redo : TasEditorHistoryStack := {}
deriving DecidableEq

namespace TasEditorHistoryStack

def clear (stack : TasEditorHistoryStack) : TasEditorHistoryStack := {stack with entries := [], retainedBytes := 0}

def canRetain (stack : TasEditorHistoryStack) (entry : TasEditorHistoryEntry) : Bool :=
  stack.maxEntries ≠ 0 && entry.retainedBytes ≤ stack.maxBytes

def overBudget (stack : TasEditorHistoryStack) : Bool :=
  stack.maxEntries < stack.entries.length || stack.maxBytes < stack.retainedBytes

-- The loop removes an entry in each round, so it takes no more rounds than there are entries.
def evict (stack : TasEditorHistoryStack) : Nat → TasEditorHistoryStack
  | 0 => stack
  | rounds + 1 =>
    if stack.overBudget then
      match stack.entries.getLast? with
      | some removed => evict {stack with
          entries := stack.entries.dropLast
          retainedBytes := stack.retainedBytes - removed.retainedBytes} rounds
      | none => stack
    else stack

def push (stack : TasEditorHistoryStack) (entry : TasEditorHistoryEntry) : TasEditorHistoryStack :=
  evict {stack with
    entries := entry::stack.entries
    retainedBytes := saturatingAdd stack.retainedBytes entry.retainedBytes} (stack.entries.length + 1)

end TasEditorHistoryStack

structure TasLiveFrameHistoryGroup where
  before : TasEditorHistoryEntry
  changed : Bool
deriving DecidableEq

/-- The history revision and the group epoch are words of 128 bits. -/
structure TasEditorSession where
  project : TasProject
  selectedBranchId : String
  cursor : Nat
  projectSha256 : TasDigest
  history : TasEditorHistory
  historyRevision : Nat
  liveFrameHistoryGroup : Option TasLiveFrameHistoryGroup
  liveFrameHistoryEpoch : Nat
deriving DecidableEq

namespace TasEditorSession
variable (packaging : TasPackaging)

def selectedBranch (session : TasEditorSession) : Except String TasBranch :=
  context (session.project.branch session.selectedBranchId) "TAS editor selection should always name a validated branch"

def noteHistoryMutation (session : TasEditorSession) : TasEditorSession :=
  {session with historyRevision := (session.historyRevision + 1) % 2^128}

def captureHistoryEntry (session : TasEditorSession) : Except String TasEditorHistoryEntry := do
  let projectBytes ← packaging.encodeEditorHistorySnapshot session.project
  let entry := ⟨projectBytes,session.selectedBranchId,session.cursor⟩
  ensure (session.history.undo.canRetain entry)
    s!"TAS project snapshot exceeds the bounded editor history budget of {session.history.undo.maxBytes} bytes"
  return entry

-- What every recorded change does to the history.
def recordHistory (session : TasEditorSession) (before : TasEditorHistoryEntry) : TasEditorSession :=
  {session with history := ⟨session.history.undo.push before,session.history.redo.clear⟩}.noteHistoryMutation

def finishEdit (session : TasEditorSession) (outcome : TasEditOutcome) (before : TasEditorHistoryEntry) :
    Call TasEditorSession Unit :=
  if !outcome.changed then (.ok (),session)
  else
    match packaging.editorContentSha256 session.project with
    | .error message => (.error message,session)
    | .ok projectSha256 => (.ok (),{session with projectSha256 := projectSha256}.recordHistory before)

/-- The edits of a session: a check, a transaction on the project, and the selection and cursor afterwards. -/
def transact (session : TasEditorSession) (check : Except String Unit) (edit : TasProjectEdit → Except String TasProjectEdit)
    (settle : TasEditorSession → Except String (String × Nat)) : Call TasEditorSession TasEditOutcome :=
  match (do check; session.captureHistoryEntry packaging : Except String TasEditorHistoryEntry) with
  | .error message => (.error message,session)
  | .ok before =>
    match session.project.editTransaction packaging.encoding edit with
    | .error message => (.error message,session)
    | .ok (outcome,project) =>
      let edited := {session with project := project}
      match settle edited with
      | .error message => (.error message,edited)
      | .ok (selectedBranchId,cursor) =>
        let (result,finished) := finishEdit packaging {edited with selectedBranchId := selectedBranchId, cursor := cursor}
          outcome before
        (result.map fun _ => outcome,finished)

def editTransaction (session : TasEditorSession) (edit : TasProjectEdit → Except String TasProjectEdit) :
    Call TasEditorSession TasEditOutcome :=
  session.transact packaging (.ok ()) edit fun edited => do
    let selected ← selectedBranch {edited with selectedBranchId := edited.project.activeBranchId}
    return (edited.project.activeBranchId,min edited.cursor selected.frameCount)

end TasEditorSession
end ZeffBoy.Tas
