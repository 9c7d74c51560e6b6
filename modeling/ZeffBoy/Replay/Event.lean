import ZeffBoy.Replay.Format

/-! Events of a replay: their data, their canonical order and the frames they need. -/
namespace ZeffBoy.Replay
open Library

structure MediaSlotId where
  id : String
deriving DecidableEq

structure MediaObjectId where
  id : String
deriving DecidableEq

inductive MediaEvent
  | insert (slot : MediaSlotId) (mediaId : MediaObjectId) (side : Option UInt8) (writeProtected : Bool)
  | eject (slot : MediaSlotId)
  | selectSide (slot : MediaSlotId) (side : UInt8)
  | setWriteProtected (slot : MediaSlotId) (writeProtected : Bool)
deriving DecidableEq

def MediaEvent.slot : MediaEvent → MediaSlotId
  | .insert slot _ _ _ => slot
  | .eject slot => slot
  | .selectSide slot _ => slot
  | .setWriteProtected slot _ => slot

structure ReplayGameBoyLinkReply where
  outByte : UInt8
  passive : Bool
  serialGeneration : UInt64
deriving DecidableEq

inductive ReplayGameBoyLinkEvent
  | localMasterStart (transferId clockPeriodTCycles : UInt64) (outByte : UInt8) (serialGeneration : UInt64)
  | remoteMasterStart (transferId clockPeriodTCycles : UInt64) (outByte : UInt8) (serialGeneration : UInt64)
    (localReply : Option ReplayGameBoyLinkReply)
  | remoteReply (transferId : UInt64) (outByte : UInt8) (passive : Bool) (serialGeneration : UInt64)
deriving DecidableEq

structure ReplayGameBoyLinkAction where
  outByte : UInt8
  clockPeriodTCycles : UInt64
  serialGeneration : UInt64
deriving DecidableEq

inductive ReplayGameBoyLinkCoordinatorOwner
  | replayAwaitingReply
  | coreHasReply
deriving DecidableEq

structure ReplayGameBoyLinkCoordinatorState where
  transferId : UInt64
  action : ReplayGameBoyLinkAction
  owner : ReplayGameBoyLinkCoordinatorOwner
  reply : Option ReplayGameBoyLinkReply
deriving DecidableEq

structure ReplayGameBoyPassiveCompletion where
  peerByte : UInt8
  remainingTCycles : UInt64
deriving DecidableEq

structure ReplayGameBoyLinkState where
  peerPresent : Bool
  pendingMasterByte : Option UInt8
  pendingMasterResponse : Option UInt8
  pendingMasterCompletionReady : Bool
  queuedMasterAction : Option ReplayGameBoyLinkAction
  pendingPassiveCompletion : Option ReplayGameBoyPassiveCompletion
  serialGeneration : UInt64
deriving DecidableEq

inductive ReplayWonderSwanLinkEvent
  | remoteByte (generation : UInt64) (baudBps : UInt32) (byte : UInt8)
deriving DecidableEq

inductive ReplayEvent
  | fdsDiskSide (frame : UInt64) (side : UInt8)
  | media (frame : UInt64) (sequence : UInt32) (event : MediaEvent)
  | gameBoyLink (frame tick : UInt64) (event : ReplayGameBoyLinkEvent)
  | gameBoyLinkState (frame : UInt64) (state : ReplayGameBoyLinkState)
  | gameBoyLinkStateAtTick (frame tick : UInt64) (state : ReplayGameBoyLinkState)
  | wonderSwanLink (frame sessionCycle : UInt64) (event : ReplayWonderSwanLinkEvent)
deriving DecidableEq

def ReplayGameBoyLinkEvent.sortDiscriminant : ReplayGameBoyLinkEvent → Nat
  | .localMasterStart .. => 0
  | .remoteMasterStart .. => 1
  | .remoteReply .. => 2

namespace ReplayEvent

def frame : ReplayEvent → UInt64
  | fdsDiskSide frame _ => frame
  | media frame _ _ => frame
  | gameBoyLink frame _ _ => frame
  | gameBoyLinkState frame _ => frame
  | gameBoyLinkStateAtTick frame _ _ => frame
  | wonderSwanLink frame _ _ => frame

def isFrameBoundaryEvent : ReplayEvent → Bool
  | fdsDiskSide .. => true
  | media .. => true
  | gameBoyLinkState .. => true
  | _ => false

def requiredFrameCount (event : ReplayEvent) : Option Nat :=
  if event.isFrameBoundaryEvent then
    some event.frame.toNat
  else if event.frame.toNat + 1 < 2^64 then
    some (event.frame.toNat + 1)
  else
    none

-- The part of the key after the frame.
def rank : ReplayEvent → ℕ ×ₗ ℕ ×ₗ ℕ
  | fdsDiskSide _ _ => toLex (0,toLex (0,0))
  | media _ sequence _ => toLex (0,toLex (0,sequence.toNat))
  | gameBoyLinkState _ _ => toLex (0,toLex (1,0))
  | gameBoyLinkStateAtTick _ tick _ => toLex (tick.toNat,toLex (2,0))
  | gameBoyLink _ tick event => toLex (tick.toNat,toLex (3 + event.sortDiscriminant,0))
  | wonderSwanLink _ sessionCycle _ => toLex (sessionCycle.toNat,toLex (5,0))

def sortKey (event : ReplayEvent) : ℕ ×ₗ ℕ ×ₗ ℕ ×ₗ ℕ := toLex (event.frame.toNat,event.rank)

def canonicalCmp (left right : ReplayEvent) : Ordering := compare left.sortKey right.sortKey

def sortCanonical (events : List ReplayEvent) : List ReplayEvent :=
  events.mergeSort (fun left right => left.canonicalCmp right != .gt)

def Canonical (events : List ReplayEvent) : Prop :=
  events.Pairwise (fun left right => left.canonicalCmp right ≠ .gt)

theorem canonicalCmp_ne_gt (left right : ReplayEvent) :
    left.canonicalCmp right ≠ .gt ↔ left.sortKey ≤ right.sortKey := by
  rw [canonicalCmp,Ne,compare_gt_iff_gt,not_lt]

theorem canonicalCmp_bne (left right : ReplayEvent) :
    (left.canonicalCmp right != .gt) = decide (left.sortKey ≤ right.sortKey) := by
  rw [Bool.eq_iff_iff,bne_iff_ne,canonicalCmp_ne_gt,decide_eq_true_iff]

theorem sortCanonical_pairwise (events : List ReplayEvent) : Canonical (sortCanonical events) := by
  have sorted := @List.pairwise_mergeSort ReplayEvent (fun left right => left.canonicalCmp right != .gt)
    (by simp only [canonicalCmp_bne,decide_eq_true_iff]; exact fun _ _ _ => le_trans)
    (by simp only [canonicalCmp_bne,Bool.or_eq_true,decide_eq_true_iff]; exact fun left right => le_total _ _) events
  exact sorted.imp (fun related => by simpa using related)

theorem sortCanonical_of_canonical (events : List ReplayEvent) (canonical : Canonical events) :
    sortCanonical events = events :=
  List.mergeSort_of_pairwise (canonical.imp (fun related => by simpa using related))

theorem mem_sortCanonical (events : List ReplayEvent) (event : ReplayEvent) :
    event ∈ sortCanonical events ↔ event ∈ events := List.mem_mergeSort

theorem length_sortCanonical (events : List ReplayEvent) : (sortCanonical events).length = events.length :=
  List.length_mergeSort events

end ReplayEvent

namespace ReplayGameBoyLinkState

def hasMasterOwnedTransfer (state : ReplayGameBoyLinkState) : Bool :=
  state.pendingMasterByte.isSome || state.pendingMasterResponse.isSome || state.pendingMasterCompletionReady ||
    state.queuedMasterAction.isSome

def validate (state : ReplayGameBoyLinkState) : Except String Unit :=
  match state.pendingPassiveCompletion with
  | none => .ok ()
  | some completion => do
    ensure state.peerPresent "GB passive completion requires a connected link peer"
    ensure (completion.remainingTCycles ≠ 0) "GB passive completion has zero remaining T-cycles"
    ensure (completion.remainingTCycles ≤ 4096)
      s!"GB passive completion delay {completion.remainingTCycles} exceeds the maximum serial period"
    ensure (!state.hasMasterOwnedTransfer)
      "GB link state combines passive completion with master-owned transfer state"

end ReplayGameBoyLinkState

/-- A continuation of a transfer that was under way when the recording began has to
agree with the link state it starts from. -/
def ReplayGameBoyLinkCoordinatorState.validateAgainst (self : ReplayGameBoyLinkCoordinatorState)
    (linkState : ReplayGameBoyLinkState) : Except String Unit := do
  linkState.validate
  ensure (self.transferId ≠ 0) "GB master continuation has transfer ID zero"
  ensure linkState.peerPresent "GB master continuation requires a connected link peer"
  ensure (linkState.pendingMasterByte = some self.action.outByte)
    "GB master continuation action does not match the pending core byte"
  ensure (linkState.queuedMasterAction = none) "GB master continuation cannot also have a queued core action"
  ensure (linkState.pendingPassiveCompletion = none) "GB master continuation cannot also have a passive completion"
  ensure (linkState.serialGeneration = self.action.serialGeneration)
    "GB master continuation action has a stale serial generation"
  ensure (¬(self.action.clockPeriodTCycles = 0 ∨ 4096 < self.action.clockPeriodTCycles))
    s!"GB master continuation period {self.action.clockPeriodTCycles} is outside the supported serial range"
  match self.owner,self.reply,linkState.pendingMasterResponse with
  | .replayAwaitingReply,none,none => .ok ()
  | .replayAwaitingReply,some _,_ => .error "GB replay-owned master continuation already contains a reply"
  | .replayAwaitingReply,none,some _ => .error "GB replay-owned master continuation conflicts with a core reply"
  | .coreHasReply,none,_ => .error "GB core-owned master continuation is missing its applied reply"
  | .coreHasReply,some _,none => .error "GB core-owned master continuation has no applied core reply"
  | .coreHasReply,some reply,some coreReply =>
    if reply.outByte = coreReply then
      ensure (!linkState.pendingMasterCompletionReady)
        "GB core-owned master continuation cannot remain at the completion boundary"
    else
      .error "GB core-owned master continuation reply does not match the core response"

end ZeffBoy.Replay
