import ZeffBoy.Netplay.Checkpoints
import ZeffBoy.Netplay.Pause

/-! A netplay session over an arbitrary deterministic core.
The emulator is held beside the session it is lent to. What depends on the wall
clock (deadlines, heartbeats, rate limits) is read from a clock argument. A call
that fails ends the session, so only successful calls have a state. -/
namespace ZeffBoy.Netplay
open Library Wire

def eventBudget : Nat := 32

def responseCapacity : Nat := 64

/-- A deterministic core. A snapshot is the state itself. -/
structure Core (State Out : Type) where
  step : State → Ports UInt16 → State × Out
  frameCount : State → Nat
  inputMask : UInt16
  logical : State → Nat → Digest
  video : State → Digest
  audio : State → Out → Digest
  persistent : State → Digest

structure FrameBucket (Out : Type) where
  ports : Ports UInt16
  audio : Out
  checkpoint : Option Message

inductive Response (Out : Type)
  | ready
  | networkStats
  | chat (mine : Bool) (text : String)
  | paused (frame : Nat) (mine peer : Bool)
  | frame (checkpoint : Message) (ports : Ports UInt16) (audio : Out)
  | audio (frame : Nat) (audio : Out)
  | presented (frame confirmed : Nat) (changed stepComplete : Bool) (predictionDepth rollbackFrames : Nat)

inductive Event
  | ready
  | failed (reason : String)
  | message (message : Message) (chatAllowed : Bool)

structure Clock where
  admissionLate : Bool
  stallLate : Bool
  heartbeatDue : Bool
  statsDue : Bool

structure Published (Out : Type) where
  frame : Nat
  ports : Ports UInt16
  audio : Out

/-- The journal lists what was published; no call reads it. -/
structure Session (State Out : Type) where
  backend : State
  player : Player
  timeline : Timeline
  snapshots : OrderedMap State
  outputs : OrderedMap (FrameBucket Out)
  committed : Nat
  responses : List (Response Out)
  hashes : Hashes
  pause : PauseControl
  verification : Bool
  ready : Bool
  stalled : Bool
  sampled : Option Nat
  peerProgress : Nat × Nat
  inbox : List Event
  outbox : List Message
  journal : List (Published Out)

namespace Session
variable {State Out : Type} (core : Core State Out)

def start (backend : State) (player : Player) (delay : InputDelay) (verification : Bool) :
    Except String (Session State Out) := do
  ensure (core.frameCount backend = 0) "netplay rollback requires fresh frame zero"
  return {
    backend := backend
    player := player
    timeline := Timeline.withDelay player delay
    snapshots := OrderedMap.empty.insert 0 backend
    outputs := .empty
    committed := 0
    responses := []
    hashes := .new
    pause := .withDelay delay
    verification := verification
    ready := false
    stalled := false
    sampled := none
    peerProgress := (0,0)
    inbox := []
    outbox := []
    journal := [] }

def send (s : Session State Out) (message : Message) : Session State Out := {s with outbox := s.outbox ++ [message]}

def queue (s : Session State Out) (response : Response Out) : Except String (Session State Out) := do
  ensure (s.responses.length < responseCapacity) "netplay response queue is full"
  return {s with responses := s.responses ++ [response]}

def validateInput (buttons : UInt16) : Except String Unit :=
  ensure (buttons &&& ~~~core.inputMask = 0) "unsupported netplay input bits"

def checkpointWithSnapshot (backend : State) (frame : Nat) (audio : Out) : Except String Message := do
  ensure (core.frameCount backend = frame) "netplay core frame drift"
  return .checkpoint frame (core.logical backend frame) (core.video backend) (core.audio backend audio)
    (core.persistent backend)

-- Every frame is hashed when all frames are verified, else every periodic one.
def takeCheckpoint (verification : Bool) (backend : State) (completed : Nat) (audio : Out) :
    Except String (Option Message) :=
  if verification ∨ completed % hashInterval = 0 then some <$> checkpointWithSnapshot core backend completed audio
  else .ok none

def execute (s : Session State Out) (input : FrameInput) : Except String (Session State Out) := do
  ensure (core.frameCount s.backend = input.frame) "rollback core frame differs"
  validateInput core input.ports.one
  validateInput core input.ports.two
  let (backend,audio) := core.step s.backend input.ports
  let completed ← checkedAdd input.frame 1 "frame overflow"
  ensure (core.frameCount backend = completed) "rollback snapshot frame differs"
  let checkpoint ← takeCheckpoint core s.verification backend completed audio
  return {s with
    backend := backend
    snapshots := s.snapshots.insert completed backend
    outputs := s.outputs.insert completed ⟨input.ports,audio,checkpoint⟩}

/-- Replays from the snapshot of the first wrong frame; the number of frames replayed is returned. -/
def correct (s : Session State Out) : Except String (Session State Out × Nat) := do
  let plan ← s.timeline.correction
  match plan with
  | [] => return (s,0)
  | first::_ => do
    let snapshot ← context (s.snapshots.get? first.frame) "rollback snapshot retired"
    let s := {s with
      backend := snapshot
      snapshots := s.snapshots.retain (fun key _ => key ≤ first.frame)
      outputs := s.outputs.retain (fun key _ => key ≤ first.frame)}
    let s ← plan.foldlM (execute core) s
    let (_,timeline) ← attempt (s.timeline.corrected plan)
    ensure (core.frameCount s.backend = timeline.frame) "corrected core frame differs"
    return ({s with timeline := timeline},plan.length)

def exchangeCheckpoint (s : Session State Out) (frame : Nat) (bucket : FrameBucket Out) :
    Except String (Session State Out) :=
  if frame % hashInterval = 0 then do
    let checkpoint ← context bucket.checkpoint "missing periodic checkpoint"
    let (_,hashes) ← attempt (s.hashes.local_ checkpoint)
    return {s with hashes := hashes}.send checkpoint
  else .ok s

def frameResponse (verification : Bool) (frame : Nat) (bucket : FrameBucket Out) : Except String (Response Out) :=
  if verification then do
    let checkpoint ← context bucket.checkpoint "missing verification checkpoint"
    return .frame checkpoint bucket.ports bucket.audio
  else .ok (.audio frame bucket.audio)

def publish (s : Session State Out) (frame : Nat) (bucket : FrameBucket Out) : Except String (Session State Out) := do
  let s ← s.exchangeCheckpoint frame bucket
  let response ← frameResponse s.verification frame bucket
  let s ← s.queue response
  return {s with committed := frame, journal := s.journal ++ [⟨frame,bucket.ports,bucket.audio⟩]}

-- The loop takes one output a turn, so the number of outputs is enough fuel.
def commitLoop (confirmed : Nat) : Nat → Session State Out → Except String (Session State Out)
  | 0,s => .ok s
  | fuel + 1,s =>
    match s.outputs.first? with
    | none => .ok s
    | some (frame,bucket) =>
      if frame ≤ confirmed then do
        let s ← {s with outputs := s.outputs.popFirst}.publish frame bucket
        commitLoop confirmed fuel s
      else .ok s

def commit (s : Session State Out) : Except String (Session State Out) := do
  let confirmed := s.timeline.confirmedFrame
  let s ← commitLoop confirmed s.outputs.size s
  let s := {s with snapshots := s.snapshots.retain (fun frame _ => confirmed ≤ frame)}
  ensure (s.snapshots.size ≤ predictionWindow + 1) "rollback snapshot window exceeded"
  ensure (s.outputs.size ≤ predictionWindow) "rollback output window exceeded"
  return s

def present (s : Session State Out) (stepComplete changed : Bool) (rollbackFrames : Nat) :
    Except String (Session State Out) :=
  s.queue (.presented s.timeline.frame s.committed changed stepComplete s.timeline.predictionDepth rollbackFrames)

def checkWaiting (s : Session State Out) (clock : Clock) : Except String Unit := do
  ensure (s.ready ∨ ¬ clock.admissionLate) "netplay admission stalled"
  ensure (¬ s.stalled ∨ ¬ clock.stallLate) "netplay prediction stalled"

def sendProgress (s : Session State Out) (force : Bool) (clock : Clock) : Session State Out :=
  if s.ready && (force || clock.heartbeatDue) then
    s.send (.progress s.timeline.frame s.timeline.confirmedFrame)
  else s

def reportPause (s : Session State Out) : Except String (Session State Out) :=
  let (pause,report) := s.pause.status s.timeline.frame s.timeline.confirmedFrame
  let s := {s with pause := pause}
  match report with
  | none => .ok s
  | some (mine,peer) => s.queue (.paused s.timeline.frame mine peer)

def reportNetworkStats (s : Session State Out) (clock : Clock) : Session State Out :=
  if s.ready && clock.statsDue && s.responses.isEmpty then {s with responses := s.responses ++ [.networkStats]} else s

def handleMessage (s : Session State Out) (message : Message) (chatAllowed : Bool) :
    Except String (Session State Out) :=
  match message with
  | .chat text => if chatAllowed then s.queue (.chat false text) else .ok s
  | .input player frame buttons => do
    ensure (player ≠ s.player) "remote input owns the local port"
    validateInput core buttons
    let (_,timeline) ← attempt (s.timeline.receiveRemote frame buttons)
    return {s with timeline := timeline}
  | .progress frame confirmed => do
    ensure (confirmed ≤ frame) "invalid peer progress"
    let upper ← checkedAdd s.timeline.frame s.timeline.inputDelay.lookahead "frame overflow"
    ensure (frame ≤ upper) "peer progress exceeds lookahead"
    ensure (s.peerProgress.1 ≤ frame ∧ s.peerProgress.2 ≤ confirmed) "peer progress moved backwards"
    return {s with peerProgress := (frame,confirmed)}
  | .pauseChange request frame paused => do
    let (pause,ack) ← s.pause.observe s.timeline.frame request frame paused
    return {s with pause := pause}.send ack
  | .pauseAck request => do
    let (pause,change) ← s.pause.acknowledge s.timeline.frame request
    let s := {s with pause := pause}
    return (change.map s.send).getD s
  | .pause _ _ => .error "legacy pause message in rollback session"
  | .checkpoint frame logical video audio persistent => do
    let (_,hashes) ← attempt (s.hashes.remote (.checkpoint frame logical video audio persistent) s.timeline.frame
      s.timeline.inputDelay.lookahead)
    return {s with hashes := hashes}
  | .close frame => .error s!"netplay peer closed at frame {frame}"

def handleEvent (s : Session State Out) : Event → Except String (Session State Out)
  | .ready => do
    ensure (s.ready = false) "unexpected admission completion"
    {s with ready := true}.queue .ready
  | .failed reason => .error reason
  | .message message chatAllowed => do
    ensure s.ready "netplay message before admission"
    s.handleMessage core message chatAllowed

-- Handles at most `budget` of the events that have arrived.
def drain : Nat → Session State Out → Except String (Session State Out)
  | 0,s => .ok s
  | budget + 1,s =>
    match s.inbox with
    | [] => .ok s
    | event::rest => do
      let s ← {s with inbox := rest}.handleEvent core event
      drain budget s

-- A batch may start with an event that was taken from the network before.
def handleEvents (s : Session State Out) : Option Event → Except String (Session State Out)
  | none => drain core eventBudget s
  | some event => do
    let s ← s.handleEvent core event
    drain core (eventBudget - 1) s

def batch (s : Session State Out) (first : Option Event) (clock : Clock) : Except String (Session State Out × Nat) := do
  let s ← s.handleEvents core first
  let (s,rollbackFrames) ← s.correct core
  let next ← s.timeline.nextFrame
  let moving := next.isSome || s.pause.barrier.any (fun barrier => barrier ≤ s.timeline.confirmedFrame)
  let s := if moving then {s with stalled := false} else s
  let s ← s.commit
  let s ← s.reportPause
  return ((s.sendProgress false clock).reportNetworkStats clock,rollbackFrames)

-- A sample is sent once for each scheduled frame.
def announce (s : Session State Out) (scheduled : Nat) (value : UInt16) : Session State Out :=
  if s.sampled = some scheduled then s
  else {s.send (.input s.player scheduled value) with sampled := some scheduled}

/-- Sampling and simulation of a step that no barrier holds back. The result tells whether a frame was simulated. -/
def simulate (s : Session State Out) (buttons : UInt16) : Except String (Session State Out × Bool) := do
  let ((scheduled,value),timeline) ← attempt (s.timeline.sampleLocal buttons)
  let s := {s with timeline := timeline}.announce scheduled value
  match ← s.timeline.nextFrame with
  | none => return (s,false)
  | some input => do
    let s ← s.execute core input
    let (_,timeline) ← attempt (s.timeline.advance input)
    return ({s with timeline := timeline},true)

def simulateUnless (s : Session State Out) (blockedByPause : Bool) (buttons : UInt16) :
    Except String (Session State Out × Bool) :=
  if blockedByPause then .ok (s,false) else s.simulate core buttons

def step (s : Session State Out) (buttons : UInt16) (before after : Clock) : Except String (Session State Out) := do
  validateInput core buttons
  s.checkWaiting before
  ensure s.ready "netplay admission is pending"
  let (s,rollbackFrames) ← s.batch core none before
  let frame := s.timeline.frame
  let blockedByPause := s.pause.barrier.any (fun barrier => barrier ≤ frame)
  let (s,advanced) ← s.simulateUnless core blockedByPause buttons
  let s := {s with stalled := !(advanced || (blockedByPause && frame ≤ s.timeline.confirmedFrame))}
  let s ← s.commit
  let s ← s.reportPause
  let s := s.sendProgress true after
  let s ← s.present true (advanced || rollbackFrames != 0) rollbackFrames
  s.checkWaiting after
  return s

def requestPause (s : Session State Out) (paused : Bool) : Except String (Session State Out) := do
  ensure s.ready "netplay admission is pending"
  let (pause,change) ← s.pause.request s.timeline.frame paused
  let s := {s with pause := pause}
  return (change.map s.send).getD s

def sendChat (s : Session State Out) (text : String) (allowed : Bool) : Except String (Session State Out) := do
  ensure s.ready "Connect before sending a message."
  validateChat (trim text)
  ensure allowed "Wait a moment before sending again."
  (s.send (.chat (trim text))).queue (.chat true (trim text))

def popResponse (s : Session State Out) : Session State Out := {s with responses := s.responses.tail}

-- A batch outside a step is presented when it changed something.
def presentChange (s : Session State Out) (before rollbackFrames : Nat) : Except String (Session State Out) :=
  if rollbackFrames ≠ 0 ∨ s.committed ≠ before then s.present false (rollbackFrames != 0) rollbackFrames else .ok s

def settle (s : Session State Out) (first : Option Event) (clock : Clock) : Except String (Session State Out) := do
  let before := s.committed
  let (s,rollbackFrames) ← s.batch core first clock
  let s ← s.presentChange before rollbackFrames
  return s.popResponse

def poll (s : Session State Out) (clock : Clock) : Except String (Session State Out) := do
  s.checkWaiting clock
  if s.responses.isEmpty then s.settle core none clock else return s.popResponse

def acceptEvent (s : Session State Out) (event : Event) (clock : Clock) : Except String (Session State Out) := do
  s.checkWaiting clock
  s.settle core (some event) clock

end Session
end ZeffBoy.Netplay
