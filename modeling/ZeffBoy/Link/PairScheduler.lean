import ZeffBoy.Library.Checked
import ZeffBoy.Link.Uart

/-! Two WonderSwans on one cable, run by one scheduler.
The machine that is behind is stepped, or fast-forwarded while its CPU is halted. A completed byte waits on the cable until both
clocks have reached the tick of its completion. What an instruction does is left open. -/
namespace ZeffBoy.Link.WonderSwan.Local
open Library

inductive Endpoint
  | zero
  | one
deriving DecidableEq

namespace Endpoint

def index : Endpoint → Nat
  | zero => 0
  | one => 1

def other : Endpoint → Endpoint
  | zero => one
  | one => zero

end Endpoint

def ws11InputMask : UInt16 := 0x07FF
def maxCableEvents : Nat := 256
def maxSteps : Nat := 200000
def maxBufferedSamples : Nat := 16384

structure CableEvent where
  tick : Nat
  sender : Endpoint
  generation : UInt64
  byte : UInt8
  baudBps : UInt32
deriving DecidableEq

def CableEvent.before (first second : CableEvent) : Bool :=
  first.tick < second.tick ||
    (first.tick = second.tick && (first.sender.index < second.sender.index ||
      (first.sender.index = second.sender.index && first.generation ≤ second.generation)))

structure Schedule where
  epochs : Endpoint → Nat
  events : List CableEvent
  frame : Nat

/-- The machines of a pair, between two instructions and with no service of the bus deferred. What an instruction does to a
machine is left open. -/
structure Machines (M Digest Sample : Type) where
  busCycles : M → Nat
  completedTx : M → List TxEvent
  takeTx : M → M
  receive : M → UInt8 → M
  canHalt : M → Bool
  nextEvent : M → Nat
  advanceHalted : M → Nat → M
  stepInstruction : M → M
  endFrameService : M → M
  setInput : M → UInt8 → UInt8 → M
  clearFrameReady : M → M
  countFrame : M → M
  drainAudio : M → M
  audio : M → List Sample
  bufferedSamples : M → Nat
  suspended : M → Bool
  trapped : M → Bool
  untraced : M → Bool
  fullAudio : M → Bool
  linkIdentity : M → Nat
  sharedRom : M → Nat
  romHash : M → Digest
  romDigest : M → Digest
  machineHash : M → Except String Digest
  pairHash : (Endpoint → Digest) → Schedule → Digest

structure Cable (M : Type) where
  machines : Endpoint → M
  schedule : Schedule

/-- A moment at which the scheduler hands over bytes: what it found completed since the last one, and what it handed over. -/
structure Boundary (M : Type) where
  collected : List CableEvent
  ticks : Endpoint → Nat
  found : Endpoint → M
  handed : List CableEvent
  left : Endpoint → M

namespace Cable
variable {M Digest Sample : Type} (m : Machines M Digest Sample)

def setMachine (cable : Cable M) (side : Endpoint) (machine : M) : Cable M :=
  {cable with machines := Function.update cable.machines side machine}

def setEvents (cable : Cable M) (events : List CableEvent) : Cable M :=
  {cable with schedule := {cable.schedule with events := events}}

def ticks (cable : Cable M) : Except String (Endpoint → Nat) := do
  let first ← checkedSub (m.busCycles (cable.machines .zero)) (cable.schedule.epochs .zero)
    "paired bus clock moved before its epoch"
  let second ← checkedSub (m.busCycles (cable.machines .one)) (cable.schedule.epochs .one)
    "paired bus clock moved before its epoch"
  .ok fun
    | .zero => first
    | .one => second

def collectFrom (sender : Endpoint) : List TxEvent → Cable M → Call (Cable M) (List CableEvent)
  | [],cable => (.ok [],cable)
  | event::queue,cable =>
    let cable := cable.setMachine sender (m.takeTx (cable.machines sender))
    if maxCableEvents ≤ cable.schedule.events.length then (.error "paired cable queue overflow",cable)
    else if event.completedCycle < cable.schedule.epochs sender then (.error "paired TX predates its bus epoch",cable)
    else
      let taken : CableEvent :=
        ⟨event.completedCycle - cable.schedule.epochs sender,sender,event.generation,event.byte,event.baudBps⟩
      let (rest,cable) := collectFrom sender queue (cable.setEvents (cable.schedule.events ++ [taken]))
      (rest.map (taken::·),cable)

def collect (cable : Cable M) : Call (Cable M) (List CableEvent) :=
  match collectFrom m .zero (m.completedTx (cable.machines .zero)) cable with
  | (.error error,cable) => (.error error,cable)
  | (.ok first,cable) =>
    match collectFrom m .one (m.completedTx (cable.machines .one)) cable with
    | (.error error,cable) => (.error error,cable)
    | (.ok second,cable) =>
      (.ok (first ++ second),cable.setEvents (cable.schedule.events.mergeSort CableEvent.before))

def handOver (machines : Endpoint → M) (event : CableEvent) : Endpoint → M :=
  Function.update machines event.sender.other (m.receive (machines event.sender.other) event.byte)

-- The bytes that were due, those that are not, and the machines that have received the first.
def deliverDue (watermark : Nat) : List CableEvent → (Endpoint → M) → List CableEvent × List CableEvent × (Endpoint → M)
  | [],machines => ([],[],machines)
  | event::events,machines =>
    if event.tick ≤ watermark then
      let (handed,rest,machines) := deliverDue watermark events (handOver m machines event)
      (event::handed,rest,machines)
    else ([],event::events,machines)

/-- The bytes that both clocks have reached are handed over. The clocks and the bytes are returned as well. -/
def deliver (cable : Cable M) : Except String ((Endpoint → Nat) × List CableEvent × Cable M) := do
  let ticks ← cable.ticks m
  let (handed,rest,machines) := deliverDue m (min (ticks .zero) (ticks .one)) cable.schedule.events cable.machines
  .ok (ticks,handed,⟨machines,{cable.schedule with events := rest}⟩)

/-- The machine that is behind, among those that have not reached their limit. -/
def behind (limits ticks : Endpoint → Nat) : Endpoint :=
  if limits .zero ≤ ticks .zero ∨ (¬limits .one ≤ ticks .one ∧ ticks .one < ticks .zero) then .one else .zero

def bothHalted (cable : Cable M) (limits ticks : Endpoint → Nat) : Prop :=
  ¬limits .zero ≤ ticks .zero ∧ ¬limits .one ≤ ticks .one ∧ ticks .zero = ticks .one ∧
    m.canHalt (cable.machines .zero) = true ∧ m.canHalt (cable.machines .one) = true

instance (cable : Cable M) (limits ticks : Endpoint → Nat) : Decidable (cable.bothHalted m limits ticks) :=
  inferInstanceAs (Decidable (_ ∧ _))

def jointAdvance (cable : Cable M) (limits ticks : Endpoint → Nat) : Nat :=
  let advance := min (m.nextEvent (cable.machines .zero)) (m.nextEvent (cable.machines .one))
  let advance := min (min advance (limits .zero - ticks .zero)) (limits .one - ticks .one)
  match cable.schedule.events.head? with
  | some event => min advance (event.tick - ticks .zero)
  | none => advance

def loneAdvance (cable : Cable M) (limits ticks : Endpoint → Nat) (side : Endpoint) : Nat :=
  let advance := min (m.nextEvent (cable.machines side)) (limits side - ticks side)
  let advance := min advance (max (ticks side.other - ticks side) 1)
  match cable.schedule.events.find? fun event => event.sender ≠ side with
  | some event => min advance (max (event.tick - ticks side) 1)
  | none => advance

def act (cable : Cable M) (limits ticks : Endpoint → Nat) : Except String (Cable M) :=
  let side := behind limits ticks
  if cable.bothHalted m limits ticks then do
    let advance := cable.jointAdvance m limits ticks
    ensure (advance ≠ 0) "paired halt made no progress"
    .ok {cable with machines := fun side => m.advanceHalted (cable.machines side) advance}
  else if m.canHalt (cable.machines side) = true then do
    let advance := cable.loneAdvance m limits ticks side
    ensure (advance ≠ 0) "paired halt made no progress"
    .ok (cable.setMachine side (m.advanceHalted (cable.machines side) advance))
  else .ok (cable.setMachine side (m.stepInstruction (cable.machines side)))

def quiet (cable : Cable M) : Prop :=
  ∀ side, m.bufferedSamples (cable.machines side) ≤ maxBufferedSamples

instance (cable : Cable M) : Decidable (cable.quiet m) :=
  decidable_of_iff (m.bufferedSamples (cable.machines .zero) ≤ maxBufferedSamples ∧
    m.bufferedSamples (cable.machines .one) ≤ maxBufferedSamples)
    ⟨fun both side => match side with | .zero => both.1 | .one => both.2,fun all => ⟨all .zero,all .one⟩⟩

def running (cable : Cable M) : Prop :=
  ∀ side, m.suspended (cable.machines side) = false ∧ m.trapped (cable.machines side) = false

instance (cable : Cable M) : Decidable (cable.running m) :=
  decidable_of_iff
    ((m.suspended (cable.machines .zero) = false ∧ m.trapped (cable.machines .zero) = false) ∧
      m.suspended (cable.machines .one) = false ∧ m.trapped (cable.machines .one) = false)
    ⟨fun both side => match side with | .zero => both.1 | .one => both.2,fun all => ⟨all .zero,all .one⟩⟩

/-- One turn of a machine, and what both have completed by then. -/
def turn (cable : Cable M) (limits ticks : Endpoint → Nat) : Call (Cable M) (List CableEvent) :=
  let side := behind limits ticks
  let before := m.busCycles (cable.machines side)
  match cable.act m limits ticks with
  | .error error => (.error error,cable)
  | .ok cable =>
    if m.busCycles (cable.machines side) ≤ before then (.error "paired instruction made no bus progress",cable)
    else if ¬cable.running m then (.error "paired execution stopped or trapped",cable)
    else cable.collect m

/-- The turns up to the limits, with the boundaries between them. -/
def turns (limits : Endpoint → Nat) : Nat → List CableEvent → Cable M → Except String Unit × Cable M × List (Boundary M)
  | 0,_,cable => (.error "paired instruction budget exhausted",cable,[])
  | fuel + 1,collected,cable =>
    match cable.deliver m with
    | .error error => (.error error,cable,[])
    | .ok (reached,handed,delivered) =>
      let boundary : Boundary M := ⟨collected,reached,cable.machines,handed,delivered.machines⟩
      if ¬delivered.quiet m then (.error "paired audio buffer budget exhausted",delivered,[boundary])
      else
        match delivered.ticks m with
        | .error error => (.error error,delivered,[boundary])
        | .ok ticks =>
          if limits .zero ≤ ticks .zero ∧ limits .one ≤ ticks .one then (.ok (),delivered,[boundary])
          else
            match delivered.turn m limits ticks with
            | (.error error,cable) => (.error error,cable,[boundary])
            | (.ok collected,cable) =>
              let (result,cable,later) := turns limits fuel collected cable
              (result,cable,boundary::later)

def run (cable : Cable M) (limits : Endpoint → Nat) : Except String Unit × Cable M × List (Boundary M) :=
  match cable.collect m with
  | (.error error,cable) => (.error error,cable,[])
  | (.ok collected,cable) => turns m limits maxSteps collected cable

end Cable

/-- `WonderSwanLinkPair`. The contexts of the machines are compared by address. -/
structure LinkPair (Digest : Type) where
  owner : Nat
  schedule : Schedule
  expected : Endpoint → Digest
  media : Endpoint → Digest
  identities : Endpoint → Nat
  mediaRom : Endpoint → Nat
  valid : Bool

structure PairSnapshot (M Digest : Type) where
  owner : Nat
  machines : Endpoint → M
  schedule : Schedule
  checksum : Digest

structure PairFrame (Sample : Type) where
  frame : Nat
  audio : Endpoint → List Sample
  busTicks : Endpoint → Nat

/-- A pair together with the machines that are handed to its methods. -/
structure World (M Digest : Type) where
  machines : Endpoint → M
  pair : LinkPair Digest

def eachEndpoint (check : Endpoint → Except String Unit) : Except String Unit := do
  check .zero
  check .one

section
variable {M Digest Sample : Type} [DecidableEq Digest] (m : Machines M Digest Sample)

def validateControls (machine : M) : Except String Unit := do
  ensure (m.untraced machine = true) "paired link excludes debugger and traces"
  ensure (m.fullAudio machine = true) "paired link requires full 48000 Hz audio"

def validate (machine : M) : Except String Unit := do
  ensure (m.suspended machine = false ∧ m.trapped machine = false) "paired machine stopped or trapped"
  validateControls m machine
  ensure (m.bufferedSamples machine ≤ maxBufferedSamples) "paired audio buffer budget exhausted"
  ensure ((m.completedTx machine).length ≤ maxCableEvents) "paired UART queue overflow"

def machineHashes (machines : Endpoint → M) : Except String (Endpoint → Digest) := do
  let first ← m.machineHash (machines .zero)
  let second ← m.machineHash (machines .one)
  .ok fun
    | .zero => first
    | .one => second

def validateSchedule (schedule : Schedule) : Except String Unit := do
  ensure (schedule.events.length ≤ maxCableEvents) "paired snapshot cable queue overflow"
  ensure (∀ event ∈ schedule.events, event.baudBps = 9600 ∨ event.baudBps = 38400) "invalid paired cable event"
  ensure (schedule.events.IsChain fun first second => first.before second = true) "unordered paired cable events"

def LinkPair.new (owner : Nat) (machines : Endpoint → M) : Except String (LinkPair Digest) := do
  ensure (m.linkIdentity (machines .zero) ≠ m.linkIdentity (machines .one))
    "paired endpoints require distinct machine contexts"
  eachEndpoint fun side => do
    validate m (machines side)
    ensure (m.romDigest (machines side) = m.romHash (machines side)) "paired media payload differs from its identity"
    ensure ((m.completedTx (machines side)).length = 0) "paired link cannot adopt completed bytes from an earlier cable"
  let expected ← machineHashes m machines
  .ok {
    owner := owner
    schedule := ⟨fun side => m.busCycles (machines side),[],0⟩
    expected := expected
    media := fun side => m.romHash (machines side)
    identities := fun side => m.linkIdentity (machines side)
    mediaRom := fun side => m.sharedRom (machines side)
    valid := true}

namespace LinkPair

def checkMedia (pair : LinkPair Digest) (machines : Endpoint → M) : Except String Unit :=
  ensure (m.sharedRom (machines .zero) = pair.mediaRom .zero ∧ m.sharedRom (machines .one) = pair.mediaRom .one)
    "paired immutable media context differs"

def checkContext (pair : LinkPair Digest) (machines : Endpoint → M) : Except String Unit := do
  ensure (m.linkIdentity (machines .zero) = pair.identities .zero ∧ m.linkIdentity (machines .one) = pair.identities .one)
    "foreign paired machine context"
  pair.checkMedia m machines
  ensure (m.romHash (machines .zero) = pair.media .zero ∧ m.romHash (machines .one) = pair.media .one) "foreign paired machines"
  let hashes ← machineHashes m machines
  ensure (hashes .zero = pair.expected .zero ∧ hashes .one = pair.expected .one)
    "paired machines were mutated outside the scheduler"
  eachEndpoint fun side => validateControls m (machines side)

def check (pair : LinkPair Digest) (machines : Endpoint → M) : Except String Unit := do
  ensure (pair.valid = true) "paired scheduler is retired"
  pair.checkContext m machines
  eachEndpoint fun side => validate m (machines side)

end LinkPair

namespace World

def cable (world : World M Digest) : Cable M := ⟨world.machines,world.pair.schedule⟩

-- The machines and the schedule as a run of the cable leaves them.
def settle (world : World M Digest) (cable : Cable M) : World M Digest :=
  ⟨cable.machines,{world.pair with schedule := cable.schedule}⟩

def retired (world : World M Digest) : World M Digest := {world with pair := {world.pair with valid := false}}

-- The assignment of the hashes fails when a machine cannot be encoded.
def rehash (world : World M Digest) : Call (World M Digest) Unit :=
  match machineHashes m world.machines with
  | .error error => (.error error,world)
  | .ok expected => (.ok (),{world with pair := {world.pair with expected := expected}})

def capture (world : World M Digest) : Except String (PairSnapshot M Digest) := do
  world.pair.check m world.machines
  validateSchedule world.pair.schedule
  let _ ← machineHashes m world.machines
  .ok ⟨world.pair.owner,world.machines,world.pair.schedule,m.pairHash world.pair.expected world.pair.schedule⟩

def restored (world : World M Digest) (snapshot : PairSnapshot M Digest) : Except String (World M Digest) := do
  world.pair.checkContext m world.machines
  ensure (snapshot.owner = world.pair.owner) "foreign paired snapshot"
  ensure (m.linkIdentity (snapshot.machines .zero) = world.pair.identities .zero ∧
    m.linkIdentity (snapshot.machines .one) = world.pair.identities .one ∧
    snapshot.schedule.epochs .zero = world.pair.schedule.epochs .zero ∧
    snapshot.schedule.epochs .one = world.pair.schedule.epochs .one) "paired snapshot machine context differs"
  world.pair.checkMedia m snapshot.machines
  ensure (m.romHash (snapshot.machines .zero) = world.pair.media .zero ∧
    m.romHash (snapshot.machines .one) = world.pair.media .one) "paired snapshot media differs"
  validateSchedule snapshot.schedule
  let expected ← machineHashes m snapshot.machines
  ensure (m.pairHash expected snapshot.schedule = snapshot.checksum) "paired snapshot checkpoint differs"
  eachEndpoint fun side => validate m (snapshot.machines side)
  .ok ⟨snapshot.machines,{world.pair with schedule := snapshot.schedule, expected := expected, valid := true}⟩

def restore (world : World M Digest) (snapshot : PairSnapshot M Digest) : Call (World M Digest) Unit :=
  match world.restored m snapshot with
  | .error error => (.error error,world)
  | .ok world => (.ok (),world)

def readyTo (world : World M Digest) (tick : Nat) : Except String Unit := do
  world.pair.check m world.machines
  let now ← world.cable.ticks m
  ensure ((now .zero ≤ tick ∧ tick - now .zero ≤ cyclesPerFrame * 2) ∧ now .one ≤ tick ∧ tick - now .one ≤ cyclesPerFrame * 2)
    "paired tick horizon is outside the bounded window"

def advanceTo (world : World M Digest) (tick : Nat) : Except String Unit × World M Digest × List (Boundary M) :=
  match world.readyTo m tick with
  | .error error => (.error error,world,[])
  | .ok () =>
    let start : Cable M := {world.cable with machines := fun side => m.endFrameService (world.machines side)}
    let (result,cable,boundaries) := start.run m fun _ => tick
    let world := world.settle cable
    let world := match result with
      | .ok _ => world
      | .error _ => world.retired
    match world.rehash m with
    | (.error error,world) => (.error error,world,boundaries)
    | (.ok _,world) => (result,world,boundaries)

-- Bits 4..7 are Y1..Y4, and 8..10 A, B, Start.
def buttons (input : UInt16) : UInt8 :=
  let start : UInt8 := (input >>> 10).toUInt8 &&& (1 : UInt8)
  (input.toUInt8 &&& (0xF0 : UInt8)) ||| ((input >>> 8).toUInt8 &&& (3 : UInt8)) ||| start <<< (3 : UInt8)

def readyFrame (world : World M Digest) (inputs : Endpoint → UInt16) : Except String Nat := do
  world.pair.check m world.machines
  ensure (inputs .zero &&& ~~~ws11InputMask = 0 ∧ inputs .one &&& ~~~ws11InputMask = 0) "invalid WS11 input"
  let frame ← checkedAdd world.pair.schedule.frame 1 "paired frame overflow"
  ensure (frame * cyclesPerFrame < 2^64) "paired bus horizon overflow"
  .ok frame

def closeFrame (world : World M Digest) (frame : Nat) : World M Digest :=
  ⟨fun side => m.drainAudio (m.countFrame (world.machines side)),
    {world.pair with schedule := {world.pair.schedule with frame := frame}}⟩

def primed (world : World M Digest) (inputs : Endpoint → UInt16) : Cable M :=
  {world.cable with
    machines := fun side =>
      m.clearFrameReady (m.setInput (m.endFrameService (world.machines side)) (buttons (inputs side))
        ((inputs side).toUInt8 &&& (0x0F : UInt8)))}

def advanceFrame (world : World M Digest) (inputs : Endpoint → UInt16) : Call (World M Digest) (PairFrame Sample) :=
  match world.readyFrame m inputs with
  | .error error => (.error error,world)
  | .ok frame =>
    let (result,cable,_) := (world.primed m inputs).run m fun _ => frame * cyclesPerFrame
    let world := world.settle cable
    match result with
    | .error error =>
      match world.retired.rehash m with
      | (.error hashing,world) => (.error hashing,world)
      | (.ok _,world) => (.error error,world)
    | .ok _ =>
      let audio := fun side => m.audio (m.countFrame (world.machines side))
      match (world.closeFrame m frame).rehash m with
      | (.error error,world) => (.error error,world)
      | (.ok _,world) =>
        match world.cable.ticks m with
        | .error error => (.error error,world)
        | .ok busTicks => (.ok ⟨frame,audio,busTicks⟩,world)

end World
end

end ZeffBoy.Link.WonderSwan.Local
