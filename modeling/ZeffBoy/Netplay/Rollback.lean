import ZeffBoy.Library.Checked
import ZeffBoy.Library.OrderedMap

/-! The rollback timeline: local sampling, remote arrival, prediction, correction
and retirement. Frames are unsigned 64-bit counters; every addition of the code
is checked, and a method that fails half-way leaves its partial update behind. -/
namespace ZeffBoy.Netplay
open Library

inductive Player
  | one
  | two
deriving DecidableEq, Repr

structure Ports (α : Type) where
  one : α
  two : α
deriving DecidableEq, Repr

def other : Player → Player
  | .one => .two
  | .two => .one

namespace Ports
variable {α : Type}

def get (ports : Ports α) : Player → α
  | .one => ports.one
  | .two => ports.two

def set (ports : Ports α) (player : Player) (value : α) : Ports α :=
  match player with
  | .one => {ports with one := value}
  | .two => {ports with two := value}

def both (value : α) : Ports α := ⟨value,value⟩

def complete (ports : Ports (Option α)) : Bool := ports.one.isSome && ports.two.isSome

theorem ext_get {left right : Ports α} (same : ∀ player, left.get player = right.get player) : left = right := by
  cases left; cases right
  simpa [get] using ⟨same .one,same .two⟩

@[simp] theorem get_set_self (ports : Ports α) (player : Player) (value : α) :
    (ports.set player value).get player = value := by
  cases player <;> rfl

theorem get_set (ports : Ports α) (player reader : Player) (value : α) :
    (ports.set player value).get reader = if reader = player then value else ports.get reader := by
  cases player <;> cases reader <;> rfl

@[simp] theorem set_get (ports : Ports α) (player : Player) : ports.set player (ports.get player) = ports := by
  cases player <;> rfl

@[simp] theorem get_both (value : α) (player : Player) : (both value).get player = value := by
  cases player <;> rfl

theorem complete_iff (ports : Ports (Option α)) : ports.complete ↔ ∀ player, (ports.get player).isSome := by
  constructor
  · intro all player
    simp only [complete,Bool.and_eq_true] at all
    cases player
    · exact all.1
    · exact all.2
  · intro all
    simp only [complete,Bool.and_eq_true]
    exact ⟨all .one,all .two⟩

end Ports

@[simp] theorem other_other (player : Player) : other (other player) = player := by
  cases player <;> rfl

theorem other_ne (player : Player) : other player ≠ player := by
  cases player <;> simp [other]

theorem eq_or_other (player reader : Player) : reader = player ∨ reader = other player := by
  cases player <;> cases reader <;> simp [other]

def predictionWindow : Nat := 8

def retainedInputs : Nat := 32

structure InputDelay where
  frames : Nat
  bounded : frames ≤ 8
deriving DecidableEq

namespace InputDelay

def new (frames : Nat) : Except String InputDelay :=
  if bounded : frames ≤ 8 then .ok ⟨frames,bounded⟩ else .error "input delay must be between 0 and 8 frames"

def pauseLead (delay : InputDelay) : Nat := predictionWindow + 2 * delay.frames

def lookahead (delay : InputDelay) : Nat := delay.pauseLead + 1

end InputDelay

structure FrameInput where
  frame : Nat
  ports : Ports UInt16
deriving DecidableEq, Repr

structure Timeline where
  player : Player
  inputDelay : InputDelay
  frame : Nat
  confirmed : Nat
  inputs : OrderedMap (Ports (Option UInt16))
  executed : List FrameInput
  basePorts : Ports UInt16
  dirty : Option Nat
deriving DecidableEq

namespace Timeline

def withDelay (player : Player) (inputDelay : InputDelay) : Timeline where
  player := player
  inputDelay := inputDelay
  frame := 0
  confirmed := inputDelay.frames
  inputs := OrderedMap.ofRange 0 inputDelay.frames (fun _ => .both (some 0))
  executed := []
  basePorts := .both 0
  dirty := none

def confirmedFrame (t : Timeline) : Nat := min t.confirmed t.frame

def predictionDepth (t : Timeline) : Nat := t.frame - t.confirmed

def entry (t : Timeline) (frame : Nat) : Ports (Option UInt16) := (t.inputs.get? frame).getD (.both none)

/-- The confirmation loop. Every turn consumes one entry, so the number of
entries is enough fuel; `confirmLoop_stops` says that the loop ends by its test. -/
def confirmLoop (inputs : OrderedMap (Ports (Option UInt16))) : Nat → Nat → Call Nat Unit
  | 0,confirmed => (.ok (),confirmed)
  | fuel + 1,confirmed =>
    if (inputs.get? confirmed).any Ports.complete then
      match checkedAdd confirmed 1 "frame overflow" with
      | .ok next => confirmLoop inputs fuel next
      | .error message => (.error message,confirmed)
    else (.ok (),confirmed)

def updateConfirmation (t : Timeline) : Call Timeline Unit :=
  let (result,confirmed) := confirmLoop t.inputs t.inputs.size t.confirmed
  (result,{t with confirmed := confirmed})

-- Stores one port of a frame in the sparse map, together with the new dirty mark.
def record (t : Timeline) (frame : Nat) (player : Player) (value : UInt16) (dirty : Option Nat) : Timeline :=
  {t with inputs := t.inputs.insert frame ((t.entry frame).set player (some value)), dirty := dirty}

def sampleLocal (t : Timeline) (buttons : UInt16) : Call Timeline (Nat × UInt16) :=
  match checkedAdd t.frame t.inputDelay.frames "frame overflow" with
  | .error message => (.error message,t)
  | .ok frame =>
    let value := ((t.entry frame).get t.player).getD buttons
    let (result,t) := (t.record frame t.player value t.dirty).updateConfirmation
    (result.map (fun _ => (frame,value)),t)

-- A map without entries counts from frame zero.
def oldest (t : Timeline) : Nat := (t.inputs.first?.map Prod.fst).getD 0

def receiveRemote (t : Timeline) (frame : Nat) (buttons : UInt16) : Call Timeline Bool :=
  match checkedAdd t.frame t.inputDelay.lookahead "frame overflow" with
  | .error message => (.error message,t)
  | .ok upper =>
    if upper < frame then (.error "remote input exceeds prediction window",t)
    else if frame < t.oldest then (.ok false,t)
    else
      let peer := other t.player
      match (t.entry frame).get peer with
      | some previous =>
        if previous = buttons then (.ok false,t) else (.error "remote input was rewritten",t)
      | none =>
        let mispredicted := t.executed.any (fun used => used.frame = frame && used.ports.get peer != buttons)
        let dirty := if mispredicted then some ((t.dirty.map (min · frame)).getD frame) else t.dirty
        let (result,t) := (t.record frame peer buttons dirty).updateConfirmation
        (result.map (fun _ => true),t)

/-- Inputs of a frame: on each port the latest known value, else the retired base. -/
def portsAt (t : Timeline) (frame : Nat) : Ports UInt16 :=
  let port := fun player =>
    (t.inputs.latest? frame (fun entry => entry.get player)).getD (t.basePorts.get player)
  ⟨port .one,port .two⟩

def nextFrame (t : Timeline) : Except String (Option FrameInput) := do
  ensure (t.dirty = none) "correction must precede simulation"
  if predictionWindow ≤ t.frame - t.confirmed then return none
  return some ⟨t.frame,t.portsAt t.frame⟩

def retire (t : Timeline) : Timeline :=
  let confirmed := t.confirmedFrame
  let oldest := confirmed - retainedInputs
  {t with
    executed := t.executed.dropWhile (fun used => used.frame < confirmed)
    basePorts := t.portsAt oldest
    inputs := t.inputs.retain (fun frame _ => oldest ≤ frame)}

def advance (t : Timeline) (input : FrameInput) : Call Timeline Unit :=
  match t.nextFrame with
  | .error message => (.error message,t)
  | .ok next =>
    if next = some input then
      match checkedAdd t.frame 1 "frame overflow" with
      | .error message => (.error message,t)
      | .ok frame => (.ok (),retire {t with frame := frame, executed := t.executed ++ [input]})
    else (.error "incorrect frame input",t)

def correction (t : Timeline) : Except String (List FrameInput) :=
  match t.dirty with
  | none => .ok []
  | some dirty => do
    ensure (t.frame - dirty ≤ predictionWindow) "correction exceeds retained window"
    return (List.range' dirty (t.frame - dirty)).map (fun frame => ⟨frame,t.portsAt frame⟩)

def replaceUsed (replacement : FrameInput) : List FrameInput → List FrameInput
  | [] => []
  | used::rest =>
    if used.frame = replacement.frame then replacement::rest else used::replaceUsed replacement rest

/-- The replacement loop of a correction; it stops at the first frame that is not executed. -/
def replaceAll : List FrameInput → List FrameInput → Call (List FrameInput) Unit
  | [],executed => (.ok (),executed)
  | replacement::rest,executed =>
    if executed.any (fun used => used.frame = replacement.frame) then
      replaceAll rest (replaceUsed replacement executed)
    else (.error "missing executed frame",executed)

def corrected (t : Timeline) (replayed : List FrameInput) : Call Timeline Unit :=
  match t.correction with
  | .error message => (.error message,t)
  | .ok plan =>
    if replayed = plan then
      match replaceAll replayed t.executed with
      | (.error message,executed) => (.error message,{t with executed := executed})
      | (.ok _,executed) => (.ok (),retire {t with executed := executed, dirty := none})
    else (.error "incorrect correction trajectory",t)

end Timeline
end ZeffBoy.Netplay
