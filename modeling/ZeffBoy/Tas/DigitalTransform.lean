import ZeffBoy.Tas.InputPattern

/-! Transforms of the digital controls of a pattern.
A mask selects buttons and directions of the players. The transforms work on segments that
cover the pattern without gaps, and push what they make of them as spans again. -/
namespace ZeffBoy.Tas
open Library

structure TasDigitalInputMask where
  players : List.Vector TasControllerInput 5 := List.Vector.replicate 5 {}
deriving DecidableEq

inductive TasDigitalTransform
  | clear | invert | reverse
deriving DecidableEq

structure InputSegment where
  start : Nat
  stop : Nat
  input : TasInputFrame
deriving DecidableEq

def maskIsEmpty (mask : TasDigitalInputMask) : Bool :=
  mask.players.toList.all (fun player => player.buttons == 0 && player.dpad == 0)

/-- Rewrites the controls of every player together with the mask of that player. -/
def mapPlayers (input : TasInputFrame) (convert : Fin 5 → TasControllerInput → TasControllerInput) : TasInputFrame :=
  { input with players := List.Vector.ofFn (fun index => convert index (input.players.get index)) }

def clearChannels (input : TasInputFrame) (mask : TasDigitalInputMask) : TasInputFrame :=
  mapPlayers input (fun index player =>
    ⟨player.buttons &&& ~~~(mask.players.get index).buttons,player.dpad &&& ~~~(mask.players.get index).dpad⟩)

def invertChannels (input : TasInputFrame) (mask : TasDigitalInputMask) : TasInputFrame :=
  mapPlayers input (fun index player =>
    ⟨player.buttons ^^^ (mask.players.get index).buttons,player.dpad ^^^ (mask.players.get index).dpad⟩)

def selectChannels (input source : TasInputFrame) (mask : TasDigitalInputMask) : TasInputFrame :=
  mapPlayers input (fun index player =>
    let other := source.players.get index
    let selected := mask.players.get index
    ⟨(player.buttons &&& ~~~selected.buttons) ||| (other.buttons &&& selected.buttons),
      (player.dpad &&& ~~~selected.dpad) ||| (other.dpad &&& selected.dpad)⟩)

def reverseChannels (input mirrored : TasInputFrame) (mask : TasDigitalInputMask) : TasInputFrame :=
  selectChannels input mirrored mask

def overlayChannels (destination source : TasInputFrame) (mask : TasDigitalInputMask) : TasInputFrame :=
  selectChannels destination source mask

/-- The controls of one player, pressed or released where selected. -/
def pressChannels (input : TasInputFrame) (player : Nat) (buttonsMask dpadMask : UInt8) (pressed : Bool) : TasInputFrame :=
  mapPlayers input (fun index controller =>
    if index = player then
      ⟨(controller.buttons &&& ~~~buttonsMask) ||| (if pressed then buttonsMask else 0),
        (controller.dpad &&& ~~~dpadMask) ||| (if pressed then dpadMask else 0)⟩
    else controller)

def pushSegment (segments : List InputSegment) (start stop : Nat) (input : TasInputFrame) : Except String (List InputSegment) := do
  ensure (segments.length ≠ maxTasInputPatternTileSteps)
    s!"digital input transform exceeds the limit of {maxTasInputPatternTileSteps} candidate runs"
  return segments ++ [⟨start,stop,input⟩]

def pushGap (segments : List InputSegment) (cursor stop : Nat) : Except String (List InputSegment) :=
  if cursor < stop then pushSegment segments cursor stop {} else .ok segments

def pushActive (spans : List TasInputSpan) (span : TasInputSpan) : Except String (List TasInputSpan) :=
  if span.value ≠ {} then pushSpan spans span maxTasInputPatternSpans else .ok spans

def mergeSegments (merge : TasInputFrame → TasInputFrame → TasDigitalInputMask → TasInputFrame) (mask : TasDigitalInputMask)
    (spans : List TasInputSpan) (steps : Nat) (destinations sources : List InputSegment) :
    Except String (List TasInputSpan) :=
  match destinations, sources with
  | destination::destinations, source::sources =>
    match steps with
    | 0 => .error s!"digital input transform exceeds the limit of {maxTasInputPatternTileSteps} candidate runs"
    | steps + 1 => do
      let start := max destination.start source.start
      let stop := min destination.stop source.stop
      let input := merge destination.input source.input mask
      let spans ← pushActive spans ⟨start,stop - start,input⟩
      mergeSegments merge mask spans steps (if destination.stop = stop then destinations else destination::destinations)
        (if source.stop = stop then sources else source::sources)
  | _, _ => .ok spans

namespace TasInputPattern

/-- Covers the frames from a cursor on, the gaps between the spans by neutral segments. -/
def completeFrom (length : Nat) (segments : List InputSegment) (cursor : Nat) :
    List TasInputSpan → Except String (List InputSegment)
  | [] => pushGap segments cursor length
  | span::spans => do
    let segments ← pushGap segments cursor span.start
    let segments ← pushSegment segments span.start span.stop span.value
    completeFrom length segments span.stop spans

variable (pattern : TasInputPattern)

def completeSegments : Except String (List InputSegment) := completeFrom pattern.length [] 0 pattern.spans

def mergeMaskedSegments (destination source : List InputSegment) (mask : TasDigitalInputMask)
    (merge : TasInputFrame → TasInputFrame → TasDigitalInputMask → TasInputFrame) : Except String TasInputPattern := do
  let spans ← mergeSegments merge mask [] maxTasInputPatternTileSteps destination source
  new pattern.length spans

def clearMaskedChannels (mask : TasDigitalInputMask) : Except String TasInputPattern := do
  let spans ← pattern.spans.foldlM (fun spans span =>
    pushActive spans ⟨span.start,span.length,clearChannels span.value mask⟩) []
  new pattern.length spans

def invertMaskedChannels (mask : TasDigitalInputMask) : Except String TasInputPattern := do
  let segments ← pattern.completeSegments
  let spans ← segments.foldlM (fun spans segment =>
    pushActive spans ⟨segment.start,segment.stop - segment.start,invertChannels segment.input mask⟩) []
  new pattern.length spans

def reverseMaskedChannels (mask : TasDigitalInputMask) : Except String TasInputPattern := do
  let original ← pattern.completeSegments
  let reversed := original.reverse.map (fun segment =>
    ⟨pattern.length - segment.stop,pattern.length - segment.start,segment.input⟩)
  pattern.mergeMaskedSegments original reversed mask reverseChannels

def withDigitalTransform (mask : TasDigitalInputMask) (transform : TasDigitalTransform) : Except String TasInputPattern := do
  ensure (¬maskIsEmpty mask) "digital input transform requires at least one selected control"
  match transform with
  | .clear => pattern.clearMaskedChannels mask
  | .invert => pattern.invertMaskedChannels mask
  | .reverse => pattern.reverseMaskedChannels mask

def withDigitalOverlay (source : TasInputPattern) (mask : TasDigitalInputMask) : Except String TasInputPattern := do
  ensure (pattern.length = source.length) "digital input overlay patterns must have equal lengths"
  ensure (¬maskIsEmpty mask) "digital input overlay requires at least one selected control"
  let destination ← pattern.completeSegments
  let source ← source.completeSegments
  pattern.mergeMaskedSegments destination source mask overlayChannels

def sourceInput (length cursor : Nat) : List TasInputSpan → TasInputFrame × Nat
  | span::_ => if span.start ≤ cursor then (span.value,span.stop) else ({},span.start)
  | [] => ({},length)

/-- The frame at which the phase of a cursor turns. -/
def patternEnd (length cursor period onFrames : Nat) : Nat :=
  let phase := cursor % period
  if onFrames = 0 ∨ onFrames = period then length
  else if phase < onFrames then cursor + onFrames - phase
  else cursor + period - phase

/-- Pushes run after run up to the length; a run ends where a source span begins or ends or where the phase turns. -/
def autofireRuns (player : Nat) (buttonsMask dpadMask : UInt8) (period onFrames : Nat) (spans sources : List TasInputSpan)
    (cursor : Nat) (steps : Nat) : Except String (List TasInputSpan) :=
  if cursor < pattern.length then
    match steps with
    | 0 => .error
      s!"autofire exceeds the limit of {maxTasInputPatternTileSteps} runs; select fewer frames or use a longer period"
    | steps + 1 => do
      let sources := sources.dropWhile (fun span => span.stop ≤ cursor)
      let (input,sourceEnd) := sourceInput pattern.length cursor sources
      let pressed := decide (cursor % period < onFrames)
      let stop := min (min sourceEnd (patternEnd pattern.length cursor period onFrames)) pattern.length
      let spans ← pushActive spans ⟨cursor,stop - cursor,pressChannels input player buttonsMask dpadMask pressed⟩
      autofireRuns player buttonsMask dpadMask period onFrames spans sources stop steps
  else .ok spans

def withDigitalAutofire (player : Nat) (buttonsMask dpadMask period onFrames : UInt8) : Except String TasInputPattern := do
  ensure (¬(5 ≤ player ∨ buttonsMask ||| dpadMask = 0)) "autofire requires a valid player and at least one digital control"
  ensure (¬(¬(1 ≤ period ∧ period ≤ 60) ∨ period < onFrames))
    "autofire requires a period of 1-60 frames and ON frames within that period"
  let spans ← pattern.autofireRuns player buttonsMask dpadMask period.toNat onFrames.toNat [] pattern.spans 0
    maxTasInputPatternTileSteps
  new pattern.length spans

end TasInputPattern

end ZeffBoy.Tas
