import Mathlib

/-! The display of a WonderSwan: the position of the beam, and what happens at the end of a line.
How a line is drawn is left open. -/
namespace ZeffBoy.WonderSwan

def cyclesPerScanline : Nat := 256
def scanlinesPerFrame : Nat := 159
def cyclesPerFrame : Nat := cyclesPerScanline * scanlinesPerFrame
def visibleScanlines : UInt16 := 144

/-- The memory of the machine and its ports, as the display sees them. -/
abbrev Ram := List UInt8
abbrev Ports := UInt16 → UInt8

structure SpriteCache where
  table : List UInt8
  start : UInt8
  count : UInt8

namespace SpriteCache

def empty : SpriteCache := ⟨List.replicate 512 0,0,0⟩

def vramByte (ram : Ram) (colorVdp : Bool) (byteAddr : Nat) : UInt8 :=
  if ram = [] then 0
  else if colorVdp = false ∧ 0x4000 ≤ byteAddr then 0x90
  else ram.getD (byteAddr % if colorVdp then 0x10000 else 0x4000) 0

def fromRam (ram : Ram) (io : Ports) : SpriteCache :=
  let base := (io 0x04 &&& 0x3F).toNat * 512
  ⟨(List.range 512).map fun index => vramByte ram (io 0xA0 &&& 0x02 ≠ 0) (base + index),io 0x05,io 0x06⟩

end SpriteCache

def lineCompare (io : Ports) : UInt16 := (io 0x03).toUInt16
def frameScanlines (io : Ports) : UInt16 := max (io 0x16).toUInt16 visibleScanlines + 1

/-- The beam is inside a line. -/
@[ext] structure Ppu (Frame : Type) where
  framebuffer : Frame
  spriteCache : SpriteCache
  frameReady : Bool
  vcount : UInt16
  lineCycles : Nat
  inside : lineCycles < cyclesPerScanline

structure PpuStepEvents where
  completedScanlines : Nat
  lineCompare : Bool
  vblankStarted : Bool

def PpuStepEvents.none : PpuStepEvents := ⟨0,false,false⟩

/-- How a line is drawn, and the picture before the first. -/
structure Screen (Frame : Type) where
  renderScanline : Frame → Nat → Ram → Ports → SpriteCache → Frame
  powerOnFrame : Frame

namespace Ppu
variable {Frame : Type} (screen : Screen Frame)

def powered : Ppu Frame := ⟨screen.powerOnFrame,.empty,false,0,0,by decide⟩

-- What happens when the beam leaves a line.
def completeLine (ram : Ram) (io : Ports) (ppu : Ppu Frame) (events : PpuStepEvents) : Ppu Frame × PpuStepEvents :=
  let framebuffer := if ppu.vcount < visibleScanlines then
      screen.renderScanline ppu.framebuffer ppu.vcount.toNat ram io ppu.spriteCache
    else ppu.framebuffer
  let vcount := ppu.vcount + 1
  let spriteCache := if vcount = 142 then .fromRam ram io else ppu.spriteCache
  let last := vcount = frameScanlines io
  let next := if last then 0 else vcount
  (⟨framebuffer,spriteCache,ppu.frameReady || last,next,0,by decide⟩,
    ⟨events.completedScanlines + 1,events.lineCompare || next = lineCompare io,
      events.vblankStarted || vcount = visibleScanlines⟩)

def stepLoop (ram : Ram) (io : Ports) : Nat → Nat → Ppu Frame → PpuStepEvents → Ppu Frame × PpuStepEvents
  | 0,_,ppu,events => (ppu,events)
  | fuel + 1,remaining,ppu,events =>
    if remaining = 0 then (ppu,events)
    else if short : ppu.lineCycles + remaining < cyclesPerScanline then
      ({ppu with lineCycles := ppu.lineCycles + remaining, inside := short},events)
    else
      let (ppu',events') := completeLine screen ram io ppu events
      stepLoop ram io fuel (remaining - (cyclesPerScanline - ppu.lineCycles)) ppu' events'

def stepCycles (cycles : Nat) (ram : Ram) (io : Ports) (ppu : Ppu Frame) : Ppu Frame × PpuStepEvents :=
  stepLoop screen ram io cycles cycles ppu .none

def renderFrame (ram : Ram) (io : Ports) (ppu : Ppu Frame) : Ppu Frame :=
  let spriteCache := SpriteCache.fromRam ram io
  {ppu with
    spriteCache := spriteCache
    framebuffer := (List.range 144).foldl (fun frame line => screen.renderScanline frame line ram io spriteCache) ppu.framebuffer}

variable {screen} {ram : Ram} {io : Ports}

def along (ppu : Ppu Frame) (cycles : Nat) : Ppu Frame :=
  if short : ppu.lineCycles + cycles < cyclesPerScanline then {ppu with lineCycles := ppu.lineCycles + cycles, inside := short}
  else ppu

variable {ppu : Ppu Frame} {cycles : Nat}

theorem along_of_lt (short : ppu.lineCycles + cycles < cyclesPerScanline) :
    ppu.along cycles = {ppu with lineCycles := ppu.lineCycles + cycles, inside := short} := dif_pos short

theorem lineCycles_along (short : ppu.lineCycles + cycles < cyclesPerScanline) :
    (ppu.along cycles).lineCycles = ppu.lineCycles + cycles := by
  rw [along_of_lt short]

theorem stepLoop_fuel {fuel remaining : Nat} (enough : remaining ≤ fuel) (ppu : Ppu Frame) (events : PpuStepEvents) :
    stepLoop screen ram io fuel remaining ppu events = stepLoop screen ram io remaining remaining ppu events := by
  induction fuel using Nat.strongRecOn generalizing remaining ppu events with
  | ind fuel ih =>
    cases fuel with
    | zero => rw [Nat.le_zero.mp enough]
    | succ fuel =>
      cases remaining with
      | zero => simp [stepLoop]
      | succ remaining =>
        have inside := ppu.inside
        rw [stepLoop,stepLoop]
        split
        · rfl
        split
        · rfl
        · dsimp only
          rw [ih fuel (by omega) (by omega),ih remaining (by omega) (by omega)]

theorem stepCycles_along (short : ppu.lineCycles + cycles < cyclesPerScanline) :
    ppu.stepCycles screen cycles ram io = (ppu.along cycles,.none) := by
  rw [stepCycles,along_of_lt short]
  cases cycles with
  | zero => rfl
  | succ cycles => rw [stepLoop,if_neg (by omega),dif_pos short]

theorem stepCycles_split {first : Nat} (short : ppu.lineCycles + first < cyclesPerScanline) (second : Nat) :
    (ppu.along first).stepCycles screen second ram io = ppu.stepCycles screen (first + second) ram io := by
  have here := lineCycles_along short
  by_cases whole : ppu.lineCycles + (first + second) < cyclesPerScanline
  · have rest : (ppu.along first).lineCycles + second < cyclesPerScanline := by omega
    rw [stepCycles_along whole,stepCycles_along rest,along_of_lt whole,along_of_lt rest]
    simp only [along_of_lt short,add_assoc]
  · have some' : 0 < second := by
      unfold cyclesPerScanline at *
      omega
    obtain ⟨later,rfl⟩ := Nat.exists_eq_succ_of_ne_zero (show second ≠ 0 by omega)
    have same : completeLine screen ram io (ppu.along first) = completeLine screen ram io ppu := by
      rw [along_of_lt short]
      rfl
    have left : later.succ - (cyclesPerScanline - (ppu.along first).lineCycles) =
        first + later.succ - (cyclesPerScanline - ppu.lineCycles) := by omega
    have inside := ppu.inside
    rw [stepCycles,stepCycles,Nat.add_succ,stepLoop,stepLoop,if_neg (by omega),if_neg (by omega),dif_neg (by omega),
      dif_neg (by omega),same,left]
    dsimp only
    rw [stepLoop_fuel (by omega)]
    conv_rhs => rw [stepLoop_fuel (by omega)]
    rfl

end Ppu

end ZeffBoy.WonderSwan
