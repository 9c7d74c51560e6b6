import ZeffBoy.Library.Transition
import ZeffBoy.GameBoy.SaveState
import ZeffBoy.GameBoy.SerialEngine

/-! When a restored cartridge cannot be told from the saved one.
The save state leaves out the motor of an MBC5, the frame the host gave to a camera, and the latches and
the serial engine of an MBC7. -/
namespace ZeffBoy.GameBoy
open Library

/-- What the bus, the clock and the host do with a cartridge. -/
inductive Operation where
  | access (access : Access)
  | step (tCycles : UInt64)
  | setMbc7Tilt (x y : Float32)
  | setCameraFrame (frame : Bytes)

/-- The unsaved registers of an MBC7 hold what a loaded one starts with, as far as a game can see them. -/
structure Mbc7.AtRest (mapper : Mbc7) : Prop where
  xLatch : mapper.xLatch = 0x8000
  yLatch : mapper.yLatch = 0x8000
  tiltX : mapTiltComponent (-mapper.hostX) = mapTiltComponent (-0.0)
  tiltY : mapTiltComponent mapper.hostY = mapTiltComponent 0.0
  cs : mapper.cs = false
  clk : mapper.clk = false
  idle : mapper.idle = false
  state : mapper.state = .idle
  doValue : mapper.doValue = 1

namespace Cartridge

def step : Cartridge → UInt64 → Cartridge
  | .mbc3 c, tCycles => .mbc3 (c.step tCycles)
  | .pocketCamera c, tCycles => .pocketCamera (c.step tCycles)
  | cartridge, _ => cartridge

def rumbleActive : Cartridge → Bool
  | .mbc5 c => c.rumbleActive
  | .mbc7 c => c.rumbleActive
  | _ => false

def setMbc7Tilt : Cartridge → Float32 → Float32 → Cartridge
  | .mbc7 c, x, y => .mbc7 (c.setHostTilt x y)
  | cartridge, _, _ => cartridge

def setCameraFrame : Cartridge → Bytes → Cartridge
  | .pocketCamera c, frame => .pocketCamera (c.setHostFrame frame)
  | cartridge, _ => cartridge

def perform (self : Cartridge) : Operation → Cartridge × Option UInt8
  | .access access => self.access access
  | .step tCycles => (self.step tCycles,none)
  | .setMbc7Tilt x y => (self.setMbc7Tilt x y,none)
  | .setCameraFrame frame => (self.setCameraFrame frame,none)

/-- A loaded cartridge gets its ROM and its motor back from the cartridge that is running. -/
def restored (loaded : Cartridge) (rom : Bytes) (header : RomHeader) : Cartridge :=
  (loaded.restoreRomBytes rom).setRumbleFlag header.cartridgeType.isMbc5WithRumble

/-- The save state leaves nothing out that a game can see. -/
def StateComplete : Cartridge → Prop
  | .mbc5 c => c.rumbleActive = false
  | .mbc7 c => c.AtRest
  | .pocketCamera c => c.hostFrame = List.replicate cameraPixels 0xFF
  | _ => True

variable {rom : Bytes} {header : RomHeader} {self : Cartridge}

theorem Sound.perform (sound : self.Sound rom header) (operation : Operation) :
    (self.perform operation).1.Sound rom header := by
  obtain ⟨kind,registers⟩ := sound
  cases operation with
  | access access => exact Sound.access ⟨kind,registers⟩ access
  | step tCycles =>
    cases self with
    | mbc3 c => exact ⟨kind,Mbc3.Sound.step registers tCycles⟩
    | pocketCamera c => exact ⟨kind,PocketCamera.Sound.step registers tCycles⟩
    | _ => exact ⟨kind,registers⟩
  | setMbc7Tilt x y =>
    cases self with
    | mbc7 c => exact ⟨kind,Mbc7.Sound.of_banks registers (c.setHostTilt x y) rfl⟩
    | _ => exact ⟨kind,registers⟩
  | setCameraFrame frame =>
    cases self with
    | pocketCamera c => exact ⟨kind,PocketCamera.Sound.setHostFrame registers frame⟩
    | _ => exact ⟨kind,registers⟩

/-- Cartridges that no operation tells apart. -/
inductive Indistinct : Cartridge → Cartridge → Prop
  | same (cartridge : Cartridge) : Indistinct cartridge cartridge
  | mbc7 (left right : Mbc7) (alike : left.Alike right) : Indistinct (.mbc7 left) (.mbc7 right)

theorem indistinct_simulates : Simulates perform perform Indistinct := by
  intro left right operation indistinct
  cases indistinct with
  | same cartridge => exact ⟨rfl,.same _⟩
  | mbc7 left right alike =>
    cases operation with
    | access access =>
      cases access with
      | readRom addr => exact ⟨congrArg some (alike.readRom addr),.mbc7 _ _ alike⟩
      | writeRom addr value => exact ⟨rfl,.mbc7 _ _ (alike.writeRom addr value)⟩
      | readRam addr => exact ⟨congrArg some (alike.readRam addr),.mbc7 _ _ alike⟩
      | writeRam addr value now => exact ⟨rfl,.mbc7 _ _ (alike.writeRam addr value)⟩
    | step tCycles => exact ⟨rfl,.mbc7 _ _ alike⟩
    | setMbc7Tilt x y => exact ⟨rfl,.mbc7 _ _ (alike.setHostTilt x y)⟩
    | setCameraFrame frame => exact ⟨rfl,.mbc7 _ _ alike⟩

theorem Indistinct.rumbleActive {left right : Cartridge} (indistinct : Indistinct left right) :
    left.rumbleActive = right.rumbleActive := by
  cases indistinct with
  | same cartridge => rfl
  | mbc7 left right alike => exact alike.same Mbc7.rumbleActive (fun _ => rfl)

theorem mbc7_alike (c : Mbc7) (sound : c.Sound rom) (rest : c.AtRest) : (c.loaded.restoreRomBytes rom).Alike c := by
  refine ⟨?_,rest.tiltX.symm,rest.tiltY.symm,trivial⟩
  apply Mbc7.ext <;> simp only [Mbc7.shown,Mbc7.withHidden,Mbc7.restoreRomBytes,Mbc7.loaded,Mbc7.new,sound.sameRom,
    sound.still,rest.xLatch,rest.yLatch,rest.cs,rest.clk,rest.idle,rest.state,rest.doValue]

theorem restored_indistinct (sound : self.Sound rom header) (complete : self.StateComplete) :
    Indistinct (self.loaded.restored rom header) self := by
  have registers := sound.registers
  cases self with
  | romOnly c =>
    have same : c.loaded.restoreRomBytes rom = c := RomOnly.ext registers.sameRom.symm rfl
    show Indistinct (.romOnly (c.loaded.restoreRomBytes rom)) _
    rw [same]
    exact .same _
  | mbc1 c =>
    have same : c.loaded.restoreRomBytes rom = c :=
      Mbc1.ext registers.sameRom.symm rfl rfl rfl rfl rfl registers.romBankMask.symm registers.multicart.symm
    show Indistinct (.mbc1 (c.loaded.restoreRomBytes rom)) _
    rw [same]
    exact .same _
  | mbc2 c =>
    have same : c.loaded.restoreRomBytes rom = c := Mbc2.ext registers.sameRom.symm rfl rfl rfl
    show Indistinct (.mbc2 (c.loaded.restoreRomBytes rom)) _
    rw [same]
    exact .same _
  | mbc3 c =>
    have same : c.loaded.restoreRomBytes rom = c := Mbc3.ext registers.sameRom.symm rfl rfl rfl rfl rfl rfl rfl
    show Indistinct (.mbc3 (c.loaded.restoreRomBytes rom)) _
    rw [same]
    exact .same _
  | mbc5 c =>
    have same : (c.loaded.restoreRomBytes rom).setHasRumble header.cartridgeType.isMbc5WithRumble = c :=
      Mbc5.ext registers.sameRom.symm rfl rfl rfl rfl registers.sameRumble.symm (Eq.symm complete)
    show Indistinct (.mbc5 ((c.loaded.restoreRomBytes rom).setHasRumble _)) _
    rw [same]
    exact .same _
  | mbc7 c => exact .mbc7 _ _ (mbc7_alike c registers complete)
  | huC1 c =>
    have same : c.loaded.restoreRomBytes rom = c := HuC1.ext registers.sameRom.symm rfl rfl rfl rfl rfl rfl
    show Indistinct (.huC1 (c.loaded.restoreRomBytes rom)) _
    rw [same]
    exact .same _
  | huC3 c =>
    have same : c.loaded.restoreRomBytes rom = c :=
      HuC3.ext registers.sameRom.symm rfl rfl rfl rfl rfl rfl rfl rfl rfl rfl rfl
    show Indistinct (.huC3 (c.loaded.restoreRomBytes rom)) _
    rw [same]
    exact .same _
  | pocketCamera c =>
    have same : c.loaded.restoreRomBytes rom = c :=
      PocketCamera.ext registers.sameRom.symm rfl rfl rfl rfl rfl rfl rfl (Eq.symm complete)
    show Indistinct (.pocketCamera (c.loaded.restoreRomBytes rom)) _
    rw [same]
    exact .same _

theorem sound_runInputs (rom : Bytes) (header : RomHeader) (now : UInt64) (operations : List Operation) :
    (runInputs perform (new rom header now) operations).Sound rom header :=
  runInputs_invariant perform (Sound rom header) (fun _ operation sound => sound.perform operation) _
    (sound_new rom header now) operations

/-- The loader's cartridge answers every later operation like the saved one, and its motor runs alike. -/
def SaveStateExact (rom : Bytes) (header : RomHeader) (saved : Cartridge) : Prop :=
  ∃ loaded, (∀ rest, readState (saved.writeState ++ rest) = .ok (loaded,rest)) ∧
    ∀ later, answers perform (loaded.restored rom header) later = answers perform saved later ∧
      (runInputs perform (loaded.restored rom header) later).rumbleActive = (runInputs perform saved later).rumbleActive

/-- A cartridge that is saved in any reachable state is restored exactly, if its save state leaves nothing out. -/
theorem saveState_exact (rom : Bytes) (header : RomHeader) (now : UInt64) (operations : List Operation)
    (complete : (runInputs perform (new rom header now) operations).StateComplete) :
    SaveStateExact rom header (runInputs perform (new rom header now) operations) := by
  have sound := sound_runInputs rom header now operations
  generalize runInputs perform (new rom header now) operations = saved at *
  refine ⟨saved.loaded,run_readState rom header saved sound,fun later => ?_⟩
  obtain ⟨answered,related⟩ := indistinct_simulates.run _ _ (restored_indistinct sound complete) later
  exact ⟨answered,related.rumbleActive⟩

theorem saveState_exact_mbc7 :
    let rom := List.replicate 0x8000 0
    let header : RomHeader := ⟨.mbc7SensorRumbleRamBattery,.none⟩
    let operations := [.access (.writeRom 0x0000 0x0A),.access (.writeRom 0x4000 0x40),.access (.readRam 0xA080)]
    SaveStateExact rom header (runInputs perform (new rom header 0) operations) :=
  saveState_exact _ ⟨.mbc7SensorRumbleRamBattery,.none⟩ 0 _ ⟨rfl,rfl,rfl,rfl,rfl,rfl,rfl,rfl,rfl⟩

/-- An MBC5 whose motor runs comes back with the motor off. -/
theorem saveState_mbc5_motor :
    let rom := List.replicate 0x8000 0
    let header : RomHeader := ⟨.mbc5Rumble,.none⟩
    ¬SaveStateExact rom header (runInputs perform (new rom header 0) [.access (.writeRom 0x4000 0x08)]) := by
  intro rom header
  rintro ⟨loaded,read,same⟩
  have sound := sound_runInputs rom header 0 [.access (.writeRom 0x4000 0x08)]
  have reread := (read []).symm.trans (run_readState rom header _ sound [])
  rw [Except.ok.injEq,Prod.mk.injEq] at reread
  obtain ⟨rfl,_⟩ := reread
  have motor := (same []).2
  exact absurd motor (by decide +kernel)

end Cartridge

end ZeffBoy.GameBoy
