import ZeffBoy.Replay.Format

/-! Input frames of a replay. Tilt values are held by their bits, the form that the
frame's equality compares and the format stores. -/
namespace ZeffBoy.Replay
open Library

structure ReplayColecoControllerFrame where
  up : Bool := false
  right : Bool := false
  down : Bool := false
  left : Bool := false
  leftButton : Bool := false
  rightButton : Bool := false
  keypad : UInt8 := 0
deriving DecidableEq

structure ReplayZapperFrame where
  enabled : Bool := false
  trigger : Bool := false
  hit : Bool := false
  screenPos : Option (UInt16 × UInt16) := none
deriving DecidableEq

structure ReplayJoypadFrame where
  buttons : UInt8 := 0
  dpad : UInt8 := 0
  buttonsP2 : UInt8 := 0
  dpadP2 : UInt8 := 0
  buttonsP3 : UInt8 := 0
  dpadP3 : UInt8 := 0
  buttonsP4 : UInt8 := 0
  dpadP4 : UInt8 := 0
  buttonsP5 : UInt8 := 0
  dpadP5 : UInt8 := 0
  zapper : ReplayZapperFrame := {}
  hostTilt : UInt32 × UInt32 := (0,0)
  cameraFrame : Option Bytes := none
  coleco : ReplayColecoControllerFrame × ReplayColecoControllerFrame := ({},{})
deriving DecidableEq

def ReplayJoypadFrame.p1 (buttons dpad : UInt8) : ReplayJoypadFrame := { buttons := buttons, dpad := dpad }

def ReplayJoypadFrame.usesColecoInput (frame : ReplayJoypadFrame) : Bool := frame.coleco ≠ ({},{})

namespace ReplayColecoControllerFrame

def fromPacked (value : UInt16) : Except String ReplayColecoControllerFrame := do
  ensure (value &&& ~~~0x03FF = 0) s!"invalid replay Coleco controller bits: {hex 5 value.toNat}"
  let keypad := (value >>> 6).toUInt8
  ensure (keypad ≤ 12) s!"invalid replay Coleco keypad key: {keypad}"
  return {
    up := value &&& 0x01 ≠ 0, right := value &&& 0x02 ≠ 0, down := value &&& 0x04 ≠ 0, left := value &&& 0x08 ≠ 0,
    leftButton := value &&& 0x10 ≠ 0, rightButton := value &&& 0x20 ≠ 0, keypad := keypad }

def packed (frame : ReplayColecoControllerFrame) : UInt16 :=
  frame.up.toUInt16 ||| (frame.right.toUInt16 <<< 1) ||| (frame.down.toUInt16 <<< 2) |||
    (frame.left.toUInt16 <<< 3) ||| (frame.leftButton.toUInt16 <<< 4) ||| (frame.rightButton.toUInt16 <<< 5) |||
    (frame.keypad.toUInt16 <<< 6)

end ReplayColecoControllerFrame

namespace ReplayZapperFrame

def flags (frame : ReplayZapperFrame) : UInt8 :=
  frame.enabled.toUInt8 ||| (frame.trigger.toUInt8 <<< 1) ||| (frame.hit.toUInt8 <<< 2) |||
    (frame.screenPos.isSome.toUInt8 <<< 3)

def fromParts (flags : UInt8) (x y : UInt16) : Except String ReplayZapperFrame := do
  ensure (flags &&& ~~~0x0F = 0) s!"invalid replay zapper flags: {hex 4 flags.toNat}"
  return {
    enabled := flags &&& 0x01 ≠ 0, trigger := flags &&& 0x02 ≠ 0, hit := flags &&& 0x04 ≠ 0,
    screenPos := if flags &&& 0x08 ≠ 0 then some (x,y) else none }

end ReplayZapperFrame

theorem zapper_bits : ∀ enabled trigger hit placed : Bool,
    let flags := enabled.toUInt8 ||| (trigger.toUInt8 <<< 1) ||| (hit.toUInt8 <<< 2) ||| (placed.toUInt8 <<< 3)
    flags &&& ~~~0x0F = 0 ∧ decide (flags &&& 0x01 ≠ 0) = enabled ∧ decide (flags &&& 0x02 ≠ 0) = trigger ∧
      decide (flags &&& 0x04 ≠ 0) = hit ∧ decide (flags &&& 0x08 ≠ 0) = placed := by
  decide +kernel

theorem zapper_fromParts_flags (frame : ReplayZapperFrame) :
    ReplayZapperFrame.fromParts frame.flags (frame.screenPos.getD (0,0)).1 (frame.screenPos.getD (0,0)).2 =
      .ok frame := by
  rcases frame with ⟨enabled,trigger,hit,screenPos⟩
  obtain ⟨clear,first,second,third,fourth⟩ := zapper_bits enabled trigger hit screenPos.isSome
  rw [ReplayZapperFrame.fromParts,ReplayZapperFrame.flags,ensure_pos clear,ok_bind,first,second,third]
  cases screenPos with
  | none => rw [if_neg (of_decide_eq_false fourth)]; rfl
  | some pos => rw [if_pos (of_decide_eq_true fourth)]; rfl

theorem coleco_bits : ∀ (up right down left leftButton rightButton : Bool) (keypad : Fin 13),
    let value := up.toUInt16 ||| (right.toUInt16 <<< 1) ||| (down.toUInt16 <<< 2) ||| (left.toUInt16 <<< 3) |||
      (leftButton.toUInt16 <<< 4) ||| (rightButton.toUInt16 <<< 5) ||| ((UInt16.ofNat keypad.val) <<< 6)
    value.toNat < 1024 ∧ value &&& ~~~0x03FF = 0 ∧ (value >>> 6).toUInt8 = UInt8.ofNat keypad.val ∧
      decide (value &&& 0x01 ≠ 0) = up ∧ decide (value &&& 0x02 ≠ 0) = right ∧ decide (value &&& 0x04 ≠ 0) = down ∧
      decide (value &&& 0x08 ≠ 0) = left ∧ decide (value &&& 0x10 ≠ 0) = leftButton ∧
      decide (value &&& 0x20 ≠ 0) = rightButton := by
  decide +kernel

theorem coleco_packed (frame : ReplayColecoControllerFrame) (valid : frame.keypad ≤ 12) :
    frame.packed.toNat < 1024 ∧ ReplayColecoControllerFrame.fromPacked frame.packed = .ok frame := by
  rcases frame with ⟨up,right,down,left,leftButton,rightButton,keypad⟩
  have small : keypad.toNat < 13 := Nat.lt_succ_of_le valid
  obtain ⟨low,clear,key,first,second,third,fourth,fifth,sixth⟩ :=
    coleco_bits up right down left leftButton rightButton ⟨keypad.toNat,small⟩
  have word : UInt16.ofNat keypad.toNat = keypad.toUInt16 := by
    apply UInt16.toNat_inj.mp
    have wide : keypad.toNat < 2^16 := by omega
    rw [UInt16.toNat_ofNat',UInt8.toNat_toUInt16,Nat.mod_eq_of_lt wide]
  have byte : UInt8.ofNat keypad.toNat = keypad := UInt8.ofNat_toNat
  rw [word] at low clear key first second third fourth fifth sixth
  rw [byte] at key
  refine ⟨low,?_⟩
  rw [ReplayColecoControllerFrame.fromPacked,ReplayColecoControllerFrame.packed,ensure_pos clear,ok_bind]
  simp only [key]
  rw [ensure_pos valid,ok_bind,first,second,third,fourth,fifth,sixth]
  rfl

def packColeco (coleco : ReplayColecoControllerFrame × ReplayColecoControllerFrame) : UInt32 :=
  coleco.1.packed.toUInt32 ||| (coleco.2.packed.toUInt32 <<< 10)

def unpackColeco (packed : UInt32) : Except String (ReplayColecoControllerFrame × ReplayColecoControllerFrame) := do
  let first ← ReplayColecoControllerFrame.fromPacked (packed &&& 0x03FF).toUInt16
  let second ← ReplayColecoControllerFrame.fromPacked ((packed >>> 10) &&& 0x03FF).toUInt16
  return (first,second)

theorem pack_toNat (first second : UInt16) (lowFirst : first.toNat < 1024) (lowSecond : second.toNat < 1024) :
    (first.toUInt32 ||| (second.toUInt32 <<< 10)).toNat = second.toNat * 1024 + first.toNat := by
  have join := Nat.shiftLeft_add_eq_or_of_lt (show first.toNat < 2^10 from lowFirst) second.toNat
  have shifted : (second.toUInt32 <<< 10).toNat = second.toNat * 1024 := by
    rw [UInt32.toNat_shiftLeft,UInt16.toNat_toUInt32,Nat.shiftLeft_eq,Nat.mod_eq_of_lt]
    · rfl
    · change second.toNat * 1024 < 4294967296
      omega
  rw [Nat.shiftLeft_eq] at join
  rw [UInt32.toNat_or,shifted,UInt16.toNat_toUInt32,Nat.or_comm]
  exact join.symm

theorem unpackColeco_packColeco (coleco : ReplayColecoControllerFrame × ReplayColecoControllerFrame)
    (first : coleco.1.keypad ≤ 12) (second : coleco.2.keypad ≤ 12) :
    (packColeco coleco).toNat < 2^24 ∧ unpackColeco (packColeco coleco) = .ok coleco := by
  obtain ⟨lowFirst,readFirst⟩ := coleco_packed coleco.1 first
  obtain ⟨lowSecond,readSecond⟩ := coleco_packed coleco.2 second
  have word := pack_toNat _ _ lowFirst lowSecond
  have front : (packColeco coleco &&& 0x03FF).toUInt16 = coleco.1.packed := by
    apply UInt16.toNat_inj.mp
    rw [UInt32.toNat_toUInt16,UInt32.toNat_and,packColeco,word]
    change (_ &&& (2^10 - 1)) % _ = _
    rw [Nat.and_two_pow_sub_one_eq_mod]
    omega
  have back : ((packColeco coleco >>> 10) &&& 0x03FF).toUInt16 = coleco.2.packed := by
    apply UInt16.toNat_inj.mp
    rw [UInt32.toNat_toUInt16,UInt32.toNat_and,UInt32.toNat_shiftRight,packColeco,word]
    change ((_ >>> 10) &&& (2^10 - 1)) % _ = _
    rw [Nat.and_two_pow_sub_one_eq_mod,Nat.shiftRight_eq_div_pow]
    omega
  constructor
  · rw [packColeco,word]
    omega
  · rw [unpackColeco,front,back,readFirst,readSecond]
    rfl

end ZeffBoy.Replay
