import ZeffBoy.WonderSwan.Machine

/-! The string instructions of the CPU, one iteration to a step, and the return from an interrupt.
The other instructions are left open. -/
namespace ZeffBoy.WonderSwan

def flagCf : UInt16 := 0x0001
def flagPf : UInt16 := 0x0004
def flagAf : UInt16 := 0x0010
def flagZf : UInt16 := 0x0040
def flagSf : UInt16 := 0x0080
def flagDf : UInt16 := 0x0400
def flagOf : UInt16 := 0x0800
def flagReservedLow : UInt16 := 0x0028
def flagPopfWritable : UInt16 := flagCf ||| flagPf ||| flagAf ||| flagZf ||| flagSf ||| flagBrk ||| flagIf ||| flagOf

inductive RepeatPrefix
  | repe
  | repne
deriving DecidableEq

def segmentOfPrefix : UInt8 → Option (Fin 4)
  | 0x26 => some 0
  | 0x2E => some 1
  | 0x36 => some 2
  | 0x3E => some 3
  | _ => none

/-- An opcode and the prefixes before it. -/
structure Decoded where
  opcode : UInt8
  override : Option (Fin 4)
  repeats : Option RepeatPrefix
deriving DecidableEq

namespace Guest

def ioRead16 (port : UInt16) : Guest UInt16 :=
  ioRead8 port fun low => ioRead8 (port + 1) fun high => done (wordOf low high)

def ioWrite16 (port value : UInt16) : Guest Unit :=
  ioWrite8 port (lowByte value) (ioWrite8 (port + 1) (highByte value) (done ()))

end Guest

namespace Cpu

def setReg16 (cpu : Cpu) (reg : Fin 8) (value : UInt16) : Cpu := {cpu with regs := Function.update cpu.regs reg value}

def setLow (cpu : Cpu) (value : UInt8) : Cpu := cpu.setReg16 0 ((cpu.regs 0 &&& 0xFF00) ||| value.toUInt16)

def fetch8 (cpu : Cpu) : Guest (UInt8 × Cpu) :=
  .read8 (cpu.physicalAddress 1 cpu.ip) fun value => .done (value,{cpu with ip := cpu.ip + 1})

-- The last of several prefixes of a kind counts.
def fetchOpcode : Nat → Option (Fin 4) → Option RepeatPrefix → Cpu → Guest (Option (Decoded × Cpu))
  | 0,_,_,_ => .done none
  | fuel + 1,override,repeats,cpu => do
    let (byte,cpu) ← cpu.fetch8
    match segmentOfPrefix byte with
    | some segment => fetchOpcode fuel (some segment) repeats cpu
    | none =>
      if byte = 0xF0 then fetchOpcode fuel override repeats cpu
      else if byte = 0xF2 then fetchOpcode fuel override (some .repne) cpu
      else if byte = 0xF3 then fetchOpcode fuel override (some .repe) cpu
      else return some (⟨byte,override,repeats⟩,cpu)

def pop16 (cpu : Cpu) : Guest (UInt16 × Cpu) := do
  let sp := cpu.regs 4
  let value ← Guest.read16 (cpu.physicalAddress 2 sp)
  return (value,cpu.setReg16 4 (sp + 2))

def normalizePoppedFlags (value : UInt16) : UInt16 := (value &&& flagPopfWritable) ||| flagFixed

def setPoppedFlags (cpu : Cpu) (value : UInt16) : Cpu :=
  let flags := normalizePoppedFlags value
  {cpu with
    flags := flags
    interruptShadow := if cpu.flags &&& flagIf = 0 ∧ flags &&& flagIf ≠ 0 then 1 else cpu.interruptShadow
    brkShadow := if cpu.flags &&& flagBrk = 0 ∧ flags &&& flagBrk ≠ 0 then 1 else cpu.brkShadow}

def iret (cpu : Cpu) : Guest Cpu := do
  let (ip,cpu) ← cpu.pop16
  let cpu := {cpu with ip := ip}
  let (cs,cpu) ← cpu.pop16
  let cpu := {cpu with segments := Function.update cpu.segments 1 cs}
  let (flags,cpu) ← cpu.pop16
  (cpu.setPoppedFlags flags).addCycles 10

def stringSrcAddr (cpu : Cpu) (override : Option (Fin 4)) : UInt32 := cpu.physicalAddress (override.getD 3) (cpu.regs 6)

def stringDstAddr (cpu : Cpu) : UInt32 := cpu.physicalAddress 0 (cpu.regs 7)

def adjustStringIndex (cpu : Cpu) (reg : Fin 8) (size : UInt16) : Cpu :=
  cpu.setReg16 reg (if cpu.flags &&& flagDf ≠ 0 then cpu.regs reg - size else cpu.regs reg + size)

def evenParity (value : UInt8) : Bool := ((List.range 8).countP fun bit => value.toNat.testBit bit) % 2 = 0

-- The flags of a result, and what a subtraction adds to them.
def setLogicFlags (cpu : Cpu) (zero sign : Bool) (low : UInt8) : Cpu :=
  {cpu with flags := (cpu.flags &&& ~~~(flagCf ||| flagPf ||| flagAf ||| flagZf ||| flagSf ||| flagOf ||| flagReservedLow)) |||
    (if zero then flagZf else 0) ||| (if sign then flagSf else 0) ||| (if evenParity low then flagPf else 0) ||| flagFixed}

def setLogicFlags8 (cpu : Cpu) (result : UInt8) : Cpu := cpu.setLogicFlags (result = 0) (result &&& 0x80 ≠ 0) result

def setLogicFlags16 (cpu : Cpu) (result : UInt16) : Cpu :=
  cpu.setLogicFlags (result = 0) (result &&& 0x8000 ≠ 0) result.toUInt8

def raiseFlags (cpu : Cpu) (carry auxiliary overflow : Bool) : Cpu :=
  {cpu with flags := cpu.flags ||| (if carry then flagCf else 0) ||| (if auxiliary then flagAf else 0) |||
    (if overflow then flagOf else 0)}

def setSubFlags8 (cpu : Cpu) (lhs rhs result : UInt8) : Cpu :=
  (cpu.setLogicFlags8 result).raiseFlags (lhs < rhs) (lhs &&& 0x0F < rhs &&& 0x0F)
    ((lhs ^^^ rhs) &&& (lhs ^^^ result) &&& 0x80 ≠ 0)

def setSubFlags16 (cpu : Cpu) (lhs rhs result : UInt16) : Cpu :=
  (cpu.setLogicFlags16 result).raiseFlags (lhs < rhs) (lhs &&& 0x000F < rhs &&& 0x000F)
    ((lhs ^^^ rhs) &&& (lhs ^^^ result) &&& 0x8000 ≠ 0)

def cmp8 (cpu : Cpu) (lhs rhs : UInt8) : Cpu := cpu.setSubFlags8 lhs rhs (lhs - rhs)

def cmp16 (cpu : Cpu) (lhs rhs : UInt16) : Cpu := cpu.setSubFlags16 lhs rhs (lhs - rhs)

def repeatIterations (cpu : Cpu) (repeats : Option RepeatPrefix) : Nat := if repeats = none ∨ cpu.regs 1 ≠ 0 then 1 else 0

def decrementRepeatCounter (cpu : Cpu) (repeats : Option RepeatPrefix) : Cpu :=
  if repeats.isSome then cpu.setReg16 1 (cpu.regs 1 - 1) else cpu

/-- The iterations of a step, of which there is at most one. -/
def repeatSimple (cpu : Cpu) (repeats : Option RepeatPrefix) (body : Cpu → Guest Cpu) : Guest Cpu :=
  if cpu.repeatIterations repeats = 0 then cpu.addCycles 2
  else do
    let cpu ← body cpu
    let cpu ← cpu.addCycles 4
    return cpu.decrementRepeatCounter repeats

-- The early exit comes after the only iteration.
def repeatCompare (cpu : Cpu) (repeats : Option RepeatPrefix) (body : Cpu → Guest Cpu) : Guest Cpu :=
  cpu.repeatSimple repeats body

def movs8 (override : Option (Fin 4)) (cpu : Cpu) : Guest Cpu :=
  .read8 (cpu.stringSrcAddr override) fun value => .write8 cpu.stringDstAddr value
    (.done ((cpu.adjustStringIndex 6 1).adjustStringIndex 7 1))

def movs16 (override : Option (Fin 4)) (cpu : Cpu) : Guest Cpu := do
  let value ← Guest.read16 (cpu.stringSrcAddr override)
  Guest.write16 cpu.stringDstAddr value
  return (cpu.adjustStringIndex 6 2).adjustStringIndex 7 2

def ins8 (cpu : Cpu) : Guest Cpu :=
  .ioRead8 (cpu.regs 2) fun value => .write8 cpu.stringDstAddr value (.done (cpu.adjustStringIndex 7 1))

def ins16 (cpu : Cpu) : Guest Cpu := do
  let value ← Guest.ioRead16 (cpu.regs 2)
  Guest.write16 cpu.stringDstAddr value
  return cpu.adjustStringIndex 7 2

def outs8 (override : Option (Fin 4)) (cpu : Cpu) : Guest Cpu :=
  .read8 (cpu.stringSrcAddr override) fun value => .ioWrite8 (cpu.regs 2) value (.done (cpu.adjustStringIndex 6 1))

def outs16 (override : Option (Fin 4)) (cpu : Cpu) : Guest Cpu := do
  let value ← Guest.read16 (cpu.stringSrcAddr override)
  Guest.ioWrite16 (cpu.regs 2) value
  return cpu.adjustStringIndex 6 2

def stos8 (cpu : Cpu) : Guest Cpu := .write8 cpu.stringDstAddr (lowByte (cpu.regs 0)) (.done (cpu.adjustStringIndex 7 1))

def stos16 (cpu : Cpu) : Guest Cpu := do
  Guest.write16 cpu.stringDstAddr (cpu.regs 0)
  return cpu.adjustStringIndex 7 2

def lods8 (override : Option (Fin 4)) (cpu : Cpu) : Guest Cpu :=
  .read8 (cpu.stringSrcAddr override) fun value => .done ((cpu.setLow value).adjustStringIndex 6 1)

def lods16 (override : Option (Fin 4)) (cpu : Cpu) : Guest Cpu := do
  let value ← Guest.read16 (cpu.stringSrcAddr override)
  return (cpu.setReg16 0 value).adjustStringIndex 6 2

def cmps8 (override : Option (Fin 4)) (cpu : Cpu) : Guest Cpu :=
  .read8 (cpu.stringSrcAddr override) fun lhs => .read8 cpu.stringDstAddr fun rhs =>
    .done (((cpu.cmp8 lhs rhs).adjustStringIndex 6 1).adjustStringIndex 7 1)

def cmps16 (override : Option (Fin 4)) (cpu : Cpu) : Guest Cpu := do
  let lhs ← Guest.read16 (cpu.stringSrcAddr override)
  let rhs ← Guest.read16 cpu.stringDstAddr
  return ((cpu.cmp16 lhs rhs).adjustStringIndex 6 2).adjustStringIndex 7 2

def scas8 (cpu : Cpu) : Guest Cpu :=
  .read8 cpu.stringDstAddr fun rhs => .done ((cpu.cmp8 (lowByte (cpu.regs 0)) rhs).adjustStringIndex 7 1)

def scas16 (cpu : Cpu) : Guest Cpu := do
  let rhs ← Guest.read16 cpu.stringDstAddr
  return (cpu.cmp16 (cpu.regs 0) rhs).adjustStringIndex 7 2

/-- What a string instruction does in one iteration. -/
def stringBody (decoded : Decoded) : Option (Cpu → Guest Cpu) :=
  match decoded.opcode with
  | 0x6C => some ins8
  | 0x6D => some ins16
  | 0x6E => some (outs8 decoded.override)
  | 0x6F => some (outs16 decoded.override)
  | 0xA4 => some (movs8 decoded.override)
  | 0xA5 => some (movs16 decoded.override)
  | 0xA6 => some (cmps8 decoded.override)
  | 0xA7 => some (cmps16 decoded.override)
  | 0xAA => some stos8
  | 0xAB => some stos16
  | 0xAC => some (lods8 decoded.override)
  | 0xAD => some (lods16 decoded.override)
  | 0xAE => some scas8
  | 0xAF => some scas16
  | _ => none

def isCompare (opcode : UInt8) : Bool := opcode = 0xA6 ∨ opcode = 0xA7 ∨ opcode = 0xAE ∨ opcode = 0xAF

def execute (other : Option Decoded → Cpu → Guest Cpu) (decoded : Decoded) (cpu : Cpu) : Guest Cpu :=
  match stringBody decoded with
  | some body =>
    if isCompare decoded.opcode then cpu.repeatCompare decoded.repeats body else cpu.repeatSimple decoded.repeats body
  | none => if decoded.opcode = 0xCF then cpu.iret else other (some decoded) cpu

def shouldResumeRepeatedString (cpu : Cpu) (decoded : Decoded) : Bool :=
  match decoded.repeats with
  | none => false
  | some repeats =>
    if cpu.state ≠ .running ∨ cpu.regs 1 = 0 then false
    else if isCompare decoded.opcode then
      match repeats with
      | .repe => cpu.flags &&& flagZf ≠ 0
      | .repne => cpu.flags &&& flagZf = 0
    else (stringBody decoded).isSome

/-- The instruction at the program counter. A string that is not done leaves the program counter at its prefixes.
The program counter wraps after 65536 bytes, and so many prefixes are never left again. -/
def instruction (other : Option Decoded → Cpu → Guest Cpu) (cpu : Cpu) : Guest Cpu := do
  match ← fetchOpcode 65536 none none cpu with
  | none => other none cpu
  | some (decoded,fetched) => do
    let after ← execute other decoded {fetched with lastOpcode := decoded.opcode}
    return if after.shouldResumeRepeatedString decoded then {after with ip := cpu.ip} else after

end Cpu

end ZeffBoy.WonderSwan
