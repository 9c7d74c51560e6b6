import ZeffBoy.GameBoy.Cpu

/-! The instructions of the CPU of the Game Boy, and one step of it.
An instruction that is charged less than its table says ticks the rest. An opcode that does not exist does nothing: no
instruction suspends the CPU. -/
namespace ZeffBoy.GameBoy.Sm83
open Library
open scoped Registers

/-- The time of each instruction in T-cycles; those that do not exist have none. -/
def cycleTable : List UInt64 :=
  [4,12,8,8,4,4,8,4,20,8,8,8,4,4,8,4,
   4,12,8,8,4,4,8,4,12,8,8,8,4,4,8,4,
   8,12,8,8,4,4,8,4,8,8,8,8,4,4,8,4,
   8,12,8,8,12,12,12,4,8,8,8,8,4,4,8,4,
   4,4,4,4,4,4,8,4,4,4,4,4,4,4,8,4,
   4,4,4,4,4,4,8,4,4,4,4,4,4,4,8,4,
   4,4,4,4,4,4,8,4,4,4,4,4,4,4,8,4,
   8,8,8,8,8,8,4,8,4,4,4,4,4,4,8,4,
   4,4,4,4,4,4,8,4,4,4,4,4,4,4,8,4,
   4,4,4,4,4,4,8,4,4,4,4,4,4,4,8,4,
   4,4,4,4,4,4,8,4,4,4,4,4,4,4,8,4,
   4,4,4,4,4,4,8,4,4,4,4,4,4,4,8,4,
   8,12,12,16,12,16,8,16,8,16,12,4,12,24,8,16,
   8,12,12,0,12,16,8,16,8,16,12,0,12,0,8,16,
   12,12,8,0,0,16,8,16,16,4,16,0,0,0,8,16,
   12,12,8,4,0,16,8,16,12,8,16,4,0,0,8,16]

def cbCycleTable : List UInt64 :=
  [8,8,8,8,8,8,16,8,8,8,8,8,8,8,16,8,
   8,8,8,8,8,8,16,8,8,8,8,8,8,8,16,8,
   8,8,8,8,8,8,16,8,8,8,8,8,8,8,16,8,
   8,8,8,8,8,8,16,8,8,8,8,8,8,8,16,8,
   8,8,8,8,8,8,12,8,8,8,8,8,8,8,12,8,
   8,8,8,8,8,8,12,8,8,8,8,8,8,8,12,8,
   8,8,8,8,8,8,12,8,8,8,8,8,8,8,12,8,
   8,8,8,8,8,8,12,8,8,8,8,8,8,8,12,8,
   8,8,8,8,8,8,16,8,8,8,8,8,8,8,16,8,
   8,8,8,8,8,8,16,8,8,8,8,8,8,8,16,8,
   8,8,8,8,8,8,16,8,8,8,8,8,8,8,16,8,
   8,8,8,8,8,8,16,8,8,8,8,8,8,8,16,8,
   8,8,8,8,8,8,16,8,8,8,8,8,8,8,16,8,
   8,8,8,8,8,8,16,8,8,8,8,8,8,8,16,8,
   8,8,8,8,8,8,16,8,8,8,8,8,8,8,16,8,
   8,8,8,8,8,8,16,8,8,8,8,8,8,8,16,8]

def ioStart : UInt16 := 0xFF00

def signedOffset (offset : UInt8) : UInt16 := offset.toInt8.toInt16.toUInt16

section
variable {B : Type}

def aluReg (method : Registers → UInt8 → Registers) (reg : Reg8) : CpuM B Unit :=
  onRegs fun regs => method regs (regs.read reg)

def inc8 (reg : Reg8) : CpuM B Unit :=
  onRegs fun regs => let (value,regs) := regs.inc (regs.read reg); regs.write reg value

def dec8 (reg : Reg8) : CpuM B Unit :=
  onRegs fun regs => let (value,regs) := regs.dec (regs.read reg); regs.write reg value

def ldRr (dst src : Reg8) : CpuM B Unit := onRegs fun regs => regs.write dst (regs.read src)

abbrev incB : CpuM B Unit := inc8 .b
abbrev decB : CpuM B Unit := dec8 .b
abbrev incC : CpuM B Unit := inc8 .c
abbrev decC : CpuM B Unit := dec8 .c
abbrev incD : CpuM B Unit := inc8 .d
abbrev decD : CpuM B Unit := dec8 .d
abbrev incE : CpuM B Unit := inc8 .e
abbrev decE : CpuM B Unit := dec8 .e
abbrev incH : CpuM B Unit := inc8 .h
abbrev decH : CpuM B Unit := dec8 .h
abbrev incL : CpuM B Unit := inc8 .l
abbrev decL : CpuM B Unit := dec8 .l
abbrev incA : CpuM B Unit := inc8 .a
abbrev decA : CpuM B Unit := dec8 .a
abbrev addB : CpuM B Unit := aluReg .add .b
abbrev addC : CpuM B Unit := aluReg .add .c
abbrev addD : CpuM B Unit := aluReg .add .d
abbrev addE : CpuM B Unit := aluReg .add .e
abbrev addH : CpuM B Unit := aluReg .add .h
abbrev addL : CpuM B Unit := aluReg .add .l
abbrev addA : CpuM B Unit := aluReg .add .a
abbrev adcAB : CpuM B Unit := aluReg .adc .b
abbrev adcAC : CpuM B Unit := aluReg .adc .c
abbrev adcAD : CpuM B Unit := aluReg .adc .d
abbrev adcAE : CpuM B Unit := aluReg .adc .e
abbrev adcAH : CpuM B Unit := aluReg .adc .h
abbrev adcAL : CpuM B Unit := aluReg .adc .l
abbrev adcAA : CpuM B Unit := aluReg .adc .a
abbrev subB : CpuM B Unit := aluReg .sub .b
abbrev subC : CpuM B Unit := aluReg .sub .c
abbrev subD : CpuM B Unit := aluReg .sub .d
abbrev subE : CpuM B Unit := aluReg .sub .e
abbrev subH : CpuM B Unit := aluReg .sub .h
abbrev subL : CpuM B Unit := aluReg .sub .l
abbrev subA : CpuM B Unit := aluReg .sub .a
abbrev sbcAB : CpuM B Unit := aluReg .sbc .b
abbrev sbcAC : CpuM B Unit := aluReg .sbc .c
abbrev sbcAD : CpuM B Unit := aluReg .sbc .d
abbrev sbcAE : CpuM B Unit := aluReg .sbc .e
abbrev sbcAH : CpuM B Unit := aluReg .sbc .h
abbrev sbcAL : CpuM B Unit := aluReg .sbc .l
abbrev sbcAA : CpuM B Unit := aluReg .sbc .a
abbrev andB : CpuM B Unit := aluReg .logicalAnd .b
abbrev andC : CpuM B Unit := aluReg .logicalAnd .c
abbrev andD : CpuM B Unit := aluReg .logicalAnd .d
abbrev andE : CpuM B Unit := aluReg .logicalAnd .e
abbrev andH : CpuM B Unit := aluReg .logicalAnd .h
abbrev andL : CpuM B Unit := aluReg .logicalAnd .l
abbrev andA : CpuM B Unit := aluReg .logicalAnd .a
abbrev xorB : CpuM B Unit := aluReg .logicalXor .b
abbrev xorC : CpuM B Unit := aluReg .logicalXor .c
abbrev xorD : CpuM B Unit := aluReg .logicalXor .d
abbrev xorE : CpuM B Unit := aluReg .logicalXor .e
abbrev xorH : CpuM B Unit := aluReg .logicalXor .h
abbrev xorL : CpuM B Unit := aluReg .logicalXor .l
abbrev xorA : CpuM B Unit := aluReg .logicalXor .a
abbrev orB : CpuM B Unit := aluReg .logicalOr .b
abbrev orC : CpuM B Unit := aluReg .logicalOr .c
abbrev orD : CpuM B Unit := aluReg .logicalOr .d
abbrev orE : CpuM B Unit := aluReg .logicalOr .e
abbrev orH : CpuM B Unit := aluReg .logicalOr .h
abbrev orL : CpuM B Unit := aluReg .logicalOr .l
abbrev orA : CpuM B Unit := aluReg .logicalOr .a
abbrev cpB : CpuM B Unit := aluReg .compare .b
abbrev cpC : CpuM B Unit := aluReg .compare .c
abbrev cpD : CpuM B Unit := aluReg .compare .d
abbrev cpE : CpuM B Unit := aluReg .compare .e
abbrev cpH : CpuM B Unit := aluReg .compare .h
abbrev cpL : CpuM B Unit := aluReg .compare .l
abbrev cpA : CpuM B Unit := aluReg .compare .a
abbrev ldBC : CpuM B Unit := ldRr .b .c
abbrev ldBD : CpuM B Unit := ldRr .b .d
abbrev ldBE : CpuM B Unit := ldRr .b .e
abbrev ldBH : CpuM B Unit := ldRr .b .h
abbrev ldBL : CpuM B Unit := ldRr .b .l
abbrev ldBA : CpuM B Unit := ldRr .b .a
abbrev ldCB : CpuM B Unit := ldRr .c .b
abbrev ldCD : CpuM B Unit := ldRr .c .d
abbrev ldCE : CpuM B Unit := ldRr .c .e
abbrev ldCH : CpuM B Unit := ldRr .c .h
abbrev ldCL : CpuM B Unit := ldRr .c .l
abbrev ldCA : CpuM B Unit := ldRr .c .a
abbrev ldDB : CpuM B Unit := ldRr .d .b
abbrev ldDC : CpuM B Unit := ldRr .d .c
abbrev ldDE : CpuM B Unit := ldRr .d .e
abbrev ldDH : CpuM B Unit := ldRr .d .h
abbrev ldDL : CpuM B Unit := ldRr .d .l
abbrev ldDA : CpuM B Unit := ldRr .d .a
abbrev ldEB : CpuM B Unit := ldRr .e .b
abbrev ldEC : CpuM B Unit := ldRr .e .c
abbrev ldED : CpuM B Unit := ldRr .e .d
abbrev ldEH : CpuM B Unit := ldRr .e .h
abbrev ldEL : CpuM B Unit := ldRr .e .l
abbrev ldEA : CpuM B Unit := ldRr .e .a
abbrev ldHB : CpuM B Unit := ldRr .h .b
abbrev ldHC : CpuM B Unit := ldRr .h .c
abbrev ldHD : CpuM B Unit := ldRr .h .d
abbrev ldHE : CpuM B Unit := ldRr .h .e
abbrev ldHL : CpuM B Unit := ldRr .h .l
abbrev ldHA : CpuM B Unit := ldRr .h .a
abbrev ldLB : CpuM B Unit := ldRr .l .b
abbrev ldLC : CpuM B Unit := ldRr .l .c
abbrev ldLD : CpuM B Unit := ldRr .l .d
abbrev ldLE : CpuM B Unit := ldRr .l .e
abbrev ldLH : CpuM B Unit := ldRr .l .h
abbrev ldLA : CpuM B Unit := ldRr .l .a
abbrev ldAB : CpuM B Unit := ldRr .a .b
abbrev ldAC : CpuM B Unit := ldRr .a .c
abbrev ldAD : CpuM B Unit := ldRr .a .d
abbrev ldAE : CpuM B Unit := ldRr .a .e
abbrev ldAH : CpuM B Unit := ldRr .a .h
abbrev ldAL : CpuM B Unit := ldRr .a .l
abbrev nop : CpuM B Unit := pure ()
abbrev ldBB : CpuM B Unit := pure ()
abbrev ldCC : CpuM B Unit := pure ()
abbrev ldDD : CpuM B Unit := pure ()
abbrev ldEE : CpuM B Unit := pure ()
abbrev ldHH : CpuM B Unit := pure ()
abbrev ldLL : CpuM B Unit := pure ()
abbrev ldAA : CpuM B Unit := pure ()
abbrev daa : CpuM B Unit := onRegs fun regs =>
  let adjust : UInt8 := (if regs.getC then 0x60 else 0x00) ||| (if regs.getH then 0x06 else 0x00)
  let (a,adjust) :=
    if regs.getN then (regs.a - adjust,adjust)
    else
      let adjust := adjust ||| (if 0x09 < regs.a &&& 0x0F then 0x06 else 0x00) ||| (if 0x99 < regs.a then 0x60 else 0x00)
      (regs.a + adjust,adjust)
  {((regs.setC (0x60 ≤ adjust)).setH false).setZ (a = 0) with a := a}

abbrev cpl : CpuM B Unit := onRegs fun regs => ({regs with a := ~~~regs.a}.setN true).setH true
abbrev scf : CpuM B Unit := onRegs fun regs => ((regs.setN false).setH false).setC true
abbrev ccf : CpuM B Unit := onRegs fun regs => ((regs.setN false).setH false).setC (!regs.getC)
abbrev rlca : CpuM B Unit := onRegs fun regs =>
  {regs with a := Registers.rotateLeft regs.a}.setFlags false false false (regs.a &&& 0x80 ≠ 0)

abbrev rrca : CpuM B Unit := onRegs fun regs =>
  {regs with a := Registers.rotateRight regs.a}.setFlags false false false (regs.a &&& 0x01 ≠ 0)

abbrev rla : CpuM B Unit := onRegs fun regs =>
  {regs with a := regs.a <<< 1 ||| (if regs.getC then 1 else 0)}.setFlags false false false (regs.a &&& 0x80 ≠ 0)

abbrev rra : CpuM B Unit := onRegs fun regs =>
  {regs with a := regs.a >>> 1 ||| (if regs.getC then 0x80 else 0)}.setFlags false false false (regs.a &&& 0x01 ≠ 0)

abbrev jpHl : CpuM B Unit := do
  let regs ← getRegs
  jump regs.getHl

abbrev di : CpuM B Unit := onCpu fun cpu => {cpu with ime := .disabled}

/-- The interrupts are enabled after the next instruction. -/
abbrev ei : CpuM B Unit := onCpu fun cpu => {cpu with ime := .pendingEnable}

variable [GbCpuBus B]

def aluHlMem (method : Registers → UInt8 → Registers) : CpuM B Unit := do
  let regs ← getRegs
  let value ← busReadTimed regs.getHl
  onRegs fun regs => method regs value

def aluD8 (method : Registers → UInt8 → Registers) : CpuM B Unit := do
  let value ← fetch8Timed
  onRegs fun regs => method regs value

def inc16 (get : Registers → UInt16) (set : Registers → UInt16 → Registers) : CpuM B Unit := do
  let regs ← getRegs
  let value ← incRpTimed (get regs)
  onRegs fun regs => set regs value

def dec16 (get : Registers → UInt16) (set : Registers → UInt16 → Registers) : CpuM B Unit := do
  let regs ← getRegs
  let value ← decRpTimed (get regs)
  onRegs fun regs => set regs value

def addToHl (rp : UInt16) (regs : Registers) : Registers :=
  let hl := regs.getHl
  (((regs.setN false).setH (0x0FFF < (hl &&& 0x0FFF) + (rp &&& 0x0FFF))).setC
    (0xFFFF < hl.toUInt32 + rp.toUInt32)).setHl (hl + rp)

def addHlRp (get : Registers → UInt16) : CpuM B Unit := do
  tickInternalTimed 4
  onRegs fun regs => addToHl (get regs) regs

def ldRHl (dst : Reg8) : CpuM B Unit := do
  let regs ← getRegs
  let value ← busReadTimed regs.getHl
  onRegs fun regs => regs.write dst value

def ldHlR (src : Reg8) : CpuM B Unit := do
  let regs ← getRegs
  busWriteTimed regs.getHl (regs.read src)

def ldRD8 (dst : Reg8) : CpuM B Unit := do
  let value ← fetch8Timed
  onRegs fun regs => regs.write dst value

def ldRpD16 (set : Registers → UInt16 → Registers) : CpuM B Unit := do
  let value ← fetch16Timed
  onRegs fun regs => set regs value

def popRp (set : Registers → UInt16 → Registers) : CpuM B Unit := do
  let value ← pop16TimedOam
  onRegs fun regs => set regs value

def pushRp (get : Registers → UInt16) : CpuM B Unit := do
  tickInternalTimed 4
  let regs ← getRegs
  push16TimedOam (get regs)

abbrev incBc : CpuM B Unit := inc16 Registers.getBc Registers.setBc
abbrev addHlBc : CpuM B Unit := addHlRp Registers.getBc
abbrev decBc : CpuM B Unit := dec16 Registers.getBc Registers.setBc
abbrev incDe : CpuM B Unit := inc16 Registers.getDe Registers.setDe
abbrev addHlDe : CpuM B Unit := addHlRp Registers.getDe
abbrev decDe : CpuM B Unit := dec16 Registers.getDe Registers.setDe
abbrev incHl : CpuM B Unit := inc16 Registers.getHl Registers.setHl
abbrev addHlHl : CpuM B Unit := addHlRp Registers.getHl
abbrev decHl : CpuM B Unit := dec16 Registers.getHl Registers.setHl
abbrev addHl : CpuM B Unit := aluHlMem .add
abbrev adcAHl : CpuM B Unit := aluHlMem .adc
abbrev subHl : CpuM B Unit := aluHlMem .sub
abbrev sbcAHl : CpuM B Unit := aluHlMem .sbc
abbrev andHl : CpuM B Unit := aluHlMem .logicalAnd
abbrev xorHl : CpuM B Unit := aluHlMem .logicalXor
abbrev orHl : CpuM B Unit := aluHlMem .logicalOr
abbrev cpHl : CpuM B Unit := aluHlMem .compare
abbrev addAD8 : CpuM B Unit := aluD8 .add
abbrev adcAD8 : CpuM B Unit := aluD8 .adc
abbrev subD8 : CpuM B Unit := aluD8 .sub
abbrev sbcAD8 : CpuM B Unit := aluD8 .sbc
abbrev andD8 : CpuM B Unit := aluD8 .logicalAnd
abbrev xorD8 : CpuM B Unit := aluD8 .logicalXor
abbrev orD8 : CpuM B Unit := aluD8 .logicalOr
abbrev cpD8 : CpuM B Unit := aluD8 .compare
abbrev ldBcD16 : CpuM B Unit := ldRpD16 Registers.setBc
abbrev ldBD8 : CpuM B Unit := ldRD8 .b
abbrev ldCD8 : CpuM B Unit := ldRD8 .c
abbrev ldDeD16 : CpuM B Unit := ldRpD16 Registers.setDe
abbrev ldDD8 : CpuM B Unit := ldRD8 .d
abbrev ldED8 : CpuM B Unit := ldRD8 .e
abbrev ldHlD16 : CpuM B Unit := ldRpD16 Registers.setHl
abbrev ldHD8 : CpuM B Unit := ldRD8 .h
abbrev ldLD8 : CpuM B Unit := ldRD8 .l
abbrev ldAD8 : CpuM B Unit := ldRD8 .a
abbrev ldBHl : CpuM B Unit := ldRHl .b
abbrev ldCHl : CpuM B Unit := ldRHl .c
abbrev ldDHl : CpuM B Unit := ldRHl .d
abbrev ldEHl : CpuM B Unit := ldRHl .e
abbrev ldHHl : CpuM B Unit := ldRHl .h
abbrev ldLHl : CpuM B Unit := ldRHl .l
abbrev ldHlB : CpuM B Unit := ldHlR .b
abbrev ldHlC : CpuM B Unit := ldHlR .c
abbrev ldHlD : CpuM B Unit := ldHlR .d
abbrev ldHlE : CpuM B Unit := ldHlR .e
abbrev ldHlH : CpuM B Unit := ldHlR .h
abbrev ldHlL : CpuM B Unit := ldHlR .l
abbrev ldHlA : CpuM B Unit := ldHlR .a
abbrev ldAHl : CpuM B Unit := ldRHl .a
abbrev popBc : CpuM B Unit := popRp Registers.setBc
abbrev pushBc : CpuM B Unit := pushRp Registers.getBc
abbrev popDe : CpuM B Unit := popRp Registers.setDe
abbrev pushDe : CpuM B Unit := pushRp Registers.getDe
abbrev popHl : CpuM B Unit := popRp Registers.setHl
abbrev pushHl : CpuM B Unit := pushRp Registers.getHl
abbrev popAf : CpuM B Unit := popRp Registers.setAf
abbrev pushAf : CpuM B Unit := pushRp Registers.getAf
abbrev incSp : CpuM B Unit := do
  let cpu ← getCpu
  let value ← incRpTimed cpu.sp
  onCpu fun cpu => {cpu with sp := value}

abbrev decSp : CpuM B Unit := do
  let cpu ← getCpu
  let value ← decRpTimed cpu.sp
  onCpu fun cpu => {cpu with sp := value}

abbrev addHlSp : CpuM B Unit := do
  tickInternalTimed 4
  let cpu ← getCpu
  onRegs (addToHl cpu.sp)

def changeHlVal (method : Registers → UInt8 → UInt8 × Registers) : CpuM B Unit := do
  let regs ← getRegs
  let val ← busReadTimed regs.getHl
  let newVal ← withRegs fun regs => method regs val
  busWriteTimed regs.getHl newVal

abbrev incHlVal : CpuM B Unit := changeHlVal Registers.inc
abbrev decHlVal : CpuM B Unit := changeHlVal Registers.dec

/-- The stack pointer and a signed byte, with the flags of their sum. -/
def spPlusOffset (ticks : UInt64) : CpuM B UInt16 := do
  let offset ← fetch8Timed
  tickInternalTimed ticks
  let cpu ← getCpu
  let result := cpu.sp + signedOffset offset
  let carries := cpu.sp ^^^ signedOffset offset ^^^ result
  onRegs fun regs => regs.setFlags false false (carries &&& 0x10 ≠ 0) (carries &&& 0x100 ≠ 0)
  return result

abbrev addSpR8 : CpuM B Unit := do
  let result ← spPlusOffset 8
  onCpu fun cpu => {cpu with sp := result}

abbrev ldHlSpR8 : CpuM B Unit := do
  let result ← spPlusOffset 4
  onRegs fun regs => regs.setHl result

abbrev ldSpHl : CpuM B Unit := do
  let regs ← getRegs
  onCpu fun cpu => {cpu with sp := regs.getHl}
  maybeTriggerOamWriteCorruption regs.getHl
  tickInternalTimed 4

def storeA (addr : Registers → UInt16) : CpuM B Unit := do
  let regs ← getRegs
  busWriteTimed (addr regs) regs.a

def loadA (addr : Registers → UInt16) : CpuM B Unit := do
  let regs ← getRegs
  let value ← busReadTimed (addr regs)
  onRegs fun regs => {regs with a := value}

abbrev ldBcA : CpuM B Unit := storeA Registers.getBc
abbrev ldDeA : CpuM B Unit := storeA Registers.getDe
abbrev ldABc : CpuM B Unit := loadA Registers.getBc
abbrev ldADe : CpuM B Unit := loadA Registers.getDe
abbrev ldCAddrA : CpuM B Unit := storeA fun regs => ioStart ||| regs.c.toUInt16
abbrev ldACAddr : CpuM B Unit := loadA fun regs => ioStart ||| regs.c.toUInt16

def storeAStep (step : UInt16) : CpuM B Unit := do
  let regs ← getRegs
  busWriteTimed regs.getHl regs.a
  onRegs fun later => later.setHl (regs.getHl + step)

def loadAStep (step : UInt16) : CpuM B Unit := do
  let regs ← getRegs
  let value ← busReadTimed regs.getHl
  onRegs fun later => {later with a := value}.setHl (regs.getHl + step)

abbrev ldHlPlusA : CpuM B Unit := storeAStep 1
abbrev ldHlMinusA : CpuM B Unit := storeAStep (-1)
abbrev ldAHlPlus : CpuM B Unit := loadAStep 1
abbrev ldAHlMinus : CpuM B Unit := loadAStep (-1)
abbrev ldhA8A : CpuM B Unit := do
  let offset ← fetch8Timed
  let regs ← getRegs
  busWriteTimed (ioStart ||| offset.toUInt16) regs.a

abbrev ldhAA8 : CpuM B Unit := do
  let offset ← fetch8Timed
  let value ← busReadTimed (ioStart ||| offset.toUInt16)
  onRegs fun regs => {regs with a := value}

abbrev ldA16A : CpuM B Unit := do
  let addr ← fetch16Timed
  let regs ← getRegs
  busWriteTimed addr regs.a

abbrev ldAA16 : CpuM B Unit := do
  let addr ← fetch16Timed
  let value ← busReadTimed addr
  onRegs fun regs => {regs with a := value}

abbrev ldA16Sp : CpuM B Unit := do
  let addr ← fetch16Timed
  let cpu ← getCpu
  busWriteTimed addr cpu.sp.toUInt8
  busWriteTimed (addr + 1) (cpu.sp >>> 8).toUInt8

abbrev ldSpD16 : CpuM B Unit := do
  let value ← fetch16Timed
  onCpu fun cpu => {cpu with sp := value}

abbrev ldHlD8 : CpuM B Unit := do
  let val ← fetch8Timed
  let regs ← getRegs
  busWriteTimed regs.getHl val

def jumpRelative (offset : UInt8) : CpuM B Unit := onCpu fun cpu => {cpu with pc := cpu.pc + signedOffset offset}

abbrev jrR8 : CpuM B Unit := do
  let offset ← fetch8Timed
  let cpu ← getCpu
  maybeTriggerOamWriteCorruption cpu.pc
  tickInternalTimed 4
  jumpRelative offset

/-- Unlike the unconditional jump, a conditional one jumps before it shows its address to the bus. -/
def jrIf (condition : Registers → Bool) : CpuM B Unit := do
  let offset ← fetch8Timed
  let regs ← getRegs
  if condition regs then
    jumpRelative offset
    let cpu ← getCpu
    maybeTriggerOamWriteCorruption cpu.pc
    tickInternalTimed 4
  else pure ()

abbrev jrNzR8 : CpuM B Unit := jrIf fun regs => !regs.getZ
abbrev jrZR8 : CpuM B Unit := jrIf Registers.getZ
abbrev jrNcR8 : CpuM B Unit := jrIf fun regs => !regs.getC
abbrev jrCR8 : CpuM B Unit := jrIf Registers.getC
abbrev jpA16 : CpuM B Unit := do
  let addr ← fetch16Timed
  jump addr
  tickInternalTimed 4

def jpIf (condition : Registers → Bool) : CpuM B Unit := do
  let addr ← fetch16Timed
  let regs ← getRegs
  if condition regs then
    jump addr
    tickInternalTimed 4
  else pure ()

abbrev jpNzA16 : CpuM B Unit := jpIf fun regs => !regs.getZ
abbrev jpZA16 : CpuM B Unit := jpIf Registers.getZ
abbrev jpNcA16 : CpuM B Unit := jpIf fun regs => !regs.getC
abbrev jpCA16 : CpuM B Unit := jpIf Registers.getC

def callTo (addr : UInt16) : CpuM B Unit := do
  tickInternalTimed 4
  let cpu ← getCpu
  push16TimedOam cpu.pc
  jump addr

abbrev callA16 : CpuM B Unit := do
  let addr ← fetch16Timed
  callTo addr

def callIf (condition : Registers → Bool) : CpuM B Unit := do
  let addr ← fetch16Timed
  let regs ← getRegs
  if condition regs then callTo addr else pure ()

abbrev callNzA16 : CpuM B Unit := callIf fun regs => !regs.getZ
abbrev callZA16 : CpuM B Unit := callIf Registers.getZ
abbrev callNcA16 : CpuM B Unit := callIf fun regs => !regs.getC
abbrev callCA16 : CpuM B Unit := callIf Registers.getC
abbrev rst00 : CpuM B Unit := callTo 0x0000
abbrev rst08 : CpuM B Unit := callTo 0x0008
abbrev rst10 : CpuM B Unit := callTo 0x0010
abbrev rst18 : CpuM B Unit := callTo 0x0018
abbrev rst20 : CpuM B Unit := callTo 0x0020
abbrev rst28 : CpuM B Unit := callTo 0x0028
abbrev rst30 : CpuM B Unit := callTo 0x0030
abbrev rst38 : CpuM B Unit := callTo 0x0038

def ret : CpuM B Unit := do
  let addr ← pop16Timed
  tickInternalTimed 4
  jump addr

def retIf (condition : Registers → Bool) : CpuM B Unit := do
  tickInternalTimed 4
  let regs ← getRegs
  if condition regs then ret else pure ()

abbrev retNz : CpuM B Unit := retIf fun regs => !regs.getZ
abbrev retZ : CpuM B Unit := retIf Registers.getZ
abbrev retNc : CpuM B Unit := retIf fun regs => !regs.getC
abbrev retC : CpuM B Unit := retIf Registers.getC
abbrev reti : CpuM B Unit := do
  let addr ← pop16Timed
  onCpu fun cpu => {cpu with ime := .enabled}
  tickInternalTimed 4
  jump addr

def stop : CpuM B Unit := do
  let _ ← fetch8Timed
  match ← tryCgbSpeedSwitch with
  | none =>
    onBus GbCpuBus.enterStopMode
    onCpu fun cpu => {cpu with running := .stopped}
  | some timing => onCpu fun cpu => cpu.accountTiming timing

def halt : CpuM B Unit := do
  let pending ← askBus GbCpuBus.pendingInterruptsForHalt
  let cpu ← getCpu
  if cpu.ime = .disabled ∧ pending ≠ 0 then onCpu fun cpu => {cpu with haltBugActive := true}
  else if cpu.ime = .pendingEnable ∧ pending ≠ 0 then onCpu fun cpu => {cpu with pc := cpu.pc - 1,running := .halted}
  else onCpu fun cpu => {cpu with running := .halted}

/-- The register of an instruction after the CB prefix; the index 6 is the memory at HL. -/
def cbRegister (idx : UInt8) : Option Reg8 :=
  [some .b,some .c,some .d,some .e,some .h,some .l,none,some .a].getD idx.toNat none

def applyShiftOp (subOp : UInt8) : Registers → UInt8 → UInt8 × Registers :=
  [Registers.rlc,Registers.rrc,Registers.rl,Registers.rr,Registers.sla,Registers.sra,Registers.swap,
    Registers.srl].getD subOp.toNat Registers.srl

def changeOperand (operand : Option Reg8) (method : Registers → UInt8 → UInt8 × Registers) : CpuM B Unit :=
  match operand with
  | none => changeHlVal method
  | some reg => onRegs fun regs => let (value,regs) := method regs (regs.read reg); regs.write reg value

def testOperand (operand : Option Reg8) (method : Registers → UInt8 → Registers) : CpuM B Unit :=
  match operand with
  | none => aluHlMem method
  | some reg => aluReg method reg

def executeCbOp (opcode : UInt8) : CpuM B Unit :=
  let operand := cbRegister (opcode &&& 0x07)
  let subOp := opcode >>> 3 &&& 0x07
  match (opcode >>> 6).toNat with
  | 0 => changeOperand operand (applyShiftOp subOp)
  | 1 => testOperand operand fun regs value => regs.bit subOp value
  | 2 => changeOperand operand fun regs value => (Registers.resetBit subOp value,regs)
  | _ => changeOperand operand fun regs value => (Registers.setBit subOp value,regs)

def tickRest (expectedCycles : UInt64) : CpuM B Unit := do
  let cpu ← getCpu
  if cpu.timedCyclesAccounted < expectedCycles then tickInternalTimed (expectedCycles - cpu.timedCyclesAccounted) else pure ()

def executeCbPrefix : CpuM B Unit := do
  let opcode ← fetch8Timed
  executeCbOp opcode
  tickRest (cbCycleTable.getD opcode.toNat 0)

abbrev unimplementedHandler : CpuM B Unit := onBus GbCpuBus.audioTraceExecutionFault

def opcodeTable : List (CpuM B Unit) :=
  [nop,ldBcD16,ldBcA,incBc,incB,decB,ldBD8,rlca,
   ldA16Sp,addHlBc,ldABc,decBc,incC,decC,ldCD8,rrca,
   stop,ldDeD16,ldDeA,incDe,incD,decD,ldDD8,rla,
   jrR8,addHlDe,ldADe,decDe,incE,decE,ldED8,rra,
   jrNzR8,ldHlD16,ldHlPlusA,incHl,incH,decH,ldHD8,daa,
   jrZR8,addHlHl,ldAHlPlus,decHl,incL,decL,ldLD8,cpl,
   jrNcR8,ldSpD16,ldHlMinusA,incSp,incHlVal,decHlVal,ldHlD8,scf,
   jrCR8,addHlSp,ldAHlMinus,decSp,incA,decA,ldAD8,ccf,
   ldBB,ldBC,ldBD,ldBE,ldBH,ldBL,ldBHl,ldBA,
   ldCB,ldCC,ldCD,ldCE,ldCH,ldCL,ldCHl,ldCA,
   ldDB,ldDC,ldDD,ldDE,ldDH,ldDL,ldDHl,ldDA,
   ldEB,ldEC,ldED,ldEE,ldEH,ldEL,ldEHl,ldEA,
   ldHB,ldHC,ldHD,ldHE,ldHH,ldHL,ldHHl,ldHA,
   ldLB,ldLC,ldLD,ldLE,ldLH,ldLL,ldLHl,ldLA,
   ldHlB,ldHlC,ldHlD,ldHlE,ldHlH,ldHlL,halt,ldHlA,
   ldAB,ldAC,ldAD,ldAE,ldAH,ldAL,ldAHl,ldAA,
   addB,addC,addD,addE,addH,addL,addHl,addA,
   adcAB,adcAC,adcAD,adcAE,adcAH,adcAL,adcAHl,adcAA,
   subB,subC,subD,subE,subH,subL,subHl,subA,
   sbcAB,sbcAC,sbcAD,sbcAE,sbcAH,sbcAL,sbcAHl,sbcAA,
   andB,andC,andD,andE,andH,andL,andHl,andA,
   xorB,xorC,xorD,xorE,xorH,xorL,xorHl,xorA,
   orB,orC,orD,orE,orH,orL,orHl,orA,
   cpB,cpC,cpD,cpE,cpH,cpL,cpHl,cpA,
   retNz,popBc,jpNzA16,jpA16,callNzA16,pushBc,addAD8,rst00,
   retZ,ret,jpZA16,executeCbPrefix,callZA16,callA16,adcAD8,rst08,
   retNc,popDe,jpNcA16,unimplementedHandler,callNcA16,pushDe,subD8,rst10,
   retC,reti,jpCA16,unimplementedHandler,callCA16,unimplementedHandler,sbcAD8,rst18,
   ldhA8A,popHl,ldCAddrA,unimplementedHandler,unimplementedHandler,pushHl,andD8,rst20,
   addSpR8,jpHl,ldA16A,unimplementedHandler,unimplementedHandler,unimplementedHandler,xorD8,rst28,
   ldhAA8,popAf,ldACAddr,di,unimplementedHandler,pushAf,orD8,rst30,
   ldHlSpR8,ldSpHl,ldAA16,ei,unimplementedHandler,unimplementedHandler,cpD8,rst38]

def executeOpcode (opcode : UInt8) : CpuM B Unit := opcodeTable.getD opcode.toNat unimplementedHandler

/-- An instruction is executed, and an interrupt that was to be enabled after it is enabled. -/
def executeNext : CpuM B Unit := do
  let before ← getCpu
  let opcode ← fetch8Timed
  executeOpcode opcode
  tickRest (cycleTable.getD opcode.toNat 0)
  onCpu Cpu.commitStepCycles
  onCpu fun cpu => if before.ime = .pendingEnable ∧ cpu.ime = .pendingEnable then {cpu with ime := .enabled} else cpu

def interruptOrNext : CpuM B Unit := do
  let handled ← handleInterrupts
  if handled then onCpu Cpu.commitStepCycles else executeNext

def stepWithBus : CpuM B Unit := do
  onCpu fun cpu => {cpu with timedCyclesAccounted := 0,timedMasterTicksAccounted := 0}
  let cpu ← getCpu
  if cpu.running = .stopped then
    tickStoppedTimed 4
    onCpu Cpu.commitStepCycles
  else if cpu.running = .halted then
    let pending ← askBus GbCpuBus.pendingInterruptsForHalt
    if pending = 0 then
      tickInternalTimed 4
      onCpu Cpu.commitStepCycles
    else
      onCpu fun cpu => {cpu with running := .running}
      interruptOrNext
  else interruptOrNext

end

section
variable {B : Type}

instance (method : Registers → UInt8 → Registers) (reg : Reg8) : Keeps Awake (aluReg method reg : CpuM B Unit) := by
  unfold aluReg
  infer_instance

instance (reg : Reg8) : Keeps Awake (inc8 reg : CpuM B Unit) := by unfold inc8; infer_instance

instance (reg : Reg8) : Keeps Awake (dec8 reg : CpuM B Unit) := by unfold dec8; infer_instance

instance (dst src : Reg8) : Keeps Awake (ldRr dst src : CpuM B Unit) := by unfold ldRr; infer_instance

variable [GbCpuBus B]

instance (method : Registers → UInt8 → Registers) : Keeps Awake (aluHlMem method : CpuM B Unit) := by
  unfold aluHlMem
  infer_instance

instance (method : Registers → UInt8 → Registers) : Keeps Awake (aluD8 method : CpuM B Unit) := by
  unfold aluD8
  infer_instance

instance (get : Registers → UInt16) (set : Registers → UInt16 → Registers) : Keeps Awake (inc16 get set : CpuM B Unit) := by
  unfold inc16
  infer_instance

instance (get : Registers → UInt16) (set : Registers → UInt16 → Registers) : Keeps Awake (dec16 get set : CpuM B Unit) := by
  unfold dec16
  infer_instance

instance (get : Registers → UInt16) : Keeps Awake (addHlRp get : CpuM B Unit) := by unfold addHlRp; infer_instance

instance (dst : Reg8) : Keeps Awake (ldRHl dst : CpuM B Unit) := by unfold ldRHl; infer_instance

instance (src : Reg8) : Keeps Awake (ldHlR src : CpuM B Unit) := by unfold ldHlR; infer_instance

instance (dst : Reg8) : Keeps Awake (ldRD8 dst : CpuM B Unit) := by unfold ldRD8; infer_instance

instance (set : Registers → UInt16 → Registers) : Keeps Awake (ldRpD16 set : CpuM B Unit) := by unfold ldRpD16; infer_instance

instance (set : Registers → UInt16 → Registers) : Keeps Awake (popRp set : CpuM B Unit) := by unfold popRp; infer_instance

instance (get : Registers → UInt16) : Keeps Awake (pushRp get : CpuM B Unit) := by unfold pushRp; infer_instance

instance (method : Registers → UInt8 → UInt8 × Registers) : Keeps Awake (changeHlVal method : CpuM B Unit) := by
  unfold changeHlVal
  infer_instance

instance (ticks : UInt64) : Keeps Awake (spPlusOffset ticks : CpuM B UInt16) := by
  unfold spPlusOffset
  dsimp only
  infer_instance

instance (addr : Registers → UInt16) : Keeps Awake (storeA addr : CpuM B Unit) := by unfold storeA; infer_instance

instance (addr : Registers → UInt16) : Keeps Awake (loadA addr : CpuM B Unit) := by unfold loadA; infer_instance

instance (step : UInt16) : Keeps Awake (storeAStep step : CpuM B Unit) := by unfold storeAStep; infer_instance

instance (step : UInt16) : Keeps Awake (loadAStep step : CpuM B Unit) := by unfold loadAStep; infer_instance

instance (condition : Registers → Bool) : Keeps Awake (jrIf condition : CpuM B Unit) := by
  unfold jrIf jumpRelative
  infer_instance

instance (condition : Registers → Bool) : Keeps Awake (jpIf condition : CpuM B Unit) := by unfold jpIf; infer_instance

instance (addr : UInt16) : Keeps Awake (callTo addr : CpuM B Unit) := by unfold callTo; infer_instance

instance (condition : Registers → Bool) : Keeps Awake (callIf condition : CpuM B Unit) := by unfold callIf; infer_instance

instance : Keeps Awake (ret : CpuM B Unit) := by unfold ret; infer_instance

instance (condition : Registers → Bool) : Keeps Awake (retIf condition : CpuM B Unit) := by unfold retIf; infer_instance

instance (timing : GbCpuTiming) : Wakeful fun cpu => cpu.accountTiming timing := .of_running fun _ => rfl

instance : Keeps Awake (stop : CpuM B Unit) := by
  have stops : Wakeful fun cpu : Cpu => {cpu with running := .stopped} := ⟨nofun⟩
  have stopped : Keeps Awake (do onBus GbCpuBus.enterStopMode; onCpu fun cpu => {cpu with running := .stopped} : CpuM B Unit) :=
    inferInstance
  unfold stop
  have each (timing : Option GbCpuTiming) : Keeps Awake (match timing with
      | none => do onBus GbCpuBus.enterStopMode; onCpu fun cpu => {cpu with running := .stopped}
      | some timing => onCpu fun cpu => cpu.accountTiming timing : CpuM B Unit) := by
    cases timing with
    | none => exact stopped
    | some timing => infer_instance
  infer_instance

instance : Keeps Awake (halt : CpuM B Unit) := by
  have bug : Wakeful fun cpu : Cpu => {cpu with haltBugActive := true} := .of_running fun _ => rfl
  have again : Wakeful fun cpu : Cpu => {cpu with pc := cpu.pc - 1,running := .halted} := ⟨nofun⟩
  have halts : Wakeful fun cpu : Cpu => {cpu with running := .halted} := ⟨nofun⟩
  unfold halt
  infer_instance

instance (operand : Option Reg8) (method : Registers → UInt8 → UInt8 × Registers) :
    Keeps Awake (changeOperand operand method : CpuM B Unit) := by
  unfold changeOperand
  split <;> infer_instance

instance (operand : Option Reg8) (method : Registers → UInt8 → Registers) :
    Keeps Awake (testOperand operand method : CpuM B Unit) := by
  unfold testOperand
  split <;> infer_instance

instance (opcode : UInt8) : Keeps Awake (executeCbOp opcode : CpuM B Unit) := by
  unfold executeCbOp
  dsimp only
  split <;> infer_instance

instance (offset : UInt8) : Keeps Awake (jumpRelative offset : CpuM B Unit) := by unfold jumpRelative; infer_instance

instance (expectedCycles : UInt64) : Keeps Awake (tickRest expectedCycles : CpuM B Unit) := by
  unfold tickRest
  infer_instance

instance : Keeps Awake (executeCbPrefix : CpuM B Unit) := by unfold executeCbPrefix; infer_instance

instance : Keeps Awake (unimplementedHandler : CpuM B Unit) := by unfold unimplementedHandler; infer_instance

theorem opcodeTable_awake : ∀ handler ∈ (opcodeTable : List (CpuM B Unit)), Keeps Awake handler := by
  unfold opcodeTable
  repeat (refine List.forall_mem_cons.2 ⟨inferInstance,?_⟩)
  exact fun _ absent => nomatch absent

/-- Whatever the opcode, also one that does not exist. -/
instance (opcode : UInt8) : Keeps Awake (executeOpcode opcode : CpuM B Unit) := by
  unfold executeOpcode
  by_cases inside : opcode.toNat < (opcodeTable : List (CpuM B Unit)).length
  · rw [List.getD_eq_getElem _ _ inside]
    exact opcodeTable_awake _ (List.getElem_mem inside)
  · rw [List.getD_eq_default _ _ (Nat.le_of_not_lt inside)]
    unfold unimplementedHandler
    infer_instance

instance : Keeps Awake (executeNext : CpuM B Unit) := by
  have enables (before : Cpu) : Wakeful fun cpu : Cpu =>
      if before.ime = .pendingEnable ∧ cpu.ime = .pendingEnable then {cpu with ime := .enabled} else cpu := by
    refine .of_running fun cpu => ?_
    split <;> rfl
  unfold executeNext
  infer_instance

instance : Keeps Awake (interruptOrNext : CpuM B Unit) := by unfold interruptOrNext; infer_instance

/-- No step suspends the CPU. -/
instance : Keeps Awake (stepWithBus : CpuM B Unit) := by
  have starts : Wakeful fun cpu : Cpu => {cpu with timedCyclesAccounted := 0,timedMasterTicksAccounted := 0} :=
    .of_running fun _ => rfl
  have wakes : Wakeful fun cpu : Cpu => {cpu with running := .running} := ⟨nofun⟩
  unfold stepWithBus
  infer_instance

end

end ZeffBoy.GameBoy.Sm83
