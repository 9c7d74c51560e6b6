import Mathlib

/-! The serial memory beside mapper 16, which a program drives by the level of two lines.
A change of the data line while the clock is high starts or stops a transaction; every rising edge of the clock is a bit.
A transaction is the levels of its parts. -/
namespace ZeffBoy.Nes

inductive EepromState
  | standby
  | receiveControl
  | receiveAddress
  | receiveWriteData
  | sendReadData
deriving DecidableEq

inductive EepromReadPhase
  | outputBits
  | awaitMasterAck
deriving DecidableEq

inductive EepromAckPhase
  | none
  | pending
  | clocked
deriving DecidableEq

structure Eeprom where
  data : UInt8 → UInt8
  scl : Bool
  sdaIn : Bool
  readEnable : Bool
  state : EepromState
  shift : UInt8
  bits : UInt8
  pointer : UInt8
  addressLatched : Bool
  readPhase : EepromReadPhase
  readBit : UInt8
  readClocked : Bool
  ackPhase : EepromAckPhase

namespace Eeprom

def new : Eeprom where
  data := fun _ => 0xFF
  scl := true
  sdaIn := true
  readEnable := false
  state := .standby
  shift := 0
  bits := 0
  pointer := 0
  addressLatched := false
  readPhase := .outputBits
  readBit := 0
  readClocked := false
  ackPhase := .none

def beginReceiveByte (nextState : EepromState) (eeprom : Eeprom) : Eeprom :=
  {eeprom with state := nextState, shift := 0, bits := 0}

def startCondition (eeprom : Eeprom) : Eeprom :=
  {eeprom.beginReceiveByte .receiveControl with addressLatched := false, ackPhase := .none}

def stopCondition (eeprom : Eeprom) : Eeprom :=
  {eeprom with state := .standby, readPhase := .outputBits, bits := 0, readClocked := false, ackPhase := .none}

def ackNextClock (eeprom : Eeprom) : Eeprom := {eeprom with ackPhase := .pending}

/-- A byte is complete. -/
def receiveByte (byte : UInt8) (eeprom : Eeprom) : Eeprom :=
  match eeprom.state with
  | .receiveControl =>
    if byte &&& 0xF0 ≠ 0xA0 then {eeprom with state := .standby}
    else
      let eeprom := eeprom.ackNextClock
      if byte &&& 0x01 ≠ 0 then {eeprom with
        state := .sendReadData
        readPhase := .outputBits
        readBit := 0
        readClocked := false}
      else if eeprom.addressLatched then {eeprom with state := .receiveWriteData}
      else {eeprom with state := .receiveAddress}
  | .receiveAddress => ackNextClock {eeprom with pointer := byte, addressLatched := true, state := .receiveWriteData}
  | .receiveWriteData => ackNextClock {eeprom with
      data := Function.update eeprom.data eeprom.pointer byte
      pointer := eeprom.pointer + 1}
  | _ => eeprom

def receiveByteBit (sda : Bool) (eeprom : Eeprom) : Eeprom :=
  let shifted := eeprom.shift <<< 1 ||| sda.toUInt8
  if eeprom.bits + 1 < 8 then {eeprom with shift := shifted, bits := eeprom.bits + 1}
  else receiveByte shifted {eeprom with shift := 0, bits := 0}

def clockRisingEdge (sda : Bool) (eeprom : Eeprom) : Eeprom :=
  if eeprom.ackPhase = .pending then {eeprom with ackPhase := .clocked}
  else
    match eeprom.state with
    | .sendReadData =>
      match eeprom.readPhase with
      | .outputBits => {eeprom with readClocked := true}
      | .awaitMasterAck =>
        if sda then {eeprom with state := .standby}
        else {eeprom with pointer := eeprom.pointer + 1, readPhase := .outputBits, readBit := 0, readClocked := false}
    | .receiveControl | .receiveAddress | .receiveWriteData => eeprom.receiveByteBit sda
    | .standby => eeprom

/-- The clock falls. -/
def clockFallingEdge (eeprom : Eeprom) : Eeprom :=
  let eeprom := if eeprom.ackPhase = .clocked then {eeprom with ackPhase := .none} else eeprom
  if eeprom.state = .sendReadData ∧ eeprom.readPhase = .outputBits ∧ eeprom.readClocked then
    let readBit := if eeprom.readBit = 0xFF then 0xFF else eeprom.readBit + 1
    {eeprom with
      readClocked := false
      readBit := readBit
      readPhase := if 8 ≤ readBit then .awaitMasterAck else eeprom.readPhase}
  else eeprom

/-- The two lines are given a level, and the output is enabled or not. -/
def setLines (scl sdaIn readEnable : Bool) (eeprom : Eeprom) : Eeprom :=
  let eeprom := {eeprom with readEnable := readEnable}
  let prevScl := eeprom.scl
  let prevSda := eeprom.sdaIn
  let eeprom :=
    if prevScl && scl then
      if prevSda && !sdaIn then eeprom.startCondition
      else if !prevSda && sdaIn then eeprom.stopCondition
      else eeprom
    else eeprom
  let eeprom := if !prevScl && scl then eeprom.clockRisingEdge sdaIn else eeprom
  let eeprom := if prevScl && !scl then eeprom.clockFallingEdge else eeprom
  {eeprom with scl := scl, sdaIn := sdaIn}

def handleControlWrite (val : UInt8) (eeprom : Eeprom) : Eeprom :=
  eeprom.setLines (val &&& 0x20 ≠ 0) (val &&& 0x40 ≠ 0) (val &&& 0x80 ≠ 0)

def dataOut (eeprom : Eeprom) : Bool :=
  if eeprom.readEnable = false then true
  else if eeprom.ackPhase ≠ .none then false
  else
    match eeprom.state with
    | .sendReadData =>
      match eeprom.readPhase with
      | .outputBits => (eeprom.data eeprom.pointer >>> (if eeprom.readBit ≤ 7 then 7 - eeprom.readBit else 0)) &&& 1 ≠ 0
      | .awaitMasterAck => true
    | _ => true

end Eeprom

/-- A level of the two lines, at which the program may look at the output. -/
structure Level where
  scl : Bool
  sda : Bool
  sampled : Bool

/-- A control write, and whether the program reads the output after it. -/
structure ControlWrite where
  val : UInt8
  sampled : Bool

/-- A write gives the lines a level; the data line may have any value while the clock is low. -/
structure Puts (write : ControlWrite) (level : Level) : Prop where
  scl : write.val &&& 0x20 ≠ 0 ↔ level.scl = true
  sda : level.scl = true → (write.val &&& 0x40 ≠ 0 ↔ level.sda = true)
  enabled : write.sampled = true → write.val &&& 0x80 ≠ 0

/-- The writes put the levels on the lines, each for one write or for many, and look where the levels say.
The output is enabled where it is looked at, and may be anywhere. -/
inductive Follows : List ControlWrite → List Level → Prop
  | nil : Follows [] []
  | write {write : ControlWrite} {level : Level} {writes : List ControlWrite} {levels : List Level} (puts : Puts write level)
    (sampled : write.sampled = level.sampled) (rest : Follows writes levels) : Follows (write::writes) (level::levels)
  | hold {write : ControlWrite} {level : Level} {writes : List ControlWrite} {levels : List Level} (puts : Puts write level)
    (sampled : write.sampled = true → level.sampled = true)
    (rest : Follows writes ({level with sampled := level.sampled && !write.sampled}::levels)) : Follows (write::writes) (level::levels)

namespace Eeprom

section Runs

def drive : List ControlWrite → Eeprom → List Bool × Eeprom
  | [],eeprom => ([],eeprom)
  | write::writes,eeprom =>
    let eeprom := eeprom.handleControlWrite write.val
    let (outputs,last) := drive writes eeprom
    (if write.sampled then eeprom.dataOut::outputs else outputs,last)

def after : List Level → Eeprom → Eeprom
  | [],eeprom => eeprom
  | level::levels,eeprom => after levels (eeprom.setLines level.scl level.sda true)

def outputs : List Level → Eeprom → List Bool
  | [],_ => []
  | level::levels,eeprom =>
    let eeprom := eeprom.setLines level.scl level.sda true
    if level.sampled then eeprom.dataOut::outputs levels eeprom else outputs levels eeprom

variable {eeprom : Eeprom} {one two : List Level}

theorem after_append (one two : List Level) (eeprom : Eeprom) : after (one ++ two) eeprom = after two (after one eeprom) := by
  induction one generalizing eeprom with
  | nil => rfl
  | cons level one ih => exact ih _

theorem outputs_append (one two : List Level) (eeprom : Eeprom) :
    outputs (one ++ two) eeprom = outputs one eeprom ++ outputs two (after one eeprom) := by
  induction one generalizing eeprom with
  | nil => rfl
  | cons level one ih =>
    rw [List.cons_append,outputs,outputs,after,ih]
    split <;> rfl

def shown (readEnable sdaIn : Bool) (eeprom : Eeprom) : Eeprom := {eeprom with readEnable := readEnable, sdaIn := sdaIn}

theorem receiveByte_shown (byte : UInt8) (readEnable line : Bool) (eeprom : Eeprom) :
    (eeprom.shown readEnable line).receiveByte byte = (eeprom.receiveByte byte).shown readEnable line := by
  obtain ⟨_,_,_,_,state,_,_,_,latched,_,_,_,_⟩ := eeprom
  cases state with
  | receiveControl =>
    show (if _ then _ else _) = shown readEnable line (if _ then _ else _)
    by_cases other : byte &&& 0xF0 ≠ 0xA0
    · rw [if_pos other,if_pos other]
      rfl
    rw [if_neg other,if_neg other]
    by_cases read : byte &&& 0x01 ≠ 0
    · rw [if_pos read,if_pos read]
      rfl
    rw [if_neg read,if_neg read]
    cases latched
    · rfl
    · rfl
  | standby => rfl
  | receiveAddress => rfl
  | receiveWriteData => rfl
  | sendReadData => rfl

theorem receiveByteBit_shown (sda readEnable line : Bool) (eeprom : Eeprom) :
    (eeprom.shown readEnable line).receiveByteBit sda = (eeprom.receiveByteBit sda).shown readEnable line := by
  show (if eeprom.bits + 1 < 8 then _ else _) = shown readEnable line (if eeprom.bits + 1 < 8 then _ else _)
  by_cases more : eeprom.bits + 1 < 8
  · rw [if_pos more,if_pos more]
    rfl
  · rw [if_neg more,if_neg more]
    exact receiveByte_shown _ readEnable line {eeprom with shift := 0, bits := 0}

theorem clockRisingEdge_shown (sda readEnable line : Bool) (eeprom : Eeprom) :
    (eeprom.shown readEnable line).clockRisingEdge sda = (eeprom.clockRisingEdge sda).shown readEnable line := by
  have bit := receiveByteBit_shown sda readEnable line eeprom
  obtain ⟨_,_,_,_,state,_,_,_,_,phase,_,_,ack⟩ := eeprom
  cases ack
  case pending => rfl
  all_goals
    cases state
    case standby => rfl
    case sendReadData =>
      cases phase
      · rfl
      · cases sda <;> rfl
    all_goals exact bit

theorem clockFallingEdge_shown (readEnable line : Bool) (eeprom : Eeprom) :
    (eeprom.shown readEnable line).clockFallingEdge = eeprom.clockFallingEdge.shown readEnable line := by
  obtain ⟨_,_,_,_,state,_,_,_,_,phase,_,clocked,ack⟩ := eeprom
  cases ack <;> cases state <;> cases phase <;> cases clocked <;> rfl

def lines (scl sda : Bool) (eeprom : Eeprom) : Eeprom := {eeprom with scl := scl, sdaIn := sda}

theorem setLines_rises (low : eeprom.scl = false) (sda readEnable : Bool) :
    eeprom.setLines true sda readEnable = ((eeprom.shown readEnable eeprom.sdaIn).clockRisingEdge sda).lines true sda := by
  cases eeprom
  cases low
  rfl

theorem setLines_falls (high : eeprom.scl = true) (sda readEnable : Bool) :
    eeprom.setLines false sda readEnable = (eeprom.shown readEnable eeprom.sdaIn).clockFallingEdge.lines false sda := by
  cases eeprom
  cases high
  rfl

theorem setLines_shown {line : Bool} (same : eeprom.scl = true → line = eeprom.sdaIn) (scl sda readEnable before : Bool) :
    (eeprom.shown before line).setLines scl sda readEnable = (eeprom.setLines scl sda true).shown readEnable sda := by
  cases high : eeprom.scl with
  | false =>
    cases scl with
    | false =>
      obtain ⟨data,scl,sdaIn,enabled,state,shift,bits,pointer,latched,phase,readBit,clocked,ack⟩ := eeprom
      cases high
      rfl
    | true =>
      rw [setLines_rises high,setLines_rises (show (eeprom.shown before line).scl = false from high)]
      have other := clockRisingEdge_shown sda readEnable line eeprom
      have always := clockRisingEdge_shown sda true eeprom.sdaIn eeprom
      rw [always,show (eeprom.shown before line).shown readEnable (eeprom.shown before line).sdaIn = eeprom.shown readEnable line from rfl,
        other]
      rfl
  | true =>
    obtain rfl := same high
    cases scl with
    | false =>
      rw [setLines_falls high,setLines_falls (show (eeprom.shown before eeprom.sdaIn).scl = true from high)]
      have other := clockFallingEdge_shown readEnable eeprom.sdaIn eeprom
      have always := clockFallingEdge_shown true eeprom.sdaIn eeprom
      rw [always,show (eeprom.shown before eeprom.sdaIn).shown readEnable (eeprom.shown before eeprom.sdaIn).sdaIn =
        eeprom.shown readEnable eeprom.sdaIn from rfl,other]
      rfl
    | true =>
      obtain ⟨_,_,sdaIn,_,_,_,_,_,_,_,_,_,_⟩ := eeprom
      cases high
      cases sdaIn <;> cases sda <;> rfl

theorem decide_level {shown : Prop} [Decidable shown] {level : Bool} (same : shown ↔ level = true) : decide shown = level := by
  cases level with
  | false => exact decide_eq_false fun high => Bool.false_ne_true (same.mp high)
  | true => exact decide_eq_true (same.mpr rfl)

/-- Two memories differ in what is shown, and in a data line that nothing reads. -/
structure Alike (one two : Eeprom) : Prop where
  same : ∃ readEnable line, one = two.shown readEnable line
  sda : two.scl = true → one.sdaIn = two.sdaIn

variable {one two : Eeprom}

theorem Alike.data (alike : Alike one two) : one.data = two.data := by
  obtain ⟨⟨_,_,rfl⟩,_⟩ := alike
  rfl

theorem Alike.before (alike : Alike one two) (scl sda readEnable : Bool) :
    one.setLines scl sda readEnable = (two.setLines scl sda true).shown readEnable sda := by
  obtain ⟨⟨enabled,line,rfl⟩,same⟩ := alike
  exact setLines_shown same scl sda readEnable enabled

theorem setLines_false (one two : Bool) (eeprom : Eeprom) :
    eeprom.setLines false one true = (eeprom.setLines false two true).shown true one := by
  cases high : eeprom.scl with
  | true =>
    rw [setLines_falls high,setLines_falls high,clockFallingEdge_shown]
    rfl
  | false =>
    cases eeprom
    cases high
    rfl

theorem Alike.put {write : ControlWrite} {level : Level} (alike : Alike one two) (puts : Puts write level) :
    Alike (one.handleControlWrite write.val) (two.setLines level.scl level.sda true) := by
  have clock : decide (write.val &&& 0x20 ≠ 0) = level.scl := decide_level puts.scl
  rw [handleControlWrite,clock,alike.before]
  cases high : level.scl with
  | true =>
    have line : decide (write.val &&& 0x40 ≠ 0) = level.sda := decide_level (puts.sda high)
    rw [line]
    exact ⟨⟨_,_,rfl⟩,fun _ => rfl⟩
  | false =>
    refine ⟨⟨decide (write.val &&& 0x80 ≠ 0),decide (write.val &&& 0x40 ≠ 0),?_⟩,fun same => absurd same Bool.false_ne_true⟩
    rw [setLines_false _ level.sda]
    rfl

theorem setLines_readEnable (scl sda : Bool) (eeprom : Eeprom) : (eeprom.setLines scl sda true).readEnable = true :=
  congrArg Eeprom.readEnable (setLines_shown (fun _ => rfl) scl sda true eeprom.readEnable)

theorem setLines_again (scl sda : Bool) (eeprom : Eeprom) :
    (eeprom.setLines scl sda true).setLines scl sda true = eeprom.setLines scl sda true := by
  have still : ∀ next : Eeprom, next.scl = scl → next.sdaIn = sda → next.readEnable = true → next.setLines scl sda true = next := by
    intro next clock line enabled
    obtain ⟨_,scl,sdaIn,enabled,_,_,_,_,_,_,_,_,_⟩ := next
    cases clock
    cases line
    cases enabled
    cases scl <;> cases sdaIn <;> rfl
  exact still _ rfl rfl (setLines_readEnable scl sda eeprom)

theorem Alike.dataOut (alike : Alike one two) (enabled : one.readEnable = two.readEnable) :
    one.dataOut = two.dataOut := by
  obtain ⟨⟨readEnable,line,rfl⟩,_⟩ := alike
  cases enabled
  rfl

theorem Alike.looks {write : ControlWrite} {level : Level} (alike : Alike one two) (puts : Puts write level)
    (sampled : write.sampled = true) : (one.handleControlWrite write.val).dataOut = (two.setLines level.scl level.sda true).dataOut := by
  refine (alike.put puts).dataOut ?_
  rw [setLines_readEnable,handleControlWrite,alike.before]
  exact decide_eq_true (puts.enabled sampled)

theorem drive_eq {writes : List ControlWrite} {levels : List Level} (follows : Follows writes levels)
    (alike : Alike one two) : (drive writes one).1 = outputs levels two ∧ Alike (drive writes one).2 (after levels two) := by
  induction follows generalizing one two with
  | nil => exact ⟨rfl,alike⟩
  | @write write level writes levels puts sampled rest ih =>
    obtain ⟨shown,last⟩ := ih (alike.put puts)
    refine ⟨?_,last⟩
    rw [drive,outputs]
    dsimp only
    rw [shown,← sampled]
    cases look : write.sampled with
    | false => rfl
    | true =>
      rw [if_pos rfl,if_pos rfl,alike.looks puts look]
  | @hold write level writes levels puts sampled rest ih =>
    obtain ⟨shown,last⟩ := ih (alike.put puts)
    rw [outputs] at shown
    dsimp only at shown
    rw [setLines_again] at shown
    rw [after,setLines_again] at last
    refine ⟨?_,last⟩
    rw [drive,outputs]
    dsimp only
    rw [shown]
    cases look : write.sampled with
    | false =>
      rw [Bool.not_false,Bool.and_true]
      rfl
    | true =>
      rw [sampled look,if_pos rfl,if_pos rfl,alike.looks puts look]
      rfl

end Runs
end Eeprom
end ZeffBoy.Nes
