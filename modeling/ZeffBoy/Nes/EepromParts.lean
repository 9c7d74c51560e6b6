import ZeffBoy.Nes.Eeprom

/-! The parts of a transaction, and what the memory makes of each, complete or cut off: what it sends, a bit for every clock, and
what a stop leaves of it. -/
namespace ZeffBoy.Nes
open EepromState EepromReadPhase List

section Levels

def bitsOf (value : UInt8) : List Bool :=
  [value.toBitVec.getLsbD 7,value.toBitVec.getLsbD 6,value.toBitVec.getLsbD 5,value.toBitVec.getLsbD 4,value.toBitVec.getLsbD 3,
    value.toBitVec.getLsbD 2,value.toBitVec.getLsbD 1,value.toBitVec.getLsbD 0]

def bitLevels (bit : Bool) : List Level := [⟨false,bit,false⟩,⟨true,bit,false⟩]

def byteLevels (value : UInt8) : List Level := (bitsOf value).flatMap bitLevels

def ackLevels : List Level := [⟨false,true,false⟩,⟨true,true,true⟩,⟨false,true,false⟩]

def startLevels : List Level := [⟨true,true,false⟩,⟨true,false,false⟩,⟨false,false,false⟩]

def stopLevels : List Level := [⟨false,false,false⟩,⟨true,false,false⟩,⟨true,true,false⟩]

/-- The program lets go of the line for some clocks, and looks at it in each of them. -/
def clockLevels (count : Nat) : List Level := (List.replicate count [⟨false,true,false⟩,⟨true,true,true⟩]).flatten

def readLevels : List Level := clockLevels 8

def masterLevels (last : Bool) : List Level := [⟨false,last,false⟩,⟨true,last,false⟩,⟨false,last,false⟩]

end Levels

namespace Eeprom

def Always (keeps : Eeprom → Prop) (levels : List Level) (eeprom : Eeprom) : Prop := ∀ count, keeps (after (levels.take count) eeprom)

section Cuts
variable {keeps : Eeprom → Prop} {one two levels : List Level} {eeprom : Eeprom}

theorem Always.append (first : Always keeps one eeprom) (second : Always keeps two (after one eeprom)) :
    Always keeps (one ++ two) eeprom := by
  intro count
  rw [take_append]
  obtain early | late := Nat.le_total count one.length
  · rw [Nat.sub_eq_zero_of_le early,take_zero,append_nil]
    exact first count
  · rw [take_of_length_le late,after_append]
    exact second _

theorem Always.finish (always : Always keeps levels eeprom) : keeps (after levels eeprom) := by
  have last := always levels.length
  rwa [take_length] at last

theorem always_of_lt (inside : ∀ count < levels.length, keeps (after (levels.take count) eeprom)) (last : keeps (after levels eeprom)) :
    Always keeps levels eeprom := by
  intro count
  obtain early | late := lt_or_ge count levels.length
  · exact inside count early
  · rw [take_of_length_le late]
    exact last

end Cuts

section Stops
variable {eeprom : Eeprom} {memory : UInt8 → UInt8}

/-- The memory waits for a transaction. -/
structure Idle (memory : UInt8 → UInt8) (eeprom : Eeprom) : Prop where
  data : eeprom.data = memory
  scl : eeprom.scl = true
  sda : eeprom.sdaIn = true
  state : eeprom.state = standby
  ack : eeprom.ackPhase = .none

/-- A clock does not complete a byte of data. -/
structure Safe (memory : UInt8 → UInt8) (eeprom : Eeprom) : Prop where
  data : eeprom.data = memory
  bits : eeprom.state = receiveWriteData → eeprom.bits.toNat < 7

theorem falls_keeps (sda : Bool) (eeprom : Eeprom) :
    let low := eeprom.setLines false sda true
    low.data = eeprom.data ∧ low.state = eeprom.state ∧ low.bits = eeprom.bits ∧ low.pointer = eeprom.pointer ∧
      low.shift = eeprom.shift ∧ low.scl = false ∧ low.addressLatched = eeprom.addressLatched ∧
        (eeprom.ackPhase = .none → low.ackPhase = .none) := by
  obtain ⟨_,scl,_,_,state,_,_,_,_,phase,_,clocked,ack⟩ := eeprom
  cases scl
  · exact ⟨rfl,rfl,rfl,rfl,rfl,rfl,rfl,id⟩
  · have waits : EepromAckPhase.pending ≠ .none := by decide
    cases ack <;> cases state <;> cases phase <;> cases clocked <;>
      first | exact ⟨rfl,rfl,rfl,rfl,rfl,rfl,rfl,fun _ => rfl⟩ | exact ⟨rfl,rfl,rfl,rfl,rfl,rfl,rfl,fun same => absurd same waits⟩

theorem stops (high : eeprom.scl = true) (sda : eeprom.sdaIn = false) : Idle eeprom.data (eeprom.setLines true true true) := by
  cases eeprom
  cases high
  cases sda
  exact ⟨rfl,rfl,rfl,rfl,rfl⟩

theorem receiveByte_data (byte : UInt8) (apart : eeprom.state ≠ receiveWriteData) : (eeprom.receiveByte byte).data = eeprom.data := by
  obtain ⟨_,_,_,_,state,_,_,_,_,_,_,_,_⟩ := eeprom
  cases state with
  | receiveControl =>
    unfold receiveByte
    dsimp only
    split
    · rfl
    split
    · rfl
    split
    · rfl
    · rfl
  | receiveWriteData => exact absurd rfl apart
  | standby => rfl
  | receiveAddress => rfl
  | sendReadData => rfl

theorem clockRisingEdge_data (sda : Bool) (safe : Safe memory eeprom) : (eeprom.clockRisingEdge sda).data = memory := by
  obtain ⟨same,bits⟩ := safe
  rw [← same]
  have received : (eeprom.receiveByteBit sda).data = eeprom.data := by
    unfold receiveByteBit
    dsimp only
    split
    · rfl
    · rename_i eighth
      refine receiveByte_data _ fun write => eighth ?_
      have few := bits write
      rw [UInt8.lt_iff_toNat_lt,UInt8.toNat_add]
      show (eeprom.bits.toNat + 1) % 256 < 8
      omega
  unfold clockRisingEdge
  split
  · rfl
  split
  · split
    · rfl
    · split <;> rfl
  · exact received
  · exact received
  · exact received
  · rfl

def raised (eeprom : Eeprom) : Eeprom := (eeprom.setLines false false true).setLines true false true

theorem raised_eq (eeprom : Eeprom) :
    eeprom.raised = ((shown true false (eeprom.setLines false false true)).clockRisingEdge false).lines true false :=
  setLines_rises (falls_keeps false eeprom).2.2.2.2.2.1 false true

theorem stop_idle (eeprom : Eeprom) : Idle eeprom.raised.data (after stopLevels eeprom) := by
  have high : eeprom.raised.scl = true := congrArg Eeprom.scl (raised_eq eeprom)
  exact stops high rfl

theorem stop_contents (count : Nat) (eeprom : Eeprom) :
    (after (stopLevels.take count) eeprom).data = if count < 2 then eeprom.data else eeprom.raised.data := by
  match count with
  | 0 => rfl
  | 1 => exact (falls_keeps false eeprom).1
  | 2 => rfl
  | count + 3 =>
    rw [take_of_length_le (show stopLevels.length ≤ count + 3 from Nat.le_add_left 3 count),if_neg (by omega)]
    exact (stop_idle eeprom).data

theorem Safe.raised (safe : Safe memory eeprom) : eeprom.raised.data = memory := by
  obtain ⟨data,state,bits,_⟩ := falls_keeps false eeprom
  have low : Safe memory (eeprom.setLines false false true) := by
    refine ⟨data.trans safe.data,fun write => ?_⟩
    rw [bits]
    exact safe.bits (state.symm.trans write)
  have shown' : Safe memory (shown true false (eeprom.setLines false false true)) := ⟨low.data,low.bits⟩
  exact (congrArg Eeprom.data (raised_eq eeprom)).trans (clockRisingEdge_data false shown')

theorem raised_eighth (state : eeprom.state = receiveWriteData) (ack : eeprom.ackPhase = .none) (bits : eeprom.bits = 7) :
    eeprom.raised.data = Function.update eeprom.data eeprom.pointer (eeprom.shift <<< 1) := by
  obtain ⟨data,same,count,pointer,shift,low,_,none'⟩ := falls_keeps false eeprom
  rw [raised_eq]
  generalize eeprom.setLines false false true = before at *
  obtain ⟨bytes,_,_,_,state',shift',bits',pointer',_,_,_,_,ack'⟩ := before
  obtain rfl : state' = receiveWriteData := same.trans state
  obtain rfl : ack' = .none := none' ack
  obtain rfl : bits' = 7 := count.trans bits
  rw [← show bytes = eeprom.data from data,← show pointer' = eeprom.pointer from pointer,← show shift' = eeprom.shift from shift]
  show Function.update bytes pointer' (shift' <<< 1 ||| 0) = _
  rw [UInt8.or_zero]

end Stops

section Bytes
variable {eeprom : Eeprom} {stage : EepromState} {memory : UInt8 → UInt8} {pointer : UInt8} {latched : Bool} {bits : List Bool}

def shifted (bits : List Bool) : UInt8 := bits.foldl (fun shift bit => shift <<< 1 ||| bit.toUInt8) 0

theorem shifted_append (bits : List Bool) (bit : Bool) : shifted (bits ++ [bit]) = shifted bits <<< 1 ||| bit.toUInt8 := by
  rw [shifted,foldl_append]
  rfl

theorem shifted_bitsOf (value : UInt8) : shifted (bitsOf value) = value := by
  have all : ∀ value : BitVec 8, shifted (bitsOf ⟨value⟩) = ⟨value⟩ := by decide +kernel
  exact all value.toBitVec

theorem shifted_seven (value : UInt8) : shifted ((bitsOf value).take 7) <<< 1 = value &&& 0xFE := by
  have all : ∀ value : BitVec 8, shifted ((bitsOf ⟨value⟩).take 7) <<< 1 = (⟨value⟩ : UInt8) &&& 0xFE := by decide +kernel
  exact all value.toBitVec

def Receives (stage : EepromState) : Prop := stage = receiveControl ∨ stage = receiveAddress ∨ stage = receiveWriteData

/-- Some bits of a byte have come. -/
structure Partway (stage : EepromState) (memory : UInt8 → UInt8) (pointer : UInt8) (latched : Bool) (bits : List Bool) (eeprom : Eeprom) :
    Prop where
  state : eeprom.state = stage
  data : eeprom.data = memory
  pointer : eeprom.pointer = pointer
  latched : eeprom.addressLatched = latched
  shift : eeprom.shift = shifted bits
  bits : eeprom.bits.toNat = bits.length
  ack : eeprom.ackPhase = .none

theorem Partway.low (partway : Partway stage memory pointer latched bits eeprom) (sda : Bool) :
    Partway stage memory pointer latched bits (eeprom.setLines false sda true) ∧ (eeprom.setLines false sda true).scl = false := by
  obtain ⟨data,state,count,place,shift,low,latch,ack⟩ := falls_keeps sda eeprom
  exact ⟨⟨state.trans partway.state,data.trans partway.data,place.trans partway.pointer,latch.trans partway.latched,
    shift.trans partway.shift,(congrArg UInt8.toNat count).trans partway.bits,ack partway.ack⟩,low⟩

theorem Partway.rises (receives : Receives stage) (partway : Partway stage memory pointer latched bits eeprom) (low : eeprom.scl = false)
    (bit : Bool) : eeprom.setLines true bit true = ((eeprom.shown true eeprom.sdaIn).receiveByteBit bit).lines true bit := by
  rw [setLines_rises low]
  obtain ⟨state,_,_,_,_,_,ack⟩ := partway
  cases eeprom
  cases state
  cases ack
  obtain rfl | rfl | rfl := receives
  · rfl
  · rfl
  · rfl

theorem Partway.bit (receives : Receives stage) (partway : Partway stage memory pointer latched bits eeprom) (low : eeprom.scl = false)
    (few : bits.length < 7) (bit : Bool) : Partway stage memory pointer latched (bits ++ [bit]) (eeprom.setLines true bit true) := by
  have next : (eeprom.bits + 1).toNat = bits.length + 1 := by
    rw [UInt8.toNat_add,partway.bits]
    show (bits.length + 1) % 256 = _
    omega
  have more : eeprom.bits + 1 < 8 := by
    rw [UInt8.lt_iff_toNat_lt,next]
    show bits.length + 1 < 8
    omega
  have goes : (eeprom.shown true eeprom.sdaIn).receiveByteBit bit = {eeprom.shown true eeprom.sdaIn with
      shift := eeprom.shift <<< 1 ||| bit.toUInt8
      bits := eeprom.bits + 1} := if_pos more
  rw [partway.rises receives low,goes]
  refine ⟨partway.state,partway.data,partway.pointer,partway.latched,?_,?_,partway.ack⟩
  · rw [shifted_append,← partway.shift]
    rfl
  · rw [length_append]
    exact next

theorem Partway.last (receives : Receives stage) (partway : Partway stage memory pointer latched bits eeprom) (low : eeprom.scl = false)
    (seven : bits.length = 7) (bit : Bool) : eeprom.setLines true bit true =
      (receiveByte (shifted (bits ++ [bit])) {eeprom.shown true eeprom.sdaIn with shift := 0, bits := 0}).lines true bit := by
  have full : ¬eeprom.bits + 1 < 8 := by
    rw [UInt8.lt_iff_toNat_lt,UInt8.toNat_add,partway.bits,seven]
    decide
  have goes : (eeprom.shown true eeprom.sdaIn).receiveByteBit bit =
      receiveByte (eeprom.shift <<< 1 ||| bit.toUInt8) {eeprom.shown true eeprom.sdaIn with shift := 0, bits := 0} := if_neg full
  rw [partway.rises receives low,goes,shifted_append,← partway.shift]

theorem Partway.part (receives : Receives stage) (partway : Partway stage memory pointer latched bits eeprom) (rest : List Bool)
    {count : Nat} (few : bits.length + count / 2 ≤ 7) (inside : count ≤ 2 * rest.length) :
    Partway stage memory pointer latched (bits ++ rest.take (count / 2)) (after ((rest.flatMap bitLevels).take count) eeprom) := by
  induction rest generalizing bits eeprom count with
  | nil =>
    rw [flatMap_nil,take_nil,take_nil,append_nil]
    exact partway
  | cons bit rest ih =>
    match count with
    | 0 =>
      rw [take_zero,take_zero,append_nil]
      exact partway
    | 1 =>
      rw [show 1 / 2 = 0 from rfl,take_zero,append_nil]
      exact (partway.low bit).1
    | count + 2 =>
      rw [length_cons] at inside
      have half : (count + 2) / 2 = count / 2 + 1 := Nat.add_div_right count (by decide)
      obtain ⟨waiting,low⟩ := partway.low bit
      have next := waiting.bit receives low (by omega) bit
      have later := @ih _ _ next count (by rw [length_append,length_singleton]; omega) (by omega)
      rw [half,take_succ_cons,append_cons]
      exact later

theorem Partway.byte (receives : Receives stage) (partway : Partway stage memory pointer latched [] eeprom) (value : UInt8) :
    ∃ before : Eeprom, Partway stage memory pointer latched ((bitsOf value).take 7) before ∧ after (byteLevels value) eeprom =
      (receiveByte value {before.shown true before.sdaIn with shift := 0, bits := 0}).lines true (value.toBitVec.getLsbD 0) := by
  have seven := @Partway.part eeprom stage memory pointer latched [] receives partway ((bitsOf value).take 7) 14 le_rfl le_rfl
  obtain ⟨waiting,low⟩ := seven.low (value.toBitVec.getLsbD 0)
  refine ⟨_,waiting,?_⟩
  have last := waiting.last receives low rfl (value.toBitVec.getLsbD 0)
  have whole : [] ++ (bitsOf value).take 7 ++ [value.toBitVec.getLsbD 0] = bitsOf value := rfl
  rw [show 14 / 2 = 7 from rfl,take_take,min_self,whole,shifted_bitsOf] at last
  exact last

theorem outputs_byteLevels (value : UInt8) (eeprom : Eeprom) : outputs (byteLevels value) eeprom = [] := rfl

theorem length_byteLevels (value : UInt8) : (byteLevels value).length = 16 := rfl

theorem Partway.safe (partway : Partway stage memory pointer latched bits eeprom) (few : stage = receiveWriteData → bits.length < 7) :
    Safe memory eeprom := by
  refine ⟨partway.data,fun write => ?_⟩
  rw [partway.bits]
  exact few (partway.state.symm.trans write)

/-- A byte that is to be acknowledged. -/
structure Acking (stage : EepromState) (memory : UInt8 → UInt8) (pointer : UInt8) (latched : Bool) (eeprom : Eeprom) : Prop where
  state : eeprom.state = stage
  data : eeprom.data = memory
  pointer : eeprom.pointer = pointer
  latched : eeprom.addressLatched = latched
  shift : eeprom.shift = 0
  bits : eeprom.bits = 0
  ack : eeprom.ackPhase = .pending
  reading : stage = sendReadData → eeprom.readPhase = outputBits ∧ eeprom.readBit = 0 ∧ eeprom.readClocked = false

/-- The next byte is to be received, or to be sent. -/
structure Ready (stage : EepromState) (memory : UInt8 → UInt8) (pointer : UInt8) (latched : Bool) (eeprom : Eeprom) : Prop where
  state : eeprom.state = stage
  data : eeprom.data = memory
  pointer : eeprom.pointer = pointer
  latched : eeprom.addressLatched = latched
  shift : eeprom.shift = 0
  bits : eeprom.bits = 0
  ack : eeprom.ackPhase = .none
  scl : eeprom.scl = false
  reading : stage = sendReadData → eeprom.readPhase = outputBits ∧ eeprom.readBit = 0 ∧ eeprom.readClocked = false

theorem Ready.partway (ready : Ready stage memory pointer latched eeprom) : Partway stage memory pointer latched [] eeprom :=
  ⟨ready.state,ready.data,ready.pointer,ready.latched,ready.shift,congrArg UInt8.toNat ready.bits,ready.ack⟩

theorem Acking.acknowledged (acking : Acking stage memory pointer latched eeprom) (sends : Receives stage ∨ stage = sendReadData) :
    Ready stage memory pointer latched (after ackLevels eeprom) ∧ outputs ackLevels eeprom = [false] ∧
      Always (Safe memory) ackLevels eeprom := by
  obtain ⟨state,data,place,latch,shift,bits,ack,reading⟩ := acking
  obtain ⟨bytes,scl,sdaIn,enabled,state',_,_,pointer',latched',phase,readBit,clocked,_⟩ := eeprom
  cases state
  cases data
  cases place
  cases latch
  cases shift
  cases bits
  cases ack
  have few : (0 : UInt8).toNat < 7 := by decide
  let start : Eeprom := ⟨bytes,scl,sdaIn,enabled,state',0,0,pointer',latched',phase,readBit,clocked,.pending⟩
  have whole : (Ready state' bytes pointer' latched' (after ackLevels start) ∧ outputs ackLevels start = [false]) ∧
      ∀ count < 3, Safe bytes (after (ackLevels.take count) start) := by
    obtain (rfl | rfl | rfl) | rfl := sends
    case inr =>
      obtain ⟨rfl,rfl,rfl⟩ := reading rfl
      refine ⟨?_,fun count inside => ?_⟩
      · cases scl <;> exact ⟨⟨rfl,rfl,rfl,rfl,rfl,rfl,rfl,rfl,fun _ => ⟨rfl,rfl,rfl⟩⟩,rfl⟩
      · interval_cases count <;> cases scl <;> exact ⟨rfl,fun _ => few⟩
    all_goals
      refine ⟨?_,fun count inside => ?_⟩
      · cases scl <;> exact ⟨⟨rfl,rfl,rfl,rfl,rfl,rfl,rfl,rfl,fun same => absurd same (by decide)⟩,rfl⟩
      · interval_cases count <;> cases scl <;> exact ⟨rfl,fun _ => few⟩
  obtain ⟨⟨ready,shown⟩,cut⟩ := whole
  refine ⟨ready,shown,always_of_lt cut ⟨ready.data,fun _ => ?_⟩⟩
  exact (congrArg UInt8.toNat ready.bits).trans_lt few

theorem Ready.controlWrite (ready : Ready receiveControl memory pointer false eeprom) {control : UInt8} (device : control &&& 0xF0 = 0xA0)
    (write : control &&& 0x01 = 0) : Acking receiveAddress memory pointer false (after (byteLevels control) eeprom) := by
  obtain ⟨before,partway,whole⟩ := ready.partway.byte (.inl rfl) control
  have named : receiveByte control {before.shown true before.sdaIn with shift := 0, bits := 0} =
      {ackNextClock {before.shown true before.sdaIn with shift := 0, bits := 0} with state := receiveAddress} := by
    unfold receiveByte
    rw [show ({before.shown true before.sdaIn with shift := 0, bits := 0} : Eeprom).state = receiveControl from partway.state]
    dsimp only
    rw [if_neg (not_not_intro device),if_neg (not_not_intro write),if_neg (by
      show ¬before.addressLatched = true
      rw [partway.latched]
      exact Bool.false_ne_true)]
  rw [whole,named]
  exact ⟨rfl,partway.data,partway.pointer,partway.latched,rfl,rfl,rfl,fun same => absurd same (by decide)⟩

theorem Ready.controlRead (ready : Ready receiveControl memory pointer false eeprom) {control : UInt8} (device : control &&& 0xF0 = 0xA0)
    (read : control &&& 0x01 ≠ 0) : Acking sendReadData memory pointer false (after (byteLevels control) eeprom) := by
  obtain ⟨before,partway,whole⟩ := ready.partway.byte (.inl rfl) control
  have named : receiveByte control {before.shown true before.sdaIn with shift := 0, bits := 0} =
      {ackNextClock {before.shown true before.sdaIn with shift := 0, bits := 0} with
        state := sendReadData
        readPhase := outputBits
        readBit := 0
        readClocked := false} := by
    unfold receiveByte
    rw [show ({before.shown true before.sdaIn with shift := 0, bits := 0} : Eeprom).state = receiveControl from partway.state]
    dsimp only
    rw [if_neg (not_not_intro device),if_pos read]
  rw [whole,named]
  exact ⟨rfl,partway.data,partway.pointer,partway.latched,rfl,rfl,rfl,fun _ => ⟨rfl,rfl,rfl⟩⟩

theorem Ready.address (ready : Ready receiveAddress memory pointer latched eeprom) (address : UInt8) :
    Acking receiveWriteData memory address true (after (byteLevels address) eeprom) := by
  obtain ⟨before,partway,whole⟩ := ready.partway.byte (.inr (.inl rfl)) address
  have named : receiveByte address {before.shown true before.sdaIn with shift := 0, bits := 0} = ackNextClock
      {before.shown true before.sdaIn with shift := 0, bits := 0, pointer := address, addressLatched := true, state := receiveWriteData} := by
    unfold receiveByte
    rw [show ({before.shown true before.sdaIn with shift := 0, bits := 0} : Eeprom).state = receiveAddress from partway.state]
  rw [whole,named]
  exact ⟨rfl,partway.data,rfl,rfl,rfl,rfl,rfl,fun same => absurd same (by decide)⟩

theorem Ready.data' (ready : Ready receiveWriteData memory pointer true eeprom) (byte : UInt8) :
    Acking receiveWriteData (Function.update memory pointer byte) (pointer + 1) true (after (byteLevels byte) eeprom) := by
  obtain ⟨before,partway,whole⟩ := ready.partway.byte (.inr (.inr rfl)) byte
  have named : receiveByte byte {before.shown true before.sdaIn with shift := 0, bits := 0} = ackNextClock
      {before.shown true before.sdaIn with
        shift := 0
        bits := 0
        data := Function.update before.data before.pointer byte
        pointer := before.pointer + 1} := by
    unfold receiveByte
    rw [show ({before.shown true before.sdaIn with shift := 0, bits := 0} : Eeprom).state = receiveWriteData from partway.state]
    dsimp only [shown]
    rw [partway.state]
  rw [whole,named,partway.data,partway.pointer]
  exact ⟨partway.state,rfl,rfl,partway.latched,rfl,rfl,rfl,fun same => absurd same (by decide)⟩

theorem Ready.always (receives : Receives stage) (apart : stage ≠ receiveWriteData) (ready : Ready stage memory pointer latched eeprom)
    (value : UInt8) (last : Safe memory (after (byteLevels value) eeprom)) : Always (Safe memory) (byteLevels value) eeprom := by
  refine always_of_lt (fun count inside => ?_) last
  have short : count < 16 := inside
  have part := @Partway.part eeprom stage memory pointer latched [] receives ready.partway (bitsOf value) count (by
    rw [length_nil]
    omega) short.le
  exact part.safe fun same => absurd same apart

theorem Ready.safe (ready : Ready stage memory pointer latched eeprom) : Safe memory eeprom := by
  refine ⟨ready.data,fun _ => ?_⟩
  rw [ready.bits]
  decide

theorem Acking.safe (acking : Acking stage memory pointer latched eeprom) : Safe memory eeprom := by
  refine ⟨acking.data,fun _ => ?_⟩
  rw [acking.bits]
  decide

theorem Idle.begins (idle : Idle memory eeprom) : Ready receiveControl memory eeprom.pointer false (after startLevels eeprom) ∧
    outputs startLevels eeprom = [] ∧ Always (Safe memory) startLevels eeprom := by
  obtain ⟨same,scl,sda,state,ack⟩ := idle
  cases eeprom
  cases same
  cases scl
  cases sda
  cases state
  cases ack
  have few : (0 : UInt8).toNat < 7 := by decide
  have waits : standby ≠ receiveWriteData := by decide
  have control : receiveControl ≠ receiveWriteData := by decide
  refine ⟨⟨rfl,rfl,rfl,rfl,rfl,rfl,rfl,rfl,fun same => absurd same (by decide)⟩,rfl,always_of_lt (fun count inside => ?_) ⟨rfl,fun _ => few⟩⟩
  have three : count < 3 := inside
  interval_cases count
  · exact ⟨rfl,fun same => absurd same waits⟩
  · exact ⟨rfl,fun same => absurd same waits⟩
  · exact ⟨rfl,fun same => absurd same control⟩

theorem Ready.restarts (ready : Ready receiveWriteData memory pointer latched eeprom) :
    Ready receiveControl memory pointer false (after startLevels eeprom) ∧ outputs startLevels eeprom = [] ∧
      Always (Safe memory) startLevels eeprom := by
  obtain ⟨state,same,place,latch,shift,bits,ack,scl,_⟩ := ready
  cases eeprom
  cases state
  cases same
  cases place
  cases latch
  cases shift
  cases bits
  cases ack
  cases scl
  have none : (0 : UInt8).toNat < 7 := by decide
  have one : (1 : UInt8).toNat < 7 := by decide
  have control : receiveControl ≠ receiveWriteData := by decide
  refine ⟨⟨rfl,rfl,rfl,rfl,rfl,rfl,rfl,rfl,fun same => absurd same (by decide)⟩,rfl,always_of_lt (fun count inside => ?_) ⟨rfl,fun _ => none⟩⟩
  have three : count < 3 := inside
  interval_cases count
  · exact ⟨rfl,fun _ => none⟩
  · exact ⟨rfl,fun _ => one⟩
  · exact ⟨rfl,fun same => absurd same control⟩

end Bytes

section Bits
variable {eeprom : Eeprom} {memory : UInt8 → UInt8} {pointer : UInt8} {latched : Bool} {place : UInt8}

/-- A bit of a byte is on the line. -/
structure Sending (memory : UInt8 → UInt8) (pointer : UInt8) (latched : Bool) (sent : UInt8) (high : Bool) (eeprom : Eeprom) : Prop where
  state : eeprom.state = sendReadData
  data : eeprom.data = memory
  pointer : eeprom.pointer = pointer
  latched : eeprom.addressLatched = latched
  shift : eeprom.shift = 0
  bits : eeprom.bits = 0
  ack : eeprom.ackPhase = .none
  phase : eeprom.readPhase = outputBits
  bit : eeprom.readBit = sent
  clocked : eeprom.readClocked = high
  scl : eeprom.scl = high

def bitAt (value bit : UInt8) : Bool := value >>> (if bit ≤ 7 then 7 - bit else 0) &&& 1 ≠ 0

theorem Ready.sending (ready : Ready sendReadData memory pointer latched eeprom) : Sending memory pointer latched 0 false eeprom := by
  obtain ⟨phase,bit,clocked⟩ := ready.reading rfl
  exact ⟨ready.state,ready.data,ready.pointer,ready.latched,ready.shift,ready.bits,ready.ack,phase,bit,clocked,ready.scl⟩

theorem Sending.waits (sending : Sending memory pointer latched place false eeprom) (sda : Bool) :
    Sending memory pointer latched place false (eeprom.setLines false sda true) := by
  obtain ⟨state,same,point,latch,shift,bits,ack,phase,sent,clock,scl⟩ := sending
  cases eeprom
  cases scl
  exact ⟨state,same,point,latch,shift,bits,ack,phase,sent,clock,rfl⟩

theorem Sending.rises (sending : Sending memory pointer latched place false eeprom) (sda : Bool) :
    let high := eeprom.setLines true sda true
    Sending memory pointer latched place true high ∧ high.dataOut = bitAt (memory pointer) place := by
  obtain ⟨state,same,point,latch,shift,bits,ack,phase,sent,_,scl⟩ := sending
  cases eeprom
  cases state
  cases same
  cases point
  cases ack
  cases phase
  cases sent
  cases scl
  exact ⟨⟨rfl,rfl,rfl,latch,shift,bits,rfl,rfl,rfl,rfl,rfl⟩,rfl⟩

theorem Sending.falls (sending : Sending memory pointer latched place true eeprom) (more : place < 7) (sda : Bool) :
    Sending memory pointer latched (place + 1) false (eeprom.setLines false sda true) := by
  obtain ⟨state,same,point,latch,shift,bits,ack,phase,sent,clock,scl⟩ := sending
  rw [setLines_falls scl]
  have below : place.toNat < 7 := UInt8.lt_iff_toNat_lt.mp more
  have next : (if place = 0xFF then 0xFF else place + 1) = place + 1 := if_neg fun full => by
    rw [full] at below
    exact absurd below (by decide)
  have few : ¬(8 : UInt8) ≤ place + 1 := by
    rw [UInt8.le_iff_toNat_le,UInt8.toNat_add]
    show ¬8 ≤ (place.toNat + 1) % 256
    omega
  obtain ⟨_,_,_,_,_,_,_,_,_,_,readBit,_,_⟩ := eeprom
  cases state
  cases ack
  cases phase
  obtain rfl : place = readBit := sent.symm
  cases clock
  refine ⟨rfl,same,point,latch,shift,bits,rfl,?_,?_,rfl,rfl⟩
  · show (if 8 ≤ (if place = 0xFF then 0xFF else place + 1) then awaitMasterAck else outputBits) = outputBits
    rw [next,if_neg few]
  · exact next

theorem Sending.master (sending : Sending memory pointer latched 7 true eeprom) (last : Bool) :
    let low := after (masterLevels last) eeprom
    low.data = memory ∧ outputs (masterLevels last) eeprom = [] ∧ (last = true → low.state = standby) ∧
      (last = false → Ready sendReadData memory (pointer + 1) latched low) := by
  obtain ⟨state,same,point,latch,shift,bits,ack,phase,sent,clock,scl⟩ := sending
  cases eeprom
  cases state
  cases same
  cases point
  cases latch
  cases shift
  cases bits
  cases ack
  cases phase
  cases sent
  cases clock
  cases scl
  cases last with
  | true => exact ⟨rfl,rfl,fun _ => rfl,fun more => absurd more.symm Bool.false_ne_true⟩
  | false =>
    exact ⟨rfl,rfl,fun done => absurd done Bool.false_ne_true,
      fun _ => ⟨rfl,rfl,rfl,rfl,rfl,rfl,rfl,rfl,fun _ => ⟨rfl,rfl,rfl⟩⟩⟩

theorem bitsOf_drop (value : UInt8) {place : UInt8} (few : place < 8) :
    (bitsOf value).drop place.toNat = bitAt value place::(bitsOf value).drop (place.toNat + 1) := by
  have all : ∀ value : BitVec 8, ∀ bit : Fin 8, (bitsOf ⟨value⟩).drop bit.val =
      bitAt ⟨value⟩ (UInt8.ofNat bit.val)::(bitsOf ⟨value⟩).drop (bit.val + 1) := by decide +kernel
  have found := all value.toBitVec ⟨place.toNat,few⟩
  rwa [UInt8.ofNat_toNat] at found

theorem sends (count : Nat) {place : UInt8} (left : place.toNat + count = 7) {eeprom : Eeprom}
    (sending : Sending memory pointer latched place false (eeprom.setLines false true true)) :
    outputs (clockLevels (count + 1)) eeprom = (bitsOf (memory pointer)).drop place.toNat ∧
      Sending memory pointer latched 7 true (after (clockLevels (count + 1)) eeprom) := by
  induction count generalizing place eeprom with
  | zero =>
    obtain rfl : place = 7 := UInt8.toNat_inj.mp left
    obtain ⟨high,look⟩ := sending.rises true
    have last := bitsOf_drop (memory pointer) (show (7 : UInt8) < 8 by decide)
    rw [last,← look]
    exact ⟨rfl,high⟩
  | succ count ih =>
    obtain ⟨high,look⟩ := sending.rises true
    have more : place < 7 := UInt8.lt_iff_toNat_lt.mpr (by
      show place.toNat < 7
      omega)
    have next : (place + 1).toNat = place.toNat + 1 := by
      rw [UInt8.toNat_add]
      show (place.toNat + 1) % 256 = _
      omega
    obtain ⟨shown,done⟩ := ih (by rw [next]; omega) (high.falls more true)
    rw [next] at shown
    rw [bitsOf_drop _ (UInt8.lt_trans more (by decide)),← look,← shown]
    exact ⟨rfl,done⟩

theorem Ready.sends (ready : Ready sendReadData memory pointer latched eeprom) :
    outputs readLevels eeprom = bitsOf (memory pointer) ∧ Sending memory pointer latched 7 true (after readLevels eeprom) :=
  Eeprom.sends 7 rfl (ready.sending.waits true)

end Bits

section Quiet
variable {eeprom : Eeprom} {memory : UInt8 → UInt8} {pointer : UInt8} {latched : Bool}

/-- No clock stores anything. -/
structure Quiet (memory : UInt8 → UInt8) (eeprom : Eeprom) : Prop where
  data : eeprom.data = memory
  state : eeprom.state = sendReadData ∨ eeprom.state = standby

theorem Quiet.safe (quiet : Quiet memory eeprom) : Safe memory eeprom := by
  refine ⟨quiet.data,fun write => ?_⟩
  have sends : sendReadData ≠ receiveWriteData := by decide
  have waits : standby ≠ receiveWriteData := by decide
  obtain state | state := quiet.state
  · exact absurd (state.symm.trans write) sends
  · exact absurd (state.symm.trans write) waits

theorem Quiet.low (quiet : Quiet memory eeprom) (sda : Bool) : Quiet memory (eeprom.setLines false sda true) := by
  obtain ⟨data,state,_⟩ := falls_keeps sda eeprom
  exact ⟨data.trans quiet.data,quiet.state.imp state.trans state.trans⟩

theorem Quiet.rises (quiet : Quiet memory eeprom) (low : eeprom.scl = false) (sda : Bool) :
    Quiet memory (eeprom.setLines true sda true) := by
  obtain ⟨same,state⟩ := quiet
  obtain ⟨_,_,_,_,_,_,_,_,_,phase,_,_,ack⟩ := eeprom
  cases low
  obtain rfl | rfl := state
  · cases ack <;> cases phase <;> cases sda <;> first | exact ⟨same,.inl rfl⟩ | exact ⟨same,.inr rfl⟩
  · cases ack <;> exact ⟨same,.inr rfl⟩

theorem Quiet.clock {levels : List Level} (quiet : Quiet memory eeprom) (one two : Bool) (sampled : Bool)
    (rest : ∀ {eeprom : Eeprom}, Quiet memory eeprom → Always (Quiet memory) levels eeprom) :
    Always (Quiet memory) (⟨false,one,false⟩::⟨true,two,sampled⟩::levels) eeprom := by
  have low := quiet.low one
  have high := low.rises (falls_keeps one eeprom).2.2.2.2.2.1 two
  intro count
  match count with
  | 0 => exact quiet
  | 1 => exact low
  | count + 2 => exact rest high count

theorem Quiet.clocks (count : Nat) (quiet : Quiet memory eeprom) : Always (Quiet memory) (clockLevels count) eeprom := by
  induction count generalizing eeprom with
  | zero =>
    intro cut
    rw [show clockLevels 0 = [] from rfl,take_nil]
    exact quiet
  | succ count ih => exact quiet.clock true true true ih

theorem Quiet.master (quiet : Quiet memory eeprom) (last : Bool) : Always (Quiet memory) (masterLevels last) eeprom := by
  refine quiet.clock last last false fun later cut => ?_
  match cut with
  | 0 => exact later
  | cut + 1 =>
    rw [take_succ_cons,take_nil]
    exact later.low last

def readAll : Nat → List Level
  | 0 => []
  | count + 1 => readLevels ++ masterLevels (count == 0) ++ readAll count

def sentBits : Nat → UInt8 → (UInt8 → UInt8) → List Bool
  | 0,_,_ => []
  | count + 1,pointer,memory => bitsOf (memory pointer) ++ sentBits count (pointer + 1) memory

theorem Quiet.reads (count : Nat) (quiet : Quiet memory eeprom) : Always (Quiet memory) (readAll count) eeprom := by
  induction count generalizing eeprom with
  | zero =>
    intro cut
    rw [readAll,take_nil]
    exact quiet
  | succ count ih =>
    have bits := quiet.clocks 8
    have acknowledged := bits.append (bits.finish.master (count == 0))
    exact acknowledged.append (ih acknowledged.finish)

theorem Ready.reads (count : Nat) (ready : Ready sendReadData memory pointer latched eeprom) :
    outputs (readAll count) eeprom = sentBits count pointer memory := by
  induction count generalizing pointer eeprom with
  | zero => rfl
  | succ count ih =>
    obtain ⟨bits,sent⟩ := ready.sends
    obtain ⟨_,none,_,more⟩ := sent.master (count == 0)
    have rest : outputs (readAll count) (after (masterLevels (count == 0)) (after readLevels eeprom)) =
        sentBits count (pointer + 1) memory := by
      cases count with
      | zero => rfl
      | succ count => exact ih (more rfl)
    rw [readAll,outputs_append,outputs_append,after_append,bits,none,rest,append_nil]
    rfl

end Quiet

end Eeprom
end ZeffBoy.Nes
