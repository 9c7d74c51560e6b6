import ZeffBoy.GameBoy.PrinterState

/-! The runs of the printer and their save states.
Every step keeps the parser, the buffers and the jobs as the loader wants them. A print that takes no time sets the
cycles of the one before it to zero and leaves the busy bit set. -/
namespace ZeffBoy.GameBoy
open Library StateReader List

local instance neZero_fields : NeZero 4 := ⟨by decide⟩

theorem run_readLen {value max : Nat} (fits : value ≤ max) (word : max < 2^64) (name : String) (rest : Bytes) :
    readLen max name (writeU64 value ++ rest) = .ok (value,rest) := by
  rw [readLen,Reader.run_bind,run_readU64 _ (fits.trans_lt word),ok_bind]
  dsimp only
  rw [if_neg (not_lt.mpr fits)]
  rfl

theorem run_readCounted {bytes : Bytes} {max : Nat} (fits : bytes.length ≤ max) (word : max < 2^64) (name : String) (rest : Bytes) :
    readCounted max name (writeVec bytes ++ rest) = .ok (bytes,rest) := by
  rw [readCounted,writeVec,append_assoc,Reader.run_bind,run_readLen fits word,ok_bind]
  exact run_take bytes rest

theorem decode_encode (state : ParserState) :
    (logicalStateFormatMarker ||| state.encode) &&& 0xC0 = logicalStateFormatMarker ∧
      ParserState.decode ((logicalStateFormatMarker ||| state.encode) &&& 0x3F) = .ok state := by
  cases state <;> exact ⟨rfl,rfl⟩

namespace GameBoyPrinterJob

theorem validate_ok (self : GameBoyPrinterJob) :
    self.validate = .ok () ↔ (self.height ≤ gameBoyPrinterMaxHeight ∧ self.height % 8 = 0) ∧
      (self.pixels.length = gameBoyPrinterWidth * self.height ∧ ∀ pixel ∈ self.pixels, pixel ≤ 3) ∧
      self.feedBefore ≤ 0x0F ∧ self.feedAfter ≤ 0x0F ∧ self.density ≤ 0x7F := by
  unfold validate
  split
  · rename_i bad
    simp only [reduceCtorEq,false_iff]
    rintro ⟨⟨low,whole⟩,_⟩
    omega
  rename_i size
  split
  · rename_i bad
    simp only [reduceCtorEq,false_iff]
    rintro ⟨_,⟨length,shades⟩,_⟩
    rcases bad with other | dark
    · exact other length
    · obtain ⟨pixel,inside,above⟩ := any_eq_true.mp dark
      exact absurd (of_decide_eq_true above) (UInt8.not_lt.mpr (shades pixel inside))
  rename_i shades
  split
  · rename_i bad
    simp only [reduceCtorEq,false_iff]
    rintro ⟨_,_,before,after,density⟩
    rcases bad with above | above | above
    · exact UInt8.not_lt.mpr before above
    · exact UInt8.not_lt.mpr after above
    · exact UInt8.not_lt.mpr density above
  rename_i feeds
  simp only [not_or,UInt8.not_lt] at feeds
  simp only [not_or,any_eq_true,not_exists,not_and,decide_eq_true_eq,UInt8.not_lt,not_not] at shades
  simp only [not_or,not_lt,not_not] at size
  exact iff_of_true rfl ⟨size,shades,feeds⟩

theorem run_readState {self : GameBoyPrinterJob} (valid : self.validate = .ok ()) (rest : Bytes) :
    readState (self.writeState ++ rest) = .ok (self,rest) := by
  obtain ⟨⟨low,_⟩,⟨length,_⟩,_⟩ := self.validate_ok.mp valid
  have pixels : self.pixels.length ≤ gameBoyPrinterWidth * gameBoyPrinterMaxHeight := by
    rw [length]
    exact Nat.mul_le_mul_left _ low
  rw [readState,writeState,append_assoc,append_assoc,Reader.run_bind,run_readLen low (by decide),ok_bind,
    Reader.run_bind,run_readCounted pixels (by decide),ok_bind]
  simp [checkedBy,valid]

end GameBoyPrinterJob

theorem run_readJobs {jobs : List GameBoyPrinterJob} (few : jobs.length ≤ maxSavedJobs)
    (valid : ∀ job ∈ jobs, job.validate = .ok ()) (rest : Bytes) :
    readJobs (writeU64 jobs.length ++ (jobs.flatMap GameBoyPrinterJob.writeState ++ rest)) = .ok (jobs,rest) := by
  have read := Reader.run_many GameBoyPrinterJob.readState GameBoyPrinterJob.writeState .ok jobs
    (fun job inside rest => GameBoyPrinterJob.run_readState (valid job inside) rest) rest
  rw [readJobs,Reader.run_bind,run_readLen few (by decide),ok_bind,read,Reader.mapM_ok]
  rfl

namespace GameboyPrinter

/-- What the parser has of a packet. -/
structure Parsed (state : ParserState) (headerPos : Nat) (payload : Bytes) (payloadExpected payloadReceived : Nat) : Prop where
  counted : payload.length = payloadReceived
  expected : payloadExpected ≤ maxPacketPayload
  received : payloadReceived ≤ payloadExpected
  position : headerPos ≤ 4
  valid : state.valid headerPos payloadExpected payloadReceived = true
  fresh : state = .header → payloadReceived = 0

/-- What is set by the commands of the packets, and not by the parser. -/
structure Stored (printer : GameboyPrinter) : Prop where
  dataBuffer : printer.dataBuffer.length ≤ bufferCapacity
  busy : printer.busyCyclesRemaining < 2^64
  jobs : printer.jobs.length ≤ maxSavedJobs
  validJobs : ∀ job ∈ printer.jobs, job.validate = .ok ()

/-- What the loader wants of a printer, but for the busy bit. -/
structure Sound (printer : GameboyPrinter) : Prop extends Stored printer where
  parsed : Parsed printer.state printer.headerPos printer.payload printer.payloadExpected printer.payloadReceived

variable {self : GameboyPrinter}

theorem run_readState (sound : self.Sound) (rest : Bytes) :
    readState saveStateFormatVersion (self.writeState ++ rest) =
      if Agrees self.status self.busyCyclesRemaining then .ok (self,rest)
      else .error "Game Boy Printer busy status disagrees with its remaining duration" := by
  obtain ⟨marker,state⟩ := decode_encode self.state
  have parsed := sound.parsed
  have payload : self.payload.length ≤ maxPacketPayload := by
    rw [parsed.counted]
    exact parsed.received.trans parsed.expected
  have checksum := run_readU16 self.checksum.toNat self.checksum.toNat_lt
  have receivedChecksum := run_readU16 self.receivedChecksum.toNat self.receivedChecksum.toNat_lt
  unfold readState writeState
  simp only [append_assoc,cons_append,Reader.run_bind,run_readU8,ok_bind,if_pos (show 9 ≤ saveStateFormatVersion by decide),
    marker,state,Reader.run_lift,ensure_pos,map_ok,run_readExact,run_readLen parsed.position (by decide),
    run_readLen parsed.expected (by decide),run_readLen parsed.received (parsed.expected.trans_lt (by decide)),
    run_readCounted payload (by decide),parsed.counted,validateParserState,parsed.valid,checksum,receivedChecksum,run_readBool,
    run_readU64 _ sound.busy]
  by_cases agrees : Agrees self.status self.busyCyclesRemaining
  · rw [ensure_pos agrees,if_pos agrees]
    simp only [map_ok,ok_bind,run_readCounted sound.dataBuffer (by decide),run_readBool,run_readJobs sound.jobs sound.validJobs,
      UInt16.ofNat_toNat,Reader.run_pure]
  · rw [ensure,if_neg agrees,if_neg agrees]
    rfl

/-- What a step does to the printer. -/
inductive Operation
  | feedSerialByte (byte : UInt8)
  | step (tCycles : UInt64)
  | reconnect
  | takeJobs

def perform (self : GameboyPrinter) : Operation → GameboyPrinter
  | .feedSerialByte byte => (self.feedSerialByte byte).1
  | .step tCycles => self.step tCycles
  | .reconnect => self.reconnect
  | .takeJobs => self.takeJobs.2

def run (self : GameboyPrinter) (operations : List Operation) : GameboyPrinter := operations.foldl perform self

theorem parsed_reset {state : ParserState} (valid : state.valid 0 0 0 = true) : Parsed state 0 [] 0 0 :=
  ⟨rfl,Nat.zero_le _,Nat.zero_le _,Nat.zero_le _,valid,fun _ => rfl⟩

theorem sound_new : new.Sound where
  dataBuffer := Nat.zero_le _
  busy := Nat.two_pow_pos _
  jobs := Nat.zero_le _
  validJobs := fun _ inside => absurd inside not_mem_nil
  parsed := parsed_reset rfl

theorem two_shades : ∀ plane : UInt8, plane &&& 1 = 0 ∨ plane &&& 1 = 1 := by decide +kernel

theorem pixel_shade (dataBuffer : Bytes) (y x : Nat) : pixel dataBuffer y x ≤ 3 := by
  unfold pixel
  dsimp only
  obtain hi | hi := two_shades (byteAt dataBuffer ((y / 8 * printerTilesPerRow + x / 8) * bytesPerTile + y % 8 * 2 + 1) >>>
      UInt8.ofNat (7 - x % 8)) <;>
    obtain lo | lo := two_shades (byteAt dataBuffer ((y / 8 * printerTilesPerRow + x / 8) * bytesPerTile + y % 8 * 2) >>>
      UInt8.ofNat (7 - x % 8)) <;>
    (rw [hi,lo]; decide)

theorem high_nibble : ∀ byte : UInt8, byte >>> 4 ≤ 0x0F := by decide +kernel

theorem low_nibble : ∀ byte : UInt8, byte &&& 0x0F ≤ 0x0F ∧ byte &&& 0x7F ≤ 0x7F := by decide +kernel

theorem buildJob_valid (self : GameboyPrinter) : self.buildJob.validate = .ok () := by
  have rows := min_le_right (divCeil self.dataBuffer.length bytesPerTileRow) (gameBoyPrinterMaxHeight / 8)
  refine self.buildJob.validate_ok.mpr ⟨⟨?_,Nat.mul_mod_left _ _⟩,⟨?_,?_⟩,high_nibble _,(low_nibble _).1,(low_nibble _).2⟩
  · exact (Nat.mul_le_mul_right 8 rows).trans (by decide)
  · simp [buildJob,List.length_flatMap,mul_comm]
  · intro shade inside
    obtain ⟨y,_,inside⟩ := mem_flatMap.mp inside
    obtain ⟨x,_,rfl⟩ := mem_map.mp inside
    exact pixel_shade self.dataBuffer y x

theorem divCeil_zero {value divisor : Nat} (positive : 0 < divisor) : divCeil value divisor = 0 ↔ value = 0 := by
  rw [divCeil,Nat.div_eq_zero_iff]
  omega

theorem printDurationCycles_zero (self : GameboyPrinter) :
    self.printDurationCycles = 0 ↔
      (byteAt self.payload 0 = 0 ∨ self.dataBuffer = []) ∧ byteAt self.payload 1 &&& 0x0F = 0 := by
  have image : (if (byteAt self.payload 0).toNat = 0 then 0 else divCeil self.dataBuffer.length (bytesPerTileRow * 2)) = 0 ↔
      byteAt self.payload 0 = 0 ∨ self.dataBuffer = [] := by
    have byte : (byteAt self.payload 0).toNat = 0 ↔ byteAt self.payload 0 = 0 := UInt8.toNat_inj (b := 0)
    split
    · rename_i none
      exact iff_of_true rfl (.inl (byte.mp none))
    · rename_i some
      rw [divCeil_zero (by decide),length_eq_zero_iff]
      exact ⟨.inr,fun empty => empty.resolve_left fun none => some (byte.mpr none)⟩
  have margin : (byteAt self.payload 1 &&& 0x0F).toNat = 0 ↔ byteAt self.payload 1 &&& 0x0F = 0 := UInt8.toNat_inj (b := 0)
  unfold printDurationCycles
  dsimp only
  rw [divCeil_zero (by decide),← image,← margin]
  generalize (if (byteAt self.payload 0).toNat = 0 then 0 else divCeil self.dataBuffer.length (bytesPerTileRow * 2)) = bands
  generalize (byteAt self.payload 1 &&& 0x0F).toNat = after
  generalize (byteAt self.payload 1 >>> 4).toNat = before
  have positive : 0 < max (byteAt self.payload 0).toNat 1 := by omega
  generalize max (byteAt self.payload 0).toNat 1 = copies at positive
  have rate : gbTCyclesPerSecond * printBandsPerSecondDenominator = 41943040 := rfl
  have none (bands : Nat) : min (min (bands * copies) (2^64 - 1) * 41943040) (2^64 - 1) = 0 ↔ bands = 0 := by
    have product : bands * copies = 0 ↔ bands = 0 := by
      rw [Nat.mul_eq_zero]
      omega
    omega
  rw [rate,none]
  split <;> omega

theorem printDurationCycles_lt (self : GameboyPrinter) : self.printDurationCycles < 2^64 := by
  have share (value : Nat) : divCeil (min value (2^64 - 1)) printBandsPerSecondNumerator < 2^64 := by
    unfold divCeil printBandsPerSecondNumerator
    omega
  exact share _

theorem print_early (open_ : self.dataEndSeen = false) : self.print = self := by
  rw [print,open_]
  rfl

theorem jobToPrint_valid (self : GameboyPrinter) : self.jobToPrint.validate = .ok () := by
  have built := self.buildJob_valid
  unfold jobToPrint
  dsimp only
  split
  · obtain ⟨_,_,_,after,density⟩ := (GameBoyPrinterJob.validate_ok _).mp built
    exact (GameBoyPrinterJob.validate_ok _).mpr ⟨⟨Nat.zero_le _,rfl⟩,⟨rfl,nofun⟩,UInt8.zero_le,after,density⟩
  · exact built

theorem startPrint_eq (self : GameboyPrinter) : self.startPrint = {self with
    status :=
      if self.printDurationCycles = 0 then self.status ||| statusBufferFull else self.status ||| statusBufferFull ||| statusBusy
    busyCyclesRemaining := self.printDurationCycles
    finishPrintAfterStatus := true} := by
  have same : (self.raise statusBufferFull).printDurationCycles = self.printDurationCycles := rfl
  rw [startPrint]
  dsimp only
  rw [same]
  by_cases none : self.printDurationCycles = 0
  · rw [if_neg (not_not.mpr none),if_pos none]
    rfl
  · rw [if_pos none,if_neg none]
    rfl

theorem print_eq (ended : self.dataEndSeen = true) :
    self.print = self.startPrint ∨ self.print = (self.saveJob self.jobToPrint).startPrint := by
  rw [print,ended,if_neg (by decide)]
  dsimp only
  split
  · exact .inr rfl
  · exact .inl rfl

section
variable (stored : self.Stored)
include stored

theorem Stored.appendData (decoded : Bytes) : (self.appendData decoded).Stored := by
  unfold GameboyPrinter.appendData
  split
  · exact {stored with}
  · rename_i fits
    refine {stored with dataBuffer := ?_}
    rw [length_append]
    exact not_lt.mp fits

theorem Stored.receiveData (compression : UInt8) : (self.receiveData compression).Stored := by
  unfold GameboyPrinter.receiveData
  split
  · split
    · exact {stored with}
    · exact {stored with}
  split
  · exact {stored with}
  · exact stored.appendData _

theorem Stored.saveJob {job : GameBoyPrinterJob} (valid : job.validate = .ok ()) : (self.saveJob job).Stored := by
  have few := stored.jobs
  refine {stored with jobs := ?_, validJobs := ?_}
  · rw [GameboyPrinter.saveJob,length_append,length_singleton]
    split
    · rw [length_tail]
      have room : 0 < maxSavedJobs := by decide
      omega
    · omega
  · intro other inside
    obtain old | new := mem_append.mp inside
    · apply stored.validJobs
      split at old
      · exact mem_of_mem_tail old
      · exact old
    · rw [mem_singleton.mp new]
      exact valid

theorem Stored.startPrint : self.startPrint.Stored := by
  rw [startPrint_eq]
  exact {stored with busy := self.printDurationCycles_lt}

theorem Stored.print : self.print.Stored := by
  cases ended : self.dataEndSeen with
  | false => rwa [print_early ended]
  | true =>
    obtain whole | whole := print_eq ended
    · rw [whole]
      exact stored.startPrint
    · rw [whole]
      exact (stored.saveJob self.jobToPrint_valid).startPrint

theorem Stored.executeCommand : self.executeCommand.Stored := by
  unfold GameboyPrinter.executeCommand
  dsimp only
  split
  · exact {stored with dataBuffer := Nat.zero_le _, busy := Nat.two_pow_pos _}
  split
  · exact stored.print
  split
  · exact stored.receiveData _
  split
  · exact {stored with busy := Nat.two_pow_pos _}
  split
  · exact stored
  · exact {stored with}

theorem Stored.finishPacket : self.finishPacket.Stored := by
  have cleared : Stored {self with status := self.status &&& ~~~transientErrorMask} := {stored with}
  unfold GameboyPrinter.finishPacket
  dsimp only
  split
  · exact {cleared with}
  · exact {cleared.executeCommand with}

end

def packet (self : GameboyPrinter) : Nat × Bytes × Nat × Nat :=
  (self.headerPos,self.payload,self.payloadExpected,self.payloadReceived)

theorem startPrint_packet (self : GameboyPrinter) : self.startPrint.packet = self.packet := by
  rw [startPrint_eq,packet,packet]

theorem print_packet (self : GameboyPrinter) : self.print.packet = self.packet := by
  cases ended : self.dataEndSeen with
  | false => rw [print_early ended]
  | true =>
    obtain whole | whole := print_eq ended
    · rw [whole,startPrint_packet]
    · rw [whole,startPrint_packet,packet,packet,saveJob]

theorem receiveData_packet (self : GameboyPrinter) (compression : UInt8) : (self.receiveData compression).packet = self.packet := by
  unfold receiveData appendData packet
  split
  · split
    · rfl
    · rfl
  split
  · rfl
  split
  · rfl
  · rfl

theorem executeCommand_packet (self : GameboyPrinter) : self.executeCommand.packet = self.packet := by
  unfold executeCommand
  dsimp only
  split
  · rw [initializePrinter,packet,packet]
  split
  · exact print_packet self
  split
  · exact receiveData_packet self _
  split
  · rw [breakPrint,packet,packet]
  split
  · rfl
  · rw [raise,packet,packet]

theorem finishPacket_packet (self : GameboyPrinter) : self.finishPacket.packet = self.packet := by
  unfold finishPacket
  dsimp only
  split
  · rw [raise,packet,packet]
  · exact executeCommand_packet _

theorem Stored.reset (stored : self.Stored) : self.resetParser.Sound :=
  {stored with parsed := parsed_reset rfl}

theorem valid_done {state : ParserState} (done : state = .checksumLow ∨ state = .checksumHigh ∨ state = .deviceId ∨ state = .status)
    (headerPos payloadExpected payloadReceived : Nat) :
    state.valid headerPos payloadExpected payloadReceived = true ↔ headerPos = 4 ∧ payloadReceived = payloadExpected := by
  rcases done with rfl | rfl | rfl | rfl <;> exact decide_eq_true_iff

theorem Parsed.done {state other : ParserState} {headerPos : Nat} {payload : Bytes} {payloadExpected payloadReceived : Nat}
    (parsed : Parsed state headerPos payload payloadExpected payloadReceived)
    (before : state = .checksumLow ∨ state = .checksumHigh ∨ state = .deviceId ∨ state = .status)
    (after : other = .checksumLow ∨ other = .checksumHigh ∨ other = .deviceId ∨ other = .status) :
    Parsed other headerPos payload payloadExpected payloadReceived :=
  {parsed with
    valid := (valid_done after _ _ _).mpr ((valid_done before _ _ _).mp parsed.valid)
    fresh := by rcases after with rfl | rfl | rfl | rfl <;> exact nofun}

section
variable (sound : self.Sound)
include sound

theorem Sound.headerByte (state : self.state = .header) (byte : UInt8) : (self.headerByte byte).Sound := by
  have parsed := sound.parsed
  rw [state] at parsed
  have early : self.headerPos < 4 := of_decide_eq_true parsed.valid
  have fresh := parsed.fresh rfl
  unfold GameboyPrinter.headerByte
  rw [dif_pos early]
  generalize self.header.set ⟨self.headerPos,early⟩ byte = header
  have low := (header.get 2).toNat_lt
  have high := (header.get 3).toNat_lt
  dsimp only
  split
  · rename_i last
    refine {sound.toStored with parsed := ⟨parsed.counted,?_,?_,early,?_,?_⟩}
    · dsimp only [maxPacketPayload]
      omega
    · dsimp only
      omega
    · dsimp only
      split
      · rename_i empty
        exact (valid_done (.inl rfl) _ _ _).mpr ⟨last,fresh.trans empty.symm⟩
      · exact decide_eq_true ⟨last,by omega,by omega⟩
    · exact fun _ => fresh
  · rename_i more
    refine {sound.toStored with parsed := {parsed with position := early, valid := ?_, fresh := fun _ => fresh}}
    rw [state]
    exact decide_eq_true (Nat.lt_of_le_of_ne early more)

theorem Sound.payloadByte (state : self.state = .payload) (byte : UInt8) : (self.payloadByte byte).Sound := by
  have parsed := sound.parsed
  rw [state] at parsed
  obtain ⟨whole,_,within⟩ := of_decide_eq_true parsed.valid
  have longer : (self.payload ++ [byte]).length = self.payloadReceived + 1 := by
    rw [length_append,parsed.counted]
    rfl
  unfold GameboyPrinter.payloadByte
  dsimp only
  split
  · rename_i last
    exact {sound.toStored with parsed :=
      ⟨longer,parsed.expected,within,parsed.position,(valid_done (.inl rfl) _ _ _).mpr ⟨whole,last⟩,nofun⟩}
  · rename_i more
    refine {sound.toStored with parsed := ⟨longer,parsed.expected,within,parsed.position,?_,?_⟩}
    · rw [state]
      have below : self.payloadReceived + 1 < self.payloadExpected := Nat.lt_of_le_of_ne within more
      exact decide_eq_true ⟨whole,Nat.zero_lt_of_lt below,below⟩
    · rw [state]
      exact nofun

theorem Sound.checksumByte (state : self.state = .checksumHigh) (receivedChecksum : UInt16) :
    Sound {({self with receivedChecksum} : GameboyPrinter).finishPacket with state := .deviceId} := by
  have packet := ({self with receivedChecksum} : GameboyPrinter).finishPacket_packet
  have stored : Stored ({self with receivedChecksum} : GameboyPrinter).finishPacket :=
    Stored.finishPacket {sound.toStored with}
  simp only [GameboyPrinter.packet,Prod.mk.injEq] at packet
  obtain ⟨position,payload,expected,received⟩ := packet
  have parsed := sound.parsed.done (.inr (.inl state)) (.inr (.inr (.inl (Eq.refl ParserState.deviceId))))
  refine {stored with parsed := ?_}
  dsimp only
  rw [position,payload,expected,received]
  exact parsed

theorem Sound.feedSerialByte (byte : UInt8) : (self.feedSerialByte byte).1.Sound := by
  have parsed := sound.parsed
  unfold GameboyPrinter.feedSerialByte
  split
  · rename_i state
    rw [state] at parsed
    dsimp only
    split
    · exact {sound.toStored with parsed := {parsed with valid := parsed.valid, fresh := nofun}}
    · exact sound
  · rename_i state
    rw [state] at parsed
    dsimp only
    split
    · exact {sound.toStored with parsed := parsed_reset rfl}
    split
    · exact {sound.toStored with parsed := {parsed with valid := parsed.valid, fresh := nofun}}
    · exact sound
  · rename_i state
    exact sound.headerByte state byte
  · rename_i state
    exact sound.payloadByte state byte
  · rename_i state
    exact {sound.toStored with parsed := parsed.done (.inl state) (.inr (.inl rfl))}
  · rename_i state
    exact sound.checksumByte state _
  · rename_i state
    exact {sound.toStored with parsed := parsed.done (.inr (.inr (.inl state))) (.inr (.inr (.inr rfl)))}
  · apply Stored.reset
    unfold finishPrint
    split
    · exact {sound.toStored with dataBuffer := Nat.zero_le _}
    · exact sound.toStored

theorem Sound.step (tCycles : UInt64) : (self.step tCycles).Sound := by
  have busy := (Nat.sub_le self.busyCyclesRemaining tCycles.toNat).trans_lt sound.busy
  unfold GameboyPrinter.step
  dsimp only
  split
  · exact sound
  split
  · exact {sound with busy}
  · exact {sound with busy}

theorem Sound.perform (operation : Operation) : (self.perform operation).Sound := by
  cases operation with
  | feedSerialByte byte => exact sound.feedSerialByte byte
  | step tCycles => exact sound.step tCycles
  | reconnect => exact {sound.toStored.reset with dataBuffer := Nat.zero_le _, busy := Nat.two_pow_pos _}
  | takeJobs => exact {sound with jobs := Nat.zero_le _, validJobs := fun _ inside => absurd inside not_mem_nil}

end

theorem sound_run (operations : List Operation) : (new.run operations).Sound := by
  induction operations using List.reverseRecOn with
  | nil => exact sound_new
  | append_singleton operations operation ih =>
    rw [run,foldl_append]
    exact ih.perform operation

def light (self : GameboyPrinter) : UInt8 × Nat := (self.status &&& statusBusy,self.busyCyclesRemaining)

theorem light_congr {self other : GameboyPrinter} (same : other.light = self.light) :
    Agrees other.status other.busyCyclesRemaining ↔ Agrees self.status self.busyCyclesRemaining := by
  obtain ⟨status,cycles⟩ := Prod.mk.inj same
  rw [Agrees,Agrees,status,cycles]

theorem raised_light {flags : UInt8} (other : flags &&& statusBusy = 0) (status : UInt8) :
    (status ||| flags) &&& statusBusy = status &&& statusBusy := by
  rw [Rtc.or_and_right,other,UInt8.or_zero]

theorem masked_light {mask : UInt8} (kept : mask &&& statusBusy = statusBusy) (status : UInt8) :
    (status &&& mask) &&& statusBusy = status &&& statusBusy := by
  rw [UInt8.and_assoc,kept]

theorem raise_light (self : GameboyPrinter) {flags : UInt8} (other : flags &&& statusBusy = 0) :
    (self.raise flags).light = self.light := by
  rw [raise,light,light,raised_light other]

theorem receiveData_light (self : GameboyPrinter) (compression : UInt8) : (self.receiveData compression).light = self.light := by
  unfold receiveData
  split
  · split
    · rw [light,light]
    · exact self.raise_light rfl
  split
  · exact self.raise_light rfl
  · rename_i decoded _
    unfold appendData
    split
    · exact self.raise_light rfl
    · unfold light
      dsimp only
      split
      · rw [raised_light rfl,raised_light rfl]
      · rw [raised_light rfl]

theorem two_lights : ∀ status : UInt8, status &&& statusBusy = 0 ∨ status &&& statusBusy = statusBusy := by decide +kernel

theorem startPrint_agrees (self : GameboyPrinter) : Agrees self.startPrint.status self.startPrint.busyCyclesRemaining ↔
    ¬(self.printDurationCycles = 0 ∧ self.status &&& statusBusy ≠ 0) := by
  rw [startPrint_eq,Agrees]
  dsimp only
  split
  · rename_i none
    rw [raised_light rfl]
    simp [none]
  · rename_i some
    have lit : (self.status ||| statusBufferFull ||| statusBusy) &&& statusBusy ≠ 0 := by
      rw [Rtc.or_and_right]
      obtain dark | lit := two_lights (self.status ||| statusBufferFull)
      · rw [dark]
        decide
      · rw [lit]
        decide
    exact iff_of_true (iff_of_true lit some) fun short => some short.1

def StopsBusy (self : GameboyPrinter) : Prop :=
  self.header.get 0 = 0x02 ∧ self.header.get 1 = 0 ∧ self.payload.length = 4 ∧ self.dataEndSeen = true ∧
    ((byteAt self.payload 0 = 0 ∨ self.dataBuffer = []) ∧ byteAt self.payload 1 &&& 0x0F = 0) ∧ self.status &&& statusBusy ≠ 0

theorem print_agrees (agrees : Agrees self.status self.busyCyclesRemaining) :
    Agrees self.print.status self.print.busyCyclesRemaining ↔
      ¬(self.dataEndSeen = true ∧ self.printDurationCycles = 0 ∧ self.status &&& statusBusy ≠ 0) := by
  cases ended : self.dataEndSeen with
  | false =>
    rw [print_early ended]
    exact iff_of_true agrees fun stops => absurd stops.1 Bool.false_ne_true
  | true =>
    have saved : (self.saveJob self.jobToPrint).printDurationCycles = self.printDurationCycles := rfl
    simp only [true_and]
    obtain whole | whole := print_eq ended
    · rw [whole,startPrint_agrees]
    · rw [whole,startPrint_agrees,saved,saveJob]

theorem executeCommand_agrees (self : GameboyPrinter) (agrees : Agrees self.status self.busyCyclesRemaining) :
    Agrees self.executeCommand.status self.executeCommand.busyCyclesRemaining ↔ ¬self.StopsBusy := by
  have dark : Agrees 0 0 := by decide
  unfold executeCommand StopsBusy
  rw [← printDurationCycles_zero]
  dsimp only
  split
  · rename_i command
    refine iff_of_true dark fun stops => ?_
    rw [command.1] at stops
    exact absurd stops.1 (by decide)
  split
  · rename_i command
    rw [print_agrees agrees]
    exact not_congr ⟨fun stops => ⟨command.1,command.2.1,command.2.2,stops⟩,fun stops => stops.2.2.2⟩
  rename_i other
  have holds : ¬(self.header.get 0 = 0x02 ∧ self.header.get 1 = 0 ∧ self.payload.length = 4 ∧ self.dataEndSeen = true ∧
      self.printDurationCycles = 0 ∧ self.status &&& statusBusy ≠ 0) :=
    fun stops => other ⟨stops.1,stops.2.1,stops.2.2.1⟩
  refine iff_of_true ?_ holds
  split
  · exact (light_congr (self.receiveData_light _)).mpr agrees
  split
  · refine iff_of_false (not_not.mpr ?_) (not_not.mpr rfl)
    change (self.status &&& ~~~statusBusy) &&& statusBusy = 0
    rw [UInt8.and_assoc]
    exact UInt8.and_zero
  split
  · exact agrees
  · exact (light_congr (self.raise_light rfl)).mpr agrees

theorem finishPacket_agrees (self : GameboyPrinter) (agrees : Agrees self.status self.busyCyclesRemaining) :
    Agrees self.finishPacket.status self.finishPacket.busyCyclesRemaining ↔
      ¬(self.receivedChecksum = self.checksum ∧ self.StopsBusy) := by
  have kept : (self.status &&& ~~~transientErrorMask) &&& statusBusy = self.status &&& statusBusy := masked_light rfl _
  have cleared : Agrees (self.status &&& ~~~transientErrorMask) self.busyCyclesRemaining := by
    rw [Agrees,kept]
    exact agrees
  unfold finishPacket
  dsimp only
  split
  · rename_i bad
    refine iff_of_true ?_ fun stops => bad stops.1
    exact (light_congr (raise_light {self with status := self.status &&& ~~~transientErrorMask} rfl)).mpr cleared
  · rename_i good
    have executed := executeCommand_agrees {self with status := self.status &&& ~~~transientErrorMask} cleared
    refine executed.trans (not_congr ?_)
    rw [StopsBusy,StopsBusy]
    dsimp only
    rw [kept]
    exact ⟨fun stops => ⟨not_not.mp good,stops⟩,fun stops => stops.2⟩

def Stalls (self : GameboyPrinter) : Operation → Prop
  | .feedSerialByte byte =>
    self.state = .checksumHigh ∧ self.receivedChecksum ||| byte.toUInt16 <<< 8 = self.checksum ∧ self.StopsBusy
  | _ => False

theorem feedSerialByte_light (other : self.state ≠ .checksumHigh) (byte : UInt8) :
    (self.feedSerialByte byte).1.light = self.light := by
  unfold feedSerialByte
  split
  · dsimp only
    split <;> rfl
  · dsimp only
    split
    · rw [startPacket,resetParser,light,light]
    · split <;> rfl
  · unfold headerByte light
    dsimp only
    split <;> rfl
  · unfold payloadByte light
    dsimp only
    split <;> rfl
  · rfl
  · contradiction
  · rfl
  · unfold finishPrint resetParser light
    dsimp only
    split
    · rw [masked_light rfl]
    · rfl

theorem step_agrees (agrees : Agrees self.status self.busyCyclesRemaining) (tCycles : UInt64) :
    Agrees (self.step tCycles).status (self.step tCycles).busyCyclesRemaining := by
  unfold step
  dsimp only
  split
  · exact agrees
  rename_i busy
  split
  · rename_i done
    refine iff_of_false (not_not.mpr ?_) (not_not.mpr done)
    rw [UInt8.and_assoc]
    exact UInt8.and_zero
  · rename_i left
    exact iff_of_true (agrees.mpr busy) left

theorem perform_agrees (agrees : Agrees self.status self.busyCyclesRemaining) (operation : Operation) :
    Agrees (self.perform operation).status (self.perform operation).busyCyclesRemaining ↔ ¬self.Stalls operation := by
  cases operation with
  | feedSerialByte byte =>
    by_cases last : self.state = .checksumHigh
    · have executed := finishPacket_agrees
        {self with receivedChecksum := self.receivedChecksum ||| byte.toUInt16 <<< 8} agrees
      have fed : self.perform (.feedSerialByte byte) = {({self with
          receivedChecksum := self.receivedChecksum ||| byte.toUInt16 <<< 8} : GameboyPrinter).finishPacket with
            state := .deviceId} := by
        rw [perform,feedSerialByte,last]
      rw [fed]
      exact executed.trans (not_congr ⟨fun stops => ⟨last,stops⟩,fun stops => stops.2⟩)
    · exact iff_of_true ((light_congr (feedSerialByte_light last byte)).mpr agrees) fun stops => last stops.1
  | step tCycles => exact iff_of_true (step_agrees agrees tCycles) id
  | reconnect => exact iff_of_true (by decide : Agrees 0 0) id
  | takeJobs => exact iff_of_true agrees id

theorem steps_clear (agrees : Agrees self.status self.busyCyclesRemaining) (cycles : List UInt64)
    (enough : self.busyCyclesRemaining ≤ (cycles.map UInt64.toNat).sum) :
    (self.run (cycles.map .step)).status &&& statusBusy = 0 := by
  induction cycles generalizing self with
  | nil =>
    have idle : self.busyCyclesRemaining = 0 := Nat.le_zero.mp enough
    exact not_not.mp fun busy => agrees.mp busy idle
  | cons tCycles cycles ih =>
    rw [map_cons,sum_cons] at enough
    refine ih (step_agrees agrees tCycles) ?_
    unfold perform step
    dsimp only
    split
    · omega
    split
    · exact Nat.sub_le_of_le_add (by omega)
    · exact Nat.sub_le_of_le_add (by omega)

/-- The save state is loaded as the printer it was taken of, and the busy bit is set while busy cycles remain. -/
def Loads (self : GameboyPrinter) : Prop :=
  (∀ rest, readState saveStateFormatVersion (self.writeState ++ rest) = .ok (self,rest)) ∧
    (self.status &&& statusBusy ≠ 0 ↔ self.busyCyclesRemaining ≠ 0) ∧
    ∀ cycles : List UInt64, self.busyCyclesRemaining ≤ (cycles.map UInt64.toNat).sum →
      (self.run (cycles.map .step)).status &&& statusBusy = 0

theorem Sound.loads_iff (sound : self.Sound) :
    self.Loads ↔ Agrees self.status self.busyCyclesRemaining := by
  constructor
  · exact fun loads => loads.2.1
  · intro agrees
    refine ⟨fun rest => ?_,agrees,steps_clear agrees⟩
    rw [run_readState sound,if_pos agrees]

/-- Every state of a run loads just when no print that takes no time comes in while the printer is busy. -/
theorem run_loads_iff (operations : List Operation) :
    (∀ done, done <+: operations → (new.run done).Loads) ↔
      ∀ done operation, done ++ [operation] <+: operations → ¬(new.run done).Stalls operation := by
  have next (done : List Operation) (operation : Operation) :
      new.run (done ++ [operation]) = (new.run done).perform operation := foldl_append ..
  simp only [fun done => (sound_run done).loads_iff]
  constructor
  · intro agrees done operation inside
    have before := agrees done ((prefix_append done [operation]).trans inside)
    have after := agrees (done ++ [operation]) inside
    rw [next] at after
    exact (perform_agrees before operation).mp after
  · intro free done
    induction done using List.reverseRecOn with
    | nil => exact fun _ => by decide
    | append_singleton done operation ih =>
      intro inside
      have before := ih ((prefix_append done [operation]).trans inside)
      rw [next]
      exact (perform_agrees before operation).mpr (free done operation inside)

def marginThenNone : List Operation :=
  (([0x88,0x33,4,0,0,0,4,0,0,0] ++ [0x88,0x33,2,0,4,0,0,1,0,0,7,0,0,0] ++ [0x88,0x33,4,0,0,0,4,0,0,0] ++
    [0x88,0x33,2,0,4,0,0,0,0,0,6,0,0,0] : Bytes)).map .feedSerialByte

theorem busy_bit_sticks : ¬∀ operations, (new.run operations).Loads := by
  intro loads
  have agrees := (loads marginThenNone).2.1
  revert agrees
  decide +kernel

end GameboyPrinter
end ZeffBoy.GameBoy
