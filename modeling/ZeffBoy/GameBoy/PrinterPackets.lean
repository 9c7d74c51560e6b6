import ZeffBoy.GameBoy.PrinterRuns
import ZeffBoy.Library.RunLength

/-! The packets of the printer.
Behind bytes without the magic pair a packet is executed once, with its own payload. The payload of a compressed data
packet is a sequence of runs. -/
namespace ZeffBoy.GameBoy
open Library List

theorem decodeRleFrom_literal {control : UInt8} (literal : control &&& 0x80 = 0) (rest before : Bytes) :
    decodeRleFrom (control::rest) before =
      if rest.length < control.toNat + 1 then none
      else if bufferCapacity < before.length + (control.toNat + 1) then none
      else decodeRleFrom (rest.drop (control.toNat + 1)) (before ++ rest.take (control.toNat + 1)) := by
  rw [decodeRleFrom.eq_def]
  dsimp only
  rw [if_pos literal]

theorem decodeRleFrom_repeated {control : UInt8} (repeated : control &&& 0x80 ≠ 0) (value : UInt8) (rest before : Bytes) :
    decodeRleFrom (control::value::rest) before =
      if bufferCapacity < before.length + ((control &&& 0x7F).toNat + 2) then none
      else decodeRleFrom rest (before ++ List.replicate ((control &&& 0x7F).toNat + 2) value) := by
  rw [decodeRleFrom.eq_def]
  dsimp only
  rw [if_neg repeated]

theorem decodeRleFrom_iff (encoded before : Bytes) (room : before.length ≤ bufferCapacity) (result : Bytes) :
    decodeRleFrom encoded before = some result ↔
      ∃ decoded, RunLength encoded decoded ∧ result = before ++ decoded ∧ result.length ≤ bufferCapacity := by
  have refused {before run : Bytes} (full : bufferCapacity < before.length + run.length) (others : Bytes) :
      ¬(before ++ (run ++ others)).length ≤ bufferCapacity := by
    rw [length_append,length_append]
    omega
  induction encoded, before using decodeRleFrom.induct with
  | case1 before =>
    rw [decodeRleFrom,Option.some.injEq]
    simp only [runLength_nil_iff,exists_eq_left,append_nil]
    exact ⟨fun same => ⟨same.symm,same ▸ room⟩,fun held => held.1.symm⟩
  | case2 before control rest literal len short =>
    rw [decodeRleFrom_literal literal,if_pos short]
    refine iff_of_false nofun ?_
    rintro ⟨decoded,runs,_⟩
    exact absurd ((runLength_literal literal _ _).mp runs).1 (Nat.not_le_of_lt short)
  | case3 before control rest literal len long full =>
    rw [decodeRleFrom_literal literal,if_neg long,if_pos full]
    refine iff_of_false nofun ?_
    rintro ⟨decoded,runs,rfl,fits⟩
    obtain ⟨enough,others,_,rfl⟩ := (runLength_literal literal _ _).mp runs
    refine refused ?_ others fits
    rwa [length_take_of_le enough]
  | case4 before control rest literal len long fits ih =>
    have enough := not_lt.mp long
    have more : (before ++ rest.take len).length ≤ bufferCapacity := by
      rw [length_append,length_take_of_le enough]
      exact not_lt.mp fits
    rw [decodeRleFrom_literal literal,if_neg long,if_neg fits]
    refine (ih more).trans ?_
    simp only [runLength_literal literal]
    constructor
    · rintro ⟨others,later,rfl,held⟩
      exact ⟨rest.take len ++ others,⟨enough,others,later,rfl⟩,append_assoc .. ,held⟩
    · rintro ⟨_,⟨_,others,later,rfl⟩,rfl,held⟩
      exact ⟨others,later,(append_assoc ..).symm,held⟩
  | case5 before control repeated =>
    have short : decodeRleFrom [control] before = none := by
      rw [decodeRleFrom.eq_def]
      dsimp only
      rw [if_neg repeated]
    rw [short]
    refine iff_of_false nofun ?_
    rintro ⟨decoded,runs,_⟩
    obtain ⟨value,rest,_,whole,_⟩ := (runLength_repeated repeated _ _).mp runs
    exact nomatch whole
  | case6 before control repeated value rest len full =>
    rw [decodeRleFrom_repeated repeated,if_pos full]
    refine iff_of_false nofun ?_
    rintro ⟨decoded,runs,rfl,fits⟩
    obtain ⟨_,_,others,_,_,rfl⟩ := (runLength_repeated repeated _ _).mp runs
    refine refused ?_ others fits
    rwa [length_replicate]
  | case7 before control repeated value rest len fits ih =>
    have more : (before ++ List.replicate len value).length ≤ bufferCapacity := by
      rw [length_append,length_replicate]
      exact not_lt.mp fits
    rw [decodeRleFrom_repeated repeated,if_neg fits]
    refine (ih more).trans ?_
    simp only [runLength_repeated repeated]
    constructor
    · rintro ⟨others,later,rfl,held⟩
      exact ⟨List.replicate len value ++ others,⟨value,rest,others,rfl,later,rfl⟩,append_assoc .. ,held⟩
    · rintro ⟨_,⟨_,_,others,same,later,rfl⟩,rfl,held⟩
      obtain ⟨rfl,rfl⟩ := List.cons.inj same
      exact ⟨others,later,(append_assoc ..).symm,held⟩

theorem decodeRle_iff (encoded decoded : Bytes) :
    decodeRle encoded = some decoded ↔ RunLength encoded decoded ∧ decoded.length ≤ bufferCapacity := by
  rw [decodeRle,decodeRleFrom_iff encoded [] zero_le]
  constructor
  · rintro ⟨_,runs,rfl,fits⟩
    exact ⟨runs,fits⟩
  · rintro ⟨runs,fits⟩
    exact ⟨decoded,runs,rfl,fits⟩

structure PrinterPacket where
  command : UInt8
  compression : UInt8
  payload : Bytes
  few : payload.length ≤ maxPacketPayload
  checksumLow : UInt8
  checksumHigh : UInt8
  trailing : UInt8 × UInt8

namespace PrinterPacket

def header (self : PrinterPacket) : Bytes :=
  [self.command,self.compression,UInt8.ofNat self.payload.length,UInt8.ofNat (self.payload.length / 256)]

def wire (self : PrinterPacket) : Bytes :=
  0x88::0x33::(self.header ++ (self.payload ++ [self.checksumLow,self.checksumHigh,self.trailing.1,self.trailing.2]))

def sum (bytes : Bytes) : UInt16 := bytes.foldl (fun sum byte => sum + byte.toUInt16) 0

def checksum (self : PrinterPacket) : UInt16 := self.checksumLow.toUInt16 ||| self.checksumHigh.toUInt16 <<< 8

def Intact (self : PrinterPacket) : Prop := self.checksum = sum (self.header ++ self.payload)

end PrinterPacket

def Quiet (bytes : Bytes) : Prop := ¬[0x88,0x33] <:+: bytes

theorem Quiet.tail {byte : UInt8} {bytes : Bytes} (quiet : Quiet (byte::bytes)) : Quiet bytes :=
  fun pair => quiet (infix_cons pair)

namespace GameboyPrinter

def feed (self : GameboyPrinter) (bytes : Bytes) : GameboyPrinter :=
  bytes.foldl (fun self byte => (self.feedSerialByte byte).1) self

theorem feed_append (self : GameboyPrinter) (front rest : Bytes) : self.feed (front ++ rest) = (self.feed front).feed rest :=
  foldl_append

/-- The printer with the packet in its parser. -/
def received (self : GameboyPrinter) (packet : PrinterPacket) : GameboyPrinter := {self with
  state := .checksumHigh
  header := ⟨packet.header,rfl⟩
  headerPos := 4
  payload := packet.payload
  payloadExpected := packet.payload.length
  payloadReceived := packet.payload.length
  checksum := PrinterPacket.sum (packet.header ++ packet.payload)
  receivedChecksum := packet.checksum}

def accept (self : GameboyPrinter) (packet : PrinterPacket) : GameboyPrinter := (self.received packet).finishPacket.finishPrint.resetParser

variable {self : GameboyPrinter}

theorem feed_quiet (state : self.state = .magic1) (noise : Bytes) :
    (Quiet noise → self.feed noise = self ∨ self.feed noise = {self with state := .magic2}) ∧
    (Quiet (0x88::noise) → ({self with state := .magic2} : GameboyPrinter).feed noise = self ∨
      ({self with state := .magic2} : GameboyPrinter).feed noise = {self with state := .magic2}) := by
  have back : ({self with state := .magic1} : GameboyPrinter) = self := by
    rw [← state]
  induction noise with
  | nil => exact ⟨fun _ => .inl rfl,fun _ => .inr rfl⟩
  | cons byte noise ih =>
    constructor
    · intro quiet
      by_cases first : byte = 0x88
      · subst first
        have fed : (self.feedSerialByte 0x88).1 = {self with state := .magic2} := by
          rw [feedSerialByte,state]
          rfl
        rw [feed,foldl_cons,fed]
        exact ih.2 quiet
      · have fed : (self.feedSerialByte byte).1 = self := by
          rw [feedSerialByte,state]
          exact if_neg first
        rw [feed,foldl_cons,fed]
        exact ih.1 quiet.tail
    · intro quiet
      have other : byte ≠ 0x33 := by
        rintro rfl
        exact quiet (prefix_append [0x88,0x33] noise).isInfix
      by_cases first : byte = 0x88
      · subst first
        exact ih.2 quiet.tail
      · have fed : (({self with state := .magic2} : GameboyPrinter).feedSerialByte byte).1 = self := by
          rw [feedSerialByte]
          dsimp only
          rw [if_neg other,if_pos first]
          exact back
        rw [feed,foldl_cons,fed]
        exact ih.1 quiet.tail.tail

/-- The header and the front of the payload of a packet are in the parser. -/
def reading (self : GameboyPrinter) (packet : PrinterPacket) (front : Bytes) : GameboyPrinter := {self with
  state := if front.length = packet.payload.length then .checksumLow else .payload
  header := ⟨packet.header,rfl⟩
  headerPos := 4
  payload := front
  payloadExpected := packet.payload.length
  payloadReceived := front.length
  checksum := PrinterPacket.sum (packet.header ++ front)
  receivedChecksum := 0}

theorem feed_magic (state : self.state = .magic1 ∨ self.state = .magic2) :
    self.feed [0x88,0x33] = self.startPacket := by
  have second : (self.feedSerialByte 0x88).1 = {self with state := .magic2} := by
    rw [feedSerialByte]
    rcases state with state | state
    · rw [state]
      rfl
    · rw [state]
      change self = _
      rw [← state]
  rw [feed,foldl_cons,second]
  rfl

theorem feed_header (self : GameboyPrinter) (command compression low high : UInt8) :
    self.startPacket.feed [command,compression,low,high] = {self with
      state := if low.toNat + 256 * high.toNat = 0 then .checksumLow else .payload
      header := ⟨[command,compression,low,high],rfl⟩
      headerPos := 4
      payload := []
      payloadExpected := low.toNat + 256 * high.toNat
      payloadReceived := 0
      checksum := PrinterPacket.sum [command,compression,low,high]
      receivedChecksum := 0} := rfl

theorem feed_reading (state : self.state = .magic1 ∨ self.state = .magic2) (packet : PrinterPacket) :
    self.feed (0x88::0x33::packet.header) = self.reading packet [] := by
  have few : packet.payload.length ≤ 2^16 - 1 := packet.few
  have length : (UInt8.ofNat packet.payload.length).toNat + 256 * (UInt8.ofNat (packet.payload.length / 256)).toNat =
      packet.payload.length := by
    rw [UInt8.toNat_ofNat',UInt8.toNat_ofNat']
    omega
  have empty : (packet.payload.length = 0) = (([] : Bytes).length = packet.payload.length) := propext eq_comm
  change self.feed ([0x88,0x33] ++ packet.header) = _
  rw [feed_append,feed_magic state,PrinterPacket.header,feed_header,length]
  simp only [reading,empty]
  rfl

theorem feed_payload (self : GameboyPrinter) (packet : PrinterPacket) (front rest : Bytes) (whole : front ++ rest = packet.payload) :
    (self.reading packet front).feed rest = self.reading packet packet.payload := by
  induction rest generalizing front with
  | nil =>
    rw [append_nil] at whole
    rw [whole]
    rfl
  | cons byte rest ih =>
    have later := ih (front ++ [byte]) (by rw [← whole,append_assoc]; rfl)
    have more : front.length ≠ packet.payload.length := by
      rw [← whole,length_append,length_cons]
      omega
    have fed : ((self.reading packet front).feedSerialByte byte).1 = self.reading packet (front ++ [byte]) := by
      have state : (self.reading packet front).state = .payload := if_neg more
      have sum : PrinterPacket.sum (packet.header ++ (front ++ [byte])) = PrinterPacket.sum (packet.header ++ front) + byte.toUInt16 := by
        rw [← append_assoc,PrinterPacket.sum,foldl_append]
        rfl
      have length : (front ++ [byte]).length = front.length + 1 := length_append
      rw [feedSerialByte,state]
      dsimp only
      rw [payloadByte,reading,reading,sum,length,if_neg more]
      dsimp only
      split
      · rfl
      · rfl
    rw [feed,foldl_cons,fed]
    exact later

theorem finishPrint_state (self : GameboyPrinter) (state : ParserState) :
    ({self with state} : GameboyPrinter).finishPrint.resetParser = self.finishPrint.resetParser := by
  unfold finishPrint
  dsimp only
  split
  · rfl
  · rfl

theorem feed_wire (state : self.state = .magic1 ∨ self.state = .magic2) (packet : PrinterPacket) :
    self.feed packet.wire = self.accept packet := by
  change self.feed ((0x88::0x33::packet.header) ++ _) = _
  rw [feed_append,feed_reading state,feed_append,feed_payload self packet [] packet.payload rfl,reading,if_pos rfl]
  change ({({(self.received packet).finishPacket with state := .deviceId} : GameboyPrinter) with
    state := .status} : GameboyPrinter).finishPrint.resetParser = _
  rw [finishPrint_state,finishPrint_state]
  rfl

/-- Between packets, with no print waiting for its status byte. -/
structure Idle (printer : GameboyPrinter) : Prop where
  state : printer.state = .magic1
  answered : printer.finishPrintAfterStatus = false
  dataBuffer : printer.dataBuffer.length ≤ bufferCapacity

def clearedStatus (self : GameboyPrinter) : UInt8 := self.status &&& ~~~transientErrorMask

section

theorem executeCommand_dataBuffer (self : GameboyPrinter) (fits : self.dataBuffer.length ≤ bufferCapacity) :
    self.executeCommand.dataBuffer.length ≤ bufferCapacity := by
  unfold executeCommand
  dsimp only
  split
  · exact Nat.zero_le _
  split
  · cases ended : self.dataEndSeen with
    | false => rwa [print_early ended]
    | true =>
      obtain whole | whole := print_eq ended
      · rwa [whole,startPrint_eq]
      · rwa [whole,startPrint_eq]
  split
  · unfold receiveData
    split
    · split
      · exact fits
      · exact fits
    split
    · exact fits
    · unfold appendData
      split
      · exact fits
      · rename_i room
        rw [length_append]
        exact not_lt.mp room
  split
  · exact fits
  split
  · exact fits
  · exact fits

theorem finishPacket_dataBuffer (fits : self.dataBuffer.length ≤ bufferCapacity) :
    self.finishPacket.dataBuffer.length ≤ bufferCapacity := by
  unfold finishPacket
  dsimp only
  split
  · exact fits
  · exact executeCommand_dataBuffer {self with status := _} fits

theorem feedSerialByte_dataBuffer (fits : self.dataBuffer.length ≤ bufferCapacity) (byte : UInt8) :
    (self.feedSerialByte byte).1.dataBuffer.length ≤ bufferCapacity := by
  unfold feedSerialByte
  split
  · dsimp only
    split <;> exact fits
  · dsimp only
    split
    · exact fits
    · split <;> exact fits
  · unfold headerByte
    dsimp only
    split <;> exact fits
  · unfold payloadByte
    dsimp only
    split <;> exact fits
  · exact fits
  · exact finishPacket_dataBuffer fits
  · exact fits
  · unfold finishPrint
    split
    · exact Nat.zero_le _
    · exact fits

theorem feed_dataBuffer (fits : self.dataBuffer.length ≤ bufferCapacity) (bytes : Bytes) :
    (self.feed bytes).dataBuffer.length ≤ bufferCapacity := by
  induction bytes generalizing self with
  | nil => exact fits
  | cons byte bytes ih => exact ih (feedSerialByte_dataBuffer fits byte)

theorem accept_idle (fits : self.dataBuffer.length ≤ bufferCapacity) (packet : PrinterPacket) : (self.accept packet).Idle := by
  have received : (self.received packet).dataBuffer.length ≤ bufferCapacity := fits
  have finished := finishPacket_dataBuffer received
  unfold accept finishPrint
  split
  · exact ⟨rfl,rfl,Nat.zero_le _⟩
  · rename_i answered
    exact ⟨rfl,Bool.eq_false_iff.mpr answered,finished⟩

theorem feed_packets (idle : self.Idle) (stream : List (Bytes × PrinterPacket)) (quiet : ∀ item ∈ stream, Quiet item.1) :
    self.feed (stream.flatMap fun item => item.1 ++ item.2.wire) = (stream.map Prod.snd).foldl accept self ∧
      ((stream.map Prod.snd).foldl accept self).Idle := by
  induction stream generalizing self with
  | nil => exact ⟨rfl,idle⟩
  | cons item stream ih =>
    have later := ih (accept_idle idle.dataBuffer item.2) (fun other inside => quiet other (mem_cons_of_mem item inside))
    have first : self.feed (item.1 ++ item.2.wire) = self.accept item.2 := by
      rw [feed_append]
      rcases (feed_quiet idle.state item.1).1 (quiet item mem_cons_self) with same | half
      · rw [same,feed_wire (.inl idle.state)]
      · rw [half,feed_wire (.inr rfl)]
        rfl
    rw [flatMap_cons,feed_append,first]
    exact later

variable {packet : PrinterPacket}

theorem accept_damaged (idle : self.Idle) (damaged : ¬packet.Intact) :
    (self.accept packet).dataBuffer = self.dataBuffer ∧
      (self.accept packet).status = self.clearedStatus ||| statusChecksumError := by
  have finished : (self.received packet).finishPacket = {self.received packet with
      status := self.clearedStatus ||| statusChecksumError
      responseStatus := self.clearedStatus ||| statusChecksumError} := by
    rw [finishPacket]
    exact if_pos damaged
  rw [accept,finished,finishPrint,if_neg (by rw [received,idle.answered]; exact Bool.false_ne_true)]
  exact ⟨rfl,rfl⟩

theorem executeCommand_data (command : self.header.get 0 = 0x04) : self.executeCommand = self.receiveData (self.header.get 1) := by
  unfold executeCommand
  dsimp only
  rw [command,if_neg fun other => absurd other.1 (by decide),if_neg fun other => absurd other.1 (by decide),if_pos rfl]

theorem receiveData_answered (compression : UInt8) :
    (self.receiveData compression).finishPrintAfterStatus = self.finishPrintAfterStatus := by
  unfold receiveData
  split
  · split
    · rfl
    · rfl
  split
  · rfl
  · unfold appendData
    split
    · rfl
    · rfl

theorem accept_data (idle : self.Idle) (intact : packet.Intact) (command : packet.command = 0x04) :
    let started := {self.received packet with status := self.clearedStatus}
    (self.accept packet).dataBuffer = (started.receiveData packet.compression).dataBuffer ∧
      (self.accept packet).status = (started.receiveData packet.compression).status := by
  intro started
  have executed : started.executeCommand = started.receiveData packet.compression := executeCommand_data command
  have answered : (started.receiveData packet.compression).finishPrintAfterStatus = false :=
    (receiveData_answered packet.compression).trans idle.answered
  have finished : ∃ responseStatus, (self.received packet).finishPacket =
      {started.receiveData packet.compression with responseStatus} := by
    rw [← executed,finishPacket]
    exact ⟨_,if_neg (not_not.mpr intact)⟩
  obtain ⟨responseStatus,finished⟩ := finished
  rw [accept,finished,finishPrint,if_neg (by rw [answered]; exact Bool.false_ne_true)]
  exact ⟨rfl,rfl⟩

def Holds (packet : PrinterPacket) (data : Bytes) : Prop :=
  packet.compression = 0 ∧ data = packet.payload ∨
    packet.compression = 1 ∧ RunLength packet.payload data ∧ data.length ≤ bufferCapacity

theorem decodePayload_iff (packet : PrinterPacket) (status : UInt8) (data : Bytes) :
    ({self.received packet with status} : GameboyPrinter).decodePayload packet.compression = some data ↔ Holds packet data := by
  unfold decodePayload Holds
  dsimp only [received]
  split
  · rename_i plain
    rw [plain,Option.some.injEq,eq_comm]
    exact ⟨fun same => .inl ⟨rfl,same⟩,fun held => held.elim And.right fun coded => absurd coded.1 (by decide)⟩
  split
  · rename_i coded
    rw [coded,decodeRle_iff]
    exact ⟨fun held => .inr ⟨rfl,held⟩,fun held => held.elim (fun plain => absurd plain.1 (by decide)) And.right⟩
  · rename_i plain coded
    exact iff_of_false nofun fun held => held.elim (fun same => plain same.1) fun same => coded same.1

theorem receiveData_some {compression : UInt8} (filled : self.payload ≠ []) :
    self.receiveData compression = match self.decodePayload compression with
      | none => self.raise statusPacketError
      | some decoded => self.appendData decoded := by
  unfold receiveData
  exact if_neg (mt List.isEmpty_iff.mp filled)

theorem appendData_whole (self : GameboyPrinter) (data : Bytes) :
    if self.dataBuffer.length + data.length ≤ bufferCapacity then
      (self.appendData data).dataBuffer = self.dataBuffer ++ data ∧ (self.appendData data).status =
        if self.dataBuffer.length + data.length = bufferCapacity then
          self.status ||| statusUnprocessedData ||| statusBufferFull
        else self.status ||| statusUnprocessedData
    else (self.appendData data).dataBuffer = self.dataBuffer ∧ (self.appendData data).status = self.status ||| statusBufferFull := by
  unfold appendData
  split
  · rename_i fits
    rw [if_neg (not_lt.mpr fits)]
    exact ⟨rfl,rfl⟩
  · rename_i full
    rw [if_pos (not_le.mp full)]
    exact ⟨rfl,rfl⟩

theorem accept_held (idle : self.Idle) (intact : packet.Intact) (command : packet.command = 0x04)
    (filled : packet.payload ≠ []) {data : Bytes} (held : Holds packet data) :
    if self.dataBuffer.length + data.length ≤ bufferCapacity then
      (self.accept packet).dataBuffer = self.dataBuffer ++ data ∧ (self.accept packet).status =
        if self.dataBuffer.length + data.length = bufferCapacity then
          self.clearedStatus ||| statusUnprocessedData ||| statusBufferFull
        else self.clearedStatus ||| statusUnprocessedData
    else (self.accept packet).dataBuffer = self.dataBuffer ∧ (self.accept packet).status = self.clearedStatus ||| statusBufferFull := by
  obtain ⟨dataBuffer,status⟩ := accept_data idle intact command
  rw [dataBuffer,status,receiveData_some filled,(decodePayload_iff packet self.clearedStatus data).mpr held]
  exact appendData_whole {self.received packet with status := self.clearedStatus} data

theorem accept_empty (idle : self.Idle) (intact : packet.Intact) (command : packet.command = 0x04)
    (empty : packet.payload = []) : (self.accept packet).dataBuffer = self.dataBuffer ∧ (self.accept packet).status =
      if packet.compression = 0 then self.clearedStatus else self.clearedStatus ||| statusPacketError := by
  obtain ⟨dataBuffer,status⟩ := accept_data idle intact command
  have nothing : (self.received packet).payload.isEmpty = true := List.isEmpty_iff.mpr empty
  rw [dataBuffer,status,receiveData,if_pos nothing]
  split <;> exact ⟨rfl,rfl⟩

theorem accept_malformed (idle : self.Idle) (intact : packet.Intact) (command : packet.command = 0x04)
    (filled : packet.payload ≠ []) (malformed : ¬∃ data, Holds packet data) :
    (self.accept packet).dataBuffer = self.dataBuffer ∧
      (self.accept packet).status = self.clearedStatus ||| statusPacketError := by
  obtain ⟨dataBuffer,status⟩ := accept_data idle intact command
  have refused : ({self.received packet with status := self.clearedStatus} : GameboyPrinter).decodePayload packet.compression = none :=
    Option.eq_none_iff_forall_ne_some.mpr fun data decoded =>
      malformed ⟨data,(decodePayload_iff packet self.clearedStatus data).mp decoded⟩
  rw [dataBuffer,status,receiveData_some filled,refused]
  exact ⟨rfl,rfl⟩

end

/-- A print waits for its status byte only while the packet that started it is being answered. -/
def Answered (self : GameboyPrinter) : Prop :=
  self.finishPrintAfterStatus = true → self.state = .deviceId ∨ self.state = .status

theorem answered_feed (answered : self.Answered) (byte : UInt8) :
    (self.feedSerialByte byte).1.Answered := by
  unfold Answered at answered ⊢
  unfold feedSerialByte
  split
  · rename_i state
    rw [state] at answered
    dsimp only
    split
    · exact fun waits => absurd (answered waits) (by decide)
    · exact fun waits => absurd (answered waits) (by decide)
  · rename_i state
    rw [state] at answered
    dsimp only
    split
    · exact fun waits => absurd (answered waits) (by decide)
    split
    · exact fun waits => absurd (answered waits) (by decide)
    · exact fun waits => absurd (answered waits) (by decide)
  · rename_i state
    rw [state] at answered
    unfold headerByte
    dsimp only
    split
    · exact fun waits => absurd (answered waits) (by decide)
    · exact fun waits => absurd (answered waits) (by decide)
  · rename_i state
    rw [state] at answered
    unfold payloadByte
    dsimp only
    split
    · exact fun waits => absurd (answered waits) (by decide)
    · exact fun waits => absurd (answered waits) (by decide)
  · rename_i state
    rw [state] at answered
    exact fun waits => absurd (answered waits) (by decide)
  · exact fun _ => .inl rfl
  · exact fun _ => .inr rfl
  · unfold finishPrint
    split
    · exact nofun
    · rename_i waits
      exact fun still => absurd still waits

theorem answered_run (operations : List Operation) : (new.run operations).Answered := by
  induction operations using List.reverseRecOn with
  | nil => exact fun waits => absurd waits (by decide)
  | append_singleton operations operation ih =>
    rw [run,foldl_append]
    change (perform (new.run operations) operation).Answered
    cases operation with
    | feedSerialByte byte => exact answered_feed ih byte
    | step tCycles =>
      unfold perform step
      dsimp only
      split
      · exact ih
      split
      · exact ih
      · exact ih
    | reconnect => exact fun waits => absurd waits Bool.false_ne_true
    | takeJobs => exact ih

theorem run_idle (operations : List Operation) (state : (new.run operations).state = .magic1) : (new.run operations).Idle := by
  refine ⟨state,Bool.eq_false_iff.mpr fun waits => ?_,(sound_run operations).dataBuffer⟩
  rcases answered_run operations waits with other | other
  · exact absurd (state.symm.trans other) (by decide)
  · exact absurd (state.symm.trans other) (by decide)

/-- The packet protocol of the printer. -/
theorem packet_protocol :
    (∀ operations, (new.run operations).state = .magic1 → (new.run operations).Idle) ∧
    ∀ self : GameboyPrinter, self.Idle →
      (∀ stream : List (Bytes × PrinterPacket), (∀ item ∈ stream, Quiet item.1) →
        self.feed (stream.flatMap fun item => item.1 ++ item.2.wire) = (stream.map Prod.snd).foldl accept self ∧
          ((stream.map Prod.snd).foldl accept self).Idle) ∧
      (∀ bytes, (self.feed bytes).dataBuffer.length ≤ bufferCapacity) ∧
      ∀ packet : PrinterPacket,
        (¬packet.Intact → (self.accept packet).dataBuffer = self.dataBuffer ∧
          (self.accept packet).status = self.clearedStatus ||| statusChecksumError) ∧
        (packet.Intact → packet.command = 0x04 → packet.payload = [] →
          (self.accept packet).dataBuffer = self.dataBuffer ∧ (self.accept packet).status =
            if packet.compression = 0 then self.clearedStatus else self.clearedStatus ||| statusPacketError) ∧
        (packet.Intact → packet.command = 0x04 → packet.payload ≠ [] →
          (∀ data, Holds packet data →
            if self.dataBuffer.length + data.length ≤ bufferCapacity then
              (self.accept packet).dataBuffer = self.dataBuffer ++ data ∧ (self.accept packet).status =
                if self.dataBuffer.length + data.length = bufferCapacity then
                  self.clearedStatus ||| statusUnprocessedData ||| statusBufferFull
                else self.clearedStatus ||| statusUnprocessedData
            else (self.accept packet).dataBuffer = self.dataBuffer ∧
              (self.accept packet).status = self.clearedStatus ||| statusBufferFull) ∧
          ((¬∃ data, Holds packet data) → (self.accept packet).dataBuffer = self.dataBuffer ∧
            (self.accept packet).status = self.clearedStatus ||| statusPacketError)) :=
  ⟨run_idle,fun _ idle => ⟨feed_packets idle,feed_dataBuffer idle.dataBuffer,fun _ =>
    ⟨accept_damaged idle,accept_empty idle,fun intact command filled =>
      ⟨fun _ held => accept_held idle intact command filled held,accept_malformed idle intact command filled⟩⟩⟩⟩

def threeTimes : PrinterPacket := ⟨0x04,1,[0x81,0xA5],by decide,0x2D,0x01,(0,0)⟩

theorem packet_protocol_run :
    (new.feed ([0x12,0x88,0x44,0x88] ++ threeTimes.wire)).dataBuffer = [0xA5,0xA5,0xA5] := by
  have idle : new.Idle := packet_protocol.1 [] rfl
  have quiet : ∀ item ∈ [([0x12,0x88,0x44,0x88],threeTimes)], Quiet item.1 := by
    unfold Quiet
    decide
  have held : Holds threeTimes [0xA5,0xA5,0xA5] :=
    .inr ⟨rfl,⟨[.repeated 0xA5 3 (by decide) (by decide)],rfl,rfl⟩,by decide⟩
  have fed := ((packet_protocol.2 new idle).1 [([0x12,0x88,0x44,0x88],threeTimes)] quiet).1
  have appended := (((packet_protocol.2 new idle).2.2 threeTimes).2.2 rfl rfl (by decide)).1 _ held
  rw [if_pos (by decide)] at appended
  rw [flatMap_cons,flatMap_nil,append_nil] at fed
  rw [fed]
  exact appended.1

def oneByte : PrinterPacket := ⟨0x04,0,[0x01],by decide,0x06,0x00,(0,0)⟩

/-- A full buffer takes nothing more. -/
theorem full_buffer_drops : ¬∀ (self : GameboyPrinter) (packet : PrinterPacket), self.Idle → packet.Intact → packet.command = 0x04 →
    packet.compression = 0 → packet.payload ≠ [] → (self.feed packet.wire).dataBuffer = self.dataBuffer ++ packet.payload := by
  intro appends
  have full : (List.replicate bufferCapacity (0 : UInt8)).length = bufferCapacity := length_replicate
  generalize List.replicate bufferCapacity (0 : UInt8) = dataBuffer at full
  have idle : Idle {new with dataBuffer} := ⟨rfl,rfl,full.le⟩
  have appended := appends {new with dataBuffer} oneByte idle rfl rfl rfl (by decide)
  have fits := (accept_idle idle.dataBuffer oneByte).dataBuffer
  rw [← feed_wire (.inl idle.state),appended,length_append,full] at fits
  exact Nat.not_succ_le_self bufferCapacity fits

end GameboyPrinter
end ZeffBoy.GameBoy
