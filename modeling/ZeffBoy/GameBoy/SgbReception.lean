import ZeffBoy.GameBoy.Sgb

/-! What the packet decoder of the Super Game Boy receives.
Between any two writes its state is one the loader accepts, and a command that is clocked in whole arrives as sent. -/
namespace ZeffBoy.GameBoy
open Library List

theorem lineBit_le {value bit : UInt8} (line : lineBit value = some bit) : bit.toNat ≤ 1 := by
  unfold lineBit at line
  split at line
  · cases line
    decide
  · cases line
    decide
  · cases line

theorem length_count_le (header : UInt8) : (header &&& 0x07).toNat ≤ 7 := by
  rw [UInt8.toNat_and]
  exact Nat.and_le_right

theorem needsMultiPacket_cases {command : UInt8} (gathered : needsMultiPacket command = true) :
    command = 0x04 ∨ command = 0x05 ∨ command = 0x07 := by
  simpa [needsMultiPacket,or_assoc] using gathered

theorem toNat_received (current bit : UInt8) (count : Nat) (narrow : count < 8) (below : current.toNat < 2^count)
    (small : bit.toNat ≤ 1) :
    (current ||| bit <<< UInt8.ofNat count).toNat = current.toNat + bit.toNat * 2^count := by
  have amount : (UInt8.ofNat count).toNat % 8 = count := by
    rw [UInt8.toNat_ofNat']
    omega
  have room : 2^count ≤ 2^7 := Nat.pow_le_pow_right (by decide) (by omega)
  have product : bit.toNat * 2^count ≤ 2^count := (Nat.mul_le_mul_right (2^count) small).trans_eq (one_mul _)
  have shifted : (bit <<< UInt8.ofNat count).toNat = bit.toNat <<< count := by
    rw [UInt8.toNat_shiftLeft,amount,Nat.shiftLeft_eq]
    omega
  rw [UInt8.toNat_or,shifted,Nat.or_comm,← Nat.shiftLeft_add_eq_or_of_lt below,Nat.shiftLeft_eq,add_comm]

namespace SgbState

/-- The packets of a command that are gathered so far, and those to come, are as many as its first packet says. -/
def Gathers (self : SgbState) : Prop :=
  self.multiPacketData = [] ∧ self.multiPacketCommand = 0 ∨
    ∃ header rest, self.multiPacketData = header::rest ∧ needsMultiPacket self.multiPacketCommand = true ∧
      self.multiPacketData.length % 16 = 0 ∧ 0 < self.packetsRemaining ∧ header >>> 3 = self.multiPacketCommand ∧
      (header &&& 0x07).toNat = self.multiPacketData.length / 16 + self.packetsRemaining

theorem packet_cons (packet : Packet) : ∃ rest, packet.toList = packet.toList.getD 0 0::rest := by
  obtain ⟨bytes,length⟩ := packet
  cases bytes with
  | nil => cases length
  | cons first rest => exact ⟨rest,rfl⟩

structure Sound (state : SgbState) : Prop where
  bitCount : state.bitCount ≤ 7
  packetPos : state.packetPos ≤ 16
  collecting : state.collecting = true → state.packetPos < 16
  settled : state.collecting = false → state.bitCount = 0 ∧ state.currentByte = 0
  currentByte : state.currentByte.toNat < 2^state.bitCount
  packetsRemaining : state.packetsRemaining ≤ 6
  gathers : state.Gathers

namespace Sound
variable {self : SgbState}

theorem initial : Sound new :=
  ⟨by decide,by decide,by simp [new],fun _ => ⟨rfl,rfl⟩,by decide,by decide,.inl ⟨rfl,rfl⟩⟩

theorem idle_data (sound : Sound self) (idle : self.packetsRemaining = 0) : self.multiPacketData = [] := by
  obtain ⟨empty,_⟩ | ⟨_,_,_,_,_,waiting,_⟩ := sound.gathers
  · exact empty
  · exact absurd waiting (by omega)

theorem dispatchPacket (sound : Sound self) : Sound self.dispatchPacket.2 := by
  have few := sound.packetsRemaining
  obtain ⟨empty,uncommanded⟩ | ⟨header,rest,data,needed,whole,waiting,command,count⟩ := sound.gathers
  · have single : ¬(0 < self.packetsRemaining ∧ self.multiPacketData ≠ []) := fun both => both.2 empty
    have bounded := length_count_le (self.packet.toList.getD 0 0)
    rw [SgbState.dispatchPacket,if_neg single]
    dsimp only
    generalize counted : (if self.packet.toList.getD 0 0 &&& 0x07 = 0 then 1
      else (self.packet.toList.getD 0 0 &&& 0x07).toNat) = packetCount
    have count : packetCount ≤ 7 ∧ (1 < packetCount → (self.packet.toList.getD 0 0 &&& 0x07).toNat = packetCount) := by
      rw [← counted]
      split <;> omega
    obtain ⟨most,exactly⟩ := count
    split
    · exact ⟨sound.bitCount,sound.packetPos,sound.collecting,sound.settled,sound.currentByte,(Nat.sub_le _ _).trans few,
        .inl ⟨empty,uncommanded⟩⟩
    split
    · rename_i several
      obtain ⟨many,needed⟩ := several
      have counts := exactly many
      obtain ⟨rest,first⟩ := packet_cons self.packet
      have width : self.packet.toList.length = 16 := self.packet.toList_length
      refine ⟨sound.bitCount,sound.packetPos,sound.collecting,sound.settled,sound.currentByte,?_,
        .inr ⟨_,rest,first,needed,?_,?_,rfl,?_⟩⟩
      · dsimp only
        omega
      · dsimp only
        rw [width]
      · dsimp only
        omega
      · dsimp only
        omega
    split
    · refine ⟨sound.bitCount,sound.packetPos,sound.collecting,sound.settled,sound.currentByte,?_,.inl ⟨empty,uncommanded⟩⟩
      dsimp only
      omega
    · exact sound
  · have ongoing : 0 < self.packetsRemaining ∧ self.multiPacketData ≠ [] := ⟨waiting,by rw [data]; exact cons_ne_nil _ _⟩
    rw [SgbState.dispatchPacket,if_pos ongoing]
    dsimp only
    split
    · exact ⟨sound.bitCount,sound.packetPos,sound.collecting,sound.settled,sound.currentByte,(Nat.sub_le _ _).trans few,
        .inl ⟨rfl,rfl⟩⟩
    · rename_i more
      have longer : (self.multiPacketData ++ self.packet.toList).length = self.multiPacketData.length + 16 := by simp
      have starts : self.multiPacketData ++ self.packet.toList = header::(rest ++ self.packet.toList) := by
        rw [data,cons_append]
      refine ⟨sound.bitCount,sound.packetPos,sound.collecting,sound.settled,sound.currentByte,(Nat.sub_le _ _).trans few,
        .inr ⟨header,_,starts,needed,?_,?_,command,?_⟩⟩
      · dsimp only
        omega
      · dsimp only
        omega
      · dsimp only
        omega

theorem onJoypWrite (sound : Sound self) (value : UInt8) : Sound (self.onJoypWrite value).2 := by
  unfold SgbState.onJoypWrite
  split
  · exact ⟨by simp [startPacket],by simp [startPacket],by simp [startPacket],by simp [startPacket],by simp [startPacket],
      sound.packetsRemaining,sound.gathers⟩
  split
  · exact sound
  rename_i open'
  have collecting : self.collecting = true := by simpa using open'
  have inside := sound.collecting collecting
  split
  · exact sound
  · rename_i bit line
    have narrow : self.bitCount < 8 := Nat.lt_succ_of_le sound.bitCount
    have received := toNat_received self.currentByte bit self.bitCount narrow sound.currentByte (lineBit_le line)
    have small := (Nat.mul_le_mul_right (2^self.bitCount) (lineBit_le line)).trans_eq (one_mul _)
    dsimp only [pushBit]
    by_cases full : self.bitCount + 1 = 8
    · rw [if_pos full,dif_pos inside]
      split
      · refine dispatchPacket ?_
        exact ⟨by simp,inside,by simp,fun _ => ⟨rfl,rfl⟩,by simp,sound.packetsRemaining,sound.gathers⟩
      · rename_i more
        exact ⟨by simp,inside,fun _ => by dsimp only at more ⊢; omega,by simp [collecting],by simp,
          sound.packetsRemaining,sound.gathers⟩
    · rw [if_neg full,if_neg (ne_of_lt inside)]
      refine ⟨by dsimp only; omega,sound.packetPos,fun _ => inside,by simp [collecting],?_,sound.packetsRemaining,
        sound.gathers⟩
      dsimp only
      rw [received,pow_succ]
      have below := sound.currentByte
      omega

theorem receive (sound : Sound self) (writes : List UInt8) : Sound (self.receive writes).2 := by
  induction writes generalizing self with
  | nil => exact sound
  | cons value writes ih => exact ih (sound.onJoypWrite value)

theorem length_multiPacketData (sound : Sound self) : self.multiPacketData.length ≤ multiPacketCapacity := by
  obtain ⟨empty,_⟩ | ⟨header,_,_,_,_,_,_,count⟩ := sound.gathers
  · rw [empty]
    exact Nat.zero_le _
  · have bounded := length_count_le header
    have capacity : multiPacketCapacity = 112 := rfl
    omega

theorem validateNativeContinuation (sound : Sound self) : self.validateNativeContinuation = .ok () := by
  have shifted : self.currentByte >>> UInt8.ofNat self.bitCount = 0 := by
    have amount : (UInt8.ofNat self.bitCount).toNat % 8 = self.bitCount := by
      have bound := sound.bitCount
      rw [UInt8.toNat_ofNat']
      omega
    apply UInt8.toNat_inj.mp
    rw [UInt8.toNat_shiftRight,amount,Nat.shiftRight_eq_div_pow,Nat.div_eq_of_lt sound.currentByte]
    rfl
  have settled : self.collecting = true ∨ self.bitCount = 0 ∧ self.currentByte = 0 := by
    cases collecting : self.collecting with
    | true => exact .inl rfl
    | false => exact .inr (sound.settled collecting)
  have opened : (!self.collecting) = true ∨ self.packetPos < 16 := by
    cases collecting : self.collecting with
    | true => exact .inr (sound.collecting collecting)
    | false => exact .inl rfl
  have multi : self.validateMultiPacket = .ok () := by
    obtain ⟨empty,uncommanded⟩ | ⟨header,rest,data,needed,whole,waiting,command,count⟩ := sound.gathers
    · simp [validateMultiPacket,empty,uncommanded,ensure]
    · have bounded := length_count_le header
      have total : max (header &&& 0x07).toNat 1 = self.multiPacketData.length / 16 + self.packetsRemaining := by omega
      have few : self.multiPacketData.length / 16 + self.packetsRemaining ≤ 7 := by omega
      rw [validateMultiPacket,data]
      rw [data] at whole total few
      simp only [ensure_pos needed,ensure_pos whole,ensure_pos waiting,ensure_pos few,ensure_pos (And.intro command total),
        ok_bind]
  simp only [SgbState.validateNativeContinuation,ensure_pos sound.bitCount,ensure_pos sound.packetPos,ensure_pos opened,
    ensure_pos settled,ensure_pos shifted,ensure_pos sound.packetsRemaining,multi,ok_bind]

theorem readers (sound : Sound self) (rest : Bytes) :
    ∃ loaded, readState 14 (self.writeState ++ rest) = .ok (loaded,rest) ∧
      ∀ rest, loaded.readNativeContinuation (self.writeNativeContinuation ++ rest) = .ok (self,rest) := by
  refine ⟨{self with multiPacketData := [], multiPacketCommand := 0},?_,?_⟩
  · have position : self.packetPos < 2^64 := sound.packetPos.trans_lt (by decide)
    have bits : (UInt8.ofNat self.bitCount).toNat = self.bitCount := by
      have bound := sound.bitCount
      rw [UInt8.toNat_ofNat']
      omega
    have remaining : (UInt8.ofNat self.packetsRemaining).toNat = self.packetsRemaining := by
      have bound := sound.packetsRemaining
      rw [UInt8.toNat_ofNat']
      omega
    have last : ∀ byte rest, readPacketsRemaining 14 (byte::rest) = .ok (byte,rest) := fun _ _ => rfl
    simp only [readState,writeState,cons_append,append_assoc,nil_append,Reader.run_bind,
      StateReader.run_readBool,StateReader.run_readU8,StateReader.run_readExact,StateReader.run_readU64 _ position,ok_bind,
      last,Reader.run_pure,bits,remaining]
    rfl
  · intro rest
    have fits := sound.length_multiPacketData
    have capacity : multiPacketCapacity = 112 := rfl
    have length : (UInt8.ofNat self.multiPacketData.length).toNat = self.multiPacketData.length := by
      rw [UInt8.toNat_ofNat']
      omega
    let block : List.Vector UInt8 multiPacketCapacity :=
      ⟨self.multiPacketData ++ (List.replicate multiPacketCapacity 0).drop self.multiPacketData.length,by
        rw [length_append,length_drop,length_replicate]
        omega⟩
    have padded : block.toList.drop self.multiPacketData.length =
        (List.replicate multiPacketCapacity 0).drop self.multiPacketData.length := drop_left' rfl
    have kept : block.toList.take self.multiPacketData.length = self.multiPacketData := take_left' rfl
    have zeros : ∀ byte ∈ block.toList.drop self.multiPacketData.length, byte = 0 := by
      intro byte inside
      rw [padded] at inside
      exact eq_of_mem_replicate (mem_of_mem_drop inside)
    have read := StateReader.run_readExact multiPacketCapacity block rest
    have bytes : self.writeNativeContinuation ++ rest =
        self.multiPacketCommand::UInt8.ofNat self.multiPacketData.length::(block.toList ++ rest) := by
      simp [writeNativeContinuation,block]
    simp only [bytes,readNativeContinuation,Reader.run_bind,StateReader.run_readU8,ok_bind,read,length,Reader.run_lift,
      ensure_pos fits,ensure_pos zeros,map_ok,kept,sound.validateNativeContinuation,Reader.run_pure]

end Sound

end SgbState

def packetBit (packet : Packet) (index : Nat) : UInt8 :=
  packet.toList.getD (index / 8) 0 >>> UInt8.ofNat (index % 8) &&& 1

def packetBits (packet : Packet) : List UInt8 := (List.range 128).map (packetBit packet)

/-- Writes without a pulse that clock the bits over the lines, with any writes between them that are no bits. -/
def Spells (writes : List UInt8) (bits : List UInt8) : Prop :=
  (∀ value ∈ writes, resetPulse value = false) ∧ writes.filterMap lineBit = bits

-- A packet that is given up: a pulse and fewer bits than a packet has.
def Abandoned (writes : List UInt8) : Prop :=
  ∃ pulse body bits, writes = pulse::body ∧ resetPulse pulse = true ∧ Spells body bits ∧ bits.length < 128

/-- A packet on the lines: packets that are given up, the pulse, the bits of the packet, and writes up to the next pulse. -/
def Carries (writes : List UInt8) (packet : Packet) : Prop :=
  ∃ (given : List (List UInt8)) (pulse : UInt8) (body rest bits : List UInt8), writes = given.flatten ++ pulse::(body ++ rest) ∧ (∀ attempt ∈ given, Abandoned attempt) ∧
    resetPulse pulse = true ∧ Spells body (packetBits packet) ∧ Spells rest bits

/-- The event of a command: the packets of an attribute command together, for any other command its first packet alone. -/
def commandEvent (packets : List Packet) : Option SgbEvent :=
  match packets with
  | [] => none
  | first::_ =>
    let data := packets.flatMap List.Vector.toList
    match (first.toList.getD 0 0 >>> 3).toNat with
    | 0x04 => some (.attrBlk data)
    | 0x05 => some (.attrLin data)
    | 0x07 => some (.attrChr data)
    | _ => SgbState.parsePacket first

-- How many packets of a command are in when its event comes.
def packetsNeeded (first : Packet) : Nat :=
  let header := first.toList.getD 0 0
  if needsMultiPacket (header >>> 3) then (header &&& 0x07).toNat else 1

/-- A packet on the lines with nothing else: the pulse, then line P14 for a zero and line P15 for a one. -/
def transmit (packet : Packet) : List UInt8 :=
  0x00::(packetBits packet).map (fun bit => if bit = 0 then 0x20 else 0x10)

theorem toNat_packetBit (packet : Packet) (index : Nat) :
    (packetBit packet index).toNat = (packet.toList.getD (index / 8) 0).toNat / 2^(index % 8) % 2 := by
  have amount : (UInt8.ofNat (index % 8)).toNat % 8 = index % 8 := by
    rw [UInt8.toNat_ofNat']
    omega
  rw [packetBit,UInt8.toNat_and,UInt8.toNat_shiftRight,amount,Nat.shiftRight_eq_div_pow]
  exact Nat.and_one_is_mod _

theorem transmit_carries (packet : Packet) : Carries (transmit packet) packet := by
  have clocked : ∀ bits : List UInt8, (∀ bit ∈ bits, bit = 0 ∨ bit = 1) →
      Spells (bits.map (fun bit => if bit = 0 then 0x20 else 0x10)) bits := by
    intro bits binary
    induction bits with
    | nil => exact ⟨by simp,rfl⟩
    | cons bit bits ih =>
      obtain ⟨quiet,same⟩ := ih (fun other inside => binary other (mem_cons_of_mem bit inside))
      rw [map_cons]
      rcases binary bit mem_cons_self with rfl | rfl
      · exact ⟨by simpa using ⟨by decide,by simpa using quiet⟩,by
        rw [if_pos rfl,filterMap_cons_some (rfl : lineBit 0x20 = some 0),same]⟩
      · exact ⟨by simpa using ⟨by decide,by simpa using quiet⟩,by
        rw [if_neg (by decide),filterMap_cons_some (rfl : lineBit 0x10 = some 1),same]⟩
  refine ⟨[],0x00,_,[],[],by simp [transmit],by simp,rfl,clocked _ ?_,by simp,rfl⟩
  intro bit inside
  obtain ⟨index,_,rfl⟩ := mem_map.mp inside
  have value := toNat_packetBit packet index
  rcases Nat.mod_two_eq_zero_or_one ((packet.toList.getD (index / 8) 0).toNat / 2^(index % 8)) with zero | one
  · exact .inl (UInt8.toNat_inj.mp (value.trans zero))
  · exact .inr (UInt8.toNat_inj.mp (value.trans one))

theorem Spells.cons {value : UInt8} {writes bits : List UInt8} (spells : Spells (value::writes) bits) :
    resetPulse value = false ∧ ((lineBit value = none ∧ Spells writes bits) ∨
      ∃ bit rest, lineBit value = some bit ∧ bits = bit::rest ∧ Spells writes rest) := by
  obtain ⟨quiet,rfl⟩ := spells
  refine ⟨quiet value mem_cons_self,?_⟩
  have later : ∀ other ∈ writes, resetPulse other = false := fun other inside => quiet other (mem_cons_of_mem value inside)
  cases line : lineBit value with
  | none => exact .inl ⟨rfl,later,by rw [filterMap_cons_none line]⟩
  | some bit => exact .inr ⟨bit,_,rfl,filterMap_cons_some line,later,rfl⟩

namespace SgbState

theorem receive_append (self : SgbState) (first second : List UInt8) :
    self.receive (first ++ second) =
      ((self.receive first).1 ++ ((self.receive first).2.receive second).1,((self.receive first).2.receive second).2) := by
  induction first generalizing self with
  | nil => rfl
  | cons value first ih => simp only [cons_append,receive,ih,append_assoc]

/-- What a command under way is to the decoder, whatever became of the packet on the lines. -/
structure SameCommand (left right : SgbState) : Prop where
  packetsRemaining : left.packetsRemaining = right.packetsRemaining
  multiPacketData : left.multiPacketData = right.multiPacketData
  multiPacketCommand : left.multiPacketCommand = right.multiPacketCommand

theorem SameCommand.trans {left middle right : SgbState} (first : SameCommand left middle) (second : SameCommand middle right) :
    SameCommand left right :=
  ⟨first.packetsRemaining.trans second.packetsRemaining,first.multiPacketData.trans second.multiPacketData,
    first.multiPacketCommand.trans second.multiPacketCommand⟩

-- The decoder once the last bit of a packet is in.
def completed (self : SgbState) (packet : Packet) : SgbState :=
  {self with collecting := false, bitCount := 0, currentByte := 0, packet, packetPos := 16}

theorem SameCommand.completed {left right : SgbState} (same : SameCommand left right) (packet : Packet) :
    left.completed packet = right.completed packet := by
  obtain ⟨remaining,data,command⟩ := same
  cases left
  cases right
  simp only at remaining data command
  subst remaining data command
  rfl

theorem receive_unread (self : SgbState) (still : self.collecting = false) (writes bits : List UInt8) (spells : Spells writes bits) :
    self.receive writes = ([],self) := by
  induction writes generalizing bits with
  | nil => rfl
  | cons value writes ih =>
    obtain ⟨quiet,_⟩ := spells.cons
    have later : Spells writes (writes.filterMap lineBit) :=
      ⟨fun other inside => spells.1 other (mem_cons_of_mem value inside),rfl⟩
    have same : self.onJoypWrite value = (none,self) := by simp [onJoypWrite,quiet,still]
    simp only [receive,same,ih _ later,Option.toList_none,nil_append]

theorem receive_partial (self : SgbState) (collecting : self.collecting = true) (narrow : self.bitCount ≤ 7)
    (writes bits : List UInt8) (spells : Spells writes bits) (short : 8 * self.packetPos + self.bitCount + bits.length < 128) :
    (self.receive writes).1 = [] ∧ SameCommand (self.receive writes).2 self := by
  induction writes generalizing self bits with
  | nil => exact ⟨rfl,rfl,rfl,rfl⟩
  | cons value writes ih =>
    obtain ⟨quiet,⟨line,later⟩ | ⟨bit,rest,line,rfl,later⟩⟩ := spells.cons
    · have same : self.onJoypWrite value = (none,self) := by simp [onJoypWrite,quiet,collecting,line]
      simp only [receive,same,Option.toList_none,nil_append]
      exact ih self collecting narrow bits later short
    · rw [length_cons] at short
      have inside : self.packetPos < 16 := by omega
      have more : (self.pushBit bit).packetPos ≠ 16 ∧ (self.pushBit bit).bitCount ≤ 7 ∧
          8 * (self.pushBit bit).packetPos + (self.pushBit bit).bitCount = 8 * self.packetPos + self.bitCount + 1 ∧
          (self.pushBit bit).collecting = true ∧ SameCommand (self.pushBit bit) self := by
        rw [pushBit,dif_pos inside]
        split
        · exact ⟨by dsimp only; omega,by simp,by dsimp only; omega,collecting,rfl,rfl,rfl⟩
        · exact ⟨by dsimp only; omega,by dsimp only; omega,by dsimp only; omega,collecting,rfl,rfl,rfl⟩
      obtain ⟨unfinished,few,progress,still,same⟩ := more
      have stepped : self.onJoypWrite value = (none,self.pushBit bit) := by
        simp [onJoypWrite,quiet,collecting,line,unfinished]
      obtain ⟨silent,kept⟩ := ih (self.pushBit bit) still few rest later (by omega)
      simp only [receive,stepped,Option.toList_none,nil_append]
      exact ⟨silent,kept.trans same⟩

theorem receive_abandoned (self : SgbState) (writes : List UInt8) (abandoned : Abandoned writes) :
    (self.receive writes).1 = [] ∧ SameCommand (self.receive writes).2 self := by
  obtain ⟨pulse,body,bits,rfl,reset,spells,short⟩ := abandoned
  have started : self.onJoypWrite pulse = (none,self.startPacket) := if_pos reset
  obtain ⟨silent,same⟩ := self.startPacket.receive_partial rfl (Nat.zero_le 7) body bits spells (by simpa [startPacket] using short)
  simp only [receive,started,Option.toList_none,nil_append]
  exact ⟨silent,same.trans ⟨rfl,rfl,rfl⟩⟩

theorem receive_given (self : SgbState) (given : List (List UInt8)) (abandoned : ∀ attempt ∈ given, Abandoned attempt) :
    (self.receive given.flatten).1 = [] ∧ SameCommand (self.receive given.flatten).2 self := by
  induction given generalizing self with
  | nil => exact ⟨rfl,rfl,rfl,rfl⟩
  | cons attempt given ih =>
    obtain ⟨silent,same⟩ := self.receive_abandoned attempt (abandoned attempt mem_cons_self)
    obtain ⟨later,kept⟩ := ih (self.receive attempt).2 (fun other inside => abandoned other (mem_cons_of_mem attempt inside))
    rw [flatten_cons,receive_append,silent,later]
    exact ⟨rfl,kept.trans same⟩

/-- The first bits of a packet are in: whole bytes in their places, the rest in the partial byte. -/
structure Holds (state : SgbState) (packet : Packet) (count : Nat) : Prop where
  collecting : state.collecting = true
  packetPos : state.packetPos = count / 8
  bitCount : state.bitCount = count % 8
  currentByte : state.currentByte.toNat = (packet.toList.getD (count / 8) 0).toNat % 2^(count % 8)
  bytes : ∀ index : Fin 16, index.val < count / 8 → state.packet.get index = packet.get index

theorem startPacket_holds (self : SgbState) (packet : Packet) : Holds self.startPacket packet 0 :=
  ⟨rfl,rfl,rfl,by simp [startPacket,Nat.mod_one],fun index inside => absurd inside (Nat.not_lt_zero _)⟩

theorem Holds.pushBit {self : SgbState} {packet : Packet} {count : Nat} (holds : Holds self packet count) (inside : count < 128) :
    (count + 1 < 128 → Holds (self.pushBit (packetBit packet count)) packet (count + 1) ∧
      SameCommand (self.pushBit (packetBit packet count)) self ∧ (self.pushBit (packetBit packet count)).packetPos ≠ 16) ∧
    (count + 1 = 128 → {self.pushBit (packetBit packet count) with collecting := false} = self.completed packet ∧
      (self.pushBit (packetBit packet count)).packetPos = 16) := by
  have narrow : count % 8 < 8 := Nat.mod_lt _ (by decide)
  have place : count / 8 < 16 := by omega
  have bit := toNat_packetBit packet count
  have small : (packetBit packet count).toNat ≤ 1 := by omega
  have below : self.currentByte.toNat < 2^(count % 8) := by
    rw [holds.currentByte]
    exact Nat.mod_lt _ (Nat.two_pow_pos _)
  have received := toNat_received self.currentByte (packetBit packet count) (count % 8) narrow below small
  have grown : (self.currentByte ||| packetBit packet count <<< UInt8.ofNat (count % 8)).toNat =
      (packet.toList.getD (count / 8) 0).toNat % 2^(count % 8 + 1) := by
    rw [received,holds.currentByte,bit,Nat.mod_pow_succ,mul_comm]
  have position : self.packetPos < 16 := by rw [holds.packetPos]; exact place
  by_cases full : count % 8 + 1 = 8
  · have whole : self.currentByte ||| packetBit packet count <<< UInt8.ofNat (count % 8) = packet.get ⟨count / 8,place⟩ := by
      have low := UInt8.toNat_lt (packet.toList.getD (count / 8) 0)
      apply UInt8.toNat_inj.mp
      rw [grown,full,Nat.mod_eq_of_lt low]
      simp [List.Vector.get_eq_get_toList,place]
    have pushed : self.pushBit (packetBit packet count) = {self with
        packet := self.packet.set ⟨self.packetPos,position⟩ (packet.get ⟨count / 8,place⟩)
        packetPos := self.packetPos + 1
        bitCount := 0
        currentByte := 0} := by
      rw [SgbState.pushBit,holds.bitCount,if_pos full,dif_pos position,whole]
    have bytes : ∀ index : Fin 16, index.val < count / 8 + 1 →
        (self.packet.set ⟨self.packetPos,position⟩ (packet.get ⟨count / 8,place⟩)).get index = packet.get index := by
      intro index before
      rcases Nat.lt_succ_iff_lt_or_eq.mp before with earlier | last
      · rw [List.Vector.get_set_of_ne]
        · exact holds.bytes index earlier
        · intro same
          have equal : self.packetPos = index.val := congrArg Fin.val same
          rw [holds.packetPos] at equal
          omega
      · have same : index = ⟨self.packetPos,position⟩ := Fin.ext (last.trans holds.packetPos.symm)
        have here : index = ⟨count / 8,place⟩ := Fin.ext last
        rw [← same,List.Vector.get_set_same,here]
    rw [pushed]
    constructor
    · intro more
      refine ⟨⟨holds.collecting,?_,?_,?_,?_⟩,⟨rfl,rfl,rfl⟩,?_⟩
      · dsimp only
        rw [holds.packetPos]
        omega
      · dsimp only
        omega
      · have next : (count + 1) % 8 = 0 := by omega
        rw [next]
        simp [Nat.mod_one]
      · intro index before
        exact bytes index (by omega)
      · dsimp only
        rw [holds.packetPos]
        omega
    · intro last
      have end' : self.packetPos + 1 = 16 := by rw [holds.packetPos]; omega
      have complete : self.packet.set ⟨self.packetPos,position⟩ (packet.get ⟨count / 8,place⟩) = packet := by
        apply List.Vector.ext
        intro index
        exact bytes index (by omega)
      refine ⟨?_,end'⟩
      simp only [completed,complete,end']
  · have pushed : self.pushBit (packetBit packet count) = {self with
        bitCount := self.bitCount + 1
        currentByte := self.currentByte ||| packetBit packet count <<< UInt8.ofNat (count % 8)} := by
      rw [SgbState.pushBit,holds.bitCount,if_neg full]
    have samePlace : (count + 1) / 8 = count / 8 := by omega
    have nextBit : (count + 1) % 8 = count % 8 + 1 := by omega
    rw [pushed]
    constructor
    · intro _
      refine ⟨⟨holds.collecting,?_,?_,?_,?_⟩,⟨rfl,rfl,rfl⟩,?_⟩
      · rw [samePlace]
        exact holds.packetPos
      · dsimp only
        rw [holds.bitCount,nextBit]
      · rw [samePlace,nextBit]
        exact grown
      · rw [samePlace]
        exact holds.bytes
      · dsimp only
        omega
    · intro last
      omega

theorem Holds.receive {self : SgbState} {packet : Packet} {count : Nat} (holds : Holds self packet count) (inside : count < 128)
    (writes : List UInt8) (spells : Spells writes ((List.range' count (128 - count)).map (packetBit packet))) :
    ∃ rest bits, Spells rest bits ∧ self.receive writes =
      ((self.completed packet).dispatchPacket.1.toList ++ ((self.completed packet).dispatchPacket.2.receive rest).1,
        ((self.completed packet).dispatchPacket.2.receive rest).2) := by
  induction writes generalizing self count with
  | nil =>
    have empty := spells.2
    have positive : 128 - count = (127 - count) + 1 := by omega
    rw [positive] at empty
    cases empty
  | cons value writes ih =>
    have positive : 128 - count = (127 - count) + 1 := by omega
    rw [positive,List.range'_succ,map_cons] at spells
    obtain ⟨quiet,⟨line,later⟩ | ⟨bit,rest,line,bits,later⟩⟩ := spells.cons
    · have same : self.onJoypWrite value = (none,self) := by simp [onJoypWrite,quiet,holds.collecting,line]
      rw [← map_cons,← List.range'_succ,← positive] at later
      simp only [SgbState.receive,same,Option.toList_none,nil_append]
      exact ih holds inside later
    · obtain ⟨rfl,rfl⟩ := List.cons.inj bits
      obtain ⟨more,last⟩ := holds.pushBit inside
      rcases lt_or_ge (count + 1) 128 with further | final
      · obtain ⟨next,same,unfinished⟩ := more further
        have stepped : self.onJoypWrite value = (none,self.pushBit (packetBit packet count)) := by
          simp [onJoypWrite,quiet,holds.collecting,line,unfinished]
        have left : 127 - count = 128 - (count + 1) := by omega
        rw [left] at later
        obtain ⟨rest,bits,spelled,received⟩ := ih next further later
        refine ⟨rest,bits,spelled,?_⟩
        rw [same.completed packet] at received
        simp only [SgbState.receive,stepped,Option.toList_none,nil_append,received]
      · obtain ⟨complete,finished⟩ := last (by omega)
        have stepped : self.onJoypWrite value = (self.completed packet).dispatchPacket := by
          rw [← complete]
          simp [onJoypWrite,quiet,holds.collecting,line,finished]
        refine ⟨writes,_,later,?_⟩
        simp only [SgbState.receive,stepped]

theorem dispatchPacket_collecting (self : SgbState) : self.dispatchPacket.2.collecting = self.collecting := by
  unfold dispatchPacket
  dsimp only
  generalize (if self.packet.toList.getD 0 0 &&& 0x07 = 0 then 1
    else (self.packet.toList.getD 0 0 &&& 0x07).toNat) = packetCount
  split
  · split <;> rfl
  split
  · rfl
  split
  · rfl
  split <;> rfl

theorem receive_carries (self : SgbState) (writes : List UInt8) (packet : Packet) (carries : Carries writes packet) :
    self.receive writes = ((self.completed packet).dispatchPacket.1.toList,(self.completed packet).dispatchPacket.2) := by
  obtain ⟨given,pulse,body,rest,bits,rfl,abandoned,reset,spells,trailing⟩ := carries
  obtain ⟨silent,same⟩ := self.receive_given given abandoned
  have started : (self.receive given.flatten).2.onJoypWrite pulse = (none,(self.receive given.flatten).2.startPacket) :=
    if_pos reset
  have holds := (self.receive given.flatten).2.startPacket_holds packet
  have range : (List.range' 0 (128 - 0)).map (packetBit packet) = packetBits packet := by
    rw [packetBits,range_eq_range']
  obtain ⟨others,otherBits,unread,received⟩ := holds.receive (by decide) body (range ▸ spells)
  have pulsed : SameCommand (self.receive given.flatten).2.startPacket (self.receive given.flatten).2 := ⟨rfl,rfl,rfl⟩
  have restarted := pulsed.trans same
  rw [restarted.completed packet] at received
  have still : (self.completed packet).dispatchPacket.2.collecting = false := dispatchPacket_collecting _
  rw [receive_unread _ still others otherBits unread] at received
  rw [receive_append,silent,nil_append]
  simp only [receive,started,Option.toList_none,nil_append,receive_append,received]
  rw [receive_unread _ still rest bits trailing]
  simp

theorem receive_flatten (self : SgbState) (first : List UInt8) (sent : List (List UInt8)) (packet : Packet)
    (carries : Carries first packet) :
    self.receive (first::sent).flatten =
      ((self.completed packet).dispatchPacket.1.toList ++
          ((self.completed packet).dispatchPacket.2.receive sent.flatten).1,
        ((self.completed packet).dispatchPacket.2.receive sent.flatten).2) := by
  rw [flatten_cons,receive_append,self.receive_carries first packet carries]

theorem receive_gathered (self : SgbState) (sent : List (List UInt8)) (packets : List Packet)
    (carried : List.Forall₂ Carries sent packets) (started : self.multiPacketData ≠ []) (waiting : 0 < self.packetsRemaining)
    (few : packets.length ≤ self.packetsRemaining) :
    (self.receive sent.flatten).1 = (if packets.length = self.packetsRemaining then
        {self with multiPacketData := self.multiPacketData ++ packets.flatMap List.Vector.toList}.parseMultiPacket.toList
      else []) ∧
      (self.receive sent.flatten).2.packetsRemaining = self.packetsRemaining - packets.length := by
  induction carried generalizing self with
  | nil => exact ⟨(if_neg (ne_of_lt waiting)).symm,rfl⟩
  | @cons first packet sent packets carries carried ih =>
    rw [length_cons] at few ⊢
    have ongoing : 0 < (self.completed packet).packetsRemaining ∧ (self.completed packet).multiPacketData ≠ [] :=
      ⟨waiting,started⟩
    have left : (self.completed packet).packetsRemaining = self.packetsRemaining := rfl
    rw [self.receive_flatten first sent packet carries,dispatchPacket,if_pos ongoing]
    dsimp only
    rw [left]
    by_cases last : self.packetsRemaining - 1 = 0
    · obtain rfl := eq_nil_of_length_eq_zero (show packets.length = 0 by omega)
      cases carried
      rw [if_pos last,length_nil,if_pos (by omega)]
      simp [receive,completed,parseMultiPacket]
    · rw [if_neg last]
      obtain ⟨event,finished⟩ := ih {self.completed packet with
        multiPacketData := (self.completed packet).multiPacketData ++ (self.completed packet).packet.toList
        packetsRemaining := self.packetsRemaining - 1} (by simp [completed,started]) (pos_of_ne_zero last)
        (by dsimp only; omega)
      refine ⟨?_,by simp only [finished]; omega⟩
      have same : packets.length = self.packetsRemaining - 1 ↔ packets.length + 1 = self.packetsRemaining := by omega
      simp only [event,Option.toList_none,nil_append,same]
      simp only [parseMultiPacket,completed,flatMap_cons,append_assoc]

theorem receive_passed (self : SgbState) (sent : List (List UInt8)) (packets : List Packet)
    (carried : List.Forall₂ Carries sent packets) (empty : self.multiPacketData = [])
    (few : packets.length ≤ self.packetsRemaining) :
    (self.receive sent.flatten).1 = [] ∧
      (self.receive sent.flatten).2.packetsRemaining = self.packetsRemaining - packets.length := by
  induction carried generalizing self with
  | nil => exact ⟨rfl,rfl⟩
  | @cons first packet sent packets carries carried ih =>
    rw [length_cons] at few ⊢
    have single : ¬(0 < (self.completed packet).packetsRemaining ∧ (self.completed packet).multiPacketData ≠ []) :=
      fun both => both.2 empty
    have waiting : 0 < (self.completed packet).packetsRemaining := by
      simp only [completed]
      omega
    rw [self.receive_flatten first sent packet carries,dispatchPacket,if_neg single,if_pos waiting]
    obtain ⟨silent,left⟩ := ih {self.completed packet with packetsRemaining := (self.completed packet).packetsRemaining - 1}
      empty (by simp only [completed]; omega)
    refine ⟨silent,left.trans ?_⟩
    simp only [completed]
    omega

end SgbState

theorem commandEvent_singleton (packet : Packet) : commandEvent [packet] = SgbState.parsePacket packet := by
  simp only [commandEvent,flatMap_cons,flatMap_nil,append_nil]
  split <;> simp_all [SgbState.parsePacket]

theorem commandEvent_gathered (state : SgbState) (first : Packet) (later : List Packet)
    (needed : needsMultiPacket (first.toList.getD 0 0 >>> 3) = true) :
    {state with
      multiPacketCommand := first.toList.getD 0 0 >>> 3
      multiPacketData := first.toList ++ later.flatMap List.Vector.toList}.parseMultiPacket = commandEvent (first::later) := by
  rcases needsMultiPacket_cases needed with command | command | command
  all_goals
    simp only [SgbState.parseMultiPacket,commandEvent,command,flatMap_cons]
    rfl

theorem commandEvent_passed (first : Packet) (later : List Packet)
    (single : needsMultiPacket (first.toList.getD 0 0 >>> 3) = false) :
    commandEvent (first::later) = SgbState.parsePacket first := by
  have other : first.toList.getD 0 0 >>> 3 ≠ 0x04 ∧ first.toList.getD 0 0 >>> 3 ≠ 0x05 ∧
      first.toList.getD 0 0 >>> 3 ≠ 0x07 := by
    simpa [needsMultiPacket,and_assoc] using single
  obtain ⟨block,line,character⟩ := other
  rw [commandEvent]
  split
  · rename_i command
    exact absurd (UInt8.toNat_inj.mp command) block
  · rename_i command
    exact absurd (UInt8.toNat_inj.mp command) line
  · rename_i command
    exact absurd (UInt8.toNat_inj.mp command) character
  · rfl

namespace SgbState

theorem Sound.receive_packets {self : SgbState} (sound : Sound self) (idle : self.packetsRemaining = 0)
    (sent : List (List UInt8)) (first : Packet) (later : List Packet) (carried : List.Forall₂ Carries sent (first::later))
    {total : Nat} (count : (first.toList.getD 0 0 &&& 0x07).toNat = total + 1) (few : later.length ≤ total) :
    (self.receive sent.flatten).1 =
        (if packetsNeeded first ≤ later.length + 1 then (commandEvent (first::later)).toList else []) ∧
      (self.receive sent.flatten).2.packetsRemaining = total - later.length := by
  obtain _ | @⟨start,_,sent,_,carries,carried⟩ := carried
  have empty := sound.idle_data idle
  have single : ¬(0 < (self.completed first).packetsRemaining ∧ (self.completed first).multiPacketData ≠ []) :=
    fun both => both.2 empty
  have finished : ¬0 < (self.completed first).packetsRemaining := by
    simp only [completed]
    omega
  have counted : ¬first.toList.getD 0 0 &&& 0x07 = 0 := by
    intro zero
    rw [zero] at count
    exact absurd count (by simp)
  rw [self.receive_flatten start sent first carries,SgbState.dispatchPacket,if_neg single,if_neg finished]
  dsimp only [completed]
  rw [if_neg counted,count,packetsNeeded,count]
  rcases Nat.eq_zero_or_pos total with rfl | more
  · obtain rfl := eq_nil_of_length_eq_zero (Nat.le_zero.mp few)
    cases carried
    simp [SgbState.receive,commandEvent_singleton,idle]
  have several : 1 < total + 1 := Nat.succ_lt_succ more
  cases needed : needsMultiPacket (first.toList.getD 0 0 >>> 3) with
  | true =>
    rw [if_pos ⟨several,rfl⟩,if_pos rfl]
    have started : first.toList ≠ [] := by
      obtain ⟨rest,starts⟩ := packet_cons first
      rw [starts]
      exact cons_ne_nil _ rest
    obtain ⟨event,ended⟩ := receive_gathered {self.completed first with
      multiPacketCommand := first.toList.getD 0 0 >>> 3
      multiPacketData := first.toList
      packetsRemaining := total} sent later carried started more few
    refine ⟨?_,ended⟩
    have whole : later.length = total ↔ total + 1 ≤ later.length + 1 := by omega
    rw [← commandEvent_gathered (self.completed first) first later needed]
    simp only [whole] at event
    exact event
  | false =>
    rw [if_neg (by simp),if_pos several]
    obtain ⟨silent,ended⟩ := receive_passed {self.completed first with packetsRemaining := total} sent later carried empty few
    refine ⟨?_,ended⟩
    have one : (if false = true then total + 1 else 1) ≤ later.length + 1 := by simp
    rw [if_pos one,commandEvent_passed first later needed]
    exact (congrArg _ silent).trans (append_nil _)

theorem packetsNeeded_pos {first : Packet} {total : Nat} (count : (first.toList.getD 0 0 &&& 0x07).toNat = total + 1) :
    0 < packetsNeeded first := by
  unfold packetsNeeded
  dsimp only
  split <;> omega

theorem commandEvent_take {first : Packet} (later : List Packet) {taken : Nat}
    (count : (first.toList.getD 0 0 &&& 0x07).toNat = later.length + 1) (enough : packetsNeeded first ≤ taken + 1) :
    commandEvent (first::later.take taken) = commandEvent (first::later) := by
  unfold packetsNeeded at enough
  dsimp only at enough
  split at enough
  · rw [take_of_length_le (by omega)]
  · rename_i passed
    have passed := Bool.eq_false_iff.mpr passed
    rw [commandEvent_passed first _ passed,commandEvent_passed first _ passed]

theorem Sound.receive_command {self : SgbState} (sound : Sound self) (idle : self.packetsRemaining = 0)
    (sent : List (List UInt8)) (first : Packet) (later : List Packet) (carried : List.Forall₂ Carries sent (first::later))
    (count : (first.toList.getD 0 0 &&& 0x07).toNat = later.length + 1) (taken : Nat) :
    (self.receive (sent.take taken).flatten).1 =
      if packetsNeeded first ≤ taken then (commandEvent (first::later)).toList else [] := by
  cases taken with
  | zero => exact (if_neg (Nat.not_le_of_gt (packetsNeeded_pos count))).symm
  | succ taken =>
    obtain ⟨events,_⟩ := sound.receive_packets idle _ first (later.take taken) (forall₂_take (taken + 1) carried) count
      (length_take_le' _ _)
    have most : packetsNeeded first ≤ later.length + 1 := by
      unfold packetsNeeded
      dsimp only
      split <;> omega
    have whole : packetsNeeded first ≤ (later.take taken).length + 1 ↔ packetsNeeded first ≤ taken + 1 := by
      rw [length_take]
      omega
    rw [events]
    simp only [whole]
    split
    · rename_i enough
      rw [commandEvent_take later count enough]
    · rfl

/-- Between any two writes the state survives the loader, and a command that is clocked in whole arrives as sent,
when the packets that it needs are in and not again. -/
theorem receive_exact (before : List UInt8) :
    (∀ rest continuation : Bytes, ∃ loaded restored,
      readState 14 ((new.receive before).2.writeState ++ rest) = .ok (loaded,rest) ∧
      loaded.readNativeContinuation ((new.receive before).2.writeNativeContinuation ++ continuation) =
        .ok (restored,continuation) ∧
      ∀ later, restored.receive later = (new.receive before).2.receive later) ∧
    ((new.receive before).2.packetsRemaining = 0 → ∀ (sent : List (List UInt8)) (first : Packet) (later : List Packet),
      List.Forall₂ Carries sent (first::later) → (first.toList.getD 0 0 &&& 0x07).toNat = later.length + 1 →
      (∀ taken, ((new.receive before).2.receive (sent.take taken).flatten).1 =
          if packetsNeeded first ≤ taken then (commandEvent (first::later)).toList else []) ∧
        ((new.receive before).2.receive sent.flatten).2.packetsRemaining = 0) := by
  have sound := Sound.initial.receive before
  constructor
  · intro rest continuation
    obtain ⟨loaded,read,continued⟩ := sound.readers rest
    exact ⟨loaded,_,read,continued continuation,fun _ => rfl⟩
  · intro idle sent first later carried count
    obtain ⟨_,ended⟩ := sound.receive_packets idle sent first later carried count le_rfl
    exact ⟨sound.receive_command idle sent first later carried count,ended.trans (Nat.sub_self _)⟩

-- A decoder that left a packet halfway receives two packets of an attribute command.
theorem receive_exact_attrBlk : let sent := [transmit (0x22::ᵥ.replicate 15 3),transmit (.replicate 16 5)]
    ((new.receive [0x00,0x10,0x20]).2.receive (sent.take 1).flatten).1 = [] ∧
      ((new.receive [0x00,0x10,0x20]).2.receive (sent.take 2).flatten).1 =
        [.attrBlk (0x22::(List.replicate 15 3 ++ List.replicate 16 5))] := by
  obtain ⟨events,_⟩ := (receive_exact [0x00,0x10,0x20]).2 rfl _ _ _
    (.cons (transmit_carries (0x22::ᵥ.replicate 15 3)) (.cons (transmit_carries (.replicate 16 5)) .nil)) rfl
  exact ⟨events 1,events 2⟩

/-- A command of one packet whose number the decoder passes over, which yields no event. -/
theorem receive_silent :
    ¬∀ (sent : List (List UInt8)) (first : Packet) (later : List Packet),
      List.Forall₂ Carries sent (first::later) → (first.toList.getD 0 0 &&& 0x07).toNat = later.length + 1 →
      (new.receive sent.flatten).1.length = 1 := by
  intro always
  let packet : Packet := 0x79::ᵥ.replicate 15 0
  have carried : List.Forall₂ Carries [transmit packet] [packet] := .cons (transmit_carries packet) .nil
  have single : (packet.toList.getD 0 0 &&& 0x07).toNat = 1 := by decide
  have event := Sound.initial.receive_command rfl [transmit packet] packet [] carried single 1
  have one := always [transmit packet] packet [] carried single
  rw [show [transmit packet].flatten = ([transmit packet].take 1).flatten from rfl,event] at one
  exact absurd one (by decide)

end SgbState
end ZeffBoy.GameBoy
