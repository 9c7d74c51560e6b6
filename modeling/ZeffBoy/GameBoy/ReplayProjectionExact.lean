import ZeffBoy.GameBoy.ReplayProjectionAtomic

/-! The projection of the save state of an emulator.
The file is a chain of blocks behind the native payload; without the two blocks that are cut it is the file
that the older format has for the same state. -/
namespace ZeffBoy.GameBoy
open Library Link.GameBoy List

structure FileBlock where
  id : Bytes
  data : Bytes
  idLength : id.length = 4
  dataFits : data.length < 2^32

namespace FileBlock

def bytes (block : FileBlock) : Bytes := writeBlockHeader block.id block.data.length ++ block.data

theorem length_bytes (block : FileBlock) : block.bytes.length = 8 + block.data.length := by
  simp only [bytes,writeBlockHeader,length_append,block.idLength,writeU32,length_leBytes]

end FileBlock

def chainBytes (blocks : List FileBlock) : Bytes := blocks.flatMap FileBlock.bytes

theorem chainBytes_cons (block : FileBlock) (blocks : List FileBlock) :
    chainBytes (block::blocks) = block.bytes ++ chainBytes blocks := flatMap_cons

theorem readBlock_front (front rest : Bytes) (block : FileBlock) (footerStart : Nat)
    (inside : front.length + block.bytes.length ≤ footerStart) (small : footerStart < 2^64) :
    readBlock (front ++ (block.bytes ++ rest)) front.length footerStart =
      .ok ⟨block.id,front.length + 8,block.data.length,front.length + 8 + block.data.length⟩ := by
  have length := block.length_bytes
  have total : (front ++ (block.bytes ++ rest)).length = front.length + (block.bytes.length + rest.length) := by simp
  have layout : front ++ (block.bytes ++ rest) =
      front ++ (block.id ++ (writeU32 block.data.length ++ (block.data ++ rest))) := by
    simp [FileBlock.bytes,writeBlockHeader]
  have layout' : front ++ (block.bytes ++ rest) =
      (front ++ block.id) ++ (writeU32 block.data.length ++ (block.data ++ rest)) := by
    rw [layout,append_assoc]
  have four : (writeU32 block.data.length).length = 4 := length_leBytes 4 _
  have id : index (front ++ (block.bytes ++ rest)) front.length (front.length + 4) = .ok block.id := by
    rw [index_of_le (by omega) (by omega),layout,slice_at front block.id _ _ _ rfl (by rw [block.idLength])]
  have len : readU32Le (front ++ (block.bytes ++ rest)) (front.length + 4) = .ok block.data.length := by
    rw [readU32Le_of_le (by omega),layout',
      slice_at _ (writeU32 block.data.length) _ _ _ (by rw [length_append,block.idLength]) (by omega),
      writeU32,leValue_leBytes 4 _ (by have fits := block.dataFits; omega)]
  simp only [readBlock,checkedAdd_pos (show front.length + 8 < 2^64 by omega),bailing,Except.mapError,ok_bind,
    ensure_pos (show front.length + 8 ≤ footerStart by omega),id,len,
    checkedAdd_pos (show front.length + 8 + block.data.length < 2^64 by omega),
    ensure_pos (show front.length + 8 + block.data.length ≤ footerStart by omega)]
  rfl

theorem findCore_chain (front rest : Bytes) (blocks : List FileBlock) (footerStart : Nat)
    (others : ∀ block ∈ blocks, block.id ≠ blockCore) (inside : front.length + (chainBytes blocks).length ≤ footerStart)
    (small : footerStart < 2^64) :
    findCore (front ++ (chainBytes blocks ++ rest)) front.length footerStart =
      findCore (front ++ (chainBytes blocks ++ rest)) (front.length + (chainBytes blocks).length) footerStart := by
  induction blocks generalizing front with
  | nil => simp [chainBytes]
  | cons block blocks ih =>
    obtain ⟨other,others⟩ := forall_mem_cons.mp others
    have length := block.length_bytes
    rw [chainBytes_cons,length_append] at inside ⊢
    rw [append_assoc]
    have read := readBlock_front front (chainBytes blocks ++ rest) block footerStart (by omega) small
    have next := ih (front ++ block.bytes) others (by rw [length_append]; omega)
    rw [append_assoc,length_append] at next
    rw [findCore_block (by omega) read,if_neg other]
    have place : front.length + 8 + block.data.length = front.length + block.bytes.length := by omega
    dsimp only
    rw [place,next,add_assoc]

theorem findCore_found (front rest : Bytes) (block : FileBlock) (footerStart : Nat) (core : block.id = blockCore)
    (whole : block.data.length = coreBlockLen) (inside : front.length + block.bytes.length ≤ footerStart)
    (small : footerStart < 2^64) :
    findCore (front ++ (block.bytes ++ rest)) front.length footerStart = .ok (front.length + 8) := by
  have length := block.length_bytes
  rw [findCore_block (by omega) (readBlock_front front rest block footerStart inside small),if_pos core,ensure_pos whole]
  rfl

theorem locateBlocks_chain (front rest : Bytes) (blocks : List FileBlock) (footerStart : Nat)
    (located : Option LocatedZeffExtension)
    (others : ∀ block ∈ blocks, block.id ≠ blockEnd ∧ block.id ≠ blockZeffPrivateExtension)
    (inside : front.length + (chainBytes blocks).length ≤ footerStart) (small : footerStart < 2^64) :
    locateBlocks (front ++ (chainBytes blocks ++ rest)) footerStart front.length located =
      locateBlocks (front ++ (chainBytes blocks ++ rest)) footerStart (front.length + (chainBytes blocks).length) located := by
  induction blocks generalizing front with
  | nil => simp [chainBytes]
  | cons block blocks ih =>
    obtain ⟨⟨more,other⟩,others⟩ := forall_mem_cons.mp others
    have length := block.length_bytes
    rw [chainBytes_cons,length_append] at inside ⊢
    rw [append_assoc]
    have read := readBlock_front front (chainBytes blocks ++ rest) block footerStart (by omega) small
    have next := ih (front ++ block.bytes) others (by rw [length_append]; omega)
    rw [append_assoc,length_append] at next
    rw [locateBlocks_other read more other]
    have place : front.length + 8 + block.data.length = front.length + block.bytes.length := by omega
    dsimp only
    rw [place,next,add_assoc]

theorem locateBlocks_last (front rest : Bytes) (zbex end' : FileBlock) (zeff : zbex.id = blockZeffPrivateExtension)
    (whole : zbex.data.length = zeffExtensionBlockLen) (last : end'.id = blockEnd) (empty : end'.data = [])
    (small : front.length + (zbex.bytes.length + end'.bytes.length) < 2^64) :
    ∃ extension, extension.start = front.length ∧ extension.stop = front.length + zbex.bytes.length ∧
      locateBlocks (front ++ (zbex.bytes ++ (end'.bytes ++ rest))) (front.length + (zbex.bytes.length + end'.bytes.length))
        front.length none = .ok (some extension) := by
  have length := zbex.length_bytes
  have endLength := end'.length_bytes
  rw [empty,length_nil] at endLength
  have read := readBlock_front front (end'.bytes ++ rest) zbex _ (by omega) small
  have readEnd := readBlock_front (front ++ zbex.bytes) rest end' (front.length + (zbex.bytes.length + end'.bytes.length))
    (by rw [length_append]; omega) small
  rw [append_assoc,length_append,empty,length_nil] at readEnd
  have more : zbex.id ≠ blockEnd := by rw [zeff]; decide
  have place : front.length + 8 + zbex.data.length = front.length + zbex.bytes.length := by omega
  rw [locateBlocks_zeff (by simp) read more zeff whole]
  dsimp only
  rw [place,locateBlocks_end readEnd last,ensure_pos rfl,ensure_pos (by dsimp only; omega),
    ensure_pos (by rintro extension ⟨⟩; rfl)]
  exact ⟨_,rfl,rfl,rfl⟩

theorem footer_front (front : Bytes) (first : Nat) (fits : first < 2^32) :
    hasBessFooter (front ++ (writeU32 first ++ bessMagic)) = true ∧
      readU32Le (front ++ (writeU32 first ++ bessMagic)) ((front ++ (writeU32 first ++ bessMagic)).length - 8) = .ok first := by
  have four : (writeU32 first).length = 4 := length_leBytes 4 _
  have magic : bessMagic.length = 4 := rfl
  have total : (front ++ (writeU32 first ++ bessMagic)).length = front.length + 8 := by
    rw [length_append,length_append,four,magic]
  constructor
  · rw [hasBessFooter,decide_eq_true_iff,total]
    refine ⟨Nat.le_add_left 8 _,?_⟩
    have behind := slice_at (front ++ writeU32 first) bessMagic [] (front.length + 8 - 4) (front.length + 8)
      (by rw [length_append]; omega) (by omega)
    rwa [append_nil,append_assoc] at behind
  · rw [readU32Le_of_le (by omega),slice_at front (writeU32 first) bessMagic _ _ (by omega) (by omega),writeU32,
      leValue_leBytes 4 first (by omega)]

theorem locateZeffExtension_chain (before : Bytes) (middle : List FileBlock) (zbex end' : FileBlock) (minimum : Nat)
    (ids : ∀ block ∈ middle, block.id ≠ blockEnd ∧ block.id ≠ blockZeffPrivateExtension)
    (zeff : zbex.id = blockZeffPrivateExtension) (whole : zbex.data.length = zeffExtensionBlockLen)
    (last : end'.id = blockEnd) (empty : end'.data = []) (behind : minimum ≤ before.length)
    (small : before.length + (chainBytes middle).length + zbex.bytes.length < 2^31) :
    ∃ extension, extension.start = before.length + (chainBytes middle).length ∧
      extension.stop = extension.start + zbex.bytes.length ∧
      locateZeffExtension (before ++ (chainBytes middle ++ (zbex.bytes ++ (end'.bytes ++
        (writeU32 before.length ++ bessMagic))))) minimum = .ok (some extension) := by
  have four : (writeU32 before.length).length = 4 := length_leBytes 4 _
  have magic : bessMagic.length = 4 := rfl
  have zeffLength := zbex.length_bytes
  have endLength := end'.length_bytes
  rw [empty,length_nil] at endLength
  obtain ⟨footer,offset⟩ := footer_front (before ++ (chainBytes middle ++ (zbex.bytes ++ end'.bytes))) before.length (by omega)
  simp only [append_assoc] at footer offset
  have total : (before ++ (chainBytes middle ++ (zbex.bytes ++ (end'.bytes ++ (writeU32 before.length ++ bessMagic))))).length - 8 =
      (before ++ chainBytes middle).length + (zbex.bytes.length + end'.bytes.length) := by
    simp only [length_append,four,magic]
    omega
  obtain ⟨extension,start,stop,found⟩ := locateBlocks_last (before ++ chainBytes middle) (writeU32 before.length ++ bessMagic)
    zbex end' zeff whole last empty (by rw [length_append]; omega)
  have walked := locateBlocks_chain before (zbex.bytes ++ (end'.bytes ++ (writeU32 before.length ++ bessMagic))) middle
    ((before ++ chainBytes middle).length + (zbex.bytes.length + end'.bytes.length)) none ids
    (by rw [length_append]; omega) (by rw [length_append]; omega)
  rw [length_append] at start stop
  rw [append_assoc] at found
  refine ⟨extension,start,by rw [start,stop],?_⟩
  rw [locateZeffExtension,ensure_pos footer]
  dsimp only [bailing,Except.mapError]
  rw [offset,ok_bind,ok_bind,ensure_pos behind,ensure_pos (by rw [total,length_append]; omega),total,ok_bind,ok_bind,
    walked]
  have place : (before ++ chainBytes middle).length = before.length + (chainBytes middle).length := length_append
  rw [place] at found ⊢
  exact found

namespace SaveStateRef

theorem length_writeBuffers (buffers : List (Nat × Nat)) : (writeBuffers buffers).length = 8 * buffers.length := by
  induction buffers with
  | nil => rfl
  | cons buffer buffers ih =>
    have one : writeBuffers (buffer::buffers) = writeU32 buffer.1 ++ writeU32 buffer.2 ++ writeBuffers buffers := rfl
    rw [one,length_append,length_append,ih,writeU32,writeU32,length_leBytes,length_leBytes,length_cons]
    omega

variable (state : SaveStateRef)

theorem length_coreRegisters : state.coreRegisters.length = 0x98 := by
  have model : (modeToBessModel state.hardwareMode).length = 4 := by cases state.hardwareMode <;> rfl
  simp [coreRegisters,writeU16,model]

theorem length_coreBody (memory : BessMemoryLayout) : (state.coreBody memory).length = coreBlockLen := by
  rw [coreBody,length_append,length_coreRegisters,length_writeBuffers]
  rfl

theorem length_bessMbcWrites : state.bus.cartridge.bessMbcWrites.length ≤ 8 := by
  cases state.bus.cartridge <;> simp [Cartridge.bessMbcWrites,Mbc1.bessMbcWrites,Mbc2.bessMbcWrites,Mbc3.bessMbcWrites,
    Mbc5.bessMbcWrites,Mbc7.bessMbcWrites,HuC1.bessMbcWrites,HuC3.bessMbcWrites,PocketCamera.bessMbcWrites]

def frontBlocks : List FileBlock :=
  ⟨blockName,emulatorName,rfl,by decide⟩::
    if wide : 0x150 ≤ state.bus.cartridge.romBytes.length then
      [⟨blockInfo,slice state.bus.cartridge.romBytes 0x134 0x144 ++ slice state.bus.cartridge.romBytes 0x14E 0x150,rfl,by
        rw [length_append,length_slice _ _ _ (by omega),length_slice _ _ _ wide]
        decide⟩]
    else []

def coreFileBlock (position : Nat) : FileBlock :=
  ⟨blockCore,state.coreBody (state.bessMemoryLayout position),rfl,by rw [length_coreBody]; decide⟩

theorem length_mbcWrites (writes : List (UInt16 × UInt8)) :
    (writes.flatMap fun write => writeU16 write.1.toNat ++ [write.2]).length = writes.length * 3 := by
  induction writes with
  | nil => rfl
  | cons write writes ih =>
    rw [flatMap_cons,length_append,ih,length_append,writeU16,length_leBytes,length_singleton,
      length_cons]
    omega

theorem length_rtcRegisters (registers : List UInt8) :
    (registers.flatMap fun register => writeU32 register.toNat).length = 4 * registers.length := by
  induction registers with
  | nil => rfl
  | cons register registers ih =>
    rw [flatMap_cons,length_append,ih,writeU32,length_leBytes,length_cons]
    omega

def mbcFileBlock : FileBlock :=
  ⟨blockMbc,state.bus.cartridge.bessMbcWrites.flatMap fun write => writeU16 write.1.toNat ++ [write.2],rfl,by
    have few := state.length_bessMbcWrites
    rw [length_mbcWrites]
    omega⟩

def rtcFileBlock (current latched : RtcRegisters) (nowUnixSeconds : UInt64) : FileBlock :=
  ⟨blockRtc,(current.toList ++ latched.toList).flatMap (fun register => writeU32 register.toNat) ++
    writeU64 nowUnixSeconds.toNat,rfl,by
      rw [length_append,length_rtcRegisters,length_append,List.Vector.toList_length,List.Vector.toList_length,
        writeU64,length_leBytes]
      decide⟩

def backBlocks (nowUnixSeconds : UInt64) : List FileBlock :=
  (if state.bus.cartridge.bessMbcWrites.isEmpty then [] else [state.mbcFileBlock]) ++
    match state.bus.cartridge.bessRtcData with
    | none => []
    | some (current,latched) => [rtcFileBlock current latched nowUnixSeconds]

def zeffFileBlock : FileBlock :=
  ⟨blockZeffPrivateExtension,writeU64 state.frameCount.toNat ++ state.bus.lcdFramebuffer.toList,rfl,by
    rw [length_append,List.Vector.toList_length,writeU64,length_leBytes]
    decide⟩

theorem length_zeffFileBlock : state.zeffFileBlock.data.length = zeffExtensionBlockLen := by
  rw [zeffFileBlock,length_append,List.Vector.toList_length,writeU64,length_leBytes]
  rfl

def endFileBlock : FileBlock := ⟨blockEnd,[],rfl,by decide⟩

/-- What lies between the buffers and the extension, with the CORE block at hand. -/
def blocksFile (before core nowBlocks zeff : Bytes) (firstBlockOffset : Nat) : Bytes :=
  before ++ (chainBytes state.frontBlocks ++ (core ++ (nowBlocks ++ (zeff ++
    (endFileBlock.bytes ++ (writeU32 firstBlockOffset ++ bessMagic))))))

theorem bess_eq (position : Nat) (zeffExtension : Bool) (nowUnixSeconds : UInt64) :
    state.bess position zeffExtension nowUnixSeconds =
      state.blocksFile state.bessMemory (state.coreFileBlock position).bytes (chainBytes (state.backBlocks nowUnixSeconds))
        (if zeffExtension then state.zeffFileBlock.bytes else []) (position + state.bessMemory.length) := by
  have front : nameBlock ++ state.infoBlock = chainBytes state.frontBlocks := by
    rw [infoBlock,frontBlocks,chainBytes_cons]
    by_cases wide : 0x150 ≤ state.bus.cartridge.romBytes.length
    · rw [if_pos wide,dif_pos wide]
      have title := length_slice state.bus.cartridge.romBytes 0x134 0x144 (by omega)
      have checksum := length_slice state.bus.cartridge.romBytes 0x14E 0x150 wide
      simp [chainBytes,FileBlock.bytes,nameBlock,infoBlockLen,title,checksum]
    · rw [if_neg wide,dif_neg wide]
      rfl
  have core : writeBlockHeader blockCore coreBlockLen ++ state.coreBody (state.bessMemoryLayout position) =
      (state.coreFileBlock position).bytes := by
    rw [coreFileBlock,FileBlock.bytes,length_coreBody]
  have back : state.mbcBlock ++ state.rtcBlock nowUnixSeconds = chainBytes (state.backBlocks nowUnixSeconds) := by
    have joined (left right : List FileBlock) : chainBytes (left ++ right) = chainBytes left ++ chainBytes right :=
      flatMap_append
    have one (block : FileBlock) : chainBytes [block] = block.bytes := flatMap_singleton ..
    have mbc : state.mbcBlock =
        chainBytes (if state.bus.cartridge.bessMbcWrites.isEmpty then [] else [state.mbcFileBlock]) := by
      have length : state.mbcFileBlock.data.length = state.bus.cartridge.bessMbcWrites.length * 3 := length_mbcWrites _
      rw [mbcBlock]
      split
      · rfl
      · rw [one,FileBlock.bytes,length]
        rfl
    have rtc : state.rtcBlock nowUnixSeconds = chainBytes (match state.bus.cartridge.bessRtcData with
        | none => []
        | some (current,latched) => [rtcFileBlock current latched nowUnixSeconds]) := by
      rw [rtcBlock]
      rcases state.bus.cartridge.bessRtcData with _ | ⟨current,latched⟩
      · rfl
      · have length : (rtcFileBlock current latched nowUnixSeconds).data.length = rtcBlockLen := by
          rw [rtcFileBlock,length_append,length_rtcRegisters,length_append,List.Vector.toList_length,
            List.Vector.toList_length,writeU64,length_leBytes]
          rfl
        dsimp only
        rw [one,FileBlock.bytes,length,append_assoc]
        rfl
    rw [backBlocks,joined,mbc,rtc]
  have zeff : state.zeffExtensionBlock = state.zeffFileBlock.bytes := by
    rw [FileBlock.bytes,length_zeffFileBlock,zeffExtensionBlock,append_assoc]
    rfl
  have last : writeBlockHeader blockEnd 0 = endFileBlock.bytes := rfl
  rw [bess,zeff,core,last,blocksFile,← front,← back]
  simp only [append_assoc]

theorem frontBlocks_id : ∀ block ∈ state.frontBlocks,
    block.id ≠ blockCore ∧ block.id ≠ blockEnd ∧ block.id ≠ blockZeffPrivateExtension := by
  have info : blockInfo ≠ blockCore ∧ blockInfo ≠ blockEnd ∧ blockInfo ≠ blockZeffPrivateExtension := by decide
  intro block inside
  rw [frontBlocks,mem_cons] at inside
  rcases inside with rfl | inside
  · decide
  · split at inside
    · cases mem_singleton.mp inside
      exact info
    · cases inside

theorem backBlocks_id (nowUnixSeconds : UInt64) : ∀ block ∈ state.backBlocks nowUnixSeconds,
    block.id ≠ blockEnd ∧ block.id ≠ blockZeffPrivateExtension := by
  have mbc : blockMbc ≠ blockEnd ∧ blockMbc ≠ blockZeffPrivateExtension := by decide
  have rtc : blockRtc ≠ blockEnd ∧ blockRtc ≠ blockZeffPrivateExtension := by decide
  intro block inside
  rcases mem_append.mp inside with inside | inside
  · split at inside
    · cases inside
    · cases mem_singleton.mp inside
      exact mbc
  · split at inside
    · cases inside
    · cases mem_singleton.mp inside
      exact rtc

theorem coreFileBlock_bytes (position : Nat) : (state.coreFileBlock position).bytes =
    blockCore ++ (writeU32 coreBlockLen ++ (state.coreRegisters ++
      writeBuffers (coreBuffers (state.bessMemoryLayout position)))) := by
  have length : (state.coreFileBlock position).data.length = coreBlockLen := state.length_coreBody _
  rw [FileBlock.bytes,length,writeBlockHeader,append_assoc]
  rfl

section File
variable {state} {before back zeff : Bytes} {position first : Nat}

theorem length_blocksFile (core : Bytes) : (state.blocksFile before core back zeff first).length =
    before.length + (chainBytes state.frontBlocks).length + core.length + back.length + zeff.length + 16 := by
  have four : (writeU32 first).length = 4 := length_leBytes 4 _
  have magic : bessMagic.length = 4 := rfl
  have last : endFileBlock.bytes.length = 8 := rfl
  simp only [blocksFile,length_append,four,magic,last]
  omega

theorem footer_blocksFile (core : Bytes) (fits : first < 2^32) :
    hasBessFooter (state.blocksFile before core back zeff first) = true ∧
      readU32Le (state.blocksFile before core back zeff first)
        ((state.blocksFile before core back zeff first).length - 8) = .ok first := by
  have footer := footer_front (before ++ (chainBytes state.frontBlocks ++ (core ++ (back ++ (zeff ++ endFileBlock.bytes)))))
    first fits
  simpa only [blocksFile,append_assoc] using footer

theorem findCore_blocksFile (here : before.length = first)
    (small : (state.blocksFile before (state.coreFileBlock position).bytes back zeff first).length < 2^32) :
    findCore (state.blocksFile before (state.coreFileBlock position).bytes back zeff first) first
        ((state.blocksFile before (state.coreFileBlock position).bytes back zeff first).length - 8) =
      .ok (before.length + (chainBytes state.frontBlocks).length + 8) := by
  have length := @length_blocksFile state before back zeff first
    (state.coreFileBlock position).bytes
  generalize total : (state.blocksFile before (state.coreFileBlock position).bytes back zeff first).length = file
    at small length ⊢
  rw [← here] at *
  rw [blocksFile,findCore_chain before _ state.frontBlocks (file - 8) (fun block inside => (state.frontBlocks_id block inside).1)
    (by omega) (by omega)]
  have found := findCore_found (before ++ chainBytes state.frontBlocks) (back ++ (zeff ++ (endFileBlock.bytes ++
    (writeU32 before.length ++ bessMagic)))) (state.coreFileBlock position) (file - 8) rfl (state.length_coreBody _)
    (by rw [length_append]; omega) (by omega)
  rwa [append_assoc,length_append] at found

theorem bessMbcRamOffset_blocksFile (here : before.length = first) (fits : position < 2^32)
    (small : (state.blocksFile before (state.coreFileBlock position).bytes back zeff first).length < 2^32) :
    bessMbcRamOffset (state.blocksFile before (state.coreFileBlock position).bytes back zeff first) first = .ok position := by
  have four (value : Nat) : (writeU32 value).length = 4 := length_leBytes 4 value
  have layout : ∃ sizes rest, sizes.length = 0x14 ∧
      (state.coreFileBlock position).bytes = blockCore ++ writeU32 coreBlockLen ++ state.coreRegisters ++ sizes ++
        (writeU32 position ++ rest) := by
    refine ⟨writeU32 (state.bessMemoryLayout position).ramSize ++ writeU32 (state.bessMemoryLayout position).ramOffset ++
      writeU32 (state.bessMemoryLayout position).vramSize ++ writeU32 (state.bessMemoryLayout position).vramOffset ++
      writeU32 (state.bessMemoryLayout position).mbcRamSize,
      writeBuffers ((coreBuffers (state.bessMemoryLayout position)).drop 3),by simp only [length_append,four],?_⟩
    have payload : (state.bessMemoryLayout position).mbcRamOffset = position := rfl
    rw [coreFileBlock_bytes]
    simp only [coreBuffers,writeBuffers,flatMap_cons,append_assoc,drop_succ_cons,drop_zero,payload]
  obtain ⟨sizes,rest,twenty,core⟩ := layout
  have registers := state.length_coreRegisters
  have id : blockCore.length = 4 := rfl
  have length := @length_blocksFile state before back zeff first
    (state.coreFileBlock position).bytes
  have coreLength : (state.coreFileBlock position).bytes.length = 8 + 0xD0 := by
    rw [FileBlock.length_bytes]
    exact congrArg (8 + ·) (state.length_coreBody _)
  have file : state.blocksFile before (state.coreFileBlock position).bytes back zeff first =
      (before ++ (chainBytes state.frontBlocks ++ (blockCore ++ writeU32 coreBlockLen ++ state.coreRegisters ++ sizes))) ++
        (writeU32 position ++ (rest ++ (back ++ (zeff ++ (endFileBlock.bytes ++ (writeU32 first ++ bessMagic)))))) := by
    rw [blocksFile,core]
    simp only [append_assoc]
  rw [bessMbcRamOffset,findCore_blocksFile here small,ok_bind,readU32Le_of_le (by omega),file,
    slice_at _ (writeU32 position) _ _ _ (by simp only [length_append,four,id,registers,twenty]; omega)
      (by rw [four]),writeU32,leValue_leBytes 4 position (by omega)]

theorem locateZeffExtension_blocksFile (now : UInt64) (here : before.length = first) (behind : nativeLastOpcodeEnd ≤ first)
    (small : (state.blocksFile before (state.coreFileBlock position).bytes (chainBytes (state.backBlocks now))
      state.zeffFileBlock.bytes first).length < 2^31) :
    ∃ extension,
      extension.start = before.length + (chainBytes state.frontBlocks).length + (state.coreFileBlock position).bytes.length +
        (chainBytes (state.backBlocks now)).length ∧
      extension.stop = extension.start + state.zeffFileBlock.bytes.length ∧
      locateZeffExtension (state.blocksFile before (state.coreFileBlock position).bytes (chainBytes (state.backBlocks now))
        state.zeffFileBlock.bytes first) nativeLastOpcodeEnd = .ok (some extension) := by
  have length := @length_blocksFile state before (chainBytes (state.backBlocks now)) state.zeffFileBlock.bytes first
    (state.coreFileBlock position).bytes
  let middle := state.frontBlocks ++ state.coreFileBlock position::state.backBlocks now
  have joined : chainBytes middle = chainBytes state.frontBlocks ++ ((state.coreFileBlock position).bytes ++
      chainBytes (state.backBlocks now)) := by
    simp [chainBytes,middle]
  have middleLength : (chainBytes middle).length = (chainBytes state.frontBlocks).length +
      ((state.coreFileBlock position).bytes.length + (chainBytes (state.backBlocks now)).length) := by
    rw [joined,length_append,length_append]
  have ids : ∀ block ∈ middle, block.id ≠ blockEnd ∧ block.id ≠ blockZeffPrivateExtension := by
    have core : blockCore ≠ blockEnd ∧ blockCore ≠ blockZeffPrivateExtension := by decide
    intro block inside
    rcases mem_append.mp inside with inside | inside
    · exact (state.frontBlocks_id block inside).2
    rcases mem_cons.mp inside with rfl | inside
    · exact core
    · exact state.backBlocks_id now block inside
  obtain ⟨extension,start,stop,located⟩ := locateZeffExtension_chain before middle state.zeffFileBlock endFileBlock
    nativeLastOpcodeEnd ids rfl state.length_zeffFileBlock rfl rfl (by omega) (by omega)
  refine ⟨extension,by omega,stop,?_⟩
  rw [joined,here] at located
  rw [blocksFile]
  simpa only [append_assoc] using located

end File

def moved (removedStart removedLen : Nat) (buffer : Nat × Nat) : Nat × Nat :=
  (buffer.1,if removedStart ≤ buffer.2 ∧ buffer.2 ≠ 0 then buffer.2 - removedLen else buffer.2)

theorem adjustOffsets_writeBuffers (front rest : Bytes) (buffers : List (Nat × Nat))
    (headerEnd base removedStart removedLen : Nat) (here : front.length = headerEnd + base)
    (sound : ∀ buffer ∈ buffers, buffer.2 < 2^32 ∧ (removedStart ≤ buffer.2 → buffer.2 ≠ 0 → removedLen ≤ buffer.2)) :
    adjustOffsets (front ++ (writeBuffers buffers ++ rest)) headerEnd removedStart removedLen
        (List.range' (base + 4) buffers.length 8) =
      (.ok (),front ++ (writeBuffers (buffers.map (moved removedStart removedLen)) ++ rest)) := by
  induction buffers generalizing front base with
  | nil => rfl
  | cons buffer buffers ih =>
    obtain ⟨⟨fits,movable⟩,sound⟩ := forall_mem_cons.mp sound
    have four (value : Nat) : (writeU32 value).length = 4 := length_leBytes 4 value
    have one (buffer : Nat × Nat) (buffers : List (Nat × Nat)) :
        writeBuffers (buffer::buffers) = writeU32 buffer.1 ++ (writeU32 buffer.2 ++ writeBuffers buffers) := by
      simp [writeBuffers]
    have layout : front ++ (writeBuffers (buffer::buffers) ++ rest) =
        (front ++ writeU32 buffer.1) ++ (writeU32 buffer.2 ++ (writeBuffers buffers ++ rest)) := by
      rw [one]
      simp only [append_assoc]
    have place : (front ++ writeU32 buffer.1).length = headerEnd + (base + 4) := by
      rw [length_append,here,four,add_assoc]
    have read : readU32Le (front ++ (writeBuffers (buffer::buffers) ++ rest)) (headerEnd + (base + 4)) = .ok buffer.2 := by
      rw [layout,readU32Le_of_le (by simp only [length_append,four] at place ⊢; omega),
        slice_at _ (writeU32 buffer.2) _ _ _ place (by rw [four]),writeU32,leValue_leBytes 4 _ (by omega)]
    have next (value : Nat) := ih (front ++ writeU32 buffer.1 ++ writeU32 value) (base + 8)
      (by rw [length_append,place,four]; omega) sound
    rw [length_cons,List.range'_succ,adjustOffsets,read]
    dsimp only
    rw [layout,map_cons,one (moved removedStart removedLen buffer),moved]
    split
    · rename_i shifted
      rw [checkedSub_pos (movable shifted.1 shifted.2)]
      dsimp only [bailing,Except.mapError]
      rw [overwrite_at _ (writeU32 buffer.2) _ _ _ place (by rw [four,four])]
      have result := next (buffer.2 - removedLen)
      simp only [append_assoc] at result ⊢
      exact result
    · have result := next buffer.2
      simp only [append_assoc] at result ⊢
      exact result

theorem bessMemoryLayout_shift (position removed : Nat) :
    let later := state.bessMemoryLayout (position + removed)
    let layout := state.bessMemoryLayout position
    later.vramOffset = layout.vramOffset + removed ∧ later.ramOffset = layout.ramOffset + removed ∧
      later.oamOffset = layout.oamOffset + removed ∧ later.hramOffset = layout.hramOffset + removed := by
  intro later layout
  have vram : later.vramOffset = layout.vramOffset + removed := add_right_comm position removed _
  have ram : later.ramOffset = layout.ramOffset + removed := by
    show later.vramOffset + 0x4000 = layout.vramOffset + 0x4000 + removed
    rw [vram,add_right_comm]
  have oam : later.oamOffset = layout.oamOffset + removed := by
    show later.ramOffset + 0x8000 = layout.ramOffset + 0x8000 + removed
    rw [ram,add_right_comm]
  have hram : later.hramOffset = layout.hramOffset + removed := by
    show later.oamOffset + 0xA0 = layout.oamOffset + 0xA0 + removed
    rw [oam,add_right_comm]
  exact ⟨vram,ram,oam,hram⟩

theorem le_bessMemoryLayout (position : Nat) :
    position ≤ (state.bessMemoryLayout position).vramOffset ∧
      (state.bessMemoryLayout position).vramOffset ≤ (state.bessMemoryLayout position).ramOffset ∧
      (state.bessMemoryLayout position).ramOffset ≤ (state.bessMemoryLayout position).oamOffset ∧
      (state.bessMemoryLayout position).oamOffset ≤ (state.bessMemoryLayout position).hramOffset :=
  ⟨Nat.le_add_right _ _,Nat.le_add_right _ _,Nat.le_add_right _ _,Nat.le_add_right _ _⟩

theorem moved_coreBuffers (position : Nat) :
    (coreBuffers (state.bessMemoryLayout (position + sgbNativeContinuationBlockLen))).map
      (moved position sgbNativeContinuationBlockLen) = coreBuffers (state.bessMemoryLayout position) := by
  obtain ⟨vram,ram,oam,hram⟩ := state.bessMemoryLayout_shift position sgbNativeContinuationBlockLen
  obtain ⟨vramBehind,ramBehind,oamBehind,hramBehind⟩ := state.le_bessMemoryLayout position
  have follow (size : Nat) {offset later : Nat} (behind : position ≤ offset)
      (same : later = offset + sgbNativeContinuationBlockLen) :
      moved position sgbNativeContinuationBlockLen (size,later) = (size,offset) := by
    have block : sgbNativeContinuationBlockLen = 122 := rfl
    subst same
    rw [moved,if_pos ⟨by dsimp only; omega,by dsimp only; omega⟩,Nat.add_sub_cancel]
  have stay (size : Nat) : moved position sgbNativeContinuationBlockLen (size,0) = (size,0) := by
    rw [moved,if_neg (fun both => both.2 rfl)]
  have mbc : (state.bessMemoryLayout (position + sgbNativeContinuationBlockLen)).mbcRamOffset =
      (state.bessMemoryLayout position).mbcRamOffset + sgbNativeContinuationBlockLen := rfl
  have palette (size : Nat) {offset later : Nat} (behind : position ≤ offset)
      (same : later = offset + sgbNativeContinuationBlockLen) : moved position sgbNativeContinuationBlockLen
        (size,if state.hardwareMode.isCgb then later else 0) = (size,if state.hardwareMode.isCgb then offset else 0) := by
    split
    · exact follow size behind same
    · exact stay size
  have background : (state.bessMemoryLayout (position + sgbNativeContinuationBlockLen)).hramOffset + 0x7F =
      (state.bessMemoryLayout position).hramOffset + 0x7F + sgbNativeContinuationBlockLen := by
    rw [hram,add_right_comm]
  have object : (state.bessMemoryLayout (position + sgbNativeContinuationBlockLen)).hramOffset + 0x7F + 0x40 =
      (state.bessMemoryLayout position).hramOffset + 0x7F + 0x40 + sgbNativeContinuationBlockLen := by
    rw [background,add_right_comm]
  have backgroundMoved : moved position sgbNativeContinuationBlockLen
      ((state.bessMemoryLayout (position + sgbNativeContinuationBlockLen)).bgPalSize,
        (state.bessMemoryLayout (position + sgbNativeContinuationBlockLen)).bgPalOffset) =
      ((state.bessMemoryLayout position).bgPalSize,(state.bessMemoryLayout position).bgPalOffset) :=
    palette _ (by omega) background
  have objectMoved : moved position sgbNativeContinuationBlockLen
      ((state.bessMemoryLayout (position + sgbNativeContinuationBlockLen)).objPalSize,
        (state.bessMemoryLayout (position + sgbNativeContinuationBlockLen)).objPalOffset) =
      ((state.bessMemoryLayout position).objPalSize,(state.bessMemoryLayout position).objPalOffset) :=
    palette _ (by omega) object
  simp only [coreBuffers,map_cons,map_nil]
  rw [follow _ (by omega) ram,follow _ (by omega) vram,follow _ (Nat.le_refl position) mbc,follow _ (by omega) oam,
    follow _ (by omega) hram,backgroundMoved,objectMoved]
  rfl

theorem length_cpu : state.cpu.writeState.length = 39 := by
  simp [Cpu.writeState,writeU16,writeU64]

theorem length_nativePayload (formatVersion : Nat) :
    (state.nativePayload formatVersion).length = 101 + state.bus.state.length := by
  have magic : nativeSaveStateMagic.length = 8 := rfl
  simp only [nativePayload,nativeFields,length_append,magic,writeU32,writeU64,writeU16,length_leBytes,
    List.Vector.toList_length,length_cpu,length_singleton]
  omega

theorem length_bessMemory : state.bessMemory.length ≤ 0x40000 := by
  have ram := state.bus.ramFits
  have capacity : maxSaveRam = 0x20000 := rfl
  rw [bessMemory]
  split
  all_goals
    simp only [length_append,List.Vector.toList_length,length_nil]
    omega

theorem hramOffset_le (position : Nat) :
    (state.bessMemoryLayout position).hramOffset + 0x7F ≤ position + state.bessMemory.length := by
  have place : (state.bessMemoryLayout position).hramOffset =
      position + state.bus.cartridge.mbcRamBytes.length + 0x4000 + 0x8000 + 0xA0 := rfl
  rw [place,bessMemory]
  simp only [length_append,List.Vector.toList_length]
  omega

theorem length_frontBlocks : (chainBytes state.frontBlocks).length ≤ 100 := by
  have name : emulatorName.length = 8 := rfl
  rw [frontBlocks,chainBytes_cons,length_append,FileBlock.length_bytes]
  split
  · rename_i wide
    have title := length_slice state.bus.cartridge.romBytes 0x134 0x144 (by omega)
    have checksum := length_slice state.bus.cartridge.romBytes 0x14E 0x150 wide
    rw [chainBytes_cons,length_append,FileBlock.length_bytes]
    simp only [chainBytes,flatMap_nil,length_nil,length_append]
    omega
  · simp only [chainBytes,flatMap_nil,length_nil]
    omega

theorem length_backBlocks (now : UInt64) : (chainBytes (state.backBlocks now)).length ≤ 200 := by
  have few := state.length_bessMbcWrites
  have mbc : state.mbcFileBlock.bytes.length ≤ 32 := by
    have length : state.mbcFileBlock.data.length = state.bus.cartridge.bessMbcWrites.length * 3 := length_mbcWrites _
    rw [FileBlock.length_bytes]
    omega
  have joined (left right : List FileBlock) : chainBytes (left ++ right) = chainBytes left ++ chainBytes right :=
    flatMap_append
  have one (block : FileBlock) : chainBytes [block] = block.bytes := flatMap_singleton ..
  have front : (chainBytes (if state.bus.cartridge.bessMbcWrites.isEmpty then [] else [state.mbcFileBlock])).length ≤ 32 := by
    split
    · exact Nat.zero_le _
    · rw [one]
      exact mbc
  rw [backBlocks,joined,length_append]
  rcases state.bus.cartridge.bessRtcData with _ | ⟨current,latched⟩
  · exact Nat.add_le_add (front.trans (by decide)) (Nat.zero_le _ : _ ≤ 100)
  · have rtc : (rtcFileBlock current latched now).data.length = rtcBlockLen := by
      rw [rtcFileBlock,length_append,length_rtcRegisters,length_append,List.Vector.toList_length,
        List.Vector.toList_length,writeU64,length_leBytes]
      rfl
    have length : rtcBlockLen = 0x30 := rfl
    dsimp only
    rw [one,FileBlock.length_bytes]
    omega

theorem length_sgbNativeContinuation : state.sgbNativeContinuation.length = sgbNativeContinuationBlockLen := by
  have fits := state.bus.sgbFits
  have magic : sgbNativeContinuationMagic.length = 4 := rfl
  have capacity : multiPacketCapacity = 112 := rfl
  simp only [sgbNativeContinuation,SgbState.writeNativeContinuation,length_append,magic,writeU32,length_leBytes,
    length_cons,length_drop,length_replicate]
  have block : sgbNativeContinuationBlockLen = 122 := rfl
  omega

/-- The file without the extension, with the continuation's place taken by `continuation`. -/
def portableFile (formatVersion position : Nat) (continuation : Bytes) (zeff : Bytes) (now : UInt64) (first : Nat) : Bytes :=
  state.blocksFile (state.nativePayload formatVersion ++ (continuation ++ state.bessMemory))
    (state.coreFileBlock position).bytes (chainBytes (state.backBlocks now)) zeff first

theorem encode_12 (now : UInt64) : state.encodeStateBytesWithVersion 12 now =
    state.portableFile 12 (101 + state.bus.state.length) [] [] now
      (101 + state.bus.state.length + state.bessMemory.length) := by
  have continuation : ¬14 ≤ 12 := by decide
  have extension : ¬13 ≤ 12 := by decide
  simp only [encodeStateBytesWithVersion,portableFile,bess_eq,blocksFile,append_assoc,append_nil,nil_append,
    length_nativePayload,if_neg continuation,decide_eq_false extension,Bool.false_eq_true,if_false]

theorem encode_13 (now : UInt64) : state.encodeStateBytesWithVersion 13 now =
    state.portableFile 13 (101 + state.bus.state.length) [] state.zeffFileBlock.bytes now
      (101 + state.bus.state.length + state.bessMemory.length) := by
  have continuation : ¬14 ≤ 13 := by decide
  simp only [encodeStateBytesWithVersion,portableFile,bess_eq,blocksFile,append_assoc,append_nil,nil_append,
    length_nativePayload,if_neg continuation,decide_eq_true (Nat.le_refl 13),if_true]

theorem encode_14 (now : UInt64) : state.encodeStateBytesWithVersion 14 now =
    state.portableFile 14 (101 + state.bus.state.length + sgbNativeContinuationBlockLen) state.sgbNativeContinuation
      state.zeffFileBlock.bytes now
      (101 + state.bus.state.length + sgbNativeContinuationBlockLen + state.bessMemory.length) := by
  have extension : 13 ≤ 14 := by decide
  simp only [encodeStateBytesWithVersion,portableFile,bess_eq,blocksFile,append_assoc,length_append,
    length_nativePayload,length_sgbNativeContinuation,if_pos (Nat.le_refl 14),decide_eq_true extension,if_true]

section Portable
variable {state} {formatVersion position first : Nat} {continuation zeff : Bytes} {now : UInt64}

theorem length_portableFile : (state.portableFile formatVersion position continuation zeff now first).length ≤
    0x41000000 + continuation.length + zeff.length := by
  have native := state.length_nativePayload formatVersion
  have memory := state.length_bessMemory
  have front := state.length_frontBlocks
  have back := state.length_backBlocks now
  have fits := state.bus.stateFits
  have core : (state.coreFileBlock position).bytes.length = 8 + coreBlockLen := by
    rw [FileBlock.length_bytes]
    exact congrArg (8 + ·) (state.length_coreBody _)
  have size : coreBlockLen = 0xD0 := rfl
  rw [portableFile,length_blocksFile,length_append,length_append]
  omega

theorem header_portableFile (small : formatVersion < 2^32) :
    nativeSaveStateMagic <+: state.portableFile formatVersion position continuation zeff now first ∧
      12 ≤ (state.portableFile formatVersion position continuation zeff now first).length ∧
      leValue (slice (state.portableFile formatVersion position continuation zeff now first) 8 12) = formatVersion := by
  have four : (writeU32 formatVersion).length = 4 := length_leBytes 4 _
  have magic : nativeSaveStateMagic.length = 8 := rfl
  obtain ⟨rest,file⟩ : ∃ rest, state.portableFile formatVersion position continuation zeff now first =
      nativeSaveStateMagic ++ (writeU32 formatVersion ++ rest) := by
    simp only [portableFile,blocksFile,nativePayload,append_assoc]
    exact ⟨_,rfl⟩
  rw [file]
  refine ⟨prefix_append _ _,?_,?_⟩
  · rw [length_append,length_append,four,magic]
    omega
  · rw [slice_at _ (writeU32 formatVersion) _ 8 12 magic (by rw [four]),writeU32,leValue_leBytes 4 _ (by omega)]

theorem stampVersion_portableFile :
    stampVersion (state.portableFile formatVersion position continuation zeff now first) =
      (.ok (),state.portableFile 12 position continuation zeff now first) := by
  have four (value : Nat) : (writeU32 value).length = 4 := length_leBytes 4 _
  have magic : nativeSaveStateMagic.length = 8 := rfl
  obtain ⟨rest,file⟩ : ∃ rest, ∀ formatVersion, state.portableFile formatVersion position continuation zeff now first =
      nativeSaveStateMagic ++ (writeU32 formatVersion ++ rest) := by
    simp only [portableFile,blocksFile,nativePayload,append_assoc]
    exact ⟨_,fun _ => rfl⟩
  rw [stampVersion_of_le,file,file,overwrite_at _ (writeU32 formatVersion) _ 8 _ magic (by rw [four,four])]
  rw [file,length_append,length_append,four,magic]
  omega

theorem locate_portableFile
    (here : (state.nativePayload formatVersion).length + (continuation.length + state.bessMemory.length) = first)
    (small : continuation.length ≤ sgbNativeContinuationBlockLen) :
    ∃ extension,
      locateZeffExtension (state.portableFile formatVersion position continuation state.zeffFileBlock.bytes now first)
        nativeLastOpcodeEnd = .ok (some extension) ∧
      drain (state.portableFile formatVersion position continuation state.zeffFileBlock.bytes now first) extension.start
        extension.stop = .ok (state.portableFile formatVersion position continuation [] now first) := by
  have native := state.length_nativePayload formatVersion
  have hundred : nativeLastOpcodeEnd = 100 := rfl
  have block : sgbNativeContinuationBlockLen = 122 := rfl
  have zeffLength : state.zeffFileBlock.bytes.length = 8 + zeffExtensionBlockLen := by
    rw [FileBlock.length_bytes,length_zeffFileBlock]
  have size : zeffExtensionBlockLen = 92168 := rfl
  have total := @length_portableFile state formatVersion position first continuation state.zeffFileBlock.bytes now
  have before : (state.nativePayload formatVersion ++ (continuation ++ state.bessMemory)).length = first := by
    rw [length_append,length_append,here]
  obtain ⟨extension,start,stop,located⟩ := @locateZeffExtension_blocksFile state _ position _ now before
    (by omega) (total.trans_lt (by omega))
  refine ⟨extension,located,?_⟩
  have whole : state.portableFile formatVersion position continuation state.zeffFileBlock.bytes now first =
      (state.nativePayload formatVersion ++ (continuation ++ state.bessMemory) ++ chainBytes state.frontBlocks ++
        (state.coreFileBlock position).bytes ++ chainBytes (state.backBlocks now)) ++ (state.zeffFileBlock.bytes ++
          (endFileBlock.bytes ++ (writeU32 first ++ bessMagic))) := by
    simp only [portableFile,blocksFile,append_assoc]
  have inside : extension.stop ≤ (state.portableFile formatVersion position continuation state.zeffFileBlock.bytes now
      first).length := by
    rw [whole]
    simp only [length_append] at start ⊢
    omega
  rw [drain_of_le (by omega) inside,whole,cut_at _ state.zeffFileBlock.bytes _ _ _ (by
    rw [start]
    simp only [length_append]) stop.symm]
  simp only [portableFile,blocksFile,append_assoc,nil_append]

theorem footer_portableFile (fits : first < 2^32) :
    bessFirstBlockOffset (state.portableFile formatVersion position continuation zeff now first) = .ok first := by
  obtain ⟨footer,offset⟩ := @footer_blocksFile state (state.nativePayload formatVersion ++ (continuation ++ state.bessMemory))
    (chainBytes (state.backBlocks now)) zeff first (state.coreFileBlock position).bytes fits
  rw [bessFirstBlockOffset,portableFile,ensure_pos footer]
  simp only [bailing,Except.mapError,ok_bind]
  exact offset

end Portable

theorem projectReplayStateBytes_13 (now : UInt64) :
    projectReplayStateBytes (state.encodeStateBytesWithVersion 13 now) =
      (.ok (),state.encodeStateBytesWithVersion 12 now) := by
  have native := state.length_nativePayload 13
  have memory := state.length_bessMemory
  have fits := state.bus.stateFits
  have word : 101 + state.bus.state.length + state.bessMemory.length < 2^32 := by omega
  rw [encode_13,encode_12]
  generalize first : 101 + state.bus.state.length + state.bessMemory.length = firstBlockOffset at word ⊢
  generalize 101 + state.bus.state.length = position at native first ⊢
  obtain ⟨magic,header,version⟩ := @header_portableFile state 13 position firstBlockOffset []
    state.zeffFileBlock.bytes now (by decide)
  obtain ⟨extension,located,drained⟩ := @locate_portableFile state 13 position firstBlockOffset [] now
    (by rw [length_nil,zero_add,native,first]) zero_le
  have offset := @footer_portableFile state 13 position firstBlockOffset [] state.zeffFileBlock.bytes now word
  obtain ⟨_,missing⟩ | ⟨zbex,first',found,_,plan⟩ := planProjection_cases
    (state.portableFile 13 position [] state.zeffFileBlock.bytes now firstBlockOffset) 13
  · exact absurd offset (missing extension _ located)
  · obtain rfl : extension = zbex := Option.some.inj (Except.ok.inj (located.symm.trans found))
    rw [if_neg (by decide)] at plan
    rw [projectReplayStateBytes_plan magic header version (.inl rfl) plan,applyProjection,drained]
    exact stampVersion_portableFile

section Continuation
variable {state} {formatVersion position first : Nat} {zeff : Bytes} {now : UInt64}

theorem sgbNativeContinuationStart_portableFile (here : (state.nativePayload formatVersion).length = position) :
    sgbNativeContinuationStart
      (state.portableFile formatVersion (position + sgbNativeContinuationBlockLen) state.sgbNativeContinuation zeff now first)
      (position + sgbNativeContinuationBlockLen) = .ok position := by
  have four (value : Nat) : (writeU32 value).length = 4 := length_leBytes 4 _
  have magic : sgbNativeContinuationMagic.length = 4 := rfl
  obtain ⟨rest,file⟩ : ∃ rest, state.portableFile formatVersion (position + sgbNativeContinuationBlockLen)
      state.sgbNativeContinuation zeff now first = state.nativePayload formatVersion ++ (sgbNativeContinuationMagic ++
        (writeU32 sgbNativeContinuationPayloadLen ++ rest)) := by
    simp only [portableFile,blocksFile,sgbNativeContinuation,append_assoc]
    exact ⟨_,rfl⟩
  have file' : state.portableFile formatVersion (position + sgbNativeContinuationBlockLen)
      state.sgbNativeContinuation zeff now first = (state.nativePayload formatVersion ++ sgbNativeContinuationMagic) ++
        (writeU32 sgbNativeContinuationPayloadLen ++ rest) := by
    rw [file,append_assoc]
  have long : position + 8 ≤ (state.portableFile formatVersion (position + sgbNativeContinuationBlockLen)
      state.sgbNativeContinuation zeff now first).length := by
    rw [file]
    simp only [length_append,four,magic,here]
    omega
  have header : slice (state.portableFile formatVersion (position + sgbNativeContinuationBlockLen)
      state.sgbNativeContinuation zeff now first) position (position + 4) = sgbNativeContinuationMagic := by
    rw [file,slice_at _ sgbNativeContinuationMagic _ _ _ here (by rw [magic])]
  have length : readU32Le (state.portableFile formatVersion (position + sgbNativeContinuationBlockLen)
      state.sgbNativeContinuation zeff now first) (position + 4) = .ok sgbNativeContinuationPayloadLen := by
    rw [readU32Le_of_le (by omega),file',slice_at _ (writeU32 sgbNativeContinuationPayloadLen) _ _ _
      (by rw [length_append,here,magic]) (by rw [four]),writeU32,leValue_leBytes 4 _ (by decide)]
  have read : index (state.portableFile formatVersion (position + sgbNativeContinuationBlockLen)
      state.sgbNativeContinuation zeff now first) position (position + 4) = .ok sgbNativeContinuationMagic := by
    rw [index_of_le (Nat.le_add_right position 4) (by omega),header]
  rw [sgbNativeContinuationStart,checkedSub_pos (Nat.le_add_left _ position),Nat.add_sub_cancel]
  simp only [bailing,Except.mapError,ok_bind,read,length,ensure_pos]
  rfl

theorem coreBuffers_sound {position : Nat} (fits : (state.bessMemoryLayout position).hramOffset + 0xBF < 2^32) :
    ∀ buffer ∈ coreBuffers (state.bessMemoryLayout position), buffer.2 < 2^32 ∧ (buffer.2 ≠ 0 → position ≤ buffer.2) := by
  obtain ⟨vram,ram,oam,hram⟩ := state.le_bessMemoryLayout position
  have palette (past : Nat) (near : past ≤ 0xBF) :
      (if state.hardwareMode.isCgb then (state.bessMemoryLayout position).hramOffset + past else 0) < 2^32 ∧
        ((if state.hardwareMode.isCgb then (state.bessMemoryLayout position).hramOffset + past else 0) ≠ 0 →
          position ≤ if state.hardwareMode.isCgb then (state.bessMemoryLayout position).hramOffset + past else 0) := by
    split <;> omega
  have background : (state.bessMemoryLayout position).bgPalOffset =
      if state.hardwareMode.isCgb then (state.bessMemoryLayout position).hramOffset + 0x7F else 0 := rfl
  have object : (state.bessMemoryLayout position).objPalOffset =
      if state.hardwareMode.isCgb then (state.bessMemoryLayout position).hramOffset + 0xBF else 0 := rfl
  have mbc : (state.bessMemoryLayout position).mbcRamOffset = position := rfl
  simp only [coreBuffers,forall_mem_cons,background,object,mbc]
  refine ⟨by omega,by omega,by omega,by omega,by omega,palette _ (by decide),palette _ (by decide),by simp⟩

theorem adjust_portableFile (here : (state.nativePayload formatVersion).length = position)
    (link : position + state.bessMemory.length = first) (small : first + 0x100000 < 2^32) :
    adjustBessOffsetsAfterRemoval
      (state.portableFile formatVersion (position + sgbNativeContinuationBlockLen) [] [] now
        (first + sgbNativeContinuationBlockLen))
      (first + sgbNativeContinuationBlockLen) position sgbNativeContinuationBlockLen =
      (.ok (),state.portableFile formatVersion position [] [] now first) := by
  have four (value : Nat) : (writeU32 value).length = 4 := length_leBytes 4 _
  have magic : bessMagic.length = 4 := rfl
  have coreId : blockCore.length = 4 := rfl
  have before : (state.nativePayload formatVersion ++ ([] ++ state.bessMemory)).length = first := by
    rw [nil_append,length_append,here,link]
  have relinked : overwrite (state.portableFile formatVersion (position + sgbNativeContinuationBlockLen) [] [] now
      (first + sgbNativeContinuationBlockLen))
      ((state.portableFile formatVersion (position + sgbNativeContinuationBlockLen) [] [] now
        (first + sgbNativeContinuationBlockLen)).length - 8) (writeU32 first) =
      state.portableFile formatVersion (position + sgbNativeContinuationBlockLen) [] [] now first := by
    obtain ⟨front,file⟩ : ∃ front, ∀ first, state.portableFile formatVersion (position + sgbNativeContinuationBlockLen) [] []
        now first = front ++ (writeU32 first ++ bessMagic) := by
      refine ⟨state.nativePayload formatVersion ++ ([] ++ state.bessMemory) ++ chainBytes state.frontBlocks ++
        (state.coreFileBlock (position + sgbNativeContinuationBlockLen)).bytes ++ chainBytes (state.backBlocks now) ++
        endFileBlock.bytes,?_⟩
      intro first
      simp only [portableFile,blocksFile,append_assoc,nil_append]
    have footer : (front ++ (writeU32 (first + sgbNativeContinuationBlockLen) ++ bessMagic)).length - 8 = front.length := by
      rw [length_append,length_append,four,magic]
      omega
    rw [file,file,footer,overwrite_at front (writeU32 (first + sgbNativeContinuationBlockLen)) bessMagic _ _ rfl
      (by rw [four,four])]
  have sameLength : (state.portableFile formatVersion (position + sgbNativeContinuationBlockLen) [] [] now
      (first + sgbNativeContinuationBlockLen)).length =
      (state.portableFile formatVersion (position + sgbNativeContinuationBlockLen) [] [] now first).length := by
    rw [portableFile,portableFile,length_blocksFile,length_blocksFile]
  have total := @length_portableFile state formatVersion (position + sgbNativeContinuationBlockLen) first [] [] now
  have found := @findCore_blocksFile state _ (chainBytes (state.backBlocks now)) [] (position + sgbNativeContinuationBlockLen) _
    before (total.trans_lt (by simp))
  have long : ¬(state.portableFile formatVersion (position + sgbNativeContinuationBlockLen) [] [] now
      (first + sgbNativeContinuationBlockLen)).length < 8 := by
    rw [portableFile,length_blocksFile]
    omega
  rw [adjustBessOffsetsAfterRemoval,if_neg long]
  dsimp only
  rw [checkedSub_pos (Nat.le_add_left _ first),Nat.add_sub_cancel]
  dsimp only [bailing,Except.mapError]
  have core : findCore (state.portableFile formatVersion (position + sgbNativeContinuationBlockLen) [] [] now first) first
      ((state.portableFile formatVersion (position + sgbNativeContinuationBlockLen) [] [] now first).length - 8) =
      .ok (first + (chainBytes state.frontBlocks).length + 8) := by
    rw [← before] at found ⊢
    exact found
  rw [relinked,sameLength,core]
  dsimp only
  have file (position : Nat) : state.portableFile formatVersion position [] [] now first =
      (state.nativePayload formatVersion ++ ([] ++ state.bessMemory) ++ chainBytes state.frontBlocks ++ blockCore ++
        writeU32 coreBlockLen ++ state.coreRegisters) ++ (writeBuffers (coreBuffers (state.bessMemoryLayout position)) ++
          (chainBytes (state.backBlocks now) ++ (endFileBlock.bytes ++ (writeU32 first ++ bessMagic)))) := by
    rw [portableFile,blocksFile,coreFileBlock_bytes]
    simp only [append_assoc,nil_append]
  have hram : (state.bessMemoryLayout (position + sgbNativeContinuationBlockLen)).hramOffset + 0xBF < 2^32 := by
    have inside := state.hramOffset_le (position + sgbNativeContinuationBlockLen)
    have block : sgbNativeContinuationBlockLen = 122 := rfl
    omega
  have offsets : coreOffsets = List.range' (0x98 + 4)
      (coreBuffers (state.bessMemoryLayout (position + sgbNativeContinuationBlockLen))).length 8 := rfl
  rw [file,offsets,adjustOffsets_writeBuffers _ _ _ _ 0x98 _ _ ?_ ?_,moved_coreBuffers,← file]
  · rw [length_append,length_append,length_append,length_append,before,four,coreId,length_coreRegisters]
  · intro buffer inside
    obtain ⟨fits,behind⟩ := coreBuffers_sound hram buffer inside
    refine ⟨fits,fun _ nonzero => ?_⟩
    have past := behind nonzero
    omega

end Continuation

theorem projectReplayStateBytes_14 (now : UInt64) :
    projectReplayStateBytes (state.encodeStateBytesWithVersion 14 now) =
      (.ok (),state.encodeStateBytesWithVersion 12 now) := by
  have native := state.length_nativePayload 14
  have memory := state.length_bessMemory
  have fits := state.bus.stateFits
  have block : sgbNativeContinuationBlockLen = 122 := rfl
  have length := state.length_sgbNativeContinuation
  have word : 101 + state.bus.state.length + state.bessMemory.length + 0x100000 < 2^32 := by omega
  have shifted : 101 + state.bus.state.length + sgbNativeContinuationBlockLen + state.bessMemory.length =
      101 + state.bus.state.length + state.bessMemory.length + sgbNativeContinuationBlockLen := add_right_comm _ _ _
  rw [encode_14,encode_12,shifted]
  generalize link : 101 + state.bus.state.length + state.bessMemory.length = first at word ⊢
  generalize 101 + state.bus.state.length = position at native link ⊢
  obtain ⟨magic,header,version⟩ := @header_portableFile state 14 (position + sgbNativeContinuationBlockLen)
    (first + sgbNativeContinuationBlockLen) state.sgbNativeContinuation state.zeffFileBlock.bytes now (by decide)
  obtain ⟨extension,located,drained⟩ := @locate_portableFile state 14 (position + sgbNativeContinuationBlockLen)
    (first + sgbNativeContinuationBlockLen) state.sgbNativeContinuation now (by omega) (by omega)
  have offset := @footer_portableFile state 14 (position + sgbNativeContinuationBlockLen) (first + sgbNativeContinuationBlockLen)
    state.sgbNativeContinuation state.zeffFileBlock.bytes now (by omega)
  have start := @sgbNativeContinuationStart_portableFile state 14 _ (first + sgbNativeContinuationBlockLen)
    state.zeffFileBlock.bytes now native
  have payload : bessMbcRamOffset (state.portableFile 14 (position + sgbNativeContinuationBlockLen)
      state.sgbNativeContinuation state.zeffFileBlock.bytes now (first + sgbNativeContinuationBlockLen))
      (first + sgbNativeContinuationBlockLen) = .ok (position + sgbNativeContinuationBlockLen) := by
    have total := @length_portableFile state 14 (position + sgbNativeContinuationBlockLen)
      (first + sgbNativeContinuationBlockLen) state.sgbNativeContinuation state.zeffFileBlock.bytes now
    have zeffLength : state.zeffFileBlock.bytes.length = 8 + 92168 := by
      rw [FileBlock.length_bytes,length_zeffFileBlock]
      rfl
    exact bessMbcRamOffset_blocksFile (by rw [length_append,length_append]; omega) (by omega)
      (total.trans_lt (by omega))
  have removed : drain (state.portableFile 14 (position + sgbNativeContinuationBlockLen) state.sgbNativeContinuation [] now
      (first + sgbNativeContinuationBlockLen)) position (position + sgbNativeContinuationBlockLen) =
      .ok (state.portableFile 14 (position + sgbNativeContinuationBlockLen) [] [] now
        (first + sgbNativeContinuationBlockLen)) := by
    have file : state.portableFile 14 (position + sgbNativeContinuationBlockLen) state.sgbNativeContinuation [] now
        (first + sgbNativeContinuationBlockLen) = state.nativePayload 14 ++ (state.sgbNativeContinuation ++
          (state.bessMemory ++ (chainBytes state.frontBlocks ++
            ((state.coreFileBlock (position + sgbNativeContinuationBlockLen)).bytes ++ (chainBytes (state.backBlocks now) ++
              (endFileBlock.bytes ++ (writeU32 (first + sgbNativeContinuationBlockLen) ++ bessMagic))))))) := by
      simp only [portableFile,blocksFile,append_assoc,nil_append]
    have inside : position + sgbNativeContinuationBlockLen ≤ (state.portableFile 14 (position + sgbNativeContinuationBlockLen)
        state.sgbNativeContinuation [] now (first + sgbNativeContinuationBlockLen)).length := by
      rw [file,length_append,length_append]
      omega
    rw [drain_of_le (Nat.le_add_right position _) inside,file,cut_at _ state.sgbNativeContinuation _ _ _ native
      (by rw [length])]
    simp only [portableFile,blocksFile,append_assoc,nil_append]
  obtain ⟨_,missing⟩ | ⟨zbex,first',found,offset',plan⟩ := planProjection_cases
    (state.portableFile 14 (position + sgbNativeContinuationBlockLen) state.sgbNativeContinuation state.zeffFileBlock.bytes
      now (first + sgbNativeContinuationBlockLen)) 14
  · exact absurd offset (missing extension _ located)
  · obtain rfl : extension = zbex := Option.some.inj (Except.ok.inj (located.symm.trans found))
    obtain rfl : first + sgbNativeContinuationBlockLen = first' := Except.ok.inj (offset.symm.trans offset')
    rw [if_pos le_rfl,payload,ok_bind,start,ok_bind] at plan
    rw [projectReplayStateBytes_plan magic header version (.inr rfl) plan,applyProjection,drained]
    dsimp only
    rw [removed]
    dsimp only
    rw [adjust_portableFile native link word]
    exact stampVersion_portableFile

theorem footer_encode_12 (now : UInt64) :
    ∃ first, bessFirstBlockOffset (state.encodeStateBytesWithVersion 12 now) = .ok first ∧
      bessMbcRamOffset (state.encodeStateBytesWithVersion 12 now) first = .ok (state.nativePayload 12).length := by
  have native := state.length_nativePayload 12
  have memory := state.length_bessMemory
  have fits := state.bus.stateFits
  rw [encode_12,native]
  have total := @length_portableFile state 12 (101 + state.bus.state.length)
    (101 + state.bus.state.length + state.bessMemory.length) [] [] now
  refine ⟨_,footer_portableFile (by omega),?_⟩
  exact bessMbcRamOffset_blocksFile (by rw [nil_append,length_append,native]) (by omega) (total.trans_lt (by simp))

end SaveStateRef
/-- The projection of an emulator's state is its older encoding; for the bytes of any file, it is atomic exactly when
the end of the native payload fits the file. -/
theorem projectReplayStateBytes_exact (state : SaveStateRef) (now : UInt64) (bytes : Bytes) :
    projectReplayStateBytes (state.encodeStateBytesWithVersion 14 now) =
        (.ok (),state.encodeStateBytesWithVersion 12 now) ∧
      projectReplayStateBytes (state.encodeStateBytesWithVersion 13 now) =
        (.ok (),state.encodeStateBytesWithVersion 12 now) ∧
      (∃ first, bessFirstBlockOffset (state.encodeStateBytesWithVersion 12 now) = .ok first ∧
        bessMbcRamOffset (state.encodeStateBytesWithVersion 12 now) first = .ok (state.nativePayload 12).length) ∧
      (ProjectsAtomically bytes ↔ ContinuationFits bytes) :=
  ⟨state.projectReplayStateBytes_14 now,state.projectReplayStateBytes_13 now,state.footer_encode_12 now,
    projectsAtomically_iff bytes⟩

theorem outlyingRam_not_atomic (header : Bytes) (front back : Bytes) (payload : Nat) (core zbex end' : FileBlock)
    (magic : nativeSaveStateMagic <+: header) (version : ∀ rest, leValue (slice (header ++ rest) 8 12) = 14)
    (behind : nativeLastOpcodeEnd ≤ header.length) (small : header.length < 2^20) (coreId : core.id = blockCore)
    (coreLength : core.data.length = coreBlockLen) (data : core.data = front ++ (writeU32 payload ++ back))
    (place : front.length = 0xAC) (fits : payload < 2^32) (zeff : zbex.id = blockZeffPrivateExtension)
    (whole : zbex.data.length = zeffExtensionBlockLen) (last : end'.id = blockEnd) (empty : end'.data = [])
    (outlying : header.length + 0x20000 < payload) :
    ¬ProjectsAtomically (header ++ (chainBytes [core] ++ (zbex.bytes ++ (end'.bytes ++
      (writeU32 header.length ++ bessMagic))))) := by
  rw [projectsAtomically_iff]
  intro atomic
  have four (value : Nat) : (writeU32 value).length = 4 := length_leBytes 4 _
  have footerLength : bessMagic.length = 4 := rfl
  have hundred : nativeLastOpcodeEnd = 100 := rfl
  have coreSize : coreBlockLen = 208 := rfl
  have size : zeffExtensionBlockLen = 92168 := rfl
  have block : sgbNativeContinuationBlockLen = 122 := rfl
  have one : chainBytes [core] = core.bytes := flatMap_singleton ..
  have coreBytes := core.length_bytes
  have zeffBytes := zbex.length_bytes
  have endBytes := end'.length_bytes
  rw [empty,length_nil] at endBytes
  have ids : ∀ block ∈ [core], block.id ≠ blockEnd ∧ block.id ≠ blockZeffPrivateExtension := by
    intro block inside
    obtain rfl := mem_singleton.mp inside
    rw [coreId]
    decide
  obtain ⟨extension,_,_,located⟩ := locateZeffExtension_chain header [core] zbex end' nativeLastOpcodeEnd ids zeff whole last
    empty behind (by rw [one]; omega)
  obtain ⟨footer,first⟩ := footer_front (header ++ (chainBytes [core] ++ (zbex.bytes ++ end'.bytes))) header.length (by omega)
  simp only [append_assoc] at footer first
  have total : (header ++ (chainBytes [core] ++ (zbex.bytes ++ (end'.bytes ++
      (writeU32 header.length ++ bessMagic))))).length = header.length + 92408 := by
    simp only [one,length_append,four,footerLength]
    omega
  have offset : bessFirstBlockOffset (header ++ (chainBytes [core] ++ (zbex.bytes ++ (end'.bytes ++
      (writeU32 header.length ++ bessMagic))))) = .ok header.length := by
    rw [bessFirstBlockOffset,ensure_pos footer]
    simp only [bailing,Except.mapError,ok_bind]
    exact first
  have pointer : bessMbcRamOffset (header ++ (chainBytes [core] ++ (zbex.bytes ++ (end'.bytes ++
      (writeU32 header.length ++ bessMagic))))) header.length = .ok payload := by
    have found := findCore_found header (zbex.bytes ++ (end'.bytes ++ (writeU32 header.length ++ bessMagic))) core
      (header.length + 92408 - 8) coreId coreLength (by omega) (by omega)
    have file : header ++ (chainBytes [core] ++ (zbex.bytes ++ (end'.bytes ++ (writeU32 header.length ++ bessMagic)))) =
        (header ++ core.id ++ writeU32 core.data.length ++ front) ++ (writeU32 payload ++ (back ++ (zbex.bytes ++
          (end'.bytes ++ (writeU32 header.length ++ bessMagic))))) := by
      rw [one,FileBlock.bytes,writeBlockHeader]
      nth_rewrite 2 [data]
      simp only [append_assoc]
    rw [bessMbcRamOffset,total,one,found,ok_bind,← one,readU32Le_of_le (by omega),file,slice_at _ (writeU32 payload) _ _ _ (by
      simp only [length_append,four,core.idLength,place]) (by rw [four]),writeU32,leValue_leBytes 4 _ (by omega)]
  obtain ⟨⟨inside,_⟩,_⟩ := atomic extension _ _ (magic.trans (prefix_append _ _)) (by omega) (version _) located offset
    pointer (by omega)
  omega

def outlyingCore : FileBlock :=
  ⟨blockCore,List.replicate 0xAC 0 ++ (writeU32 0xFFFFFFFF ++ List.replicate 0x20 0),rfl,by
    rw [length_append,length_append,length_replicate,length_replicate,writeU32,length_leBytes]
    decide⟩

def blankExtension : FileBlock :=
  ⟨blockZeffPrivateExtension,List.replicate zeffExtensionBlockLen 0,rfl,by rw [length_replicate]; decide⟩

def blankHeader : Bytes := nativeSaveStateMagic ++ (writeU32 14 ++ List.replicate 88 0)

theorem projectReplayStateBytes_outlyingRam :
    ¬ProjectsAtomically (blankHeader ++ (chainBytes [outlyingCore] ++ (blankExtension.bytes ++
      (SaveStateRef.endFileBlock.bytes ++ (writeU32 blankHeader.length ++ bessMagic))))) := by
  have length : blankHeader.length = 100 := by
    rw [blankHeader,length_append,length_append,length_replicate,writeU32,length_leBytes]
    rfl
  have version (rest : Bytes) : leValue (slice (blankHeader ++ rest) 8 12) = 14 := by
    rw [blankHeader,append_assoc,append_assoc,slice_at _ (writeU32 14) _ 8 12 rfl (by rw [writeU32,length_leBytes]),
      writeU32,leValue_leBytes 4 _ (by decide)]
  have core : outlyingCore.data.length = coreBlockLen := by
    rw [outlyingCore,length_append,length_append,length_replicate,length_replicate,writeU32,length_leBytes]
    rfl
  exact outlyingRam_not_atomic blankHeader (List.replicate 0xAC 0) (List.replicate 0x20 0) 0xFFFFFFFF outlyingCore
    blankExtension SaveStateRef.endFileBlock (prefix_append _ _) version (by rw [length]; decide)
    (by rw [length]; decide) rfl core rfl length_replicate (by decide) rfl length_replicate rfl rfl
    (by rw [length]; decide)

end ZeffBoy.GameBoy
