import ZeffBoy.Library.Patch
import ZeffBoy.Library.Checked

/-! The envelope around the save state of a core: the state, a chain of tagged blocks, the hash of the chain and a footer
that tells where it starts. What is written is what is accepted, byte for byte. -/
namespace ZeffBoy.SaveState
open Library List

abbrev Tag := List.Vector UInt8 4

def zpstFooterMagic : Tag := ⟨[0x5A,0x50,0x53,0x54],rfl⟩ -- ZPST
def zpstAuthTag : Tag := ⟨[0x41,0x55,0x54,0x48],rfl⟩ -- AUTH
def zpstEndTag : Tag := ⟨[0x45,0x4E,0x44,0x20],rfl⟩ -- END

structure ZpstBlock where
  tag : Tag
  payload : Bytes

structure ZpstEnvelope where
  nativePrefix : Bytes
  blocks : List ZpstBlock

structure ZpstWriter where
  nativePrefix : Bytes
  blocks : List ZpstBlock
  maxBytes : UInt64
  maxBlocks : UInt64

abbrev Digest := Bytes → List.Vector UInt8 32

namespace ZpstWriter

def new (nativePrefix : Bytes) (maxBytes maxBlocks : UInt64) : Except String ZpstWriter := do
  ensure (nativePrefix.length ≤ maxBytes.toNat ∧ 2 ≤ maxBlocks.toNat) "invalid ZPST envelope limits"
  .ok ⟨nativePrefix,[],maxBytes,maxBlocks⟩

def blocksLen (blocks : List ZpstBlock) : Except String Nat :=
  blocks.foldlM (fun sum (block : ZpstBlock) => do
    let len ← checkedAdd 8 block.payload.length "ZPST block size overflow"
    checkedAdd sum len "ZPST size overflow") 0

def pushBlock (writer : ZpstWriter) (block : ZpstBlock) : Except String ZpstWriter := do
  ensure (block.tag ≠ zpstAuthTag ∧ block.tag ≠ zpstEndTag) "ZPST reserves AUTH and END block tags"
  let count ← checkedAdd writer.blocks.length 3 "ZPST block overflow"
  ensure (count ≤ writer.maxBlocks.toNat) s!"ZPST block count exceeds maximum {writer.maxBlocks}"
  let sum ← blocksLen writer.blocks
  let sum ← checkedAdd writer.nativePrefix.length sum "ZPST size overflow"
  let sum ← checkedAdd sum (8 + block.payload.length) "ZPST size overflow"
  let encodedLen ← checkedAdd sum (8 + 32 + 8 + 8) "ZPST size overflow"
  ensure (encodedLen ≤ writer.maxBytes.toNat) s!"ZPST envelope exceeds maximum {writer.maxBytes} bytes"
  .ok {writer with blocks := writer.blocks ++ [block]}

def finish (sha256 : Digest) (writer : ZpstWriter) : Except String Bytes := do
  ensure (writer.nativePrefix.length < 2^32) "ZPST first-block offset exceeds u32"
  let firstBlockOffset := writer.nativePrefix.length
  let output ← writer.blocks.foldlM (fun (output : Bytes) block => do
    ensure (block.payload.length < 2^32) "ZPST block exceeds u32"
    .ok (output ++ (block.tag.toList ++ (leBytes 4 block.payload.length ++ block.payload)))) writer.nativePrefix
  let auth := sha256 (slice output firstBlockOffset output.length)
  let output := output ++ (zpstAuthTag.toList ++ (leBytes 4 32 ++ (auth.toList ++ (zpstEndTag.toList ++ (leBytes 4 0 ++
    (leBytes 4 firstBlockOffset ++ zpstFooterMagic.toList))))))
  ensure (output.length ≤ writer.maxBytes.toNat) s!"ZPST envelope exceeds maximum {writer.maxBytes} bytes"
  .ok output

def write (sha256 : Digest) (envelope : ZpstEnvelope) (maxBytes maxBlocks : UInt64) : Except String Bytes := do
  let writer ← new envelope.nativePrefix maxBytes maxBlocks
  let writer ← envelope.blocks.foldlM pushBlock writer
  writer.finish sha256

end ZpstWriter

def tagAt (bytes : Bytes) (offset : Nat) : Tag := List.Vector.ofFn fun index : Fin 4 => byteAt bytes (offset + index)

-- AUTH hashes the blocks in front of it, and nothing but END follows it.
def verifyAuth (sha256 : Digest) (bytes : Bytes) (first footerStart maxBlocks offset count payloadStart len stop : Nat) :
    Except String Unit := do
  ensure (count ≠ maxBlocks ∧ len = 32 ∧ stop + 8 = footerStart ∧
    slice bytes stop footerStart = zpstEndTag.toList ++ leBytes 4 0)
    "ZPST AUTH must be the 32-byte block immediately before END"
  ensure (slice bytes payloadStart stop = (sha256 (slice bytes first offset)).toList) "ZPST authentication failed"

-- A block takes up bytes of the stream, so that they bound the number of blocks.
def parseBlocks (sha256 : Digest) (bytes : Bytes) (first footerStart maxBlocks : Nat) :
    Nat → Nat → Nat → List ZpstBlock → Except String (List ZpstBlock)
  | 0,_,_,_ => .error "ZPST stream is missing AUTH or END"
  | fuel + 1,offset,count,blocks =>
    if offset < footerStart then do
      let count ← checkedAdd count 1 "ZPST block count overflow"
      ensure (count ≤ maxBlocks ∧ 8 ≤ footerStart - offset) "malformed ZPST block stream"
      let tag := tagAt bytes offset
      let len := leValue (slice bytes (offset + 4) (offset + 8))
      let payloadStart ← checkedAdd offset 8 "ZPST offset overflow"
      let stop ← checkedAdd payloadStart len "ZPST block length overflow"
      ensure (stop ≤ footerStart) "truncated ZPST block"
      if tag = zpstAuthTag then
        (verifyAuth sha256 bytes first footerStart maxBlocks offset count payloadStart len stop).map fun _ => blocks
      else if tag = zpstEndTag then .error "ZPST END must follow AUTH"
      else
        parseBlocks sha256 bytes first footerStart maxBlocks fuel stop count (blocks ++ [⟨tag,slice bytes payloadStart stop⟩])
    else .error "ZPST stream is missing AUTH or END"

def parseZpstEnvelope (sha256 : Digest) (bytes : Bytes) (maxBytes maxBlocks : UInt64) : Except String ZpstEnvelope := do
  ensure (bytes.length ≤ maxBytes.toNat ∧ 24 ≤ bytes.length ∧ 2 ≤ maxBlocks.toNat) "invalid or oversized ZPST envelope"
  let footerStart := bytes.length - 8
  ensure (slice bytes (footerStart + 4) bytes.length = zpstFooterMagic.toList) "missing ZPST footer"
  let first := leValue (slice bytes footerStart (footerStart + 4))
  ensure (first ≤ footerStart) "ZPST first-block offset exceeds footer"
  let blocks ← parseBlocks sha256 bytes first footerStart maxBlocks.toNat bytes.length first 0 []
  .ok ⟨slice bytes 0 first,blocks⟩

def ZpstBlock.bytes (block : ZpstBlock) : Bytes := block.tag.toList ++ (leBytes 4 block.payload.length ++ block.payload)

def streamBytes (blocks : List ZpstBlock) : Bytes := blocks.flatMap ZpstBlock.bytes

def authBytes (sha256 : Digest) (hashed : Bytes) : Bytes :=
  zpstAuthTag.toList ++ (leBytes 4 32 ++ ((sha256 hashed).toList ++ (zpstEndTag.toList ++ leBytes 4 0)))

namespace ZpstEnvelope

def bytes (sha256 : Digest) (envelope : ZpstEnvelope) : Bytes :=
  envelope.nativePrefix ++ (streamBytes envelope.blocks ++ (authBytes sha256 (streamBytes envelope.blocks) ++
    (leBytes 4 envelope.nativePrefix.length ++ zpstFooterMagic.toList)))

/-- The envelopes inside the limits. -/
structure Fits (envelope : ZpstEnvelope) (maxBytes maxBlocks : UInt64) : Prop where
  prefixFits : envelope.nativePrefix.length < 2^32
  tags : ∀ block ∈ envelope.blocks, block.tag ≠ zpstAuthTag ∧ block.tag ≠ zpstEndTag
  payloads : ∀ block ∈ envelope.blocks, block.payload.length < 2^32
  few : envelope.blocks.length + 2 ≤ maxBlocks.toNat
  small : envelope.nativePrefix.length + (streamBytes envelope.blocks).length + 56 ≤ maxBytes.toNat

end ZpstEnvelope

theorem length_blockBytes (block : ZpstBlock) : block.bytes.length = 8 + block.payload.length := by
  rw [ZpstBlock.bytes,length_append,length_append,length_leBytes,List.Vector.toList_length]
  omega

theorem streamBytes_append (front back : List ZpstBlock) :
    streamBytes (front ++ back) = streamBytes front ++ streamBytes back := flatMap_append

theorem streamBytes_cons (block : ZpstBlock) (blocks : List ZpstBlock) :
    streamBytes (block::blocks) = block.bytes ++ streamBytes blocks := flatMap_cons

theorem length_authBytes (sha256 : Digest) (hashed : Bytes) : (authBytes sha256 hashed).length = 48 := by
  simp only [authBytes,length_append,length_leBytes,List.Vector.toList_length]

namespace ZpstWriter

theorem blocksLen_ok (blocks : List ZpstBlock) (sum : Nat) : blocksLen blocks = .ok sum ↔
    (streamBytes blocks).length < 2^64 ∧ sum = (streamBytes blocks).length := by
  have general (start : Nat) (small : start < 2^64) : blocks.foldlM (fun sum (block : ZpstBlock) => do
      let len ← checkedAdd 8 block.payload.length "ZPST block size overflow"
      checkedAdd sum len "ZPST size overflow") start = .ok sum ↔
      start + (streamBytes blocks).length < 2^64 ∧ sum = start + (streamBytes blocks).length := by
    induction blocks generalizing start with
    | nil =>
      rw [foldlM_nil,streamBytes,flatMap_nil,length_nil,add_zero]
      constructor
      · intro same
        cases same
        exact ⟨small,rfl⟩
      · rintro ⟨_,rfl⟩
        rfl
    | cons block blocks ih =>
      rw [foldlM_cons,bind_ok,streamBytes_cons,length_append,length_blockBytes]
      constructor
      · rintro ⟨next,added,rest⟩
        obtain ⟨len,one,added⟩ := bind_ok.mp added
        obtain ⟨_,rfl⟩ := checkedAdd_ok.mp one
        obtain ⟨fits,rfl⟩ := checkedAdd_ok.mp added
        rw [ih _ fits] at rest
        omega
      · rintro ⟨fits,rfl⟩
        refine ⟨start + (8 + block.payload.length),?_,(ih _ (by omega)).mpr (by omega)⟩
        rw [checkedAdd_pos (by omega),ok_bind,checkedAdd_pos (by omega)]
  have whole := general 0 (by norm_num)
  rw [zero_add] at whole
  exact whole

theorem pushBlock_ok (writer next : ZpstWriter) (block : ZpstBlock) : writer.pushBlock block = .ok next ↔
    (block.tag ≠ zpstAuthTag ∧ block.tag ≠ zpstEndTag) ∧ writer.blocks.length + 3 ≤ writer.maxBlocks.toNat ∧
      writer.nativePrefix.length + (streamBytes writer.blocks).length + (8 + block.payload.length) + 56 ≤
        writer.maxBytes.toNat ∧
      next = {writer with blocks := writer.blocks ++ [block]} := by
  have word := writer.maxBytes.toNat_lt
  have blocks := writer.maxBlocks.toNat_lt
  rw [pushBlock,check_bind_ok,ensure_ok]
  constructor
  · rintro ⟨tags,pushed⟩
    obtain ⟨count,counted,pushed⟩ := bind_ok.mp pushed
    obtain ⟨_,rfl⟩ := checkedAdd_ok.mp counted
    obtain ⟨few,pushed⟩ := check_bind_ok.mp pushed
    obtain ⟨sum,summed,pushed⟩ := bind_ok.mp pushed
    obtain ⟨_,rfl⟩ := (blocksLen_ok _ _).mp summed
    obtain ⟨first,added,pushed⟩ := bind_ok.mp pushed
    obtain ⟨_,rfl⟩ := checkedAdd_ok.mp added
    obtain ⟨second,added,pushed⟩ := bind_ok.mp pushed
    obtain ⟨_,rfl⟩ := checkedAdd_ok.mp added
    obtain ⟨third,added,pushed⟩ := bind_ok.mp pushed
    obtain ⟨_,rfl⟩ := checkedAdd_ok.mp added
    obtain ⟨small,pushed⟩ := check_bind_ok.mp pushed
    rw [ensure_ok] at few small
    cases pushed
    exact ⟨tags,few,small,rfl⟩
  · rintro ⟨tags,few,small,rfl⟩
    refine ⟨tags,?_⟩
    rw [checkedAdd_pos (by omega),ok_bind,ensure_pos few,ok_bind,(blocksLen_ok _ _).mpr ⟨by omega,rfl⟩,ok_bind,
      checkedAdd_pos (by omega),ok_bind,checkedAdd_pos (by omega),ok_bind,checkedAdd_pos (by omega),ok_bind,ensure_pos small]
    rfl

theorem pushBlocks_ok (blocks : List ZpstBlock) (writer last : ZpstWriter) : blocks.foldlM pushBlock writer = .ok last ↔
    (∀ block ∈ blocks, block.tag ≠ zpstAuthTag ∧ block.tag ≠ zpstEndTag) ∧
      (blocks ≠ [] → writer.blocks.length + blocks.length + 2 ≤ writer.maxBlocks.toNat ∧
        writer.nativePrefix.length + (streamBytes (writer.blocks ++ blocks)).length + 56 ≤ writer.maxBytes.toNat) ∧
        last = {writer with blocks := writer.blocks ++ blocks} := by
  induction blocks generalizing writer with
  | nil =>
    rw [foldlM_nil,append_nil]
    constructor
    · intro same
      cases same
      exact ⟨by simp,fun some => absurd rfl some,rfl⟩
    · rintro ⟨_,_,rfl⟩
      rfl
  | cons block blocks ih =>
    rw [foldlM_cons,bind_ok]
    have whole : writer.blocks ++ [block] ++ blocks = writer.blocks ++ block::blocks := by simp
    have size : (streamBytes (writer.blocks ++ block::blocks)).length =
        (streamBytes writer.blocks).length + (8 + block.payload.length) + (streamBytes blocks).length := by
      rw [streamBytes_append,streamBytes_cons,length_append,length_append,length_blockBytes]
      omega
    constructor
    · rintro ⟨next,pushed,rest⟩
      obtain ⟨tags,few,small,rfl⟩ := (pushBlock_ok writer next block).mp pushed
      obtain ⟨others,room,rfl⟩ := (ih _).mp rest
      dsimp only at room
      rw [whole,size,length_append,length_singleton] at room
      refine ⟨forall_mem_cons.mpr ⟨tags,others⟩,fun _ => ?_,by rw [whole]⟩
      rw [size,length_cons]
      rcases blocks with _ | ⟨second,blocks⟩
      · simp only [length_nil,streamBytes,flatMap_nil] at small ⊢
        omega
      · have more := room (cons_ne_nil _ _)
        omega
    · rintro ⟨tags,room,rfl⟩
      obtain ⟨first,others⟩ := forall_mem_cons.mp tags
      obtain ⟨few,small⟩ := room (cons_ne_nil _ _)
      rw [size] at small
      rw [length_cons] at few
      refine ⟨{writer with blocks := writer.blocks ++ [block]},(pushBlock_ok _ _ _).mpr ⟨first,by omega,by omega,rfl⟩,
        (ih _).mpr ⟨others,fun _ => ?_,by rw [whole]⟩⟩
      dsimp only
      rw [whole,size,length_append,length_singleton]
      omega

theorem finish_ok (sha256 : Digest) (writer : ZpstWriter) (output : Bytes) : writer.finish sha256 = .ok output ↔
    writer.nativePrefix.length < 2^32 ∧ (∀ block ∈ writer.blocks, block.payload.length < 2^32) ∧
      writer.nativePrefix.length + (streamBytes writer.blocks).length + 56 ≤ writer.maxBytes.toNat ∧
      output = (ZpstEnvelope.mk writer.nativePrefix writer.blocks).bytes sha256 := by
  have written (front : Bytes) (result : Bytes) : writer.blocks.foldlM (fun (output : Bytes) block => do
      ensure (block.payload.length < 2^32) "ZPST block exceeds u32"
      .ok (output ++ (block.tag.toList ++ (leBytes 4 block.payload.length ++ block.payload)))) front = .ok result ↔
      (∀ block ∈ writer.blocks, block.payload.length < 2^32) ∧ result = front ++ streamBytes writer.blocks := by
    induction writer.blocks generalizing front with
    | nil =>
      rw [foldlM_nil,streamBytes,flatMap_nil,append_nil]
      constructor
      · intro same
        cases same
        exact ⟨by simp,rfl⟩
      · rintro ⟨_,rfl⟩
        rfl
    | cons block blocks ih =>
      rw [foldlM_cons,bind_ok,forall_mem_cons,streamBytes_cons,
        ← append_assoc front block.bytes]
      constructor
      · rintro ⟨next,one,rest⟩
        obtain ⟨fits,one⟩ := check_bind_ok.mp one
        rw [ensure_ok] at fits
        cases one
        obtain ⟨others,rfl⟩ := (ih _).mp rest
        exact ⟨⟨fits,others⟩,rfl⟩
      · rintro ⟨⟨fits,others⟩,rfl⟩
        refine ⟨front ++ block.bytes,?_,(ih _).mpr ⟨others,rfl⟩⟩
        rw [ensure_pos fits]
        rfl
  have hashed (first : Bytes) (blocks : List ZpstBlock) :
      slice (first ++ streamBytes blocks) first.length (first ++ streamBytes blocks).length = streamBytes blocks := by
    rw [slice_skip first _ _ _ le_rfl,Nat.sub_self,length_append,Nat.add_sub_cancel_left,slice_all _ _ rfl]
  have layout (first : Bytes) (blocks : List ZpstBlock) (auth : List.Vector UInt8 32)
      (same : auth = sha256 (streamBytes blocks)) : first ++ streamBytes blocks ++ (zpstAuthTag.toList ++ (leBytes 4 32 ++
        (auth.toList ++ (zpstEndTag.toList ++ (leBytes 4 0 ++ (leBytes 4 first.length ++ zpstFooterMagic.toList)))))) =
      (ZpstEnvelope.mk first blocks).bytes sha256 := by
    subst same
    simp only [ZpstEnvelope.bytes,authBytes,append_assoc]
  rw [finish,check_bind_ok,ensure_ok]
  constructor
  · rintro ⟨first,finished⟩
    obtain ⟨front,stream,finished⟩ := bind_ok.mp finished
    obtain ⟨payloads,rfl⟩ := (written _ _).mp stream
    obtain ⟨small,finished⟩ := check_bind_ok.mp finished
    rw [ensure_ok] at small
    cases finished
    rw [hashed] at small ⊢
    rw [layout _ _ _ rfl]
    simp only [length_append,List.Vector.toList_length,length_leBytes] at small
    exact ⟨first,payloads,by omega,rfl⟩
  · rintro ⟨first,payloads,small,rfl⟩
    refine ⟨first,?_⟩
    rw [(written _ _).mpr ⟨payloads,rfl⟩,ok_bind]
    dsimp only
    rw [hashed,ensure_pos,layout _ _ _ rfl]
    · rfl
    · simp only [length_append,List.Vector.toList_length,length_leBytes]
      omega

theorem write_ok (sha256 : Digest) (envelope : ZpstEnvelope) (maxBytes maxBlocks : UInt64) (output : Bytes) :
    write sha256 envelope maxBytes maxBlocks = .ok output ↔
      envelope.Fits maxBytes maxBlocks ∧ output = envelope.bytes sha256 := by
  rw [write,bind_ok]
  constructor
  · rintro ⟨writer,created,pushed⟩
    obtain ⟨limits,created⟩ := check_bind_ok.mp created
    rw [ensure_ok] at limits
    cases created
    obtain ⟨last,pushed,finished⟩ := bind_ok.mp pushed
    obtain ⟨tags,room,rfl⟩ := (pushBlocks_ok _ _ _).mp pushed
    obtain ⟨first,payloads,small,rfl⟩ := (finish_ok _ _ _).mp finished
    rw [nil_append] at payloads small ⊢
    refine ⟨⟨first,tags,payloads,?_,small⟩,rfl⟩
    rcases blocks : envelope.blocks with _ | ⟨block,blocks⟩
    · simpa using limits.2
    · have few := (room (by rw [blocks]; exact cons_ne_nil _ _)).1
      rw [blocks] at few
      simpa using few
  · rintro ⟨fits,rfl⟩
    refine ⟨⟨envelope.nativePrefix,[],maxBytes,maxBlocks⟩,?_,?_⟩
    · have few := fits.few
      have small := fits.small
      rw [new,ensure_pos ⟨by omega,by omega⟩]
      rfl
    · rw [bind_ok]
      refine ⟨_,(pushBlocks_ok _ _ _).mpr ⟨fits.tags,fun _ => ⟨?_,fits.small⟩,rfl⟩,
        (finish_ok _ _ _).mpr ⟨fits.prefixFits,fits.payloads,fits.small,rfl⟩⟩
      have few := fits.few
      dsimp only
      rw [length_nil]
      omega

end ZpstWriter

theorem toList_tagAt {bytes : Bytes} {offset : Nat} (inside : offset + 4 ≤ bytes.length) :
    (tagAt bytes offset).toList = slice bytes offset (offset + 4) := by
  rw [tagAt,List.Vector.toList_ofFn]
  apply ext_getElem
  · rw [length_ofFn,length_slice bytes _ _ inside,Nat.add_sub_cancel_left]
  · intro index near near'
    rw [length_ofFn] at near
    have place : offset + index < bytes.length := by omega
    simp only [List.getElem_ofFn,slice,getElem_take,getElem_drop]
    rw [byteAt,getD_eq_getElem?_getD,List.getElem?_eq_getElem place]
    rfl

theorem tagAt_eq {bytes rest : Bytes} {offset : Nat} {tag : Tag} (layout : bytes.drop offset = tag.toList ++ rest) :
    tagAt bytes offset = tag := by
  have length := congrArg List.length layout
  rw [length_drop,length_append,List.Vector.toList_length] at length
  apply List.Vector.toList_injective
  have front := slice_drop bytes offset 0 4
  rw [add_zero,layout,slice_front _ _ 4 tag.toList_length] at front
  rw [toList_tagAt (by omega),front]

theorem parseBlocks_step (sha256 : Digest) (bytes : Bytes) (first footerStart maxBlocks fuel offset count : Nat)
    (blocks result : List ZpstBlock) (word : maxBlocks < 2^64) (small : footerStart < 2^64) :
    parseBlocks sha256 bytes first footerStart maxBlocks (fuel + 1) offset count blocks = .ok result ↔
      count + 1 ≤ maxBlocks ∧ offset + 8 ≤ footerStart ∧ ∃ len, len = leValue (slice bytes (offset + 4) (offset + 8)) ∧
        offset + 8 + len ≤ footerStart ∧
        (tagAt bytes offset = zpstAuthTag ∧ count + 1 ≠ maxBlocks ∧ len = 32 ∧ offset + 8 + len + 8 = footerStart ∧
            slice bytes (offset + 8 + len) footerStart = zpstEndTag.toList ++ leBytes 4 0 ∧
            slice bytes (offset + 8) (offset + 8 + len) = (sha256 (slice bytes first offset)).toList ∧ result = blocks ∨
          tagAt bytes offset ≠ zpstAuthTag ∧ tagAt bytes offset ≠ zpstEndTag ∧
            parseBlocks sha256 bytes first footerStart maxBlocks fuel (offset + 8 + len) (count + 1)
              (blocks ++ [⟨tagAt bytes offset,slice bytes (offset + 8) (offset + 8 + len)⟩]) = .ok result) := by
  rw [parseBlocks]
  constructor
  · intro parsed
    split at parsed
    · obtain ⟨next,counted,parsed⟩ := bind_ok.mp parsed
      obtain ⟨_,rfl⟩ := checkedAdd_ok.mp counted
      obtain ⟨room,parsed⟩ := check_bind_ok.mp parsed
      obtain ⟨payloadStart,started,parsed⟩ := bind_ok.mp parsed
      obtain ⟨_,rfl⟩ := checkedAdd_ok.mp started
      obtain ⟨stop,stopped,parsed⟩ := bind_ok.mp parsed
      obtain ⟨_,rfl⟩ := checkedAdd_ok.mp stopped
      obtain ⟨inside,parsed⟩ := check_bind_ok.mp parsed
      rw [ensure_ok] at room inside
      refine ⟨room.1,by omega,_,rfl,inside,?_⟩
      split at parsed
      · rename_i auth
        cases verified : verifyAuth sha256 bytes first footerStart maxBlocks offset (count + 1) (offset + 8)
            (leValue (slice bytes (offset + 4) (offset + 8))) (offset + 8 + leValue (slice bytes (offset + 4) (offset + 8))) with
        | error error =>
          rw [verified] at parsed
          cases parsed
        | ok _ =>
          rw [verified] at parsed
          cases parsed
          obtain ⟨form,hash⟩ := check_bind_ok.mp verified
          rw [ensure_ok] at form hash
          exact .inl ⟨auth,form.1,form.2.1,form.2.2.1,form.2.2.2,hash,rfl⟩
      · rename_i other
        split at parsed
        · cases parsed
        · rename_i more
          exact .inr ⟨other,more,parsed⟩
    · cases parsed
  · rintro ⟨few,room,len,rfl,inside,rest⟩
    rw [if_pos (by omega),checkedAdd_pos (by omega),ok_bind,ensure_pos ⟨few,by omega⟩,ok_bind]
    dsimp only
    rw [checkedAdd_pos (by omega),ok_bind,checkedAdd_pos (by omega),ok_bind,ensure_pos inside,ok_bind]
    rcases rest with ⟨auth,some,size,stop,last,hash,rfl⟩ | ⟨other,more,rest⟩
    · rw [if_pos auth,verifyAuth,ensure_pos ⟨some,size,stop,last⟩,ok_bind,ensure_pos hash]
      rfl
    · rw [if_neg other,if_neg more]
      exact rest

theorem parseBlocks_ok (sha256 : Digest) (bytes : Bytes) (first footerStart maxBlocks fuel offset count : Nat)
    (blocks result : List ZpstBlock) (word : maxBlocks < 2^64) (small : footerStart < 2^64)
    (behind : first ≤ offset) (footer : footerStart ≤ bytes.length) (enough : footerStart < offset + fuel) :
    parseBlocks sha256 bytes first footerStart maxBlocks fuel offset count blocks = .ok result ↔
      ∃ more, result = blocks ++ more ∧ (∀ block ∈ more, block.tag ≠ zpstAuthTag ∧ block.tag ≠ zpstEndTag) ∧
        (∀ block ∈ more, block.payload.length < 2^32) ∧ count + more.length + 2 ≤ maxBlocks ∧ offset ≤ footerStart ∧
        bytes.drop offset = streamBytes more ++ (authBytes sha256 (slice bytes first offset ++ streamBytes more) ++
          bytes.drop footerStart) := by
  induction fuel generalizing offset count blocks with
  | zero =>
    refine iff_of_false (fun parsed => by cases parsed) ?_
    rintro ⟨_,_,_,_,_,inside,_⟩
    omega
  | succ fuel ih =>
    rw [parseBlocks_step sha256 bytes first footerStart maxBlocks fuel offset count blocks result word small]
    constructor
    · rintro ⟨few,room,len,size,inside,rest⟩
      have tag := toList_tagAt (show offset + 4 ≤ bytes.length by omega)
      have lengthBytes := leBytes_leValue (slice bytes (offset + 4) (offset + 8))
      rw [length_slice bytes _ _ (by omega),show offset + 8 - (offset + 4) = 4 by omega,← size] at lengthBytes
      have bound := leValue_lt (slice bytes (offset + 4) (offset + 8))
      rw [length_slice bytes _ _ (by omega),show offset + 8 - (offset + 4) = 4 by omega,← size] at bound
      have payload := length_slice bytes (offset + 8) (offset + 8 + len) (by omega)
      rw [Nat.add_sub_cancel_left] at payload
      have front : bytes.drop offset = (tagAt bytes offset).toList ++ (leBytes 4 len ++
          (slice bytes (offset + 8) (offset + 8 + len) ++ bytes.drop (offset + 8 + len))) := by
        rw [tag,lengthBytes,← slice_append_drop bytes (by omega),← slice_append_drop bytes (by omega),
          ← slice_append_drop bytes (by omega)]
      rcases rest with ⟨auth,some,whole,stop,last,hash,rfl⟩ | ⟨other,more,rest⟩
      · refine ⟨[],by rw [append_nil],by simp,by simp,by rw [length_nil]; omega,by omega,?_⟩
        have end' : bytes.drop (offset + 8 + len) = zpstEndTag.toList ++ leBytes 4 0 ++ bytes.drop footerStart := by
          rw [slice_append_drop bytes (show offset + 8 + len ≤ footerStart by omega),last]
        rw [front,auth,hash,end',whole,streamBytes,flatMap_nil,append_nil,authBytes]
        simp only [append_assoc,nil_append]
      · obtain ⟨later,joined,tags,payloads,room',_,layout⟩ := (ih _ _ _ (by omega) (by omega)).mp rest
        refine ⟨⟨tagAt bytes offset,slice bytes (offset + 8) (offset + 8 + len)⟩::later,by rw [joined]; simp,
          forall_mem_cons.mpr ⟨⟨other,more⟩,tags⟩,forall_mem_cons.mpr ⟨by rw [payload]; omega,payloads⟩,
          by rw [length_cons]; omega,by omega,?_⟩
        have block : slice bytes offset (offset + 8 + len) =
            (ZpstBlock.mk (tagAt bytes offset) (slice bytes (offset + 8) (offset + 8 + len))).bytes := by
          have cut := slice_append_drop bytes (show offset ≤ offset + 8 + len by omega)
          rw [front,← append_assoc,← append_assoc] at cut
          rw [ZpstBlock.bytes,payload,← append_assoc]
          exact (append_cancel_right cut).symm
        rw [slice_append_drop bytes (show offset ≤ offset + 8 + len by omega),layout,block,streamBytes_cons,
          ← slice_split bytes behind (show offset ≤ offset + 8 + len by omega),block]
        simp only [append_assoc]
    · rintro ⟨more,rfl,tags,payloads,few,inside,layout⟩
      have length := congrArg List.length layout
      rw [length_append,length_append,length_authBytes,length_drop,length_drop] at length
      rcases more with _ | ⟨block,more⟩
      · rw [streamBytes,flatMap_nil,length_nil] at length
        rw [streamBytes,flatMap_nil,nil_append,append_nil,authBytes] at layout
        simp only [append_assoc] at layout
        have len : slice bytes (offset + 4) (offset + 8) = leBytes 4 32 := by
          rw [← slice_drop,layout,slice_at _ _ _ 4 8 (List.Vector.toList_length _) (by rw [length_leBytes])]
        have value : leValue (leBytes 4 32) = 32 := leValue_leBytes 4 32 (by norm_num)
        have hash : slice bytes (offset + 8) (offset + 8 + 32) = (sha256 (slice bytes first offset)).toList := by
          rw [add_assoc,← slice_drop,layout,← append_assoc,
            slice_at _ _ _ 8 (8 + 32) (by rw [length_append,List.Vector.toList_length,length_leBytes])
              (by rw [List.Vector.toList_length])]
        have last : slice bytes (offset + 8 + 32) footerStart = zpstEndTag.toList ++ leBytes 4 0 := by
          rw [show footerStart = offset + 48 by omega,show offset + 8 + 32 = offset + 40 by omega,← slice_drop,layout,
            ← append_assoc,← append_assoc,← append_assoc zpstEndTag.toList,
            slice_at _ _ _ 40 48 (by simp only [length_append,List.Vector.toList_length,length_leBytes])
              (by simp only [length_append,List.Vector.toList_length,length_leBytes])]
        rw [length_nil] at few
        exact ⟨by omega,by omega,32,by rw [len,value],by omega,
          .inl ⟨tagAt_eq layout,by omega,rfl,by omega,last,hash,by rw [append_nil]⟩⟩
      · obtain ⟨⟨other,notEnd⟩,others⟩ := forall_mem_cons.mp tags
        obtain ⟨fits,later⟩ := forall_mem_cons.mp payloads
        rw [streamBytes_cons,length_append,length_blockBytes] at length
        rw [length_cons] at few
        rw [streamBytes_cons,append_assoc] at layout
        have whole := layout
        rw [ZpstBlock.bytes] at layout
        simp only [append_assoc] at layout
        have len : slice bytes (offset + 4) (offset + 8) = leBytes 4 block.payload.length := by
          rw [← slice_drop,layout,slice_at _ _ _ 4 8 (List.Vector.toList_length _) (by rw [length_leBytes])]
        have value : leValue (leBytes 4 block.payload.length) = block.payload.length :=
          leValue_leBytes 4 _ (fits.trans_le (by norm_num))
        have payload : slice bytes (offset + 8) (offset + 8 + block.payload.length) = block.payload := by
          rw [add_assoc,← slice_drop,layout,← append_assoc,
            slice_at _ _ _ 8 (8 + block.payload.length)
              (by rw [length_append,List.Vector.toList_length,length_leBytes]) rfl]
        have cut : slice bytes offset (offset + 8 + block.payload.length) = block.bytes := by
          have front := slice_drop bytes offset 0 (8 + block.payload.length)
          rw [whole,slice_front _ _ _ (length_blockBytes block),add_zero,← add_assoc] at front
          exact front.symm
        have behind' : bytes.drop (offset + 8 + block.payload.length) = streamBytes more ++
            (authBytes sha256 (slice bytes first (offset + 8 + block.payload.length) ++ streamBytes more) ++
              bytes.drop footerStart) := by
          rw [← slice_split bytes behind (show offset ≤ offset + 8 + block.payload.length by omega),cut,append_assoc,
            add_assoc,← length_blockBytes,← drop_drop,whole,drop_left]
        have tag := tagAt_eq layout
        refine ⟨by omega,by omega,block.payload.length,by rw [len,value],by omega,.inr ⟨by rwa [tag],by rwa [tag],?_⟩⟩
        rw [tag,payload,ih _ _ _ (by omega) (by omega)]
        exact ⟨more,by simp,others,later,by omega,by omega,behind'⟩

theorem parseZpstEnvelope_ok (sha256 : Digest) (bytes : Bytes) (envelope : ZpstEnvelope) (maxBytes maxBlocks : UInt64) :
    parseZpstEnvelope sha256 bytes maxBytes maxBlocks = .ok envelope ↔
      envelope.Fits maxBytes maxBlocks ∧ bytes = envelope.bytes sha256 := by
  have word := maxBytes.toNat_lt
  rw [parseZpstEnvelope]
  constructor
  · intro parsed
    obtain ⟨limits,parsed⟩ := check_bind_ok.mp parsed
    obtain ⟨magic,parsed⟩ := check_bind_ok.mp parsed
    obtain ⟨inside,parsed⟩ := check_bind_ok.mp parsed
    obtain ⟨blocks,read,parsed⟩ := bind_ok.mp parsed
    rw [ensure_ok] at limits magic inside
    cases parsed
    have front := slice_append_drop bytes (Nat.zero_le (leValue (slice bytes (bytes.length - 8) (bytes.length - 8 + 4))))
    have length := leBytes_leValue (slice bytes (bytes.length - 8) (bytes.length - 8 + 4))
    have bound := leValue_lt (slice bytes (bytes.length - 8) (bytes.length - 8 + 4))
    rw [length_slice bytes _ _ (by omega),Nat.add_sub_cancel_left] at length bound
    have footer : bytes.drop (bytes.length - 8) =
        leBytes 4 (leValue (slice bytes (bytes.length - 8) (bytes.length - 8 + 4))) ++ zpstFooterMagic.toList := by
      rw [slice_append_drop bytes (show bytes.length - 8 ≤ bytes.length - 8 + 4 by omega),length,
        slice_append_drop bytes (show bytes.length - 8 + 4 ≤ bytes.length by omega),magic,drop_length,append_nil]
    generalize leValue (slice bytes (bytes.length - 8) (bytes.length - 8 + 4)) = first at *
    obtain ⟨more,rfl,tags,payloads,few,_,layout⟩ := (parseBlocks_ok sha256 bytes first (bytes.length - 8) maxBlocks.toNat
      bytes.length first 0 [] blocks maxBlocks.toNat_lt (by omega) le_rfl (by omega) (by omega)).mp read
    have size := length_slice bytes 0 first (by omega)
    rw [slice_empty,nil_append] at layout
    rw [drop_zero,layout,footer] at front
    have total := congrArg List.length front
    simp only [length_append,length_authBytes,length_leBytes,List.Vector.toList_length,size] at total
    refine ⟨⟨by rw [size]; omega,tags,payloads,by dsimp only; omega,by dsimp only; rw [size]; omega⟩,?_⟩
    rw [ZpstEnvelope.bytes]
    dsimp only
    rw [size]
    exact front
  · rintro ⟨fits,rfl⟩
    have prefixFits := fits.prefixFits
    have few := fits.few
    have small := fits.small
    have length : (envelope.bytes sha256).length =
        envelope.nativePrefix.length + (streamBytes envelope.blocks).length + 56 := by
      simp only [ZpstEnvelope.bytes,length_append,length_authBytes,length_leBytes,List.Vector.toList_length]
      omega
    have stop : (envelope.bytes sha256).length - 8 =
        (envelope.nativePrefix ++ (streamBytes envelope.blocks ++ authBytes sha256 (streamBytes envelope.blocks))).length := by
      rw [length,length_append,length_append,length_authBytes]
      omega
    have layout : envelope.bytes sha256 =
        envelope.nativePrefix ++ (streamBytes envelope.blocks ++ authBytes sha256 (streamBytes envelope.blocks)) ++
          (leBytes 4 envelope.nativePrefix.length ++ zpstFooterMagic.toList) := by
      simp only [ZpstEnvelope.bytes,append_assoc]
    have footer : (envelope.bytes sha256).drop ((envelope.bytes sha256).length - 8) =
        leBytes 4 envelope.nativePrefix.length ++ zpstFooterMagic.toList := by
      rw [stop,layout,drop_left]
    have offset := slice_drop (envelope.bytes sha256) ((envelope.bytes sha256).length - 8) 0 4
    have magic := slice_drop (envelope.bytes sha256) ((envelope.bytes sha256).length - 8) 4 8
    rw [footer,slice_front _ _ 4 (length_leBytes 4 _),add_zero] at offset
    rw [footer,← append_nil zpstFooterMagic.toList,slice_at _ _ _ 4 8 (length_leBytes 4 _) rfl,
      show (envelope.bytes sha256).length - 8 + 8 = (envelope.bytes sha256).length by omega] at magic
    have value : leValue (leBytes 4 envelope.nativePrefix.length) = envelope.nativePrefix.length :=
      leValue_leBytes 4 _ (prefixFits.trans_le (by norm_num))
    rw [ensure_pos (by omega),ok_bind]
    dsimp only
    rw [ensure_pos magic.symm,ok_bind,← offset,value,ensure_pos (by omega),ok_bind]
    have read := (parseBlocks_ok sha256 (envelope.bytes sha256) envelope.nativePrefix.length
      ((envelope.bytes sha256).length - 8) maxBlocks.toNat (envelope.bytes sha256).length envelope.nativePrefix.length 0 []
      envelope.blocks maxBlocks.toNat_lt (by omega) le_rfl (by omega) (by omega)).mpr
      ⟨envelope.blocks,rfl,fits.tags,fits.payloads,by omega,by omega,by
        rw [slice_empty,nil_append,footer,ZpstEnvelope.bytes,drop_left]⟩
    rw [read,ok_bind]
    have front : slice (envelope.bytes sha256) 0 envelope.nativePrefix.length = envelope.nativePrefix := by
      rw [ZpstEnvelope.bytes,slice_front _ _ _ rfl]
    rw [front]

/-- An envelope is written as the given bytes exactly when these bytes are read as the envelope. -/
theorem write_iff_parseZpstEnvelope (sha256 : Digest) (bytes : Bytes) (envelope : ZpstEnvelope) (maxBytes maxBlocks : UInt64) :
    ZpstWriter.write sha256 envelope maxBytes maxBlocks = .ok bytes ↔
      parseZpstEnvelope sha256 bytes maxBytes maxBlocks = .ok envelope := by
  rw [ZpstWriter.write_ok,parseZpstEnvelope_ok]

end ZeffBoy.SaveState
