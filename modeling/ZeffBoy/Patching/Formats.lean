import ZeffBoy.Library.Turns
import ZeffBoy.Patching.Ips

/-! The patch formats that make a new image, or check all of their records before they write the first one.
The arithmetic of the decoders wraps at 64 bits, as it does in the release build. -/
namespace ZeffBoy.Patching
open Library

/-- The checksum and the decoders of other packages. -/
structure Codecs where
  crc32 : Bytes → UInt32
  xdelta3Decode : Bytes → Bytes → Except String Bytes
  oxideltaDecode : Bytes → Bytes → Except String Bytes

def decodeVarint (data : Bytes) (label : String) (pos : Nat) (result shift : UInt64) : Except String (Nat × Nat) :=
  if data.length ≤ pos then .error s!"{label} varint truncated"
  else
    let byte := (byteAt data pos).toUInt64
    let sum := result + (byte &&& 0x7F) * shift
    if byte &&& 0x80 ≠ 0 then .ok (sum.toNat,pos + 1)
    else decodeVarint data label (pos + 1) (sum + shift <<< 7) (shift <<< 7)
termination_by data.length - pos

theorem decodeVarint_pos {data : Bytes} {label : String} {pos : Nat} {result shift : UInt64} {value next : Nat}
    (read : decodeVarint data label pos result shift = .ok (value,next)) : pos < next ∧ next ≤ data.length := by
  fun_induction decodeVarint data label pos result shift with
  | case1 => cases read
  | case2 pos result shift inside byte sum last =>
    cases read
    omega
  | case3 pos result shift inside byte sum more ih =>
    have reached := ih read
    omega

def readVarint (data : Bytes) (label : String) (pos : Nat) : Except String (Nat × Nat) := decodeVarint data label pos 0 1

def readU32Le (data : Bytes) (offset : Nat) : Nat := leValue (slice data offset (offset + 4))

def hex8 (value : Nat) : String :=
  let digits := Nat.toDigits 16 value
  String.ofList (List.replicate (8 - digits.length) '0' ++ digits)

def verifyPatchCrcs (codecs : Codecs) (patch source : Bytes) (label : String) : Except String Unit := do
  let expectedPatchCrc := readU32Le patch (patch.length - 4)
  let actualPatchCrc := (codecs.crc32 (slice patch 0 (patch.length - 4))).toNat
  let expectedPatch := hex8 expectedPatchCrc
  let actualPatch := hex8 actualPatchCrc
  ensure (actualPatchCrc = expectedPatchCrc) s!"{label} patch CRC mismatch: expected {expectedPatch}, got {actualPatch}"
  let expectedSourceCrc := readU32Le patch (patch.length - 12)
  let actualSourceCrc := (codecs.crc32 source).toNat
  let expectedSource := hex8 expectedSourceCrc
  let actualSource := hex8 actualSourceCrc
  ensure (actualSourceCrc = expectedSourceCrc) s!"{label} source CRC mismatch: expected {expectedSource}, got {actualSource}"

def verifyTargetCrc (codecs : Codecs) (patch target : Bytes) (label : String) : Except String Unit :=
  let expectedCrc := readU32Le patch (patch.length - 8)
  let actualCrc := (codecs.crc32 target).toNat
  let expected := hex8 expectedCrc
  let actual := hex8 actualCrc
  ensure (actualCrc = expectedCrc) s!"{label} target CRC mismatch: expected {expected}, got {actual}"

def repeated {σ : Type} (body : σ → Except String σ) : Nat → σ → Except String σ
  | 0,state => .ok state
  | count + 1,state => body state >>= repeated body count

namespace Bps

def header : Bytes := [0x42,0x50,0x53,0x31] -- BPS1
def footerSize : Nat := 12

structure Cursor where
  pos : Nat
  target : Bytes
  outputOffset : Nat
  sourceRelative : Nat
  targetRelative : Nat

namespace Cursor

def emit (cursor : Cursor) (byte : UInt8) : Cursor :=
  {cursor with target := cursor.target.set cursor.outputOffset byte, outputOffset := cursor.outputOffset + 1}

end Cursor

def sourceRead (source : Bytes) (targetSize : Nat) (cursor : Cursor) : Except String Cursor := do
  ensure (cursor.outputOffset < targetSize) "BPS target overflow (SourceRead)"
  .ok (cursor.emit (if cursor.outputOffset < source.length then byteAt source cursor.outputOffset else 0))

def targetRead (patch : Bytes) (dataEnd targetSize : Nat) (cursor : Cursor) : Except String Cursor := do
  ensure (cursor.pos < dataEnd) "BPS patch truncated (TargetRead)"
  ensure (cursor.outputOffset < targetSize) "BPS target overflow (TargetRead)"
  let written := cursor.emit (byteAt patch cursor.pos)
  .ok {written with pos := written.pos + 1}

def sourceCopy (source : Bytes) (targetSize : Nat) (cursor : Cursor) : Except String Cursor := do
  ensure (cursor.outputOffset < targetSize) "BPS target overflow (SourceCopy)"
  ensure (cursor.sourceRelative < source.length) "BPS source read out of bounds"
  let written := cursor.emit (byteAt source cursor.sourceRelative)
  .ok {written with sourceRelative := written.sourceRelative + 1}

def targetCopy (targetSize : Nat) (cursor : Cursor) : Except String Cursor := do
  ensure (cursor.outputOffset < targetSize) "BPS target overflow (TargetCopy)"
  ensure (cursor.targetRelative < targetSize) "BPS target copy out of bounds"
  let written := cursor.emit (byteAt cursor.target cursor.targetRelative)
  .ok {written with targetRelative := written.targetRelative + 1}

-- The lowest bit of a relative offset is its sign.
def moveRelative (relative raw : Nat) : Nat :=
  if raw % 2 ≠ 0 then (relative + 2^64 - raw / 2) % 2^64 else (relative + raw / 2) % 2^64

def command (source patch : Bytes) (dataEnd targetSize cmd : Nat) (cursor : Cursor) : Except String Cursor :=
  let length := cmd / 4 + 1
  match cmd % 4 with
  | 0 => repeated (sourceRead source targetSize) length cursor
  | 1 => repeated (targetRead patch dataEnd targetSize) length cursor
  | 2 => do
    let (raw,pos) ← readVarint patch "BPS" cursor.pos
    repeated (sourceCopy source targetSize) length
      {cursor with pos := pos, sourceRelative := moveRelative cursor.sourceRelative raw}
  | _ => do
    let (raw,pos) ← readVarint patch "BPS" cursor.pos
    repeated (targetCopy targetSize) length
      {cursor with pos := pos, targetRelative := moveRelative cursor.targetRelative raw}

-- Every command consumes a byte of the patch, so that the patch bounds their number.
def commands (source patch : Bytes) (dataEnd targetSize : Nat) : Nat → Cursor → Except String Bytes
  | 0,cursor => .ok cursor.target
  | fuel + 1,cursor =>
    if cursor.pos < dataEnd then do
      let (cmd,pos) ← readVarint patch "BPS" cursor.pos
      let next ← command source patch dataEnd targetSize cmd {cursor with pos := pos}
      commands source patch dataEnd targetSize fuel next
    else .ok cursor.target

/-- The patch is not read backwards, and the target stays as long as it is. -/
structure Cursor.Onward (before after : Cursor) : Prop where
  pos : before.pos ≤ after.pos
  length : after.target.length = before.target.length

variable {before after : Cursor}

theorem Cursor.Onward.emit (byte : UInt8) (pos : before.pos ≤ after.pos)
    (target : after.target = (before.emit byte).target) : Onward before after :=
  ⟨pos,by rw [target]; exact List.length_set⟩

theorem repeated_onward {body : Cursor → Except String Cursor}
    (onward : ∀ {before after}, body before = .ok after → before.Onward after) {count : Nat}
    (ran : repeated body count before = .ok after) : before.Onward after := by
  induction count generalizing before with
  | zero =>
    cases ran
    exact ⟨le_rfl,rfl⟩
  | succ count ih =>
    obtain ⟨next,first,rest⟩ := bind_ok.mp ran
    exact ⟨(onward first).pos.trans (ih rest).pos,(ih rest).length.trans (onward first).length⟩

theorem command_onward {source patch : Bytes} {dataEnd targetSize cmd : Nat}
    (ran : command source patch dataEnd targetSize cmd before = .ok after) : before.Onward after := by
  unfold command at ran
  dsimp only at ran
  split at ran
  · apply repeated_onward (fun {before after} step => ?_) ran
    obtain ⟨_,rest⟩ := check_bind_ok.mp step
    cases rest
    exact .emit _ le_rfl rfl
  · apply repeated_onward (fun {before after} step => ?_) ran
    obtain ⟨_,rest⟩ := check_bind_ok.mp step
    obtain ⟨_,rest⟩ := check_bind_ok.mp rest
    cases rest
    exact .emit _ (Nat.le_succ before.pos) rfl
  · obtain ⟨⟨raw,pos⟩,read,rest⟩ := bind_ok.mp ran
    have onward := repeated_onward (fun {before after} step => ?_) rest
    · exact ⟨(decodeVarint_pos read).1.le.trans onward.pos,onward.length⟩
    obtain ⟨_,rest⟩ := check_bind_ok.mp step
    obtain ⟨_,rest⟩ := check_bind_ok.mp rest
    cases rest
    exact .emit _ le_rfl rfl
  · obtain ⟨⟨raw,pos⟩,read,rest⟩ := bind_ok.mp ran
    have onward := repeated_onward (fun {before after} step => ?_) rest
    · exact ⟨(decodeVarint_pos read).1.le.trans onward.pos,onward.length⟩
    obtain ⟨_,rest⟩ := check_bind_ok.mp step
    obtain ⟨_,rest⟩ := check_bind_ok.mp rest
    cases rest
    exact .emit _ le_rfl rfl

theorem commands_length {source patch target : Bytes} {dataEnd targetSize fuel : Nat} {cursor : Cursor}
    (ran : commands source patch dataEnd targetSize fuel cursor = .ok target) : target.length = cursor.target.length := by
  induction fuel generalizing cursor with
  | zero =>
    cases ran
    rfl
  | succ fuel ih =>
    unfold commands at ran
    split at ran
    · obtain ⟨_,_,rest⟩ := bind_ok.mp ran
      obtain ⟨next,one,rest⟩ := bind_ok.mp rest
      exact (ih rest).trans (command_onward one).length
    · cases ran
      rfl

-- The body of the loop over the commands.
def turn (source patch : Bytes) (dataEnd targetSize : Nat) (cursor : Cursor) : Except String Cursor := do
  let (cmd,pos) ← readVarint patch "BPS" cursor.pos
  command source patch dataEnd targetSize cmd {cursor with pos := pos}

theorem commands_end (source patch : Bytes) (dataEnd targetSize : Nat) :
    Terminates (fun cursor : Cursor => cursor.pos < dataEnd) (turn source patch dataEnd targetSize) (fun cursor => dataEnd - cursor.pos)
      (commands source patch dataEnd targetSize) fun cursor => .ok cursor.target := by
  apply attempt_terminates
  · exact fun _ => Nat.sub_pos_of_lt
  · intro before after inside ran
    obtain ⟨⟨cmd,pos⟩,read,rest⟩ := bind_ok.mp ran
    have forward := (decodeVarint_pos read).1
    have reached := (command_onward rest).pos
    dsimp only at reached
    omega
  · intro bound cursor inside
    rw [commands,if_pos inside,turn,bind_assoc]
  · intro bound cursor past _
    cases bound with
    | zero => rfl
    | succ bound => rw [commands,if_neg past]

end Bps

def applyBpsPatch (codecs : Codecs) (source patch : Bytes) : Except String Bytes := do
  ensure (Bps.header.length + Bps.footerSize ≤ patch.length) "BPS patch too short"
  ensure (slice patch 0 4 = Bps.header) "BPS patch missing BPS1 header"
  verifyPatchCrcs codecs patch source "BPS"
  let (sourceSize,pos) ← readVarint patch "BPS" 4
  let (targetSize,pos) ← readVarint patch "BPS" pos
  let (metadataSize,pos) ← readVarint patch "BPS" pos
  let romSize := source.length
  ensure (sourceSize = romSize) s!"BPS source size {sourceSize} doesn't match ROM size {romSize}"
  let cursor : Bps.Cursor := ⟨(pos + metadataSize) % 2^64,List.replicate targetSize 0,0,0,0⟩
  let target ← Bps.commands source patch (patch.length - Bps.footerSize) targetSize patch.length cursor
  verifyTargetCrc codecs patch target "BPS"
  .ok target

namespace Ups

def header : Bytes := [0x55,0x50,0x53,0x31] -- UPS1
def footerSize : Nat := 12

structure Cursor where
  pos : Nat
  output : Bytes
  writeOffset : Nat

-- The bytes of one record, up to its terminator.
def recordBytes (source patch : Bytes) (dataEnd targetSize : Nat) (cursor : Cursor) : Except String Cursor :=
  if cursor.pos < dataEnd ∧ byteAt patch cursor.pos ≠ 0 then do
    ensure (cursor.writeOffset < targetSize) "UPS target overflow"
    let sourceByte := if cursor.writeOffset < source.length then byteAt source cursor.writeOffset else 0
    recordBytes source patch dataEnd targetSize
      ⟨cursor.pos + 1,cursor.output.set cursor.writeOffset (sourceByte ^^^ byteAt patch cursor.pos),cursor.writeOffset + 1⟩
  else .ok cursor
termination_by dataEnd - cursor.pos

def records (source patch : Bytes) (dataEnd targetSize : Nat) : Nat → Cursor → Except String Bytes
  | 0,cursor => .ok cursor.output
  | fuel + 1,cursor =>
    if cursor.pos < dataEnd then do
      let (skip,pos) ← readVarint patch "UPS" cursor.pos
      let written ← recordBytes source patch dataEnd targetSize
        {cursor with pos := pos, writeOffset := (cursor.writeOffset + skip) % 2^64}
      let offset := written.pos
      ensure (offset < dataEnd) s!"UPS patch truncated: missing record terminator at offset {offset}"
      records source patch dataEnd targetSize fuel
        {written with pos := offset + 1, writeOffset := (written.writeOffset + 1) % 2^64}
    else .ok cursor.output

theorem recordBytes_onward {source patch : Bytes} {dataEnd targetSize : Nat} {before after : Cursor}
    (ran : recordBytes source patch dataEnd targetSize before = .ok after) :
    before.pos ≤ after.pos ∧ after.output.length = before.output.length := by
  fun_induction recordBytes source patch dataEnd targetSize before with
  | case1 cursor inside ih =>
    obtain ⟨_,rest⟩ := check_bind_ok.mp ran
    obtain ⟨pos,length⟩ := ih rest
    exact ⟨(Nat.le_succ cursor.pos).trans pos,length.trans List.length_set⟩
  | case2 =>
    cases ran
    exact ⟨le_rfl,rfl⟩

theorem records_length {source patch output : Bytes} {dataEnd targetSize fuel : Nat} {cursor : Cursor}
    (ran : records source patch dataEnd targetSize fuel cursor = .ok output) : output.length = cursor.output.length := by
  induction fuel generalizing cursor with
  | zero =>
    cases ran
    rfl
  | succ fuel ih =>
    unfold records at ran
    split at ran
    · obtain ⟨_,_,rest⟩ := bind_ok.mp ran
      obtain ⟨written,one,rest⟩ := bind_ok.mp rest
      obtain ⟨_,rest⟩ := check_bind_ok.mp rest
      exact (ih rest).trans (recordBytes_onward one).2
    · cases ran
      rfl

-- The body of the loop over the records.
def turn (source patch : Bytes) (dataEnd targetSize : Nat) (cursor : Cursor) : Except String Cursor := do
  let (skip,pos) ← readVarint patch "UPS" cursor.pos
  let written ← recordBytes source patch dataEnd targetSize
    {cursor with pos := pos, writeOffset := (cursor.writeOffset + skip) % 2^64}
  let offset := written.pos
  ensure (offset < dataEnd) s!"UPS patch truncated: missing record terminator at offset {offset}"
  .ok {written with pos := offset + 1, writeOffset := (written.writeOffset + 1) % 2^64}

theorem records_end (source patch : Bytes) (dataEnd targetSize : Nat) :
    Terminates (fun cursor : Cursor => cursor.pos < dataEnd) (turn source patch dataEnd targetSize) (fun cursor => dataEnd - cursor.pos)
      (records source patch dataEnd targetSize) fun cursor => .ok cursor.output := by
  apply attempt_terminates
  · exact fun _ => Nat.sub_pos_of_lt
  · intro before after inside ran
    obtain ⟨⟨skip,pos⟩,read,rest⟩ := bind_ok.mp ran
    obtain ⟨written,one,rest⟩ := bind_ok.mp rest
    obtain ⟨_,rest⟩ := check_bind_ok.mp rest
    cases rest
    have forward := (decodeVarint_pos read).1
    have reached := (recordBytes_onward one).1
    dsimp only at reached ⊢
    omega
  · intro bound cursor inside
    simp only [records,if_pos inside,turn,bind_assoc]
    rfl
  · intro bound cursor past _
    cases bound with
    | zero => rfl
    | succ bound => rw [records,if_neg past]

end Ups

def applyUpsPatch (codecs : Codecs) (source patch : Bytes) : Except String Bytes := do
  ensure (Ups.header.length + Ups.footerSize ≤ patch.length) "UPS patch too short"
  ensure (slice patch 0 4 = Ups.header) "UPS patch missing UPS1 header"
  verifyPatchCrcs codecs patch source "UPS"
  let (sourceSize,pos) ← readVarint patch "UPS" 4
  let (targetSize,pos) ← readVarint patch "UPS" pos
  let romSize := source.length
  ensure (sourceSize = romSize) s!"UPS source size {sourceSize} doesn't match ROM size {romSize}"
  let output ← Ups.records source patch (patch.length - Ups.footerSize) targetSize patch.length
    ⟨pos,resize source targetSize,0⟩
  verifyTargetCrc codecs patch output "UPS"
  .ok output

/-- What an accepted patch promises of its source and of its target holds of them: the sizes, and the checksums of the footer. -/
def Promised (codecs : Codecs) (source patch target : Bytes) (label : String) : Prop :=
  ∃ pos next, readVarint patch label 4 = .ok (source.length,pos) ∧ readVarint patch label pos = .ok (target.length,next) ∧
    (codecs.crc32 source).toNat = readU32Le patch (patch.length - 12) ∧
    (codecs.crc32 target).toNat = readU32Le patch (patch.length - 8) ∧
    (codecs.crc32 (slice patch 0 (patch.length - 4))).toNat = readU32Le patch (patch.length - 4)

theorem crcs_verified {codecs : Codecs} {source patch target : Bytes} {label : String}
    (front : verifyPatchCrcs codecs patch source label = .ok ()) (behind : verifyTargetCrc codecs patch target label = .ok ()) :
    (codecs.crc32 source).toNat = readU32Le patch (patch.length - 12) ∧
      (codecs.crc32 target).toNat = readU32Le patch (patch.length - 8) ∧
      (codecs.crc32 (slice patch 0 (patch.length - 4))).toNat = readU32Le patch (patch.length - 4) := by
  obtain ⟨whole,front⟩ := check_bind_ok.mp front
  exact ⟨ensure_ok.mp front,ensure_ok.mp behind,ensure_ok.mp whole⟩

theorem accepted_promised (codecs : Codecs) (source patch target : Bytes) :
    (applyBpsPatch codecs source patch = .ok target → Promised codecs source patch target "BPS") ∧
      (applyUpsPatch codecs source patch = .ok target → Promised codecs source patch target "UPS") := by
  constructor
  · intro applied
    obtain ⟨_,applied⟩ := check_bind_ok.mp applied
    obtain ⟨_,applied⟩ := check_bind_ok.mp applied
    obtain ⟨front,applied⟩ := check_bind_ok.mp applied
    obtain ⟨⟨sourceSize,pos⟩,first,applied⟩ := bind_ok.mp applied
    obtain ⟨⟨targetSize,next⟩,second,applied⟩ := bind_ok.mp applied
    obtain ⟨_,_,applied⟩ := bind_ok.mp applied
    obtain ⟨sized,applied⟩ := check_bind_ok.mp applied
    obtain ⟨written,ran,applied⟩ := bind_ok.mp applied
    obtain ⟨behind,applied⟩ := check_bind_ok.mp applied
    cases applied
    rw [ensure_ok.mp sized] at first
    have length := (Bps.commands_length ran).trans List.length_replicate
    rw [← length] at second
    exact ⟨pos,next,first,second,crcs_verified front behind⟩
  · intro applied
    obtain ⟨_,applied⟩ := check_bind_ok.mp applied
    obtain ⟨_,applied⟩ := check_bind_ok.mp applied
    obtain ⟨front,applied⟩ := check_bind_ok.mp applied
    obtain ⟨⟨sourceSize,pos⟩,first,applied⟩ := bind_ok.mp applied
    obtain ⟨⟨targetSize,next⟩,second,applied⟩ := bind_ok.mp applied
    obtain ⟨sized,applied⟩ := check_bind_ok.mp applied
    obtain ⟨written,ran,applied⟩ := bind_ok.mp applied
    obtain ⟨behind,applied⟩ := check_bind_ok.mp applied
    cases applied
    rw [ensure_ok.mp sized] at first
    have length := (Ups.records_length ran).trans (length_resize source targetSize)
    rw [← length] at second
    exact ⟨pos,next,first,second,crcs_verified front behind⟩

namespace Xdelta

def vcdiffMagic : Bytes := [0xD6,0xC3,0xC4,0x00]
def maxInputBytes : Nat := 512 * 1024 * 1024
def maxOutputBytes : Nat := 512 * 1024 * 1024

end Xdelta

def applyXdeltaPatch (codecs : Codecs) (source patch : Bytes) : Except String Bytes := do
  ensure (5 ≤ patch.length) "xdelta patch header truncated"
  ensure (slice patch 0 4 = Xdelta.vcdiffMagic) "xdelta patch missing VCDIFF header"
  ensure (source.length + patch.length ≤ Xdelta.maxInputBytes) "xdelta source and patch exceed the 512 MiB in-memory limit"
  let secondary ←
    if byteAt patch 4 &&& 0x01 ≠ 0 then do
      ensure (6 ≤ patch.length) "xdelta secondary-compressor header truncated"
      .ok (some (byteAt patch 5))
    else .ok none
  let output ← match secondary with
    | some 1 | some 16 => (codecs.xdelta3Decode patch source).mapError fun _ =>
      "xdelta3 DJW/FGK decode failed (wrong source file or corrupt patch)"
    | none | some 2 => (codecs.oxideltaDecode source patch).mapError fun _ =>
      "xdelta3/VCDIFF decode failed (wrong source file or corrupt patch)"
    | some id => .error s!"unsupported xdelta secondary compressor {id}"
  ensure (output.length ≤ Xdelta.maxOutputBytes) "xdelta output exceeds the 512 MiB in-memory limit"
  .ok output

end ZeffBoy.Patching
