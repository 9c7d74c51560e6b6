import ZeffBoy.Library.Patch
import ZeffBoy.Library.Checked

/-! The IPS patches. The records are written into the image as they are read, so that a patch that turns out to be
truncated has been applied in part: its complete records stay in the image. -/
namespace ZeffBoy.Patching
open Library List

def readU24Be (data : Bytes) (offset : Nat) : Nat :=
  (byteAt data offset).toNat <<< 16 ||| (byteAt data (offset + 1)).toNat <<< 8 ||| (byteAt data (offset + 2)).toNat

def readU16Be (data : Bytes) (offset : Nat) : Nat :=
  (byteAt data offset).toNat <<< 8 ||| (byteAt data (offset + 1)).toNat

def resize (bytes : Bytes) (size : Nat) : Bytes := bytes.take size ++ List.replicate (size - bytes.length) 0

theorem length_resize (bytes : Bytes) (size : Nat) : (resize bytes size).length = size := by
  rw [resize,length_append,length_take,length_replicate]
  omega

namespace Ips

def header : Bytes := [0x50,0x41,0x54,0x43,0x48] -- PATCH
def footer : Bytes := [0x45,0x4F,0x46] -- EOF

-- Both kinds of records enlarge the image to their end before they write to it.
def writeAt (rom : Bytes) (offset : Nat) (data : Bytes) : Bytes :=
  overwrite (if rom.length < offset + data.length then resize rom (offset + data.length) else rom) offset data

def applyRecords (patch : Bytes) (pos : Nat) (rom : Bytes) : Call Bytes Unit :=
  if patch.length < pos + 3 then (.error s!"IPS patch truncated: unexpected end at offset {pos}",rom)
  else if slice patch pos (pos + 3) = footer then (.ok (),rom)
  else
    let offset := readU24Be patch pos
    let sizeAt := pos + 3
    if patch.length < sizeAt + 2 then (.error s!"IPS patch truncated: missing size at offset {sizeAt}",rom)
    else
      let size := readU16Be patch sizeAt
      let dataAt := sizeAt + 2
      if size = 0 then
        if patch.length < dataAt + 3 then (.error s!"IPS RLE record truncated at offset {dataAt}",rom)
        else
          let rleCount := readU16Be patch dataAt
          let rleValue := byteAt patch (dataAt + 2)
          applyRecords patch (dataAt + 3) (writeAt rom offset (List.replicate rleCount rleValue))
      else if patch.length < dataAt + size then (.error s!"IPS record data truncated at offset {dataAt}",rom)
      else applyRecords patch (dataAt + size) (writeAt rom offset (slice patch dataAt (dataAt + size)))
termination_by patch.length - pos

end Ips

def applyIpsPatch (rom patch : Bytes) : Call Bytes Unit :=
  if patch.length < 8 then (.error "IPS patch too short",rom)
  else if slice patch 0 5 ≠ Ips.header then (.error "IPS patch missing PATCH header",rom)
  else Ips.applyRecords patch 5 rom

namespace Ips

/-- A run of bytes and where a patch puts it. -/
structure Record where
  offset : Nat
  data : Bytes

/-- The complete records of a patch, and whether the patch is complete after them. -/
def records (patch : Bytes) (pos : Nat) : Except String Unit × List Record :=
  if patch.length < pos + 3 then (.error s!"IPS patch truncated: unexpected end at offset {pos}",[])
  else if slice patch pos (pos + 3) = footer then (.ok (),[])
  else if patch.length < pos + 5 then (.error s!"IPS patch truncated: missing size at offset {pos + 3}",[])
  else if readU16Be patch (pos + 3) = 0 then
    if patch.length < pos + 8 then (.error s!"IPS RLE record truncated at offset {pos + 5}",[])
    else
      let rest := records patch (pos + 8)
      (rest.1,⟨readU24Be patch pos,List.replicate (readU16Be patch (pos + 5)) (byteAt patch (pos + 7))⟩::rest.2)
  else if patch.length < pos + 5 + readU16Be patch (pos + 3) then (.error s!"IPS record data truncated at offset {pos + 5}",[])
  else
    let rest := records patch (pos + 5 + readU16Be patch (pos + 3))
    (rest.1,⟨readU24Be patch pos,slice patch (pos + 5) (pos + 5 + readU16Be patch (pos + 3))⟩::rest.2)
termination_by patch.length - pos

/-- The records of a patch with its header. A patch without a header has none. -/
def content (patch : Bytes) : Except String Unit × List Record :=
  if patch.length < 8 then (.error "IPS patch too short",[])
  else if slice patch 0 5 ≠ header then (.error "IPS patch missing PATCH header",[])
  else records patch 5

def write (rom : Bytes) (written : List Record) : Bytes :=
  written.foldl (fun rom record => writeAt rom record.offset record.data) rom

theorem applyRecords_eq (patch : Bytes) (pos : Nat) (rom : Bytes) :
    applyRecords patch pos rom = ((records patch pos).1,write rom (records patch pos).2) := by
  fun_induction applyRecords patch pos rom with
  | case1 pos rom short => simp [records,short,write]
  | case2 pos rom long last => simp [records,long,last,write]
  | case3 pos rom long more sizeAt short =>
    rw [records,if_neg long,if_neg more,if_pos short]
    rfl
  | case4 pos rom long more sizeAt sized size dataAt zero short =>
    rw [records,if_neg long,if_neg more,if_neg sized,if_pos zero,if_pos short]
    rfl
  | case5 pos rom long more offset sizeAt sized size dataAt zero whole rleCount rleValue ih =>
    rw [ih,records.eq_def patch pos,if_neg long,if_neg more,if_neg sized,if_pos zero,if_neg whole]
    rfl
  | case6 pos rom long more sizeAt sized size dataAt some short =>
    rw [records,if_neg long,if_neg more,if_neg sized,if_neg some,if_pos short]
    rfl
  | case7 pos rom long more offset sizeAt sized size dataAt some whole ih =>
    rw [ih,records.eq_def patch pos,if_neg long,if_neg more,if_neg sized,if_neg some,if_neg whole]
    rfl

theorem applyIpsPatch_eq (rom patch : Bytes) : applyIpsPatch rom patch = ((content patch).1,write rom (content patch).2) := by
  unfold applyIpsPatch content
  split
  · rfl
  split
  · rfl
  exact applyRecords_eq patch 5 rom

theorem length_writeAt (rom : Bytes) (offset : Nat) (data : Bytes) :
    (writeAt rom offset data).length = max rom.length (offset + data.length) := by
  unfold writeAt
  split
  · rw [length_overwrite _ _ _ (by rw [length_resize])]
    rw [length_resize]
    omega
  · rw [length_overwrite _ _ _ (by omega)]
    omega

theorem getElem?_writeAt (rom : Bytes) (offset : Nat) (data : Bytes) (inside : offset + data.length ≤ rom.length)
    (address : Nat) : (writeAt rom offset data)[address]? =
      if offset ≤ address ∧ address < offset + data.length then data[address - offset]? else rom[address]? := by
  have near : min offset rom.length = offset := by omega
  rw [writeAt,if_neg (by omega),overwrite,List.getElem?_append,length_take,near,List.getElem?_append,List.getElem?_take,
    List.getElem?_drop]
  by_cases before : address < offset
  · rw [if_pos before,if_pos before,if_neg (by omega)]
  by_cases within : address - offset < data.length
  · rw [if_neg before,if_pos within,if_pos (by omega)]
  · have behind : offset + data.length + (address - offset - data.length) = address := by omega
    rw [if_neg before,if_neg within,if_neg (by omega),behind]

def Record.byte? (record : Record) (address : Nat) : Option UInt8 :=
  if record.offset ≤ address ∧ address < record.offset + record.data.length then record.data[address - record.offset]? else none

def lastWritten : List Record → Nat → Option UInt8
  | [],_ => none
  | record::later,address => (lastWritten later address).or (record.byte? address)

/-- The image holds already what the records write: no record ends beyond the image, and each byte that is written last to
an address is there. -/
def Present (rom : Bytes) (written : List Record) : Prop :=
  (∀ record ∈ written, record.offset + record.data.length ≤ rom.length) ∧
    ∀ address byte, lastWritten written address = some byte → rom[address]? = some byte

theorem write_cons (rom : Bytes) (record : Record) (later : List Record) :
    write rom (record::later) = write (writeAt rom record.offset record.data) later := rfl

theorem length_write (rom : Bytes) (written : List Record) :
    rom.length ≤ (write rom written).length ∧
      ∀ record ∈ written, record.offset + record.data.length ≤ (write rom written).length := by
  induction written generalizing rom with
  | nil => exact ⟨le_rfl,by simp⟩
  | cons record later ih =>
    obtain ⟨grows,reaches⟩ := ih (writeAt rom record.offset record.data)
    rw [length_writeAt] at grows
    rw [write_cons]
    refine ⟨by omega,?_⟩
    rintro inner inside
    rcases mem_cons.mp inside with rfl | inside
    · omega
    · exact reaches inner inside

theorem getElem?_write (rom : Bytes) (written : List Record)
    (inside : ∀ record ∈ written, record.offset + record.data.length ≤ rom.length) (address : Nat) :
    (write rom written)[address]? = (lastWritten written address).or rom[address]? := by
  induction written generalizing rom with
  | nil => rfl
  | cons record later ih =>
    obtain ⟨fits,inside⟩ := forall_mem_cons.mp inside
    have size : (writeAt rom record.offset record.data).length = rom.length := by
      rw [length_writeAt]
      omega
    rw [write_cons,ih _ (by rwa [size]),getElem?_writeAt rom _ _ fits,lastWritten,Option.or_assoc]
    congr 1
    unfold Record.byte?
    by_cases covered : record.offset ≤ address ∧ address < record.offset + record.data.length
    · rw [if_pos covered,if_pos covered,List.getElem?_eq_getElem (by omega)]
      rfl
    · rw [if_neg covered,if_neg covered]
      rfl

theorem write_eq_iff (rom : Bytes) (written : List Record) : write rom written = rom ↔ Present rom written := by
  constructor
  · intro same
    have inside := (length_write rom written).2
    rw [same] at inside
    refine ⟨inside,?_⟩
    intro address byte last
    have there := getElem?_write rom written inside address
    rw [same,last] at there
    exact there
  · rintro ⟨inside,there⟩
    apply ext_getElem?
    intro address
    rw [getElem?_write rom written inside]
    cases last : lastWritten written address with
    | none => rfl
    | some byte => exact (there address byte last).symm

end Ips

end ZeffBoy.Patching
