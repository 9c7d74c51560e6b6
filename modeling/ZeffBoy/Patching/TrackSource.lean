import ZeffBoy.Library.Checked
import ZeffBoy.Library.Patch

/-! The sources of disc tracks. A source is what its three methods answer; the contract says which
bytes it holds. A visit is the list of the pieces it hands over and how it ends. -/
namespace ZeffBoy.Patching
open Library List

def cdRawSectorBytes : Nat := 2352

inductive CdSourceError
  | outOfRange (offset bytes sourceLen : Nat)
  | readFailed
deriving DecidableEq

def CdSourceError.debug : CdSourceError → String
  | .outOfRange offset bytes sourceLen =>
    s!"OutOfRange \x7b offset: {offset}, bytes: {bytes}, source_len: {sourceLen} \x7d"
  | .readFailed => "ReadFailed"

def CdSourceError.display (error : CdSourceError) : String :=
  let text := error.debug
  s!"PC Engine CD source read failed: {text}"

abbrev Visit := List Bytes × Except CdSourceError Unit

structure CdTrackSource where
  len : Nat
  readExactAt : Nat → Nat → Except CdSourceError Bytes
  visitPayload : Nat → Visit

namespace CdTrackSource

/-- What a source of some bytes promises: reads of at most a raw sector, and the whole payload to a visitor. -/
structure Holds (source : CdTrackSource) (content : Bytes) : Prop where
  len : source.len = content.length
  read : ∀ offset count, count ≤ cdRawSectorBytes → offset + count ≤ content.length →
    source.readExactAt offset count = .ok (slice content offset (offset + count))
  visit : ∀ sectorBytes pieces, source.visitPayload sectorBytes = (pieces,.ok ()) → pieces.flatten = content

end CdTrackSource

def checkedEnd (offset bytes sourceLen : Nat) : Except CdSourceError Nat :=
  if offset + bytes < 2^64 ∧ offset + bytes ≤ sourceLen then .ok (offset + bytes)
  else .error (.outOfRange offset bytes sourceLen)

theorem checkedEnd_ok {offset bytes sourceLen : Nat} (word : sourceLen < 2^64) (inside : offset + bytes ≤ sourceLen) :
    checkedEnd offset bytes sourceLen = .ok (offset + bytes) := if_pos ⟨by omega,inside⟩

-- The sectors at some offsets, until a read fails.
def visitSectors (read : Nat → Nat → Except CdSourceError Bytes) (sectorBytes : Nat) : List Nat → Visit
  | [] => ([],.ok ())
  | offset::offsets =>
    match read offset sectorBytes with
    | .error error => ([],.error error)
    | .ok buffer =>
      let rest := visitSectors read sectorBytes offsets
      (buffer::rest.1,rest.2)

def defaultVisit (len : Nat) (read : Nat → Nat → Except CdSourceError Bytes) (sectorBytes : Nat) : Visit :=
  if sectorBytes = 0 ∨ cdRawSectorBytes < sectorBytes ∨ len % sectorBytes ≠ 0 then ([],.error .readFailed)
  else visitSectors read sectorBytes ((List.range (len / sectorBytes)).map (sectorBytes * ·))

theorem visitSectors_ok {read : Nat → Nat → Except CdSourceError Bytes} {sectorBytes : Nat} {offsets : List Nat}
    {piece : Nat → Bytes} (reads : ∀ offset ∈ offsets, read offset sectorBytes = .ok (piece offset)) :
    visitSectors read sectorBytes offsets = (offsets.map piece,.ok ()) := by
  induction offsets with
  | nil => rfl
  | cons offset offsets ih =>
    obtain ⟨first,others⟩ := forall_mem_cons.mp reads
    rw [visitSectors,first]
    dsimp only
    rw [ih others]
    rfl

theorem flatten_sectors (content : Bytes) (sectorBytes count : Nat) :
    ((List.range count).map (fun sector => slice content (sectorBytes * sector) (sectorBytes * sector + sectorBytes))).flatten =
      slice content 0 (sectorBytes * count) := by
  induction count with
  | zero => rw [mul_zero,slice_empty]; rfl
  | succ count ih =>
    rw [range_succ,map_append,flatten_append,ih,map_singleton,flatten_singleton,Nat.mul_succ,
      slice_split _ zero_le (Nat.le_add_right _ _)]

theorem defaultVisit_holds {content : Bytes} {read : Nat → Nat → Except CdSourceError Bytes}
    (reads : ∀ offset count, count ≤ cdRawSectorBytes → offset + count ≤ content.length →
      read offset count = .ok (slice content offset (offset + count))) (sectorBytes : Nat) (pieces : List Bytes)
    (visited : defaultVisit content.length read sectorBytes = (pieces,.ok ())) : pieces.flatten = content := by
  unfold defaultVisit at visited
  split at visited
  · cases visited
  rename_i valid
  obtain ⟨small,whole⟩ : sectorBytes ≤ cdRawSectorBytes ∧ content.length % sectorBytes = 0 := by omega
  have total : sectorBytes * (content.length / sectorBytes) = content.length := Nat.mul_div_cancel' (Nat.dvd_of_mod_eq_zero whole)
  have each : ∀ offset ∈ (List.range (content.length / sectorBytes)).map (sectorBytes * ·),
      read offset sectorBytes = .ok (slice content offset (offset + sectorBytes)) := by
    intro offset member
    obtain ⟨sector,inside,rfl⟩ := mem_map.mp member
    have last := Nat.mul_le_mul_left sectorBytes (Nat.succ_le_of_lt (mem_range.mp inside))
    rw [Nat.mul_succ,total] at last
    exact reads _ _ small last
  rw [visitSectors_ok each,map_map] at visited
  obtain ⟨rfl,_⟩ := Prod.mk.inj visited
  exact (flatten_sectors content sectorBytes _).trans (by rw [total,slice_all content _ rfl])

/-- The sources of the core and of an archive: bytes in memory. -/
def byteSource (bytes : Bytes) : CdTrackSource :=
  let readExactAt := fun offset count => do
    let stop ← checkedEnd offset count bytes.length
    return slice bytes offset stop
  { len := bytes.length, readExactAt := readExactAt, visitPayload := defaultVisit bytes.length readExactAt }

theorem byteSource_holds (bytes : Bytes) (word : bytes.length < 2^64) : (byteSource bytes).Holds bytes where
  len := rfl
  read offset count _ inside := by
    have stop := checkedEnd_ok word inside
    simp only [byteSource,stop,ok_bind]
    rfl
  visit := by
    intro sectorBytes pieces visited
    refine defaultVisit_holds ?_ sectorBytes pieces visited
    intro offset count _ inside
    simp only [checkedEnd_ok word inside,ok_bind]
    rfl

namespace FileSliceSource

def hashBufferBytes : Nat := 64 * 1024

-- The file is the one whose identity the source holds; one that changed fails every read.
def fillSector (file : Bytes) (start sectorBytes sector : Nat) : Except CdSourceError Bytes :=
  let offset := start + sector * sectorBytes
  if offset + sectorBytes ≤ file.length then .ok (slice file offset (offset + sectorBytes)) else .error .readFailed

def readSectors (file : Bytes) (start sectorBytes : Nat) : Nat → Nat → Nat → Except CdSourceError Bytes
  | 0,_,_ => .ok []
  | fuel + 1,sourceOffset,stop =>
    if sourceOffset = stop then .ok []
    else do
      let cache ← fillSector file start sectorBytes (sourceOffset / sectorBytes)
      let withinSector := sourceOffset % sectorBytes
      let count := min (sectorBytes - withinSector) (stop - sourceOffset)
      let rest ← readSectors file start sectorBytes fuel (sourceOffset + count) stop
      return slice cache withinSector (withinSector + count) ++ rest

-- A visit hands over as many sectors at once as the buffer holds.
def visitChunks (content : Bytes) (chunkBytes : Nat) : Nat → Nat → List Bytes
  | 0,_ => []
  | fuel + 1,remaining =>
    if remaining = 0 then []
    else
      let count := min remaining (min chunkBytes content.length)
      let offset := content.length - remaining
      slice content offset (offset + count)::visitChunks content chunkBytes fuel (remaining - count)

end FileSliceSource

/-- The source of a part of a file, for one size of sectors. -/
def fileSliceSource (file : Bytes) (start bytes sectorBytes : Nat) : CdTrackSource where
  len := bytes
  readExactAt := fun offset count => do
    let stop ← checkedEnd offset count bytes
    FileSliceSource.readSectors file start sectorBytes count offset stop
  visitPayload := fun sector =>
    if sector ≠ sectorBytes ∨ bytes % sector ≠ 0 then ([],.error .readFailed)
    else
      let chunkBytes := max (FileSliceSource.hashBufferBytes / sector) 1 * sector
      (FileSliceSource.visitChunks (slice file start (start + bytes)) chunkBytes bytes bytes,.ok ())

namespace FileSliceSource

theorem readSectors_ok {file : Bytes} {start bytes sectorBytes : Nat} (some : 0 < sectorBytes)
    (aligned : bytes % sectorBytes = 0) (within : start + bytes ≤ file.length) (fuel sourceOffset stop : Nat)
    (ordered : sourceOffset ≤ stop) (inside : stop ≤ bytes) (enough : stop - sourceOffset ≤ fuel) :
    readSectors file start sectorBytes fuel sourceOffset stop = .ok (slice file (start + sourceOffset) (start + stop)) := by
  induction fuel generalizing sourceOffset with
  | zero =>
    obtain rfl : sourceOffset = stop := by omega
    rw [readSectors,slice_empty]
  | succ fuel ih =>
    rw [readSectors]
    split
    · rename_i done
      rw [done,slice_empty]
    rename_i more
    have split := Nat.div_add_mod sourceOffset sectorBytes
    have low := Nat.mod_lt sourceOffset some
    have quotient : sourceOffset / sectorBytes < bytes / sectorBytes := by
      rw [Nat.div_lt_iff_lt_mul some,Nat.div_mul_cancel (Nat.dvd_of_mod_eq_zero aligned)]
      omega
    have last := Nat.mul_le_mul_left sectorBytes (Nat.succ_le_of_lt quotient)
    rw [Nat.mul_succ,Nat.mul_div_cancel' (Nat.dvd_of_mod_eq_zero aligned)] at last
    have commuted := mul_comm sectorBytes (sourceOffset / sectorBytes)
    rw [fillSector,if_pos (by omega),ok_bind]
    dsimp only
    rw [ih _ (by omega) (by omega),ok_bind,slice_slice _ (by omega)]
    have here : start + sourceOffset / sectorBytes * sectorBytes + sourceOffset % sectorBytes = start + sourceOffset := by
      omega
    rw [← add_assoc (start + _),here]
    apply congrArg Except.ok
    rw [← add_assoc]
    exact slice_split file (Nat.le_add_right _ _) (by omega)

theorem visitChunks_flatten {content : Bytes} {chunkBytes : Nat} (some : 0 < chunkBytes) (fuel remaining : Nat)
    (inside : remaining ≤ content.length) (enough : remaining ≤ fuel) :
    (visitChunks content chunkBytes fuel remaining).flatten = slice content (content.length - remaining) content.length := by
  induction fuel generalizing remaining with
  | zero =>
    obtain rfl : remaining = 0 := by omega
    rw [visitChunks,Nat.sub_zero,slice_empty]
    rfl
  | succ fuel ih =>
    rw [visitChunks]
    split
    · rename_i none
      rw [none,Nat.sub_zero,slice_empty]
      rfl
    · dsimp only
      have back : content.length - (remaining - min remaining (min chunkBytes content.length)) =
          content.length - remaining + min remaining (min chunkBytes content.length) := by omega
      rw [flatten_cons,ih _ (by omega) (by omega),back,slice_split _ (by omega) (by omega)]

end FileSliceSource

theorem fileSliceSource_holds (file : Bytes) (start bytes sectorBytes : Nat) (word : bytes < 2^64) (some : 0 < sectorBytes)
    (aligned : bytes % sectorBytes = 0) (within : start + bytes ≤ file.length) :
    (fileSliceSource file start bytes sectorBytes).Holds (slice file start (start + bytes)) := by
  have size : (slice file start (start + bytes)).length = bytes := by
    rw [length_slice file start _ within,Nat.add_sub_cancel_left]
  refine ⟨size.symm,?_,?_⟩
  · intro offset count _ inside
    rw [size] at inside
    simp only [fileSliceSource,checkedEnd_ok word inside,ok_bind]
    rw [FileSliceSource.readSectors_ok some aligned within count offset _ (Nat.le_add_right _ _) inside (by omega),
      slice_slice _ (by omega)]
  · intro sector pieces visited
    simp only [fileSliceSource] at visited
    split at visited
    · cases visited
    rename_i valid
    obtain ⟨rfl,_⟩ := Prod.mk.inj visited
    have filled : 0 < max (FileSliceSource.hashBufferBytes / sector) 1 * sector := by
      apply Nat.mul_pos
      · exact lt_of_lt_of_le Nat.zero_lt_one (le_max_right _ _)
      · omega
    rw [FileSliceSource.visitChunks_flatten filled bytes bytes (by rw [size]) le_rfl,size,Nat.sub_self,slice_all _ _ size]

structure ConcatenatedTrackSource where
  sources : List CdTrackSource
  starts : List Nat
  len : Nat

namespace ConcatenatedTrackSource

-- Where the sources start behind some length, and the length of all together.
def place : Nat → List CdTrackSource → Option (List Nat × Nat)
  | len,[] => some ([],len)
  | len,source::sources =>
    if len + source.len < 2^64 then (place (len + source.len) sources).map (fun placed => (len::placed.1,placed.2))
    else none

def new (sources : List CdTrackSource) : Option ConcatenatedTrackSource :=
  (place 0 sources).map (fun placed => ⟨sources,placed.1,placed.2⟩)

-- The partition point of the starts, less one: the last source that starts at the cursor or before it.
def segment (concatenated : ConcatenatedTrackSource) (cursor : Nat) : Nat :=
  (concatenated.starts.takeWhile (fun start => start ≤ cursor)).length - 1

-- Every round fills at least one byte, so the destination is enough fuel.
def readStaging (concatenated : ConcatenatedTrackSource) : Nat → Nat → Nat → Except CdSourceError Bytes
  | 0,_,_ => .ok []
  | fuel + 1,cursor,remaining =>
    if remaining = 0 then .ok []
    else
      match concatenated.sources[concatenated.segment cursor]?,concatenated.starts[concatenated.segment cursor]? with
      | some source,some start =>
        let count := min (source.len - (cursor - start)) remaining
        if count = 0 then .error .readFailed
        else do
          let bytes ← source.readExactAt (cursor - start) count
          let rest ← readStaging concatenated fuel (cursor + count) (remaining - count)
          return bytes ++ rest
      | _,_ => .error .readFailed

def source (concatenated : ConcatenatedTrackSource) : CdTrackSource where
  len := concatenated.len
  readExactAt := fun offset count => do
    let _ ← checkedEnd offset count concatenated.len
    if cdRawSectorBytes < count then .error .readFailed else concatenated.readStaging count offset count
  visitPayload := fun _ => ([],.error .readFailed)

variable {sources : List CdTrackSource} {contents : List Bytes}

theorem place_len
    (hold : List.Forall₂ CdTrackSource.Holds sources contents) (len : Nat) (placed : List Nat × Nat)
    (found : place len sources = some placed) : placed.2 = len + contents.flatten.length ∧
      (len < 2^64 → placed.2 < 2^64) := by
  induction hold generalizing len placed with
  | nil => cases found; exact ⟨rfl,id⟩
  | @cons source content sources contents holds _ ih =>
    rw [place] at found
    split at found
    · rename_i fits
      obtain ⟨rest,later,rfl⟩ := Option.map_eq_some_iff.mp found
      obtain ⟨total,word⟩ := ih _ rest later
      rw [flatten_cons,length_append,← add_assoc,← holds.len]
      exact ⟨total,fun _ => word fits⟩
    · cases found

theorem place_starts {len : Nat} {placed : List Nat × Nat}
    (found : place len sources = some placed) : placed.1 = [] ∨ ∃ starts, placed.1 = len::starts := by
  cases sources with
  | nil => cases found; exact .inl rfl
  | cons source sources =>
    rw [place] at found
    split at found
    · obtain ⟨rest,_,rfl⟩ := Option.map_eq_some_iff.mp found
      exact .inr ⟨rest.1,rfl⟩
    · cases found

theorem located
    (hold : List.Forall₂ CdTrackSource.Holds sources contents) (len : Nat) (placed : List Nat × Nat)
    (found : place len sources = some placed) (cursor : Nat) (past : len ≤ cursor)
    (inside : cursor < len + contents.flatten.length) :
    ∃ source content before after start, sources[(placed.1.takeWhile (fun start => start ≤ cursor)).length - 1]? = some source ∧
      placed.1[(placed.1.takeWhile (fun start => start ≤ cursor)).length - 1]? = some start ∧
      source.Holds content ∧ contents.flatten = before ++ (content ++ after) ∧ start = len + before.length ∧
      start ≤ cursor ∧ cursor < start + content.length := by
  induction hold generalizing len placed with
  | nil =>
    rw [flatten_nil,length_nil] at inside
    omega
  | @cons source content sources contents holds rest ih =>
    rw [place] at found
    split at found
    · obtain ⟨later,next,rfl⟩ := Option.map_eq_some_iff.mp found
      have first : (len::later.1).takeWhile (fun start => decide (start ≤ cursor)) =
          len::later.1.takeWhile (fun start => decide (start ≤ cursor)) := takeWhile_cons_of_pos (decide_eq_true past)
      rw [flatten_cons,length_append,← add_assoc,← holds.len] at inside
      simp only [first,length_cons,Nat.add_sub_cancel]
      by_cases reached : len + source.len ≤ cursor
      · obtain ⟨found,bytes,before,after,start,atSource,atStart,holds',whole,position,low,high⟩ :=
          ih (len + source.len) later next reached inside
        rcases place_starts next with none | ⟨starts,head⟩
        · rw [none] at atStart
          cases atStart
        have last : (later.1.takeWhile (fun start => decide (start ≤ cursor))).length =
            (later.1.takeWhile (fun start => decide (start ≤ cursor))).length - 1 + 1 := by
          rw [head,takeWhile_cons_of_pos (by simpa using reached)]
          rfl
        refine ⟨found,bytes,content ++ before,after,start,?_,?_,holds',?_,?_,low,high⟩
        · rw [last]
          exact atSource
        · rw [last]
          exact atStart
        · rw [flatten_cons,whole,append_assoc]
        · rw [length_append,position,holds.len,add_assoc]
      · have only : later.1.takeWhile (fun start => decide (start ≤ cursor)) = [] := by
          rcases place_starts next with none | ⟨starts,head⟩
          · rw [none,takeWhile_nil]
          · rw [head,takeWhile_cons_of_neg (by simpa using reached)]
        rw [only]
        refine ⟨source,content,[],contents.flatten,len,rfl,rfl,holds,rfl,rfl,past,?_⟩
        rw [← holds.len]
        omega
    · cases found

theorem readStaging_ok {concatenated : ConcatenatedTrackSource}
    (hold : List.Forall₂ CdTrackSource.Holds sources contents) (made : new sources = some concatenated)
    (fuel cursor remaining : Nat) (small : remaining ≤ cdRawSectorBytes)
    (inside : cursor + remaining ≤ contents.flatten.length) (enough : remaining ≤ fuel) :
    concatenated.readStaging fuel cursor remaining = .ok (slice contents.flatten cursor (cursor + remaining)) := by
  obtain ⟨placed,found,rfl⟩ := Option.map_eq_some_iff.mp made
  induction fuel generalizing cursor remaining with
  | zero =>
    obtain rfl : remaining = 0 := by omega
    rw [readStaging,add_zero,slice_empty]
  | succ fuel ih =>
    rw [readStaging]
    split
    · rename_i done
      rw [done,add_zero,slice_empty]
    rename_i more
    obtain ⟨source,content,before,after,start,atSource,atStart,holds,whole,position,low,high⟩ :=
      located hold 0 placed found cursor zero_le (by omega)
    rw [zero_add] at position
    rw [segment,atSource,atStart]
    dsimp only
    have len := holds.len
    have piece : slice content (cursor - start) (cursor - start + min (source.len - (cursor - start)) remaining) =
        slice contents.flatten cursor (cursor + min (source.len - (cursor - start)) remaining) := by
      rw [whole,slice_skip before _ _ _ (by omega),slice_append_front (by omega)]
      congr 1 <;> omega
    rw [if_neg (by omega),holds.read _ _ (by omega) (by omega),ok_bind,
      ih _ _ (by omega) (by omega) (by omega),ok_bind,piece]
    have back : cursor + min (source.len - (cursor - start)) remaining +
        (remaining - min (source.len - (cursor - start)) remaining) = cursor + remaining := by omega
    apply congrArg Except.ok
    rw [back]
    exact slice_split _ (Nat.le_add_right _ _) (by omega)

theorem source_holds {concatenated : ConcatenatedTrackSource}
    (hold : List.Forall₂ CdTrackSource.Holds sources contents) (made : new sources = some concatenated) :
    concatenated.source.Holds contents.flatten ∧ concatenated.len < 2^64 := by
  obtain ⟨placed,found,same⟩ := Option.map_eq_some_iff.mp made
  obtain ⟨total,word⟩ := place_len hold 0 placed found
  have len : concatenated.len = contents.flatten.length := by rw [← same,total,zero_add]
  have fits : concatenated.len < 2^64 := by
    rw [← same]
    exact word (by norm_num)
  refine ⟨⟨len,?_,?_⟩,fits⟩
  · intro offset count small inside
    have stop := checkedEnd_ok fits (len.symm ▸ inside)
    simp only [source,stop,ok_bind]
    rw [if_neg (not_lt.mpr small)]
    exact readStaging_ok hold made count offset count small inside le_rfl
  · intro sectorBytes pieces visited
    cases visited

end ConcatenatedTrackSource

end ZeffBoy.Patching
