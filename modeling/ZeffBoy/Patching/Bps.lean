import ZeffBoy.Patching.Primitives

/-! The meaning of a BPS patch: its actions write the target one byte at a time, and a copy of the target reads the bytes
that it has just written. The patch that encodes such actions is interpreted so. -/
namespace ZeffBoy.Patching
open Library List
namespace Bps

/-- A distance and its direction. Both directions of no distance can be encoded. -/
structure Offset where
  negative : Bool
  distance : Nat

namespace Offset

def value (offset : Offset) : Int := if offset.negative then -offset.distance else offset.distance

def word (offset : Offset) : Nat := 2 * offset.distance + if offset.negative then 1 else 0

end Offset

inductive Action
  | sourceRead (length : Nat)
  | targetRead (data : Bytes)
  | sourceCopy (length : Nat) (offset : Offset)
  | targetCopy (length : Nat) (offset : Offset)

/-- What the actions so far have written, and where the next copies start from. -/
structure Written where
  output : Bytes
  sourceRelative : Int
  targetRelative : Int

def at? (bytes : Bytes) (index : Int) : Option UInt8 := if 0 ≤ index then bytes[index.toNat]? else none

namespace Written

def push (written : Written) (byte : UInt8) : Written := {written with output := written.output ++ [byte]}

def readSource (source : Bytes) (written : Written) : Option Written := (at? source written.output.length).map written.push

def copySource (source : Bytes) (written : Written) : Option Written :=
  (at? source written.sourceRelative).map fun byte =>
    {written.push byte with sourceRelative := written.sourceRelative + 1}

def copyTarget (written : Written) : Option Written :=
  (at? written.output written.targetRelative).map fun byte =>
    {written.push byte with targetRelative := written.targetRelative + 1}

end Written

def steps {σ : Type} (step : σ → Option σ) : Nat → σ → Option σ
  | 0,state => some state
  | count + 1,state => step state >>= steps step count

namespace Action

/-- The action one byte at a time. It has no result where it leaves the source, or what has been written. -/
def run (source : Bytes) (written : Written) : Action → Option Written
  | .sourceRead length => steps (Written.readSource source) length written
  | .targetRead data => some (data.foldl Written.push written)
  | .sourceCopy length offset => steps (Written.copySource source) length
      {written with sourceRelative := written.sourceRelative + offset.value}
  | .targetCopy length offset => steps Written.copyTarget length
      {written with targetRelative := written.targetRelative + offset.value}

def length : Action → Nat
  | .sourceRead length => length
  | .targetRead data => data.length
  | .sourceCopy length _ => length
  | .targetCopy length _ => length

def tag : Action → Nat
  | .sourceRead _ => 0
  | .targetRead _ => 1
  | .sourceCopy _ _ => 2
  | .targetCopy _ _ => 3

-- An action writes something, and its command is a word of 64 bits.
def Encodable (action : Action) : Prop := 0 < action.length ∧ action.length ≤ 2^62

def operand : Action → Bytes
  | .sourceRead _ => []
  | .targetRead data => data
  | .sourceCopy _ offset => encodeVarint (UInt64.ofNat offset.word)
  | .targetCopy _ offset => encodeVarint (UInt64.ofNat offset.word)

def encode (action : Action) : Bytes :=
  encodeVarint (UInt64.ofNat (4 * (action.length - 1) + action.tag)) ++ action.operand

end Action

def runActions (source : Bytes) (written : Written) (actions : List Action) : Option Written :=
  actions.foldlM (fun written action => action.run source written) written

def denote (source : Bytes) (actions : List Action) : Option Bytes := (runActions source ⟨[],0,0⟩ actions).map (·.output)

def body (source target metadata : Bytes) (actions : List Action) : Bytes :=
  header ++ (encodeVarint (UInt64.ofNat source.length) ++ (encodeVarint (UInt64.ofNat target.length) ++
    (encodeVarint (UInt64.ofNat metadata.length) ++ (metadata ++ actions.flatMap Action.encode))))

end Bps

def encodeBpsPatch (codecs : Codecs) (source target metadata : Bytes) (actions : List Bps.Action) : Bytes :=
  appendPatchCrcs codecs (Bps.body source target metadata actions) source target

namespace Bps

theorem at?_some {bytes : Bytes} {index : Int} {byte : UInt8} (found : at? bytes index = some byte) :
    0 ≤ index ∧ index.toNat < bytes.length ∧ byteAt bytes index.toNat = byte := by
  unfold at? at found
  split at found
  · refine ⟨by assumption,?_,?_⟩
    · exact (List.getElem?_eq_some_iff.mp found).1
    · rw [byteAt,getD_eq_getElem?_getD,found]
      rfl
  · cases found

def Grows (step : Written → Option Written) : Prop :=
  ∀ before after, step before = some after → after.output.length = before.output.length + 1

variable {step : Written → Option Written} {before after : Written} {rest : Bytes}

theorem grows_of_push
    (pushes : ∀ before after, step before = some after → ∃ byte, after.output = before.output ++ [byte]) : Grows step := by
  intro before after stepped
  obtain ⟨byte,output⟩ := pushes before after stepped
  rw [output,length_append]
  rfl

theorem grows_readSource (source : Bytes) : Grows (Written.readSource source) := by
  apply grows_of_push
  intro before after stepped
  obtain ⟨byte,_,rfl⟩ := Option.map_eq_some_iff.mp stepped
  exact ⟨byte,rfl⟩

theorem grows_copySource (source : Bytes) : Grows (Written.copySource source) := by
  apply grows_of_push
  intro before after stepped
  obtain ⟨byte,_,rfl⟩ := Option.map_eq_some_iff.mp stepped
  exact ⟨byte,rfl⟩

theorem grows_copyTarget : Grows Written.copyTarget := by
  apply grows_of_push
  intro before after stepped
  obtain ⟨byte,_,rfl⟩ := Option.map_eq_some_iff.mp stepped
  exact ⟨byte,rfl⟩

variable {count : Nat} {action : Action}

theorem length_steps (grows : Grows step)
    (stepped : steps step count before = some after) : after.output.length = before.output.length + count := by
  induction count generalizing before with
  | zero =>
    cases stepped
    rfl
  | succ count ih =>
    obtain ⟨next,first,rest⟩ := Option.bind_eq_some_iff.mp stepped
    rw [ih rest,grows before next first]
    omega

theorem length_pushes (data : Bytes) (written : Written) :
    (data.foldl Written.push written).output.length = written.output.length + data.length := by
  induction data generalizing written with
  | nil => rfl
  | cons byte data ih =>
    rw [foldl_cons,ih,Written.push,length_append,length_cons,length_cons,length_nil]
    omega

theorem length_run {source : Bytes}
    (ran : action.run source before = some after) : after.output.length = before.output.length + action.length := by
  cases action with
  | sourceRead length => exact length_steps (grows_readSource source) ran
  | targetRead data =>
    cases ran
    exact length_pushes data before
  | sourceCopy length offset =>
    have copied : steps (Written.copySource source) length _ = some after := ran
    have grown := length_steps (grows_copySource source) copied
    exact grown
  | targetCopy length offset =>
    have copied : steps Written.copyTarget length _ = some after := ran
    have grown := length_steps grows_copyTarget copied
    exact grown

/-- The decoder's buffers hold what the actions so far have written. -/
structure Tracks (source : Bytes) (size : Nat) (cursor : Cursor) (written : Written) : Prop where
  fits : written.output.length ≤ size
  offset : cursor.outputOffset = written.output.length
  target : cursor.target = written.output ++ List.replicate (size - written.output.length) 0
  sourceRelative : written.sourceRelative = cursor.sourceRelative
  targetRelative : written.targetRelative = cursor.targetRelative
  sourceInside : cursor.sourceRelative ≤ source.length
  targetInside : cursor.targetRelative ≤ size

variable {source patch : Bytes} {size : Nat} {cursor : Cursor} {written : Written}

theorem Tracks.emit (tracks : Tracks source size cursor written) (room : written.output.length < size) (byte : UInt8) :
    Tracks source size (cursor.emit byte) (written.push byte) where
  fits := by
    rw [Written.push,length_append,length_singleton]
    exact room
  offset := by
    rw [Cursor.emit,tracks.offset,Written.push,length_append,length_singleton]
  target := by
    have more : size - written.output.length = size - (written.output.length + 1) + 1 := by omega
    rw [Cursor.emit,tracks.offset,tracks.target,Written.push,length_append,length_singleton,more,
      replicate_succ,set_append_right _ _ le_rfl,Nat.sub_self,set_cons_zero,append_assoc]
    rfl
  sourceRelative := tracks.sourceRelative
  targetRelative := tracks.targetRelative
  sourceInside := tracks.sourceInside
  targetInside := tracks.targetInside

/-- A body of the decoder does what a step does, at the same place of the patch. -/
def Follows (source : Bytes) (size : Nat) (body : Cursor → Except String Cursor) (step : Written → Option Written) : Prop :=
  ∀ cursor before after, Tracks source size cursor before → step before = some after → before.output.length < size →
    ∃ next, body cursor = .ok next ∧ Tracks source size next after ∧ next.pos = cursor.pos

theorem follows_repeated {body : Cursor → Except String Cursor}
    (follows : Follows source size body step) (grows : Grows step)
    (tracks : Tracks source size cursor before) (stepped : steps step count before = some after)
    (room : before.output.length + count ≤ size) :
    ∃ next, repeated body count cursor = .ok next ∧ Tracks source size next after ∧ next.pos = cursor.pos := by
  induction count generalizing cursor before with
  | zero =>
    cases stepped
    exact ⟨cursor,rfl,tracks,rfl⟩
  | succ count ih =>
    obtain ⟨middle,first,rest⟩ := Option.bind_eq_some_iff.mp stepped
    obtain ⟨next,ran,tracked,pos⟩ := follows cursor before middle tracks first (by omega)
    obtain ⟨last,reached,tracked,pos'⟩ := ih tracked rest (by rw [grows before middle first]; omega)
    exact ⟨last,by rw [repeated,ran,ok_bind,reached],tracked,pos'.trans pos⟩

theorem follows_readSource : Follows source size (sourceRead source size) (Written.readSource source) := by
  intro cursor before after tracks stepped room
  obtain ⟨byte,found,rfl⟩ := Option.map_eq_some_iff.mp stepped
  obtain ⟨_,inside,value⟩ := at?_some found
  rw [Int.toNat_natCast] at inside value
  refine ⟨cursor.emit byte,?_,tracks.emit room byte,rfl⟩
  rw [sourceRead,tracks.offset,ensure_pos room,ok_bind,if_pos inside,value]

theorem follows_copySource : Follows source size (sourceCopy source size) (Written.copySource source) := by
  intro cursor before after tracks stepped room
  obtain ⟨byte,found,rfl⟩ := Option.map_eq_some_iff.mp stepped
  obtain ⟨_,inside,value⟩ := at?_some found
  rw [tracks.sourceRelative,Int.toNat_natCast] at inside value
  refine ⟨{cursor.emit byte with sourceRelative := cursor.sourceRelative + 1},?_,?_,rfl⟩
  · rw [sourceCopy,tracks.offset,ensure_pos room,ok_bind,ensure_pos inside,ok_bind,value]
    rfl
  · have emitted := tracks.emit room byte
    exact ⟨emitted.fits,emitted.offset,emitted.target,by rw [tracks.sourceRelative]; rfl,emitted.targetRelative,inside,
      emitted.targetInside⟩

theorem follows_copyTarget : Follows source size (targetCopy size) Written.copyTarget := by
  intro cursor before after tracks stepped room
  obtain ⟨byte,found,rfl⟩ := Option.map_eq_some_iff.mp stepped
  obtain ⟨_,inside,value⟩ := at?_some found
  rw [tracks.targetRelative,Int.toNat_natCast] at inside value
  refine ⟨{cursor.emit byte with targetRelative := cursor.targetRelative + 1},?_,?_,rfl⟩
  · -- The byte has been written, so that the rest of the buffer does not matter.
    have written : byteAt cursor.target cursor.targetRelative = byte := by
      rw [tracks.target,byteAt,getD_eq_getElem?_getD,List.getElem?_append_left inside,← getD_eq_getElem?_getD]
      exact value
    rw [targetCopy,tracks.offset,ensure_pos room,ok_bind,ensure_pos (by omega),ok_bind,written]
    rfl
  · have emitted := tracks.emit room byte
    exact ⟨emitted.fits,emitted.offset,emitted.target,emitted.sourceRelative,by rw [tracks.targetRelative]; rfl,
      emitted.sourceInside,inside.trans_le tracks.fits⟩

theorem repeated_targetRead (data : Bytes) {dataEnd : Nat} {before : Written}
    (tracks : Tracks source size cursor before) (room : before.output.length + data.length ≤ size)
    (layout : patch.drop cursor.pos = data ++ rest) (stop : cursor.pos + data.length ≤ dataEnd) :
    ∃ next, repeated (targetRead patch dataEnd size) data.length cursor = .ok next ∧
      Tracks source size next (data.foldl Written.push before) ∧ next.pos = cursor.pos + data.length := by
  induction data generalizing cursor before with
  | nil => exact ⟨cursor,rfl,tracks,rfl⟩
  | cons byte data ih =>
    obtain ⟨first,behind⟩ := byteAt_of_drop layout
    rw [length_cons] at room stop
    have emitted := tracks.emit (by omega) byte
    obtain ⟨next,ran,tracked,pos⟩ := @ih {cursor.emit byte with pos := cursor.pos + 1} (before.push byte)
      ⟨emitted.fits,emitted.offset,emitted.target,emitted.sourceRelative,emitted.targetRelative,emitted.sourceInside,
        emitted.targetInside⟩
      (by rw [Written.push,length_append,length_singleton]; omega) behind (by dsimp only; omega)
    refine ⟨next,?_,tracked,by rw [pos,length_cons]; dsimp only; omega⟩
    rw [length_cons,repeated,targetRead,ensure_pos (by omega),ok_bind,tracks.offset,ensure_pos (by omega),ok_bind,first]
    exact ran

theorem moveRelative_word {relative : Nat} {offset : Offset} (start : relative < 2^63) (front : 0 ≤ relative + offset.value)
    (back : relative + offset.value < 2^63) :
    offset.word < 2^64 ∧ (moveRelative relative offset.word : Int) = relative + offset.value := by
  obtain ⟨negative,distance⟩ := offset
  cases negative with
  | false =>
    simp only [Offset.value,Offset.word,Bool.false_eq_true,if_false] at front back ⊢
    refine ⟨by omega,?_⟩
    rw [moveRelative,if_neg (by omega)]
    omega
  | true =>
    simp only [Offset.value,Offset.word,if_true] at front back ⊢
    refine ⟨by omega,?_⟩
    rw [moveRelative,if_pos (by omega)]
    omega

theorem steps_first (some : 0 < count)
    (stepped : steps step count before = .some after) : ∃ next, step before = .some next := by
  obtain ⟨count,rfl⟩ : ∃ less, count = less + 1 := ⟨count - 1,by omega⟩
  obtain ⟨next,first,_⟩ := Option.bind_eq_some_iff.mp stepped
  exact ⟨next,first⟩

theorem readVarint_command {pos : Nat} (encodable : action.Encodable)
    (layout : patch.drop pos = action.encode ++ rest) : ∃ next,
    readVarint patch "BPS" pos = .ok (4 * (action.length - 1) + action.tag,next) ∧
      patch.drop next = action.operand ++ rest ∧ next + action.operand.length = pos + action.encode.length := by
  have word : 4 * (action.length - 1) + action.tag < 2^64 := by
    have short := encodable.2
    cases action <;> simp only [Action.tag] <;> omega
  have whole : (UInt64.ofNat (4 * (action.length - 1) + action.tag)).toNat = 4 * (action.length - 1) + action.tag := by
    rw [UInt64.toNat_ofNat']
    omega
  rw [Action.encode,append_assoc] at layout
  have encoded := encodedVarint_encodeVarint (UInt64.ofNat (4 * (action.length - 1) + action.tag)) (action.operand ++ rest)
  rw [← layout,whole] at encoded
  refine ⟨_,readVarint_of_encoded encoded word,?_,?_⟩
  · rw [← drop_drop,layout,drop_left]
  · rw [Action.encode,length_append,add_assoc]

theorem readVarint_word {offset : Offset} {pos : Nat} (word : offset.word < 2^64)
    (layout : patch.drop pos = encodeVarint (UInt64.ofNat offset.word) ++ rest) :
    readVarint patch "BPS" pos = .ok (offset.word,pos + (encodeVarint (UInt64.ofNat offset.word)).length) := by
  have encoded := encodedVarint_encodeVarint (UInt64.ofNat offset.word) rest
  rw [← layout,UInt64.toNat_ofNat',Nat.mod_eq_of_lt word] at encoded
  exact readVarint_of_encoded encoded word

theorem command_run {dataEnd : Nat}
    (sourceFits : source.length < 2^63) (targetFits : size < 2^63) (encodable : action.Encodable)
    (tracks : Tracks source size cursor before) (ran : action.run source before = some after)
    (room : after.output.length ≤ size) (layout : patch.drop cursor.pos = action.operand ++ rest)
    (stop : cursor.pos + action.operand.length ≤ dataEnd) :
    ∃ next, command source patch dataEnd size (4 * (action.length - 1) + action.tag) cursor = .ok next ∧
      Tracks source size next after ∧ next.pos = cursor.pos + action.operand.length := by
  rw [length_run ran] at room
  have positive := encodable.1
  have span : (4 * (action.length - 1) + action.tag) / 4 + 1 = action.length := by
    cases action <;> simp only [Action.tag] <;> omega
  have tag : (4 * (action.length - 1) + action.tag) % 4 = action.tag := by
    cases action <;> simp only [Action.tag] <;> omega
  rw [command,span,tag]
  cases action with
  | sourceRead length =>
    exact follows_repeated follows_readSource (grows_readSource source) tracks ran room
  | targetRead data =>
    cases ran
    exact repeated_targetRead data tracks room layout stop
  | sourceCopy length offset =>
    have copied : steps (Written.copySource source) length
        {before with sourceRelative := before.sourceRelative + offset.value} = some after := ran
    obtain ⟨_,first⟩ := steps_first positive copied
    obtain ⟨_,found,_⟩ := Option.map_eq_some_iff.mp first
    obtain ⟨front,inside,_⟩ := at?_some found
    dsimp only at front inside
    rw [tracks.sourceRelative] at front inside copied
    have sourceInside := tracks.sourceInside
    obtain ⟨word,moved⟩ := moveRelative_word (by omega) front (by omega)
    have started : Tracks source size
        {cursor with
          pos := cursor.pos + (encodeVarint (UInt64.ofNat offset.word)).length
          sourceRelative := moveRelative cursor.sourceRelative offset.word}
        {before with sourceRelative := cursor.sourceRelative + offset.value} :=
      ⟨tracks.fits,tracks.offset,tracks.target,moved.symm,tracks.targetRelative,by dsimp only; omega,tracks.targetInside⟩
    obtain ⟨next,reached,tracked,pos⟩ := follows_repeated follows_copySource (grows_copySource source) started copied room
    exact ⟨next,by rw [Action.tag,readVarint_word word layout,ok_bind]; exact reached,tracked,pos⟩
  | targetCopy length offset =>
    have copied : steps Written.copyTarget length
        {before with targetRelative := before.targetRelative + offset.value} = some after := ran
    obtain ⟨_,first⟩ := steps_first positive copied
    obtain ⟨_,found,_⟩ := Option.map_eq_some_iff.mp first
    obtain ⟨front,inside,_⟩ := at?_some found
    dsimp only at front inside
    rw [tracks.targetRelative] at front inside copied
    have targetInside := tracks.targetInside
    have fits := tracks.fits
    obtain ⟨word,moved⟩ := moveRelative_word (by omega) front (by omega)
    have started : Tracks source size
        {cursor with
          pos := cursor.pos + (encodeVarint (UInt64.ofNat offset.word)).length
          targetRelative := moveRelative cursor.targetRelative offset.word}
        {before with targetRelative := cursor.targetRelative + offset.value} :=
      ⟨tracks.fits,tracks.offset,tracks.target,tracks.sourceRelative,moved.symm,tracks.sourceInside,by dsimp only; omega⟩
    obtain ⟨next,reached,tracked,pos⟩ := follows_repeated follows_copyTarget grows_copyTarget started copied room
    exact ⟨next,by rw [Action.tag,readVarint_word word layout,ok_bind]; exact reached,tracked,pos⟩

theorem length_runActions {actions : List Action}
    (ran : runActions source before actions = some after) : before.output.length ≤ after.output.length := by
  induction actions generalizing before with
  | nil =>
    cases ran
    exact le_rfl
  | cons action actions ih =>
    obtain ⟨next,first,rest⟩ := Option.bind_eq_some_iff.mp ran
    have grown := length_run first
    have more := ih rest
    omega

theorem encode_pos (action : Action) : 0 < action.encode.length := by
  rw [Action.encode,length_append,encodeVarint]
  split
  · rw [length_singleton]
    omega
  · rw [length_cons]
    omega

theorem commands_run {actions : List Action} {fuel dataEnd : Nat}
    (sourceFits : source.length < 2^63) (targetFits : size < 2^63) (encodable : ∀ action ∈ actions, action.Encodable)
    (tracks : Tracks source size cursor before) (ran : runActions source before actions = some after)
    (whole : after.output.length = size) (layout : patch.drop cursor.pos = actions.flatMap Action.encode ++ rest)
    (stop : dataEnd = cursor.pos + (actions.flatMap Action.encode).length)
    (enough : (actions.flatMap Action.encode).length ≤ fuel) :
    commands source patch dataEnd size fuel cursor = .ok after.output := by
  induction actions generalizing cursor before fuel with
  | nil =>
    cases ran
    have target : cursor.target = after.output := by
      rw [tracks.target,whole,Nat.sub_self,replicate_zero,append_nil]
    rw [flatMap_nil,length_nil,add_zero] at stop
    cases fuel with
    | zero => rw [commands,target]
    | succ fuel => rw [commands,if_neg (by omega),target]
  | cons action actions ih =>
    obtain ⟨first,others⟩ := forall_mem_cons.mp encodable
    obtain ⟨middle,acted,later⟩ := Option.bind_eq_some_iff.mp ran
    have room := length_runActions later
    have some := encode_pos action
    rw [flatMap_cons,append_assoc] at layout
    rw [flatMap_cons,length_append] at stop enough
    obtain ⟨fuel,rfl⟩ : ∃ less, fuel = less + 1 := ⟨fuel - 1,by omega⟩
    obtain ⟨next,read,operand,place⟩ := readVarint_command first layout
    have started : Tracks source size {cursor with pos := next} before :=
      ⟨tracks.fits,tracks.offset,tracks.target,tracks.sourceRelative,tracks.targetRelative,tracks.sourceInside,
        tracks.targetInside⟩
    obtain ⟨reached,did,tracked,pos⟩ := command_run sourceFits targetFits first started acted (by omega)
      operand (show next + action.operand.length ≤ dataEnd by omega)
    dsimp only at pos
    rw [commands,if_pos (by omega),read,ok_bind]
    dsimp only
    rw [did,ok_bind]
    refine ih others tracked later ?_ (by omega) (by omega)
    rw [pos,place,← drop_drop,layout,drop_left]

end Bps

/-- Well-formed actions are interpreted as they are meant. -/
theorem applyBpsPatch_encodeBpsPatch (codecs : Codecs) (source target metadata : Bytes) (actions : List Bps.Action)
    (sourceFits : source.length < 2^63) (targetFits : target.length < 2^63) (metadataFits : metadata.length < 2^63)
    (encodable : ∀ action ∈ actions, action.Encodable) (wellFormed : Bps.denote source actions = some target) :
    applyBpsPatch codecs source (encodeBpsPatch codecs source target metadata actions) = .ok target := by
  obtain ⟨rest,layout,length,crcs,targetCrc⟩ :=
    appendPatchCrcs_reads codecs (Bps.body source target metadata actions) source target "BPS"
  change encodeBpsPatch codecs source target metadata actions = _ at layout
  change (encodeBpsPatch codecs source target metadata actions).length = _ at length
  change verifyPatchCrcs codecs (encodeBpsPatch codecs source target metadata actions) source "BPS" = _ at crcs
  change verifyTargetCrc codecs (encodeBpsPatch codecs source target metadata actions) target "BPS" = _ at targetCrc
  generalize encodeBpsPatch codecs source target metadata actions = patch at *
  have four : Bps.header.length = 4 := rfl
  simp only [Bps.body,append_assoc,length_append,four] at layout length
  have first := readVarint_encodeVarint Bps.header (encodeVarint (UInt64.ofNat target.length) ++
    (encodeVarint (UInt64.ofNat metadata.length) ++ (metadata ++ (actions.flatMap Bps.Action.encode ++ rest)))) "BPS"
    (UInt64.ofNat source.length)
  have second := readVarint_encodeVarint (Bps.header ++ encodeVarint (UInt64.ofNat source.length))
    (encodeVarint (UInt64.ofNat metadata.length) ++ (metadata ++ (actions.flatMap Bps.Action.encode ++ rest))) "BPS"
    (UInt64.ofNat target.length)
  have third := readVarint_encodeVarint (Bps.header ++ (encodeVarint (UInt64.ofNat source.length) ++
    encodeVarint (UInt64.ofNat target.length))) (metadata ++ (actions.flatMap Bps.Action.encode ++ rest)) "BPS"
    (UInt64.ofNat metadata.length)
  rw [← layout,toNat_ofNat_length sourceFits,four] at first
  rw [append_assoc,← layout,toNat_ofNat_length targetFits,length_append,four] at second
  rw [append_assoc,append_assoc,← layout,toNat_ofNat_length metadataFits,length_append,length_append,four,
    ← add_assoc] at third
  have magic : slice patch 0 4 = Bps.header := by
    rw [layout]
    exact slice_front Bps.header _ 4 rfl
  obtain ⟨after,ran,output⟩ := Option.map_eq_some_iff.mp wellFormed
  have sourceShort := length_encodeVarint (UInt64.ofNat source.length)
  have targetShort := length_encodeVarint (UInt64.ofNat target.length)
  have metadataShort := length_encodeVarint (UInt64.ofNat metadata.length)
  have place : (4 + (encodeVarint (UInt64.ofNat source.length)).length + (encodeVarint (UInt64.ofNat target.length)).length +
      (encodeVarint (UInt64.ofNat metadata.length)).length + metadata.length) % 2^64 =
      4 + (encodeVarint (UInt64.ofNat source.length)).length + (encodeVarint (UInt64.ofNat target.length)).length +
        (encodeVarint (UInt64.ofNat metadata.length)).length + metadata.length := by omega
  have started : Bps.Tracks source target.length
      ⟨4 + (encodeVarint (UInt64.ofNat source.length)).length + (encodeVarint (UInt64.ofNat target.length)).length +
        (encodeVarint (UInt64.ofNat metadata.length)).length + metadata.length,List.replicate target.length 0,0,0,0⟩
      ⟨[],0,0⟩ :=
    ⟨Nat.zero_le _,rfl,rfl,rfl,rfl,Nat.zero_le _,Nat.zero_le _⟩
  have behind : patch.drop (4 + (encodeVarint (UInt64.ofNat source.length)).length +
      (encodeVarint (UInt64.ofNat target.length)).length + (encodeVarint (UInt64.ofNat metadata.length)).length +
        metadata.length) = actions.flatMap Bps.Action.encode ++ rest := by
    rw [layout,← four]
    simp only [← drop_drop,drop_left]
  have interpreted := Bps.commands_run sourceFits targetFits encodable started ran (congrArg List.length output) behind
    (show patch.length - Bps.footerSize = _ by rw [length,Bps.footerSize]; dsimp only; omega)
    (show _ ≤ patch.length by omega)
  rw [output] at interpreted
  rw [applyBpsPatch,ensure_pos (by rw [length,four,Bps.footerSize]; omega),ok_bind,ensure_pos magic,ok_bind,crcs,ok_bind,
    first,ok_bind]
  dsimp only
  rw [second,ok_bind]
  dsimp only
  rw [third,ok_bind]
  dsimp only
  rw [ensure_pos rfl,ok_bind,place,interpreted,ok_bind,targetCrc]
  rfl

/-- A copy that runs into what it writes itself. -/
theorem applyBpsPatch_encodeBpsPatch_overlap :
    applyBpsPatch checksumOnly [7,8] (encodeBpsPatch checksumOnly [7,8] [7,8,7,8,7,9] [0]
      [.sourceRead 2,.targetCopy 3 ⟨false,0⟩,.targetRead [9]]) = .ok [7,8,7,8,7,9] :=
  applyBpsPatch_encodeBpsPatch checksumOnly [7,8] [7,8,7,8,7,9] [0] [.sourceRead 2,.targetCopy 3 ⟨false,0⟩,.targetRead [9]]
    (by decide) (by decide) (by decide) (by simp [Bps.Action.Encodable,Bps.Action.length]) rfl

end ZeffBoy.Patching
