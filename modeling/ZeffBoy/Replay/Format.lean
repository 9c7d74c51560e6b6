import ZeffBoy.Library.Reader

/-! Words, flags, strings and optional values of the replay formats.
The cursor of the source is the part of its bytes that is still unread. -/
namespace ZeffBoy.Replay
open Library

abbrev Hash := List.Vector UInt8 32

def writeU32 (value : UInt32) : Bytes := leBytes 4 value.toNat

def writeU64 (value : UInt64) : Bytes := leBytes 8 value.toNat

def writeString (value : String) : Bytes := writeU32 (UInt32.ofNat (utf8 value).length) ++ utf8 value

def writeOptional {α : Type} (write : α → Bytes) : Option α → Bytes
  | some value => 1::write value
  | none => [0]

def writeOptionalString : Option String → Bytes := writeOptional writeString

def writeOptionalHash : Option Hash → Bytes := writeOptional List.Vector.toList

def writeOptionalU8 : Option UInt8 → Bytes := writeOptional (fun value => [value])

def writeOptionalU64 : Option UInt64 → Bytes := writeOptional writeU64

def hex (width value : Nat) : String :=
  let digits := (Nat.toDigits 16 value).map Char.toUpper
  "0x" ++ String.ofList (List.replicate (width - 2 - digits.length) '0' ++ digits)

namespace MetadataCursor

def readExact (count : Nat) : Reader Bytes := Reader.exact "truncated replay metadata" count

def readU8 : Reader UInt8
  | [] => .error "truncated replay metadata"
  | byte::rest => .ok (byte,rest)

def readU32 : Reader UInt32 := do
  let bytes ← readExact 4
  return UInt32.ofNat (leValue bytes)

def readU64 : Reader UInt64 := do
  let bytes ← readExact 8
  return UInt64.ofNat (leValue bytes)

def readHash : Reader Hash := Reader.array "truncated replay metadata" 32

def readString : Reader String := do
  let length ← readU32
  let bytes ← readExact length.toNat
  Reader.lift (context (fromUtf8 bytes) "replay metadata string is not UTF-8")

def finish : Reader Unit := do
  let remaining ← Reader.remaining
  Reader.lift (ensure (remaining = 0) "trailing replay metadata bytes")

/-- An optional value behind a tag byte; the members of the family differ in the message for other tags. -/
def readOptional {α : Type} (invalid : UInt8 → String) (item : Reader α) : Reader (Option α) := do
  let tag ← readU8
  if tag = 0 then
    return none
  else if tag = 1 then
    let value ← item
    return some value
  else
    Reader.fail (invalid tag)

def readOptionalHash : Reader (Option Hash) := readOptional (fun tag => s!"invalid optional hash tag: {tag}") readHash

def readOptionalString : Reader (Option String) :=
  readOptional (fun tag => s!"invalid optional string tag: {tag}") readString

end MetadataCursor

open MetadataCursor

def readBool (name : String) : Reader Bool := do
  let value ← readU8
  if value = 0 then
    return false
  else if value = 1 then
    return true
  else
    Reader.fail s!"invalid replay metadata {name}: {value}"

def readOptionalU8 (name : String) : Reader (Option UInt8) :=
  readOptional (fun value => s!"invalid replay metadata {name} tag: {value}") readU8

-- An optional value behind a boolean flag.
def readFlagged {α : Type} (name : String) (item : Reader α) : Reader (Option α) := do
  let present ← readBool name
  if present then
    let value ← item
    return some value
  else
    return none

@[simp] theorem length_writeU32 (value : UInt32) : (writeU32 value).length = 4 := length_leBytes 4 _

@[simp] theorem length_writeU64 (value : UInt64) : (writeU64 value).length = 8 := length_leBytes 8 _

@[simp] theorem run_readU8 (byte : UInt8) (rest : Bytes) : readU8 (byte::rest) = .ok (byte,rest) := rfl

@[simp] theorem run_readU32 (value : UInt32) (rest : Bytes) : readU32 (writeU32 value ++ rest) = .ok (value,rest) := by
  rw [readU32,Reader.run_bind,readExact,Reader.run_exact _ 4 _ rest (length_writeU32 value),ok_bind,writeU32,
    leValue_leBytes 4 _ value.toNat_lt]
  simp [Reader.run_pure]

@[simp] theorem run_readU64 (value : UInt64) (rest : Bytes) : readU64 (writeU64 value ++ rest) = .ok (value,rest) := by
  rw [readU64,Reader.run_bind,readExact,Reader.run_exact _ 8 _ rest (length_writeU64 value),ok_bind,writeU64,
    leValue_leBytes 8 _ value.toNat_lt]
  simp [Reader.run_pure]

@[simp] theorem run_readHash (hash : Hash) (rest : Bytes) : readHash (hash.toList ++ rest) = .ok (hash,rest) :=
  Reader.run_array _ 32 hash rest

@[simp] theorem run_readBool (name : String) (value : Bool) (rest : Bytes) :
    readBool name (value.toUInt8::rest) = .ok (value,rest) := by
  cases value <;> rfl

/-- The length of a string that the format can hold. -/
def Fits (value : String) : Prop := (utf8 value).length < 2^32

theorem count_toNat (count : Nat) (fits : count < 2^32) : (UInt32.ofNat count).toNat = count := by
  rw [UInt32.toNat_ofNat',Nat.mod_eq_of_lt fits]

@[simp] theorem run_readString (value : String) (fits : Fits value) (rest : Bytes) :
    readString (writeString value ++ rest) = .ok (value,rest) := by
  have length := count_toNat _ fits
  rw [readString,writeString,List.append_assoc,Reader.run_bind,run_readU32,ok_bind,Reader.run_bind,readExact,length,
    Reader.run_exact _ _ _ rest rfl,ok_bind,fromUtf8_utf8]
  rfl

theorem run_readOptional {α : Type} {invalid : UInt8 → String} {item : Reader α} {write : α → Bytes}
    (value : Option α) (rest : Bytes) (reads : ∀ inner, value = some inner → item (write inner ++ rest) = .ok (inner,rest)) :
    readOptional invalid item (writeOptional write value ++ rest) = .ok (value,rest) := by
  cases value with
  | none => rfl
  | some inner =>
    have tag : readU8 (1::(write inner ++ rest)) = .ok (1,write inner ++ rest) := rfl
    have other : ¬(1 : UInt8) = 0 := by decide
    simp only [readOptional,writeOptional,List.cons_append,Reader.run_bind,tag,ok_bind,if_neg other,if_true,
      reads inner rfl]
    rfl

@[simp] theorem run_readOptionalU8 (name : String) (value : Option UInt8) (rest : Bytes) :
    readOptionalU8 name (writeOptionalU8 value ++ rest) = .ok (value,rest) :=
  run_readOptional value rest (fun _ _ => rfl)

@[simp] theorem run_readOptionalHash (value : Option Hash) (rest : Bytes) :
    readOptionalHash (writeOptionalHash value ++ rest) = .ok (value,rest) :=
  run_readOptional value rest (fun inner _ => run_readHash inner rest)

@[simp] theorem run_readOptionalString (value : Option String) (fits : ∀ inner, value = some inner → Fits inner) (rest : Bytes) :
    readOptionalString (writeOptionalString value ++ rest) = .ok (value,rest) :=
  run_readOptional value rest (fun inner same => run_readString inner (fits inner same) rest)

theorem run_readFlagged {α : Type} (name : String) (item : Reader α) (write : α → Bytes)
    (outcome : α → Except String α) (value : Option α) (rest : Bytes)
    (reads : ∀ inner, value = some inner → item (write inner ++ rest) = (outcome inner).map (fun inner => (inner,rest))) :
    readFlagged name item (writeOptional write value ++ rest) = (value.mapM outcome).map (fun value => (value,rest)) := by
  cases value with
  | none => rfl
  | some inner =>
    have run := reads inner rfl
    have flag : readBool name (1::(write inner ++ rest)) = .ok (true,write inner ++ rest) := rfl
    simp only [readFlagged,writeOptional,List.cons_append,Reader.run_bind,flag,ok_bind,if_true,run,Option.mapM_some]
    cases outcome inner <;> rfl

end ZeffBoy.Replay
