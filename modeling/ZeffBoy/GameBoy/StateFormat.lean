import ZeffBoy.Library.Reader

/-! What the cartridge mappers share: the bank windows onto the ROM and the save RAM, and the words of the save states, which are
little-endian numbers, flags and counted byte vectors. -/
namespace ZeffBoy.GameBoy
open Library

def romBankSize : Nat := 0x4000

def ramBankSize : Nat := 0x2000

def ramBaseAddr : UInt16 := 0xA000

def maxSaveRam : Nat := 0x20000

structure CartridgeDebugInfo where
  mapper : String
  activeRomBank : Nat
  activeRamBank : Nat
  ramEnabled : Bool
  bankingMode : Option Bool

def readBankedRom (rom : Bytes) (bank : Nat) (addr : UInt16) : UInt8 :=
  let bankCount := max (rom.length / romBankSize) 1
  let b := bank % bankCount
  let phys := b * romBankSize + (addr.toNat &&& (romBankSize - 1))
  rom.getD phys 0xFF

def readFixedRom (rom : Bytes) (addr : UInt16) : UInt8 := rom.getD addr.toNat 0xFF

def readBankedRam (ram : Bytes) (bank : Nat) (addr : UInt16) : UInt8 :=
  let offset := (addr - ramBaseAddr).toNat
  ram.getD (bank * ramBankSize + offset) 0xFF

def writeBankedRam (ram : Bytes) (bank : Nat) (addr : UInt16) (value : UInt8) : Bytes :=
  let offset := (addr - ramBaseAddr).toNat
  ram.set (bank * ramBankSize + offset) value

def isRamEnable (value : UInt8) : Bool := value &&& 0x0F == 0x0A

@[simp] theorem length_writeBankedRam (ram : Bytes) (bank : Nat) (addr : UInt16) (value : UInt8) :
    (writeBankedRam ram bank addr value).length = ram.length := List.length_set ..

theorem masked_lt (value mask : UInt8) (bound : Nat) (fits : mask.toNat < bound) : (value &&& mask).toNat < bound := by
  rw [UInt8.toNat_and]
  exact Nat.and_le_right.trans_lt fits

/-- Bank zero selects bank one. -/
def nonzeroBank (bank : Nat) : Nat := if bank = 0 then 1 else bank

theorem nonzeroBank_pos (bank : Nat) : 0 < nonzeroBank bank := by
  unfold nonzeroBank
  split <;> omega

theorem nonzeroBank_lt {bank bound : Nat} (below : bank < bound) (room : 1 < bound) : nonzeroBank bank < bound := by
  unfold nonzeroBank
  split <;> assumption

theorem nonzeroBank_eq (bank : Nat) (positive : 0 < bank) : nonzeroBank bank = bank := if_neg (by omega)

theorem masked_of_lt (bank width : Nat) (fits : bank < 2^width) : bank &&& (2^width - 1) = bank := by
  rw [Nat.and_two_pow_sub_one_eq_mod,Nat.mod_eq_of_lt fits]

@[simp] theorem isRamEnable_flag (enabled : Bool) : isRamEnable (if enabled then 0x0A else 0x00) = enabled := by
  cases enabled <;> rfl

@[simp] theorem modeBit (mode : Bool) : (mode.toUInt8 &&& 1 != 0) = mode := by
  cases mode <;> rfl

def writeU16 (value : Nat) : Bytes := leBytes 2 value

def writeU32 (value : Nat) : Bytes := leBytes 4 value

def writeU64 (value : Nat) : Bytes := leBytes 8 value

def writeLen (length : Nat) : Bytes := writeU32 length

namespace StateReader

def take (count : Nat) : Reader Bytes := Reader.exact "save-state data is truncated" count

def readU8 : Reader UInt8
  | [] => .error "save-state data is truncated"
  | byte::rest => .ok (byte,rest)

def readBool : Reader Bool := do
  let byte ← readU8
  if byte = 0 then return false
  else if byte = 1 then return true
  else Reader.fail s!"invalid boolean value in save-state: {byte}"

def readU16 : Reader Nat := leValue <$> take 2

def readU32 : Reader Nat := leValue <$> take 4

def readU64 : Reader Nat := leValue <$> take 8

def readExact (count : Nat) : Reader (List.Vector UInt8 count) := Reader.array "save-state data is truncated" count

def readVec (maxLen : Nat) : Reader Bytes := do
  let len ← readU32
  if maxLen < len then Reader.fail s!"save-state vector length {len} exceeds maximum {maxLen}"
  else take len

@[simp] theorem run_readU8 (byte : UInt8) (rest : Bytes) : readU8 (byte::rest) = .ok (byte,rest) := rfl

@[simp] theorem run_readBool (flag : Bool) (rest : Bytes) : readBool (flag.toUInt8::rest) = .ok (flag,rest) := by
  cases flag <;> rfl

theorem run_take (front rest : Bytes) : take front.length (front ++ rest) = .ok (front,rest) :=
  Reader.run_exact _ _ front rest rfl

theorem run_readU64_any (value : Nat) (rest : Bytes) :
    readU64 (writeU64 value ++ rest) = .ok (leValue (leBytes 8 value),rest) := by
  have read := Reader.run_exact "save-state data is truncated" 8 (leBytes 8 value) rest (length_leBytes 8 value)
  rw [readU64,writeU64,Reader.run_map,take,read]
  rfl

theorem run_readWord (width value : Nat) (fits : value < 256^width) (rest : Bytes) :
    (leValue <$> take width) (leBytes width value ++ rest) = .ok (value,rest) := by
  have read := Reader.run_exact "save-state data is truncated" width (leBytes width value) rest (length_leBytes width value)
  rw [Reader.run_map,take,read]
  simp only [Except.map,leValue_leBytes width value fits]

theorem run_readU16 (value : Nat) (fits : value < 2^16) (rest : Bytes) :
    readU16 (writeU16 value ++ rest) = .ok (value,rest) := run_readWord 2 value fits rest

theorem run_readU32 (value : Nat) (fits : value < 2^32) (rest : Bytes) :
    readU32 (writeU32 value ++ rest) = .ok (value,rest) := run_readWord 4 value fits rest

theorem run_readU64 (value : Nat) (fits : value < 2^64) (rest : Bytes) :
    readU64 (writeU64 value ++ rest) = .ok (value,rest) := run_readWord 8 value fits rest

@[simp] theorem run_readExact (count : Nat) (bytes : List.Vector UInt8 count) (rest : Bytes) :
    readExact count (bytes.toList ++ rest) = .ok (bytes,rest) := Reader.run_array _ count bytes rest

theorem run_readVec (bytes : Bytes) (maxLen : Nat) (fits : bytes.length ≤ maxLen) (word : maxLen < 2^32) (rest : Bytes) :
    readVec maxLen (writeLen bytes.length ++ (bytes ++ rest)) = .ok (bytes,rest) := by
  rw [readVec,Reader.run_bind,writeLen,run_readU32 _ (fits.trans_lt word),ok_bind]
  dsimp only
  rw [if_neg (not_lt.mpr fits),run_take]

end StateReader

end ZeffBoy.GameBoy
