import ZeffBoy.Gba.Backup

/-! The flash chip as a memory of banks: its bytes are changed by the commands that are complete, and by nothing else. -/
namespace ZeffBoy.Gba.Backup
open List

open Library (Bytes)

/-- A write as the chip sees it. -/
abbrev Store := Nat × UInt8

/-- The writes that lead to a state of the command sequence. -/
def FlashCommandState.opening : FlashCommandState → List Store
  | ready => []
  | unlock1 => [(0x5555,0xAA)]
  | unlock2 => [(0x5555,0xAA),(0x2AAA,0x55)]
  | program => [(0x5555,0xAA),(0x2AAA,0x55),(0x5555,0xA0)]
  | eraseSetup => [(0x5555,0xAA),(0x2AAA,0x55),(0x5555,0x80)]
  | eraseUnlock1 => [(0x5555,0xAA),(0x2AAA,0x55),(0x5555,0x80),(0x5555,0xAA)]
  | eraseUnlock2 => [(0x5555,0xAA),(0x2AAA,0x55),(0x5555,0x80),(0x5555,0xAA),(0x2AAA,0x55)]
  | bankSwitch => [(0x5555,0xAA),(0x2AAA,0x55),(0x5555,0xB0)]

namespace Cartridge
variable {cartridge next : Cartridge}

def bankBase (cartridge : Cartridge) : Nat := cartridge.flash.bank * 0x10000

/-- A flash chip in one of the states it can be in. -/
structure Flashing (cartridge : Cartridge) : Prop where
  flash : cartridge.backupKind.isFlash = true
  fits : cartridge.flash.Fits cartridge.backupKind

theorem flashAddrOffset_lt (addr : UInt32) : flashAddrOffset addr < 0x10000 := by
  rw [flashAddrOffset,show sramSize - 1 = 2^16 - 1 from rfl,Nat.and_two_pow_sub_one_eq_mod]
  exact Nat.mod_lt _ (by decide)

theorem Flashing.cases (flashing : cartridge.Flashing) :
    (cartridge.backupKind = .flash512 ∧ cartridge.flash.bank = 0 ∧ cartridge.flash.command ≠ .bankSwitch ∧
      cartridge.backup.length = 0x10000) ∨
    (cartridge.backupKind = .flash1m ∧ cartridge.flash.bank ≤ 1 ∧ cartridge.backup.length = 0x20000) := by
  obtain ⟨flash,fits⟩ := flashing
  have size := cartridge.size
  cases kind : cartridge.backupKind with
  | none => rw [kind] at flash; exact absurd flash (by decide)
  | sram => rw [kind] at flash; exact absurd flash (by decide)
  | eeprom => rw [kind] at flash; exact absurd flash (by decide)
  | flash512 =>
    rw [kind] at fits size
    exact .inl ⟨rfl,fits.1,fits.2,size⟩
  | flash1m =>
    rw [kind] at fits size
    exact .inr ⟨rfl,fits,size⟩

theorem Flashing.index (flashing : cartridge.Flashing) {offset : Nat} (inside : offset < 0x10000) :
    cartridge.flashIndex offset = cartridge.bankBase + offset ∧ cartridge.bankBase + 0x10000 ≤ cartridge.backup.length := by
  obtain ⟨kind,bank,_,size⟩ | ⟨kind,bank,size⟩ := flashing.cases
  · have base : cartridge.bankBase = 0 := by rw [bankBase,bank]
    have narrow : offset &&& (0x10000 - 1) = offset :=
      (Nat.and_two_pow_sub_one_eq_mod offset 16).trans (Nat.mod_eq_of_lt inside)
    rw [flashIndex,kind,size,base]
    simpa using narrow
  · have wide : (cartridge.bankBase + offset) &&& (0x20000 - 1) = cartridge.bankBase + offset := by
      refine (Nat.and_two_pow_sub_one_eq_mod _ 17).trans (Nat.mod_eq_of_lt ?_)
      unfold bankBase
      omega
    rw [flashIndex,if_pos kind,size]
    refine ⟨wide,?_⟩
    unfold bankBase
    omega

/-- What a write may make of the bytes: a byte of the bank loses bits, a sector of it or the whole chip is erased. -/
inductive Changes (cartridge : Cartridge) (store : Store) : Bytes → Prop
  | none : Changes cartridge store cartridge.backup
  | program : cartridge.flash.command = .program → cartridge.bankBase + store.1 < cartridge.backup.length →
      Changes cartridge store (cartridge.backup.modify (cartridge.bankBase + store.1) (· &&& store.2))
  | sector : cartridge.flash.command = .eraseUnlock2 → store.2 = 0x30 →
      cartridge.bankBase + store.1 / 0x1000 * 0x1000 + 0x1000 ≤ cartridge.backup.length →
      Changes cartridge store (fill (cartridge.bankBase + store.1 / 0x1000 * 0x1000)
        (cartridge.bankBase + store.1 / 0x1000 * 0x1000 + 0x1000) 0xFF cartridge.backup)
  | chip : cartridge.flash.command = .eraseUnlock2 → store = (0x5555,0x10) →
      Changes cartridge store (List.replicate cartridge.backup.length 0xFF)

/-- What a write does to a flash chip. -/
structure Stored (cartridge : Cartridge) (store : Store) (next : Cartridge) : Prop where
  flashing : next.Flashing
  changes : Changes cartridge store next.backup
  command : next.flash.command = .ready ∨ next.flash.command.opening = cartridge.flash.command.opening ++ [store]
  bank : next.flash.bank = cartridge.flash.bank ∨
    cartridge.flash.command = .bankSwitch ∧ store.1 = 0 ∧ next.flash.bank = (store.2 &&& 1).toNat

theorem Flashing.step (flashing : cartridge.Flashing) (kind : next.backupKind = cartridge.backupKind)
    (bank : next.flash.bank = cartridge.flash.bank ∨ cartridge.backupKind = .flash1m ∧ next.flash.bank ≤ 1)
    (allowed : next.flash.command = .bankSwitch → cartridge.backupKind = .flash1m) : next.Flashing := by
  refine ⟨kind ▸ flashing.flash,?_⟩
  rw [kind]
  obtain ⟨small,zero,_⟩ | ⟨large,one,_⟩ := flashing.cases
  · rw [small] at bank allowed ⊢
    have same := bank.resolve_right fun other => absurd other.1 (by decide)
    exact ⟨same.trans zero,fun switch => absurd (allowed switch) (by decide)⟩
  · rw [large]
    obtain same | ⟨_,below⟩ := bank
    · exact same.trans_le one
    · exact below

theorem Flashing.eraseSector (flashing : cartridge.Flashing) {offset : Nat} (inside : offset < 0x10000) :
    (cartridge.eraseFlashSector offset).backup = fill (cartridge.bankBase + offset / 0x1000 * 0x1000)
      (cartridge.bankBase + offset / 0x1000 * 0x1000 + 0x1000) 0xFF cartridge.backup ∧
    cartridge.bankBase + offset / 0x1000 * 0x1000 + 0x1000 ≤ cartridge.backup.length := by
  have start : offset >>> 12 <<< 12 = offset / 0x1000 * 0x1000 := by
    rw [Nat.shiftLeft_eq,Nat.shiftRight_eq_div_pow]
  obtain ⟨index,room⟩ := flashing.index (show offset / 0x1000 * 0x1000 < 0x10000 by omega)
  have fits : cartridge.bankBase + offset / 0x1000 * 0x1000 + 0x1000 ≤ cartridge.backup.length := by omega
  refine ⟨?_,fits⟩
  show fill (cartridge.flashIndex (offset >>> 12 <<< 12)) (min (cartridge.flashIndex (offset >>> 12 <<< 12) + 0x1000) _) _ _ = _
  rw [start,index,min_eq_left fits]

theorem Flashing.stored (flashing : cartridge.Flashing) (addr : UInt32) (value : UInt8) :
    Stored cartridge (flashAddrOffset addr,value) (cartridge.flashWrite8 addr value) := by
  have inside := flashAddrOffset_lt addr
  have settled : FlashCommandState.ready = .bankSwitch → cartridge.backupKind = .flash1m := fun same => absurd same (by decide)
  -- The next step of a sequence, or the end of it: the bytes stay.
  have enters {command : FlashCommandState} {idMode : Bool} (allowed : command = .bankSwitch → cartridge.backupKind = .flash1m)
      (goes : command = .ready ∨ command.opening = cartridge.flash.command.opening ++ [(flashAddrOffset addr,value)]) :
      Stored cartridge (flashAddrOffset addr,value) {cartridge with flash := ⟨command,idMode,cartridge.flash.bank⟩} :=
    ⟨flashing.step rfl (.inl rfl) allowed,.none,goes,.inl rfl⟩
  have ends {idMode : Bool} : Stored cartridge (flashAddrOffset addr,value)
      {cartridge with flash := ⟨.ready,idMode,cartridge.flash.bank⟩} := enters settled (.inl rfl)
  unfold flashWrite8
  dsimp only
  cases state : cartridge.flash.command with
  | ready =>
    rw [state] at enters
    dsimp only
    split
    · rename_i expected
      exact enters (fun same => absurd same (by decide)) (.inr (by rw [expected.1,expected.2]; rfl))
    · split
      · exact ends
      · exact ⟨flashing,.none,.inl state,.inl rfl⟩
  | unlock1 =>
    rw [state] at enters
    dsimp only
    split
    · rename_i expected
      exact enters (fun same => absurd same (by decide)) (.inr (by rw [expected.1,expected.2]; rfl))
    · exact ends
  | unlock2 =>
    rw [state] at enters
    dsimp only
    split
    · exact ends
    split
    · exact ends
    split
    · rename_i expected
      exact enters (fun same => absurd same (by decide)) (.inr (by rw [expected.1,expected.2]; rfl))
    split
    · rename_i expected
      exact enters (fun same => absurd same (by decide)) (.inr (by rw [expected.1,expected.2]; rfl))
    split
    · rename_i expected
      exact enters (fun _ => expected.2.2) (.inr (by rw [expected.1,expected.2.1]; rfl))
    · exact ends
  | program =>
    obtain ⟨index,room⟩ := flashing.index inside
    dsimp only
    refine ⟨flashing.step rfl (.inl rfl) settled,?_,.inl rfl,.inl rfl⟩
    show Changes cartridge _ (cartridge.backup.modify (cartridge.flashIndex (flashAddrOffset addr)) (· &&& value))
    rw [index]
    exact .program state (show cartridge.bankBase + flashAddrOffset addr < cartridge.backup.length by omega)
  | eraseSetup =>
    rw [state] at enters
    dsimp only
    split
    · rename_i expected
      exact enters (fun same => absurd same (by decide)) (.inr (by rw [expected.1,expected.2]; rfl))
    · exact ends
  | eraseUnlock1 =>
    rw [state] at enters
    dsimp only
    split
    · rename_i expected
      exact enters (fun same => absurd same (by decide)) (.inr (by rw [expected.1,expected.2]; rfl))
    · exact ends
  | eraseUnlock2 =>
    dsimp only
    split
    · rename_i expected
      exact ⟨flashing.step rfl (.inl rfl) settled,.chip state (Prod.ext expected.1 expected.2),.inl rfl,.inl rfl⟩
    · split
      · rename_i sector
        obtain ⟨erased,fits⟩ := flashing.eraseSector inside
        refine ⟨flashing.step rfl (.inl rfl) settled,?_,.inl rfl,.inl rfl⟩
        show Changes cartridge _ (cartridge.eraseFlashSector (flashAddrOffset addr)).backup
        rw [erased]
        exact .sector state sector fits
      · exact ends
  | bankSwitch =>
    dsimp only
    have wide : cartridge.backupKind = .flash1m := by
      obtain ⟨_,_,other,_⟩ | ⟨kind,_⟩ := flashing.cases
      · exact absurd state other
      · exact kind
    split
    · rename_i zero
      have small : (value &&& 1).toNat ≤ 1 := by
        have one : value &&& 1 ≤ 1 := by
          have all : ∀ value : BitVec 8, value &&& 1#8 ≤ 1#8 := by decide
          exact all value.toBitVec
        exact one
      exact ⟨flashing.step rfl (.inr ⟨wide,small⟩) settled,.none,.inl rfl,.inr ⟨state,zero,rfl⟩⟩
    · exact ends

/-- The addresses of the other sensor. -/
def Tilted (addr : UInt32) : Prop := (addr &&& 0xFFFF).toNat ∈ [0x8000,0x8100,0x8200,0x8300,0x8400,0x8500]

instance (addr : UInt32) : Decidable (Tilted addr) := inferInstanceAs (Decidable (_ ∈ _))

theorem tilt_handles (mapComponent : UInt32 → UInt16) (addr : UInt32) (value : UInt8) (tilt : TiltSensor) :
    (tilt.write8 mapComponent addr value).1 = true ↔ Tilted addr := by
  unfold TiltSensor.write8 Tilted
  split <;> simp_all

/-- A write reaches the chip. -/
def Reaches (cartridge : Cartridge) (addr : UInt32) : Prop := cartridge.tilt = none ∨ ¬Tilted addr

instance (cartridge : Cartridge) (addr : UInt32) : Decidable (cartridge.Reaches addr) := inferInstanceAs (Decidable (_ ∨ _))

theorem Stored.retilt {store : Store} {tilt : Option TiltSensor} (stored : Stored {cartridge with tilt := tilt} store next) :
    Stored cartridge store next := by
  obtain ⟨flashing,changes,command,bank⟩ := stored
  refine ⟨flashing,?_,command,bank⟩
  generalize next.backup = bytes at changes ⊢
  cases changes with
  | none => exact .none
  | program state inside => exact .program state inside
  | sector state value inside => exact .sector state value inside
  | chip state same => exact .chip state same

theorem Flashing.storeBackup8 (flashing : cartridge.Flashing) (addr : UInt32) (value : UInt8) :
    cartridge.storeBackup8 addr value = cartridge.flashWrite8 addr value := by
  have chip : cartridge.backupKind ≠ .eeprom ∧ cartridge.backup ≠ [] := by
    refine ⟨fun same => ?_,fun none' => ?_⟩
    · have flash := flashing.flash
      rw [same] at flash
      exact absurd flash (by decide)
    · obtain ⟨_,room⟩ := flashing.index (show 0 < 0x10000 by decide)
      rw [none',length_nil] at room
      omega
  rw [Cartridge.storeBackup8,if_neg chip.2,if_neg chip.1,if_pos flashing.flash]

theorem beside_flashWrite8 (addr : UInt32) (value : UInt8) : (cartridge.flashWrite8 addr value).tilt = cartridge.tilt ∧
    (cartridge.flashWrite8 addr value).eeprom = cartridge.eeprom ∧
      (cartridge.flashWrite8 addr value).backupKind = cartridge.backupKind := by
  unfold flashWrite8
  dsimp only
  repeat' split
  all_goals exact ⟨rfl,rfl,rfl⟩

theorem Flashing.backupWrite8 (mapComponent : UInt32 → UInt16) (flashing : cartridge.Flashing) (addr : UInt32) (value : UInt8) :
    let next := cartridge.backupWrite8 mapComponent addr value
    (cartridge.Reaches addr → Stored cartridge (flashAddrOffset addr,value) next) ∧
      (¬cartridge.Reaches addr → next.flash = cartridge.flash ∧ next.backup = cartridge.backup) ∧ next.Flashing ∧
        (next.tilt = none ↔ cartridge.tilt = none) := by
  unfold Cartridge.backupWrite8
  dsimp only
  cases found : cartridge.tilt with
  | none =>
    dsimp only
    have stored := flashing.stored addr value
    rw [flashing.storeBackup8]
    exact ⟨fun _ => stored,fun missed => absurd (.inl found) missed,stored.flashing,by rw [(beside_flashWrite8 addr value).1,found]⟩
  | some tilt =>
    dsimp only
    have handles := tilt_handles mapComponent addr value tilt
    have beside (tilt : TiltSensor) : Flashing {cartridge with tilt := some tilt} := ⟨flashing.flash,flashing.fits⟩
    split
    · rename_i handled
      have missed : ¬cartridge.Reaches addr := by
        rintro (none' | apart)
        · rw [found] at none'
          exact absurd none' (Option.some_ne_none _)
        · exact apart (handles.mp handled)
      exact ⟨fun reaches => absurd reaches missed,fun _ => ⟨rfl,rfl⟩,beside _,by simp⟩
    · rename_i free
      have stored := (beside (tilt.write8 mapComponent addr value).2).stored addr value
      rw [(beside _).storeBackup8]
      exact ⟨fun _ => stored.retilt,fun missed => absurd (.inr (mt handles.mpr free)) missed,stored.flashing,by
        rw [(beside_flashWrite8 addr value).1]; simp⟩

def seen (cartridge : Cartridge) (writes : List (UInt32 × UInt8)) : List Store :=
  (writes.filter fun write => cartridge.Reaches write.1).map fun write => (flashAddrOffset write.1,write.2)

def writing (writes : List (UInt32 × UInt8)) : List BackupCall := writes.map fun write => .backupWrite8 write.1 write.2

theorem Flashing.run (mapComponent : UInt32 → UInt16) (flashing : cartridge.Flashing) (writes : List (UInt32 × UInt8)) :
    let before := cartridge.run mapComponent (writing writes)
    before.Flashing ∧ before.flash.command.opening <:+ cartridge.flash.command.opening ++ cartridge.seen writes ∧
      (before.tilt = none ↔ cartridge.tilt = none) := by
  induction writes using List.reverseRecOn with
  | nil => exact ⟨flashing,by rw [seen,filter_nil,map_nil,append_nil]; exact suffix_refl _,Iff.rfl⟩
  | append_singleton writes write ih =>
    obtain ⟨fine,opened,same⟩ := ih
    have last : cartridge.run mapComponent (writing (writes ++ [write])) =
        (cartridge.run mapComponent (writing writes)).backupWrite8 mapComponent write.1 write.2 := by
      rw [Cartridge.run,writing,map_append,foldl_append]
      rfl
    obtain ⟨stores,misses,good,tilt⟩ := fine.backupWrite8 mapComponent write.1 write.2
    rw [last]
    refine ⟨good,?_,tilt.trans same⟩
    have reach : (cartridge.run mapComponent (writing writes)).Reaches write.1 ↔ cartridge.Reaches write.1 := or_congr same Iff.rfl
    by_cases reaches : cartridge.Reaches write.1
    · have sees : cartridge.seen (writes ++ [write]) = cartridge.seen writes ++ [(flashAddrOffset write.1,write.2)] := by
        simp [seen,filter_append,reaches]
      rw [sees]
      obtain done | goes := (stores (reach.mpr reaches)).command
      · rw [done]
        exact nil_suffix
      · rw [goes]
        obtain ⟨earlier,whole⟩ := opened
        exact ⟨earlier,by rw [← append_assoc,whole,append_assoc]⟩
    · have sees : cartridge.seen (writes ++ [write]) = cartridge.seen writes := by
        simp [seen,filter_append,reaches]
      rw [sees,(misses (mt reach.mp reaches)).1]
      exact opened

end Cartridge

end ZeffBoy.Gba.Backup
