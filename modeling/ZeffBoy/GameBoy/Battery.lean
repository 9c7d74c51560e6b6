import ZeffBoy.Library.Patch
import ZeffBoy.GameBoy.Catchup
import ZeffBoy.GameBoy.SaveState

/-! The battery data of an MBC3 and the clock in it.
The memory is followed by the ten registers as 32-bit words, the time of the dump and, in the emulator's own files, the
phase within the second. Loading catches the clock up with the seconds since the dump. -/
namespace ZeffBoy.GameBoy
open Library List

def rtcSubsecondV1Magic : Bytes := [0x5A,0x42,0x52,0x54,0x43,0x30,0x30,0x31]

def rtcSubsecondExtensionLen : Nat := 16

def loadRamInto (ram bytes : Bytes) : Bytes :=
  let copyLen := min ram.length bytes.length
  bytes.take copyLen ++ List.replicate (ram.length - copyLen) 0

def rtcWord (value : UInt8) : Bytes := leBytes 4 value.toNat

theorem length_rtcWord (value : UInt8) : (rtcWord value).length = 4 := length_leBytes 4 value.toNat

namespace Mbc3

def dumpSramAtTime (self : Mbc3) (now : UInt64) : Bytes :=
  if !self.hasRtc then self.ram
  else self.ram ++ (self.rtc.internal.toList.flatMap rtcWord ++ (self.rtc.latched.toList.flatMap rtcWord ++ leBytes 8 now.toNat))

def dumpSramWithRtcSubsecondAtTime (self : Mbc3) (now : UInt64) : Bytes :=
  self.dumpSramAtTime now ++ if self.hasRtc then rtcSubsecondV1Magic ++ leBytes 8 self.rtc.subsecondCycles else []

def footerRegisters (footer : Bytes) (place : Nat) : RtcRegisters :=
  List.Vector.ofFn fun index =>
    let start := (place + index.val) * 4
    sanitizeRtcRegister index (UInt8.ofNat (leValue (slice footer start (start + 4))))

def extendedSubsecond (bytes : Bytes) (ramLen : Nat) : Option Nat :=
  (if bytes.length = ramLen + 48 + rtcSubsecondExtensionLen ∧ slice bytes (ramLen + 48) (ramLen + 56) = rtcSubsecondV1Magic then
    some (leValue (slice bytes (ramLen + 56) (ramLen + 64)))
  else none).filter (· < gbTCyclesPerSecond)

def savedSeconds (bytes : Bytes) (ramLen : Nat) : Nat :=
  if ramLen + 48 ≤ bytes.length then leValue (slice bytes (ramLen + 40) (ramLen + 48))
  else leValue (slice bytes (ramLen + 40) (ramLen + 44))

def loadSramAtTime (self : Mbc3) (bytes : Bytes) (now : UInt64) : Mbc3 :=
  if !self.hasRtc then {self with ram := loadRamInto self.ram bytes}
  else
    let ramLen := self.ram.length
    let extendedSubsecond := extendedSubsecond bytes ramLen
    if bytes.length = ramLen + 44 ∨ bytes.length = ramLen + 48 ∨ extendedSubsecond.isSome then
      let footer := slice bytes ramLen (ramLen + 44)
      let rtc := {self.rtc with internal := footerRegisters footer 0, latched := footerRegisters footer rtcRegCount}
      let elapsed := now.toNat - savedSeconds bytes ramLen
      {self with
        ram := loadRamInto self.ram (bytes.take ramLen)
        rtc := {rtc.catchupSeconds elapsed with subsecondCycles := extendedSubsecond.getD 0}}
    else {self with ram := loadRamInto self.ram bytes}

def applyBessRtc (self : Mbc3) (current latched : RtcRegisters) (elapsedSeconds : UInt64) : Mbc3 :=
  if !self.hasRtc then self
  else {self with
    rtc := Rtc.catchupSeconds ⟨sanitizeRegisters current,sanitizeRegisters latched,0⟩ elapsedSeconds.toNat}

/-- The states of an MBC3: built, run by the guest, loaded from any file. -/
inductive Reached : Mbc3 → Prop
  | new (rom : Bytes) (ramSize : Nat) (hasRtc : Bool) : Reached (new rom ramSize hasRtc)
  | step {self : Mbc3} (tCycles : UInt64) : Reached self → Reached (self.step tCycles)
  | writeRom {self : Mbc3} (addr : UInt16) (value : UInt8) : Reached self → Reached (self.writeRom addr value)
  | writeRam {self : Mbc3} (addr : UInt16) (value : UInt8) : Reached self → Reached (self.writeRam addr value)
  | restoreRomBytes {self : Mbc3} (rom : Bytes) : Reached self → Reached (self.restoreRomBytes rom)
  | loadSramAtTime {self : Mbc3} (bytes : Bytes) (now : UInt64) : Reached self → Reached (self.loadSramAtTime bytes now)
  | applyBessRtc {self : Mbc3} (current latched : RtcRegisters) (elapsedSeconds : UInt64) :
      Reached self → Reached (self.applyBessRtc current latched elapsedSeconds)
  | readState {self : Mbc3} (input rest : Bytes) : readState input = .ok (self,rest) → Reached self

end Mbc3

namespace Rtc

theorem ticks_latched (self : Rtc) (count : Nat) :
    (tickOneSecond^[count] self).latched = self.latched ∧ (tickOneSecond^[count] self).subsecondCycles = self.subsecondCycles := by
  induction count with
  | zero => exact ⟨rfl,rfl⟩
  | succ count ih =>
    rw [Function.iterate_succ_apply',tickOneSecond_latched,tickOneSecond_subsecondCycles]
    exact ih

def withPhase (phase : Nat) (self : Rtc) : Rtc := {self with subsecondCycles := phase}

theorem tickOneSecond_phase (phase : Nat) (self : Rtc) : (self.withPhase phase).tickOneSecond = self.tickOneSecond.withPhase phase := by
  have hours (self : Rtc) : (self.withPhase phase).incrementHours = self.incrementHours.withPhase phase := by
    rw [incrementHours,incrementHours,apply_ite (withPhase phase)]
    rfl
  have minutes (self : Rtc) : (self.withPhase phase).incrementMinutes = self.incrementMinutes.withPhase phase := by
    rw [incrementMinutes,incrementMinutes,apply_ite (withPhase phase),← hours]
    rfl
  rw [tickOneSecond,tickOneSecond,apply_ite (withPhase phase),← minutes]
  rfl

theorem catchupSeconds_phase {self : Rtc} (clean : Sanitized self.internal) (phase seconds : Nat) :
    (self.withPhase phase).catchupSeconds seconds = (self.catchupSeconds seconds).withPhase phase := by
  cases running : self.halted with
  | true => rw [catchupSeconds_halted running,catchupSeconds_halted (show (self.withPhase phase).halted = true from running)]
  | false =>
    rw [catchupSeconds_eq clean running,catchupSeconds_eq (show Sanitized (self.withPhase phase).internal from clean) running]
    induction seconds with
    | zero => rfl
    | succ seconds ih => rw [Function.iterate_succ_apply',ih,tickOneSecond_phase,Function.iterate_succ_apply']

theorem catchupSeconds_advance {self : Rtc} (clean : Sanitized self.internal) (phase : self.subsecondCycles < gbTCyclesPerSecond)
    (seconds : Nat) :
    self.catchupSeconds seconds = (fun rtc => rtc.advanceCycles (UInt64.ofNat gbTCyclesPerSecond))^[seconds] self := by
  rw [advanceCycles_seconds phase]
  cases running : self.halted with
  | true => exact catchupSeconds_halted running seconds
  | false => exact catchupSeconds_eq clean running seconds

theorem catchupSeconds_latched {self : Rtc} (clean : Sanitized self.internal) (seconds : Nat) :
    (self.catchupSeconds seconds).latched = self.latched ∧
      (self.catchupSeconds seconds).subsecondCycles = self.subsecondCycles := by
  cases running : self.halted with
  | true =>
    rw [catchupSeconds_halted running]
    exact ⟨rfl,rfl⟩
  | false =>
    rw [catchupSeconds_eq clean running]
    exact self.ticks_latched seconds

theorem Sound.catchupSeconds {self : Rtc} (sound : self.Sound) (seconds : Nat) : (self.catchupSeconds seconds).Sound := by
  obtain ⟨latched,phase⟩ := catchupSeconds_latched sound.internal seconds
  refine ⟨?_,by rw [latched]; exact sound.latched,by rw [phase]; exact sound.subsecondCycles⟩
  cases running : self.halted with
  | true =>
    rw [catchupSeconds_halted running]
    exact sound.internal
  | false =>
    rw [catchupSeconds_eq sound.internal running]
    exact sanitized_ticks sound.internal seconds

end Rtc

namespace Mbc3

theorem sanitizeRegisters_sanitized (registers : RtcRegisters) : Rtc.Sanitized (sanitizeRegisters registers) := by
  intro index
  rw [sanitizeRegisters,List.Vector.get_ofFn,Rtc.sanitize_idem]

theorem footerRegisters_sanitized (footer : Bytes) (place : Nat) : Rtc.Sanitized (footerRegisters footer place) := by
  intro index
  rw [footerRegisters,List.Vector.get_ofFn,Rtc.sanitize_idem]

theorem caught_sound {rtc : Rtc} (sound : rtc.Sound) (seconds : Nat) {phase : Nat} (below : phase < gbTCyclesPerSecond) :
    ({rtc.catchupSeconds seconds with subsecondCycles := phase} : Rtc).Sound :=
  ⟨(sound.catchupSeconds seconds).internal,(sound.catchupSeconds seconds).latched,below⟩

theorem extendedSubsecond_below (bytes : Bytes) (ramLen : Nat) :
    (extendedSubsecond bytes ramLen).getD 0 < gbTCyclesPerSecond := by
  cases phase : extendedSubsecond bytes ramLen with
  | none => exact Nat.succ_pos _
  | some subsecond => exact of_decide_eq_true (Option.filter_eq_some_iff.mp phase).2

theorem loadSramAtTime_sound {self : Mbc3} (sound : self.rtc.Sound) (bytes : Bytes) (now : UInt64) :
    (self.loadSramAtTime bytes now).rtc.Sound := by
  have held (footer : Bytes) : Rtc.Sound {self.rtc with
      internal := footerRegisters footer 0, latched := footerRegisters footer rtcRegCount} :=
    ⟨footerRegisters_sanitized footer 0,footerRegisters_sanitized footer rtcRegCount,sound.subsecondCycles⟩
  unfold loadSramAtTime
  split
  · exact sound
  dsimp only
  split
  · exact caught_sound (held _) _ (extendedSubsecond_below bytes self.ram.length)
  · exact sound

theorem readState_sound : readState.Yields fun self => self.rtc.Sound := by
  unfold readState
  repeat refine Reader.Yields.bind fun _ => ?_
  refine Reader.Yields.pure ⟨sanitizeRegisters_sanitized _,sanitizeRegisters_sanitized _,?_⟩
  dsimp only
  split
  · assumption
  · exact Nat.succ_pos _

theorem Reached.sound {self : Mbc3} (reached : Reached self) : self.rtc.Sound := by
  induction reached with
  | new => exact Rtc.sound_new
  | @step self tCycles _ sound =>
    unfold Mbc3.step
    split
    · exact sound.advanceCycles tCycles
    · exact sound
  | @writeRom self addr value _ sound =>
    unfold Mbc3.writeRom
    split
    · exact sound
    split
    · exact sound
    split
    · exact sound
    split
    · dsimp only
      split
      · exact sound.latch
      · exact sound
    · exact sound
  | @writeRam self addr value _ sound =>
    unfold Mbc3.writeRam
    split
    · exact sound
    split
    · exact sound.writeInternal ..
    split
    · exact sound
    split
    · exact sound
    · exact sound
  | restoreRomBytes rom _ sound => exact sound
  | loadSramAtTime bytes now _ sound => exact loadSramAtTime_sound sound bytes now
  | @applyBessRtc self current latched elapsedSeconds _ sound =>
    unfold Mbc3.applyBessRtc
    split
    · exact sound
    · refine Rtc.Sound.catchupSeconds ⟨?_,?_,?_⟩ _
      · exact sanitizeRegisters_sanitized current
      · exact sanitizeRegisters_sanitized latched
      · exact Nat.succ_pos _
  | @readState self input rest read => exact readState_sound input self rest read

theorem footerRegisters_words {ram : Bytes} (front rest : Bytes) {registers : RtcRegisters} (clean : Rtc.Sanitized registers)
    {place : Nat} (behind : front.length = place * 4) (inside : place ≤ 6) :
    footerRegisters (slice (ram ++ (front ++ (registers.toList.flatMap rtcWord ++ rest))) ram.length (ram.length + 44)) place =
      registers := by
  refine List.Vector.ext fun index => ?_
  have below : index.val < 5 := index.isLt
  have words := slice_flatMap length_rtcWord registers.toList index
    (by rw [registers.toList_length]; exact below) rest
  have skipped := slice_skip front (registers.toList.flatMap rtcWord ++ rest) ((place + index) * 4) ((place + index) * 4 + 4)
    (by omega)
  rw [footerRegisters,List.Vector.get_ofFn]
  dsimp only
  rw [slice_slice _ (by omega),slice_skip _ _ _ _ (by omega),Nat.add_sub_cancel_left,Nat.add_sub_cancel_left,skipped,
    show (place + index) * 4 - front.length = index * 4 by omega,
    show (place + index) * 4 + 4 - front.length = index * 4 + 4 by omega,words,rtcWord,
    leValue_leBytes _ _ ((UInt8.toNat_lt _).trans (by decide)),UInt8.ofNat_toNat]
  exact clean index

theorem length_words (registers : RtcRegisters) : (registers.toList.flatMap rtcWord).length = 20 := by
  rw [List.length_flatMap,map_congr_left fun value _ => length_rtcWord value,map_const',registers.toList_length]
  rfl

theorem loadRamInto_whole {ram bytes : Bytes} (same : bytes.length = ram.length) : loadRamInto ram bytes = bytes := by
  rw [loadRamInto,same,min_self,Nat.sub_self,← same,take_length,replicate_zero,append_nil]

/-- The clock behind the memory: the registers, the time of the dump, and what extends the plain layout. -/
def layout (self : Mbc3) (now : UInt64) (extension : Bytes) : Bytes :=
  self.ram ++ (self.rtc.internal.toList.flatMap rtcWord ++ (self.rtc.latched.toList.flatMap rtcWord ++
    (leBytes 8 now.toNat ++ extension)))

section
variable (self : Mbc3) (now : UInt64) (extension : Bytes)

theorem dumpSramAtTime_eq (clock : self.hasRtc = true) : self.dumpSramAtTime now = self.layout now [] := by
  rw [dumpSramAtTime,clock,layout,append_nil]
  rfl

theorem dumpSramWithRtcSubsecondAtTime_eq (clock : self.hasRtc = true) :
    self.dumpSramWithRtcSubsecondAtTime now = self.layout now (rtcSubsecondV1Magic ++ leBytes 8 self.rtc.subsecondCycles) := by
  rw [dumpSramWithRtcSubsecondAtTime,dumpSramAtTime_eq self now clock,if_pos clock]
  simp [layout]

theorem length_layout : (self.layout now extension).length = self.ram.length + 48 + extension.length := by
  simp only [layout,length_append,length_words,length_leBytes]
  omega

theorem slice_extension (start stop : Nat) :
    slice (self.layout now extension) (self.ram.length + 48 + start) (self.ram.length + 48 + stop) = slice extension start stop := by
  have internal := length_words self.rtc.internal
  have latched := length_words self.rtc.latched
  rw [layout,slice_skip _ _ _ _ (by omega),slice_skip _ _ _ _ (by omega),slice_skip _ _ _ _ (by omega),
    slice_skip _ _ _ _ (by rw [length_leBytes]; omega),length_leBytes]
  congr 1 <;> omega

theorem savedSeconds_layout : savedSeconds (self.layout now extension) self.ram.length = now.toNat := by
  have internal := length_words self.rtc.internal
  have latched := length_words self.rtc.latched
  rw [savedSeconds,length_layout,if_pos (by omega),layout,slice_skip _ _ _ _ (by omega),slice_skip _ _ _ _ (by omega),
    slice_skip _ _ _ _ (by omega)]
  have time := slice_front (leBytes 8 now.toNat) extension 8 (length_leBytes 8 _)
  rw [show self.ram.length + 40 - self.ram.length - _ - _ = 0 by omega,show self.ram.length + 48 - self.ram.length - _ - _ = 8 by omega,
    time,leValue_leBytes _ _ now.toNat_lt]

theorem extendedSubsecond_phase {phase : Nat} (below : phase < gbTCyclesPerSecond) :
    extendedSubsecond (self.layout now (rtcSubsecondV1Magic ++ leBytes 8 phase)) self.ram.length = some phase := by
  have magic := (self.slice_extension now (rtcSubsecondV1Magic ++ leBytes 8 phase) 0 8).trans
    (slice_front rtcSubsecondV1Magic (leBytes 8 phase) 8 rfl)
  have cycles := (self.slice_extension now (rtcSubsecondV1Magic ++ leBytes 8 phase) 8 16).trans
    (slice_skip rtcSubsecondV1Magic (leBytes 8 phase) 8 16 (Nat.le_refl 8))
  have word := (slice_all (leBytes 8 phase) 8 (length_leBytes 8 phase))
  rw [extendedSubsecond,length_layout,if_pos ⟨by rw [length_append,length_leBytes]; rfl,magic⟩]
  rw [show self.ram.length + 56 = self.ram.length + 48 + 8 from rfl,show self.ram.length + 64 = self.ram.length + 48 + 16 from rfl,
    cycles]
  change Option.filter _ (some (leValue (slice (leBytes 8 phase) 0 8))) = _
  rw [word,leValue_leBytes _ _ (below.trans (by decide))]
  exact Option.filter_eq_some_iff.mpr ⟨rfl,decide_eq_true below⟩

variable {self} (clean : self.rtc.Sound)
include clean

theorem footerRegisters_internal :
    footerRegisters (slice (self.layout now extension) self.ram.length (self.ram.length + 44)) 0 = self.rtc.internal :=
  footerRegisters_words [] _ clean.internal rfl zero_le

theorem footerRegisters_latched :
    footerRegisters (slice (self.layout now extension) self.ram.length (self.ram.length + 44)) rtcRegCount = self.rtc.latched :=
  footerRegisters_words _ _ clean.latched (length_words _) (by decide)

variable {fresh : Mbc3} (clock : fresh.hasRtc = true) (memory : fresh.ram.length = self.ram.length) (later : UInt64)
include clock memory

theorem loadSramAtTime_layout (accepted : extension = [] ∨ (extendedSubsecond (self.layout now extension) self.ram.length).isSome) :
    fresh.loadSramAtTime (self.layout now extension) later = {fresh with
      ram := self.ram
      rtc := {Rtc.catchupSeconds ⟨self.rtc.internal,self.rtc.latched,fresh.rtc.subsecondCycles⟩ (later.toNat - now.toNat) with
        subsecondCycles := (extendedSubsecond (self.layout now extension) self.ram.length).getD 0}} := by
  have whole : loadRamInto fresh.ram ((self.layout now extension).take self.ram.length) = self.ram := by
    rw [layout,take_left' rfl,loadRamInto_whole memory.symm]
  have known : (self.layout now extension).length = self.ram.length + 44 ∨
      (self.layout now extension).length = self.ram.length + 48 ∨
        (extendedSubsecond (self.layout now extension) self.ram.length).isSome := by
    obtain rfl | some := accepted
    · exact .inr (.inl (self.length_layout now []))
    · exact .inr (.inr some)
  unfold loadSramAtTime
  rw [clock,if_neg (by decide)]
  dsimp only
  rw [memory,if_pos known,footerRegisters_internal now extension clean,footerRegisters_latched now extension clean,
    savedSeconds_layout,whole]

theorem loadSramAtTime_dump (saved : self.hasRtc = true) :
    fresh.loadSramAtTime (self.dumpSramWithRtcSubsecondAtTime now) later =
      {fresh with ram := self.ram, rtc := self.rtc.catchupSeconds (later.toNat - now.toNat)} := by
  have phase := self.extendedSubsecond_phase now clean.subsecondCycles
  have other := Rtc.catchupSeconds_phase clean.internal fresh.rtc.subsecondCycles (later.toNat - now.toNat)
  have own := Rtc.catchupSeconds_phase clean.internal self.rtc.subsecondCycles (later.toNat - now.toNat)
  rw [dumpSramWithRtcSubsecondAtTime_eq self now saved,
    loadSramAtTime_layout now _ clean clock memory later (.inr (by rw [phase]; rfl)),phase]
  exact congrArg (fun rtc => ({fresh with ram := self.ram, rtc} : Mbc3))
    ((congrArg (Rtc.withPhase self.rtc.subsecondCycles) other).trans own.symm)

end

/-- Catching up equals ticking, and the battery data keeps the memory and the running clock. -/
theorem battery_keeps_clock :
    (∀ (rtc : Rtc) (seconds : Nat), Rtc.Sanitized rtc.internal →
      (rtc.halted = false → rtc.catchupSeconds seconds = Rtc.tickOneSecond^[seconds] rtc) ∧
      (rtc.halted = true → rtc.catchupSeconds seconds = rtc) ∧
      (rtc.subsecondCycles < gbTCyclesPerSecond → rtc.catchupSeconds seconds =
        (fun rtc => rtc.advanceCycles (UInt64.ofNat gbTCyclesPerSecond))^[seconds] rtc)) ∧
    ∀ (self fresh : Mbc3) (t1 t2 : UInt64), Reached self → fresh.hasRtc = self.hasRtc →
      fresh.ram.length = self.ram.length →
      let loaded := fresh.loadSramAtTime (self.dumpSramWithRtcSubsecondAtTime t1) t2
      loaded.ram = self.ram ∧ (self.hasRtc = true →
        loaded.rtc.latched = self.rtc.latched ∧ loaded.rtc.subsecondCycles = self.rtc.subsecondCycles ∧
          loaded.rtc = (fun rtc => rtc.advanceCycles (UInt64.ofNat gbTCyclesPerSecond))^[t2.toNat - t1.toNat] self.rtc) := by
  constructor
  · intro rtc seconds clean
    exact ⟨fun running => Rtc.catchupSeconds_eq clean running seconds,fun halted => Rtc.catchupSeconds_halted halted seconds,
      fun phase => Rtc.catchupSeconds_advance clean phase seconds⟩
  · intro self fresh t1 t2 reached clock memory
    have clean := reached.sound
    intro loaded
    cases saved : self.hasRtc with
    | false =>
      refine ⟨?_,fun absent => absurd absent Bool.false_ne_true⟩
      have plain : self.dumpSramWithRtcSubsecondAtTime t1 = self.ram := by
        rw [dumpSramWithRtcSubsecondAtTime,dumpSramAtTime,saved]
        exact append_nil _
      have whole : loaded = {fresh with ram := loadRamInto fresh.ram self.ram} := by
        change fresh.loadSramAtTime (self.dumpSramWithRtcSubsecondAtTime t1) t2 = _
        rw [loadSramAtTime,clock,saved,plain]
        rfl
      rw [whole]
      exact loadRamInto_whole memory.symm
    | true =>
      have whole : loaded = _ := loadSramAtTime_dump t1 clean (clock.trans saved) memory t2 saved
      obtain ⟨latched,phase⟩ := Rtc.catchupSeconds_latched clean.internal (t2.toNat - t1.toNat)
      rw [whole]
      exact ⟨rfl,fun _ => ⟨latched,phase,Rtc.catchupSeconds_advance clean.internal clean.subsecondCycles _⟩⟩

theorem battery_keeps_clock_minute :
    let registers : RtcRegisters := ⟨[63,62,31,255,1],rfl⟩
    let odd : Rtc := ⟨registers,registers,0⟩
    let self := new [] 2 true
    odd.catchupSeconds 2 = odd.tickOneSecond.tickOneSecond ∧
      (self.loadSramAtTime (self.dumpSramWithRtcSubsecondAtTime 7) 67).rtc =
        (fun rtc => rtc.advanceCycles (UInt64.ofNat gbTCyclesPerSecond))^[60] self.rtc := by
  intro registers odd self
  have clean : ∀ index, sanitizeRtcRegister index (registers.get index) = registers.get index := by decide
  exact ⟨(battery_keeps_clock.1 odd 2 clean).1 (by decide),
    ((battery_keeps_clock.2 self self 7 67 (.new [] 2 true) rfl rfl).2 rfl).2.2⟩

end Mbc3
end ZeffBoy.GameBoy
