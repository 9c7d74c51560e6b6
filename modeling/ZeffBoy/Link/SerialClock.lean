import ZeffBoy.Link.SerialReplay

/-! The clock of the serial unit without a link peer.
One counter runs freely through the period that is selected. It keeps its phase as long as nothing selects a period
that the counter has already passed. -/
namespace ZeffBoy.Link.GameBoy
open ZeffBoy.Replay
namespace Serial

def setClockPhase (serial : Serial) (cycles : Nat) : Serial := {serial with cycles := cycles % serial.transferPeriod}

def resetCycles (serial : Serial) : Serial := {serial with cycles := 0}

/-- What calls of the unit and its own saved states lead to. -/
inductive Reached : Serial → Prop
  | new : Reached new
  | perform {serial : Serial} (operation : Operation) : Reached serial → Reached (serial.perform operation)
  | setClockPhase {serial : Serial} (cycles : Nat) : Reached serial → Reached (serial.setClockPhase cycles)
  | resetCycles {serial : Serial} : Reached serial → Reached serial.resetCycles
  | loaded {serial loaded : Serial} : Reached serial → readState serial.writeState = .ok (loaded,[]) → Reached loaded

/-- What the guest and time do to the unit. -/
inductive GuestOperation
  | writeSb (value : UInt8)
  | writeSc (value : UInt8)
  | setMode (mode : HardwareMode)
  | step (cycles : UInt64) (device : Device)

def GuestOperation.toOperation : GuestOperation → Operation
  | writeSb value => .writeSb value
  | writeSc value => .writeSc value
  | setMode mode => .setMode mode
  | step cycles device => .step cycles.toNat device

def GuestOperation.cycles : GuestOperation → Nat
  | step cycles _ => cycles.toNat
  | _ => 0

/-- A unit, with where the counter stood when the running transfer was started and the cycles since then. -/
structure Watched where
  serial : Serial
  running : Option (Nat × Nat)

def watch (serial : Serial) : Watched := ⟨serial,if serial.internalActive then some (serial.cycles,0) else none⟩

def track (running : Option (Nat × Nat)) (serial : Serial) (cycles : Nat) : Option (Nat × Nat) :=
  if serial.internalActive then
    some (match running with
      | some (counter,elapsed) => (counter,elapsed + cycles)
      | none => (serial.cycles,0))
  else none

def Watched.next (watched : Watched) (operation : GuestOperation) : Watched :=
  let serial := watched.serial.perform operation.toOperation
  ⟨serial,track watched.running serial operation.cycles⟩

/-- The counter is within the selected period afterwards. A running transfer completes in the step that crosses the
period, when what was left of the period at its start has elapsed. -/
structure PhaseKept (watched : Watched) (operation : GuestOperation) : Prop where
  within : (watched.next operation).serial.cycles < (watched.next operation).serial.transferPeriod
  completes : ∀ cycles device, operation = .step cycles device →
    ((watched.serial.step cycles.toNat device).1 = true ↔
      watched.serial.internalActive = true ∧ watched.serial.transferPeriod ≤ watched.serial.cycles + cycles.toNat)
  elapsed : ∀ cycles device counter elapsed, operation = .step cycles device →
    (watched.serial.step cycles.toNat device).1 = true → watched.running = some (counter,elapsed) →
    watched.serial.transferPeriod - counter % watched.serial.transferPeriod ≤ elapsed + cycles.toNat

/-- A write or a change of mode selects a period that the counter has not reached, and the cycles of a running transfer do not
overflow the counter. -/
def Undisturbed (serial : Serial) : GuestOperation → Prop
  | .writeSb _ => True
  | .writeSc value => serial.cycles < {serial with sc := value}.transferPeriod
  | .setMode mode => serial.cycles < {serial with mode := mode}.transferPeriod
  | .step cycles _ => serial.internalActive = true → serial.cycles + cycles.toNat < 2^64

instance (serial : Serial) : (operation : GuestOperation) → Decidable (Undisturbed serial operation)
  | .writeSb _ => isTrue trivial
  | .writeSc value => inferInstanceAs (Decidable (serial.cycles < {serial with sc := value}.transferPeriod))
  | .setMode mode => inferInstanceAs (Decidable (serial.cycles < {serial with mode := mode}.transferPeriod))
  | .step cycles _ => inferInstanceAs (Decidable (serial.internalActive = true → serial.cycles + cycles.toNat < 2^64))

def Along (holds : Watched → GuestOperation → Prop) : Watched → List GuestOperation → Prop
  | _,[] => True
  | watched,operation :: rest => holds watched operation ∧ Along holds (watched.next operation) rest

/-- Nothing of a link is left in the unit. -/
structure Unlinked (serial : Serial) : Prop where
  absent : serial.linkPeerPresent = false
  pending : serial.pendingLinkByte = none
  response : serial.pendingLinkResponse = none
  external : serial.pendingExternalCompletion = none

variable {serial : Serial} {watched : Watched} {operation : GuestOperation}

theorem step_unlinked (unlinked : Unlinked serial) (cycles : Nat) (device : Device) :
    serial.step cycles device =
      if serial.internalActive = true ∧ serial.transferPeriod ≤ (serial.cycles + cycles) % 2^64 then
        (true,{serial with
          cycles := (serial.cycles + cycles) % 2^64 % serial.transferPeriod
          outputLog := serial.outputLog ++ [serial.sb]
          sb := device.exchangeByte serial.sb
          sc := serial.sc &&& 0x7F}.bumpSerialGeneration)
      else (false,{serial with cycles := (serial.cycles + cycles) % 2^64 % serial.transferPeriod}) := by
  simp [step,unlinked.absent,unlinked.response,unlinked.external]

theorem stopped_inactive (serial : Serial) (stopped : ∃ value : UInt8, serial.sc = value &&& 0x7F) :
    serial.internalActive = false := by
  obtain ⟨value,same⟩ := stopped
  simp [internalActive,same,stopped_internal]

namespace Unlinked

theorem step (unlinked : Unlinked serial) (cycles : Nat) (device : Device) : Unlinked (serial.step cycles device).2 := by
  obtain ⟨absent,pending,response,external⟩ := unlinked
  rw [step_unlinked ⟨absent,pending,response,external⟩]
  split
  · exact ⟨absent,pending,response,external⟩
  · exact ⟨absent,pending,response,external⟩

theorem writeSc (unlinked : Unlinked serial) (value : UInt8) : Unlinked (serial.writeSc value) := by
  obtain ⟨absent,pending,response,external⟩ := unlinked
  unfold Serial.writeSc
  dsimp only
  split
  · exact ⟨absent,rfl,rfl,rfl⟩
  · rw [if_neg]
    · exact ⟨absent,pending,response,external⟩
    · simp [bumpSerialGeneration,absent]

theorem perform (unlinked : Unlinked serial) (operation : GuestOperation) :
    Unlinked (serial.perform operation.toOperation) := by
  cases operation with
  | writeSb value => exact ⟨unlinked.absent,unlinked.pending,unlinked.response,unlinked.external⟩
  | writeSc value => exact unlinked.writeSc value
  | setMode mode => exact ⟨unlinked.absent,unlinked.pending,unlinked.response,unlinked.external⟩
  | step cycles device => exact unlinked.step cycles.toNat device

end Unlinked

@[simp] theorem completeLinkTransfer_linkPeerPresent (serial : Serial) (response : UInt8) :
    (serial.completeLinkTransfer response).2.linkPeerPresent = serial.linkPeerPresent := by
  unfold completeLinkTransfer
  dsimp only
  split <;> rfl

theorem writeSc_linkPeerPresent (serial : Serial) (value : UInt8) :
    (serial.writeSc value).linkPeerPresent = serial.linkPeerPresent := by
  unfold writeSc
  dsimp only
  split
  · rfl
  · split <;> rfl

theorem step_linkPeerPresent (serial : Serial) (cycles : Nat) (device : Device) :
    (serial.step cycles device).2.linkPeerPresent = serial.linkPeerPresent := by
  unfold step
  dsimp only
  split
  · split
    · rw [completeLinkTransfer_linkPeerPresent]
    · split
      · split
        · rw [completeLinkTransfer_linkPeerPresent]
        · split <;> rfl
      · rfl
  · split
    · split
      · rw [completeLinkTransfer_linkPeerPresent]
      · split <;> rfl
    · rfl

theorem answer_linkPeerPresent (serial : Serial) (call : LinkCall) :
    (serial.answer call).linkPeerPresent = serial.linkPeerPresent := by
  cases call with
  | takeAction => rfl
  | applyReply reply =>
    rw [answer,applyLinkReply]
    split
    · rfl
    · split
      · rw [completeLinkTransfer_linkPeerPresent]
      · rfl
  | scheduleExternal peerByte period =>
    rw [answer,scheduleExternalFromMaster]
    split <;> rfl

theorem Reached.kept (reached : Reached serial) :
    Restorable serial ∧ (serial.linkPeerPresent = false → Unlinked serial) := by
  induction reached with
  | new => exact ⟨Restorable.initial,fun _ => ⟨rfl,rfl,rfl,rfl⟩⟩
  | @perform serial operation _ ih =>
    refine ⟨ih.1.perform operation,fun absent => ?_⟩
    cases operation with
    | writeSb value => exact (ih.2 absent).perform (.writeSb value)
    | writeSc value =>
      exact (ih.2 ((writeSc_linkPeerPresent serial value).symm.trans absent)).perform (.writeSc value)
    | setMode mode => exact (ih.2 absent).perform (.setMode mode)
    | step cycles device =>
      exact (ih.2 ((step_linkPeerPresent serial cycles device).symm.trans absent)).step cycles device
    | setLinkPeerPresent present =>
      cases present with
      | false => exact ⟨rfl,rfl,rfl,rfl⟩
      | true =>
        simp only [Serial.perform,Serial.setLinkPeerPresent] at absent
        split at absent
        · contradiction
        · split at absent <;> cases absent
    | link call =>
      by_cases present : serial.linkPeerPresent = true
      · simp only [Serial.perform,present,if_true,answer_linkPeerPresent] at absent
        cases absent
      · simp only [Serial.perform,present] at absent ⊢
        exact ih.2 absent
  | @setClockPhase serial cycles _ ih =>
    have bounds := serial.transferPeriod_bounds
    exact ⟨⟨(Nat.mod_lt _ bounds.1).trans_le bounds.2,ih.1.idle,ih.1.passive⟩,
      fun absent => have held := ih.2 absent; ⟨absent,held.pending,held.response,held.external⟩⟩
  | @resetCycles serial _ ih =>
    exact ⟨⟨Nat.zero_lt_of_lt ih.1.cycles,ih.1.idle,ih.1.passive⟩,
      fun absent => have held := ih.2 absent; ⟨absent,held.pending,held.response,held.external⟩⟩
  | @loaded serial loaded _ read ih =>
    have restored := ih.1.run_readState []
    rw [List.append_nil,read] at restored
    cases restored
    exact ⟨Restorable.of_dropped ih.1.cycles rfl rfl rfl rfl,fun _ => ⟨rfl,rfl,rfl,rfl⟩⟩

/-- The counter is within the period, and a running transfer has seen all its cycles. -/
structure Phased (watched : Watched) : Prop where
  unlinked : Unlinked watched.serial
  within : watched.serial.cycles < watched.serial.transferPeriod
  elapsed : ∀ counter elapsed, watched.running = some (counter,elapsed) → watched.serial.cycles = counter + elapsed

theorem Phased.start (unlinked : Unlinked serial) (within : serial.cycles < serial.transferPeriod) :
    Phased (watch serial) := by
  refine ⟨unlinked,within,?_⟩
  intro counter elapsed running
  unfold watch at running
  split at running
  · cases running
    rfl
  · cases running

theorem track_cases {running : Option (Nat × Nat)} {cycles counter elapsed : Nat}
    (tracked : track running serial cycles = some (counter,elapsed)) :
    serial.internalActive = true ∧
      (counter = serial.cycles ∧ elapsed = 0 ∨ ∃ before, running = some (counter,before) ∧ elapsed = before + cycles) := by
  unfold track at tracked
  split at tracked
  · rename_i active
    refine ⟨active,?_⟩
    cases running with
    | none =>
      cases tracked
      exact .inl ⟨rfl,rfl⟩
    | some mark =>
      cases tracked
      exact .inr ⟨mark.2,rfl,rfl⟩
  · cases tracked

theorem Phased.changed (phased : Phased watched) (instant : operation.cycles = 0)
    (still : (watched.serial.perform operation.toOperation).cycles = watched.serial.cycles)
    (within : (watched.serial.perform operation.toOperation).cycles <
      (watched.serial.perform operation.toOperation).transferPeriod) : Phased (watched.next operation) := by
  refine ⟨phased.unlinked.perform operation,within,?_⟩
  intro counter elapsed running
  obtain ⟨_,⟨rfl,rfl⟩ | ⟨before,started,rfl⟩⟩ := track_cases running
  · rfl
  · rw [instant]
    exact still.trans (phased.elapsed counter before started)

theorem writeSc_clock (serial : Serial) (value : UInt8) :
    (serial.writeSc value).cycles = serial.cycles ∧
      (serial.writeSc value).transferPeriod = {serial with sc := value}.transferPeriod := by
  unfold writeSc
  dsimp only
  split
  · exact ⟨rfl,rfl⟩
  · split <;> exact ⟨rfl,rfl⟩

theorem transferPeriod_congr {serial other : Serial} (mode : other.mode = serial.mode)
    (fast : other.sc &&& 0x02 = serial.sc &&& 0x02) : other.transferPeriod = serial.transferPeriod := by
  simp only [transferPeriod,mode,fast]

theorem stopped_fast (value : UInt8) : value &&& 0x7F &&& 0x02 = value &&& 0x02 := by
  rw [UInt8.and_assoc]
  rfl

theorem Phased.stepped (phased : Phased watched) (cycles : UInt64) (device : Device)
    (fits : watched.serial.internalActive = true → watched.serial.cycles + cycles.toNat < 2^64) :
    Phased (watched.next (.step cycles device)) := by
  have positive := watched.serial.transferPeriod_bounds.1
  have stepped := step_unlinked phased.unlinked cycles.toNat device
  by_cases crossing : watched.serial.internalActive = true ∧
      watched.serial.transferPeriod ≤ (watched.serial.cycles + cycles.toNat) % 2^64
  · rw [if_pos crossing] at stepped
    refine ⟨phased.unlinked.step cycles.toNat device,?_,?_⟩
    · change (watched.serial.step cycles.toNat device).2.cycles < (watched.serial.step cycles.toNat device).2.transferPeriod
      rw [stepped]
      apply (Nat.mod_lt _ positive).trans_eq
      refine (transferPeriod_congr ?_ ?_).symm
      · rfl
      · exact stopped_fast _
    · intro counter elapsed running
      have active := (track_cases running).1
      change (watched.serial.step cycles.toNat device).2.internalActive = true at active
      rw [stepped,stopped_inactive _ ⟨_,rfl⟩] at active
      cases active
  · rw [if_neg crossing] at stepped
    refine ⟨phased.unlinked.step cycles.toNat device,?_,?_⟩
    · change (watched.serial.step cycles.toNat device).2.cycles < (watched.serial.step cycles.toNat device).2.transferPeriod
      rw [stepped]
      exact Nat.mod_lt _ positive
    · intro counter elapsed running
      change (watched.serial.step cycles.toNat device).2.cycles = counter + elapsed
      obtain ⟨active,⟨rfl,rfl⟩ | ⟨before,started,rfl⟩⟩ := track_cases running
      · rfl
      · change (watched.serial.step cycles.toNat device).2.internalActive = true at active
        rw [stepped] at active ⊢
        have whole := Nat.mod_eq_of_lt (fits active)
        have early : watched.serial.cycles + cycles.toNat < watched.serial.transferPeriod := by
          by_contra late
          exact crossing ⟨active,by omega⟩
        have counted := phased.elapsed counter before started
        dsimp only [GuestOperation.cycles]
        rw [whole,Nat.mod_eq_of_lt early]
        omega

theorem Phased.kept (phased : Phased watched)
    (undisturbed : Undisturbed watched.serial operation) : PhaseKept watched operation ∧ Phased (watched.next operation) := by
  cases operation with
  | writeSb value =>
    have next := phased.changed (show GuestOperation.cycles (.writeSb value) = 0 from rfl) rfl phased.within
    exact ⟨⟨next.within,nofun,nofun⟩,next⟩
  | writeSc value =>
    obtain ⟨still,selected⟩ := writeSc_clock watched.serial value
    have next := phased.changed (show GuestOperation.cycles (.writeSc value) = 0 from rfl) still (by
      change (watched.serial.writeSc value).cycles < (watched.serial.writeSc value).transferPeriod
      rw [still,selected]
      exact undisturbed)
    exact ⟨⟨next.within,nofun,nofun⟩,next⟩
  | setMode mode =>
    have next := phased.changed (show GuestOperation.cycles (.setMode mode) = 0 from rfl) rfl undisturbed
    exact ⟨⟨next.within,nofun,nofun⟩,next⟩
  | step cycles device =>
    have next := phased.stepped cycles device undisturbed
    have whole : watched.serial.internalActive = true →
        (watched.serial.cycles + cycles.toNat) % 2^64 = watched.serial.cycles + cycles.toNat :=
      fun active => Nat.mod_eq_of_lt (undisturbed active)
    refine ⟨⟨next.within,?_,?_⟩,next⟩
    · intro _ _ same
      cases same
      rw [step_unlinked phased.unlinked]
      split
      · rename_i crossing
        rw [whole crossing.1] at crossing
        exact iff_of_true rfl crossing
      · rename_i early
        refine iff_of_false Bool.false_ne_true ?_
        intro ⟨active,crossing⟩
        exact early ⟨active,by rwa [whole active]⟩
    · intro _ _ counter elapsed same completed running
      cases same
      rw [step_unlinked phased.unlinked] at completed
      have counted := phased.elapsed counter elapsed running
      have within := phased.within
      split at completed
      · rename_i crossing
        rw [whole crossing.1] at crossing
        rw [Nat.mod_eq_of_lt (show counter < watched.serial.transferPeriod by omega)]
        omega
      · cases completed

-- Where the sum overflows, what is left of it is less than the counter was.
theorem Phased.undisturbed (phased : Phased watched)
    (kept : PhaseKept watched operation) : Undisturbed watched.serial operation := by
  have within := kept.within
  cases operation with
  | writeSb value => trivial
  | writeSc value =>
    obtain ⟨still,selected⟩ := writeSc_clock watched.serial value
    change (watched.serial.writeSc value).cycles < (watched.serial.writeSc value).transferPeriod at within
    rwa [still,selected] at within
  | setMode mode => exact within
  | step cycles device =>
    intro active
    by_contra overflow
    have before := phased.within
    have bounds := watched.serial.transferPeriod_bounds
    have word := cycles.toNat_lt
    have completed := (kept.completes cycles device rfl).mpr ⟨active,by omega⟩
    rw [step_unlinked phased.unlinked,if_neg] at completed
    · cases completed
    · rintro ⟨_,crossing⟩
      omega

theorem Phased.along (phased : Phased watched) (operations : List GuestOperation) :
    Along PhaseKept watched operations ↔ Along (fun watched => Undisturbed watched.serial) watched operations := by
  induction operations generalizing watched with
  | nil => exact Iff.rfl
  | cons operation rest ih =>
    constructor
    · intro ⟨here,later⟩
      have undisturbed := phased.undisturbed here
      exact ⟨undisturbed,(ih (phased.kept undisturbed).2).mp later⟩
    · intro ⟨undisturbed,later⟩
      obtain ⟨here,next⟩ := phased.kept undisturbed
      exact ⟨here,(ih next).mpr later⟩

theorem clock_keeps_phase_iff {serial : Serial} (reached : Reached serial) (absent : serial.linkPeerPresent = false)
    (operations : List GuestOperation) :
    serial.cycles < serial.transferPeriod ∧ Along PhaseKept (watch serial) operations ↔
      serial.cycles < serial.transferPeriod ∧ Along (fun watched => Undisturbed watched.serial) (watch serial) operations :=
  and_congr_right fun within => (Phased.start (reached.kept.2 absent) within).along operations

def disconnected : Device := ⟨fun _ => 0xFF,none⟩

/-- A unit of a Game Boy Color whose counter stands in the middle of the normal period. -/
def midPeriod : Serial := (new.perform (.setMode .cgbNormal)).perform (.step 3000 disconnected)

theorem midPeriod_reached : Reached midPeriod := .perform _ (.perform _ .new)

theorem clock_keeps_phase_iff_midPeriod :
    Along PhaseKept (watch midPeriod) [.writeSc 0x81,.step 1000 disconnected,.step 96 disconnected] :=
  ((clock_keeps_phase_iff midPeriod_reached rfl [.writeSc 0x81,.step 1000 disconnected,.step 96 disconnected]).mpr
    ⟨by decide,by decide,by decide,by decide,trivial⟩).2

/-- Started on the fast clock in the middle of the normal period, a transfer completes with the next cycle. -/
theorem fast_clock_starts_late :
    ¬(∀ serial : Serial, Reached serial → serial.linkPeerPresent = false → ∀ operations,
      serial.cycles < serial.transferPeriod ∧ Along PhaseKept (watch serial) operations) ∧
    (midPeriod.writeSc 0x83).transferPeriod = 128 ∧ (midPeriod.writeSc 0x83).cycles = 3000 ∧
    ((midPeriod.writeSc 0x83).step 1 disconnected).1 = true := by
  refine ⟨?_,by decide,by decide,by decide⟩
  intro kept
  have elapsed := (kept midPeriod midPeriod_reached rfl [.writeSc 0x83,.step 1 disconnected]).2.2.1.elapsed
    1 disconnected 3000 0 rfl (by decide) (by decide)
  revert elapsed
  decide

end Serial
end ZeffBoy.Link.GameBoy
