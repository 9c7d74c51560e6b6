import ZeffBoy.Nes.EepromParts

/-! Runs of transactions on the serial memory, each complete or cut off by a stop anywhere. -/
namespace ZeffBoy.Nes
open EepromState EepromReadPhase List

section Transactions

def controlByte (chip : Fin 8) (read : Bool) : UInt8 := 0xA0 ||| UInt8.ofNat (2 * chip.val) ||| read.toUInt8

inductive Transaction
  | write (chip : Fin 8) (address : UInt8) (bytes : List UInt8)
  | read (chip again : Fin 8) (address : UInt8) (count : Nat)

def sendLevels (value : UInt8) : List Level := byteLevels value ++ ackLevels

def addressLevels (chip : Fin 8) (address : UInt8) : List Level :=
  startLevels ++ (sendLevels (controlByte chip false) ++ sendLevels address)

def Transaction.levels : Transaction → List Level
  | write chip address bytes => addressLevels chip address ++ bytes.flatMap sendLevels
  | read chip again address count => addressLevels chip address ++ (startLevels ++ (sendLevels (controlByte again true) ++ Eeprom.readAll count))

/-- What the program is to see: every byte it sends is acknowledged, and what it reads is what is stored. -/
def Transaction.answers (memory : UInt8 → UInt8) : Transaction → List Bool
  | write _ _ bytes => [false,false] ++ bytes.map fun _ => false
  | read _ _ address count => [false,false,false] ++ Eeprom.sentBits count address memory

def storeAll : UInt8 → List UInt8 → (UInt8 → UInt8) → UInt8 → UInt8
  | _,[],memory => memory
  | pointer,byte::bytes,memory => storeAll (pointer + 1) bytes (Function.update memory pointer byte)

def completedBytes : Nat → List UInt8 → List UInt8
  | _,[] => []
  | left,byte::bytes => if 16 ≤ left then byte::completedBytes (left - 19) bytes else []

/-- A byte of which just seven bits come within so many levels, and where it would go. -/
def tornAt : UInt8 → Nat → List UInt8 → Option (UInt8 × UInt8)
  | _,_,[] => none
  | pointer,left,byte::bytes =>
    if left < 14 then none
    else if left < 16 then some (pointer,byte)
    else tornAt (pointer + 1) (left - 19) bytes

/-- A transaction that may be cut off. Where that leaves the clock high and the data line low, the program may stop at once. -/
structure Attempt where
  transaction : Transaction
  cut : Nat
  held : Bool

def stopped (torn : Option (UInt8 × UInt8)) (memory : UInt8 → UInt8) : UInt8 → UInt8 :=
  match torn with
  | none => memory
  | some (place,byte) => Function.update memory place (byte &&& 0xFE)

namespace Attempt

def sent (attempt : Attempt) : List Level := attempt.transaction.levels.take attempt.cut

def low (level : Level) : Bool := level.scl && !level.sda

def direct (attempt : Attempt) : Bool := attempt.held && attempt.sent.getLast?.any low

def stop (attempt : Attempt) : List Level := if attempt.direct then [⟨true,true,false⟩] else stopLevels

def levels (attempt : Attempt) : List Level := attempt.sent ++ attempt.stop

def effect (memory : UInt8 → UInt8) (attempt : Attempt) : UInt8 → UInt8 :=
  match attempt.transaction with
  | .write _ address bytes => storeAll address (completedBytes (attempt.cut - 41) bytes) memory
  | .read _ _ _ _ => memory

def pending (attempt : Attempt) : Option (UInt8 × UInt8) :=
  match attempt.transaction with
  | .write _ address bytes => tornAt address (attempt.cut - 41) bytes
  | .read _ _ _ _ => none

/-- A byte that is broken off after its seventh bit, by a stop for which the clock rises. -/
def torn (attempt : Attempt) : Option (UInt8 × UInt8) := if attempt.direct then none else attempt.pending

def during (memory : UInt8 → UInt8) (count : Nat) (attempt : Attempt) : UInt8 → UInt8 :=
  if count < attempt.sent.length then {attempt with cut := count}.effect memory else attempt.effect memory

def answers (memory : UInt8 → UInt8) (attempt : Attempt) : List Bool :=
  (attempt.transaction.answers memory).take (attempt.sent.countP Level.sampled)

def outcome (memory : UInt8 → UInt8) (attempt : Attempt) : UInt8 → UInt8 := stopped attempt.torn (attempt.effect memory)

end Attempt

def runLevels (attempts : List Attempt) : List Level := attempts.flatMap Attempt.levels

/-- The contents after some of the levels of a run. -/
def contents : List Attempt → Nat → (UInt8 → UInt8) → UInt8 → UInt8
  | [],_,memory => memory
  | attempt::attempts,count,memory =>
    if count ≤ attempt.levels.length then attempt.during memory count
    else contents attempts (count - attempt.levels.length) (attempt.effect memory)

def answers : List Attempt → (UInt8 → UInt8) → List Bool
  | [],_ => []
  | attempt::attempts,memory => attempt.answers memory ++ answers attempts (attempt.effect memory)

/-- No byte is broken off after its seventh bit, unless it is stored with these bits and a zero already. -/
def Intact : List Attempt → (UInt8 → UInt8) → Prop
  | [],_ => True
  | attempt::attempts,memory =>
    (∀ place byte, attempt.torn = some (place,byte) → attempt.effect memory place = byte &&& 0xFE) ∧ Intact attempts (attempt.effect memory)

/-- At any moment of the run the memory holds the bytes that are complete, and has shown what it was to show. -/
def Faithful (attempts : List Attempt) (memory : UInt8 → UInt8) : Prop := ∀ count writes,
  Follows writes ((runLevels attempts).take count) →
    let shown := Eeprom.drive writes {Eeprom.new with data := memory}
    shown.2.data = contents attempts count memory ∧
      shown.1 = (answers attempts memory).take (((runLevels attempts).take count).countP Level.sampled)

end Transactions

namespace Eeprom

section Lines
variable {eeprom : Eeprom} {memory : UInt8 → UInt8} {pointer : UInt8} {latched : Bool} {levels : List Level}

theorem controlByte_device (chip : Fin 8) (read : Bool) : controlByte chip read &&& 0xF0 = 0xA0 := by
  have all : ∀ chip : Fin 8, ∀ read : Bool, controlByte chip read &&& 0xF0 = 0xA0 := by decide
  exact all chip read

theorem controlByte_write (chip : Fin 8) : controlByte chip false &&& 0x01 = 0 := by
  have all : ∀ chip : Fin 8, controlByte chip false &&& 0x01 = 0 := by decide
  exact all chip

theorem controlByte_read (chip : Fin 8) : controlByte chip true &&& 0x01 ≠ 0 := by
  have all : ∀ chip : Fin 8, controlByte chip true &&& 0x01 ≠ 0 := by decide
  exact all chip

theorem length_outputs (levels : List Level) (eeprom : Eeprom) : (outputs levels eeprom).length = levels.countP Level.sampled := by
  induction levels generalizing eeprom with
  | nil => rfl
  | cons level levels ih =>
    rw [outputs]
    cases look : level.sampled with
    | false =>
      rw [countP_cons_of_neg (Bool.not_eq_true _ ▸ look)]
      exact ih _
    | true =>
      rw [countP_cons_of_pos look,if_pos rfl,length_cons,ih]

theorem outputs_take (count : Nat) (levels : List Level) (eeprom : Eeprom) :
    outputs (levels.take count) eeprom = (outputs levels eeprom).take ((levels.take count).countP Level.sampled) := by
  have whole := outputs_append (levels.take count) (levels.drop count) eeprom
  rw [take_append_drop] at whole
  rw [whole,← length_outputs,take_left]

theorem after_lines (level : Level) (last : levels.getLast? = some level) (eeprom : Eeprom) :
    (after levels eeprom).scl = level.scl ∧ (after levels eeprom).sdaIn = level.sda := by
  obtain ⟨before,rfl⟩ := List.getLast?_eq_some_iff.mp last
  rw [after_append]
  exact ⟨rfl,rfl⟩

theorem exists_follows (levels : List Level) : ∃ writes, Follows writes levels := by
  induction levels with
  | nil => exact ⟨[],.nil⟩
  | cons level levels ih =>
    obtain ⟨writes,follows⟩ := ih
    let val : UInt8 := 0x80 ||| (if level.scl then 0x20 else 0) ||| (if level.sda then 0x40 else 0)
    have puts : Puts ⟨val,level.sampled⟩ level := by
      have all : ∀ scl sda : Bool, let val : UInt8 := 0x80 ||| (if scl then 0x20 else 0) ||| (if sda then 0x40 else 0)
          (val &&& 0x20 ≠ 0 ↔ scl = true) ∧ (val &&& 0x40 ≠ 0 ↔ sda = true) ∧ val &&& 0x80 ≠ 0 := by decide
      obtain ⟨scl,sda,enabled⟩ := all level.scl level.sda
      exact ⟨scl,fun _ => sda,fun _ => enabled⟩
    exact ⟨_,.write puts rfl follows⟩

end Lines

section Parts
variable {eeprom : Eeprom} {memory : UInt8 → UInt8} {pointer : UInt8} {latched : Bool} {stage : EepromState}

theorem Ready.sent {next : EepromState} {place : UInt8} {mark : Bool} (ready : Ready stage memory pointer latched eeprom)
    (receives : Receives stage) (apart : stage ≠ receiveWriteData) {value : UInt8}
    (acking : Acking next memory place mark (after (byteLevels value) eeprom)) (goes : Receives next ∨ next = sendReadData) :
    Ready next memory place mark (after (sendLevels value) eeprom) ∧ outputs (sendLevels value) eeprom = [false] ∧
      Always (Safe memory) (sendLevels value) eeprom := by
  obtain ⟨done,shown,cut⟩ := acking.acknowledged goes
  rw [sendLevels,outputs_append,after_append]
  exact ⟨done,shown,(ready.always receives apart value acking.safe).append cut⟩

theorem Idle.addressed (idle : Idle memory eeprom) (chip : Fin 8) (address : UInt8) :
    Ready receiveWriteData memory address true (after (addressLevels chip address) eeprom) ∧
      outputs (addressLevels chip address) eeprom = [false,false] ∧ Always (Safe memory) (addressLevels chip address) eeprom := by
  obtain ⟨started,quiet,first⟩ := idle.begins
  obtain ⟨named,one,second⟩ := started.sent (.inl rfl) (by decide)
    (started.controlWrite (controlByte_device chip false) (controlByte_write chip)) (.inl (.inr (.inl rfl)))
  obtain ⟨placed,two,third⟩ := named.sent (.inr (.inl rfl)) (by decide) (named.address address) (.inl (.inr (.inr rfl)))
  rw [addressLevels,outputs_append,outputs_append,after_append,after_append,quiet,one,two]
  exact ⟨placed,rfl,first.append (second.append third)⟩

def Broken (torn : Option (UInt8 × UInt8)) (memory : UInt8 → UInt8) (eeprom : Eeprom) : Prop :=
  match torn with
  | none => Safe memory eeprom
  | some (place,byte) => Partway receiveWriteData memory place true ((bitsOf byte).take 7) eeprom

theorem Broken.data {torn : Option (UInt8 × UInt8)} (broken : Broken torn memory eeprom) : eeprom.data = memory :=
  match torn,broken with
  | none,broken => Safe.data broken
  | some (_,_),broken => Partway.data broken

theorem completedBytes_zero (bytes : List UInt8) : completedBytes 0 bytes = [] := by
  cases bytes <;> rfl

theorem tornAt_zero (pointer : UInt8) (bytes : List UInt8) : tornAt pointer 0 bytes = none := by
  cases bytes <;> rfl

theorem Ready.left (bytes : List UInt8) (left : Nat) {eeprom : Eeprom} (ready : Ready receiveWriteData memory pointer true eeprom) :
    Broken (tornAt pointer left bytes) (storeAll pointer (completedBytes left bytes) memory)
      (after ((bytes.flatMap sendLevels).take left) eeprom) := by
  induction bytes generalizing pointer memory left eeprom with
  | nil =>
    rw [flatMap_nil,take_nil]
    exact ready.safe
  | cons byte bytes ih =>
    have acking := ready.data' byte
    obtain ⟨done,_,cut⟩ := acking.acknowledged (.inl (.inr (.inr rfl)))
    rw [flatMap_cons,sendLevels,append_assoc,take_append,after_append,length_byteLevels]
    obtain short | long := lt_or_ge left 16
    · have part := @Partway.part eeprom receiveWriteData memory pointer true [] (.inr (.inr rfl)) ready.partway (bitsOf byte) left
        (by rw [length_nil]; omega) short.le
      rw [completedBytes,if_neg (Nat.not_le_of_lt short),Nat.sub_eq_zero_of_le short.le,take_zero,tornAt]
      obtain few | seven := lt_or_ge left 14
      · rw [if_pos few]
        refine part.safe fun _ => ?_
        rw [nil_append,length_take]
        omega
      · rw [if_neg (Nat.not_lt_of_le seven),if_pos short]
        rw [show left / 2 = 7 by omega] at part
        exact part
    · have further : ¬left < 14 := by omega
      have whole : (byteLevels byte).take left = byteLevels byte := take_of_length_le long
      rw [completedBytes,if_pos long,tornAt,if_neg further,if_neg (Nat.not_lt_of_le long),whole,take_append,after_append]
      have rest := ih (left - 19) done
      rw [show left - 19 = left - 16 - 3 by omega] at rest ⊢
      obtain inside | past := lt_or_ge (left - 16) 3
      · rw [Nat.sub_eq_zero_of_le inside.le] at rest ⊢
        rw [completedBytes_zero,tornAt_zero,show (ackLevels).length = 3 from rfl,Nat.sub_eq_zero_of_le inside.le,take_zero]
        exact cut (left - 16)
      · have all : ackLevels.take (left - 16) = ackLevels := take_of_length_le past
        rw [all]
        exact rest

theorem Ready.answered (bytes : List UInt8) {eeprom : Eeprom} (ready : Ready receiveWriteData memory pointer true eeprom) :
    outputs (bytes.flatMap sendLevels) eeprom = bytes.map fun _ => false := by
  induction bytes generalizing pointer memory eeprom with
  | nil => rfl
  | cons byte bytes ih =>
    obtain ⟨done,shown,_⟩ := (ready.data' byte).acknowledged (.inl (.inr (.inr rfl)))
    rw [flatMap_cons,sendLevels,outputs_append,outputs_append,after_append,outputs_byteLevels,shown,ih done]
    rfl

theorem Ready.readBack (ready : Ready receiveWriteData memory pointer true eeprom) (again : Fin 8) (count : Nat) :
    let levels := startLevels ++ (sendLevels (controlByte again true) ++ readAll count)
    outputs levels eeprom = false::sentBits count pointer memory ∧ Always (Safe memory) levels eeprom := by
  obtain ⟨started,quiet,first⟩ := ready.restarts
  obtain ⟨named,one,second⟩ := started.sent (.inl rfl) (by decide)
    (started.controlRead (controlByte_device again true) (controlByte_read again)) (.inr rfl)
  have bits := named.reads count
  have third := Quiet.reads count (⟨named.data,.inl named.state⟩ : Quiet memory _)
  dsimp only
  rw [outputs_append,outputs_append,quiet,one,bits]
  exact ⟨rfl,first.append (second.append fun cut => (third cut).safe)⟩

end Parts

section Attempts
variable {eeprom : Eeprom} {memory : UInt8 → UInt8}

theorem Idle.answered (idle : Idle memory eeprom) (transaction : Transaction) :
    outputs transaction.levels eeprom = transaction.answers memory := by
  cases transaction with
  | write chip address bytes =>
    obtain ⟨placed,shown,_⟩ := idle.addressed chip address
    rw [Transaction.levels,outputs_append,shown,placed.answered]
    rfl
  | read chip again address count =>
    obtain ⟨placed,shown,_⟩ := idle.addressed chip address
    rw [Transaction.levels,outputs_append,shown,(placed.readBack again count).1]
    rfl

theorem Idle.cut (idle : Idle memory eeprom) (attempt : Attempt) :
    Broken attempt.pending (attempt.effect memory) (after attempt.sent eeprom) := by
  obtain ⟨transaction,count,held⟩ := attempt
  cases transaction with
  | write chip address bytes =>
    obtain ⟨placed,_,first⟩ := idle.addressed chip address
    show Broken (tornAt address (count - 41) bytes) (storeAll address (completedBytes (count - 41) bytes) memory)
      (after ((addressLevels chip address ++ bytes.flatMap sendLevels).take count) eeprom)
    rw [take_append,after_append,show (addressLevels chip address).length = 41 from rfl]
    obtain inside | past := lt_or_ge count 41
    · rw [Nat.sub_eq_zero_of_le inside.le,tornAt_zero,completedBytes_zero,take_zero]
      exact first count
    · have all : (addressLevels chip address).take count = addressLevels chip address := take_of_length_le past
      rw [all]
      exact placed.left bytes (count - 41)
  | read chip again address bytes =>
    obtain ⟨placed,_,first⟩ := idle.addressed chip address
    exact (first.append (placed.readBack again bytes).2) count

theorem Broken.raised {torn : Option (UInt8 × UInt8)} (broken : Broken torn memory eeprom) : eeprom.raised.data = stopped torn memory := by
  match torn,broken with
  | none,safe => exact Safe.raised safe
  | some (place,byte),partway =>
    obtain ⟨state,data,point,_,shift,bits,ack⟩ : Partway _ _ _ _ _ _ := partway
    have seven : eeprom.bits = 7 := UInt8.toNat_inj.mp bits
    rw [raised_eighth state ack seven,data,point,shift,shifted_seven]
    rfl

theorem direct_idle {attempt : Attempt} (direct : attempt.direct = true) :
    Idle (after attempt.sent eeprom).data (after [⟨true,true,false⟩] (after attempt.sent eeprom)) := by
  rw [Attempt.direct,Bool.and_eq_true] at direct
  obtain ⟨level,last,low⟩ := (Option.any_eq_true _ _).mp direct.2
  rw [Attempt.low,Bool.and_eq_true,Bool.not_eq_true'] at low
  obtain ⟨scl,sda⟩ := after_lines level last eeprom
  exact stops (scl.trans low.1) (sda.trans low.2)

theorem Idle.attempt (idle : Idle memory eeprom) (attempt : Attempt) :
    Idle (attempt.outcome memory) (after attempt.levels eeprom) := by
  have broken := idle.cut attempt
  rw [Attempt.levels,after_append,Attempt.stop]
  cases direct : attempt.direct with
  | true =>
    have idle' := @direct_idle eeprom attempt direct
    rw [broken.data] at idle'
    rw [Attempt.outcome,Attempt.torn,if_pos direct]
    exact idle'
  | false =>
    have idle' := stop_idle (after attempt.sent eeprom)
    rw [broken.raised] at idle'
    rw [Attempt.outcome,Attempt.torn,if_neg (Bool.not_eq_true _ ▸ direct)]
    exact idle'

theorem Idle.during (idle : Idle memory eeprom) (attempt : Attempt) (intact : attempt.outcome memory = attempt.effect memory)
    (count : Nat) :
    (after (attempt.levels.take count) eeprom).data = attempt.during memory count := by
  have part (cut : Nat) : (after (attempt.transaction.levels.take cut) eeprom).data = {attempt with cut := cut}.effect memory :=
    (idle.cut {attempt with cut := cut}).data
  rw [Attempt.levels,take_append,after_append,Attempt.during]
  by_cases early : count < attempt.sent.length
  · have short : count ≤ attempt.cut := early.le.trans (length_take_le _ _)
    rw [Nat.sub_eq_zero_of_le early.le,take_zero,if_pos early,Attempt.sent,take_take,min_eq_left short]
    exact part count
  · have whole : attempt.sent.take count = attempt.sent := take_of_length_le (not_lt.mp early)
    have sent : (after attempt.sent eeprom).data = attempt.effect memory := (idle.cut attempt).data
    rw [whole,if_neg early]
    cases direct : attempt.direct with
    | true =>
      have last := (@direct_idle eeprom attempt direct).data
      rw [Attempt.stop,if_pos direct]
      match count - attempt.sent.length with
      | 0 => exact sent
      | left + 1 =>
        rw [take_succ_cons,take_nil]
        exact last.trans sent
    | false =>
      have same : attempt.outcome memory = stopped attempt.pending (attempt.effect memory) := by
        rw [Attempt.outcome,Attempt.torn,if_neg (Bool.not_eq_true _ ▸ direct)]
      rw [Attempt.stop,if_neg (Bool.not_eq_true _ ▸ direct),stop_contents,(idle.cut attempt).raised,← same,intact,sent,ite_self]

end Attempts

section Runs
variable {eeprom : Eeprom} {memory : UInt8 → UInt8}

theorem length_levels_pos (transaction : Transaction) : 0 < transaction.levels.length := by
  cases transaction <;> exact Nat.succ_pos _

theorem contents_zero (attempts : List Attempt) (memory : UInt8 → UInt8) : contents attempts 0 memory = memory := by
  cases attempts with
  | nil => rfl
  | cons attempt attempts =>
    have start : {attempt with cut := 0}.effect memory = memory := by
      obtain ⟨transaction,cut,held⟩ := attempt
      cases transaction with
      | write chip address bytes =>
        show storeAll address (completedBytes 0 bytes) memory = memory
        rw [completedBytes_zero]
        rfl
      | read _ _ _ _ => rfl
    rw [contents,if_pos zero_le,Attempt.during]
    split
    · exact start
    · rename_i none
      have length := length_take (i := attempt.cut) (l := attempt.transaction.levels)
      have cut : attempt.cut = 0 := by
        have pos := length_levels_pos attempt.transaction
        rw [Attempt.sent] at none
        omega
      rw [← cut] at start
      exact start

theorem outcome_eq (attempt : Attempt) (memory : UInt8 → UInt8) : attempt.outcome memory = attempt.effect memory ↔
    ∀ place byte, attempt.torn = some (place,byte) → attempt.effect memory place = byte &&& 0xFE := by
  rw [Attempt.outcome]
  cases torn : attempt.torn with
  | none => exact ⟨fun _ _ _ same => absurd same.symm (Option.some_ne_none _),fun _ => rfl⟩
  | some broken =>
    obtain ⟨place,byte⟩ := broken
    constructor
    · intro same place' byte' named
      cases named
      rw [← same]
      exact Function.update_self _ _ _
    · intro held
      exact (congrArg (Function.update _ place) (held place byte rfl).symm).trans (Function.update_eq_self _ _)

theorem Idle.run (attempts : List Attempt) {memory : UInt8 → UInt8} {eeprom : Eeprom} (idle : Idle memory eeprom)
    (intact : Intact attempts memory) : (∀ count, (after ((runLevels attempts).take count) eeprom).data = contents attempts count memory) ∧
      outputs (runLevels attempts) eeprom = answers attempts memory := by
  induction attempts generalizing memory eeprom with
  | nil =>
    refine ⟨fun count => ?_,rfl⟩
    rw [runLevels,flatMap_nil,take_nil]
    exact idle.data
  | cons attempt attempts ih =>
    obtain ⟨first,rest⟩ := intact
    have same := (outcome_eq attempt memory).mpr first
    have next := idle.attempt attempt
    rw [same] at next
    obtain ⟨later,shown⟩ := ih next rest
    have split : runLevels (attempt::attempts) = attempt.levels ++ runLevels attempts := flatMap_cons
    rw [split]
    constructor
    · intro count
      rw [take_append,after_append,contents]
      by_cases inside : count ≤ attempt.levels.length
      · rw [if_pos inside,Nat.sub_eq_zero_of_le inside,take_zero]
        exact idle.during attempt same count
      · have whole : attempt.levels.take count = attempt.levels := take_of_length_le (Nat.le_of_not_le inside)
        rw [if_neg inside,whole]
        exact later _
    · have stop : outputs attempt.stop (after attempt.sent eeprom) = [] := by
        unfold Attempt.stop
        split <;> rfl
      rw [outputs_append,shown,Attempt.levels,outputs_append,stop,append_nil,Attempt.sent,outputs_take,idle.answered]
      rfl

theorem Idle.intact (attempts : List Attempt) {memory : UInt8 → UInt8} {eeprom : Eeprom} (idle : Idle memory eeprom)
    (faithful : ∀ count, (after ((runLevels attempts).take count) eeprom).data = contents attempts count memory) :
    Intact attempts memory := by
  induction attempts generalizing memory eeprom with
  | nil => trivial
  | cons attempt attempts ih =>
    have split : runLevels (attempt::attempts) = attempt.levels ++ runLevels attempts := flatMap_cons
    have next := idle.attempt attempt
    have last := faithful attempt.levels.length
    have past : ¬attempt.levels.length < attempt.sent.length := by
      rw [Attempt.levels,length_append]
      omega
    rw [split,take_left,next.data,contents,if_pos le_rfl,Attempt.during,if_neg past] at last
    refine ⟨(outcome_eq attempt memory).mp last,?_⟩
    rw [last] at next
    refine ih next fun count => ?_
    cases count with
    | zero =>
      rw [contents_zero]
      exact next.data
    | succ count =>
      have later := faithful (attempt.levels.length + (count + 1))
      rw [split,take_length_add_append,after_append,contents,if_neg (by omega),Nat.add_sub_cancel_left] at later
      exact later

end Runs

section Serial

theorem new_idle (memory : UInt8 → UInt8) : Idle memory {new with data := memory} := ⟨rfl,rfl,rfl,rfl,rfl⟩

/-- The memory serves a run if and only if the run tears no byte of data after its seventh bit. -/
theorem faithful_iff (memory : UInt8 → UInt8) (attempts : List Attempt) : Faithful attempts memory ↔ Intact attempts memory := by
  have idle := new_idle memory
  have alike : Alike {new with data := memory} {new with data := memory} := ⟨⟨_,_,rfl⟩,fun _ => rfl⟩
  constructor
  · intro faithful
    refine idle.intact attempts fun count => ?_
    obtain ⟨writes,follows⟩ := exists_follows ((runLevels attempts).take count)
    exact (drive_eq follows alike).2.data.symm.trans (faithful count writes follows).1
  · intro intact count writes follows
    obtain ⟨contents,shown⟩ := idle.run attempts intact
    obtain ⟨looked,last⟩ := drive_eq follows alike
    dsimp only
    rw [looked,outputs_take,shown]
    exact ⟨last.data.trans (contents count),rfl⟩

/-- The seven ones of a byte, and the rise of the clock for the stop, are stored as a byte. -/
theorem torn_byte : let run : List Attempt := [⟨.write 0 0 [0xFF],55,false⟩]
    (after (runLevels run) new).data 0 = 0xFE ∧ ¬Faithful run fun _ => 0xFF := by
  refine ⟨by decide +kernel,fun faithful => ?_⟩
  obtain ⟨writes,follows⟩ := exists_follows (runLevels [⟨.write 0 0 [0xFF],55,false⟩])
  have alike : Alike new new := ⟨⟨_,_,rfl⟩,fun _ => rfl⟩
  have stored := (faithful 58 writes follows).1
  have held : (after (runLevels [⟨.write 0 0 [0xFF],55,false⟩]) new).data 0 = 0xFF :=
    congrFun ((drive_eq follows alike).2.data.symm.trans stored) 0
  exact absurd held (by decide +kernel)

end Serial
end Eeprom
end ZeffBoy.Nes
