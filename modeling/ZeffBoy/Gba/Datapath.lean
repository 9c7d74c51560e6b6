import ZeffBoy.Gba.BoothCycle

/-! The sums that the multiplier of the ARM7TDMI makes and discards.
A turn is followed on the numbers that it has collected and still saves; what the turns leave is the product. -/
namespace ZeffBoy.Gba.Multiplier

variable {turns low high accumulator : Nat} {register : BitVec 128} {multiplicand : BitVec 64} {value factor : Int}

theorem ror128_toNat (value : BitVec 128) {shift : Nat} (few : shift < 128) :
    (ror128 value shift).toNat = value.toNat / 2^shift + 2^(128 - shift) * (value.toNat % 2^shift) := by
  have range := value.isLt
  have split : 2^128 = 2^shift * 2^(128 - shift) := by rw [← pow_add,Nat.add_sub_cancel' few.le]
  have low : value.toNat / 2^shift < 2^(128 - shift) := by
    rw [Nat.div_lt_iff_lt_mul (Nat.two_pow_pos shift),mul_comm,← split]
    exact range
  rw [ror128,BitVec.toNat_rotateRight,Nat.mod_eq_of_lt few,Nat.shiftRight_eq_div_pow,Nat.shiftLeft_eq,split,Nat.mul_mod_mul_right,
    Nat.or_comm,mul_comm,← Nat.two_pow_add_eq_or_of_lt low,add_comm]

def Collected (turns low : Nat) (register : BitVec 128) : Prop :=
  low < 2^(1 + 8 * turns) ∧ register.toNat = 2^(127 - 8 * turns) * low

theorem Collected.more (collected : Collected turns low register) (inside : turns < 4)
    (word : BitVec 64) : Collected (turns + 1) (low + 2^(1 + 8 * turns) * (word.toNat % 2^8))
      (ror128 (register ||| (word &&& 0xFF).setWidth 128) 8) := by
  obtain ⟨less,top⟩ := collected
  have byte : ((word &&& 0xFF).setWidth 128).toNat = word.toNat % 2^8 := by
    have masked := masked_toNat word 8 (by decide)
    rw [show bitMask 8 = 0xFF by decide] at masked
    rw [BitVec.toNat_setWidth,masked,Nat.mod_eq_of_lt (by omega)]
  have beside : (register ||| (word &&& 0xFF).setWidth 128).toNat = register.toNat + word.toNat % 2^8 := by
    rw [BitVec.toNat_or,byte,top,← Nat.two_pow_add_eq_or_of_lt]
    exact (Nat.mod_lt _ (by decide)).trans_le (Nat.pow_le_pow_right (by decide) (by omega))
  have small : word.toNat % 2^8 < 2^8 := Nat.mod_lt _ (by decide)
  rw [Collected,ror128_toNat _ (by decide),beside,top]
  generalize word.toNat % 2^8 = byte at small
  interval_cases turns
  all_goals
    simp only [mul_zero,mul_one,Nat.reduceMul,Nat.reduceAdd,Nat.reduceSub,Nat.reducePow] at *
    omega

structure Datapath where
  run : CarryRun
  partialSum : BitVec 128
deriving DecidableEq

def Datapath.turn (multiplicand : BitVec 64) (path : Datapath) : Datapath :=
  let (csaOutput,_) := performBoothCycle path.run.csaOutput multiplicand path.run.multiplier path.run.accShiftRegister
  ⟨path.run.turn multiplicand,ror128 (path.partialSum ||| (csaOutput.output &&& 0xFF).setWidth 128) 8⟩

/-- What has been added up after some turns. -/
structure Multiplied (value factor : Int) (accumulator turns low high : Nat) (path : Datapath) : Prop where
  sums : Collected turns low path.partialSum
  carries : Collected turns high path.run.partialCarry
  rest : path.run.accShiftRegister.toNat = accumulator / 2^(34 + 8 * turns)
  count : path.run.iterations = turns
  multiplier : signed 33 path.run.multiplier.toNat = factor / 2^(8 * turns)
  total : low + high + 2^(1 + 8 * turns) * CsaOutput.value path.run.csaOutput = (accumulator % 2^(34 + 8 * turns) : Nat) +
    value * (factor % 2^(8 * turns) - 2^(8 * turns) * (factor / 2^(8 * turns) % 2)) - factor % 2

variable {path : Datapath}

/-- The words that are kept for the end fit 33 bits. -/
def Datapath.Fits (path : Datapath) : Prop :=
  path.run.csaOutput.output.toNat < 2^33 ∧ path.run.csaOutput.carry.toNat < 2^33 ∧ path.run.multiplier.toNat < 2^33

theorem Multiplied.turn
    (multiplied : Multiplied value factor accumulator turns low high path) (means : signed 34 multiplicand.toNat = value)
    (small : -2^32 ≤ value ∧ value < 2^32) (inside : turns < 4) :
    (path.turn multiplicand).Fits ∧ ∃ low high, Multiplied value factor accumulator (turns + 1) low high (path.turn multiplicand) := by
  obtain ⟨sums,carries,rest,count,multiplier,total⟩ := multiplied
  obtain ⟨l,h,next,ls,hs,output,carry,o,c,acc,sum⟩ := performBoothCycle_sums path.run.csaOutput multiplicand path.run.multiplier
    path.run.accShiftRegister means small
  obtain ⟨narrow,shifted⟩ := asrWidth_value path.run.multiplier
  have more := sums.more inside
  have more' := carries.more inside
  unfold Datapath.turn CarryRun.turn
  generalize performBoothCycle path.run.csaOutput multiplicand path.run.multiplier path.run.accShiftRegister = cycled at *
  dsimp only at *
  have low8 : cycled.1.output.toNat % 2^8 = l := by rw [o,Nat.add_mul_mod_self_left,Nat.mod_eq_of_lt ls]
  have high8 : cycled.1.carry.toNat % 2^8 = h := by rw [c,Nat.add_mul_mod_self_left,Nat.mod_eq_of_lt hs]
  have output' : cycled.1.output >>> 8 = next.output := by
    apply BitVec.eq_of_toNat_eq
    rw [shiftRight_toNat,o,Nat.add_mul_div_left _ _ (by decide),Nat.div_eq_of_lt ls,zero_add]
  have carry' : cycled.1.carry >>> 8 = next.carry := by
    apply BitVec.eq_of_toNat_eq
    rw [shiftRight_toNat,c,Nat.add_mul_div_left _ _ (by decide),Nat.div_eq_of_lt hs,zero_add]
  have more := more cycled.1.output
  have more' := more' cycled.1.carry
  rw [low8] at more
  rw [high8] at more'
  rw [output',carry']
  refine ⟨⟨output,carry,narrow⟩,_,_,more,more',?_,?_,?_,?_⟩
  · dsimp only
    rw [acc,rest,Nat.div_div_eq_div_mul,← pow_add]
    congr 2
  · dsimp only
    rw [count]
  · dsimp only
    rw [shifted,multiplier,Int.ediv_ediv_of_nonneg (by positivity),← pow_add]
    congr 2
  · dsimp only
    have factors : factor % 2^(8 * (turns + 1)) = factor % 2^(8 * turns) + 2^(8 * turns) * (factor / 2^(8 * turns) % 2^8) := by
      rw [mul_add,pow_add,Int.emod_def factor (2^(8 * turns) * _),← Int.ediv_ediv_of_nonneg (by positivity),
        Int.emod_def (factor / _) (2^8),Int.emod_def factor (2^(8 * turns))]
      ring
    have bits : accumulator % 2^(34 + 8 * (turns + 1)) = accumulator % 2^(34 + 8 * turns) +
        2^(34 + 8 * turns) * (path.run.accShiftRegister.toNat % 2^8) := by
      rw [rest,mul_add,← add_assoc,pow_add]
      exact Nat.mod_mul
    have next' : factor / 2^(8 * (turns + 1)) = factor / 2^(8 * turns) / 2^8 := by
      rw [Int.ediv_ediv_of_nonneg (by positivity),← pow_add]
      congr 2
    have read : ((path.run.multiplier.toNat % 2 : Nat) : Int) + (path.run.multiplier.toNat % 2^8 : Nat) -
        2^8 * (path.run.multiplier.toNat / 2^8 % 2 : Nat) = factor / 2^(8 * turns) % 2 + factor / 2^(8 * turns) % 2^8 -
          2^8 * (factor / 2^(8 * turns) / 2^8 % 2) := by
      rw [← multiplier,signed33]
      omega
    rw [read] at sum
    rw [factors,bits,next']
    push_cast at *
    linear_combination total + 2^(8 * turns) * sum

theorem Multiplied.iterate
    (multiplied : Multiplied value factor accumulator 0 low high path) (means : signed 34 multiplicand.toNat = value)
    (small : -2^32 ≤ value ∧ value < 2^32) {count : Nat} (inside : count < 4) :
    ((Datapath.turn multiplicand)^[count + 1] path).Fits ∧ ∃ low high,
      Multiplied value factor accumulator (count + 1) low high ((Datapath.turn multiplicand)^[count + 1] path) := by
  induction count with
  | zero => exact multiplied.turn means small inside
  | succ count ih =>
    obtain ⟨_,_,_,before⟩ := ih (Nat.lt_of_succ_lt inside)
    rw [Function.iterate_succ_apply']
    exact before.turn means small inside

def addWithCarry (a b : BitVec 32) (carry : Bool) : BitVec 32 × Bool :=
  let result := a.toNat + b.toNat + carry.toNat
  (BitVec.ofNat 32 result,decide (2^32 - 1 < result))

def correctionRor (iterations : Nat) : Nat :=
  match iterations with
  | 1 => 23
  | 2 => 15
  | 3 => 7
  | _ => 31

/-- What the adders give, the low word first. -/
def Datapath.sums (long aluCarryIn : Bool) (path : Datapath) : List (BitVec 32) :=
  let partialSum := ror128 (path.partialSum ||| path.run.csaOutput.output.setWidth 128) (correctionRor path.run.iterations)
  let partialCarry := ror128 (path.run.partialCarry ||| path.run.csaOutput.carry.setWidth 128) (correctionRor path.run.iterations)
  let partialSumHi : BitVec 64 := (partialSum >>> 64).setWidth 64
  let partialCarryHi : BitVec 64 := (partialCarry >>> 64).setWidth 64
  if long then
    if path.run.iterations = 4 then
      let (lo,loCarry) := addWithCarry (partialSumHi.setWidth 32) (partialCarryHi.setWidth 32) aluCarryIn
      [lo,(addWithCarry ((partialSumHi >>> 32).setWidth 32) ((partialCarryHi >>> 32).setWidth 32) loCarry).1]
    else
      let (lo,loCarry) := addWithCarry ((partialSumHi >>> 32).setWidth 32) ((partialCarryHi >>> 32).setWidth 32) aluCarryIn
      let shiftAmount := 2 + 8 * path.run.iterations
      let partialCarryLo := signExtendWidth (partialCarry.setWidth 64) shiftAmount 64
      let partialSumLo := partialSum.setWidth 64 ||| path.run.accShiftRegister <<< shiftAmount
      [lo,(addWithCarry (partialSumLo.setWidth 32) (partialCarryLo.setWidth 32) loCarry).1]
  else if path.run.iterations = 4 then
    [(addWithCarry (partialSumHi.setWidth 32) (partialCarryHi.setWidth 32) aluCarryIn).1]
  else
    [(addWithCarry ((partialSumHi >>> 32).setWidth 32) ((partialCarryHi >>> 32).setWidth 32) aluCarryIn).1]

variable {word : BitVec 64} {carry : Bool}

theorem rotated (register : BitVec 128) {low place shift : Nat} (top : register.toNat = 2^(shift + place) * low)
    (fits : word.toNat < 2^(shift + place)) (few : shift < 128) :
    (ror128 (register ||| word.setWidth 128) shift).toNat =
      2^place * low + word.toNat / 2^shift + 2^(128 - shift) * (word.toNat % 2^shift) := by
  have wide : (word.setWidth 128).toNat = word.toNat := by
    rw [BitVec.toNat_setWidth,Nat.mod_eq_of_lt (by omega)]
  have beside : (register ||| word.setWidth 128).toNat = 2^shift * (2^place * low) + word.toNat := by
    rw [BitVec.toNat_or,wide,top,← Nat.two_pow_add_eq_or_of_lt fits,pow_add,mul_assoc]
  rw [ror128_toNat _ few,beside,Nat.mul_add_div (Nat.two_pow_pos shift),Nat.mul_add_mod]

theorem Collected.last (collected : Collected 4 low register)
    (fits : word.toNat < 2^33) :
    ((ror128 (register ||| word.setWidth 128) 31 >>> 64).setWidth 64).toNat = (low + 2^33 * word.toNat) % 2^64 := by
  obtain ⟨less,top⟩ := collected
  rw [BitVec.toNat_setWidth,BitVec.toNat_ushiftRight,Nat.shiftRight_eq_div_pow,@rotated word register low 64 31 top (by omega) (by decide)]
  have split := Nat.div_add_mod word.toNat (2^31)
  have small : word.toNat % 2^31 < 2^31 := Nat.mod_lt _ (by decide)
  have few : word.toNat / 2^31 < 4 := by omega
  generalize word.toNat / 2^31 = above at *
  generalize word.toNat % 2^31 = under at *
  have placed : 2^64 * low + above + 2^(128 - 31) * under = above + 2^64 * (low + 2^33 * under) := by ring
  have total : low + 2^33 * (2^31 * above + under) = low + 2^33 * under + 2^64 * above := by ring
  rw [← split,placed,total,Nat.add_mul_div_left _ _ (by decide),Nat.div_eq_of_lt (by omega),zero_add,Nat.add_mul_mod_self_left]

theorem Collected.early (collected : Collected turns low register) (few : turns < 4)
    (fits : word.toNat < 2^33) :
    let corrected := ror128 (register ||| word.setWidth 128) (31 - 8 * turns)
    ((corrected >>> 64).setWidth 64).toNat / 2^32 = (low + 2^(1 + 8 * turns) * word.toNat) % 2^32 ∧
      (corrected.setWidth 64).toNat = (low + 2^(1 + 8 * turns) * word.toNat) / 2^32 := by
  obtain ⟨less,top⟩ := collected
  have place : 127 - 8 * turns = 31 - 8 * turns + 96 := by omega
  rw [place] at top
  have whole : word.toNat < 2^(31 - 8 * turns + 96) := fits.trans_le (Nat.pow_le_pow_right (by decide) (by omega))
  dsimp only
  rw [BitVec.toNat_setWidth,BitVec.toNat_setWidth,BitVec.toNat_ushiftRight,Nat.shiftRight_eq_div_pow,rotated register top whole (by omega)]
  have split := Nat.div_add_mod word.toNat (2^(31 - 8 * turns))
  have small : word.toNat % 2^(31 - 8 * turns) < 2^(31 - 8 * turns) := Nat.mod_lt _ (Nat.two_pow_pos _)
  have above : word.toNat / 2^(31 - 8 * turns) < 2^32 := by
    rw [Nat.div_lt_iff_lt_mul (Nat.two_pow_pos _)]
    exact fits.trans_le (Nat.mul_le_mul_left (2^32) (show 2 ≤ 2^(31 - 8 * turns) from Nat.le_self_pow (by omega) 2))
  generalize word.toNat / 2^(31 - 8 * turns) = quotient at *
  generalize word.toNat % 2^(31 - 8 * turns) = under at *
  rw [← split,show 128 - (31 - 8 * turns) = 96 + (1 + 8 * turns) by omega]
  have word32 : 2^32 = 2^(1 + 8 * turns) * 2^(31 - 8 * turns) := by
    rw [← pow_add]
    congr 1
    omega
  have cut : low + 2^(1 + 8 * turns) * under < 2^32 := by
    rw [word32]
    nlinarith
  have total : low + 2^(1 + 8 * turns) * (2^(31 - 8 * turns) * quotient + under) =
      low + 2^(1 + 8 * turns) * under + 2^32 * quotient := by
    rw [word32]
    ring
  have placed : 2^96 * low + quotient + 2^(96 + (1 + 8 * turns)) * under =
      quotient + 2^64 * (2^32 * (low + 2^(1 + 8 * turns) * under)) := by ring
  rw [total,placed]
  generalize low + 2^(1 + 8 * turns) * under = both at cut
  have high : (quotient + 2^64 * (2^32 * both)) / 2^64 = 2^32 * both := by
    rw [Nat.add_mul_div_left _ _ (by decide),Nat.div_eq_of_lt (above.trans (by decide)),zero_add]
  rw [high,Nat.mod_eq_of_lt (by omega),Nat.mul_div_cancel_left _ (by decide),Nat.add_mul_mod_self_left,Nat.add_mul_mod_self_left,
    Nat.mod_eq_of_lt cut,Nat.mod_eq_of_lt (above.trans (by decide)),Nat.add_mul_div_left _ _ (by decide),Nat.div_eq_of_lt cut,zero_add]
  exact ⟨rfl,rfl⟩

theorem addWithCarry_one {a b : BitVec 32} {value : Int}
    (same : ((a.toNat + b.toNat + carry.toNat : Nat) : Int) % 2^32 = value % 2^32) : (addWithCarry a b carry).1 = BitVec.ofInt 32 value := by
  apply BitVec.eq_of_toNat_eq
  rw [addWithCarry,BitVec.toNat_ofNat,BitVec.toNat_ofInt]
  omega

theorem addWithCarry_two {a b c d : BitVec 64} {value : Int}
    (same : ((a.toNat % 2^32 + b.toNat % 2^32 + carry.toNat + 2^32 * (c.toNat + d.toNat) : Nat) : Int) % 2^64 = value % 2^64) :
    [(addWithCarry (a.setWidth 32) (b.setWidth 32) carry).1,
        (addWithCarry (c.setWidth 32) (d.setWidth 32) (addWithCarry (a.setWidth 32) (b.setWidth 32) carry).2).1] =
      [BitVec.ofInt 32 value,BitVec.ofInt 32 (value / 2^32)] := by
  have bit := carry.toNat_lt
  have low : (addWithCarry (a.setWidth 32) (b.setWidth 32) carry).1 = BitVec.ofInt 32 value := by
    apply addWithCarry_one
    rw [BitVec.toNat_setWidth,BitVec.toNat_setWidth]
    omega
  have carried : (addWithCarry (a.setWidth 32) (b.setWidth 32) carry).2.toNat =
      (a.toNat % 2^32 + b.toNat % 2^32 + carry.toNat) / 2^32 := by
    rw [addWithCarry,BitVec.toNat_setWidth,BitVec.toNat_setWidth]
    dsimp only
    by_cases carries : 2^32 - 1 < a.toNat % 2^32 + b.toNat % 2^32 + carry.toNat
    · rw [decide_eq_true carries,Bool.toNat_true]
      omega
    · rw [decide_eq_false carries,Bool.toNat_false]
      omega
  have high : (addWithCarry (c.setWidth 32) (d.setWidth 32) (addWithCarry (a.setWidth 32) (b.setWidth 32) carry).2).1 =
      BitVec.ofInt 32 (value / 2^32) := by
    apply addWithCarry_one
    rw [carried,BitVec.toNat_setWidth,BitVec.toNat_setWidth]
    omega
  rw [low,high]

theorem words {place low high o c g carry : Nat} (narrow : place < 62) (less : high < 2^place) (fits : c < 2^33) :
    (((low + 2^place * o) % 2^32 + (high + 2^place * c) % 2^32 + carry + 2^32 * ((low + 2^place * o) / 2^32 + 2^(1 + place) * g +
      ((high + 2^place * c) / 2^32 % 2^(1 + place) +
        (2^64 - 2^(1 + place)) * ((high + 2^place * c) / 2^32 / 2^place % 2))) : Nat) : Int) % 2^64 =
      (low + high + 2^place * (o + ((c : Int) - 2^33 * (c / 2^32 % 2 : Nat))) + carry + 2^(33 + place) * g) % 2^64 := by
  have sign : (high + 2^place * c) / 2^32 / 2^place % 2 = c / 2^32 % 2 := by
    rw [Nat.div_div_eq_div_mul,mul_comm (2^32),← Nat.div_div_eq_div_mul,Nat.add_mul_div_left _ _ (Nat.two_pow_pos _),
      Nat.div_eq_of_lt less,zero_add]
  have few : (high + 2^place * c) / 2^32 < 2^(1 + place) := by
    rw [Nat.div_lt_iff_lt_mul (by decide),pow_add]
    nlinarith
  have inside : 2^(1 + place) ≤ 2^64 := Nat.pow_le_pow_right (by decide) (by omega)
  have split := Nat.div_add_mod (low + 2^place * o) (2^32)
  have split' := Nat.div_add_mod (high + 2^place * c) (2^32)
  rw [sign,Nat.mod_eq_of_lt few]
  generalize c / 2^32 % 2 = bit
  generalize (low + 2^place * o) / 2^32 = s1 at *
  generalize (low + 2^place * o) % 2^32 = s0 at *
  generalize (high + 2^place * c) / 2^32 = c1 at *
  generalize (high + 2^place * c) % 2^32 = c0 at *
  zify [inside] at *
  refine (congrArg (· % 2^64) ?_).trans (Int.add_mul_emod_self_left _ (2^64) (2^32 * bit))
  rw [pow_add,pow_add]
  linear_combination split + split'

theorem Multiplied.product
    (multiplied : Multiplied value factor accumulator turns low high path)
    (ended : factor / 2^(8 * turns) = 0 ∨ factor / 2^(8 * turns) = -1) :
    low + high + 2^(1 + 8 * turns) * CsaOutput.value path.run.csaOutput + factor % 2 + 2^(34 + 8 * turns) *
      (path.run.accShiftRegister.toNat : Int) = value * factor + accumulator := by
  have whole := Int.mul_ediv_add_emod factor (2^(8 * turns))
  have parts : ((accumulator % 2^(34 + 8 * turns) : Nat) : Int) + 2^(34 + 8 * turns) * (path.run.accShiftRegister.toNat : Int) =
      accumulator := by
    rw [multiplied.rest]
    exact_mod_cast Nat.mod_add_div accumulator (2^(34 + 8 * turns))
  have total := multiplied.total
  obtain none | ones := ended
  · rw [none] at total whole
    rw [Int.zero_emod] at total
    linear_combination total + parts + value * whole
  · rw [ones] at total whole
    rw [show (-1 : Int) % 2 = 1 from rfl] at total
    linear_combination total + parts + value * whole

theorem Multiplied.adders
    (multiplied : Multiplied value factor accumulator turns low high path) (fits : path.Fits) (first : 1 ≤ turns) (last : turns ≤ 4)
    (ended : factor / 2^(8 * turns) = 0 ∨ factor / 2^(8 * turns) = -1) (odd : (carry.toNat : Int) = factor % 2)
    (word : accumulator < 2^64) :
    path.sums true carry = [BitVec.ofInt 32 (value * factor + accumulator),BitVec.ofInt 32 ((value * factor + accumulator) / 2^32)] ∧
      (accumulator < 2^32 → path.sums false carry = [BitVec.ofInt 32 (value * factor + accumulator)]) := by
  have product := multiplied.product ended
  have rest := multiplied.rest
  obtain ⟨o,c,_⟩ := fits
  unfold Datapath.sums
  rw [multiplied.count]
  rw [CsaOutput.value,signed33,Nat.mod_eq_of_lt o,Nat.mod_eq_of_lt c,← odd] at product
  generalize value * factor + (accumulator : Int) = result at *
  obtain four | early := Nat.eq_or_lt_of_le last
  · subst four
    have sums := multiplied.sums.last o
    have carries := multiplied.carries.last c
    have ror : correctionRor 4 = 31 := rfl
    rw [ror,if_pos rfl,if_pos rfl]
    dsimp only
    generalize ((ror128 (path.partialSum ||| path.run.csaOutput.output.setWidth 128) 31 >>> 64).setWidth 64 : BitVec 64) = sum at *
    generalize ((ror128 (path.run.partialCarry ||| path.run.csaOutput.carry.setWidth 128) 31 >>> 64).setWidth 64 : BitVec 64) = saved at *
    constructor
    · apply addWithCarry_two
      rw [shiftRight_toNat,shiftRight_toNat]
      omega
    · intro small
      refine congrArg (fun sum => [sum]) (addWithCarry_one ?_)
      rw [BitVec.toNat_setWidth,BitVec.toNat_setWidth]
      omega
  · have ror : correctionRor turns = 31 - 8 * turns := by
      interval_cases turns <;> rfl
    obtain ⟨sums,sums'⟩ := multiplied.sums.early early o
    obtain ⟨carries,carries'⟩ := multiplied.carries.early early c
    have less := multiplied.sums.1
    have total := @words (1 + 8 * turns) low high path.run.csaOutput.output.toNat path.run.csaOutput.carry.toNat
      path.run.accShiftRegister.toNat carry.toNat (by omega) multiplied.carries.1 c
    rw [← add_assoc 33] at total
    rw [product] at total
    rw [ror,if_pos rfl,if_neg early.ne,if_neg Bool.false_ne_true,if_neg early.ne]
    dsimp only at *
    generalize ror128 (path.partialSum ||| path.run.csaOutput.output.setWidth 128) (31 - 8 * turns) = sum at *
    generalize ror128 (path.run.partialCarry ||| path.run.csaOutput.carry.setWidth 128) (31 - 8 * turns) = saved at *
    constructor
    · apply addWithCarry_two
      have joined : (sum.setWidth 64 ||| path.run.accShiftRegister <<< (2 + 8 * turns)).toNat = _ :=
        beside (by rw [sums']; interval_cases turns <;> omega) (by rw [rest]; interval_cases turns <;> omega)
      rw [shiftRight_toNat,shiftRight_toNat,signExtendWidth_toNat _ (by omega) (by omega) (by decide),sums,carries,carries',joined,sums',
        Nat.mod_mod,Nat.mod_mod,show 2 + 8 * turns - 1 = 1 + 8 * turns by omega,show 2 + 8 * turns = 1 + (1 + 8 * turns) by omega]
      exact total
    · intro small
      refine congrArg (fun sum => [sum]) (addWithCarry_one ?_)
      rw [BitVec.toNat_setWidth,BitVec.toNat_setWidth,shiftRight_toNat,shiftRight_toNat,sums,carries]
      interval_cases turns <;> omega

def widened (isSigned : Bool) (value : UInt32) : BitVec 64 :=
  if isSigned then signExtendWidth (value.toBitVec.setWidth 64) 32 34 else value.toBitVec.setWidth 64 &&& bitMask 33

/-- What an operand stands for. -/
def operand (isSigned : Bool) (value : UInt32) : Int := if isSigned then value.toBitVec.toInt else value.toNat

theorem widened_value (isSigned : Bool) (value : UInt32) :
    (widened isSigned value).toNat < 2^34 ∧ signed 34 (widened isSigned value).toNat = operand isSigned value ∧
      signed 33 (widened isSigned value).toNat = operand isSigned value ∧ -2^32 ≤ operand isSigned value ∧
      operand isSigned value < 2^32 ∧ (operand isSigned value / 2^32 = 0 ∨ isSigned = true ∧ operand isSigned value / 2^32 = -1) := by
  have range := value.toBitVec.isLt
  have wide : (value.toBitVec.setWidth 64).toNat = value.toBitVec.toNat := by
    rw [BitVec.toNat_setWidth,Nat.mod_eq_of_lt (by omega)]
  unfold operand widened
  cases isSigned with
  | true =>
    rw [if_pos rfl,if_pos rfl,BitVec.toInt_eq_toNat_cond,signExtendWidth_toNat _ (by decide) (by decide) (by decide),wide,signed33]
    have cast : ((2 ^ 32 : Nat) : Int) = 4294967296 := rfl
    unfold signed
    rw [cast,eq_self_iff_true,true_and]
    split <;> split <;> omega
  | false =>
    rw [if_neg Bool.false_ne_true,if_neg Bool.false_ne_true,masked_toNat _ _ (by decide),wide,signed33]
    have same : value.toNat = value.toBitVec.toNat := rfl
    unfold signed
    split <;> omega

def Datapath.start (isSigned : Bool) (rm rs : UInt32) (accumulator : UInt64) : Datapath :=
  let multiplicand := widened isSigned rm
  let multiplier := widened isSigned rs
  let carry := if multiplier &&& 1 != 0 then ~~~multiplicand else 0
  { run := {
      csaOutput := ⟨accumulator.toBitVec >>> 1,carry >>> 1⟩
      accShiftRegister := accumulator.toBitVec >>> 34
      partialCarry := ror128 ((carry &&& 1).setWidth 128) 1
      multiplier
      iterations := 0 }
    partialSum := ror128 ((accumulator.toBitVec &&& 1).setWidth 128) 1 }

theorem lowest_toNat (word : BitVec 64) : (word &&& 1).toNat = word.toNat % 2 := by
  have masked := masked_toNat word 1 (by decide)
  rwa [show bitMask 1 = 1 by decide] at masked

theorem collected_zero (word : BitVec 64) : Collected 0 (word.toNat % 2) (ror128 ((word &&& 1).setWidth 128) 1) := by
  have bit : ((word &&& 1).setWidth 128).toNat = word.toNat % 2 := by
    rw [BitVec.toNat_setWidth,lowest_toNat,Nat.mod_eq_of_lt (by omega)]
  rw [Collected,ror128_toNat _ (by decide),bit]
  omega

theorem Datapath.multiplied (isSigned : Bool) (rm rs : UInt32) (accumulator : UInt64) : ∃ low high,
    Multiplied (operand isSigned rm) (operand isSigned rs) accumulator.toNat 0 low high (start isSigned rm rs accumulator) := by
  obtain ⟨less,means,_⟩ := widened_value isSigned rm
  obtain ⟨_,_,factor,_⟩ := widened_value isSigned rs
  refine ⟨_,_,collected_zero accumulator.toBitVec,collected_zero _,shiftRight_toNat _ 34,rfl,?_,?_⟩
  · rw [mul_zero,pow_zero,Int.ediv_one]
    exact factor
  · have same : accumulator.toBitVec.toNat = accumulator.toNat := rfl
    have parity := lowest_toNat (widened isSigned rs)
    rw [start,mul_zero,pow_zero,Int.emod_one,Int.ediv_one,CsaOutput.value,signed33]
    dsimp only
    rw [shiftRight_toNat,shiftRight_toNat,same]
    rw [signed34 less] at means
    rw [signed33] at factor
    by_cases odd : widened isSigned rs &&& 1 = 0
    · rw [odd] at parity
      have none : (0 : BitVec 64).toNat = 0 := rfl
      rw [odd,if_neg (by decide),none]
      have even : operand isSigned rs % 2 = 0 := by omega
      rw [even]
      omega
    · have one : (widened isSigned rs &&& 1).toNat = 1 := by
        have some := BitVec.toNat_ne.mp odd
        have none : (0 : BitVec 64).toNat = 0 := rfl
        omega
      rw [one] at parity
      rw [if_pos (bne_iff_ne.mpr odd),BitVec.toNat_not]
      have odd : operand isSigned rs % 2 = 1 := by omega
      rw [odd]
      omega

theorem terminates {multiplier : BitVec 64} (fits : multiplier.toNat < 2^33) (isSigned : Bool) :
    multiplyShouldTerminate multiplier isSigned = true ↔
      signed 33 multiplier.toNat = 0 ∨ isSigned = true ∧ signed 33 multiplier.toNat = -1 := by
  have ones : (bitMask 33).toNat = 2^33 - 1 := bitMask_toNat (by decide)
  have none : (0 : BitVec 64).toNat = 0 := rfl
  rw [signed33]
  cases isSigned with
  | true =>
    rw [multiplyShouldTerminate,if_pos rfl,Bool.or_eq_true,beq_iff_eq,beq_iff_eq,← BitVec.toNat_inj,← BitVec.toNat_inj,ones,none,
      eq_self_iff_true,true_and]
    omega
  | false =>
    rw [multiplyShouldTerminate,if_neg Bool.false_ne_true,beq_iff_eq,← BitVec.toNat_inj,none,eq_false Bool.false_ne_true,
      false_and,or_false]
    omega

/-- The loop leaves after a number of turns, and not before. -/
structure Ends (multiplicand : BitVec 64) (isSigned : Bool) (start : Datapath) (count : Nat) : Prop where
  first : 1 ≤ count
  stops : multiplyShouldTerminate ((Datapath.turn multiplicand)^[count] start).run.multiplier isSigned = true
  goes : ∀ earlier, 1 ≤ earlier → earlier < count →
    multiplyShouldTerminate ((Datapath.turn multiplicand)^[earlier] start).run.multiplier isSigned = false

theorem Ends.loop {isSigned : Bool} {start : Datapath} {count : Nat}
    (ends : Ends multiplicand isSigned start count) {bound : Nat} (enough : count ≤ bound) :
    CarryRun.loop multiplicand isSigned bound start.run = ((Datapath.turn multiplicand)^[count] start).run := by
  induction bound generalizing start count with
  | zero => exact absurd ends.first (by omega)
  | succ bound ih =>
    have next : start.run.turn multiplicand = (start.turn multiplicand).run := rfl
    unfold CarryRun.loop
    dsimp only
    rw [next]
    obtain last | more := Nat.eq_or_lt_of_le ends.first
    · subst last
      exact if_pos ends.stops
    · obtain ⟨count,rfl⟩ := Nat.exists_eq_succ_of_ne_zero (show count ≠ 0 by omega)
      have goes := ends.goes 1 (Nat.le_refl 1) more
      refine (if_neg (Bool.eq_false_iff.mp goes)).trans (ih ⟨by omega,ends.stops,fun earlier first inside => ?_⟩ (Nat.le_of_succ_le_succ enough))
      exact ends.goes (earlier + 1) (by omega) (Nat.succ_lt_succ inside)

/-- What the last turn leaves, of which the sums of the adders are discarded. -/
def Datapath.flag (long : Bool) (path : Datapath) : Bool :=
  let partialCarry := ror128 (path.run.partialCarry ||| path.run.csaOutput.carry.setWidth 128) (correctionRor path.run.iterations)
  let partialCarryHi : BitVec 64 := (partialCarry >>> 64).setWidth 64
  if long then partialCarryHi >>> 63 != 0
  else if path.run.iterations = 4 then partialCarryHi &&& 1#64 <<< 31 != 0
  else partialCarryHi >>> 63 != 0

def isSigned (kind : MultiplyCarryKind) : Bool := kind = .short ∨ kind = .longSigned

def isLong (kind : MultiplyCarryKind) : Bool := kind = .longSigned ∨ kind = .longUnsigned

theorem flag_loop (kind : MultiplyCarryKind) (rm rs : UInt32) (accumulator : UInt64) {path : Datapath}
    (ended : CarryRun.loop (widened (isSigned kind) rm) (isSigned kind) 4 (Datapath.start (isSigned kind) rm rs accumulator).run = path.run) :
    arm7tdmiMultiplyCarry kind rm rs accumulator = path.flag (isLong kind) := by
  unfold Datapath.flag
  rw [← ended]
  cases kind with
  | short => rfl
  | longSigned => rfl
  | longUnsigned => rfl

theorem odd_carry (isSigned : Bool) (rs : UInt32) : (((rs &&& 1 != 0).toNat : Nat) : Int) = operand isSigned rs % 2 := by
  have parity : (rs &&& 1).toNat = rs.toNat % 2 := Nat.and_one_is_mod rs.toNat
  have same : rs.toNat = rs.toBitVec.toNat := rfl
  have read : operand isSigned rs % 2 = (rs.toNat % 2 : Nat) := by
    unfold operand
    split
    · have cast : ((2 ^ 32 : Nat) : Int) = 4294967296 := rfl
      rw [BitVec.toInt_eq_toNat_cond,cast]
      split <;> omega
    · omega
  rw [read]
  by_cases even : rs &&& 1 = 0
  · rw [even,← parity,even]
    rfl
  · have none : (0 : UInt32).toNat = 0 := rfl
    have nonzero := UInt32.toNat_inj.not.mpr even
    rw [bne_iff_ne.mpr even,← parity]
    rw [Bool.toNat_true]
    omega

theorem datapath_product (kind : MultiplyCarryKind) (rm rs : UInt32) (accumulator : UInt64)
    (word : kind = .short → accumulator.toNat < 2^32) :
    let start := Datapath.start (isSigned kind) rm rs accumulator
    let product := operand (isSigned kind) rm * operand (isSigned kind) rs + accumulator.toNat
    ∃ count ≤ 4, Ends (widened (isSigned kind) rm) (isSigned kind) start count ∧
      let path := (Datapath.turn (widened (isSigned kind) rm))^[count] start
      arm7tdmiMultiplyCarry kind rm rs accumulator = path.flag (isLong kind) ∧
      path.sums (isLong kind) (rs &&& 1 != 0) =
        if isLong kind then [BitVec.ofInt 32 product,BitVec.ofInt 32 (product / 2^32)] else [BitVec.ofInt 32 product] := by
  intro start product
  obtain ⟨_,means,_,above,below,_⟩ := widened_value (isSigned kind) rm
  obtain ⟨_,_,_,_,_,last⟩ := widened_value (isSigned kind) rs
  obtain ⟨low,high,multiplied⟩ := Datapath.multiplied (isSigned kind) rm rs accumulator
  have after {count : Nat} (inside : count < 4) := multiplied.iterate means ⟨above,below⟩ inside
  have stops {count : Nat} (inside : count < 4) :
      multiplyShouldTerminate ((Datapath.turn (widened (isSigned kind) rm))^[count + 1] start).run.multiplier (isSigned kind) = true ↔
        operand (isSigned kind) rs / 2^(8 * (count + 1)) = 0 ∨
          isSigned kind = true ∧ operand (isSigned kind) rs / 2^(8 * (count + 1)) = -1 := by
    obtain ⟨⟨_,_,fits⟩,_,_,turned⟩ := after inside
    rw [terminates fits,turned.multiplier]
  have some : ∃ count, multiplyShouldTerminate
      ((Datapath.turn (widened (isSigned kind) rm))^[count + 1] start).run.multiplier (isSigned kind) = true :=
    ⟨3,(stops (by decide)).mpr last⟩
  have inside : Nat.find some < 4 := Nat.lt_succ_of_le (Nat.find_min' some ((stops (by decide)).mpr last))
  have ends : Ends (widened (isSigned kind) rm) (isSigned kind) start (Nat.find some + 1) := by
    refine ⟨Nat.le_add_left 1 _,Nat.find_spec some,fun earlier first before => ?_⟩
    obtain ⟨earlier,rfl⟩ := Nat.exists_eq_succ_of_ne_zero (show earlier ≠ 0 by omega)
    exact Bool.eq_false_iff.mpr (Nat.find_min some (Nat.lt_of_succ_lt_succ before))
  obtain ⟨fits,low,high,turned⟩ := after inside
  have ended := ((stops inside).mp (Nat.find_spec some)).imp_right And.right
  obtain ⟨long,short⟩ := turned.adders fits (Nat.le_add_left 1 _) inside ended (odd_carry (isSigned kind) rs) accumulator.toNat_lt
  refine ⟨_,inside,ends,flag_loop kind rm rs accumulator (ends.loop inside),?_⟩
  cases kind with
  | short => exact short (word rfl)
  | longSigned => exact long
  | longUnsigned => exact long

theorem datapath_product_seven :
    ∃ count ≤ 4, Ends (widened true 3) true (Datapath.start true 3 5 7) count ∧
      let path := (Datapath.turn (widened true 3))^[count] (Datapath.start true 3 5 7)
      arm7tdmiMultiplyCarry .short 3 5 7 = path.flag false ∧ path.sums false true = [BitVec.ofInt 32 22] :=
  datapath_product .short 3 5 7 fun _ => by decide

end ZeffBoy.Gba.Multiplier
