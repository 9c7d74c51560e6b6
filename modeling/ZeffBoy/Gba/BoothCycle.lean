import ZeffBoy.Gba.Multiplier

/-! One Booth cycle of the multiplier, on the numbers that the saved sums and carries stand for. -/
namespace ZeffBoy.Gba.Multiplier

theorem carrySave (width : Nat) : ∀ a < 2^width, ∀ b < 2^width, ∀ c < 2^width,
    (a ^^^ b ^^^ c) + 2 * ((a &&& b) ||| (b &&& c) ||| (c &&& a)) = a + b + c := by
  induction width with
  | zero =>
    intro a low b below c less
    obtain rfl : a = 0 := by omega
    obtain rfl : b = 0 := by omega
    obtain rfl : c = 0 := by omega
    rfl
  | succ width ih =>
    intro a low b below c less
    cases a using Nat.bitCasesOn with
    | bit x a =>
    cases b using Nat.bitCasesOn with
    | bit y b =>
    cases c using Nat.bitCasesOn with
    | bit z c =>
    rw [Nat.bit_val] at low below less
    have rest := ih a (by omega) b (by omega) c (by omega)
    rw [Nat.xor_bit,Nat.xor_bit,Nat.land_bit,Nat.land_bit,Nat.land_bit,Nat.lor_bit,Nat.lor_bit]
    simp only [Nat.bit_val]
    cases x <;> cases y <;> cases z <;> simp <;> omega

theorem masked_toNat (value : BitVec 64) (bits : Nat) (narrow : bits ≤ 64) :
    (value &&& bitMask bits).toNat = value.toNat % 2 ^ bits := by
  have same : value &&& bitMask bits = (value.setWidth bits).setWidth 64 := by
    ext index inside
    rw [← BitVec.getLsbD_eq_getElem,← BitVec.getLsbD_eq_getElem,BitVec.getLsbD_and,bitMask_getLsbD narrow,BitVec.getLsbD_setWidth,
      BitVec.getLsbD_setWidth,decide_eq_true inside,Bool.true_and,Bool.and_comm]
  have small : value.toNat % 2 ^ bits < 2 ^ 64 := (Nat.mod_lt _ (Nat.two_pow_pos bits)).trans_le (Nat.pow_le_pow_right (by decide) narrow)
  rw [same,BitVec.toNat_setWidth,BitVec.toNat_setWidth,Nat.mod_eq_of_lt small]

theorem ofBool_toNat (value : Bool) : (ofBool value).toNat = value.toNat := by
  cases value <;> rfl

def signed (bits value : Nat) : Int := if value % 2^bits < 2^(bits - 1) then value % 2^bits else value % 2^bits - 2^bits

/-- The digit of three bits, each the sum of the lower two less twice the highest. -/
def digit (chunk : Nat) : Int := chunk % 2 + chunk / 2 % 2 - 2 * (chunk / 4)

theorem boothRecode_value (input chunk : BitVec 64) (few : chunk.toNat < 8) {value : Int} (means : signed 34 input.toNat = value)
    (small : -2^32 ≤ value ∧ value < 2^32) :
    let recoded := boothRecode input chunk
    recoded.recodedOutput.toNat < 2^34 ∧ signed 34 recoded.recodedOutput.toNat + recoded.carry.toNat = digit chunk.toNat * value := by
  have twice : (input * 2).toNat = input.toNat * 2 % 2^64 := BitVec.toNat_mul _ _
  have not (x : BitVec 64) : (~~~x).toNat = 2^64 - 1 - x.toNat := BitVec.toNat_not
  have none : (0 : BitVec 64).toNat = 0 := rfl
  have range := input.isLt
  unfold boothRecode
  dsimp only
  rw [masked_toNat _ _ (by decide)]
  refine ⟨Nat.mod_lt _ (by decide),?_⟩
  unfold signed at *
  generalize chunk.toNat = number at *
  interval_cases number
  all_goals
    simp only [digit,not,twice,none,Bool.toNat_true,Bool.toNat_false] at *
    split at means <;> split <;> omega

def CsaOutput.value (csa : CsaOutput) : Int := (csa.output.toNat % 2^33 : Nat) + signed 33 csa.carry.toNat

theorem bit_toNat (value : BitVec 64) (index : Nat) (inside : index < 64) : (bit value index).toNat = value.toNat / 2^index % 2 := by
  rw [ofNat_bit value inside,BitVec.getLsbD,Nat.testBit_eq_decide_div_mod_eq]
  rcases Nat.mod_two_eq_zero_or_one (value.toNat / 2^index) with even | odd
  · rw [even]; rfl
  · rw [odd]; rfl

theorem shiftRight_toNat (value : BitVec 64) (places : Nat) : (value >>> places).toNat = value.toNat / 2^places := by
  rw [BitVec.toNat_ushiftRight,Nat.shiftRight_eq_div_pow]

theorem beside {bits width : Nat} {low high : BitVec bits} (inside : low.toNat < 2^width) (fits : 2^width * high.toNat < 2^bits) :
    (low ||| high <<< width).toNat = low.toNat + 2^width * high.toNat := by
  rw [BitVec.toNat_or,BitVec.toNat_shiftLeft,Nat.shiftLeft_eq,mul_comm,Nat.mod_eq_of_lt fits,Nat.or_comm,
    ← Nat.two_pow_add_eq_or_of_lt inside,add_comm]

theorem signed33 (value : Nat) : signed 33 value = (value % 2^33 : Nat) - 2^33 * (value / 2^32 % 2 : Nat) := by
  unfold signed
  split <;> omega

theorem signed34 {value : Nat} (inside : value < 2^34) : signed 34 value = value - 2^34 * (value / 2^33 % 2 : Nat) := by
  unfold signed
  split <;> omega

theorem performCsa_value {a b c : BitVec 64} (one : a.toNat < 2^33) (two : b.toNat < 2^33) (three : c.toNat < 2^33) :
    let result := performCsa a b c
    result.output.toNat < 2^33 ∧ result.carry.toNat < 2^33 ∧ result.output.toNat + 2 * result.carry.toNat = a.toNat + b.toNat + c.toNat := by
  have sum := carrySave 33 a.toNat one b.toNat two c.toNat three
  unfold performCsa
  dsimp only
  rw [BitVec.toNat_xor,BitVec.toNat_xor,BitVec.toNat_or,BitVec.toNat_or,BitVec.toNat_and,BitVec.toNat_and,BitVec.toNat_and]
  refine ⟨Nat.xor_lt_two_pow (Nat.xor_lt_two_pow one two) three,?_,sum⟩
  exact Nat.or_lt_two_pow (Nat.or_lt_two_pow (Nat.and_lt_two_pow _ two) (Nat.and_lt_two_pow _ three)) (Nat.and_lt_two_pow _ one)

theorem quarter {s k p o b c : Nat} (sums : s < 2^33) (carries : k < 2^33) (total : s + 2 * k = o + b + c) {a0 a1 c32 r33 : Nat}
    (one : p < 2) (two : a0 < 2) (three : a1 < 2) (four : c32 < 2) (five : r33 < 2) :
    let output : Nat := s / 2^2 + 2^31 * (a0 + (1 - c32) + (1 - r33))
    let carry : Nat := (p + 2 * k) / 2^2 + 2^32 * (1 - a1)
    output < 2^33 ∧ carry < 2^33 ∧
      ((s % 2^2 : Nat) : Int) + ((p + 2 * k) % 2^2 : Nat) +
          4 * ((output % 2^33 : Nat) + ((carry % 2^33 : Nat) - 2^33 * (carry / 2^32 % 2 : Nat))) =
        o + (c - 2^33 * c32) + (b - 2^33 * r33 + p) + 2^33 * (a0 + 2 * a1) := by
  intro output carry
  have less : output < 2^33 := by omega
  have few : carry < 2^33 := by omega
  have front : carry / 2^32 % 2 = 1 - a1 := by omega
  refine ⟨less,few,?_⟩
  rw [Nat.mod_eq_of_lt less,Nat.mod_eq_of_lt few,front]
  omega

theorem boothStep_sums (multiplicand multiplier : BitVec 64) (cycle : BoothCycle) (i : Nat) {value : Int}
    (means : signed 34 multiplicand.toNat = value) (small : -2^32 ≤ value ∧ value < 2^32) :
    ∃ low high : BitVec 64, low.toNat < 4 ∧ high.toNat < 4 ∧
      let next := boothStep multiplicand multiplier cycle i
      next.finalCsaOutput.output = cycle.finalCsaOutput.output ||| low <<< (2 * i) ∧
      next.finalCsaOutput.carry = cycle.finalCsaOutput.carry ||| high <<< (2 * i) ∧
      next.csaOutput.output.toNat < 2^33 ∧ next.csaOutput.carry.toNat < 2^33 ∧
      next.accShiftRegister.toNat = cycle.accShiftRegister.toNat / 4 ∧
      low.toNat + high.toNat + 4 * CsaOutput.value next.csaOutput = CsaOutput.value cycle.csaOutput +
        digit (multiplier.toNat / 2^(2 * i) % 8) * value + 2^33 * (cycle.accShiftRegister.toNat % 4 : Nat) := by
  have chunk : ((multiplier >>> (2 * i)) &&& 7).toNat = multiplier.toNat / 2^(2 * i) % 8 := by
    rw [show (7 : BitVec 64) = bitMask 3 by decide,masked_toNat _ _ (by decide),shiftRight_toNat]
    rfl
  obtain ⟨narrow,recodes⟩ := boothRecode_value multiplicand ((multiplier >>> (2 * i)) &&& 7)
    (by rw [chunk]; exact Nat.mod_lt _ (by decide)) means small
  rw [chunk,signed34 narrow] at recodes
  unfold boothStep
  dsimp only
  generalize boothRecode multiplicand ((multiplier >>> (2 * i)) &&& 7) = recoded at *
  have o := masked_toNat cycle.csaOutput.output 33 (by decide)
  have c := masked_toNat cycle.csaOutput.carry 33 (by decide)
  have b := masked_toNat recoded.recodedOutput 33 (by decide)
  obtain ⟨sums,carries,total⟩ := performCsa_value (o.trans_lt (Nat.mod_lt _ (by decide))) (b.trans_lt (Nat.mod_lt _ (by decide)))
    (c.trans_lt (Nat.mod_lt _ (by decide)))
  have high := bit_toNat (cycle.csaOutput.carry &&& bitMask 33) 32 (by decide)
  have top := bit_toNat recoded.recodedOutput 33 (by decide)
  have acc0 := bit_toNat cycle.accShiftRegister 0 (by decide)
  have acc1 := bit_toNat cycle.accShiftRegister 1 (by decide)
  rw [o,b,c] at total
  rw [c] at high
  generalize performCsa _ _ _ = result at *
  generalize bit (cycle.csaOutput.carry &&& bitMask 33) 32 = c32 at *
  generalize bit recoded.recodedOutput 33 = r33 at *
  generalize bit cycle.accShiftRegister 0 = a0 at *
  generalize bit cycle.accShiftRegister 1 = a1 at *
  have bool (value : Bool) : value.toNat < 2 := Bool.toNat_lt value
  have moved : (result.carry <<< 1 ||| ofBool recoded.carry).toNat = recoded.carry.toNat + 2 * result.carry.toNat := by
    rw [BitVec.or_comm,beside (by rw [ofBool_toNat]; exact bool _) (by omega),ofBool_toNat,pow_one]
  generalize result.carry <<< 1 ||| ofBool recoded.carry = shifted at *
  have bits := And.intro (bool recoded.carry) (And.intro (bool a0) (And.intro (bool a1) (And.intro (bool c32) (bool r33))))
  have magic : (ofBool a0 + ofBool (!c32) + ofBool (!r33)).toNat = a0.toNat + (1 - c32.toNat) + (1 - r33.toNat) := by
    cases a0 <;> cases c32 <;> cases r33 <;> rfl
  have sign : (ofBool !a1).toNat = 1 - a1.toNat := by
    cases a1 <;> rfl
  have output := @beside 64 31 (result.output >>> 2) (ofBool a0 + ofBool (!c32) + ofBool (!r33))
    (by rw [shiftRight_toNat]; omega) (by rw [magic]; omega)
  have carry := @beside 64 32 (shifted >>> 2) (ofBool !a1)
    (by rw [shiftRight_toNat,moved]; omega) (by rw [sign]; omega)
  rw [shiftRight_toNat,magic] at output
  rw [shiftRight_toNat,sign,moved] at carry
  have three : (3 : BitVec 64) = bitMask 2 := by decide
  have low := masked_toNat result.output 2 (by decide)
  have low' := masked_toNat shifted 2 (by decide)
  rw [← three] at low low'
  obtain ⟨less,few,sums'⟩ := quarter sums carries total (bool recoded.carry) (bool a0) (bool a1) (bool c32) (bool r33)
  refine ⟨result.output &&& 3,shifted &&& 3,low.trans_lt (Nat.mod_lt _ (by decide)),low'.trans_lt (Nat.mod_lt _ (by decide)),rfl,rfl,
    output.trans_lt less,carry.trans_lt few,shiftRight_toNat _ 2,?_⟩
  rw [CsaOutput.value,CsaOutput.value,signed33,signed33,output,carry,low,low',moved]
  refine sums'.trans ?_
  clear magic sign output carry low low' moved less few sums' total
  generalize digit (multiplier.toNat / 2^(2 * i) % 8) * value = product at *
  have acc : cycle.accShiftRegister.toNat % 4 = a0.toNat + 2 * a1.toNat := by omega
  have whole : recoded.recodedOutput.toNat = recoded.recodedOutput.toNat % 2^33 + 2^33 * r33.toNat := by omega
  rw [acc,← recodes,← top,show cycle.csaOutput.carry.toNat / 2^32 % 2 = c32.toNat by omega]
  omega

theorem four_beside {l0 l1 l2 l3 : BitVec 64} (one : l0.toNat < 4) (two : l1.toNat < 4) (three : l2.toNat < 4) (four : l3.toNat < 4) :
    ((0 : BitVec 64) ||| l0 <<< (2 * 0) ||| l1 <<< (2 * 1) ||| l2 <<< (2 * 2) ||| l3 <<< (2 * 3)).toNat =
      l0.toNat + 4 * l1.toNat + 16 * l2.toNat + 64 * l3.toNat := by
  have first : ((0 : BitVec 64) ||| l0 <<< (2 * 0)).toNat = l0.toNat := by
    rw [mul_zero,BitVec.shiftLeft_zero,BitVec.ofNat_eq_ofNat,BitVec.zero_or]
  generalize (0 : BitVec 64) ||| l0 <<< (2 * 0) = w0 at *
  have second := @beside 64 (2 * 1) w0 l1 (by omega) (by omega)
  generalize w0 ||| l1 <<< (2 * 1) = w1 at *
  have third := @beside 64 (2 * 2) w1 l2 (by omega) (by omega)
  generalize w1 ||| l2 <<< (2 * 2) = w2 at *
  rw [@beside 64 (2 * 3) w2 l3 (by omega) (by omega)]
  omega

theorem digits (multiplier : Nat) :
    2 * (digit (multiplier / 2^(2 * 0) % 8) + 4 * digit (multiplier / 2^(2 * 1) % 8) + 16 * digit (multiplier / 2^(2 * 2) % 8) +
      64 * digit (multiplier / 2^(2 * 3) % 8)) = multiplier % 2 + multiplier % 2^8 - 2^8 * (multiplier / 2^8 % 2) := by
  unfold digit
  omega

theorem performBoothCycle_sums (previous : CsaOutput) (multiplicand multiplier accShiftRegister : BitVec 64) {value : Int}
    (means : signed 34 multiplicand.toNat = value) (small : -2^32 ≤ value ∧ value < 2^32) :
    ∃ (low high : Nat) (next : CsaOutput), low < 2^8 ∧ high < 2^8 ∧ next.output.toNat < 2^33 ∧ next.carry.toNat < 2^33 ∧
      let cycled := performBoothCycle previous multiplicand multiplier accShiftRegister
      cycled.1.output.toNat = low + 2^8 * next.output.toNat ∧ cycled.1.carry.toNat = high + 2^8 * next.carry.toNat ∧
      cycled.2.toNat = accShiftRegister.toNat / 2^8 ∧
      2 * (low + high + 2^8 * CsaOutput.value next) = 2 * CsaOutput.value previous +
        ((multiplier.toNat % 2 : Nat) + (multiplier.toNat % 2^8 : Nat) - 2^8 * (multiplier.toNat / 2^8 % 2 : Nat)) * value +
          2^34 * (accShiftRegister.toNat % 2^8 : Nat) := by
  rw [performBoothCycle]
  dsimp only [List.foldl]
  obtain ⟨l0,h0,ls0,hs0,fo0,fc0,_,_,acc0,sum0⟩ := boothStep_sums multiplicand multiplier ⟨previous,⟨0,0⟩,accShiftRegister⟩ 0 means small
  dsimp only at fo0 fc0 acc0 sum0
  generalize boothStep multiplicand multiplier ⟨previous,⟨0,0⟩,accShiftRegister⟩ 0 = c1 at *
  obtain ⟨l1,h1,ls1,hs1,fo1,fc1,_,_,acc1,sum1⟩ := boothStep_sums multiplicand multiplier c1 1 means small
  generalize boothStep multiplicand multiplier c1 1 = c2 at *
  obtain ⟨l2,h2,ls2,hs2,fo2,fc2,_,_,acc2,sum2⟩ := boothStep_sums multiplicand multiplier c2 2 means small
  generalize boothStep multiplicand multiplier c2 2 = c3 at *
  obtain ⟨l3,h3,ls3,hs3,fo3,fc3,less,few,acc3,sum3⟩ := boothStep_sums multiplicand multiplier c3 3 means small
  generalize boothStep multiplicand multiplier c3 3 = c4 at *
  have low : c4.finalCsaOutput.output.toNat = l0.toNat + 4 * l1.toNat + 16 * l2.toNat + 64 * l3.toNat := by
    rw [fo3,fo2,fo1,fo0]
    exact four_beside ls0 ls1 ls2 ls3
  have high : c4.finalCsaOutput.carry.toNat = h0.toNat + 4 * h1.toNat + 16 * h2.toNat + 64 * h3.toNat := by
    rw [fc3,fc2,fc1,fc0]
    exact four_beside hs0 hs1 hs2 hs3
  have output := @beside 64 8 c4.finalCsaOutput.output c4.csaOutput.output (by omega) (by omega)
  have carry := @beside 64 8 c4.finalCsaOutput.carry c4.csaOutput.carry (by omega) (by omega)
  refine ⟨c4.finalCsaOutput.output.toNat,c4.finalCsaOutput.carry.toNat,c4.csaOutput,by omega,by omega,less,few,output,carry,?_,?_⟩
  · rw [acc3,acc2,acc1,acc0]
    omega
  · have bits : accShiftRegister.toNat % 2^8 = accShiftRegister.toNat % 4 + 4 * (c1.accShiftRegister.toNat % 4) +
        16 * (c2.accShiftRegister.toNat % 4) + 64 * (c3.accShiftRegister.toNat % 4) := by
      rw [acc2,acc1,acc0]
      omega
    have product := congrArg (· * value) (digits multiplier.toNat)
    rw [low,high,bits]
    push_cast at *
    linear_combination 2 * sum0 + 8 * sum1 + 32 * sum2 + 128 * sum3 + product

theorem bitMask_toNat {bits : Nat} (narrow : bits ≤ 64) : (bitMask bits).toNat = 2^bits - 1 := by
  have all := masked_toNat (BitVec.allOnes 64) bits narrow
  have split : 2^64 = 2^bits * 2^(64 - bits) := by rw [← pow_add,Nat.add_sub_cancel' narrow]
  obtain ⟨rest,more⟩ := Nat.exists_eq_succ_of_ne_zero (Nat.two_pow_pos (64 - bits)).ne'
  have whole : 2^bits * 2^(64 - bits) - 1 = 2^bits - 1 + 2^bits * rest := by
    have positive := Nat.two_pow_pos bits
    rw [more,Nat.mul_succ]
    omega
  rw [BitVec.allOnes_and,BitVec.toNat_allOnes,split,whole,Nat.add_mul_mod_self_left] at all
  rwa [Nat.mod_eq_of_lt (Nat.sub_one_lt (Nat.two_pow_pos bits).ne')] at all

theorem signExtendWidth_toNat (value : BitVec 64) {few bits : Nat} (positive : 0 < few) (narrow : few ≤ bits) (word : bits ≤ 64) :
    (signExtendWidth value few bits).toNat =
      value.toNat % 2^few + (2^bits - 2^few) * (value.toNat / 2^(few - 1) % 2) := by
  have fits : 2^bits ≤ 2^64 := Nat.pow_le_pow_right (by decide) word
  have more : 2^few ≤ 2^bits := Nat.pow_le_pow_right (by decide) narrow
  have low := masked_toNat value few (narrow.trans word)
  have top := bit_toNat (value &&& bitMask few) (few - 1) (by omega)
  have kept : value.toNat % 2^few / 2^(few - 1) % 2 = value.toNat / 2^(few - 1) % 2 := by
    obtain ⟨some,rfl⟩ := Nat.exists_eq_succ_of_ne_zero positive.ne'
    rw [Nat.succ_sub_one,Nat.pow_succ,Nat.mod_mul_right_div_self,Nat.mod_mod]
  have high : bitMask bits &&& ~~~bitMask few = bitMask (bits - few) <<< few := by
    ext index inside
    rw [← BitVec.getLsbD_eq_getElem,← BitVec.getLsbD_eq_getElem,BitVec.getLsbD_and,BitVec.getLsbD_not,BitVec.getLsbD_shiftLeft,
      bitMask_getLsbD word,bitMask_getLsbD (narrow.trans word),bitMask_getLsbD (by omega)]
    simp only [inside,decide_true,Bool.true_and]
    by_cases under : index < few
    · simp [under]
    · simp [under]
      omega
  have ones := bitMask_toNat (show bits - few ≤ 64 by omega)
  rw [low,kept] at top
  unfold signExtendWidth
  dsimp only
  split
  · rename_i set
    rw [set] at top
    have whole : 2^few * (2^(bits - few) - 1) = 2^bits - 2^few := by
      rw [Nat.mul_sub_one,← pow_add,Nat.add_sub_cancel' narrow]
    rw [high,beside (by rw [low]; exact Nat.mod_lt _ (Nat.two_pow_pos few)) (by rw [ones,whole]; omega),low,ones,whole,← top,Bool.toNat_true,mul_one]
  · rename_i clear
    rw [Bool.eq_false_of_not_eq_true clear] at top
    rw [low,← top]
    rfl

theorem asrWidth_value (value : BitVec 64) :
    (asrWidth value 8 33).toNat < 2^33 ∧ signed 33 (asrWidth value 8 33).toNat = signed 33 value.toNat / 2^8 := by
  have wide := @signExtendWidth_toNat value 33 64 (by decide) (by decide) (by decide)
  have range := value.isLt
  rw [asrWidth,masked_toNat _ _ (by decide),BitVec.toNat_sshiftRight,BitVec.msb_eq_decide,wide]
  refine ⟨Nat.mod_lt _ (by decide),?_⟩
  rw [signed33,signed33]
  split
  · rename_i negative
    have negative := of_decide_eq_true negative
    rw [Nat.shiftRight_eq_div_pow]
    omega
  · rename_i positive
    have positive := of_decide_eq_false (Bool.eq_false_of_not_eq_true positive)
    rw [Nat.shiftRight_eq_div_pow]
    omega

end ZeffBoy.Gba.Multiplier
