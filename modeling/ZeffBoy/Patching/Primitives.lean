import ZeffBoy.Patching.Formats

/-! What the patch formats share: their integers and the checksums at their end.
An integer has seven bits in a byte, the lowest first, and every further byte adds one to what it stands for, so that each
integer has one encoding. The decoder reads the value modulo 2^64. -/
namespace ZeffBoy.Patching
open Library List

/-- The value of the bytes up to the first one with the top bit, or to the end. -/
def varintTotal : Bytes → Nat
  | [] => 0
  | byte::rest => if 0x80 ≤ byte then byte.toNat - 0x80 else byte.toNat + 128 * (varintTotal rest + 1)

def varintLength : Bytes → Option Nat
  | [] => none
  | byte::rest => if 0x80 ≤ byte then some 1 else (varintLength rest).map (· + 1)

def encodedVarint (data : Bytes) : Option (Nat × Nat) := (varintLength data).map (varintTotal data,·)

def encodeVarint (value : UInt64) : Bytes :=
  let byte := (value &&& 0x7F).toUInt8
  let rest := value >>> 7
  if rest = 0 then [byte ||| 0x80] else byte::encodeVarint (rest - 1)
termination_by value.toNat
decreasing_by
  have some : rest.toNat ≠ 0 := fun zero => by
    apply ‹rest ≠ 0›
    exact UInt64.toNat_inj.mp zero
  have quotient : rest.toNat = value.toNat / 128 := by
    rw [show rest = value >>> 7 from rfl,UInt64.toNat_shiftRight]
    simp [Nat.shiftRight_eq_div_pow]
  have less := UInt64.toNat_sub_of_le rest 1 (by rw [UInt64.le_iff_toNat_le]; exact Nat.one_le_iff_ne_zero.mpr some)
  have one : (1 : UInt64).toNat = 1 := rfl
  change (rest - 1).toNat < value.toNat
  omega

def fit (value : Nat) : Option Nat := if value < 2^64 then some value else none

/-- The decoder with every operation checked; there is no result where one of them leaves 64 bits. -/
def decodeVarintChecked (data : Bytes) (label : String) (pos result shift : Nat) : Option (Except String (Nat × Nat)) :=
  if data.length ≤ pos then some (.error s!"{label} varint truncated")
  else do
    let byte := (byteAt data pos).toUInt64
    let product ← fit ((byte &&& 0x7F).toNat * shift)
    let sum ← fit (result + product)
    if byte &&& 0x80 ≠ 0 then some (.ok (sum,pos + 1))
    else do
      let shift ← fit (shift <<< 7)
      let sum ← fit (sum + shift)
      decodeVarintChecked data label (pos + 1) sum shift
termination_by data.length - pos

theorem low_bits (byte : UInt8) : byte.toUInt64 &&& 0x7F = UInt64.ofNat (byte.toNat % 128) := by
  apply UInt64.toNat_inj.mp
  rw [UInt64.toNat_and,UInt64.toNat_ofNat',UInt8.toNat_toUInt64]
  have mask : byte.toNat &&& (0x7F : UInt64).toNat = byte.toNat % 128 := Nat.and_two_pow_sub_one_eq_mod byte.toNat 7
  rw [mask]
  have bound := byte.toNat_lt
  omega

theorem top_bit (byte : UInt8) : byte.toUInt64 &&& 0x80 ≠ 0 ↔ 0x80 ≤ byte := by
  have every : ∀ value : Fin 256, (UInt8.ofNat value).toUInt64 &&& 0x80 ≠ 0 ↔ 0x80 ≤ UInt8.ofNat value := by decide +kernel
  have here := every ⟨byte.toNat,byte.toNat_lt⟩
  simpa using here

theorem drop_at {data : Bytes} {pos : Nat} (inside : ¬data.length ≤ pos) :
    data.drop pos = byteAt data pos::data.drop (pos + 1) := by
  rw [drop_eq_getElem_cons (by omega),byteAt,getD_eq_getElem?_getD,List.getElem?_eq_getElem (by omega)]
  rfl

theorem byteAt_of_drop {data rest : Bytes} {pos : Nat} {byte : UInt8} (layout : data.drop pos = byte::rest) :
    byteAt data pos = byte ∧ data.drop (pos + 1) = rest := by
  have inside : ¬data.length ≤ pos := fun short => by
    rw [drop_eq_nil_of_le short] at layout
    cases layout
  rw [drop_at inside] at layout
  exact List.cons.inj layout

theorem varintTotal_last {byte : UInt8} (rest : Bytes) (last : byte.toUInt64 &&& 0x80 ≠ 0) :
    varintTotal (byte::rest) = byte.toNat % 128 ∧ varintLength (byte::rest) = some 1 := by
  have high := (top_bit byte).mp last
  have bound := byte.toNat_lt
  rw [UInt8.le_iff_toNat_le] at high
  have value : (0x80 : UInt8).toNat = 128 := rfl
  rw [varintTotal,varintLength,if_pos ((top_bit byte).mp last),if_pos ((top_bit byte).mp last)]
  exact ⟨by omega,rfl⟩

theorem varintTotal_more {byte : UInt8} (rest : Bytes) (more : ¬byte.toUInt64 &&& 0x80 ≠ 0) :
    varintTotal (byte::rest) = byte.toNat % 128 + 128 * (varintTotal rest + 1) ∧
      varintLength (byte::rest) = (varintLength rest).map (· + 1) := by
  have low := mt (top_bit byte).mpr more
  rw [varintTotal,varintLength,if_neg low,if_neg low]
  rw [UInt8.le_iff_toNat_le] at low
  have value : (0x80 : UInt8).toNat = 128 := rfl
  exact ⟨by omega,rfl⟩

def varintOutcome (label : String) (pos value : Nat) (length : Option Nat) : Except String (Nat × Nat) :=
  match length with
  | none => .error s!"{label} varint truncated"
  | some length => .ok (value,pos + length)

theorem varintOutcome_next (label : String) (pos value : Nat) (length : Option Nat) :
    varintOutcome label pos value (length.map (· + 1)) = varintOutcome label (pos + 1) value length := by
  cases length with
  | none => rfl
  | some length =>
    have next : pos + (length + 1) = pos + 1 + length := by omega
    exact congrArg (fun next => Except.ok (value,next)) next

theorem decodeVarint_eq (data : Bytes) (label : String) (pos : Nat) (result shift : UInt64) :
    decodeVarint data label pos result shift =
      varintOutcome label pos (result + UInt64.ofNat (varintTotal (data.drop pos)) * shift).toNat
        (varintLength (data.drop pos)) := by
  fun_induction decodeVarint data label pos result shift with
  | case1 pos result shift short =>
    rw [drop_eq_nil_of_le short]
    rfl
  | case2 pos result shift inside byte sum last =>
    obtain ⟨total,length⟩ := varintTotal_last (data.drop (pos + 1)) last
    rw [drop_at inside,total,length,← low_bits]
    rfl
  | case3 pos result shift inside byte sum more ih =>
    obtain ⟨total,length⟩ := varintTotal_more (data.drop (pos + 1)) more
    rw [ih,drop_at inside,total,length,varintOutcome_next,UInt64.ofNat_add,UInt64.ofNat_mul,UInt64.ofNat_add,← low_bits]
    have shifted : shift <<< 7 = shift * 128 := by
      apply UInt64.toNat_inj.mp
      rw [UInt64.toNat_shiftLeft,UInt64.toNat_mul,Nat.shiftLeft_eq]
      rfl
    have same : sum + shift <<< 7 + UInt64.ofNat (varintTotal (data.drop (pos + 1))) * shift <<< 7 =
        result + (((byteAt data pos).toUInt64 &&& 127) + UInt64.ofNat 128 *
          (UInt64.ofNat (varintTotal (data.drop (pos + 1))) + UInt64.ofNat 1)) * shift := by
      rw [shifted]
      have scale : UInt64.ofNat 128 = 128 := rfl
      have one : UInt64.ofNat 1 = 1 := rfl
      rw [scale,one]
      generalize UInt64.ofNat (varintTotal (data.drop (pos + 1))) = higher
      change result + (byte &&& 127) * shift + shift * 128 + higher * (shift * 128) = _
      change _ = result + ((byte &&& 127) + 128 * (higher + 1)) * shift
      generalize byte &&& 127 = digit
      grind
    rw [same]

theorem readVarint_eq (data : Bytes) (label : String) (pos : Nat) : readVarint data label pos =
    varintOutcome label pos (varintTotal (data.drop pos) % 2^64) (varintLength (data.drop pos)) := by
  have value : (0 + UInt64.ofNat (varintTotal (data.drop pos)) * 1).toNat = varintTotal (data.drop pos) % 2^64 := by
    rw [UInt64.mul_one,UInt64.zero_add,UInt64.toNat_ofNat']
  rw [readVarint,decodeVarint_eq,value]

theorem fit_bind {α : Type} (value : Nat) (next : Nat → Option α) :
    (fit value >>= next) = if value < 2^64 then next value else none := by
  unfold fit
  split
  · rfl
  · rfl

theorem decodeVarintChecked_eq (data : Bytes) (label : String) (pos result shift : Nat) (start : result < 2^64)
    (positive : 0 < shift) : decodeVarintChecked data label pos result shift =
      if result + varintTotal (data.drop pos) * shift < 2^64 then
        some (varintOutcome label pos (result + varintTotal (data.drop pos) * shift) (varintLength (data.drop pos)))
      else none := by
  fun_induction decodeVarintChecked data label pos result shift with
  | case1 pos result shift short =>
    rw [drop_eq_nil_of_le short,varintTotal,zero_mul,add_zero,if_pos start]
    rfl
  | case2 pos result shift inside byte ih =>
    have digit : (byte &&& 0x7F).toNat = (byteAt data pos).toNat % 128 := by
      rw [show byte = (byteAt data pos).toUInt64 from rfl,low_bits,UInt64.toNat_ofNat']
      omega
    rw [fit_bind,fit_bind,drop_at inside,digit]
    by_cases last : byte &&& 0x80 ≠ 0
    · obtain ⟨total,length⟩ := varintTotal_last (data.drop (pos + 1)) last
      rw [if_pos last,total,length]
      by_cases fits : result + (byteAt data pos).toNat % 128 * shift < 2^64
      · rw [if_pos (by omega),if_pos fits,if_pos fits]
        rfl
      · rw [if_neg fits,if_neg fits,ite_self]
    · obtain ⟨total,length⟩ := varintTotal_more (data.drop (pos + 1)) last
      have further : result + ((byteAt data pos).toNat % 128 + 128 * (varintTotal (data.drop (pos + 1)) + 1)) * shift =
          result + (byteAt data pos).toNat % 128 * shift + shift <<< 7 +
            varintTotal (data.drop (pos + 1)) * shift <<< 7 := by
        rw [Nat.shiftLeft_eq]
        ring
      rw [if_neg last,total,length,varintOutcome_next,further,fit_bind,fit_bind]
      by_cases fits : result + (byteAt data pos).toNat % 128 * shift + shift <<< 7 < 2^64
      · have shifted : shift <<< 7 = shift * 2^7 := Nat.shiftLeft_eq shift 7
        rw [if_pos (by omega),if_pos (by omega),if_pos (by omega),if_pos fits]
        exact ih _ _ fits (by omega)
      · rw [if_neg fits,ite_self,ite_self,ite_self,if_neg (by omega)]

theorem toNat_shiftRight_seven (value : UInt64) : (value >>> 7).toNat = value.toNat / 128 := by
  rw [UInt64.toNat_shiftRight]
  exact Nat.shiftRight_eq_div_pow value.toNat 7

theorem toNat_and_seven (value : UInt64) : (value &&& 0x7F).toUInt8.toNat = value.toNat % 128 := by
  rw [UInt64.toNat_toUInt8,UInt64.toNat_and]
  have mask : value.toNat &&& (0x7F : UInt64).toNat = value.toNat % 128 := Nat.and_two_pow_sub_one_eq_mod value.toNat 7
  rw [mask]
  omega

theorem toNat_or_top (byte : UInt8) (low : byte.toNat < 128) : (byte ||| 0x80).toNat = byte.toNat + 128 := by
  rw [UInt8.toNat_or,Nat.or_comm]
  exact (Nat.two_pow_add_eq_or_of_lt (i := 7) low 1).symm.trans (add_comm 128 byte.toNat)

theorem encodedVarint_encodeVarint (value : UInt64) (rest : Bytes) :
    encodedVarint (encodeVarint value ++ rest) = some (value.toNat,(encodeVarint value).length) := by
  fun_induction encodeVarint value with
  | case1 value byte quotient last =>
    have zero := congrArg UInt64.toNat last
    rw [show quotient = value >>> 7 from rfl,toNat_shiftRight_seven] at zero
    have digit := toNat_and_seven value
    have value' : (byte ||| 0x80).toNat = value.toNat + 128 := by
      rw [toNat_or_top _ (by change (value &&& 0x7F).toUInt8.toNat < 128; omega)]
      change (value &&& 0x7F).toUInt8.toNat + 128 = _
      change _ = 0 at zero
      omega
    have high : 0x80 ≤ byte ||| 0x80 := by
      rw [UInt8.le_iff_toNat_le,value']
      exact Nat.le_add_left 128 value.toNat
    have back : value.toNat + 128 - 0x80 = value.toNat := by omega
    rw [singleton_append,encodedVarint,varintTotal,varintLength,if_pos high,if_pos high,value',back]
    rfl
  | case2 value byte quotient more ih =>
    have digit : byte.toNat = value.toNat % 128 := toNat_and_seven value
    have positive : 1 ≤ quotient.toNat := by
      apply Nat.one_le_iff_ne_zero.mpr
      intro zero
      exact more (UInt64.toNat_inj.mp zero)
    have less := UInt64.toNat_sub_of_le quotient 1 (UInt64.le_iff_toNat_le.mpr positive)
    have one : (1 : UInt64).toNat = 1 := rfl
    have shifted : quotient.toNat = value.toNat / 128 := toNat_shiftRight_seven value
    have low : ¬0x80 ≤ byte := by
      rw [UInt8.le_iff_toNat_le,digit]
      have limit : (0x80 : UInt8).toNat = 128 := rfl
      omega
    rw [encodedVarint,Option.map_eq_some_iff] at ih
    obtain ⟨length,found,pair⟩ := ih
    obtain ⟨total,rfl⟩ := Prod.mk.inj pair
    rw [cons_append,encodedVarint,varintTotal,varintLength,if_neg low,if_neg low,found,total,digit,less,one,shifted]
    have whole : value.toNat % 128 + 128 * (value.toNat / 128 - 1 + 1) = value.toNat := by omega
    rw [whole]
    rfl

theorem length_encodeVarint_le (more : Nat) (value : UInt64) (bound : value.toNat < 128^(more + 1)) :
    (encodeVarint value).length ≤ more + 1 := by
  induction more generalizing value with
  | zero =>
    have zero : value >>> 7 = 0 := by
      apply UInt64.toNat_inj.mp
      rw [toNat_shiftRight_seven]
      exact Nat.div_eq_of_lt (by simpa using bound)
    rw [encodeVarint,if_pos zero]
    exact le_rfl
  | succ more ih =>
    rw [encodeVarint]
    split
    · exact Nat.succ_le_succ zero_le
    · rename_i some
      have positive : 1 ≤ (value >>> 7).toNat := by
        apply Nat.one_le_iff_ne_zero.mpr
        intro zero
        exact some (UInt64.toNat_inj.mp zero)
      have less := UInt64.toNat_sub_of_le (value >>> 7) 1 (UInt64.le_iff_toNat_le.mpr positive)
      rw [toNat_shiftRight_seven] at less
      rw [length_cons]
      apply Nat.succ_le_succ
      apply ih
      rw [pow_succ] at bound
      rw [less]
      have quotient := Nat.div_lt_of_lt_mul (mul_comm _ 128 ▸ bound)
      omega

theorem length_encodeVarint (value : UInt64) : (encodeVarint value).length ≤ 10 := by
  apply length_encodeVarint_le 9 value
  exact value.toNat_lt.trans_le (by norm_num)

theorem readVarint_of_encoded {data : Bytes} {label : String} {pos value length : Nat}
    (read : encodedVarint (data.drop pos) = some (value,length)) (fits : value < 2^64) :
    readVarint data label pos = .ok (value,pos + length) := by
  rw [encodedVarint,Option.map_eq_some_iff] at read
  obtain ⟨length',found,pair⟩ := read
  obtain ⟨total,rfl⟩ := Prod.mk.inj pair
  rw [readVarint_eq,total,found,Nat.mod_eq_of_lt fits]
  rfl

theorem readVarint_encodeVarint (front rest : Bytes) (label : String) (value : UInt64) :
    readVarint (front ++ (encodeVarint value ++ rest)) label front.length =
      .ok (value.toNat,front.length + (encodeVarint value).length) := by
  apply readVarint_of_encoded _ value.toNat_lt
  rw [drop_left]
  exact encodedVarint_encodeVarint value rest

/-- The value at the position is read as it is, if it is read, and no operation on the way leaves 64 bits. -/
def DecodesExactly (data : Bytes) (label : String) (pos : Nat) : Prop :=
  (∀ value next, readVarint data label pos = .ok (value,next) →
    ∃ length, encodedVarint (data.drop pos) = some (value,length) ∧ next = pos + length) ∧
  decodeVarintChecked data label pos 0 1 ≠ none

theorem decodesExactly_iff (data : Bytes) (label : String) (pos : Nat) :
    DecodesExactly data label pos ↔ varintTotal (data.drop pos) < 2^64 := by
  have checked := decodeVarintChecked_eq data label pos 0 1 (by decide) Nat.one_pos
  rw [zero_add,mul_one] at checked
  constructor
  · rintro ⟨_,inside⟩
    rw [checked] at inside
    by_contra large
    exact inside (if_neg large)
  · intro fits
    refine ⟨?_,by rw [checked,if_pos fits]; exact Option.some_ne_none _⟩
    intro value next read
    rw [readVarint_eq,Nat.mod_eq_of_lt fits] at read
    cases found : varintLength (data.drop pos) with
    | none =>
      rw [found] at read
      cases read
    | some length =>
      rw [found] at read
      cases read
      exact ⟨length,by rw [encodedVarint,found]; rfl,rfl⟩

/-- The decoder is exact where the value fits 64 bits, and undoes the encoder. -/
theorem readVarint_exact (data front rest : Bytes) (label : String) (pos : Nat) (value : UInt64) :
    (DecodesExactly data label pos ↔ varintTotal (data.drop pos) < 2^64) ∧
      readVarint (front ++ (encodeVarint value ++ rest)) label front.length =
        .ok (value.toNat,front.length + (encodeVarint value).length) :=
  ⟨decodesExactly_iff data label pos,readVarint_encodeVarint front rest label value⟩

theorem readVarint_tenZeros : ¬DecodesExactly (List.replicate 10 0 ++ [0x80]) "UPS" 0 := by
  rw [decodesExactly_iff]
  decide

section Crc32

def crc32Step (crc : UInt32) : UInt32 := if crc &&& 1 ≠ 0 then crc >>> 1 ^^^ 0xEDB88320 else crc >>> 1

def crc32Byte (crc : UInt32) (byte : UInt8) : UInt32 := crc32Step^[8] (crc ^^^ byte.toUInt32)

def crc32 (bytes : Bytes) : UInt32 := ~~~(bytes.foldl crc32Byte 0xFFFFFFFF)

example : crc32 (utf8 "123456789") = 0xCBF43926 := by decide +kernel

def checksumOnly : Codecs := ⟨crc32,fun _ _ => .error "",fun _ _ => .error ""⟩

end Crc32

def appendPatchCrcs (codecs : Codecs) (patch source target : Bytes) : Bytes :=
  let patch := patch ++ leBytes 4 (codecs.crc32 source).toNat
  let patch := patch ++ leBytes 4 (codecs.crc32 target).toNat
  patch ++ leBytes 4 (codecs.crc32 patch).toNat

theorem appendPatchCrcs_eq (codecs : Codecs) (patch source target : Bytes) :
    ∃ crc : UInt32, appendPatchCrcs codecs patch source target = patch ++ (leBytes 4 (codecs.crc32 source).toNat ++
      (leBytes 4 (codecs.crc32 target).toNat ++ leBytes 4 crc.toNat)) :=
  ⟨codecs.crc32 (patch ++ leBytes 4 (codecs.crc32 source).toNat ++ leBytes 4 (codecs.crc32 target).toNat),by
    simp only [appendPatchCrcs,append_assoc]⟩

theorem length_appendPatchCrcs (codecs : Codecs) (patch source target : Bytes) :
    (appendPatchCrcs codecs patch source target).length = patch.length + 12 := by
  obtain ⟨crc,layout⟩ := appendPatchCrcs_eq codecs patch source target
  simp [layout]

theorem leValue_crc (crc : UInt32) : leValue (leBytes 4 crc.toNat) = crc.toNat :=
  leValue_leBytes 4 _ crc.toNat_lt

theorem verifyPatchCrcs_append (codecs : Codecs) (patch source target : Bytes) (label : String) :
    verifyPatchCrcs codecs (appendPatchCrcs codecs patch source target) source label = .ok () := by
  have length := length_appendPatchCrcs codecs patch source target
  have patchCrc : readU32Le (appendPatchCrcs codecs patch source target) (patch.length + 12 - 4) =
      (codecs.crc32 (slice (appendPatchCrcs codecs patch source target) 0 (patch.length + 12 - 4))).toNat := by
    rw [readU32Le,appendPatchCrcs,slice_front _ _ _ (by simp)]
    have last := slice_at (patch ++ leBytes 4 (codecs.crc32 source).toNat ++ leBytes 4 (codecs.crc32 target).toNat)
      (leBytes 4 (codecs.crc32 (patch ++ leBytes 4 (codecs.crc32 source).toNat ++
        leBytes 4 (codecs.crc32 target).toNat)).toNat) [] (patch.length + 12 - 4) (patch.length + 12 - 4 + 4)
      (by simp) (by simp)
    rw [append_nil] at last
    rw [last,leValue_crc]
  have sourceCrc : readU32Le (appendPatchCrcs codecs patch source target) (patch.length + 12 - 12) =
      (codecs.crc32 source).toNat := by
    obtain ⟨crc,layout⟩ := appendPatchCrcs_eq codecs patch source target
    rw [readU32Le,Nat.add_sub_cancel,layout,slice_at patch (leBytes 4 (codecs.crc32 source).toNat) _ _ _ rfl
      (by rw [length_leBytes]),leValue_crc]
  simp only [verifyPatchCrcs,length]
  rw [patchCrc,sourceCrc,ensure_pos rfl,ensure_pos rfl]
  rfl

theorem verifyTargetCrc_append (codecs : Codecs) (patch source target : Bytes) (label : String) :
    verifyTargetCrc codecs (appendPatchCrcs codecs patch source target) target label = .ok () := by
  have length := length_appendPatchCrcs codecs patch source target
  obtain ⟨crc,layout⟩ := appendPatchCrcs_eq codecs patch source target
  have targetCrc : readU32Le (appendPatchCrcs codecs patch source target) (patch.length + 12 - 8) =
      (codecs.crc32 target).toNat := by
    rw [readU32Le,layout,← append_assoc,slice_at _ (leBytes 4 (codecs.crc32 target).toNat) _ _ _ (by simp) (by simp),
      leValue_crc]
  simp only [verifyTargetCrc,length]
  rw [targetCrc,ensure_pos rfl]

theorem appendPatchCrcs_reads (codecs : Codecs) (patch source target : Bytes) (label : String) : ∃ rest,
    appendPatchCrcs codecs patch source target = patch ++ rest ∧
      (appendPatchCrcs codecs patch source target).length = patch.length + 12 ∧
      verifyPatchCrcs codecs (appendPatchCrcs codecs patch source target) source label = .ok () ∧
      verifyTargetCrc codecs (appendPatchCrcs codecs patch source target) target label = .ok () := by
  obtain ⟨crc,layout⟩ := appendPatchCrcs_eq codecs patch source target
  exact ⟨_,layout,length_appendPatchCrcs codecs patch source target,verifyPatchCrcs_append codecs patch source target label,
    verifyTargetCrc_append codecs patch source target label⟩

theorem toNat_ofNat_length {bytes : Bytes} (fits : bytes.length < 2^63) :
    (UInt64.ofNat bytes.length).toNat = bytes.length := by
  rw [UInt64.toNat_ofNat']
  omega

end ZeffBoy.Patching
