import Mathlib

/-! Byte strings, fixed-width words in both byte orders, and slices.
A layout is a concatenation of pieces of known length. A slice steps over the
pieces in front of it, so reading a field of a layout is a matter of lengths. So are records of one width. -/
namespace ZeffBoy.Library
open List

abbrev Bytes := List UInt8

def leBytes : Nat → Nat → Bytes
  | 0, _ => []
  | width + 1, value => UInt8.ofNat value::leBytes width (value / 256)

def leValue : Bytes → Nat
  | [] => 0
  | byte::rest => byte.toNat + 256 * leValue rest

def beBytes (width value : Nat) : Bytes := (leBytes width value).reverse

def beValue (bytes : Bytes) : Nat := leValue bytes.reverse

def slice (bytes : Bytes) (start stop : Nat) : Bytes := (bytes.drop start).take (stop - start)

@[simp] theorem length_leBytes (width value : Nat) : (leBytes width value).length = width := by
  induction width generalizing value with
  | zero => rfl
  | succ width ih => simp [leBytes,ih]

@[simp] theorem length_beBytes (width value : Nat) : (beBytes width value).length = width := by
  simp [beBytes]

theorem leValue_leBytes_mod (width value : Nat) : leValue (leBytes width value) = value % 256^width := by
  induction width generalizing value with
  | zero => rw [pow_zero,Nat.mod_one,leBytes,leValue]
  | succ width ih =>
    have digit : (UInt8.ofNat value).toNat = value % 256 := UInt8.toNat_ofNat'
    rw [leBytes,leValue,ih,digit,pow_succ',Nat.mod_mul]

theorem leValue_leBytes (width value : Nat) (fits : value < 256^width) : leValue (leBytes width value) = value := by
  rw [leValue_leBytes_mod,Nat.mod_eq_of_lt fits]

theorem leBytes_leValue (bytes : Bytes) : leBytes bytes.length (leValue bytes) = bytes := by
  induction bytes with
  | nil => rfl
  | cons byte rest ih =>
    have low := byte.toNat_lt
    have quotient : (byte.toNat + 256 * leValue rest) / 256 = leValue rest := by omega
    have digit : UInt8.ofNat (byte.toNat + 256 * leValue rest) = byte := by
      apply UInt8.toNat_inj.mp
      rw [UInt8.toNat_ofNat']
      omega
    simp only [length_cons,leBytes,leValue,quotient,digit,ih]

theorem leValue_lt (bytes : Bytes) : leValue bytes < 256^bytes.length := by
  induction bytes with
  | nil => simp [leValue]
  | cons byte rest ih =>
    have low := byte.toNat_lt
    rw [length_cons,pow_succ]
    simp only [leValue]
    omega

theorem beValue_beBytes (width value : Nat) (fits : value < 256^width) : beValue (beBytes width value) = value := by
  rw [beValue,beBytes,reverse_reverse,leValue_leBytes width value fits]

@[simp] theorem beValue_word64 (value : Nat) (fits : value < 2^64) : beValue (beBytes 8 value) = value :=
  beValue_beBytes 8 value fits

@[simp] theorem beValue_word16 (value : UInt16) : UInt16.ofNat (beValue (beBytes 2 value.toNat)) = value := by
  rw [beValue_beBytes 2 _ value.toNat_lt]
  exact UInt16.ofNat_toNat

theorem drop_skip (front rest : Bytes) (count : Nat) (past : front.length ≤ count) :
    (front ++ rest).drop count = rest.drop (count - front.length) := by
  rw [drop_append,drop_eq_nil_of_le past,nil_append]

theorem slice_skip (front rest : Bytes) (start stop : Nat) (past : front.length ≤ start) :
    slice (front ++ rest) start stop = slice rest (start - front.length) (stop - front.length) := by
  have span : stop - start = stop - front.length - (start - front.length) := by omega
  rw [slice,slice,drop_skip front rest start past,span]

theorem slice_front (front rest : Bytes) (stop : Nat) (whole : front.length = stop) :
    slice (front ++ rest) 0 stop = front := by
  subst whole
  simp [slice]

theorem slice_all (bytes : Bytes) (stop : Nat) (whole : bytes.length = stop) : slice bytes 0 stop = bytes := by
  subst whole
  simp [slice]

theorem slice_cons_skip (byte : UInt8) (rest : Bytes) (start stop : Nat) (past : 1 ≤ start) :
    slice (byte::rest) start stop = slice rest (start - 1) (stop - 1) :=
  slice_skip [byte] rest start stop past

theorem length_slice (bytes : Bytes) (start stop : Nat) (inside : stop ≤ bytes.length) :
    (slice bytes start stop).length = stop - start := by
  rw [slice,length_take,length_drop]
  omega

-- Indexing; the program checks the length first.
def byteAt (bytes : Bytes) (index : Nat) : UInt8 := bytes.getD index 0

theorem byteAt_skip {front rest : Bytes} {index : Nat} (past : front.length ≤ index) :
    byteAt (front ++ rest) index = byteAt rest (index - front.length) := by
  rw [byteAt,byteAt,getD_eq_getElem?_getD,List.getElem?_append_right past,getD_eq_getElem?_getD]

theorem byteAt_cons_skip (byte : UInt8) (rest : Bytes) (index : Nat) (past : 1 ≤ index) :
    byteAt (byte::rest) index = byteAt rest (index - 1) :=
  @byteAt_skip [byte] rest index past

@[simp] theorem byteAt_zero (byte : UInt8) (rest : Bytes) : byteAt (byte::rest) 0 = byte := rfl

def utf8 (text : String) : Bytes := text.toByteArray.data.toList

def fromUtf8 (bytes : Bytes) : Option String := String.fromUTF8? ⟨bytes.toArray⟩

@[simp] theorem fromUtf8_utf8 (text : String) : fromUtf8 (utf8 text) = some text := by
  rw [fromUtf8,utf8,Array.toArray_toList,String.fromUTF8?,dif_pos text.isValidUTF8]
  rfl

variable {α : Type}

theorem slice_flatMap {encode : α → Bytes} {width : Nat} (wide : ∀ value, (encode value).length = width) (values : List α)
    (index : Nat) (inside : index < values.length) (rest : Bytes) :
    slice (values.flatMap encode ++ rest) (index * width) (index * width + width) = encode values[index] := by
  induction values generalizing index with
  | nil => exact absurd inside (Nat.not_lt_zero _)
  | cons value values ih =>
    rw [flatMap_cons,append_assoc]
    cases index with
    | zero =>
      rw [zero_mul,zero_add]
      exact slice_front _ _ _ (wide value)
    | succ index =>
      have later := ih index (Nat.lt_of_succ_lt_succ inside)
      have past : (encode value).length ≤ (index + 1) * width := by
        rw [wide,Nat.succ_mul]
        omega
      rw [slice_skip _ _ _ _ past,wide,Nat.succ_mul,Nat.add_sub_cancel,getElem_cons_succ,← later]
      congr 1
      omega

end ZeffBoy.Library
