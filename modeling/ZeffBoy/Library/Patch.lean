import ZeffBoy.Library.Bytes

/-! Byte strings that are changed in place: a piece is overwritten, or cut out.
As with slices, a change steps over the pieces of a layout that lie in front of it. -/
namespace ZeffBoy.Library
open List

def overwrite (bytes : Bytes) (start : Nat) (data : Bytes) : Bytes :=
  bytes.take start ++ (data ++ bytes.drop (start + data.length))

def cut (bytes : Bytes) (start stop : Nat) : Bytes := bytes.take start ++ bytes.drop stop

theorem length_overwrite (bytes : Bytes) (start : Nat) (data : Bytes) (inside : start + data.length ≤ bytes.length) :
    (overwrite bytes start data).length = bytes.length := by
  rw [overwrite,length_append,length_append,length_take,length_drop]
  omega

theorem length_cut (bytes : Bytes) (start stop : Nat) (ordered : start ≤ stop) (inside : stop ≤ bytes.length) :
    (cut bytes start stop).length = bytes.length - (stop - start) := by
  rw [cut,length_append,length_take,length_drop]
  omega

theorem take_skip (front rest : Bytes) (count : Nat) (past : front.length ≤ count) :
    (front ++ rest).take count = front ++ rest.take (count - front.length) := by
  rw [take_append,take_of_length_le past]

theorem overwrite_skip (front rest : Bytes) (start : Nat) (data : Bytes) (past : front.length ≤ start) :
    overwrite (front ++ rest) start data = front ++ overwrite rest (start - front.length) data := by
  have span : start + data.length - front.length = start - front.length + data.length := by omega
  rw [overwrite,overwrite,take_skip front rest start past,drop_skip front rest _ (by omega),span,append_assoc]

theorem overwrite_front (old rest data : Bytes) (same : old.length = data.length) :
    overwrite (old ++ rest) 0 data = data ++ rest := by
  rw [overwrite,take_zero,nil_append,zero_add,← same,drop_left]

theorem overwrite_at (front old rest : Bytes) (start : Nat) (data : Bytes) (here : front.length = start)
    (same : old.length = data.length) : overwrite (front ++ (old ++ rest)) start data = front ++ (data ++ rest) := by
  subst here
  rw [overwrite_skip front _ _ data le_rfl,Nat.sub_self,overwrite_front old rest data same]

theorem cut_at (front middle rest : Bytes) (start stop : Nat) (here : front.length = start)
    (there : start + middle.length = stop) : cut (front ++ (middle ++ rest)) start stop = front ++ rest := by
  subst here
  subst there
  rw [cut,take_left,← append_assoc,drop_left' length_append]

theorem slice_at (front data rest : Bytes) (start stop : Nat) (here : front.length = start)
    (there : start + data.length = stop) : slice (front ++ (data ++ rest)) start stop = data := by
  rw [slice_skip front _ start stop here.le,here,Nat.sub_self,slice_front data rest _ (by omega)]

theorem slice_append_front {front rest : Bytes} {start stop : Nat} (inside : stop ≤ front.length) :
    slice (front ++ rest) start stop = slice front start stop := by
  unfold slice
  by_cases ordered : start ≤ front.length
  · rw [drop_append_of_le_length ordered,take_append_of_le_length (by rw [length_drop]; omega)]
  · rw [show stop - start = 0 by omega,take_zero,take_zero]

theorem slice_split (bytes : Bytes) {start middle stop : Nat} (first : start ≤ middle) (second : middle ≤ stop) :
    slice bytes start middle ++ slice bytes middle stop = slice bytes start stop := by
  have whole : stop - start = (middle - start) + (stop - middle) := by omega
  have place : start + (middle - start) = middle := by omega
  unfold slice
  rw [whole,take_add,drop_drop,place]

theorem slice_empty (bytes : Bytes) (start : Nat) : slice bytes start start = [] := by
  rw [slice,Nat.sub_self,take_zero]

theorem slice_append_drop (bytes : Bytes) {start stop : Nat} (ordered : start ≤ stop) :
    bytes.drop start = slice bytes start stop ++ bytes.drop stop := by
  have place : stop = start + (stop - start) := by omega
  rw [slice,place,← drop_drop,Nat.add_sub_cancel_left,take_append_drop]

theorem slice_drop (bytes : Bytes) (offset start stop : Nat) :
    slice (bytes.drop offset) start stop = slice bytes (offset + start) (offset + stop) := by
  rw [slice,slice,drop_drop,Nat.add_sub_add_left]

theorem slice_slice (bytes : Bytes) {start stop first last : Nat} (inside : start + last ≤ stop) :
    slice (slice bytes start stop) first last = slice bytes (start + first) (start + last) := by
  rw [slice,slice,slice,drop_take,drop_drop,take_take]
  congr 1
  omega

theorem overwrite_empty (bytes : Bytes) (start : Nat) : overwrite bytes start [] = bytes := by
  rw [overwrite,length_nil,nil_append,add_zero,take_append_drop]

theorem overwrite_append_front {front rest data : Bytes} {start : Nat} (inside : start + data.length ≤ front.length) :
    overwrite (front ++ rest) start data = overwrite front start data ++ rest := by
  rw [overwrite,overwrite,take_append_of_le_length (by omega),drop_append_of_le_length inside]
  simp only [append_assoc]

theorem overwrite_append {front rest data more : Bytes} {start : Nat} (here : start + data.length = front.length) :
    overwrite (front ++ rest) start (data ++ more) = overwrite front start data ++ overwrite rest 0 more := by
  rw [overwrite,overwrite,overwrite,length_append,← add_assoc,here,take_append_of_le_length (by omega),
    drop_length,take_zero,zero_add,drop_skip front rest _ (Nat.le_add_right _ _),Nat.add_sub_cancel_left]
  simp only [append_assoc,nil_append]

theorem getElem?_slice (bytes : Bytes) (start stop index : Nat) :
    (slice bytes start stop)[index]? = if index < stop - start then bytes[start + index]? else none := by
  rw [slice,List.getElem?_take,List.getElem?_drop]

theorem getElem?_overwrite (bytes : Bytes) (start : Nat) (data : Bytes) (inside : start + data.length ≤ bytes.length)
    (index : Nat) : (overwrite bytes start data)[index]? =
      if start ≤ index ∧ index < start + data.length then data[index - start]? else bytes[index]? := by
  have front : (bytes.take start).length = start := by
    rw [length_take]
    omega
  rw [overwrite]
  by_cases before : index < start
  · rw [List.getElem?_append_left (by omega),List.getElem?_take,if_pos before,if_neg (by omega)]
  · rw [List.getElem?_append_right (by omega),front]
    by_cases within : index < start + data.length
    · rw [List.getElem?_append_left (by omega),if_pos (by omega)]
    · rw [List.getElem?_append_right (by omega),List.getElem?_drop,if_neg (by omega)]
      congr 1
      omega

theorem slice_overwrite (bytes : Bytes) (at' start stop : Nat) (data : Bytes) (inside : at' + data.length ≤ bytes.length)
    (apart : stop ≤ at' ∨ at' + data.length ≤ start) :
    slice (overwrite bytes at' data) start stop = slice bytes start stop := by
  apply ext_getElem?
  intro index
  simp only [slice,overwrite,List.getElem?_take,List.getElem?_drop]
  split
  · rename_i near
    rcases apart with before | behind
    · rw [List.getElem?_append_left (by rw [length_take]; omega),List.getElem?_take,if_pos (by omega)]
    · rw [List.getElem?_append_right (by rw [length_take]; omega),
        List.getElem?_append_right (by rw [length_take]; omega),List.getElem?_drop,length_take]
      congr 1
      omega
  · rfl

end ZeffBoy.Library
