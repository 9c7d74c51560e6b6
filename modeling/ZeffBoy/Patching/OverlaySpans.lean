import ZeffBoy.Patching.Overlay

/-! The spans of an overlay as a function of the position, and what inserting one does to it. -/
namespace ZeffBoy.Patching
open Library List

namespace OverlaySpan

def at? (span : OverlaySpan) (position : Nat) : Option UInt8 :=
  if span.start ≤ position ∧ position < span.stop then span.data[span.dataStart + (position - span.start)]? else none

variable {span : OverlaySpan} {position : Nat}

theorem at?_inside {byte : UInt8} (shown : span.at? position = some byte) :
    span.start ≤ position ∧ position < span.stop := by
  unfold at? at shown
  split at shown
  · assumption
  · cases shown

theorem at?_outside (outside : position < span.start ∨ span.stop ≤ position) :
    span.at? position = none := if_neg (by omega)

theorem at?_covered (backed : span.dataStart + span.len ≤ span.data.length)
    (covered : span.start ≤ position ∧ position < span.stop) : ∃ byte, span.at? position = some byte := by
  have stops : span.stop = span.start + span.len := rfl
  rw [at?,if_pos covered]
  exact ⟨_,List.getElem?_eq_getElem (by omega)⟩

theorem length_bytes (backed : span.dataStart + span.len ≤ span.data.length) :
    span.bytes.length = span.len := by
  rw [bytes,length_slice _ _ _ backed,Nat.add_sub_cancel_left]

theorem getElem?_bytes (span : OverlaySpan) (index : Nat) (inside : index < span.len) :
    span.bytes[index]? = span.at? (span.start + index) := by
  rw [bytes,getElem?_slice,if_pos (by omega),at?,if_pos (by rw [stop]; omega),Nat.add_sub_cancel_left]

end OverlaySpan

/-- Spans in order, none of them empty, inside an image and inside their data. -/
structure Laid (spans : List OverlaySpan) (len : Nat) : Prop where
  ordered : spans.Pairwise (fun left right => left.stop ≤ right.start)
  filled : ∀ span ∈ spans, 0 < span.len
  inside : ∀ span ∈ spans, span.stop ≤ len
  backed : ∀ span ∈ spans, span.dataStart + span.len ≤ span.data.length

variable {spans : List OverlaySpan} {len : Nat}

theorem Laid.tail {span : OverlaySpan} (laid : Laid (span::spans) len) :
    Laid spans len where
  ordered := (pairwise_cons.mp laid.ordered).2
  filled other member := laid.filled other (mem_cons_of_mem span member)
  inside other member := laid.inside other (mem_cons_of_mem span member)
  backed other member := laid.backed other (mem_cons_of_mem span member)

def shownAt (spans : List OverlaySpan) (position : Nat) : Option UInt8 := spans.findSome? (fun span => span.at? position)

theorem shownAt_cons (span : OverlaySpan) (spans : List OverlaySpan) (position : Nat) :
    shownAt (span::spans) position = (span.at? position).or (shownAt spans position) := by
  rw [shownAt,List.findSome?_cons]
  cases span.at? position <;> rfl

theorem shownAt_none {position : Nat} (hidden : ∀ span ∈ spans, span.at? position = none) :
    shownAt spans position = none := List.findSome?_eq_none_iff.mpr hidden

theorem shownAt_beyond {span : OverlaySpan} {position : Nat}
    (ordered : (span::spans).Pairwise (fun left right => left.stop ≤ right.start)) (before : position < span.stop) :
    shownAt spans position = none := by
  apply shownAt_none
  intro other member
  have behind := (pairwise_cons.mp ordered).1 other member
  exact OverlaySpan.at?_outside (.inl (by omega))

theorem shownAt_eq_some (ordered : spans.Pairwise (fun left right => left.stop ≤ right.start))
    (position : Nat) (byte : UInt8) :
    shownAt spans position = some byte ↔ ∃ span ∈ spans, span.at? position = some byte := by
  induction spans with
  | nil => simp [shownAt]
  | cons span spans ih =>
    rw [shownAt_cons]
    have later := ih (pairwise_cons.mp ordered).2
    constructor
    · intro shown
      cases first : span.at? position with
      | some other =>
        rw [first] at shown
        exact ⟨span,mem_cons_self,first.trans shown⟩
      | none =>
        rw [first] at shown
        obtain ⟨other,member,found⟩ := later.mp shown
        exact ⟨other,mem_cons_of_mem span member,found⟩
    · rintro ⟨other,member,found⟩
      rcases mem_cons.mp member with rfl | member
      · rw [found]
        rfl
      · have behind := (pairwise_cons.mp ordered).1 other member
        have place := OverlaySpan.at?_inside found
        have outside : span.stop ≤ position := by omega
        rw [OverlaySpan.at?_outside (.inr outside)]
        exact later.mpr ⟨other,member,found⟩

theorem applySpanIter_eq (offset : Nat) (laid : Laid spans len) (output : Bytes) :
    (applySpanIter offset spans output).length = output.length ∧ ∀ index < output.length,
      (applySpanIter offset spans output)[index]? = (shownAt spans (offset + index)).or output[index]? := by
  induction spans generalizing output with
  | nil => exact ⟨rfl,fun _ _ => rfl⟩
  | cons span spans ih =>
    have filled := laid.filled span mem_cons_self
    have backed := laid.backed span mem_cons_self
    have stops : span.stop = span.start + span.len := rfl
    rw [applySpanIter]
    dsimp only
    split
    · rename_i behind
      refine ⟨rfl,?_⟩
      intro index inside
      rw [shownAt_cons,OverlaySpan.at?_outside (.inl (by omega)),shownAt_beyond laid.ordered (by omega)]
      rfl
    · rename_i reached
      split
      · rename_i overlaps
        have size : (slice span.bytes (max span.start offset - span.start)
            (min span.stop (offset + output.length) - span.start)).length =
              min span.stop (offset + output.length) - max span.start offset := by
          rw [length_slice _ _ _ (by rw [OverlaySpan.length_bytes backed]; omega)]
          omega
        have inside : max span.start offset - offset + (slice span.bytes (max span.start offset - span.start)
            (min span.stop (offset + output.length) - span.start)).length ≤ output.length := by
          rw [size]
          omega
        obtain ⟨length,shown⟩ := ih laid.tail (overwrite output (max span.start offset - offset)
          (slice span.bytes (max span.start offset - span.start) (min span.stop (offset + output.length) - span.start)))
        rw [length_overwrite _ _ _ inside] at length shown
        refine ⟨length,?_⟩
        intro index within
        rw [shown index within,shownAt_cons,getElem?_overwrite _ _ _ inside,size]
        by_cases covered : span.start ≤ offset + index ∧ offset + index < span.stop
        · rw [if_pos (by omega),shownAt_beyond laid.ordered covered.2,getElem?_slice,if_pos (by omega),
            OverlaySpan.getElem?_bytes _ _ (by omega)]
          have place : span.start + (max span.start offset - span.start + (index - (max span.start offset - offset))) =
              offset + index := by omega
          obtain ⟨byte,found⟩ := OverlaySpan.at?_covered backed covered
          rw [place,found]
          rfl
        · rw [if_neg (by omega),OverlaySpan.at?_outside (by omega)]
          rfl
      · obtain ⟨length,shown⟩ := ih laid.tail output
        refine ⟨length,?_⟩
        intro index within
        rw [shown index within,shownAt_cons,OverlaySpan.at?_outside (by omega)]
        rfl

def overlaid (content : Bytes) (spans : List OverlaySpan) : Bytes := applySpanIter 0 spans content

theorem length_overlaid (content : Bytes) (laid : Laid spans len) :
    (overlaid content spans).length = content.length := (applySpanIter_eq 0 laid content).1

theorem getElem?_overlaid (content : Bytes) (laid : Laid spans len) (position : Nat) :
    (overlaid content spans)[position]? =
      if position < content.length then (shownAt spans position).or content[position]? else none := by
  split
  · rename_i inside
    rw [overlaid,(applySpanIter_eq 0 laid content).2 position inside,zero_add]
  · rename_i outside
    rw [List.getElem?_eq_none_iff,length_overlaid content laid]
    omega

theorem applySpanIter_slice (content : Bytes) (laid : Laid spans len)
    (offset count : Nat) (inside : offset + count ≤ content.length) :
    applySpanIter offset spans (slice content offset (offset + count)) =
      slice (overlaid content spans) offset (offset + count) := by
  have size : (slice content offset (offset + count)).length = count := by
    rw [length_slice _ _ _ inside,Nat.add_sub_cancel_left]
  obtain ⟨length,shown⟩ := applySpanIter_eq offset laid (slice content offset (offset + count))
  rw [size] at length shown
  apply ext_getElem?
  intro index
  rw [getElem?_slice,Nat.add_sub_cancel_left]
  split
  · rename_i within
    rw [shown index within,getElem?_overlaid _ laid,if_pos (by omega),getElem?_slice,if_pos (by omega)]
  · rw [List.getElem?_eq_none_iff,length]
    omega

theorem applySpans_eq (laid : Laid spans len) (offset : Nat) (output : Bytes) :
    applySpans spans offset output = applySpanIter offset spans output := by
  unfold applySpans
  induction spans with
  | nil => rfl
  | cons span spans ih =>
    by_cases past : span.stop ≤ offset
    · have filled := laid.filled span mem_cons_self
      have stops : span.stop = span.start + span.len := rfl
      rw [dropWhile_cons_of_pos (by simpa using past),ih laid.tail,applySpanIter]
      dsimp only
      rw [if_neg (by omega),if_neg (by omega)]
    · rw [dropWhile_cons_of_neg (by simpa using past)]

end ZeffBoy.Patching
