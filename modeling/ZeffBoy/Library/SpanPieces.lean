import ZeffBoy.Library.SpanPrefix

/-! Pieces of ordered spans.
Spans that are cut, moved and put one after the other stay ordered, and appending them one
by one to a list that merges as it grows gives their normal form. -/
namespace ZeffBoy.Library
open List

namespace Span
variable {α : Type}

def move (offset : Nat) (span : Span α) : Span α := { span with start := offset + span.start }

@[simp] theorem move_start (offset : Nat) (span : Span α) : (span.move offset).start = offset + span.start := rfl

@[simp] theorem move_length (offset : Nat) (span : Span α) : (span.move offset).length = span.length := rfl

@[simp] theorem move_value (offset : Nat) (span : Span α) : (span.move offset).value = span.value := rfl

@[simp] theorem move_stop (offset : Nat) (span : Span α) : (span.move offset).stop = offset + span.stop :=
  add_assoc _ _ _

end Span

namespace Spans
variable {α : Type}

theorem ordered_append (front back : List (Span α)) (cursor : Nat) (orderedFront : Ordered front)
    (orderedBack : Ordered back) (before : ∀ span ∈ front, span.stop ≤ cursor)
    (after : ∀ span ∈ back, cursor ≤ span.start) : Ordered (front ++ back) :=
  pairwise_append.mpr ⟨orderedFront,orderedBack,
    fun left memberLeft right memberRight => (before left memberLeft).trans (after right memberRight)⟩

theorem ordered_filterMap (part : Span α → Option (Span α)) (spans : List (Span α)) (ordered : Ordered spans)
    (inside : ∀ span piece, part span = some piece → span.start ≤ piece.start ∧ piece.stop ≤ span.stop) :
    Ordered (spans.filterMap part) := by
  refine pairwise_filterMap.mpr (ordered.imp ?_)
  intro left right before first firstPart second secondPart
  calc first.stop ≤ left.stop := (inside left first firstPart).2
    _ ≤ right.start := before
    _ ≤ second.start := (inside right second secondPart).1

theorem ordered_move (offset : Nat) (spans : List (Span α)) (ordered : Ordered spans) :
    Ordered (spans.map (Span.move offset)) := by
  refine pairwise_map.mpr (ordered.imp ?_)
  intro left right before
  rw [Span.move_stop,Span.move_start]
  omega

theorem shows_move (offset : Nat) (spans : List (Span α)) (position : Nat) (value : α) :
    Shows (spans.map (Span.move offset)) position value ↔ offset ≤ position ∧ Shows spans (position - offset) value := by
  simp only [Shows,mem_map]
  constructor
  · rintro ⟨_,⟨span,member,rfl⟩,⟨begun,before⟩,same⟩
    rw [Span.move_start] at begun
    rw [Span.move_stop] at before
    exact ⟨by omega,span,member,⟨by omega,by omega⟩,same⟩
  · rintro ⟨reached,span,member,⟨begun,before⟩,same⟩
    exact ⟨_,⟨span,member,rfl⟩,⟨by rw [Span.move_start]; omega,by rw [Span.move_stop]; omega⟩,same⟩

def rest (cursor : Nat) (span : Span α) : Option (Span α) :=
  if span.stop ≤ cursor then none
  else some ⟨max span.start cursor,span.stop - max span.start cursor,span.value⟩

def restAll (cursor : Nat) (spans : List (Span α)) : List (Span α) := spans.filterMap (rest cursor)

theorem rest_some {cursor : Nat} {span piece : Span α} : rest cursor span = some piece ↔ cursor < span.stop ∧
    piece = ⟨max span.start cursor,span.stop - max span.start cursor,span.value⟩ := by
  unfold rest
  split
  · rename_i past
    simp only [reduceCtorEq,false_iff]
    omega
  · rename_i reaches
    rw [Option.some.injEq,eq_comm]
    exact ⟨fun same => ⟨by omega,same⟩,And.right⟩

theorem ordered_restAll (cursor : Nat) (spans : List (Span α)) (ordered : Ordered spans) :
    Ordered (restAll cursor spans) := by
  refine ordered_filterMap _ spans ordered ?_
  intro span piece cut
  obtain ⟨reaches,rfl⟩ := rest_some.mp cut
  simp only [Span.stop] at reaches ⊢
  omega

theorem mem_restAll (cursor : Nat) (spans : List (Span α)) (piece : Span α) (member : piece ∈ restAll cursor spans) :
    cursor ≤ piece.start ∧ ∃ span ∈ spans, piece.stop ≤ max cursor span.stop ∧ piece.value = span.value := by
  obtain ⟨span,inside,cut⟩ := mem_filterMap.mp member
  obtain ⟨reaches,rfl⟩ := rest_some.mp cut
  refine ⟨le_max_right _ _,span,inside,?_,rfl⟩
  simp only [Span.stop] at reaches ⊢
  omega

theorem shows_restAll (cursor : Nat) (spans : List (Span α)) (position : Nat) (value : α) :
    Shows (restAll cursor spans) position value ↔ cursor ≤ position ∧ Shows spans position value := by
  simp only [Shows,restAll,mem_filterMap,rest_some]
  constructor
  · rintro ⟨_,⟨span,member,reaches,rfl⟩,⟨starts,ends⟩,rfl⟩
    simp only [Span.stop] at starts ends reaches
    exact ⟨by omega,span,member,⟨by omega,by rw [Span.stop]; omega⟩,rfl⟩
  · rintro ⟨reached,span,member,⟨starts,ends⟩,rfl⟩
    refine ⟨_,⟨span,member,by omega,rfl⟩,⟨by dsimp only; omega,?_⟩,rfl⟩
    simp only [Span.stop] at ends ⊢
    omega

theorem mem_clipAll {cursor : Nat} {spans : List (Span α)} {piece : Span α} (member : piece ∈ clipAll cursor spans) :
    piece.stop ≤ cursor ∧ ∃ span ∈ spans, piece.stop ≤ span.stop ∧ piece.value = span.value := by
  obtain ⟨span,inside,cut⟩ := mem_filterMap.mp member
  obtain ⟨begun,rfl⟩ := clip_some.mp cut
  simp only [Span.stop]
  exact ⟨by omega,span,inside,by omega,rfl⟩

theorem valueAt_map {β : Type} (convert : α → β) (neutral : α) (spans : List (Span α)) (position : Nat) :
    valueAt (convert neutral) (spans.map (fun span => ⟨span.start,span.length,convert span.value⟩)) position =
      convert (valueAt neutral spans position) := by
  induction spans with
  | nil => rfl
  | cons span spans ih =>
    rw [map_cons]
    rcases lt_or_ge position span.stop with short | past
    · rcases lt_or_ge position span.start with before | begun
      · rw [valueAt_cons_before span spans position before]
        exact valueAt_cons_before _ _ position before
      · rw [valueAt_cons_covers span spans position ⟨begun,short⟩]
        exact valueAt_cons_covers _ _ position ⟨begun,short⟩
    · rw [valueAt_cons_past span spans position past,← ih]
      exact valueAt_cons_past _ _ position past

def copies (period count : Nat) (spans : List (Span α)) : List (Span α) :=
  (List.range count).flatMap (fun cycle => spans.map (Span.move (cycle * period)))

theorem mem_copies {period count : Nat} {spans : List (Span α)} {copy : Span α} :
    copy ∈ copies period count spans ↔ ∃ cycle < count, ∃ span ∈ spans, span.move (cycle * period) = copy := by
  simp only [copies,mem_flatMap,mem_range,mem_map]

theorem ordered_copies (period count : Nat) (spans : List (Span α)) (ordered : Ordered spans)
    (inside : ∀ span ∈ spans, span.stop ≤ period) : Ordered (copies period count spans) := by
  refine pairwise_flatMap.mpr ⟨fun cycle _ => ordered_move _ spans ordered,pairwise_lt_range.imp ?_⟩
  intro earlier later before _ memberLeft _ memberRight
  obtain ⟨left,insideLeft,rfl⟩ := mem_map.mp memberLeft
  obtain ⟨right,_,rfl⟩ := mem_map.mp memberRight
  calc (left.move (earlier * period)).stop = earlier * period + left.stop := Span.move_stop _ _
    _ ≤ earlier * period + period := Nat.add_le_add_left (inside left insideLeft) _
    _ = (earlier + 1) * period := (Nat.succ_mul _ _).symm
    _ ≤ later * period := Nat.mul_le_mul_right period before
    _ ≤ (right.move (later * period)).start := Nat.le_add_right _ _

theorem shows_copies (period count : Nat) (spans : List (Span α)) (inside : ∀ span ∈ spans, span.stop ≤ period)
    (position : Nat) (reached : position < count * period) (value : α) :
    Shows (copies period count spans) position value ↔ Shows spans (position % period) value := by
  have filled : 0 < period := Nat.pos_of_mul_pos_left (Nat.zero_lt_of_lt reached)
  have split := Nat.div_add_mod' position period
  constructor
  · rintro ⟨copy,member,⟨begun,before⟩,same⟩
    obtain ⟨cycle,_,span,belongs,rfl⟩ := mem_copies.mp member
    have stop := inside span belongs
    rw [Span.move_start] at begun
    rw [Span.move_stop] at before
    have offset : position - cycle * period < period := by omega
    have residue : position % period = position - cycle * period := by
      conv_lhs => rw [← Nat.sub_add_cancel (show cycle * period ≤ position by omega)]
      rw [Nat.add_mul_mod_self_right,Nat.mod_eq_of_lt offset]
    exact ⟨span,belongs,⟨by omega,by omega⟩,same⟩
  · rintro ⟨span,member,⟨begun,before⟩,same⟩
    have cycle : position / period < count := Nat.div_lt_of_lt_mul (mul_comm count period ▸ reached)
    refine ⟨_,mem_copies.mpr ⟨_,cycle,span,member,rfl⟩,⟨?_,?_⟩,same⟩
    · rw [Span.move_start]
      omega
    · rw [Span.move_stop]
      omega

variable [DecidableEq α]

theorem length_le_extend (normalized : List (Span α)) (span : Span α) :
    normalized.length ≤ (extend normalized span).length := by
  unfold extend
  split
  · exact Nat.zero_le _
  · split <;> simp

theorem length_le_foldl_extend (spans normalized : List (Span α)) :
    normalized.length ≤ (spans.foldl extend normalized).length := by
  induction spans generalizing normalized with
  | nil => exact le_rfl
  | cons span spans ih => exact (length_le_extend normalized span).trans (ih _)

theorem foldl_mergeStep (neutral : α) (spans normalized : List (Span α)) :
    spans.foldl (mergeStep neutral) normalized =
      (spans.filter (fun span => ¬(span.length = 0 ∨ span.value = neutral))).foldl extend normalized := by
  induction spans generalizing normalized with
  | nil => rfl
  | cons span spans ih =>
    rw [foldl_cons,ih,mergeStep]
    by_cases dropped : span.length = 0 ∨ span.value = neutral
    · have left : decide (¬(span.length = 0 ∨ span.value = neutral)) = false := decide_eq_false (not_not_intro dropped)
      simp only [if_pos dropped,filter_cons,left,Bool.false_eq_true,if_false]
    · have kept : decide (¬(span.length = 0 ∨ span.value = neutral)) = true := decide_eq_true dropped
      simp only [if_neg dropped,filter_cons,kept,if_true,foldl_cons]

theorem normalize_of_ordered (neutral : α) (spans : List (Span α)) (ordered : Ordered spans) :
    normalize neutral spans = (spans.foldl (mergeStep neutral) []).reverse := by
  rw [normalize,sort_ordered spans ordered]

theorem valueAt_normalize (neutral : α) (spans : List (Span α)) (ordered : Ordered spans) (position : Nat) :
    valueAt neutral (normalize neutral spans) position = valueAt neutral spans position := by
  refine valueAt_congr (normalize_canonical neutral spans ordered).ordered ordered _ _ ?_
  intro value active
  exact shows_normalize neutral spans position value active

theorem normalize_eq (neutral : α) (spans canonical : List (Span α)) (ordered : Ordered spans)
    (normal : Canonical neutral canonical)
    (same : ∀ position, valueAt neutral spans position = valueAt neutral canonical position) :
    normalize neutral spans = canonical :=
  canonical_unique _ _ (normalize_canonical neutral spans ordered) normal
    (fun position => (valueAt_normalize neutral spans ordered position).trans (same position))

end Spans

end ZeffBoy.Library
