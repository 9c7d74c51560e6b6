import ZeffBoy.Library.Spans

/-! Prefixes of canonical spans.
A canonical list is determined by the values it shows, so the spans in front of a
position are determined by the values in front of it. -/
namespace ZeffBoy.Library.Spans
open List

variable {α : Type} {neutral : α} {spans : List (Span α)}

theorem Canonical.ordered (canonical : Canonical neutral spans) : Ordered spans :=
  ordered_of_chain spans canonical.chain

theorem Canonical.tail {span : Span α} (canonical : Canonical neutral (span::spans)) :
    Canonical neutral spans :=
  ⟨fun other member => canonical.active other (mem_cons_of_mem span member),canonical.chain.tail⟩

theorem valueAt_cons_past (span : Span α) (spans : List (Span α)) (position : Nat) (past : span.stop ≤ position) :
    valueAt neutral (span::spans) position = valueAt neutral spans position := by
  rw [valueAt,valueAt,dropWhile_cons_of_pos (by simpa using past)]

theorem valueAt_dropWhile (spans : List (Span α)) (cursor position : Nat) (later : cursor ≤ position) :
    valueAt neutral (spans.dropWhile (fun span => span.start + span.length ≤ cursor)) position =
      valueAt neutral spans position := by
  induction spans with
  | nil => rfl
  | cons span spans ih =>
    by_cases past : span.start + span.length ≤ cursor
    · rw [dropWhile_cons_of_pos (by simpa using past),ih,valueAt_cons_past span spans position (past.trans later)]
    · rw [dropWhile_cons_of_neg (by simpa using past)]

theorem valueAt_cons_covers (span : Span α) (spans : List (Span α)) (position : Nat) (covers : span.Covers position) :
    valueAt neutral (span::spans) position = span.value := by
  rw [valueAt,dropWhile_cons_of_neg (by simpa using covers.2)]
  simp [Option.filter,covers.1]

theorem valueAt_cons_before (span : Span α) (spans : List (Span α)) (position : Nat) (before : position < span.start) :
    valueAt neutral (span::spans) position = neutral := by
  have open_ : position < span.stop := lt_of_lt_of_le before (Nat.le_add_right _ _)
  rw [valueAt,dropWhile_cons_of_neg (by simpa using open_)]
  simp [Option.filter,not_le.mpr before]

theorem Canonical.after {span : Span α} (canonical : Canonical neutral (span::spans)) :
    (∀ position < span.stop, valueAt neutral spans position = neutral) ∧ valueAt neutral spans span.stop ≠ span.value := by
  cases spans with
  | nil => exact ⟨fun _ _ => rfl,fun same => (canonical.active span mem_cons_self).2 same.symm⟩
  | cons next rest =>
    obtain ⟨⟨follows,distinct⟩,_⟩ := isChain_cons_cons.mp canonical.chain
    have filled := (canonical.active next (by simp)).1
    constructor
    · intro position before
      exact valueAt_cons_before next rest position (lt_of_lt_of_le before follows)
    · rcases Nat.eq_or_lt_of_le follows with touching | apart
      · have covers : next.Covers span.stop := ⟨le_of_eq touching.symm,by rw [touching,Span.stop]; omega⟩
        rw [valueAt_cons_covers next rest _ covers]
        exact (distinct touching).symm
      · rw [valueAt_cons_before next rest _ apart]
        exact (canonical.active span mem_cons_self).2.symm

theorem Canonical.covers_start {span : Span α} (canonical : Canonical neutral (span::spans)) :
    span.Covers span.start := by
  have filled := (canonical.active span mem_cons_self).1
  exact ⟨le_rfl,by rw [Span.stop]; omega⟩

theorem Canonical.start_le {left right : Span α} {lefts rights : List (Span α)}
    (canonicalRight : Canonical neutral (right::rights))
    (same : ∀ position, valueAt neutral (left::lefts) position = valueAt neutral (right::rights) position) :
    left.start ≤ right.start := by
  by_contra later
  have shown : valueAt neutral (right::rights) right.start = right.value :=
    valueAt_cons_covers right rights _ canonicalRight.covers_start
  rw [← same,valueAt_cons_before left lefts _ (Nat.lt_of_not_le later)] at shown
  exact (canonicalRight.active right mem_cons_self).2 shown.symm

theorem Canonical.stop_le {left right : Span α} {lefts rights : List (Span α)}
    (canonicalLeft : Canonical neutral (left::lefts)) (begins : left.start = right.start)
    (values : left.value = right.value)
    (same : ∀ position, valueAt neutral (left::lefts) position = valueAt neutral (right::rights) position) :
    right.stop ≤ left.stop := by
  by_contra longer
  have covers : right.Covers left.stop :=
    ⟨begins ▸ Nat.le_add_right _ _,Nat.lt_of_not_le longer⟩
  have shown := same left.stop
  rw [valueAt_cons_past left lefts _ le_rfl,valueAt_cons_covers right rights _ covers] at shown
  exact canonicalLeft.after.2 (shown.trans values.symm)

theorem canonical_unique (left right : List (Span α)) (canonicalLeft : Canonical neutral left)
    (canonicalRight : Canonical neutral right)
    (same : ∀ position, valueAt neutral left position = valueAt neutral right position) : left = right := by
  induction left generalizing right with
  | nil =>
    cases right with
    | nil => rfl
    | cons span spans =>
      have shown := same span.start
      rw [valueAt_cons_covers span spans _ canonicalRight.covers_start] at shown
      exact absurd shown.symm (canonicalRight.active span mem_cons_self).2
  | cons first lefts ih =>
    cases right with
    | nil =>
      have shown := same first.start
      rw [valueAt_cons_covers first lefts _ canonicalLeft.covers_start] at shown
      exact absurd shown (canonicalLeft.active first mem_cons_self).2
    | cons second rights =>
      have reversed := fun position => (same position).symm
      have begins := le_antisymm (canonicalRight.start_le same) (canonicalLeft.start_le reversed)
      have values : first.value = second.value := by
        have covers := canonicalRight.covers_start
        have shown : valueAt neutral (first::lefts) first.start = first.value :=
          valueAt_cons_covers first lefts _ canonicalLeft.covers_start
        rw [← shown,same,begins,valueAt_cons_covers second rights _ covers]
      have ends := le_antisymm (canonicalRight.stop_le begins.symm values.symm reversed)
        (canonicalLeft.stop_le begins values same)
      have heads : first = second := by
        cases first; cases second
        simp only [Span.stop] at begins values ends
        simp only [Span.mk.injEq]
        exact ⟨begins,by omega,values⟩
      subst heads
      have tails : ∀ position, valueAt neutral lefts position = valueAt neutral rights position := by
        intro position
        rcases lt_or_ge position first.stop with before | past
        · rw [canonicalLeft.after.1 position before,canonicalRight.after.1 position before]
        · rw [← valueAt_cons_past first lefts position past,same,valueAt_cons_past first rights position past]
      rw [ih rights canonicalLeft.tail canonicalRight.tail tails]

def clip (cursor : Nat) (span : Span α) : Option (Span α) :=
  if cursor ≤ span.start then none else some { span with length := min span.length (cursor - span.start) }

def clipAll (cursor : Nat) (spans : List (Span α)) : List (Span α) := spans.filterMap (clip cursor)

theorem clip_some {cursor : Nat} {span piece : Span α} :
    clip cursor span = some piece ↔ span.start < cursor ∧
      piece = ⟨span.start,min span.length (cursor - span.start),span.value⟩ := by
  unfold clip
  split
  · rename_i beyond
    simp only [reduceCtorEq,false_iff]
    omega
  · rename_i inside
    rw [Option.some.injEq,eq_comm]
    exact ⟨fun same => ⟨by omega,same⟩,And.right⟩

theorem shows_clipAll (cursor : Nat) (spans : List (Span α)) (position : Nat) (value : α) :
    Shows (clipAll cursor spans) position value ↔ position < cursor ∧ Shows spans position value := by
  simp only [Shows,clipAll,mem_filterMap,clip_some]
  constructor
  · rintro ⟨_,⟨span,member,begun,rfl⟩,⟨starts,ends⟩,rfl⟩
    simp only [Span.stop] at starts ends
    exact ⟨by omega,span,member,⟨starts,by rw [Span.stop]; omega⟩,rfl⟩
  · rintro ⟨before,span,member,⟨starts,ends⟩,rfl⟩
    refine ⟨_,⟨span,member,by omega,rfl⟩,⟨starts,?_⟩,rfl⟩
    simp only [Span.stop] at ends ⊢
    omega

theorem clipAll_beyond (cursor : Nat) (spans : List (Span α)) (beyond : ∀ span ∈ spans, cursor ≤ span.start) :
    clipAll cursor spans = [] := by
  rw [clipAll,filterMap_eq_nil_iff]
  exact fun span member => if_pos (beyond span member)

theorem clipAll_chain (cursor : Nat) (spans : List (Span α)) (chain : spans.IsChain Separate) :
    (clipAll cursor spans).IsChain Separate := by
  induction spans with
  | nil => exact isChain_nil
  | cons span spans ih =>
    have later := (pairwise_cons.mp (ordered_of_chain _ chain)).1
    rcases lt_or_ge span.start cursor with begun | beyond
    · rw [clipAll,filterMap_cons_some (clip_some.mpr ⟨begun,rfl⟩),← clipAll]
      cases spans with
      | nil => exact isChain_singleton _
      | cons next rest =>
        obtain ⟨⟨follows,distinct⟩,others⟩ := isChain_cons_cons.mp chain
        rcases lt_or_ge next.start cursor with reached | past
        · have whole : min span.length (cursor - span.start) = span.length := by
            simp only [Span.stop] at follows
            omega
          have rest := ih others
          rw [clipAll,filterMap_cons_some (clip_some.mpr ⟨reached,rfl⟩),← clipAll] at rest ⊢
          rw [whole]
          exact isChain_cons_cons.mpr ⟨⟨follows,distinct⟩,rest⟩
        · have none_ : clipAll cursor (next::rest) = [] := by
            have after := (pairwise_cons.mp (ordered_of_chain _ others)).1
            refine clipAll_beyond cursor _ (forall_mem_cons.mpr ⟨past,fun other member => ?_⟩)
            exact past.trans ((Nat.le_add_right _ _).trans (after other member))
          rw [none_]
          exact isChain_singleton _
    · have none_ : clipAll cursor (span::spans) = [] :=
        clipAll_beyond cursor _ (forall_mem_cons.mpr ⟨beyond,fun other member =>
          beyond.trans ((Nat.le_add_right _ _).trans (later other member))⟩)
      rw [none_]
      exact isChain_nil

theorem clipAll_canonical (cursor : Nat) (spans : List (Span α)) (canonical : Canonical neutral spans) :
    Canonical neutral (clipAll cursor spans) := by
  refine ⟨?_,clipAll_chain cursor spans canonical.chain⟩
  intro piece member
  obtain ⟨span,inside,clipped⟩ := mem_filterMap.mp member
  obtain ⟨begun,rfl⟩ := clip_some.mp clipped
  obtain ⟨filled,active⟩ := canonical.active span inside
  exact ⟨by dsimp only; omega,active⟩

theorem valueAt_clipAll (cursor : Nat) (spans : List (Span α)) (canonical : Canonical neutral spans) (position : Nat) :
    valueAt neutral (clipAll cursor spans) position = if position < cursor then valueAt neutral spans position else neutral := by
  split
  · rename_i before
    refine valueAt_congr (clipAll_canonical cursor spans canonical).ordered canonical.ordered _ _ ?_
    intro value _
    rw [shows_clipAll,and_iff_right before]
  · rename_i past
    refine valueAt_of_not_shows neutral _ _ ?_
    intro value shown
    exact past ((shows_clipAll cursor spans position value).mp shown).1

theorem clipAll_eq (cursor : Nat) (left right : List (Span α)) (canonicalLeft : Canonical neutral left)
    (canonicalRight : Canonical neutral right)
    (same : ∀ position < cursor, valueAt neutral left position = valueAt neutral right position) :
    clipAll cursor left = clipAll cursor right := by
  refine canonical_unique _ _ (clipAll_canonical cursor left canonicalLeft)
    (clipAll_canonical cursor right canonicalRight) ?_
  intro position
  rw [valueAt_clipAll cursor left canonicalLeft,valueAt_clipAll cursor right canonicalRight]
  split
  · rename_i before
    exact same position before
  · rfl

theorem clipAll_whole {cursor : Nat} {spans : List (Span α)}
    (inside : ∀ span ∈ spans, 0 < span.length ∧ span.stop ≤ cursor) : clipAll cursor spans = spans := by
  rw [clipAll]
  conv_rhs => rw [← filterMap_some (l := spans)]
  refine filterMap_congr ?_
  intro span member
  obtain ⟨filled,within⟩ := inside span member
  rw [Span.stop] at within
  refine clip_some.mpr ⟨by omega,?_⟩
  rw [min_eq_left (by omega)]

end ZeffBoy.Library.Spans
