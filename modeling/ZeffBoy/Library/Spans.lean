import Mathlib

/-! Run-length spans over positions.
A list of spans shows a value at the positions its spans cover. Over an ordered list
this is a function of the position, and two lists that show the same values read the
same, whatever their spans are. -/
namespace ZeffBoy.Library
open List

structure Span (α : Type) where
  start : Nat
  length : Nat
  value : α
deriving DecidableEq

namespace Span
variable {α : Type}

def stop (span : Span α) : Nat := span.start + span.length

def Covers (span : Span α) (position : Nat) : Prop := span.start ≤ position ∧ position < span.stop

end Span

namespace Spans
variable {α : Type}

def Shows (spans : List (Span α)) (position : Nat) (value : α) : Prop :=
  ∃ span ∈ spans, span.Covers position ∧ span.value = value

def Ordered (spans : List (Span α)) : Prop := spans.Pairwise (fun left right => left.stop ≤ right.start)

/-- The value of the first span that ends after the position, if that span has begun. -/
def valueAt (neutral : α) (spans : List (Span α)) (position : Nat) : α :=
  (((spans.dropWhile (fun span => span.stop ≤ position)).head?.filter
    (fun span => span.start ≤ position)).map Span.value).getD neutral

theorem shows_cons {span : Span α} {spans : List (Span α)} {position : Nat} {value : α} :
    Shows (span::spans) position value ↔ (span.Covers position ∧ span.value = value) ∨ Shows spans position value := by
  simp [Shows]

theorem shows_append (front back : List (Span α)) (position : Nat) (value : α) :
    Shows (front ++ back) position value ↔ Shows front position value ∨ Shows back position value := by
  simp [Shows,or_and_right,exists_or]

theorem shows_reverse (spans : List (Span α)) (position : Nat) (value : α) :
    Shows spans.reverse position value ↔ Shows spans position value := by
  simp [Shows]

theorem not_shows_nil (position : Nat) (value : α) : ¬Shows ([] : List (Span α)) position value := by
  simp [Shows]

theorem valueAt_of_shows (neutral : α) (spans : List (Span α)) (ordered : Ordered spans) (position : Nat) (value : α)
    (shown : Shows spans position value) : valueAt neutral spans position = value := by
  induction spans with
  | nil => exact absurd shown (not_shows_nil position value)
  | cons span spans ih =>
    obtain ⟨below,rest⟩ := pairwise_cons.mp ordered
    by_cases past : span.stop ≤ position
    · have later : Shows spans position value := by
        rcases shows_cons.mp shown with ⟨covers,_⟩ | later
        · exact absurd covers.2 (not_lt.mpr past)
        · exact later
      have dropped := ih rest later
      rw [valueAt,dropWhile_cons_of_pos (by simpa using past)]
      exact dropped
    · have first : span.Covers position ∧ span.value = value := by
        rcases shows_cons.mp shown with first | ⟨other,member,covers,_⟩
        · exact first
        · exact absurd (le_trans (below other member) covers.1) past
      rw [valueAt,dropWhile_cons_of_neg (by simpa using past)]
      simp [Option.filter,first.1.1,first.2]

theorem valueAt_of_not_shows (neutral : α) (spans : List (Span α)) (position : Nat)
    (hidden : ∀ value, ¬Shows spans position value) : valueAt neutral spans position = neutral := by
  induction spans with
  | nil => rfl
  | cons span spans ih =>
    have rest := ih (fun value shown => hidden value (shows_cons.mpr (.inr shown)))
    by_cases past : span.stop ≤ position
    · rw [valueAt,dropWhile_cons_of_pos (by simpa using past)]
      exact rest
    · have unbegun : ¬span.start ≤ position := fun begun =>
        hidden span.value (shows_cons.mpr (.inl ⟨⟨begun,Nat.lt_of_not_le past⟩,rfl⟩))
      rw [valueAt,dropWhile_cons_of_neg (by simpa using past)]
      simp [Option.filter,unbegun]

theorem valueAt_eq_iff (neutral : α) (spans : List (Span α)) (ordered : Ordered spans) (position : Nat) (value : α)
    (active : value ≠ neutral) : valueAt neutral spans position = value ↔ Shows spans position value := by
  constructor
  · intro read
    by_contra absent
    have hidden : ∀ other, ¬Shows spans position other := by
      intro other shown
      have same := valueAt_of_shows neutral spans ordered position other shown
      rw [read] at same
      exact absent (same ▸ shown)
    rw [valueAt_of_not_shows neutral spans position hidden] at read
    exact active read.symm
  · exact valueAt_of_shows neutral spans ordered position value

theorem valueAt_eq_neutral (neutral : α) (spans : List (Span α)) (ordered : Ordered spans) (position : Nat)
    (hidden : ∀ value, value ≠ neutral → ¬Shows spans position value) : valueAt neutral spans position = neutral := by
  by_contra active
  exact hidden _ active ((valueAt_eq_iff neutral spans ordered position _ active).mp rfl)

theorem valueAt_congr {neutral : α} {left right : List (Span α)} (orderedLeft : Ordered left)
    (orderedRight : Ordered right) (first second : Nat)
    (same : ∀ value, value ≠ neutral → (Shows left first value ↔ Shows right second value)) :
    valueAt neutral left first = valueAt neutral right second := by
  by_cases active : valueAt neutral left first = neutral
  · by_contra different
    have other : valueAt neutral right second ≠ neutral := fun quiet => different (active.trans quiet.symm)
    have shown := (valueAt_eq_iff neutral right orderedRight second _ other).mp rfl
    exact different ((valueAt_eq_iff neutral left orderedLeft first _ other).mpr ((same _ other).mpr shown))
  · have shown := (valueAt_eq_iff neutral left orderedLeft first _ active).mp rfl
    exact ((valueAt_eq_iff neutral right orderedRight second _ active).mpr ((same _ active).mp shown)).symm

/-- Two neighbours of the canonical form: ordered, and not one run in two pieces. -/
def Separate (left right : Span α) : Prop := left.stop ≤ right.start ∧ (left.stop = right.start → left.value ≠ right.value)

theorem isChain_separate_cons {span : Span α} {spans : List (Span α)} : (span::spans).IsChain Separate ↔
    (∀ first, spans.head? = some first → span.start + span.length ≤ first.start ∧
      ¬(first.start = span.start + span.length ∧ some span.value = some first.value)) ∧ spans.IsChain Separate := by
  cases spans with
  | nil => simp
  | cons next rest =>
    rw [isChain_cons_cons]
    refine and_congr_left fun _ => ?_
    simp only [List.head?_cons,Option.some.injEq,forall_eq',Separate,Span.stop,not_and,@eq_comm _ next.start,ne_eq]

structure Canonical (neutral : α) (spans : List (Span α)) : Prop where
  active : ∀ span ∈ spans, 0 < span.length ∧ span.value ≠ neutral
  chain : spans.IsChain Separate

theorem canonical_of_checked {neutral : α} {good : Span α → Prop} (spans : List (Span α)) :
    ((∀ span ∈ spans, (0 < span.length ∧ span.value ≠ neutral) ∧ good span) ∧ spans.IsChain Separate ∧
      ∀ first, spans.head? = some first → 0 ≤ first.start ∧ ¬(first.start = 0 ∧ none = some first.value)) ↔
      Canonical neutral spans ∧ ∀ span ∈ spans, good span := by
  constructor
  · rintro ⟨each,chain,_⟩
    exact ⟨⟨fun span member => (each span member).1,chain⟩,fun span member => (each span member).2⟩
  · rintro ⟨canonical,inside⟩
    exact ⟨fun span member => ⟨canonical.active span member,inside span member⟩,canonical.chain,by simp⟩

theorem ordered_of_chain (spans : List (Span α)) (chain : spans.IsChain Separate) : Ordered spans := by
  have weaker : spans.IsChain (fun left right : Span α => left.stop ≤ right.start) := chain.imp (fun _ _ => And.left)
  have trans : IsTrans (Span α) (fun left right => left.stop ≤ right.start) :=
    ⟨fun left middle right first second => first.trans ((Nat.le_add_right _ _).trans second)⟩
  exact isChain_iff_pairwise.mp weaker

theorem sort_ordered (spans : List (Span α)) (ordered : Ordered spans) :
    spans.mergeSort (fun left right => left.start ≤ right.start) = spans := by
  refine mergeSort_of_pairwise (ordered.imp ?_)
  intro left right before
  exact decide_eq_true ((Nat.le_add_right _ _).trans before)

variable [DecidableEq α]

/-- Appends a span to a reversed list; a span that continues the last one extends it. -/
def extend (normalized : List (Span α)) (span : Span α) : List (Span α) :=
  match normalized with
  | [] => [span]
  | previous::earlier =>
    if previous.stop = span.start ∧ previous.value = span.value then
      { previous with length := previous.length + span.length }::earlier
    else
      span::previous::earlier

def mergeStep (neutral : α) (normalized : List (Span α)) (span : Span α) : List (Span α) :=
  if span.length = 0 ∨ span.value = neutral then normalized else extend normalized span

def normalize (neutral : α) (spans : List (Span α)) : List (Span α) :=
  ((spans.mergeSort (fun left right => left.start ≤ right.start)).foldl (mergeStep neutral) []).reverse

theorem shows_mergeStep (neutral : α) (normalized : List (Span α)) (span : Span α) (position : Nat) (value : α)
    (active : value ≠ neutral) : Shows (mergeStep neutral normalized span) position value ↔
      Shows normalized position value ∨ Shows [span] position value := by
  have one : Shows [span] position value ↔ span.Covers position ∧ span.value = value := by simp [Shows]
  by_cases dropped : span.length = 0 ∨ span.value = neutral
  · rw [mergeStep,if_pos dropped,one]
    refine ⟨.inl,?_⟩
    rintro (shown | ⟨⟨begun,before⟩,same⟩)
    · exact shown
    · rcases dropped with empty | quiet
      · rw [Span.stop,empty] at before
        omega
      · exact absurd (same.symm.trans quiet) active
  · rw [mergeStep,if_neg dropped,one]
    cases normalized with
    | nil => simp [extend,Shows]
    | cons previous earlier =>
      by_cases continued : previous.stop = span.start ∧ previous.value = span.value
      · have covers : ({ previous with length := previous.length + span.length } : Span α).Covers position ↔
            previous.Covers position ∨ span.Covers position := by
          have joined := continued.1
          simp only [Span.Covers,Span.stop] at joined ⊢
          omega
        rw [extend,if_pos continued,shows_cons,shows_cons,covers,← continued.2]
        dsimp only
        tauto
      · simp only [extend,if_neg continued,shows_cons]
        tauto

theorem shows_foldl (neutral : α) (spans normalized : List (Span α)) (position : Nat) (value : α)
    (active : value ≠ neutral) : Shows (spans.foldl (mergeStep neutral) normalized) position value ↔
      Shows normalized position value ∨ Shows spans position value := by
  induction spans generalizing normalized with
  | nil => simp [not_shows_nil]
  | cons span spans ih =>
    rw [foldl_cons,ih,shows_mergeStep neutral normalized span position value active,
      show span::spans = [span] ++ spans from rfl,shows_append,or_assoc]

/-- What a reversed list must satisfy to be extended by the spans that follow. -/
structure Building (neutral : α) (normalized spans : List (Span α)) : Prop where
  active : ∀ span ∈ normalized, 0 < span.length ∧ span.value ≠ neutral
  chain : normalized.IsChain (fun right left => Separate left right)
  before : ∀ span ∈ spans, ∀ last, normalized.head? = some last → last.stop ≤ span.start

theorem building_mergeStep (neutral : α) (normalized spans : List (Span α)) (span : Span α)
    (ordered : Ordered (span::spans)) (building : Building neutral normalized (span::spans)) :
    Building neutral (mergeStep neutral normalized span) spans := by
  obtain ⟨after,_⟩ := pairwise_cons.mp ordered
  by_cases dropped : span.length = 0 ∨ span.value = neutral
  · rw [mergeStep,if_pos dropped]
    exact ⟨building.active,building.chain,fun other member => building.before other (mem_cons_of_mem span member)⟩
  · obtain ⟨filled,active⟩ := not_or.mp dropped
    have fresh : 0 < span.length ∧ span.value ≠ neutral := ⟨pos_of_ne_zero filled,active⟩
    rw [mergeStep,if_neg dropped]
    cases normalized with
    | nil =>
      refine ⟨by simpa [extend] using fresh,isChain_singleton _,?_⟩
      rintro other member _ ⟨⟩
      exact after other member
    | cons previous earlier =>
      obtain ⟨kept,others⟩ := forall_mem_cons.mp building.active
      by_cases continued : previous.stop = span.start ∧ previous.value = span.value
      · rw [extend,if_pos continued]
        refine ⟨forall_mem_cons.mpr ⟨⟨Nat.add_pos_left kept.1 _,kept.2⟩,others⟩,?_,?_⟩
        · cases earlier with
          | nil => exact isChain_singleton _
          | cons first rest =>
            obtain ⟨separate,chain⟩ := isChain_cons_cons.mp building.chain
            exact isChain_cons_cons.mpr ⟨separate,chain⟩
        · rintro other member _ ⟨⟩
          have follows := after other member
          have joined := continued.1
          simp only [Span.stop] at follows joined ⊢
          omega
      · rw [extend,if_neg continued]
        have precedes := building.before span mem_cons_self previous rfl
        have separate : Separate previous span := ⟨precedes,fun touching same => continued ⟨touching,same⟩⟩
        refine ⟨forall_mem_cons.mpr ⟨fresh,building.active⟩,
          isChain_cons_cons.mpr ⟨separate,building.chain⟩,?_⟩
        rintro other member _ ⟨⟩
        exact after other member

theorem building_foldl (neutral : α) (spans normalized : List (Span α)) (ordered : Ordered spans)
    (building : Building neutral normalized spans) : Building neutral (spans.foldl (mergeStep neutral) normalized) [] := by
  induction spans generalizing normalized with
  | nil => exact building
  | cons span spans ih => exact ih _ (pairwise_cons.mp ordered).2 (building_mergeStep neutral _ spans span ordered building)

theorem normalize_canonical (neutral : α) (spans : List (Span α)) (ordered : Ordered spans) :
    Canonical neutral (normalize neutral spans) := by
  have empty : Building neutral [] spans := ⟨by simp,isChain_nil,by simp⟩
  have built := building_foldl neutral spans [] ordered empty
  rw [normalize,sort_ordered spans ordered]
  refine ⟨?_,isChain_reverse.mpr built.chain⟩
  simpa only [mem_reverse] using built.active

theorem shows_normalize (neutral : α) (spans : List (Span α)) (position : Nat) (value : α) (active : value ≠ neutral) :
    Shows (normalize neutral spans) position value ↔ Shows spans position value := by
  rw [normalize,shows_reverse,shows_foldl neutral _ _ position value active]
  simp [Shows,mem_mergeSort]

theorem forall_mergeStep (holds : α → Prop) (bound : Nat) (neutral : α) (normalized : List (Span α)) (span : Span α)
    (kept : ∀ other ∈ normalized, holds other.value ∧ other.stop ≤ bound) (fresh : holds span.value ∧ span.stop ≤ bound) :
    ∀ other ∈ mergeStep neutral normalized span, holds other.value ∧ other.stop ≤ bound := by
  by_cases dropped : span.length = 0 ∨ span.value = neutral
  · rw [mergeStep,if_pos dropped]
    exact kept
  · rw [mergeStep,if_neg dropped]
    cases normalized with
    | nil => simpa [extend] using fresh
    | cons previous earlier =>
      obtain ⟨last,others⟩ := forall_mem_cons.mp kept
      by_cases continued : previous.stop = span.start ∧ previous.value = span.value
      · rw [extend,if_pos continued]
        refine forall_mem_cons.mpr ⟨⟨last.1,?_⟩,others⟩
        have joined := continued.1
        have inside := fresh.2
        simp only [Span.stop] at joined inside ⊢
        omega
      · rw [extend,if_neg continued]
        exact forall_mem_cons.mpr ⟨fresh,kept⟩

theorem forall_normalize (holds : α → Prop) (bound : Nat) (neutral : α) (spans : List (Span α))
    (all : ∀ span ∈ spans, holds span.value ∧ span.stop ≤ bound) :
    ∀ span ∈ normalize neutral spans, holds span.value ∧ span.stop ≤ bound := by
  have folded : ∀ rest normalized : List (Span α), (∀ span ∈ rest, holds span.value ∧ span.stop ≤ bound) →
      (∀ span ∈ normalized, holds span.value ∧ span.stop ≤ bound) →
      ∀ span ∈ rest.foldl (mergeStep neutral) normalized, holds span.value ∧ span.stop ≤ bound := by
    intro rest
    induction rest with
    | nil => exact fun _ _ kept => kept
    | cons span rest ih =>
      intro normalized remaining kept
      obtain ⟨fresh,later⟩ := forall_mem_cons.mp remaining
      exact ih _ later (forall_mergeStep holds bound neutral normalized span kept fresh)
  simp only [normalize,mem_reverse]
  exact folded _ [] (fun span member => all span (mem_mergeSort.mp member)) (by simp)

end Spans

end ZeffBoy.Library
