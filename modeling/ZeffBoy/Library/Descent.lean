import Mathlib

/-! Descendants in a list of items that name their parents by key.
One pass over the list holds the items whose parents are held; passes are repeated until one adds nothing. -/
namespace ZeffBoy.Library.Descent
open List

variable {α ι : Type} (key : α → ι) (parent : α → Option ι)

def Link (items : List α) (lower upper : ι) : Prop := ∃ item ∈ items, key item = lower ∧ parent item = some upper

/-- The second key is the first or one of its ancestors. -/
def Reaches (items : List α) : ι → ι → Prop := Relation.ReflTransGen (Link key parent items)

/-- What a pass holds besides the keys it is given: keys of its items, each below a key that it is given. -/
structure Grown (items : List α) (held grown : List ι) : Prop where
  suffix : held <:+ grown
  distinct : held.Nodup → grown.Nodup
  keys : grown ⊆ items.map key ++ held
  below : ∀ lower ∈ grown, ∃ upper ∈ held, Reaches key parent items lower upper

theorem Grown.trans {items : List α} {held middle grown : List ι} (first : Grown key parent items held middle)
    (second : Grown key parent items middle grown) : Grown key parent items held grown := by
  refine ⟨first.suffix.trans second.suffix,second.distinct ∘ first.distinct,?_,?_⟩
  · intro lower present
    rcases mem_append.mp (second.keys present) with named | present
    · exact mem_append_left _ named
    · exact first.keys present
  · intro lower present
    obtain ⟨middle,inside,reaches⟩ := second.below lower present
    obtain ⟨upper,above,climbs⟩ := first.below middle inside
    exact ⟨upper,above,reaches.trans climbs⟩

def Closed (items : List α) (held : List ι) : Prop :=
  ∀ item ∈ items, ∀ upper, parent item = some upper → upper ∈ held → key item ∈ held

theorem Closed.mem_of_reaches {items : List α} {held : List ι} (closed : Closed key parent items held) {lower upper : ι}
    (reaches : Reaches key parent items lower upper) (above : upper ∈ held) : lower ∈ held := by
  induction reaches using Relation.ReflTransGen.head_induction_on with
  | refl => exact above
  | head step _ ih =>
    obtain ⟨item,member,rfl,linked⟩ := step
    exact closed item member _ linked ih

theorem length_le_of_keys (items : List α) (held : List ι) (distinct : held.Nodup) (keys : held ⊆ items.map key) :
    held.length ≤ items.length := by
  have bound := (subperm_of_subset distinct keys).length_le
  rwa [length_map] at bound

variable [DecidableEq ι]

def extend (held : List ι) (item : α) : List ι :=
  if (parent item).any (fun upper => upper ∈ held) ∧ key item ∉ held then key item::held else held

def pass (items : List α) (held : List ι) : List ι := items.foldl (extend key parent) held

def close (items : List α) (held : List ι) : Nat → List ι
  | 0 => held
  | passes + 1 =>
    let grown := pass key parent items held
    if grown.length = held.length then held else close items grown passes

theorem extend_grown (items : List α) (held : List ι) (item : α) (member : item ∈ items) :
    Grown key parent items held (extend key parent held item) := by
  unfold extend
  split
  · rename_i added
    obtain ⟨upper,linked,above⟩ := (Option.any_eq_true _ _).mp added.1
    refine ⟨suffix_cons _ _,fun distinct => nodup_cons.mpr ⟨added.2,distinct⟩,?_,?_⟩
    · intro lower present
      rcases mem_cons.mp present with rfl | present
      · exact mem_append_left _ (mem_map_of_mem member)
      · exact mem_append_right _ present
    · intro lower present
      rcases mem_cons.mp present with rfl | present
      · exact ⟨upper,of_decide_eq_true above,.single ⟨item,member,rfl,linked⟩⟩
      · exact ⟨lower,present,.refl⟩
  · exact ⟨suffix_refl _,id,subset_append_right _ _,fun lower present => ⟨lower,present,.refl⟩⟩

theorem foldl_grown (items rest : List α) (held : List ι) (inside : rest ⊆ items) :
    Grown key parent items held (rest.foldl (extend key parent) held) := by
  induction rest generalizing held with
  | nil => exact ⟨suffix_refl _,id,subset_append_right _ _,fun lower present => ⟨lower,present,.refl⟩⟩
  | cons item rest ih =>
    obtain ⟨member,inside⟩ := cons_subset.mp inside
    exact (extend_grown key parent items held item member).trans key parent (ih _ inside)

theorem pass_grown (items : List α) (held : List ι) : Grown key parent items held (pass key parent items held) :=
  foldl_grown key parent items items held (List.Subset.refl _)

theorem mem_pass (items : List α) (held : List ι) (item : α) (member : item ∈ items) (upper : ι)
    (linked : parent item = some upper) (above : upper ∈ held) : key item ∈ pass key parent items held := by
  induction items generalizing held with
  | nil => exact absurd member not_mem_nil
  | cons first items ih =>
    have kept := (extend_grown key parent (first::items) held first mem_cons_self).suffix.subset
    rcases mem_cons.mp member with rfl | member
    · refine (pass_grown key parent items _).suffix.subset ?_
      unfold extend
      split
      · exact mem_cons_self
      · rename_i unchanged
        by_contra absent
        exact unchanged ⟨by rw [linked]; exact decide_eq_true above,absent⟩
    · exact ih _ member (kept above)

theorem closed_of_length (items : List α) (held : List ι)
    (same : (pass key parent items held).length = held.length) : Closed key parent items held := by
  have unchanged := (pass_grown key parent items held).suffix.eq_of_length same.symm
  intro item member upper linked above
  rw [unchanged]
  exact mem_pass key parent items held item member upper linked above

theorem close_grown (items : List α) (held : List ι) (distinct : held.Nodup) (keys : held ⊆ items.map key)
    (passes : Nat) (enough : items.length < held.length + passes) :
    Grown key parent items held (close key parent items held passes) ∧
      Closed key parent items (close key parent items held passes) := by
  induction passes generalizing held with
  | zero =>
    have bound := length_le_of_keys key items held distinct keys
    omega
  | succ passes ih =>
    have grown := pass_grown key parent items held
    rw [close]
    split
    · rename_i same
      exact ⟨foldl_grown key parent items [] held (nil_subset _),closed_of_length key parent items held same⟩
    · rename_i longer
      have growth := grown.suffix.length_le
      have inside : pass key parent items held ⊆ items.map key := fun lower present =>
        (mem_append.mp (grown.keys present)).elim id (fun held => keys held)
      obtain ⟨later,closed⟩ := ih _ (grown.distinct distinct) inside (by omega)
      exact ⟨grown.trans key parent later,closed⟩

theorem mem_close (items : List α) (top : ι) (named : top ∈ items.map key) (lower : ι) :
    lower ∈ close key parent items [top] (items.length + 1) ↔ Reaches key parent items lower top := by
  obtain ⟨grown,closed⟩ := close_grown key parent items [top] (nodup_singleton _)
    (cons_subset.mpr ⟨named,nil_subset _⟩) (items.length + 1) (by rw [length_singleton]; omega)
  constructor
  · intro present
    obtain ⟨upper,above,reaches⟩ := grown.below lower present
    rwa [mem_singleton.mp above] at reaches
  · intro reaches
    exact closed.mem_of_reaches key parent reaches (grown.suffix.subset (mem_singleton_self _))

theorem close_nodup (items : List α) (top : ι) (named : top ∈ items.map key) :
    (close key parent items [top] (items.length + 1)).Nodup :=
  (close_grown key parent items [top] (nodup_singleton _) (cons_subset.mpr ⟨named,nil_subset _⟩) _
    (by rw [length_singleton]; omega)).1.distinct (nodup_singleton _)

end ZeffBoy.Library.Descent
