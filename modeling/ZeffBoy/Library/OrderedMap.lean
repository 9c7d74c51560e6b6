import Mathlib

/-! Finite maps with natural keys, iterated in key order.
A map is its strictly increasing list of entries, so iteration, the first entry
and the removal of entries are list operations, and lookup determines the map. -/
namespace ZeffBoy.Library
open List

structure OrderedMap (V : Type) where
  entries : List (Nat × V)
  sorted : entries.Pairwise (fun left right => left.1 < right.1)
deriving DecidableEq

namespace OrderedMap
variable {V : Type}

def empty : OrderedMap V := ⟨[],.nil⟩

def lookup (key : Nat) : List (Nat × V) → Option V
  | [] => none
  | (head,value)::rest => if head = key then some value else lookup key rest

def get? (map : OrderedMap V) (key : Nat) : Option V := lookup key map.entries

def insertEntry (key : Nat) (value : V) : List (Nat × V) → List (Nat × V)
  | [] => [(key,value)]
  | (head,old)::rest =>
    if key < head then (key,value)::(head,old)::rest
    else if key = head then (key,value)::rest
    else (head,old)::insertEntry key value rest

def keys (map : OrderedMap V) : List Nat := map.entries.map Prod.fst

def values (map : OrderedMap V) : List V := map.entries.map Prod.snd

def size (map : OrderedMap V) : Nat := map.entries.length

def first? (map : OrderedMap V) : Option (Nat × V) := map.entries.head?

theorem insertEntry_mem (key : Nat) (value : V) (entries : List (Nat × V)) (entry : Nat × V)
    (member : entry ∈ insertEntry key value entries) : entry = (key,value) ∨ entry ∈ entries := by
  induction entries with
  | nil => simpa [insertEntry] using member
  | cons head rest ih =>
    obtain ⟨headKey,old⟩ := head
    simp only [insertEntry] at member
    split at member
    · simpa using member
    · split at member
      · rcases mem_cons.mp member with same | inside
        · exact Or.inl same
        · exact Or.inr (mem_cons_of_mem _ inside)
      · rcases mem_cons.mp member with same | inside
        · exact Or.inr (by simp [same])
        · rcases ih inside with same | inside
          · exact Or.inl same
          · exact Or.inr (mem_cons_of_mem _ inside)

theorem insertEntry_sorted (key : Nat) (value : V) (entries : List (Nat × V))
    (sorted : entries.Pairwise (fun left right => left.1 < right.1)) :
    (insertEntry key value entries).Pairwise (fun left right => left.1 < right.1) := by
  induction entries with
  | nil => simp [insertEntry]
  | cons head rest ih =>
    obtain ⟨headKey,old⟩ := head
    obtain ⟨below,tail⟩ := pairwise_cons.mp sorted
    simp only [insertEntry]
    split
    · rename_i smaller
      refine pairwise_cons.mpr ⟨?_,sorted⟩
      intro entry member
      rcases mem_cons.mp member with rfl | inside
      · exact smaller
      · exact smaller.trans (below entry inside)
    · split
      · rename_i same
        exact pairwise_cons.mpr ⟨fun entry inside => same ▸ below entry inside,tail⟩
      · refine pairwise_cons.mpr ⟨?_,ih tail⟩
        intro entry member
        rcases insertEntry_mem key value rest entry member with rfl | inside
        · simp only
          omega
        · exact below entry inside

def insert (map : OrderedMap V) (key : Nat) (value : V) : OrderedMap V :=
  ⟨insertEntry key value map.entries,insertEntry_sorted key value map.entries map.sorted⟩

def retain (map : OrderedMap V) (keep : Nat → V → Bool) : OrderedMap V :=
  ⟨map.entries.filter (fun entry => keep entry.1 entry.2),map.sorted.filter _⟩

def erase (map : OrderedMap V) (key : Nat) : OrderedMap V := map.retain (fun other _ => other != key)

def popFirst (map : OrderedMap V) : OrderedMap V := ⟨map.entries.tail,map.sorted.tail⟩

def ofRange (start count : Nat) (value : Nat → V) : OrderedMap V :=
  ⟨(List.range' start count).map (fun key => (key,value key)),by
    rw [pairwise_map]
    exact pairwise_lt_range'⟩

-- The choice made at the greatest key up to the bound where it succeeds.
def latest? {α : Type} (map : OrderedMap V) (bound : Nat) (choose : V → Option α) : Option α :=
  (map.entries.filter (fun entry => entry.1 ≤ bound)).reverse.findSome? (fun entry => choose entry.2)

theorem lookup_eq_some (entries : List (Nat × V))
    (sorted : entries.Pairwise (fun left right => left.1 < right.1)) (key : Nat) (value : V) :
    lookup key entries = some value ↔ (key,value) ∈ entries := by
  induction entries with
  | nil => simp [lookup]
  | cons head rest ih =>
    obtain ⟨headKey,old⟩ := head
    obtain ⟨below,tail⟩ := pairwise_cons.mp sorted
    simp only [lookup,mem_cons,Prod.mk.injEq]
    split
    · rename_i same
      subst headKey
      have absent : (key,value) ∉ rest := fun inside => absurd (below (key,value) inside) (lt_irrefl key)
      simp [absent,eq_comm]
    · rename_i different
      rw [ih tail]
      simp [Ne.symm different]

theorem get?_eq_some (map : OrderedMap V) (key : Nat) (value : V) :
    map.get? key = some value ↔ (key,value) ∈ map.entries := lookup_eq_some _ map.sorted key value

theorem get?_eq_none (map : OrderedMap V) (key : Nat) :
    map.get? key = none ↔ ∀ value, (key,value) ∉ map.entries := by
  simp only [← get?_eq_some]
  cases map.get? key <;> simp

theorem ext {left right : OrderedMap V} (same : ∀ key, left.get? key = right.get? key) : left = right := by
  have members : ∀ entry, entry ∈ left.entries ↔ entry ∈ right.entries := by
    rintro ⟨key,value⟩
    rw [← get?_eq_some,← get?_eq_some,same]
  have distinct (map : OrderedMap V) : map.entries.Nodup :=
    map.sorted.imp (fun below same => by simp [same] at below)
  have entries : left.entries = right.entries := by
    refine List.Perm.eq_of_pairwise ?_ left.sorted right.sorted
      ((perm_ext_iff_of_nodup (distinct left) (distinct right)).mpr members)
    intro a b _ _ ab ba
    exact absurd (ab.trans ba) (lt_irrefl _)
  cases left; cases right
  simp_all

@[simp] theorem get?_empty (key : Nat) : (empty : OrderedMap V).get? key = none := rfl

theorem lookup_insertEntry (key other : Nat) (value : V) (entries : List (Nat × V)) :
    lookup other (insertEntry key value entries) =
      if other = key then some value else lookup other entries := by
  induction entries with
  | nil => simp [insertEntry,lookup,eq_comm]
  | cons head rest ih =>
    obtain ⟨headKey,old⟩ := head
    simp only [insertEntry]
    split
    · simp [lookup,eq_comm]
    · split
      · rename_i _ same
        subst same
        by_cases found : other = key
        · simp [lookup,found]
        · simp [lookup,found,Ne.symm found]
      · rename_i _ different
        simp only [lookup,ih]
        by_cases found : headKey = other
        · subst found
          simp [Ne.symm different]
        · simp [found]

theorem get?_insert (map : OrderedMap V) (key other : Nat) (value : V) :
    (map.insert key value).get? other = if other = key then some value else map.get? other :=
  lookup_insertEntry key other value map.entries

@[simp] theorem get?_insert_self (map : OrderedMap V) (key : Nat) (value : V) :
    (map.insert key value).get? key = some value := by simp [get?_insert]

theorem get?_retain (map : OrderedMap V) (keep : Nat → V → Bool) (key : Nat) :
    (map.retain keep).get? key = (map.get? key).filter (keep key) := by
  cases found : map.get? key with
  | none =>
    rw [Option.filter_none,get?_eq_none]
    intro value member
    exact (get?_eq_none map key).mp found value (mem_of_mem_filter member)
  | some value =>
    have member := (get?_eq_some map key value).mp found
    by_cases kept : keep key value
    · rw [Option.filter_some,if_pos kept,get?_eq_some]
      exact mem_filter.mpr ⟨member,kept⟩
    · rw [Option.filter_some,if_neg kept,get?_eq_none]
      intro other inside
      obtain ⟨present,passes⟩ := mem_filter.mp inside
      have same := Option.some.inj (found.symm.trans ((get?_eq_some map key other).mpr present))
      exact kept (same ▸ passes)

theorem get?_retain_key (map : OrderedMap V) (keep : Nat → Bool) (key : Nat) :
    (map.retain (fun other _ => keep other)).get? key = if keep key then map.get? key else none := by
  rw [get?_retain]
  cases map.get? key <;> cases keep key <;> simp

theorem get?_erase (map : OrderedMap V) (key other : Nat) :
    (map.erase key).get? other = if other = key then none else map.get? other := by
  rw [erase,get?_retain_key]
  by_cases same : other = key <;> simp [same]

theorem get?_ofRange (start count : Nat) (value : Nat → V) (key : Nat) :
    (ofRange start count value).get? key =
      if start ≤ key ∧ key < start + count then some (value key) else none := by
  split
  · rename_i inside
    rw [get?_eq_some]
    exact mem_map.mpr ⟨key,by simpa [List.mem_range'_1] using inside,rfl⟩
  · rename_i outside
    rw [get?_eq_none]
    intro other member
    obtain ⟨index,within,same⟩ := mem_map.mp member
    obtain rfl := congrArg Prod.fst same
    exact outside (by simpa [List.mem_range'_1] using within)

theorem first?_eq_none (map : OrderedMap V) : map.first? = none ↔ ∀ key, map.get? key = none := by
  simp only [first?,List.head?_eq_none_iff,get?_eq_none]
  constructor
  · intro none key value member
    simp [none] at member
  · intro none
    apply eq_nil_iff_forall_not_mem.mpr
    rintro ⟨key,value⟩
    exact none key value

theorem first?_eq_some (map : OrderedMap V) (key : Nat) (value : V) (found : map.first? = some (key,value)) :
    map.get? key = some value ∧ ∀ other, (map.get? other).isSome → key ≤ other := by
  obtain ⟨rest,entries⟩ := List.head?_eq_some_iff.mp found
  have sorted := map.sorted
  rw [entries] at sorted
  constructor
  · rw [get?_eq_some,entries]
    simp
  · intro other present
    obtain ⟨old,found⟩ := Option.isSome_iff_exists.mp present
    rw [get?_eq_some,entries] at found
    rcases mem_cons.mp found with same | inside
    · exact (congrArg Prod.fst same).ge
    · exact ((pairwise_cons.mp sorted).1 _ inside).le

theorem get?_popFirst (map : OrderedMap V) (key : Nat) (value : V) (found : map.first? = some (key,value))
    (other : Nat) : map.popFirst.get? other = if other = key then none else map.get? other := by
  obtain ⟨rest,entries⟩ := List.head?_eq_some_iff.mp found
  have sorted := map.sorted
  rw [entries] at sorted
  have below := (pairwise_cons.mp sorted).1
  simp only [get?,popFirst,entries,tail_cons,lookup]
  split
  · rename_i same
    subst same
    have absent := (get?_eq_none map.popFirst other).mpr (by
      intro old inside
      simp only [popFirst,entries,tail_cons] at inside
      exact absurd (below (other,old) inside) (lt_irrefl other))
    simpa only [get?,popFirst,entries,tail_cons] using absent
  · rename_i different
    simp [Ne.symm different]

theorem keys_nodup (map : OrderedMap V) : map.keys.Nodup := by
  rw [keys,List.Nodup,pairwise_map]
  exact map.sorted.imp (fun below => ne_of_lt below)

theorem mem_keys (map : OrderedMap V) (key : Nat) : key ∈ map.keys ↔ (map.get? key).isSome := by
  rw [Option.isSome_iff_exists]
  simp [keys,get?_eq_some]

theorem length_insertEntry (key : Nat) (value : V) (entries : List (Nat × V)) :
    (insertEntry key value entries).length ≤ entries.length + 1 := by
  induction entries with
  | nil => exact Nat.le_refl 1
  | cons entry rest ih =>
    unfold insertEntry
    split
    · exact le_rfl
    · split
      · exact Nat.le_succ _
      · exact Nat.succ_le_succ ih

theorem size_insert_le (map : OrderedMap V) (key : Nat) (value : V) : (map.insert key value).size ≤ map.size + 1 :=
  length_insertEntry key value map.entries

theorem size_retain_le (map : OrderedMap V) (keep : Nat → V → Bool) : (map.retain keep).size ≤ map.size :=
  length_filter_le ..

theorem size_popFirst (map : OrderedMap V) : map.popFirst.size = map.size - 1 := length_tail

theorem size_le_of_keys (map : OrderedMap V) (low count : Nat)
    (inside : ∀ key, (map.get? key).isSome → low ≤ key ∧ key < low + count) : map.size ≤ count := by
  have subset : map.keys ⊆ List.range' low count := by
    intro key member
    simpa [List.mem_range'_1] using inside key ((mem_keys map key).mp member)
  simpa [size,keys] using (subperm_of_subset map.keys_nodup subset).length_le

theorem le_size_of_present (map : OrderedMap V) (low count : Nat)
    (present : ∀ key, low ≤ key → key < low + count → (map.get? key).isSome) : count ≤ map.size := by
  have subset : List.range' low count ⊆ map.keys := by
    intro key member
    obtain ⟨above,below⟩ := List.mem_range'_1.mp member
    exact (mem_keys map key).mpr (present key above below)
  simpa [size,keys] using (subperm_of_subset nodup_range' subset).length_le

theorem latest?_of_get? {α : Type} (map : OrderedMap V) (bound : Nat) (choose : V → Option α) (value : V)
    (chosen : α) (found : map.get? bound = some value) (success : choose value = some chosen) :
    map.latest? bound choose = some chosen := by
  obtain ⟨before,after,entries⟩ := append_of_mem ((get?_eq_some map bound value).mp found)
  have sorted := map.sorted
  rw [entries,pairwise_append] at sorted
  have above : ∀ entry ∈ after, ¬ entry.1 ≤ bound := by
    intro entry member
    have := (pairwise_cons.mp sorted.2.1).1 entry member
    simp only at this
    omega
  have rest : after.filter (fun entry => decide (entry.1 ≤ bound)) = [] := by
    simpa [filter_eq_nil_iff] using above
  simp [latest?,entries,rest,success]

end OrderedMap
end ZeffBoy.Library
