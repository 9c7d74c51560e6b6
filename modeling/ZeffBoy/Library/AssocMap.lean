import Mathlib

/-! Finite maps over keys without an order. A map is the list of its entries, one for each key;
what it answers to a lookup does not depend on where an entry stands. -/
namespace ZeffBoy.Library
open List

structure AssocMap (K V : Type) where
  entries : List (K × V)
  distinct : (entries.map Prod.fst).Nodup

namespace AssocMap
variable {K V : Type}

def empty : AssocMap K V := ⟨[],.nil⟩

def size (map : AssocMap K V) : Nat := map.entries.length

def retain (map : AssocMap K V) (keep : K → V → Bool) : AssocMap K V :=
  ⟨map.entries.filter (fun entry => keep entry.1 entry.2),map.distinct.sublist (filter_sublist.map Prod.fst)⟩

theorem size_retain_le (map : AssocMap K V) (keep : K → V → Bool) : (map.retain keep).size ≤ map.size :=
  length_filter_le _ _

variable [DecidableEq K]

def get? (map : AssocMap K V) (key : K) : Option V := (map.entries.find? (fun entry => entry.1 = key)).map Prod.snd

def erase (map : AssocMap K V) (key : K) : AssocMap K V := map.retain (fun other _ => other ≠ key)

def insert (map : AssocMap K V) (key : K) (value : V) : AssocMap K V where
  entries := (key,value)::(map.erase key).entries
  distinct := by
    rw [map_cons,nodup_cons]
    refine ⟨?_,(map.erase key).distinct⟩
    intro member
    obtain ⟨entry,inside,same⟩ := mem_map.mp member
    have kept := (mem_filter.mp inside).2
    simp [same] at kept

theorem get?_eq_some (map : AssocMap K V) (key : K) (value : V) :
    map.get? key = some value ↔ (key,value) ∈ map.entries := by
  obtain ⟨entries,distinct⟩ := map
  unfold get?
  dsimp only
  induction entries with
  | nil => simp
  | cons entry entries ih =>
    obtain ⟨head,old⟩ := entry
    obtain ⟨absent,rest⟩ := nodup_cons.mp distinct
    rw [List.find?_cons,mem_cons,Prod.mk.injEq]
    by_cases same : head = key
    · subst same
      have missing : (head,value) ∉ entries := fun inside => absent (mem_map.mpr ⟨(head,value),inside,rfl⟩)
      simp [missing,eq_comm]
    · simp only [same,decide_false]
      rw [ih rest]
      simp [Ne.symm same]

@[simp] theorem get?_empty (key : K) : (empty : AssocMap K V).get? key = none := rfl

theorem get?_retain (map : AssocMap K V) (keep : K → V → Bool) (key : K) :
    (map.retain keep).get? key = (map.get? key).filter (keep key) := by
  ext value
  rw [get?_eq_some,Option.filter_eq_some_iff,get?_eq_some]
  exact mem_filter

theorem get?_erase (map : AssocMap K V) (key other : K) :
    (map.erase key).get? other = if other = key then none else map.get? other := by
  rw [erase,get?_retain]
  by_cases same : other = key
  · rw [if_pos same]
    cases map.get? other <;> simp [same]
  · rw [if_neg same]
    cases map.get? other <;> simp [same]

theorem get?_insert (map : AssocMap K V) (key other : K) (value : V) :
    (map.insert key value).get? other = if other = key then some value else map.get? other := by
  ext found
  rw [get?_eq_some]
  change (other,found) ∈ (key,value)::(map.erase key).entries ↔ _
  rw [mem_cons,← get?_eq_some,get?_erase,Prod.mk.injEq]
  by_cases same : other = key
  · simp [same,eq_comm]
  · simp [same]

theorem size_erase_le (map : AssocMap K V) (key : K) : (map.erase key).size ≤ map.size := size_retain_le _ _

theorem size_insert_le (map : AssocMap K V) (key : K) (value : V) : (map.insert key value).size ≤ map.size + 1 :=
  Nat.succ_le_succ (size_erase_le map key)

theorem size_erase_present (map : AssocMap K V) (key : K) (old : V) (found : map.get? key = some old) :
    (map.erase key).size < map.size := by
  have member := (get?_eq_some map key old).mp found
  apply length_filter_lt_length_iff_exists.mpr
  exact ⟨(key,old),member,by simp⟩

theorem size_insert_present (map : AssocMap K V) (key : K) (value old : V) (found : map.get? key = some old) :
    (map.insert key value).size ≤ map.size :=
  Nat.succ_le_of_lt (size_erase_present map key old found)

theorem get?_erase_insert (map : AssocMap K V) (key other : K) (value : V) :
    ((map.insert key value).erase key).get? other = if other = key then none else map.get? other := by
  rw [get?_erase,get?_insert]
  split <;> rfl

theorem size_erase_insert_le (map : AssocMap K V) (key : K) (value : V) :
    ((map.insert key value).erase key).size ≤ map.size := by
  have present : (map.insert key value).get? key = some value := by rw [get?_insert,if_pos rfl]
  have smaller := size_erase_present _ key value present
  have bound := size_insert_le map key value
  omega

end AssocMap
end ZeffBoy.Library
