import ZeffBoy.Patching.OverlaySpans

/-! Inserting a span into an overlay: what it covers is replaced, and everything else stays as it was. -/
namespace ZeffBoy.Patching
open Library List

/-- The spans of a map, each under its start, apart from each other and inside an image. -/
structure SpansFit (spans : OrderedMap OverlaySpan) (len : Nat) : Prop where
  keyed : ∀ key span, spans.get? key = some span → span.start = key
  filled : ∀ key span, spans.get? key = some span → 0 < span.len
  inside : ∀ key span, spans.get? key = some span → span.stop ≤ len
  backed : ∀ key span, spans.get? key = some span → span.dataStart + span.len ≤ span.data.length
  apart : ∀ left right first second, spans.get? left = some first → spans.get? right = some second → left < right →
    first.stop ≤ right

def Overlaps (start stop : Nat) (span : OverlaySpan) : Prop := span.start < stop ∧ start < span.stop

def Shows (spans : OrderedMap OverlaySpan) (position : Nat) (byte : UInt8) : Prop :=
  ∃ key span, spans.get? key = some span ∧ span.at? position = some byte

theorem mem_values (spans : OrderedMap OverlaySpan) (span : OverlaySpan) :
    span ∈ spans.values ↔ ∃ key, spans.get? key = some span := by
  simp [OrderedMap.values,OrderedMap.get?_eq_some]

variable {spans : OrderedMap OverlaySpan}

theorem SpansFit.laid {len : Nat} (fit : SpansFit spans len) : Laid spans.values len where
  ordered := by
    rw [OrderedMap.values,pairwise_map]
    apply spans.sorted.imp_of_mem
    intro left right first second below
    have atLeft := (spans.get?_eq_some left.1 left.2).mpr first
    have atRight := (spans.get?_eq_some right.1 right.2).mpr second
    rw [fit.keyed _ _ atRight]
    exact fit.apart _ _ _ _ atLeft atRight below
  filled span member := by
    obtain ⟨key,found⟩ := (mem_values spans span).mp member
    exact fit.filled key span found
  inside span member := by
    obtain ⟨key,found⟩ := (mem_values spans span).mp member
    exact fit.inside key span found
  backed span member := by
    obtain ⟨key,found⟩ := (mem_values spans span).mp member
    exact fit.backed key span found

theorem SpansFit.shownAt {len : Nat} (fit : SpansFit spans len) (position : Nat)
    (byte : UInt8) : shownAt spans.values position = some byte ↔ Shows spans position byte := by
  rw [shownAt_eq_some fit.laid.ordered]
  constructor
  · rintro ⟨span,member,shown⟩
    obtain ⟨key,found⟩ := (mem_values spans span).mp member
    exact ⟨key,span,found,shown⟩
  · rintro ⟨key,span,found,shown⟩
    exact ⟨span,(mem_values spans span).mpr ⟨key,found⟩,shown⟩

theorem spansFit_empty (len : Nat) : SpansFit .empty len := by
  constructor <;> intros <;> contradiction

theorem get?_trimSpan {start stop key : Nat} {old : OverlaySpan}
    (found : spans.get? key = some old) (keyed : old.start = key) (other : Nat) :
    (trimSpan start stop spans key).get? other =
      if stop < old.stop ∧ other = stop then some ⟨stop,old.data,old.dataStart + stop - old.start,old.stop - stop⟩
      else if other = key then (if old.start < start then some { old with len := start - old.start } else none)
      else spans.get? other := by
  have front : ((if old.start < start then (spans.erase key).insert old.start { old with len := start - old.start }
      else spans.erase key) : OrderedMap OverlaySpan).get? other =
        if other = key then (if old.start < start then some { old with len := start - old.start } else none)
        else spans.get? other := by
    split
    · rw [OrderedMap.get?_insert,OrderedMap.get?_erase,keyed]
      split <;> rfl
    · rw [OrderedMap.get?_erase]
  rw [trimSpan,found]
  dsimp only
  split
  · rename_i longer
    rw [OrderedMap.get?_insert,front]
    simp only [longer,true_and]
  · rename_i shorter
    rw [front]
    simp only [shorter,false_and,if_false]

section
variable {len start stop key : Nat} {old : OverlaySpan}

theorem trimSpan_cases (found : spans.get? key = some old) (keyed : old.start = key) (other : Nat) (span : OverlaySpan)
    (present : (trimSpan start stop spans key).get? other = some span) :
    (stop < old.stop ∧ other = stop ∧ span = ⟨stop,old.data,old.dataStart + stop - old.start,old.stop - stop⟩) ∨
      (other = key ∧ key < start ∧ span = { old with len := start - key }) ∨
      (other ≠ key ∧ spans.get? other = some span) := by
  rw [get?_trimSpan found keyed] at present
  split at present
  · rename_i behind
    exact .inl ⟨behind.1,behind.2,(Option.some.inj present).symm⟩
  · split at present
    · rename_i same
      split at present
      · rename_i before
        refine .inr (.inl ⟨same,keyed ▸ before,?_⟩)
        rw [← keyed]
        exact (Option.some.inj present).symm
      · cases present
    · rename_i different
      exact .inr (.inr ⟨different,present⟩)

theorem trimSpan_fit (ordered : start < stop) (fit : SpansFit spans len) (found : spans.get? key = some old)
    (overlaps : Overlaps start stop old) :
    SpansFit (trimSpan start stop spans key) len := by
  have keyed := fit.keyed key old found
  have filled := fit.filled key old found
  have inside := fit.inside key old found
  have backed := fit.backed key old found
  have stops : old.stop = old.start + old.len := rfl
  obtain ⟨low,high⟩ := overlaps
  refine ⟨?_,?_,?_,?_,?_⟩
  · intro other span present
    rcases trimSpan_cases found keyed other span present with ⟨_,rfl,rfl⟩ | ⟨rfl,_,rfl⟩ | ⟨_,kept⟩
    · rfl
    · exact keyed
    · exact fit.keyed other span kept
  · intro other span present
    rcases trimSpan_cases found keyed other span present with ⟨longer,rfl,rfl⟩ | ⟨rfl,before,rfl⟩ | ⟨_,kept⟩
    · exact Nat.sub_pos_of_lt longer
    · exact Nat.sub_pos_of_lt before
    · exact fit.filled other span kept
  · intro other span present
    rcases trimSpan_cases found keyed other span present with ⟨longer,rfl,rfl⟩ | ⟨rfl,before,rfl⟩ | ⟨_,kept⟩
    · simp only [OverlaySpan.stop] at *
      omega
    · simp only [OverlaySpan.stop] at *
      omega
    · exact fit.inside other span kept
  · intro other span present
    rcases trimSpan_cases found keyed other span present with ⟨longer,rfl,rfl⟩ | ⟨rfl,before,rfl⟩ | ⟨_,kept⟩
    · simp only at *
      omega
    · simp only at *
      omega
    · exact fit.backed other span kept
  · intro left right first second atLeft atRight below
    rcases trimSpan_cases found keyed left first atLeft with ⟨longer,rfl,rfl⟩ | ⟨rfl,before,rfl⟩ | ⟨other,kept⟩
    · rcases trimSpan_cases found keyed right second atRight with ⟨_,rfl,rfl⟩ | ⟨rfl,_,rfl⟩ | ⟨apart,later⟩
      · omega
      · omega
      · have behind := fit.apart _ _ _ _ found later (by omega)
        simp only [OverlaySpan.stop] at *
        omega
    · rcases trimSpan_cases found keyed right second atRight with ⟨_,rfl,rfl⟩ | ⟨rfl,_,rfl⟩ | ⟨apart,later⟩
      · simp only [OverlaySpan.stop] at *
        omega
      · omega
      · have behind := fit.apart _ _ _ _ found later below
        simp only [OverlaySpan.stop] at *
        omega
    · rcases trimSpan_cases found keyed right second atRight with ⟨longer,rfl,rfl⟩ | ⟨rfl,_,rfl⟩ | ⟨apart,later⟩
      · rcases lt_or_ge left key with before | behind
        · have front := fit.apart _ _ _ _ kept found before
          omega
        · have back := fit.apart _ _ _ _ found kept (by omega)
          omega
      · exact fit.apart _ _ _ _ kept found below
      · exact fit.apart _ _ _ _ kept later below

theorem at?_mk (from' : Nat) (data : Bytes) (dataStart count position : Nat) :
    OverlaySpan.at? ⟨from',data,dataStart,count⟩ position =
      if from' ≤ position ∧ position < from' + count then data[dataStart + (position - from')]? else none := rfl

theorem at?_front {position : Nat} (before : old.start < start) (high : start < old.stop) :
    OverlaySpan.at? { old with len := start - old.start } position =
      if position < start then old.at? position else none := by
  have stops : old.stop = old.start + old.len := rfl
  rw [at?_mk,OverlaySpan.at?]
  by_cases front : position < start
  · rw [if_pos front]
    by_cases reached : old.start ≤ position
    · rw [if_pos (by omega),if_pos (by omega)]
    · rw [if_neg (by omega),if_neg (by omega)]
  · rw [if_neg front,if_neg (by omega)]

theorem at?_behind {position : Nat} (low : old.start < stop) (longer : stop < old.stop) :
    OverlaySpan.at? ⟨stop,old.data,old.dataStart + stop - old.start,old.stop - stop⟩ position =
      if stop ≤ position then old.at? position else none := by
  rw [at?_mk,OverlaySpan.at?]
  by_cases behind : stop ≤ position
  · rw [if_pos behind]
    by_cases reached : position < old.stop
    · rw [if_pos (by omega),if_pos (by omega)]
      congr 1
      omega
    · rw [if_neg (by omega),if_neg (by omega)]
  · rw [if_neg behind,if_neg (by omega)]

theorem trimSpan_shows (fit : SpansFit spans len) (found : spans.get? key = some old) (overlaps : Overlaps start stop old)
    (position : Nat) (outside : position < start ∨ stop ≤ position) (byte : UInt8) :
    Shows (trimSpan start stop spans key) position byte ↔ Shows spans position byte := by
  have keyed := fit.keyed key old found
  obtain ⟨low,high⟩ := overlaps
  constructor
  · rintro ⟨other,span,present,shown⟩
    rcases trimSpan_cases found keyed other span present with ⟨longer,rfl,rfl⟩ | ⟨rfl,before,rfl⟩ | ⟨_,kept⟩
    · rw [at?_behind low longer] at shown
      split at shown
      · exact ⟨key,old,found,shown⟩
      · cases shown
    · subst keyed
      rw [at?_front before high] at shown
      split at shown
      · exact ⟨old.start,old,found,shown⟩
      · cases shown
    · exact ⟨other,span,kept,shown⟩
  · rintro ⟨other,span,present,shown⟩
    have place := OverlaySpan.at?_inside shown
    by_cases same : other = key
    · subst same
      obtain rfl : old = span := Option.some.inj (found.symm.trans present)
      rcases outside with front | behind
      · have before : old.start < start := by omega
        refine ⟨other,{ old with len := start - old.start },?_,?_⟩
        · rw [get?_trimSpan found keyed,if_neg (by omega),if_pos rfl,if_pos before]
        · rw [at?_front before high,if_pos front]
          exact shown
      · have longer : stop < old.stop := by omega
        refine ⟨stop,⟨stop,old.data,old.dataStart + stop - old.start,old.stop - stop⟩,?_,?_⟩
        · rw [get?_trimSpan found keyed,if_pos ⟨longer,rfl⟩]
        · rw [at?_behind low longer,if_pos behind]
          exact shown
    · refine ⟨other,span,?_,shown⟩
      have apart : ¬(stop < old.stop ∧ other = stop) := by
        rintro ⟨longer,rfl⟩
        have front := fit.apart _ _ _ _ found present (by omega)
        omega
      rw [get?_trimSpan found keyed,if_neg apart,if_neg same]
      exact present

theorem trimSpan_overlapping (fit : SpansFit spans len) (found : spans.get? key = some old) (other : Nat)
    (span : OverlaySpan) (overlaps : Overlaps start stop span) :
    (trimSpan start stop spans key).get? other = some span ↔ other ≠ key ∧ spans.get? other = some span := by
  have keyed := fit.keyed key old found
  obtain ⟨low,high⟩ := overlaps
  constructor
  · intro present
    rcases trimSpan_cases found keyed other span present with ⟨longer,rfl,rfl⟩ | ⟨rfl,before,rfl⟩ | kept
    · exact absurd low (lt_irrefl _)
    · simp only [OverlaySpan.stop] at high
      omega
    · exact kept
  · rintro ⟨different,present⟩
    have place := fit.keyed other span present
    rw [get?_trimSpan found keyed,if_neg (by omega),if_neg different]
    exact present

theorem foldl_trimSpan (ordered : start < stop) (keys : List Nat) (distinct : keys.Nodup) (fit : SpansFit spans len)
    (listed : ∀ key, key ∈ keys ↔ ∃ span, spans.get? key = some span ∧ Overlaps start stop span) :
    SpansFit (keys.foldl (trimSpan start stop) spans) len ∧
      (∀ key span, (keys.foldl (trimSpan start stop) spans).get? key = some span → ¬Overlaps start stop span) ∧
      ∀ position, position < start ∨ stop ≤ position → ∀ byte,
        Shows (keys.foldl (trimSpan start stop) spans) position byte ↔ Shows spans position byte := by
  induction keys generalizing spans with
  | nil =>
    refine ⟨fit,?_,fun _ _ _ => Iff.rfl⟩
    intro key span present overlaps
    exact not_mem_nil ((listed key).mpr ⟨span,present,overlaps⟩)
  | cons key keys ih =>
    obtain ⟨old,found,overlaps⟩ := (listed key).mp mem_cons_self
    obtain ⟨absent,rest⟩ := nodup_cons.mp distinct
    have later : ∀ other, other ∈ keys ↔
        ∃ span, (trimSpan start stop spans key).get? other = some span ∧ Overlaps start stop span := by
      intro other
      constructor
      · intro member
        obtain ⟨span,present,across⟩ := (listed other).mp (mem_cons_of_mem key member)
        have different : other ≠ key := fun same => absent (same ▸ member)
        exact ⟨span,(trimSpan_overlapping fit found other span across).mpr ⟨different,present⟩,across⟩
      · rintro ⟨span,present,across⟩
        obtain ⟨different,before⟩ := (trimSpan_overlapping fit found other span across).mp present
        exact (mem_cons.mp ((listed other).mpr ⟨span,before,across⟩)).resolve_left different
    obtain ⟨fits,clear,shows'⟩ := ih rest (trimSpan_fit ordered fit found overlaps) later
    refine ⟨fits,clear,?_⟩
    intro position outside byte
    rw [foldl_cons,shows' position outside byte,trimSpan_shows fit found overlaps position outside byte]

theorem getLast?_of_greatest {α : Type} (key : α → Nat) (values : List α)
    (sorted : values.Pairwise (fun left right => key left < key right)) (value : α) (member : value ∈ values)
    (greatest : ∀ other ∈ values, key other ≤ key value) : values.getLast? = some value := by
  obtain ⟨before,after,rfl⟩ := append_of_mem member
  have last : after = [] := by
    apply eq_nil_iff_forall_not_mem.mpr
    intro other inside
    have above := (pairwise_cons.mp (pairwise_append.mp sorted).2.1).1 other inside
    have below := greatest other (mem_append_right _ (mem_cons_of_mem _ inside))
    omega
  rw [last,List.getLast?_append]
  rfl

theorem mem_overlapKeys (ordered : start < stop) (fit : SpansFit spans len) (key : Nat) : key ∈ overlapKeys spans start stop ↔
    ∃ span, spans.get? key = some span ∧ Overlaps start stop span := by
  rw [overlapKeys,mem_dedup,mem_mergeSort,map_append,mem_append]
  constructor
  · rintro (before | inside)
    · obtain ⟨⟨other,span⟩,member,rfl⟩ := mem_map.mp before
      obtain ⟨last,reaches⟩ := Option.filter_eq_some_iff.mp (Option.mem_toList.mp member)
      obtain ⟨present,low⟩ := mem_filter.mp (List.mem_of_getLast? last)
      have found := (spans.get?_eq_some other span).mpr present
      have keyed := fit.keyed other span found
      simp only [decide_eq_true_eq] at reaches low
      exact ⟨span,found,by omega,reaches⟩
    · obtain ⟨⟨other,span⟩,member,rfl⟩ := mem_map.mp inside
      obtain ⟨present,within⟩ := mem_filter.mp member
      have found := (spans.get?_eq_some other span).mpr present
      have keyed := fit.keyed other span found
      have filled := fit.filled other span found
      have stops : span.stop = span.start + span.len := rfl
      simp only [decide_eq_true_eq] at within
      exact ⟨span,found,by omega,by omega⟩
  · rintro ⟨span,found,low,high⟩
    have keyed := fit.keyed key span found
    have present := (spans.get?_eq_some key span).mp found
    by_cases reached : start ≤ key
    · refine .inr (mem_map.mpr ⟨(key,span),mem_filter.mpr ⟨present,?_⟩,rfl⟩)
      simp only [decide_eq_true_eq]
      omega
    · refine .inl (mem_map.mpr ⟨(key,span),Option.mem_toList.mpr (Option.filter_eq_some_iff.mpr ⟨?_,?_⟩),rfl⟩)
      · apply getLast?_of_greatest Prod.fst _ (spans.sorted.filter _)
        · exact mem_filter.mpr ⟨present,by simpa using Nat.le_of_not_le reached⟩
        · intro other member
          obtain ⟨atOther,below⟩ := mem_filter.mp member
          simp only [decide_eq_true_eq] at below
          by_contra above
          have front := fit.apart key other.1 span other.2 found ((spans.get?_eq_some _ _).mpr atOther)
            (Nat.lt_of_not_le above)
          omega
      · simpa using high

theorem nodup_overlapKeys : (overlapKeys spans start stop).Nodup := nodup_dedup _

end

theorem insertSpan_spec {len start : Nat} {bytes : Bytes} (filled : bytes ≠ [])
    (inside : start + bytes.length ≤ len) (fit : SpansFit spans len) : SpansFit (insertSpan spans start bytes) len ∧
      ∀ position byte, Shows (insertSpan spans start bytes) position byte ↔
        if start ≤ position ∧ position < start + bytes.length then bytes[position - start]? = some byte
        else Shows spans position byte := by
  have some' : 0 < bytes.length := length_pos_iff.mpr filled
  have ordered : start < start + bytes.length := by omega
  obtain ⟨fits,clear,same⟩ := foldl_trimSpan ordered _ nodup_overlapKeys fit (mem_overlapKeys ordered fit)
  rw [insertSpan]
  generalize (overlapKeys spans start (start + bytes.length)).foldl (trimSpan start (start + bytes.length)) spans = rest at *
  have apart : ∀ key span, rest.get? key = some span → span.stop ≤ start ∨ start + bytes.length ≤ span.start := by
    intro key span present
    have off := clear key span present
    unfold Overlaps at off
    omega
  have cases (key : Nat) (span : OverlaySpan)
      (present : (rest.insert start ⟨start,bytes,0,bytes.length⟩).get? key = some span) :
      (key = start ∧ span = ⟨start,bytes,0,bytes.length⟩) ∨ (key ≠ start ∧ rest.get? key = some span) := by
    rw [OrderedMap.get?_insert] at present
    split at present
    · rename_i here
      exact .inl ⟨here,(Option.some.inj present).symm⟩
    · rename_i elsewhere
      exact .inr ⟨elsewhere,present⟩
  refine ⟨⟨?_,?_,?_,?_,?_⟩,?_⟩
  · intro key span present
    rcases cases key span present with ⟨rfl,rfl⟩ | ⟨_,kept⟩
    · rfl
    · exact fits.keyed key span kept
  · intro key span present
    rcases cases key span present with ⟨rfl,rfl⟩ | ⟨_,kept⟩
    · exact some'
    · exact fits.filled key span kept
  · intro key span present
    rcases cases key span present with ⟨rfl,rfl⟩ | ⟨_,kept⟩
    · exact inside
    · exact fits.inside key span kept
  · intro key span present
    rcases cases key span present with ⟨rfl,rfl⟩ | ⟨_,kept⟩
    · exact (zero_add _).le
    · exact fits.backed key span kept
  · intro left right first second atLeft atRight below
    rcases cases left first atLeft with ⟨rfl,rfl⟩ | ⟨_,kept⟩
    · rcases cases right second atRight with ⟨rfl,rfl⟩ | ⟨_,later⟩
      · omega
      · have off := apart right second later
        have keyed := fits.keyed right second later
        have stops : second.stop = second.start + second.len := rfl
        simp only [OverlaySpan.stop] at *
        omega
    · rcases cases right second atRight with ⟨rfl,rfl⟩ | ⟨_,later⟩
      · have off := apart left first kept
        have keyed := fits.keyed left first kept
        omega
      · exact fits.apart left right first second kept later below
  · intro position byte
    by_cases within : start ≤ position ∧ position < start + bytes.length
    · rw [if_pos within]
      have shown : OverlaySpan.at? ⟨start,bytes,0,bytes.length⟩ position = bytes[position - start]? := by
        rw [at?_mk,if_pos within,zero_add]
      constructor
      · rintro ⟨key,span,present,found⟩
        rcases cases key span present with ⟨rfl,rfl⟩ | ⟨_,kept⟩
        · exact shown.symm.trans found
        · have off := apart key span kept
          have place := OverlaySpan.at?_inside found
          omega
      · intro found
        exact ⟨start,_,OrderedMap.get?_insert_self rest start _,shown.trans found⟩
    · rw [if_neg within,← same position (by omega) byte]
      constructor
      · rintro ⟨key,span,present,found⟩
        rcases cases key span present with ⟨rfl,rfl⟩ | ⟨_,kept⟩
        · exact absurd (OverlaySpan.at?_inside found) within
        · exact ⟨key,span,kept,found⟩
      · rintro ⟨key,span,kept,found⟩
        have elsewhere : key ≠ start := by
          intro here
          have off := apart key span kept
          have keyed := fits.keyed key span kept
          have some'' := fits.filled key span kept
          have stops : span.stop = span.start + span.len := rfl
          omega
        exact ⟨key,span,by rw [OrderedMap.get?_insert,if_neg elsewhere]; exact kept,found⟩

end ZeffBoy.Patching
