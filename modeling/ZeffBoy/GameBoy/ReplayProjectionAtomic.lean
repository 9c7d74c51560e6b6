import ZeffBoy.GameBoy.ReplayProjection

/-! When the projection of a save state changes a file halfway.
Everything up to the first cut checks what it reads, but for the end of the native payload, which comes from the file. -/
namespace ZeffBoy.GameBoy
open Library

variable {bytes : Bytes}

theorem index_of_le {start stop : Nat} (ordered : start ≤ stop) (inside : stop ≤ bytes.length) :
    index bytes start stop = .ok (slice bytes start stop) := if_pos ⟨ordered,inside⟩

theorem readU32Le_of_le {start : Nat} (inside : start + 4 ≤ bytes.length) :
    readU32Le bytes start = .ok (leValue (slice bytes start (start + 4))) := by
  rw [readU32Le,index_of_le (Nat.le_add_right start 4) inside]
  rfl

theorem bind_outOfRange {α β : Type} {first : Attempt α} {next : α → Attempt β}
    (fault : (first >>= next) = .error .outOfRange) :
    first = .error .outOfRange ∨ ∃ value, first = .ok value ∧ next value = .error .outOfRange := by
  cases first with
  | error _ => exact .inl (congrArg _ (Except.error.inj fault))
  | ok value => exact .inr ⟨value,rfl,fault⟩

theorem bailing_inRange {α : Type} {result : Except String α} : bailing result ≠ .error .outOfRange := by
  cases result <;> simp [bailing,Except.mapError]

theorem bail_of_inRange {α : Type} {attempt : Attempt α} {fault : Fault} (inRange : attempt ≠ .error .outOfRange)
    (fails : attempt = .error fault) : ∃ message, fault = .bail message := by
  cases fault with
  | bail message => exact ⟨message,rfl⟩
  | outOfRange => exact absurd fails inRange

theorem readBlock_inRange {footerStart : Nat} (footer : footerStart ≤ bytes.length) (pos : Nat) :
    readBlock bytes pos footerStart ≠ .error .outOfRange := by
  intro fault
  unfold readBlock at fault
  rcases bind_outOfRange fault with out | ⟨headerEnd,added,fault⟩
  · exact bailing_inRange out
  obtain ⟨_,rfl⟩ := checkedAdd_ok.mp ((bailing_ok ..).mp added)
  rcases bind_outOfRange fault with out | ⟨_,whole,fault⟩
  · exact bailing_inRange out
  have header := ensure_ok.mp ((bailing_ok ..).mp whole)
  have id := @index_of_le bytes _ _ (Nat.le_add_right pos 4) (by omega)
  have len := @readU32Le_of_le bytes (pos + 4) (by omega)
  rw [id,len,ok_bind,ok_bind] at fault
  rcases bind_outOfRange fault with out | ⟨dataEnd,_,fault⟩
  · exact bailing_inRange out
  rcases bind_outOfRange fault with out | ⟨_,_,fault⟩
  · exact bailing_inRange out
  cases fault

theorem index_overwrite {start stop place : Nat} (data : Bytes) (inside : place + data.length ≤ bytes.length)
    (before : stop ≤ place) : index (overwrite bytes place data) start stop = index bytes start stop := by
  rw [index,index,length_overwrite bytes place data inside,slice_overwrite bytes place start stop data inside (.inl before)]

section Core
variable {pos footerStart : Nat}

theorem findCore_fault {fault : Fault} (before : pos < footerStart) (read : readBlock bytes pos footerStart = .error fault) :
    findCore bytes pos footerStart = .error fault := by
  rw [findCore,if_pos before]
  split <;> simp_all

theorem findCore_block {block : BessBlock} (before : pos < footerStart)
    (read : readBlock bytes pos footerStart = .ok block) :
    findCore bytes pos footerStart = if block.id = blockCore then do
        bailing (ensure (block.len = coreBlockLen) "invalid BESS CORE block length")
        return block.headerEnd
      else findCore bytes block.dataEnd footerStart := by
  rw [findCore,if_pos before]
  split <;> simp_all

theorem findCore_end (past : ¬pos < footerStart) :
    findCore bytes pos footerStart = .error (.bail "native save state is missing BESS CORE block") := by
  rw [findCore,if_neg past]

theorem findCore_inRange (footer : footerStart ≤ bytes.length) : findCore bytes pos footerStart ≠ .error .outOfRange := by
  induction pos using findCore.induct bytes footerStart with
  | case1 pos before fault read =>
    rw [findCore_fault before read]
    intro out
    cases out
    exact readBlock_inRange footer pos read
  | case2 pos before block read core =>
    rw [findCore_block before read,if_pos core]
    intro fault
    rcases bind_outOfRange fault with out | ⟨_,_,fault⟩
    · exact bailing_inRange out
    · cases fault
  | case3 pos before block read other ih =>
    rw [findCore_block before read,if_neg other]
    exact ih
  | case4 pos past =>
    rw [findCore_end past]
    intro fault
    cases fault

theorem findCore_ok {headerEnd : Nat} (found : findCore bytes pos footerStart = .ok headerEnd) :
    8 ≤ headerEnd ∧ headerEnd + coreBlockLen ≤ footerStart := by
  induction pos using findCore.induct bytes footerStart with
  | case1 pos before fault read =>
    rw [findCore_fault before read] at found
    cases found
  | case2 pos before block read core =>
    rw [findCore_block before read,if_pos core,check_bind_ok,bailing_ok,ensure_ok] at found
    obtain ⟨len,same⟩ := found
    cases same
    obtain ⟨start,dataEnd,inside⟩ := readBlock_ok read
    omega
  | case3 pos before block read other ih =>
    rw [findCore_block before read,if_neg other] at found
    exact ih found
  | case4 pos past =>
    rw [findCore_end past] at found
    cases found

theorem findCore_overwrite (data : Bytes) (inside : footerStart + data.length ≤ bytes.length) :
    findCore (overwrite bytes footerStart data) pos footerStart = findCore bytes pos footerStart := by
  have sameLength := length_overwrite bytes footerStart data inside
  have sameBlock : ∀ pos, readBlock (overwrite bytes footerStart data) pos footerStart = readBlock bytes pos footerStart := by
    intro pos
    by_cases header : pos + 8 ≤ footerStart
    · have id := @index_overwrite _ pos (pos + 4) _ data inside (by omega)
      have len := @index_overwrite _ (pos + 4) (pos + 4 + 4) _ data inside (by omega)
      simp only [readBlock,readU32Le,id,len]
    · have truncated (message : String) : ensure (pos + 8 ≤ footerStart) message = .error message := if_neg header
      by_cases fits : pos + 8 < 2^64
      · simp only [readBlock,checkedAdd_pos fits,bailing,Except.mapError,ok_bind,truncated]
        rfl
      · have overflow (message : String) : checkedAdd pos 8 message = .error message := if_neg fits
        simp only [readBlock,overflow,bailing,Except.mapError]
        rfl
  induction pos using findCore.induct bytes footerStart with
  | case1 pos before fault read => rw [findCore_fault before read,findCore_fault before ((sameBlock pos).trans read)]
  | case2 pos before block read core =>
    rw [findCore_block before read,findCore_block before ((sameBlock pos).trans read),if_pos core,if_pos core]
  | case3 pos before block read other ih =>
    rw [findCore_block before read,findCore_block before ((sameBlock pos).trans read),if_neg other,if_neg other,ih]
  | case4 pos past => rw [findCore_end past,findCore_end past]

end Core

section Located
variable {footerStart pos : Nat} {located : Option LocatedZeffExtension}

theorem locateBlocks_fault {fault : Fault} (read : readBlock bytes pos footerStart = .error fault) :
    locateBlocks bytes footerStart pos located = .error fault := by
  rw [locateBlocks]
  split <;> simp_all

variable {block : BessBlock}

theorem locateBlocks_end (read : readBlock bytes pos footerStart = .ok block)
    (last : block.id = blockEnd) :
    locateBlocks bytes footerStart pos located = do
      bailing (ensure (block.len = 0) "BESS END block has non-zero length")
      bailing (ensure (block.dataEnd = footerStart) "BESS data follows END block")
      bailing (ensure (∀ extension ∈ located, extension.stop = pos)
        "native Zeff-private `ZBEX` BESS extension must immediately precede END")
      return located := by
  rw [locateBlocks]
  split <;> simp_all

theorem locateBlocks_other (read : readBlock bytes pos footerStart = .ok block)
    (more : block.id ≠ blockEnd) (other : block.id ≠ blockZeffPrivateExtension) :
    locateBlocks bytes footerStart pos located = locateBlocks bytes footerStart block.dataEnd located := by
  rw [locateBlocks]
  split <;> simp_all

theorem locateBlocks_zeff (footer : footerStart ≤ bytes.length)
    (read : readBlock bytes pos footerStart = .ok block) (more : block.id ≠ blockEnd)
    (zeff : block.id = blockZeffPrivateExtension) (whole : block.len = zeffExtensionBlockLen) :
    locateBlocks bytes footerStart pos none = locateBlocks bytes footerStart block.dataEnd (some {
      frameCount := leValue (slice bytes block.headerEnd (block.headerEnd + 8))
      lcdFramebuffer := slice bytes (block.headerEnd + 8) block.dataEnd
      start := pos
      stop := block.dataEnd}) := by
  obtain ⟨headerEnd,dataEnd,inside⟩ := readBlock_ok read
  have length : zeffExtensionBlockLen = 8 + zeffExtensionFramebufferLen := rfl
  rw [locateBlocks]
  split
  · simp_all
  rename_i found read'
  have same : found = block := Except.ok.inj (read'.symm.trans read)
  subst same
  rw [if_neg more,if_pos zeff,ensure_pos rfl,ensure_pos whole,index_of_le (Nat.le_add_right _ 8) (by omega),
    index_of_le (by omega) (by omega)]
  rfl

theorem locateBlocks_zeff_bail (read : readBlock bytes pos footerStart = .ok block)
    (more : block.id ≠ blockEnd) (zeff : block.id = blockZeffPrivateExtension)
    (odd : ¬(located = none ∧ block.len = zeffExtensionBlockLen)) :
    ∃ message, locateBlocks bytes footerStart pos located = .error (.bail message) := by
  rw [locateBlocks]
  split
  · simp_all
  rename_i found read'
  have same : found = block := Except.ok.inj (read'.symm.trans read)
  subst same
  rw [if_neg more,if_pos zeff]
  by_cases first : located = none
  · have strange (message : String) : ensure (found.len = zeffExtensionBlockLen) message = .error message :=
      if_neg (fun whole => odd ⟨first,whole⟩)
    rw [ensure_pos first,strange]
    exact ⟨_,rfl⟩
  · have duplicate (message : String) : ensure (located = none) message = .error message := if_neg first
    rw [duplicate]
    exact ⟨_,rfl⟩

def FoundBetween (first footerStart : Nat) (located : Option LocatedZeffExtension) : Prop :=
  ∀ extension ∈ located,
    first ≤ extension.start ∧ extension.stop = extension.start + 8 + zeffExtensionBlockLen ∧ extension.stop ≤ footerStart

theorem locateBlocks_sound {first : Nat} (footer : footerStart ≤ bytes.length) (onwards : first ≤ pos)
    (before : FoundBetween first footerStart located) :
    locateBlocks bytes footerStart pos located ≠ .error .outOfRange ∧
      ∀ found, locateBlocks bytes footerStart pos located = .ok found → FoundBetween first footerStart found := by
  -- Every block moves the walk towards the footer.
  induction distance : footerStart - pos using Nat.strong_induction_on generalizing pos located with
  | _ distance ih =>
    subst distance
    cases read : readBlock bytes pos footerStart with
    | error fault =>
      rw [locateBlocks_fault read]
      refine ⟨?_,fun found result => by cases result⟩
      intro out
      cases out
      exact readBlock_inRange footer pos read
    | ok block =>
      obtain ⟨headerEnd,dataEnd,inside⟩ := readBlock_ok read
      by_cases last : block.id = blockEnd
      · rw [locateBlocks_end read last]
        constructor
        · intro fault
          rcases bind_outOfRange fault with out | ⟨_,_,fault⟩
          · exact bailing_inRange out
          rcases bind_outOfRange fault with out | ⟨_,_,fault⟩
          · exact bailing_inRange out
          rcases bind_outOfRange fault with out | ⟨_,_,fault⟩
          · exact bailing_inRange out
          cases fault
        · intro found result
          obtain ⟨_,_,result⟩ := bind_ok.mp result
          obtain ⟨_,_,result⟩ := bind_ok.mp result
          obtain ⟨_,_,result⟩ := bind_ok.mp result
          cases result
          exact before
      by_cases zeff : block.id = blockZeffPrivateExtension
      · by_cases accepted : located = none ∧ block.len = zeffExtensionBlockLen
        swap
        · obtain ⟨message,bails⟩ := locateBlocks_zeff_bail read last zeff accepted
          rw [bails]
          exact ⟨by simp,fun found result => by cases result⟩
        · obtain ⟨rfl,whole⟩ := accepted
          rw [locateBlocks_zeff footer read last zeff whole]
          refine ih _ (by omega) (by omega) ?_ rfl
          rintro extension ⟨⟩
          exact ⟨onwards,by dsimp only; omega,inside⟩
      · rw [locateBlocks_other read last zeff]
        exact ih _ (by omega) (by omega) before rfl

end Located

theorem locateZeffExtension_sound (bytes : Bytes) (minimum : Nat) :
    locateZeffExtension bytes minimum ≠ .error .outOfRange ∧
      ∀ extension, locateZeffExtension bytes minimum = .ok (some extension) →
        minimum ≤ extension.start ∧ extension.stop = extension.start + 8 + zeffExtensionBlockLen ∧
          extension.stop ≤ bytes.length - 8 := by
  unfold locateZeffExtension
  by_cases footer : hasBessFooter bytes = true
  swap
  · have missing (message : String) : ensure (hasBessFooter bytes = true) message = .error message := if_neg footer
    rw [missing]
    exact ⟨by simp [bailing,Except.mapError,bind,Except.bind],fun extension result => by cases result⟩
  have long : 8 ≤ bytes.length := by
    rw [hasBessFooter,decide_eq_true_iff] at footer
    exact footer.1
  have first := @readU32Le_of_le bytes (bytes.length - 8) (by omega)
  have walked {pos : Nat} (onwards : minimum ≤ pos) :=
    @locateBlocks_sound bytes (bytes.length - 8) _ none _ (Nat.sub_le _ _) onwards
      (fun _ found => by cases found)
  rw [ensure_pos footer]
  dsimp only
  rw [first]
  constructor
  · intro fault
    rcases bind_outOfRange fault with out | ⟨_,_,fault⟩
    · exact bailing_inRange out
    rcases bind_outOfRange fault with out | ⟨_,_,fault⟩
    · cases out
    rcases bind_outOfRange fault with out | ⟨_,onwards,fault⟩
    · exact bailing_inRange out
    rcases bind_outOfRange fault with out | ⟨_,_,fault⟩
    · exact bailing_inRange out
    exact (walked (ensure_ok.mp ((bailing_ok ..).mp onwards))).1 fault
  · intro extension result
    obtain ⟨_,_,result⟩ := bind_ok.mp result
    obtain ⟨_,_,result⟩ := bind_ok.mp result
    obtain ⟨_,onwards,result⟩ := bind_ok.mp result
    obtain ⟨_,_,result⟩ := bind_ok.mp result
    exact (walked (ensure_ok.mp ((bailing_ok ..).mp onwards))).2 _ result extension rfl

theorem bessMbcRamOffset_inRange (bytes : Bytes) (first : Nat) : bessMbcRamOffset bytes first ≠ .error .outOfRange := by
  intro fault
  rcases bind_outOfRange fault with out | ⟨headerEnd,found,fault⟩
  · exact findCore_inRange (Nat.sub_le _ _) out
  · obtain ⟨_,inside⟩ := findCore_ok found
    have length : coreBlockLen = 0xD0 := rfl
    rw [readU32Le_of_le (by omega)] at fault
    cases fault

section Adjust
variable {headerEnd removedStart removedLen : Nat}

def Adjustable (bytes : Bytes) (removedStart removedLen place : Nat) : Prop :=
  let value := leValue (slice bytes place (place + 4))
  removedStart ≤ value → value ≠ 0 → removedLen ≤ value

theorem adjustOffsets_spec (bytes : Bytes) (offsets : List Nat) (apart : offsets.Pairwise fun left right => left + 4 ≤ right)
    (inside : ∀ offset ∈ offsets, headerEnd + offset + 4 ≤ bytes.length) :
    (adjustOffsets bytes headerEnd removedStart removedLen offsets).2.length = bytes.length ∧
      (adjustOffsets bytes headerEnd removedStart removedLen offsets).1 ≠ .error .outOfRange ∧
      ((adjustOffsets bytes headerEnd removedStart removedLen offsets).1 = .ok () ↔
        ∀ offset ∈ offsets, Adjustable bytes removedStart removedLen (headerEnd + offset)) := by
  induction offsets generalizing bytes with
  | nil => simp [adjustOffsets]
  | cons offset offsets ih =>
    obtain ⟨near,apart⟩ := List.pairwise_cons.mp apart
    obtain ⟨here,inside⟩ := List.forall_mem_cons.mp inside
    have read := readU32Le_of_le here
    rw [adjustOffsets,read]
    dsimp only
    split
    · rename_i shifted
      by_cases enough : removedLen ≤ leValue (slice bytes (headerEnd + offset) (headerEnd + offset + 4))
      · have fixed : Adjustable bytes removedStart removedLen (headerEnd + offset) := fun _ _ => enough
        rw [checkedSub_pos enough]
        dsimp only [bailing,Except.mapError]
        generalize word : writeU32 (leValue (slice bytes (headerEnd + offset) (headerEnd + offset + 4)) - removedLen) = data
        have four : data.length = 4 := by
          rw [← word]
          exact length_leBytes 4 _
        have sameLength := length_overwrite bytes (headerEnd + offset) data (by omega)
        obtain ⟨length,ranged,result⟩ := ih (overwrite bytes (headerEnd + offset) data) apart (by
          intro later behind
          rw [sameLength]
          exact inside later behind)
        have same : ∀ later ∈ offsets, Adjustable (overwrite bytes (headerEnd + offset) data) removedStart removedLen
            (headerEnd + later) ↔ Adjustable bytes removedStart removedLen (headerEnd + later) := by
          intro later behind
          have past := near later behind
          rw [Adjustable,Adjustable,slice_overwrite bytes _ _ _ data (by omega) (.inr (by omega))]
        refine ⟨length.trans sameLength,ranged,?_⟩
        rw [result,List.forall_mem_cons,iff_true_intro fixed,true_and]
        exact forall₂_congr same
      · have stuck : ¬Adjustable bytes removedStart removedLen (headerEnd + offset) :=
          fun fixed => enough (fixed shifted.1 shifted.2)
        have underflow (message : String) :
            checkedSub (leValue (slice bytes (headerEnd + offset) (headerEnd + offset + 4))) removedLen message =
              .error message := if_neg enough
        rw [underflow]
        refine ⟨rfl,by simp [bailing,Except.mapError],iff_of_false (by simp [bailing,Except.mapError]) ?_⟩
        exact fun all => stuck (all offset List.mem_cons_self)
    · rename_i kept
      have fixed : Adjustable bytes removedStart removedLen (headerEnd + offset) :=
        fun above nonzero => absurd ⟨above,nonzero⟩ kept
      obtain ⟨length,ranged,result⟩ := ih bytes apart inside
      exact ⟨length,ranged,by rw [result,List.forall_mem_cons,iff_true_intro fixed,true_and]⟩

end Adjust

/-- The projection succeeds, or fails and leaves the bytes as they were, and reads nothing that is out of range. -/
def ProjectsAtomically (bytes : Bytes) : Prop :=
  (projectReplayStateBytes bytes).1 ≠ .error .outOfRange ∧
    ∀ message, (projectReplayStateBytes bytes).1 = .error (.bail message) → (projectReplayStateBytes bytes).2 = bytes

def HeaderInside (bytes : Bytes) (start : Nat) : Prop :=
  start + 4 ≤ bytes.length ∧ (slice bytes start (start + 4) = sgbNativeContinuationMagic → start + 8 ≤ bytes.length)

def HasContinuation (bytes : Bytes) (start : Nat) : Prop :=
  slice bytes start (start + 4) = sgbNativeContinuationMagic ∧
    leValue (slice bytes (start + 4) (start + 8)) = sgbNativeContinuationPayloadLen

/-- Without the extension and the continuation, the file still has the continuation's end before its own,
and its blocks still lead to a CORE block whose pointers can follow the bytes they point to. -/
def StaysLinked (bytes : Bytes) (zbex : LocatedZeffExtension) (first nativeEnd : Nat) : Prop :=
  let start := nativeEnd - sgbNativeContinuationBlockLen
  let portable := cut bytes zbex.start zbex.stop
  let projected := cut portable start nativeEnd
  nativeEnd ≤ portable.length ∧ sgbNativeContinuationBlockLen ≤ first ∧
    ∃ headerEnd,
      findCore projected (first - sgbNativeContinuationBlockLen) (projected.length - 8) = .ok headerEnd ∧
      ∀ offset ∈ coreOffsets, Adjustable projected start sgbNativeContinuationBlockLen (headerEnd + offset)

/-- What the projection takes on trust: that the end of the native payload, as the CORE block gives it, fits the file. -/
def ContinuationFits (bytes : Bytes) : Prop :=
  ∀ zbex first nativeEnd, nativeSaveStateMagic <+: bytes → 12 ≤ bytes.length → leValue (slice bytes 8 12) = 14 →
    locateZeffExtension bytes nativeLastOpcodeEnd = .ok (some zbex) → bessFirstBlockOffset bytes = .ok first →
    bessMbcRamOffset bytes first = .ok nativeEnd → sgbNativeContinuationBlockLen ≤ nativeEnd →
    HeaderInside bytes (nativeEnd - sgbNativeContinuationBlockLen) ∧
      (HasContinuation bytes (nativeEnd - sgbNativeContinuationBlockLen) → StaysLinked bytes zbex first nativeEnd)

theorem adjustBessOffsetsAfterRemoval_spec (bytes : Bytes) (first start removedLen : Nat) (long : 8 ≤ bytes.length) :
    (adjustBessOffsetsAfterRemoval bytes first start removedLen).2.length = bytes.length ∧
      (adjustBessOffsetsAfterRemoval bytes first start removedLen).1 ≠ .error .outOfRange ∧
      ((adjustBessOffsetsAfterRemoval bytes first start removedLen).1 = .ok () ↔
        removedLen ≤ first ∧ ∃ headerEnd, findCore bytes (first - removedLen) (bytes.length - 8) = .ok headerEnd ∧
          ∀ offset ∈ coreOffsets, Adjustable bytes start removedLen (headerEnd + offset)) := by
  rw [adjustBessOffsetsAfterRemoval,if_neg (by omega)]
  dsimp only
  by_cases enough : removedLen ≤ first
  swap
  · have underflow (message : String) : checkedSub first removedLen message = .error message := if_neg enough
    rw [underflow]
    refine ⟨rfl,by simp [bailing,Except.mapError],iff_of_false (by simp [bailing,Except.mapError]) ?_⟩
    exact fun all => enough all.1
  rw [checkedSub_pos enough]
  dsimp only [bailing,Except.mapError]
  have four : (writeU32 (first - removedLen)).length = 4 := length_leBytes 4 _
  have room : bytes.length - 8 + (writeU32 (first - removedLen)).length ≤ bytes.length := by omega
  have sameLength := length_overwrite bytes (bytes.length - 8) (writeU32 (first - removedLen)) room
  rw [findCore_overwrite _ room]
  cases found : findCore bytes (first - removedLen) (bytes.length - 8) with
  | error fault =>
    refine ⟨sameLength,?_,iff_of_false (by simp) ?_⟩
    · intro out
      cases out
      exact findCore_inRange (Nat.sub_le _ _) found
    · rintro ⟨_,headerEnd,core,_⟩
      cases core
  | ok headerEnd =>
    obtain ⟨_,inside⟩ := findCore_ok found
    have length : coreBlockLen = 0xD0 := rfl
    have within : ∀ offset ∈ coreOffsets, offset + 4 ≤ 0xD0 := by decide
    obtain ⟨kept,ranged,result⟩ := @adjustOffsets_spec headerEnd start removedLen
      (overwrite bytes (bytes.length - 8) (writeU32 (first - removedLen))) coreOffsets (by decide)
      (by
        intro offset mem
        have fits := within offset mem
        rw [sameLength]
        omega)
    refine ⟨kept.trans sameLength,ranged,result.trans ?_⟩
    have same : ∀ offset ∈ coreOffsets,
        Adjustable (overwrite bytes (bytes.length - 8) (writeU32 (first - removedLen))) start removedLen
          (headerEnd + offset) ↔ Adjustable bytes start removedLen (headerEnd + offset) := by
      intro offset mem
      have fits := within offset mem
      rw [Adjustable,Adjustable,slice_overwrite bytes _ _ _ _ room (.inl (by omega))]
    rw [forall₂_congr same]
    constructor
    · intro all
      exact ⟨enough,headerEnd,rfl,all⟩
    · rintro ⟨_,_,core,all⟩
      cases core
      exact all

theorem sgbNativeContinuationStart_cases (bytes : Bytes) (nativeEnd : Nat) :
    (nativeEnd < sgbNativeContinuationBlockLen ∧
      ∃ message, sgbNativeContinuationStart bytes nativeEnd = .error (.bail message)) ∨
    sgbNativeContinuationBlockLen ≤ nativeEnd ∧
      ((¬HeaderInside bytes (nativeEnd - sgbNativeContinuationBlockLen) ∧
          sgbNativeContinuationStart bytes nativeEnd = .error .outOfRange) ∨
        HeaderInside bytes (nativeEnd - sgbNativeContinuationBlockLen) ∧
          ((¬HasContinuation bytes (nativeEnd - sgbNativeContinuationBlockLen) ∧
              ∃ message, sgbNativeContinuationStart bytes nativeEnd = .error (.bail message)) ∨
            HasContinuation bytes (nativeEnd - sgbNativeContinuationBlockLen) ∧
              sgbNativeContinuationStart bytes nativeEnd = .ok (nativeEnd - sgbNativeContinuationBlockLen))) := by
  rcases lt_or_ge nativeEnd sgbNativeContinuationBlockLen with short | enough
  · have underflow (message : String) : checkedSub nativeEnd sgbNativeContinuationBlockLen message = .error message :=
      if_neg (Nat.not_le_of_lt short)
    rw [sgbNativeContinuationStart,underflow]
    exact .inl ⟨short,_,rfl⟩
  refine .inr ⟨enough,?_⟩
  rw [sgbNativeContinuationStart,checkedSub_pos enough]
  generalize nativeEnd - sgbNativeContinuationBlockLen = start
  show _ ∨ _ ∧ (_ ∨ _)
  simp only [bailing,Except.mapError,ok_bind]
  by_cases magicInside : start + 4 ≤ bytes.length
  swap
  · have out : index bytes start (start + 4) = .error .outOfRange := if_neg (fun inside => magicInside inside.2)
    rw [out]
    exact .inl ⟨fun inside => magicInside inside.1,rfl⟩
  rw [index_of_le (Nat.le_add_right start 4) magicInside]
  simp only [ok_bind]
  by_cases magic : slice bytes start (start + 4) = sgbNativeContinuationMagic
  swap
  · have strange (message : String) : ensure (slice bytes start (start + 4) = sgbNativeContinuationMagic) message =
        .error message := if_neg magic
    rw [strange]
    exact .inr ⟨⟨magicInside,fun same => absurd same magic⟩,.inl ⟨fun has => magic has.1,_,rfl⟩⟩
  rw [ensure_pos magic]
  by_cases lengthInside : start + 8 ≤ bytes.length
  swap
  · have out : index bytes (start + 4) (start + 4 + 4) = .error .outOfRange := if_neg (fun inside => lengthInside inside.2)
    simp only [ok_bind,readU32Le,out]
    exact .inl ⟨fun inside => lengthInside (inside.2 magic),rfl⟩
  have header : HeaderInside bytes start := ⟨magicInside,fun _ => lengthInside⟩
  have read : readU32Le bytes (start + 4) = .ok (leValue (slice bytes (start + 4) (start + 8))) := readU32Le_of_le lengthInside
  simp only [ok_bind,read]
  by_cases length : leValue (slice bytes (start + 4) (start + 8)) = sgbNativeContinuationPayloadLen
  · rw [ensure_pos length]
    exact .inr ⟨header,.inr ⟨⟨magic,length⟩,rfl⟩⟩
  · have odd (message : String) :
        ensure (leValue (slice bytes (start + 4) (start + 8)) = sgbNativeContinuationPayloadLen) message = .error message :=
      if_neg length
    rw [odd]
    exact .inr ⟨header,.inl ⟨fun has => length has.2,_,rfl⟩⟩

theorem drain_of_le {start stop : Nat} (ordered : start ≤ stop) (inside : stop ≤ bytes.length) :
    drain bytes start stop = .ok (cut bytes start stop) := if_pos ⟨ordered,inside⟩

theorem stampVersion_of_le (long : 12 ≤ bytes.length) :
    stampVersion bytes = (.ok (),overwrite bytes 8 (writeU32 12)) := if_pos long

section Apply
variable {zbex : LocatedZeffExtension} {first nativeEnd : Nat}
  (found : locateZeffExtension bytes nativeLastOpcodeEnd = .ok (some zbex))
include found

theorem applyProjection_portable :
    (applyProjection bytes {located := zbex, firstBlockOffset := first, continuation := none}).1 = .ok () := by
  obtain ⟨low,length,inside⟩ := (locateZeffExtension_sound bytes nativeLastOpcodeEnd).2 zbex found
  have hundred : nativeLastOpcodeEnd = 100 := rfl
  have whole := length_cut bytes zbex.start zbex.stop (by omega) (by omega)
  simp only [applyProjection,drain_of_le (show zbex.start ≤ zbex.stop by omega) (show zbex.stop ≤ bytes.length by omega)]
  rw [stampVersion_of_le (by omega)]

theorem applyProjection_continuation (enough : sgbNativeContinuationBlockLen ≤ nativeEnd) :
    let plan : ProjectionPlan :=
      ⟨zbex,first,some (nativeEnd - sgbNativeContinuationBlockLen,nativeEnd)⟩
    (StaysLinked bytes zbex first nativeEnd ∧ (applyProjection bytes plan).1 = .ok ()) ∨
      ¬StaysLinked bytes zbex first nativeEnd ∧
        ((applyProjection bytes plan).1 = .error .outOfRange ∨
          (∃ message, (applyProjection bytes plan).1 = .error (.bail message)) ∧
            (applyProjection bytes plan).2.length < bytes.length) := by
  obtain ⟨low,length,inside⟩ := (locateZeffExtension_sound bytes nativeLastOpcodeEnd).2 zbex found
  have portableLength := length_cut bytes zbex.start zbex.stop (by omega) (by omega)
  have block : sgbNativeContinuationBlockLen = 122 := rfl
  intro plan
  simp only [plan,applyProjection,drain_of_le (show zbex.start ≤ zbex.stop by omega) (show zbex.stop ≤ bytes.length by omega)]
  by_cases fits : nativeEnd ≤ (cut bytes zbex.start zbex.stop).length
  swap
  · have out : drain (cut bytes zbex.start zbex.stop) (nativeEnd - sgbNativeContinuationBlockLen) nativeEnd =
        .error .outOfRange := if_neg (fun both => fits both.2)
    rw [out]
    exact .inr ⟨fun linked => fits linked.1,.inl rfl⟩
  have projectedLength := length_cut (cut bytes zbex.start zbex.stop) (nativeEnd - sgbNativeContinuationBlockLen) nativeEnd
    (Nat.sub_le _ _) fits
  rw [drain_of_le (Nat.sub_le _ _) fits]
  dsimp only
  generalize projection : cut (cut bytes zbex.start zbex.stop) (nativeEnd - sgbNativeContinuationBlockLen) nativeEnd = projected
    at projectedLength ⊢
  have linked : StaysLinked bytes zbex first nativeEnd ↔ sgbNativeContinuationBlockLen ≤ first ∧ ∃ headerEnd,
      findCore projected (first - sgbNativeContinuationBlockLen) (projected.length - 8) = .ok headerEnd ∧
      ∀ offset ∈ coreOffsets, Adjustable projected (nativeEnd - sgbNativeContinuationBlockLen)
        sgbNativeContinuationBlockLen (headerEnd + offset) := by
    rw [StaysLinked,← projection]
    exact and_iff_right fits
  rcases lt_or_ge projected.length 8 with short | long
  · rw [adjustBessOffsetsAfterRemoval,if_pos short,linked]
    refine .inr ⟨?_,.inl rfl⟩
    rintro ⟨_,headerEnd,core,_⟩
    have bounds := findCore_ok core
    omega
  obtain ⟨kept,ranged,succeeds⟩ := adjustBessOffsetsAfterRemoval_spec projected first
    (nativeEnd - sgbNativeContinuationBlockLen) sgbNativeContinuationBlockLen long
  rw [linked]
  generalize adjustBessOffsetsAfterRemoval projected first (nativeEnd - sgbNativeContinuationBlockLen)
    sgbNativeContinuationBlockLen = outcome at kept ranged succeeds ⊢
  obtain ⟨result,left⟩ := outcome
  cases result with
  | ok value =>
    have stays := succeeds.mp rfl
    obtain ⟨_,headerEnd,core,_⟩ := stays
    have bounds := findCore_ok core
    have size : coreBlockLen = 0xD0 := rfl
    dsimp only at kept ⊢
    rw [stampVersion_of_le (by omega)]
    exact .inl ⟨succeeds.mp rfl,rfl⟩
  | error fault =>
    obtain ⟨message,rfl⟩ := bail_of_inRange ranged rfl
    refine .inr ⟨fun stays => (by cases succeeds.mpr stays),.inr ⟨⟨message,rfl⟩,?_⟩⟩
    dsimp only at kept ⊢
    omega

end Apply

theorem bessFirstBlockOffset_inRange (bytes : Bytes) : bessFirstBlockOffset bytes ≠ .error .outOfRange := by
  intro fault
  rcases bind_outOfRange fault with out | ⟨_,footer,fault⟩
  · exact bailing_inRange out
  · have long : 8 ≤ bytes.length := by
      have present := ensure_ok.mp ((bailing_ok ..).mp footer)
      rw [hasBessFooter,decide_eq_true_iff] at present
      exact present.1
    rw [readU32Le_of_le (by omega)] at fault
    cases fault

theorem planProjection_cases (bytes : Bytes) (formatVersion : Nat) :
    ((∃ message, planProjection bytes formatVersion = .error (.bail message)) ∧
      ∀ zbex first, locateZeffExtension bytes nativeLastOpcodeEnd = .ok (some zbex) →
        bessFirstBlockOffset bytes ≠ .ok first) ∨
    ∃ zbex first, locateZeffExtension bytes nativeLastOpcodeEnd = .ok (some zbex) ∧ bessFirstBlockOffset bytes = .ok first ∧
      planProjection bytes formatVersion = if 14 ≤ formatVersion then do
          let nativePayloadEnd ← bessMbcRamOffset bytes first
          let start ← sgbNativeContinuationStart bytes nativePayloadEnd
          return ⟨zbex,first,some (start,nativePayloadEnd)⟩
        else return ⟨zbex,first,none⟩ := by
  cases found : locateZeffExtension bytes nativeLastOpcodeEnd with
  | error fault =>
    obtain ⟨message,rfl⟩ := bail_of_inRange (locateZeffExtension_sound bytes nativeLastOpcodeEnd).1 found
    refine .inl ⟨⟨message,?_⟩,fun _ _ same => by cases same⟩
    rw [planProjection,found]
    rfl
  | ok extension =>
    cases extension with
    | none =>
      refine .inl ⟨⟨"native save state is missing required Zeff-private `ZBEX` BESS extension",?_⟩,fun _ _ same => by cases same⟩
      rw [planProjection,found]
      rfl
    | some zbex =>
      cases offset : bessFirstBlockOffset bytes with
      | error fault =>
        obtain ⟨message,rfl⟩ := bail_of_inRange (bessFirstBlockOffset_inRange bytes) offset
        refine .inl ⟨⟨message,?_⟩,fun _ _ _ same => by cases same⟩
        rw [planProjection,found,offset]
        rfl
      | ok first =>
        refine .inr ⟨zbex,first,rfl,rfl,?_⟩
        rw [planProjection,found,offset]
        rfl

theorem projectsAtomically_of_bail {message : String}
    (bails : projectReplayStateBytes bytes = (.error (.bail message),bytes)) : ProjectsAtomically bytes := by
  rw [ProjectsAtomically,bails]
  exact ⟨by simp,fun _ _ => rfl⟩

theorem projectsAtomically_of_ok (ok : (projectReplayStateBytes bytes).1 = .ok ()) :
    ProjectsAtomically bytes := by
  rw [ProjectsAtomically,ok]
  exact ⟨by simp,fun message fault => by cases fault⟩

section Versions
variable (magic : nativeSaveStateMagic <+: bytes) (header : 12 ≤ bytes.length)
include magic header

theorem projectReplayStateBytes_bail {formatVersion : Nat} {message : String}
    (version : leValue (slice bytes 8 12) = formatVersion) (known : formatVersion = 13 ∨ formatVersion = 14)
    (bails : planProjection bytes formatVersion = .error (.bail message)) :
    projectReplayStateBytes bytes = (.error (.bail message),bytes) := by
  rw [projectReplayStateBytes,if_neg (not_not.mpr magic),if_neg (by omega),version]
  dsimp only
  rw [if_neg (by omega),if_neg (by omega),bails]

theorem projectReplayStateBytes_plan {formatVersion : Nat} {plan : ProjectionPlan}
    (version : leValue (slice bytes 8 12) = formatVersion) (known : formatVersion = 13 ∨ formatVersion = 14)
    (planned : planProjection bytes formatVersion = .ok plan) :
    projectReplayStateBytes bytes = applyProjection bytes plan := by
  rw [projectReplayStateBytes,if_neg (not_not.mpr magic),if_neg (by omega),version]
  dsimp only
  rw [if_neg (by omega),if_neg (by omega),planned]

theorem projectsAtomically_13 (version : leValue (slice bytes 8 12) = 13) : ProjectsAtomically bytes := by
  obtain ⟨⟨message,bails⟩,_⟩ | ⟨zbex,first,found,offset,plan⟩ := planProjection_cases bytes 13
  · exact projectsAtomically_of_bail (projectReplayStateBytes_bail magic header version (.inl rfl) bails)
  · rw [if_neg (by decide)] at plan
    apply projectsAtomically_of_ok
    rw [projectReplayStateBytes_plan magic header version (.inl rfl) plan]
    exact applyProjection_portable found

theorem projectsAtomically_14 (version : leValue (slice bytes 8 12) = 14) :
    ProjectsAtomically bytes ↔ ContinuationFits bytes := by
  obtain ⟨⟨message,bails⟩,missing⟩ | ⟨zbex,first,found,offset,plan⟩ := planProjection_cases bytes 14
  · refine iff_of_true (projectsAtomically_of_bail (projectReplayStateBytes_bail magic header version (.inr rfl) bails)) ?_
    intro zbex first _ _ _ _ found offset
    exact absurd offset (missing zbex first found)
  rw [if_pos le_rfl] at plan
  have unique : ∀ zbex' first' nativeEnd' nativeEnd,
      locateZeffExtension bytes nativeLastOpcodeEnd = .ok (some zbex') → bessFirstBlockOffset bytes = .ok first' →
      bessMbcRamOffset bytes first = .ok nativeEnd → bessMbcRamOffset bytes first' = .ok nativeEnd' →
      zbex' = zbex ∧ first' = first ∧ nativeEnd' = nativeEnd := by
    intro zbex' first' nativeEnd' nativeEnd found' offset' payload payload'
    obtain rfl : zbex' = zbex := by rw [found] at found'; cases found'; rfl
    obtain rfl : first' = first := by rw [offset] at offset'; cases offset'; rfl
    obtain rfl : nativeEnd' = nativeEnd := by rw [payload] at payload'; cases payload'; rfl
    exact ⟨rfl,rfl,rfl⟩
  cases payload : bessMbcRamOffset bytes first with
  | error fault =>
    obtain ⟨message,rfl⟩ := bail_of_inRange (bessMbcRamOffset_inRange bytes first) payload
    rw [payload] at plan
    refine iff_of_true (projectsAtomically_of_bail (projectReplayStateBytes_bail magic header version (.inr rfl) plan)) ?_
    intro zbex' first' nativeEnd' _ _ _ found' offset' payload'
    rw [offset] at offset'
    cases offset'
    rw [payload] at payload'
    cases payload'
  | ok nativeEnd =>
    rw [payload,ok_bind] at plan
    have fits : ContinuationFits bytes ↔ (sgbNativeContinuationBlockLen ≤ nativeEnd →
        HeaderInside bytes (nativeEnd - sgbNativeContinuationBlockLen) ∧
          (HasContinuation bytes (nativeEnd - sgbNativeContinuationBlockLen) →
            StaysLinked bytes zbex first nativeEnd)) := by
      constructor
      · intro all
        exact all zbex first nativeEnd magic header version found offset payload
      · intro one zbex' first' nativeEnd' _ _ _ found' offset' payload'
        obtain ⟨rfl,rfl,rfl⟩ := unique zbex' first' nativeEnd' nativeEnd found' offset' payload payload'
        exact one
    rw [fits]
    obtain ⟨short,message,bails⟩ | ⟨enough,⟨outside,out⟩ | ⟨inside,⟨absent,message,bails⟩ | ⟨present,start⟩⟩⟩ :=
      sgbNativeContinuationStart_cases bytes nativeEnd
    · rw [bails] at plan
      refine iff_of_true (projectsAtomically_of_bail (projectReplayStateBytes_bail magic header version (.inr rfl) plan)) ?_
      exact fun enough => absurd enough (Nat.not_le_of_lt short)
    · rw [out] at plan
      refine iff_of_false ?_ fun all => outside (all enough).1
      rintro ⟨inRange,_⟩
      apply inRange
      rw [projectReplayStateBytes,if_neg (not_not.mpr magic),if_neg (by omega),version]
      dsimp only
      rw [if_neg (by decide),if_neg (by decide),plan]
      rfl
    · rw [bails] at plan
      refine iff_of_true (projectsAtomically_of_bail (projectReplayStateBytes_bail magic header version (.inr rfl) plan)) ?_
      exact fun _ => ⟨inside,fun present => absurd present absent⟩
    · rw [start,ok_bind] at plan
      have applied := projectReplayStateBytes_plan magic header version (.inr rfl) plan
      obtain ⟨linked,ok⟩ | ⟨unlinked,fails⟩ := @applyProjection_continuation _ _ first _ found enough
      · refine iff_of_true (projectsAtomically_of_ok (by rw [applied]; exact ok)) ?_
        exact fun _ => ⟨inside,fun _ => linked⟩
      · refine iff_of_false ?_ fun all => unlinked ((all enough).2 present)
        rintro ⟨inRange,unchanged⟩
        rw [applied] at inRange unchanged
        rcases fails with out | ⟨⟨message,bails⟩,shorter⟩
        · exact inRange out
        · rw [unchanged message bails] at shorter
          exact lt_irrefl _ shorter

end Versions

theorem projectsAtomically_iff (bytes : Bytes) : ProjectsAtomically bytes ↔ ContinuationFits bytes := by
  by_cases magic : nativeSaveStateMagic <+: bytes
  swap
  · have other : projectReplayStateBytes bytes = (.ok (),bytes) := if_pos magic
    exact iff_of_true (projectsAtomically_of_ok (by rw [other])) fun _ _ _ present => absurd present magic
  by_cases header : 12 ≤ bytes.length
  swap
  · refine iff_of_true (@projectsAtomically_of_bail _ "native save-state header is truncated" ?_)
      fun _ _ _ _ long => absurd long header
    rw [projectReplayStateBytes,if_neg (not_not.mpr magic),if_pos (by omega)]
  by_cases fourteen : leValue (slice bytes 8 12) = 14
  · exact projectsAtomically_14 magic header fourteen
  refine iff_of_true ?_ fun _ _ _ _ _ version => absurd version fourteen
  by_cases thirteen : leValue (slice bytes 8 12) = 13
  · exact projectsAtomically_13 magic header thirteen
  by_cases legacy : leValue (slice bytes 8 12) ≤ 12
  · apply projectsAtomically_of_ok
    rw [projectReplayStateBytes,if_neg (not_not.mpr magic),if_neg (by omega)]
    dsimp only
    rw [if_pos legacy]
  · have unknown : projectReplayStateBytes bytes = (.error (.bail
        s!"unsupported native save-state format {leValue (slice bytes 8 12)} for replay projection"),bytes) := by
      rw [projectReplayStateBytes,if_neg (not_not.mpr magic),if_neg (by omega)]
      dsimp only
      rw [if_neg legacy,if_pos ⟨thirteen,fourteen⟩]
    exact projectsAtomically_of_bail unknown

end ZeffBoy.GameBoy
