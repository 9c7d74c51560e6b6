import ZeffBoy.Patching.Formats

/-! The PPF patches. A plan checks every record against the target before the first one is written,
and a planned record can be written. -/
namespace ZeffBoy.Patching
open Library
namespace Ppf

def descriptionEnd : Nat := 56
def blockCheckLen : Nat := 1024

structure PlanLimits where
  maxPatchBytes : Nat
  maxRecords : Nat
  maxReplacementBytes : Nat

def PlanLimits.unbounded : PlanLimits := ⟨2^64 - 1,2^64 - 1,2^64 - 1⟩

inductive PlanFallback
  | patchBytes (bytes limit : Nat)
  | records (count limit : Nat)
  | replacementBytes (bytes limit : Nat)

def PlanFallback.debug : PlanFallback → String
  | .patchBytes bytes limit => s!"PatchBytes \x7b bytes: {bytes}, limit: {limit} \x7d"
  | .records count limit => s!"Records \x7b records: {count}, limit: {limit} \x7d"
  | .replacementBytes bytes limit => s!"ReplacementBytes \x7b bytes: {bytes}, limit: {limit} \x7d"

structure Write where
  offset : Nat
  bytes : Bytes

inductive PlanOutcome
  | planned (writes : List Write)
  | fallback (reason : PlanFallback)

def lowerHex (value : Nat) : String := "0x" ++ String.ofList (Nat.toDigits 16 value)

def magic (version : UInt8) : Bytes := [0x50,0x50,0x46,version,0x30] -- PPF10, PPF20, PPF30
def fileIdMagic : Bytes := [0x2E,0x44,0x49,0x5A] -- .DIZ

-- A file id behind the records ends in its length.
def recordEnd (patch : Bytes) (lengthBytes trailerOverhead : Nat) : Except String Nat :=
  if patch.length < lengthBytes + 4 ∨
      slice patch (patch.length - lengthBytes - 4) (patch.length - lengthBytes) ≠ fileIdMagic then .ok patch.length
  else
    let idLen := leValue (slice patch (patch.length - lengthBytes) patch.length)
    if idLen + trailerOverhead ≤ patch.length then .ok (patch.length - idLen - trailerOverhead)
    else .error "PPF file ID trailer is malformed"

def verifyBlock (targetLen offset : Nat) (expected : Bytes) (readSource : Nat → Nat → Except String Bytes) :
    Except String Unit := do
  ensure (expected.length = blockCheckLen) "PPF block check truncated"
  ensure (offset + blockCheckLen ≤ targetLen) "PPF target is too short for its block check"
  let actual ← readSource offset blockCheckLen
  ensure (actual = expected) "PPF source block check failed"

/-- Where the records of a patch lie, how wide their offsets are, and whether they carry the bytes they replace. -/
structure Layout where
  offsetBytes : Nat
  start : Nat
  recordEnd : Nat
  undo : Bool

def layout (patch : Bytes) (targetLen : Nat) (readSource : Nat → Nat → Except String Bytes) : Except String Layout :=
  if slice patch 0 5 = magic 0x31 then do
    ensure (byteAt patch 5 = 0) "invalid PPF1 encoding"
    .ok ⟨4,descriptionEnd,patch.length,false⟩
  else if slice patch 0 5 = magic 0x32 then do
    ensure (byteAt patch 5 = 1) "invalid PPF2 encoding"
    ensure (1084 ≤ patch.length) "PPF2 header truncated"
    let expectedLen := leValue (slice patch 56 60)
    ensure (expectedLen = targetLen) s!"PPF2 target size mismatch: expected {expectedLen}, got {targetLen}"
    verifyBlock targetLen 0x9320 (slice patch 60 1084) readSource
    let stop ← recordEnd patch 4 38
    .ok ⟨4,1084,stop,false⟩
  else if slice patch 0 5 = magic 0x33 then do
    ensure (60 ≤ patch.length) "PPF3 header truncated"
    ensure (byteAt patch 5 = 2) "invalid PPF3 encoding"
    ensure (byteAt patch 56 ≤ 1) "invalid PPF3 image type"
    ensure (byteAt patch 57 ≤ 1) "invalid PPF3 block-check flag"
    ensure (byteAt patch 58 ≤ 1) "invalid PPF3 undo flag"
    ensure (byteAt patch 59 = 0) "invalid PPF3 reserved byte"
    let headerLen := if byteAt patch 57 ≠ 0 then 1084 else 60
    ensure (headerLen ≤ patch.length) "PPF3 header truncated"
    if byteAt patch 57 ≠ 0 then
      verifyBlock targetLen (if byteAt patch 56 = 0 then 0x9320 else 0x80a0) (slice patch 60 1084) readSource
    let stop ← recordEnd patch 2 36
    .ok ⟨8,headerLen,stop,byteAt patch 58 ≠ 0⟩
  else .error "unsupported PPF patch version"

-- The writes and the number of replaced bytes are those of the records in front of the cursor.
def planRecords (patch : Bytes) (targetLen : Nat) (limits : PlanLimits) (area : Layout) :
    Nat → Nat → List Write → Nat → Except String PlanOutcome
  | 0,_,_,_ => .error "PPF record area is malformed"
  | fuel + 1,cursor,writes,replacementBytes =>
    if cursor < area.recordEnd then do
      let headerEnd ← checkedAdd cursor (area.offsetBytes + 1) "PPF record header overflow"
      ensure (headerEnd ≤ area.recordEnd) "PPF record header truncated"
      let offset := leValue (slice patch cursor (cursor + area.offsetBytes))
      let len := (byteAt patch (headerEnd - 1)).toNat
      let dataEnd ← checkedAdd headerEnd len "PPF record length overflow"
      let next ← checkedAdd dataEnd (if area.undo then len else 0) "PPF undo record length overflow"
      ensure (next ≤ area.recordEnd) "PPF record data truncated"
      let targetEnd ← checkedAdd offset len "PPF target offset overflow"
      let reached := lowerHex targetEnd
      let target := lowerHex targetLen
      ensure (targetEnd ≤ targetLen) s!"PPF record ends outside target at {reached} (target length {target})"
      let recordCount ← checkedAdd writes.length 1 "PPF record count overflow"
      if limits.maxRecords < recordCount then .ok (.fallback (.records recordCount limits.maxRecords))
      else
        let replaced ← checkedAdd replacementBytes len "PPF replacement length overflow"
        if limits.maxReplacementBytes < replaced then
          .ok (.fallback (.replacementBytes replaced limits.maxReplacementBytes))
        else planRecords patch targetLen limits area fuel next (writes ++ [⟨offset,slice patch headerEnd dataEnd⟩]) replaced
    else do
      ensure (cursor = area.recordEnd) "PPF record area is malformed"
      .ok (.planned writes)

/-- What has been planned in front of the cursor. -/
structure Plan where
  cursor : Nat
  writes : List Write
  replacementBytes : Nat
  fallback : Option PlanFallback

-- The body of the loop over the records.
def turn (patch : Bytes) (targetLen : Nat) (limits : PlanLimits) (area : Layout) (plan : Plan) : Except String Plan := do
  let headerEnd ← checkedAdd plan.cursor (area.offsetBytes + 1) "PPF record header overflow"
  ensure (headerEnd ≤ area.recordEnd) "PPF record header truncated"
  let offset := leValue (slice patch plan.cursor (plan.cursor + area.offsetBytes))
  let len := (byteAt patch (headerEnd - 1)).toNat
  let dataEnd ← checkedAdd headerEnd len "PPF record length overflow"
  let next ← checkedAdd dataEnd (if area.undo then len else 0) "PPF undo record length overflow"
  ensure (next ≤ area.recordEnd) "PPF record data truncated"
  let targetEnd ← checkedAdd offset len "PPF target offset overflow"
  let reached := lowerHex targetEnd
  let target := lowerHex targetLen
  ensure (targetEnd ≤ targetLen) s!"PPF record ends outside target at {reached} (target length {target})"
  let recordCount ← checkedAdd plan.writes.length 1 "PPF record count overflow"
  if limits.maxRecords < recordCount then
    .ok {plan with cursor := next, fallback := some (.records recordCount limits.maxRecords)}
  else
    let replaced ← checkedAdd plan.replacementBytes len "PPF replacement length overflow"
    if limits.maxReplacementBytes < replaced then
      .ok {plan with cursor := next, fallback := some (.replacementBytes replaced limits.maxReplacementBytes)}
    else .ok ⟨next,plan.writes ++ [⟨offset,slice patch headerEnd dataEnd⟩],replaced,none⟩

def Plan.outcome (area : Layout) (plan : Plan) : Except String PlanOutcome :=
  match plan.fallback with
  | some reason => .ok (.fallback reason)
  | none => do
    ensure (plan.cursor = area.recordEnd) "PPF record area is malformed"
    .ok (.planned plan.writes)

def Plan.goOn (patch : Bytes) (targetLen : Nat) (limits : PlanLimits) (area : Layout) (bound : Nat) (plan : Plan) :
    Except String PlanOutcome :=
  match plan.fallback with
  | some reason => .ok (.fallback reason)
  | none => planRecords patch targetLen limits area bound plan.cursor plan.writes plan.replacementBytes

theorem turn_onward {patch : Bytes} {targetLen : Nat} {limits : PlanLimits} {area : Layout} {before after : Plan}
    (ran : turn patch targetLen limits area before = .ok after) : before.cursor < after.cursor := by
  obtain ⟨headerEnd,header,ran⟩ := bind_ok.mp ran
  obtain ⟨_,ran⟩ := check_bind_ok.mp ran
  obtain ⟨dataEnd,data,ran⟩ := bind_ok.mp ran
  obtain ⟨next,undone,ran⟩ := bind_ok.mp ran
  obtain ⟨_,ran⟩ := check_bind_ok.mp ran
  obtain ⟨_,_,ran⟩ := bind_ok.mp ran
  obtain ⟨_,ran⟩ := check_bind_ok.mp ran
  obtain ⟨_,_,ran⟩ := bind_ok.mp ran
  have behind := (checkedAdd_ok.mp header).2
  have dataBehind := (checkedAdd_ok.mp data).2
  have nextBehind := (checkedAdd_ok.mp undone).2
  have moved : after.cursor = next := by
    split at ran
    · cases ran
      rfl
    obtain ⟨_,_,ran⟩ := bind_ok.mp ran
    split at ran <;> cases ran <;> rfl
  omega

-- The same checks stand in both, one after the other.
theorem goOn_turn (patch : Bytes) (targetLen : Nat) (limits : PlanLimits) (area : Layout) (bound : Nat) (plan : Plan)
    (going : plan.fallback.isNone ∧ plan.cursor < area.recordEnd) :
    plan.goOn patch targetLen limits area (bound + 1) =
      turn patch targetLen limits area plan >>= Plan.goOn patch targetLen limits area bound := by
  obtain ⟨cursor,writes,replacementBytes,fallback⟩ := plan
  cases Option.isNone_iff_eq_none.mp going.1
  simp only [Plan.goOn,planRecords,if_pos going.2,turn,bind_assoc]
  apply bind_congr_ok
  intro headerEnd _
  apply bind_congr_ok
  intro _ _
  apply bind_congr_ok
  intro dataEnd _
  apply bind_congr_ok
  intro next _
  apply bind_congr_ok
  intro _ _
  apply bind_congr_ok
  intro targetEnd _
  apply bind_congr_ok
  intro _ _
  apply bind_congr_ok
  intro recordCount _
  split
  · rfl
  rw [bind_assoc]
  apply bind_congr_ok
  intro replaced _
  split <;> rfl

theorem planRecords_end (patch : Bytes) (targetLen : Nat) (limits : PlanLimits) (area : Layout) :
    Terminates (fun plan : Plan => plan.fallback.isNone ∧ plan.cursor < area.recordEnd) (turn patch targetLen limits area)
      (fun plan => area.recordEnd + 1 - plan.cursor) (Plan.goOn patch targetLen limits area) (Plan.outcome area) := by
  apply attempt_terminates
  · intro plan going
    omega
  · intro before after going ran
    have onward := turn_onward ran
    omega
  · exact goOn_turn patch targetLen limits area
  · intro bound plan past enough
    unfold Plan.goOn Plan.outcome
    cases noted : plan.fallback with
    | some reason => rfl
    | none =>
      have beyond : ¬plan.cursor < area.recordEnd := fun inside => past ⟨by rw [noted]; rfl,inside⟩
      cases bound with
      | zero =>
        dsimp only
        rw [planRecords,ensure,if_neg (by omega)]
        rfl
      | succ bound => simp only [planRecords,if_neg beyond]

def planPpfPatch (patch : Bytes) (targetLen : Nat) (limits : PlanLimits) (readSource : Nat → Nat → Except String Bytes) :
    Except String PlanOutcome :=
  if limits.maxPatchBytes < patch.length then .ok (.fallback (.patchBytes patch.length limits.maxPatchBytes))
  else do
    ensure (descriptionEnd ≤ patch.length) "PPF header truncated"
    let area ← layout patch targetLen readSource
    ensure (area.start ≤ area.recordEnd) "PPF record area is malformed"
    planRecords patch targetLen limits area (area.recordEnd + 1) area.start [] 0

def readSegments : List Bytes → Nat → Nat → Except String Bytes
  | [],_,want => do
    ensure (want = 0) "PPF source read ends outside target"
    .ok []
  | target::targets,offset,want =>
    if target.length ≤ offset then readSegments targets (offset - target.length) want
    else
      let take := min want (target.length - offset)
      let head := slice target offset (offset + take)
      if want = take then .ok head
      else do
        let tail ← readSegments targets 0 (want - take)
        .ok (head ++ tail)

def writeSegments : List Bytes → Nat → Bytes → List Bytes
  | [],_,_ => []
  | target::targets,offset,bytes =>
    if target.length ≤ offset then target::writeSegments targets (offset - target.length) bytes
    else
      let take := min bytes.length (target.length - offset)
      let written := overwrite target offset (bytes.take take)
      if bytes.length = take then written::targets else written::writeSegments targets 0 (bytes.drop take)

end Ppf

/-- The loops over the records of a patch end by themselves: every turn consumes a byte of the patch. -/
theorem loops_end (source patch : Bytes) (stop targetSize : Nat) :
    Terminates (fun cursor : Bps.Cursor => cursor.pos < stop) (Bps.turn source patch stop targetSize) (fun cursor => stop - cursor.pos)
      (Bps.commands source patch stop targetSize) (fun cursor => .ok cursor.target) ∧
    Terminates (fun cursor : Ups.Cursor => cursor.pos < stop) (Ups.turn source patch stop targetSize) (fun cursor => stop - cursor.pos)
      (Ups.records source patch stop targetSize) (fun cursor => .ok cursor.output) ∧
    ∀ (limits : Ppf.PlanLimits) (area : Ppf.Layout),
      Terminates (fun plan : Ppf.Plan => plan.fallback.isNone ∧ plan.cursor < area.recordEnd) (Ppf.turn patch targetSize limits area)
        (fun plan => area.recordEnd + 1 - plan.cursor) (Ppf.Plan.goOn patch targetSize limits area) (Ppf.Plan.outcome area) :=
  ⟨Bps.commands_end source patch stop targetSize,Ups.records_end source patch stop targetSize,
    Ppf.planRecords_end patch targetSize⟩

def Ppf.planned (targets : List Bytes) (patch : Bytes) : Except String (List Ppf.Write) := do
  let totalLen ← targets.foldlM (fun total (target : Bytes) => checkedAdd total target.length "PPF target is too large") 0
  let outcome ← Ppf.planPpfPatch patch totalLen .unbounded (Ppf.readSegments targets)
  match outcome with
  | .planned writes => .ok writes
  | .fallback reason =>
    let text := reason.debug
    .error s!"unbounded PPF planning unexpectedly fell back: {text}"

def applyPpfPatchSegments (targets : List Bytes) (patch : Bytes) : Call (List Bytes) Unit :=
  match Ppf.planned targets patch with
  | .error error => (.error error,targets)
  | .ok writes => (.ok (),writes.foldl (fun targets write => Ppf.writeSegments targets write.offset write.bytes) targets)

def applyPpfPatch (target patch : Bytes) : Call Bytes Unit :=
  let (result,targets) := applyPpfPatchSegments [target] patch
  (result,targets.headD target)

end ZeffBoy.Patching
