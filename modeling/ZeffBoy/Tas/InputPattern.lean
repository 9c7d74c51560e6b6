import ZeffBoy.Tas.Model

/-! Patterns of input that overwrite a range of a branch. -/
namespace ZeffBoy.Tas
open Library

def maxTasInputPatternSpans : Nat := 4096
def maxTasInputPatternTileSteps : Nat := 8192

def validateLength (length : Nat) : Except String Unit := do
  ensure (length ≠ 0) "TAS input pattern cannot be empty"
  ensure (length ≤ maxProjectFrames) s!"TAS input pattern exceeds the {maxProjectFrames}-frame limit"

def validatePatternSpans (length previousEnd : Nat) (previousInput : Option TasInputFrame) :
    List TasInputSpan → Except String Unit
  | [] => .ok ()
  | span::spans => do
    ensure (span.length ≠ 0) "TAS input pattern spans cannot be empty"
    ensure (span.value ≠ {}) "neutral TAS input pattern spans must be omitted"
    let stop ← checkedAdd span.start span.length "TAS input pattern span overflows"
    ensure (stop ≤ length) "TAS input pattern span extends past pattern end"
    ensure (previousEnd ≤ span.start) "TAS input pattern spans must be sorted and non-overlapping"
    ensure (¬(span.start = previousEnd ∧ previousInput = some span.value))
      "adjacent identical TAS input pattern spans must be merged"
    validatePatternSpans length stop (some span.value) spans

def validatePattern (length : Nat) (spans : List TasInputSpan) : Except String Unit := do
  validateLength length
  ensure (spans.length ≤ maxTasInputPatternSpans)
    s!"TAS input pattern exceeds the limit of {maxTasInputPatternSpans} spans"
  validatePatternSpans length 0 none spans

structure TasInputPattern where
  length : Nat
  spans : List TasInputSpan
  valid : validatePattern length spans = .ok ()

namespace TasInputPattern

def new (length : Nat) (spans : List TasInputSpan) : Except String TasInputPattern :=
  match valid : validatePattern length spans with
  | .ok () => .ok ⟨length,spans,valid⟩
  | .error message => .error message

def neutral (length : Nat) : Except String TasInputPattern := new length []

def constant (length : Nat) (input : TasInputFrame) : Except String TasInputPattern :=
  if input = {} then neutral length else new length [⟨0,length,input⟩]

end TasInputPattern

/-- Appends a span; one that continues the last span extends it. -/
def pushSpan (spans : List TasInputSpan) (span : TasInputSpan) (maxSpans : Nat) : Except String (List TasInputSpan) :=
  match spans.getLast?.filter (fun previous => previous.stop = span.start ∧ previous.value = span.value) with
  | some previous => do
    let length ← checkedAdd previous.length span.length "TAS input span merge overflows"
    return spans.dropLast ++ [{ previous with length := length }]
  | none => do
    ensure (spans.length ≠ maxSpans) s!"TAS input pattern output exceeds the limit of {maxSpans} spans"
    return spans ++ [span]

def pushSpans (spans pushed : List TasInputSpan) (maxSpans : Nat) : Except String (List TasInputSpan) :=
  pushed.foldlM (fun spans span => pushSpan spans span maxSpans) spans

def partitionPoint {α : Type} (values : List α) (test : α → Bool) : Nat := (values.takeWhile test).length

namespace TasInputPattern

def wholeSpan (pattern : TasInputPattern) : Option TasInputSpan :=
  match pattern.spans with
  | [span] => if span.start = 0 ∧ span.length = pattern.length then some span else none
  | _ => none

/-- Appends one cycle of a tiling. -/
def tileCycle (length cycleStart : Nat) (tiled spans : List TasInputSpan) : Except String (List TasInputSpan) :=
  spans.foldlM (fun tiled span => do
    let start ← checkedAdd cycleStart span.start "TAS input pattern tiling offset overflows"
    let spanEnd ← checkedAdd start span.length "TAS input pattern tiling range overflows"
    pushSpan tiled ⟨start,min spanEnd length - start,span.value⟩ maxTasInputPatternSpans) tiled

/-- Appends cycle after cycle; the one behind the full cycles has only the spans that begin in the remainder. -/
def tileCycles (pattern : TasInputPattern) (length : Nat) : Except String TasInputPattern := do
  let fullCycles := length / pattern.length
  let remainder := length % pattern.length
  let partialSteps := partitionPoint pattern.spans (fun span => span.start < remainder)
  let steps ← checkedMul fullCycles pattern.spans.length "TAS input pattern tiling work overflows"
  let candidateSteps ← checkedAdd steps partialSteps "TAS input pattern tiling work overflows"
  ensure (candidateSteps ≤ maxTasInputPatternTileSteps)
    s!"TAS input pattern tiling requires {candidateSteps} candidate runs, above the limit of {maxTasInputPatternTileSteps}"
  let cycleCount := fullCycles + if remainder ≠ 0 then 1 else 0
  let tiled ← (List.range cycleCount).foldlM (fun tiled cycle => do
    let cycleStart ← checkedMul cycle pattern.length "TAS input pattern tiling offset overflows"
    let spanCount := if cycle < fullCycles then pattern.spans.length else partialSteps
    tileCycle length cycleStart tiled (pattern.spans.take spanCount)) []
  new length tiled

def tileToLength (pattern : TasInputPattern) (length : Nat) : Except String TasInputPattern := do
  validateLength length
  if pattern.spans = [] then neutral length
  else match pattern.wholeSpan with
    | some span => constant length span.value
    | none => pattern.tileCycles length

end TasInputPattern

/-- Cuts the spans to a range and counts frames from its start, up to the first span behind the range. -/
def clipSpans (start stop : Nat) (spans : List TasInputSpan) : List TasInputSpan → Except String (List TasInputSpan)
  | [] => .ok spans
  | span::remaining =>
    if stop ≤ span.start then .ok spans
    else do
      ensure (spans.length ≠ maxTasInputPatternSpans)
        s!"TAS input pattern exceeds the limit of {maxTasInputPatternSpans} spans"
      let clippedStart := max span.start start
      let clippedEnd := min span.stop stop
      clipSpans start stop (spans ++ [⟨clippedStart - start,clippedEnd - clippedStart,span.value⟩]) remaining

def TasBranch.inputPattern (branch : TasBranch) (start length : Nat) : Except String TasInputPattern := do
  validateLength length
  let stop ← checkedAdd start length "TAS input pattern range overflows"
  ensure (stop ≤ branch.frameCount) "TAS input pattern range extends past branch end"
  let first := partitionPoint branch.inputSpans (fun span => saturatingAdd span.start span.length ≤ start)
  let spans ← clipSpans start stop [] (branch.inputSpans.drop first)
  TasInputPattern.new length spans

/-- The replaced spans: those in front, the cut front of the first that reaches into the range, the
pattern moved into place, the cut back of the last that begins in the range, and those behind. -/
def replaceBranchInputPattern (branch : TasBranch) (start : Nat) (pattern : TasInputPattern) :
    Except String TasBranch := do
  let stop ← checkedAdd start pattern.length "TAS input pattern replacement range overflows"
  ensure (stop ≤ branch.frameCount) "TAS input pattern replacement extends past branch end"
  let first := partitionPoint branch.inputSpans (fun span => span.stop ≤ start)
  let after := partitionPoint branch.inputSpans (fun span => span.start < stop)
  let spans ← pushSpans [] (branch.inputSpans.take first) maxProjectInputSpans
  let spans ← pushSpans spans (cutFront (branch.inputSpans[first]?)) maxProjectInputSpans
  let spans ← pattern.spans.foldlM (fun spans span => do
    let begins ← checkedAdd start span.start "TAS input pattern offset overflows"
    pushSpan spans { span with start := begins } maxProjectInputSpans) spans
  let spans ← pushSpans spans (cutBack stop (if after = 0 then none else branch.inputSpans[after - 1]?))
    maxProjectInputSpans
  let spans ← pushSpans spans (branch.inputSpans.drop after) maxProjectInputSpans
  return { branch with inputSpans := spans }
where
  cutFront : Option TasInputSpan → List TasInputSpan
    | some span => if span.start < start then [{ span with length := start - span.start }] else []
    | none => []
  cutBack (stop : Nat) : Option TasInputSpan → List TasInputSpan
    | some span => if stop < span.stop then [⟨stop,span.stop - stop,span.value⟩] else []
    | none => []

end ZeffBoy.Tas
