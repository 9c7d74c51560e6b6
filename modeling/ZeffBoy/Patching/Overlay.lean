import ZeffBoy.Library.OrderedMap
import ZeffBoy.Patching.PpfSegments
import ZeffBoy.Patching.TrackSource

/-! The overlay that patches a disc without copying it: replaced spans over the sources of its tracks. -/
namespace ZeffBoy.Patching
open Library

def patchBytesLimit : Nat := 16 * 1024 * 1024
def patchRecordsLimit : Nat := 131072
def replacementBytesLimit : Nat := 64 * 1024 * 1024
def overlaySpansLimit : Nat := 131072

structure PatchOverlayLimits where
  ppf : Ppf.PlanLimits
  maxSpans : Nat
  maxReplacementBytes : Nat

def PatchOverlayLimits.bounded : PatchOverlayLimits where
  ppf := ⟨patchBytesLimit,patchRecordsLimit,replacementBytesLimit⟩
  maxSpans := overlaySpansLimit
  maxReplacementBytes := replacementBytesLimit

inductive PatchOverlayFallback
  | ppf (reason : Ppf.PlanFallback)
  | spans (spans limit : Nat)
  | replacementBytes (bytes limit : Nat)

inductive PatchOverlayApply
  | applied
  | fallback (reason : PatchOverlayFallback)

structure OverlaySpan where
  start : Nat
  data : Bytes
  dataStart : Nat
  len : Nat

namespace OverlaySpan

def stop (span : OverlaySpan) : Nat := span.start + span.len

def bytes (span : OverlaySpan) : Bytes := slice span.data span.dataStart (span.dataStart + span.len)

end OverlaySpan

-- The span before the start that reaches over it, and those that start in the range.
def overlapKeys (spans : OrderedMap OverlaySpan) (start stop : Nat) : List Nat :=
  let before := ((spans.entries.filter (fun entry => entry.1 ≤ start)).getLast?.filter (fun entry => start < entry.2.stop))
  let inside := spans.entries.filter (fun entry => start ≤ entry.1 ∧ entry.1 < stop)
  ((before.toList ++ inside).map Prod.fst).mergeSort.dedup

-- What is left of a span around the range that replaces it. Every overlapping key is in the map.
def trimSpan (start stop : Nat) (spans : OrderedMap OverlaySpan) (key : Nat) : OrderedMap OverlaySpan :=
  match spans.get? key with
  | none => spans
  | some old =>
    let removed := spans.erase key
    let front := if old.start < start then removed.insert old.start { old with len := start - old.start } else removed
    if stop < old.stop then
      front.insert stop ⟨stop,old.data,old.dataStart + stop - old.start,old.stop - stop⟩
    else front

def insertSpan (spans : OrderedMap OverlaySpan) (start : Nat) (bytes : Bytes) : OrderedMap OverlaySpan :=
  let stop := start + bytes.length
  ((overlapKeys spans start stop).foldl (trimSpan start stop) spans).insert start ⟨start,bytes,0,bytes.length⟩

/-- The spans over a read, up to the first one behind it. -/
def applySpanIter (offset : Nat) : List OverlaySpan → Bytes → Bytes
  | [],output => output
  | span::spans,output =>
    let stop := offset + output.length
    if stop ≤ span.start then output
    else
      let copyStart := max span.start offset
      let copyEnd := min span.stop stop
      if copyStart < copyEnd then
        applySpanIter offset spans (overwrite output (copyStart - offset)
          (slice span.bytes (copyStart - span.start) (copyEnd - span.start)))
      else applySpanIter offset spans output

-- The partition point of the ordered spans skips those that end in front of the read.
def applySpans (spans : List OverlaySpan) (offset : Nat) (output : Bytes) : Bytes :=
  applySpanIter offset (spans.dropWhile (fun span => span.stop ≤ offset)) output

def readOverlay (base : CdTrackSource) (spans : List OverlaySpan) (offset count : Nat) : Except CdSourceError Bytes := do
  let _ ← checkedEnd offset count base.len
  let output ← base.readExactAt offset count
  return applySpanIter offset spans output

def clipSpan (rangeStart rangeEnd : Nat) (span : OverlaySpan) : Option OverlaySpan :=
  let start := max span.start rangeStart
  let stop := min span.stop rangeEnd
  if start < stop then some ⟨start - rangeStart,span.data,span.dataStart + start - span.start,stop - start⟩ else none

structure PatchOverlaySource where
  base : CdTrackSource
  spans : List OverlaySpan
  len : Nat

namespace PatchOverlaySource

/-- The visitor that an overlay puts between its base and its own visitor. -/
structure Visitor where
  offset : Nat := 0
  invalid : Bool := false
  pieces : List Bytes := []

def visit (overlay : PatchOverlaySource) (sectorBytes : Nat) (visitor : Visitor) (bytes : Bytes) : Visitor :=
  let stop := visitor.offset + bytes.length
  if visitor.invalid ∨ 2^64 ≤ stop ∨ bytes = [] ∨ sectorBytes < bytes.length ∨ overlay.len < stop then
    { visitor with invalid := true }
  else
    { visitor with offset := stop, pieces := visitor.pieces ++ [applySpans overlay.spans visitor.offset bytes] }

def visitPayload (overlay : PatchOverlaySource) (sectorBytes : Nat) : Visit :=
  if sectorBytes = 0 ∨ cdRawSectorBytes < sectorBytes ∨ overlay.len % sectorBytes ≠ 0 then ([],.error .readFailed)
  else
    let (pieces,outcome) := overlay.base.visitPayload sectorBytes
    let visitor := pieces.foldl (overlay.visit sectorBytes) {}
    match outcome with
    | .error error => (visitor.pieces,.error error)
    | .ok () =>
      if visitor.invalid ∨ visitor.offset ≠ overlay.len then (visitor.pieces,.error .readFailed)
      else (visitor.pieces,.ok ())

def source (overlay : PatchOverlaySource) : CdTrackSource where
  len := overlay.len
  readExactAt := fun offset count => do
    let _ ← checkedEnd offset count overlay.len
    if cdRawSectorBytes < count then .error .readFailed else readOverlay overlay.base overlay.spans offset count
  visitPayload := overlay.visitPayload

end PatchOverlaySource

structure PatchOverlayBuilder where
  base : CdTrackSource
  spans : OrderedMap OverlaySpan
  replacementBytes : Nat
  limits : PatchOverlayLimits

namespace PatchOverlayBuilder

def withLimits (base : CdTrackSource) (limits : PatchOverlayLimits) : PatchOverlayBuilder := ⟨base,.empty,0,limits⟩

def new (base : CdTrackSource) : PatchOverlayBuilder := withLimits base .bounded

def forTracks (sources : List CdTrackSource) : Option PatchOverlayBuilder :=
  (ConcatenatedTrackSource.new sources).map (fun concatenated => new concatenated.source)

def readCurrent (builder : PatchOverlayBuilder) (offset count : Nat) : Except CdSourceError Bytes :=
  readOverlay builder.base builder.spans.values offset count

-- The number of bytes that a plan adds, unless a word overflows.
def addedBytes (builder : PatchOverlayBuilder) (writes : List Ppf.Write) : Option Nat :=
  (writes.foldlM (fun total write => if total + write.bytes.length < 2^64 then some (total + write.bytes.length) else none) 0).bind
    (fun bytes => if builder.replacementBytes + bytes < 2^64 then some (builder.replacementBytes + bytes) else none)

def insertWrites (maxSpans : Nat) : OrderedMap OverlaySpan → List Ppf.Write → Except PatchOverlayFallback (OrderedMap OverlaySpan)
  | spans,[] => .ok spans
  | spans,write::writes =>
    if write.bytes = [] then insertWrites maxSpans spans writes
    else
      let inserted := insertSpan spans write.offset write.bytes
      if maxSpans < inserted.size then .error (.spans inserted.size maxSpans) else insertWrites maxSpans inserted writes

def applyPpf (builder : PatchOverlayBuilder) (patch : Bytes) : Call PatchOverlayBuilder PatchOverlayApply :=
  match Ppf.planPpfPatch patch builder.base.len builder.limits.ppf
      (fun offset count => (builder.readCurrent offset count).mapError CdSourceError.display) with
  | .error error => (.error error,builder)
  | .ok (.fallback reason) => (.ok (.fallback (.ppf reason)),builder)
  | .ok (.planned writes) =>
    match builder.addedBytes writes with
    | none => (.ok (.fallback (.replacementBytes (2^64 - 1) builder.limits.maxReplacementBytes)),builder)
    | some replacementBytes =>
      if builder.limits.maxReplacementBytes < replacementBytes then
        (.ok (.fallback (.replacementBytes replacementBytes builder.limits.maxReplacementBytes)),builder)
      else
        match insertWrites builder.limits.maxSpans builder.spans writes with
        | .error reason => (.ok (.fallback reason),builder)
        | .ok spans => (.ok .applied,{ builder with spans := spans, replacementBytes := replacementBytes })

-- The tracks behind some start, each with the spans that lie over it.
def finishFrom (spans : List OverlaySpan) : Nat → List CdTrackSource → Option (List CdTrackSource)
  | _,[] => some []
  | start,base::sources =>
    let stop := start + base.len
    if stop < 2^64 then
      let overlay : PatchOverlaySource := ⟨base,spans.filterMap (clipSpan start stop),base.len⟩
      (finishFrom spans stop sources).map (fun later => overlay.source::later)
    else none

def finishTracks (builder : PatchOverlayBuilder) (sources : List CdTrackSource) : Option (List CdTrackSource) := do
  let expectedLen ← sources.foldlM (fun total source => if total + source.len < 2^64 then some (total + source.len) else none) 0
  if expectedLen ≠ builder.base.len then none else finishFrom builder.spans.values 0 sources

end PatchOverlayBuilder

end ZeffBoy.Patching
