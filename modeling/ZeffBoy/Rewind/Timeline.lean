import ZeffBoy.Rewind.Buffer

/-! What a rewind buffer remembers of a run.
A timeline is what has happened and was not undone: frames and captures, the latest in front. Rewinding goes back to
a moment on it. The buffer holds the latest captures of the timeline, less those that were evicted. -/
namespace ZeffBoy.Rewind
open Library

inductive Moment
  | frames (count : Nat)
  | capture (stateBytes framebuffer : Bytes)
deriving DecidableEq

namespace Moment

def elapsed : List Moment → Nat
  | [] => 0
  | .frames count::moments => elapsed moments + count
  | .capture _ _::moments => elapsed moments

def captures : List Moment → List (Bytes × Bytes)
  | [] => []
  | .frames _::moments => captures moments
  | .capture stateBytes framebuffer::moments => (stateBytes,framebuffer)::captures moments

/-- The timeline as it was before the capture that is counted from the latest. -/
def before : Nat → List Moment → List Moment
  | 0,moments => moments
  | _ + 1,[] => []
  | count + 1,.frames _::moments => before (count + 1) moments
  | count + 1,.capture _ _::moments => before count moments

def forget : List Moment → List Moment
  | [] => []
  | .frames count::moments => .frames count::forget moments
  | .capture _ _::moments => moments

def operation : Moment → RewindOperation
  | .frames count => .advanceFrames count
  | .capture stateBytes framebuffer => .push stateBytes framebuffer

end Moment

open Moment

/-- A timeline, and the most captures that were on it at once since it was cleared. -/
structure Timeline where
  moments : List Moment := []
  peak : Nat := 0

namespace Timeline

def live (timeline : Timeline) : Nat := (captures timeline.moments).length

/-- The captures that are still held: all but those that were evicted when the timeline had the most of them. -/
def held (capacity : Nat) (timeline : Timeline) : Nat := timeline.live - (timeline.peak - capacity)

def reached (capacity : Nat) (timeline : Timeline) (steps : Nat) : Nat := min (max steps 1) (timeline.held capacity)

def perform (capacity : Nat) (timeline : Timeline) : RewindOperation → Timeline
  | .advanceFrames count => { timeline with moments := .frames count::timeline.moments }
  | .push stateBytes framebuffer =>
    ⟨.capture stateBytes framebuffer::timeline.moments,max timeline.peak (timeline.live + 1)⟩
  | .popSteps steps => { timeline with moments := before (timeline.reached capacity steps) timeline.moments }
  | .discardLatest =>
    if 0 < timeline.held capacity then { timeline with moments := forget timeline.moments } else timeline
  | .clear => {}

def run (capacity : Nat) (operations : List RewindOperation) : Timeline := operations.foldl (perform capacity) {}

end Timeline

/-- The snapshots of a timeline's captures, each with the frames before it. -/
def snapshotsOf (compression : Compression) (interval : Nat) : List Moment → List RewindSnapshot
  | [] => []
  | .frames _::moments => snapshotsOf compression interval moments
  | .capture stateBytes framebuffer::moments =>
    .compress compression stateBytes framebuffer (elapsed moments) (elapsed moments % interval)::
      snapshotsOf compression interval moments

section
variable (compression : Compression) (interval : Nat)

theorem length_snapshotsOf (moments : List Moment) :
    (snapshotsOf compression interval moments).length = (captures moments).length := by
  induction moments with
  | nil => rfl
  | cons moment moments ih =>
    cases moment with
    | frames count => exact ih
    | capture stateBytes framebuffer => exact congrArg Nat.succ ih

@[simp] theorem before_zero (moments : List Moment) : before 0 moments = moments := by
  cases moments <;> rfl

theorem snapshotsOf_before (count : Nat) (moments : List Moment) :
    snapshotsOf compression interval (before count moments) = (snapshotsOf compression interval moments).drop count := by
  induction moments generalizing count with
  | nil => cases count <;> rfl
  | cons moment moments ih =>
    cases count with
    | zero => rfl
    | succ count =>
      cases moment with
      | frames frames' => exact ih (count + 1)
      | capture stateBytes framebuffer => exact ih count

theorem captures_before (count : Nat) (moments : List Moment) :
    captures (before count moments) = (captures moments).drop count := by
  induction moments generalizing count with
  | nil => cases count <;> rfl
  | cons moment moments ih =>
    cases count with
    | zero => rfl
    | succ count =>
      cases moment with
      | frames frames' => exact ih (count + 1)
      | capture stateBytes framebuffer => exact ih count

theorem elapsed_before_le (count : Nat) (moments : List Moment) : elapsed (before count moments) ≤ elapsed moments := by
  induction moments generalizing count with
  | nil => cases count <;> exact Nat.le_refl 0
  | cons moment moments ih =>
    cases count with
    | zero => exact le_rfl
    | succ count =>
      cases moment with
      | frames frames' => exact (ih (count + 1)).trans (Nat.le_add_right _ _)
      | capture stateBytes framebuffer => exact ih count

theorem snapshotsOf_forget (moments : List Moment) :
    snapshotsOf compression interval (forget moments) = (snapshotsOf compression interval moments).tail := by
  induction moments with
  | nil => rfl
  | cons moment moments ih =>
    cases moment with
    | frames count => exact ih
    | capture stateBytes framebuffer => rfl

theorem captures_forget (moments : List Moment) : captures (forget moments) = (captures moments).tail := by
  induction moments with
  | nil => rfl
  | cons moment moments ih =>
    cases moment with
    | frames count => exact ih
    | capture stateBytes framebuffer => rfl

theorem elapsed_forget (moments : List Moment) : elapsed (forget moments) = elapsed moments := by
  induction moments with
  | nil => rfl
  | cons moment moments ih =>
    cases moment with
    | frames count => exact congrArg (· + count) ih
    | capture stateBytes framebuffer => rfl

theorem getElem?_snapshotsOf (moments : List Moment) (index : Nat) (snapshot : RewindSnapshot)
    (found : (snapshotsOf compression interval moments)[index]? = some snapshot) :
    ∃ stateBytes framebuffer, (captures moments)[index]? = some (stateBytes,framebuffer) ∧
      snapshot = .compress compression stateBytes framebuffer (elapsed (before (index + 1) moments))
        (elapsed (before (index + 1) moments) % interval) := by
  induction moments generalizing index with
  | nil => simp [snapshotsOf] at found
  | cons moment moments ih =>
    cases moment with
    | frames count => exact ih index found
    | capture stateBytes framebuffer =>
      cases index with
      | zero =>
        obtain rfl := Option.some.inj found
        refine ⟨stateBytes,framebuffer,rfl,?_⟩
        rw [before,before_zero]
      | succ index => exact ih index found

theorem snapshotsOf_ordered (moments : List Moment) :
    (snapshotsOf compression interval moments).Pairwise (fun newer older => older.emulatedFrame ≤ newer.emulatedFrame) ∧
      ∀ snapshot ∈ snapshotsOf compression interval moments, snapshot.emulatedFrame ≤ elapsed moments := by
  induction moments with
  | nil => exact ⟨.nil,by simp [snapshotsOf]⟩
  | cons moment moments ih =>
    obtain ⟨ordered,past⟩ := ih
    cases moment with
    | frames count => exact ⟨ordered,fun snapshot member => (past snapshot member).trans (Nat.le_add_right _ _)⟩
    | capture stateBytes framebuffer =>
      refine ⟨List.pairwise_cons.mpr ⟨past,ordered⟩,List.forall_mem_cons.mpr ⟨le_rfl,past⟩⟩

theorem popBack_eq (snapshot : Option RewindSnapshot) (steps : Nat) (snapshots : List RewindSnapshot) :
    RewindBuffer.popBack snapshot steps snapshots =
      ((snapshots.take steps).getLast?.or snapshot,snapshots.drop steps) := by
  induction steps generalizing snapshot snapshots with
  | zero => rfl
  | succ steps ih =>
    cases snapshots with
    | nil => rfl
    | cons next snapshots =>
      rw [RewindBuffer.popBack,ih,List.take_succ_cons,List.drop_succ_cons,List.getLast?_cons]
      cases (snapshots.take steps).getLast? <;> rfl

end

end ZeffBoy.Rewind
