import ZeffBoy.Wire.Message

/-! Comparison of periodic checkpoints with those of the peer. -/
namespace ZeffBoy.Netplay
open Library Wire

def hashInterval : Nat := 60

def capacity : Nat := 8

structure Hashes where
  expected : OrderedMap Message
  pending : OrderedMap Message
  matched : Option Message
deriving DecidableEq

namespace Hashes

def new : Hashes := ⟨.empty,.empty,none⟩

def periodicFrame : Message → Except String Nat
  | .checkpoint frame _ _ _ _ => do
    ensure (frame ≠ 0 ∧ frame % hashInterval = 0) "invalid periodic checkpoint frame"
    return frame
  | _ => .error "expected checkpoint"

-- Only checkpoints are ever stored as matched.
def frameOf : Message → Nat
  | .checkpoint frame _ _ _ _ => frame
  | _ => 0

def local_ (h : Hashes) (message : Message) : Call Hashes Unit :=
  match periodicFrame message with
  | .error reason => (.error reason,h)
  | .ok frame =>
    if (h.expected.get? frame).isSome then (.error "duplicate local checkpoint",h)
    else match h.pending.get? frame with
      | some remote =>
        let h := {h with pending := h.pending.erase frame}
        if remote = message then (.ok (),{h with matched := some message})
        else (.error s!"netplay checkpoint differs at frame {frame}",h)
      | none =>
        if h.expected.size < capacity then (.ok (),{h with expected := h.expected.insert frame message})
        else (.error "peer checkpoint stalled",h)

def remote (h : Hashes) (message : Message) (current lookahead : Nat) : Call Hashes Unit :=
  match periodicFrame message, checkedAdd current lookahead "checkpoint frame overflow" with
  | .error reason,_ => (.error reason,h)
  | .ok _,.error reason => (.error reason,h)
  | .ok frame,.ok upper =>
    if upper < frame then (.error "peer checkpoint exceeds window",h)
    else match h.matched.filter (fun matched => frame ≤ frameOf matched) with
      | some matched => if message = matched then (.ok (),h) else (.error "stale or changed peer checkpoint",h)
      | none =>
        match h.expected.get? frame, h.pending.get? frame with
        | some mine,_ =>
          let h := {h with expected := h.expected.erase frame}
          if mine = message then (.ok (),{h with matched := some message})
          else (.error s!"netplay checkpoint differs at frame {frame}",h)
        | none,some previous =>
          if previous = message then (.ok (),h) else (.error "peer changed a pending checkpoint",h)
        | none,none =>
          if h.pending.size < capacity then (.ok (),{h with pending := h.pending.insert frame message})
          else (.error "peer checkpoint queue is full",h)

end Hashes
end ZeffBoy.Netplay
