import ZeffBoy.Netplay.Rollback

/-! Messages between the peers of a session. Counters are unsigned 64-bit words
held as natural numbers; `Fits` is the range of the words. The lengths of chat text are counted in UTF-8 bytes. -/
namespace ZeffBoy.Wire
open Library Netplay

abbrev Digest := List.Vector UInt8 32

inductive Message
  | chat (text : String)
  | input (player : Player) (frame : Nat) (buttons : UInt16)
  | checkpoint (frame : Nat) (logical video audio persistent : Digest)
  | close (frame : Nat)
  | pause (frame : Nat) (paused : Bool)
  | progress (frame confirmed : Nat)
  | pauseChange (request frame : Nat) (paused : Bool)
  | pauseAck (request : Nat)
deriving DecidableEq

def Message.Fits : Message → Prop
  | .chat _ => True
  | .input _ frame _ => frame < 2^64
  | .checkpoint frame _ _ _ _ => frame < 2^64
  | .close frame => frame < 2^64
  | .pause frame _ => frame < 2^64
  | .progress frame confirmed => frame < 2^64 ∧ confirmed < 2^64
  | .pauseChange request frame _ => request < 2^64 ∧ frame < 2^64
  | .pauseAck request => request < 2^64

def chatMaxBytes : Nat := 512

-- The characters with the Unicode property White_Space.
def isWhitespace (ch : Char) : Bool :=
  let code := ch.toNat
  (0x9 ≤ code && code ≤ 0xD) || code = 0x20 || code = 0x85 || code = 0xA0 || code = 0x1680 ||
    (0x2000 ≤ code && code ≤ 0x200A) || code = 0x2028 || code = 0x2029 || code = 0x202F || code = 0x205F ||
    code = 0x3000

-- The characters of the Unicode category Cc.
def isControl (ch : Char) : Bool := ch.toNat ≤ 0x1F || (0x7F ≤ ch.toNat && ch.toNat ≤ 0x9F)

def isUnsupported (ch : Char) : Bool :=
  let code := ch.toNat
  isControl ch || (0x2028 ≤ code && code ≤ 0x202E) || (0x2066 ≤ code && code ≤ 0x2069) || code = 0x61C ||
    code = 0x200E || code = 0x200F

def trim (text : String) : String :=
  String.ofList ((text.toList.dropWhile isWhitespace).reverse.dropWhile isWhitespace).reverse

def validateChat (text : String) : Except String Unit := do
  ensure (trim text ≠ "") "Enter a message."
  ensure (text.utf8ByteSize ≤ chatMaxBytes) "Message is too long (512 bytes max)."
  ensure (!text.toList.any isUnsupported) "Message contains unsupported characters."

end ZeffBoy.Wire
