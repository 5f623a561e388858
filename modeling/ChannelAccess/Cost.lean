import ChannelAccess.Frame
import ChannelAccess.Overflow

/-!
What the rest of a slotted transaction costs once the backoff is over: the remaining channel
assessments, the frame, the reply, and the interframe spacing.
-/

namespace ChannelAccess

structure Cost where
  assessments : Nat
  frame : Nat
  /-- The wait for an acknowledgment, or two turnarounds when none is requested. -/
  reply : Nat
  spacing : Nat
  deriving DecidableEq, Repr

namespace Cost

def estimate (window : Nat) (frame : Frame) (ackWait turnaround : UInt32) :
    Except Overflow Cost := do
  let reply ←
    if frame.ackRequested then .ok ackWait.toNat
    else wordValue .multiplication (2 * turnaround.toNat)
  return {
    assessments := assessmentSymbols * window
    frame := frame.symbols.toNat
    reply
    spacing := frame.spacing.toNat }

/-- The sum of the parts, at most the largest word. -/
def total (cost : Cost) : Nat :=
  saturatingAdd (saturatingAdd (saturatingAdd cost.assessments cost.frame) cost.reply) cost.spacing

end Cost

end ChannelAccess
