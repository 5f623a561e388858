import ChannelAccess.Frame
import ChannelAccess.Superframe

/-!
What an engine finds around it during one operation: the clock, the radio, the medium access layer
with its queued frame, and the advice that the layer gives on the next backoff if it is asked.
-/

namespace ChannelAccess

/-- The radio's timing. -/
structure RadioFacts where
  symbolsPerSecond : UInt32
  turnaround : UInt32 := standardTurnaround
  deriving DecidableEq, Repr

/-- The queued frame and the superframes it may have to fit. -/
structure LayerFacts where
  frame : Frame
  outgoing : Superframe
  incoming : Superframe
  ackWait : UInt32
  deriving DecidableEq, Repr

def LayerFacts.superframe (layer : LayerFacts) : Direction → Superframe
  | .outgoing => layer.outgoing
  | .incoming => layer.incoming

structure Surroundings where
  now : Instant
  radio : RadioFacts
  layer : LayerFacts
  /-- A number of backoff periods, or none to leave the choice to chance. -/
  advice : Option UInt32 := none
  deriving DecidableEq, Repr

end ChannelAccess
