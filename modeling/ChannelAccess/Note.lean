import ChannelAccess.AccessError
import ChannelAccess.Phy
import ChannelAccess.Time
import ChannelAccess.Timer
import ChannelAccess.Verdict

/-!
What goes into the log: one note for each thing worth a line, with its level and its wording.
-/

namespace ChannelAccess

inductive NoteLevel where
  | error
  | warn
  | info
  | debug
  | trace
  deriving DecidableEq, Repr

def NoteLevel.label : NoteLevel → String
  | .error => "ERROR"
  | .warn => "WARN"
  | .info => "INFO"
  | .debug => "DEBUG"
  | .trace => "TRACE"

inductive Note where
  | restarted
  | slottedStarted (toBoundary : Span)
  | unslottedStarted
  | staleTimer (kind : TimerKind)
  | capEnded
  | assessing
  | unexpectedConfirm
  | stillIdle (window : Nat)
  | channelIdle (backoffs : Nat)
  | accessFailed (backoffs : Nat)
  | backingOff (backoffs exponent : Nat)
  | assessmentAfter (periods : Nat) (backoff : Span)
  | carriedOver (periods left : Nat)
  | proceedingAfter (periods : Nat)
  | transactionTooLong (symbols : Nat) (left : Span)
  | concluded (verdict : Verdict)
  | agendaFull (kind : TimerKind)
  | assessed (status : ChannelStatus)
  | nothingToWaitFor
  | aborted (error : AccessError)
  | queueFull
  deriving DecidableEq, Repr

namespace Note

def level : Note → NoteLevel
  | agendaFull _ | nothingToWaitFor | aborted _ | queueFull => .error
  | restarted => .warn
  | concluded _ => .info
  | slottedStarted _ | unslottedStarted | capEnded | channelIdle _ | accessFailed _
  | backingOff _ _ | assessmentAfter _ _ | carriedOver _ _ | transactionTooLong _ _ => .debug
  | staleTimer _ | assessing | unexpectedConfirm | stillIdle _ | proceedingAfter _
  | assessed _ => .trace

def text : Note → String
  | restarted => "CSMA-CA restarted before the previous attempt finished"
  | slottedStarted toBoundary =>
    s!"Slotted CSMA-CA started, next backoff boundary in {toBoundary.us} us"
  | unslottedStarted => "Unslotted CSMA-CA started"
  | staleTimer kind => s!"Ignoring stale {kind.label} timer"
  | capEnded => "CAP ended, deferring to the next superframe"
  | assessing => "Requesting CCA"
  | unexpectedConfirm => "Ignoring CCA confirm without a pending request"
  | stillIdle window => s!"Channel idle, CW = {window}"
  | channelIdle backoffs => s!"Channel idle after {backoffs} backoffs"
  | accessFailed backoffs => s!"Channel access failure after {backoffs} backoffs"
  | backingOff backoffs exponent =>
    s!"Channel busy, backing off again (NB = {backoffs}, BE = {exponent})"
  | assessmentAfter periods backoff =>
    s!"Requesting CCA after a backoff of {periods} periods ({backoff.us} us)"
  | carriedOver periods left =>
    s!"Backoff of {periods} periods does not fit the CAP, {left} periods carried over"
  | proceedingAfter periods => s!"Proceeding after a backoff of {periods} periods"
  | transactionTooLong symbols left =>
    s!"Transaction of {symbols} symbols does not fit the {left.us} us left in the CAP"
  | concluded verdict => s!"CSMA-CA verdict: {verdict.text}"
  | agendaFull kind => s!"Too many pending CSMA-CA timers, dropping {kind.label}"
  | assessed status => s!"CCA result: {status.label}"
  | nothingToWaitFor => "CSMA-CA has nothing left to wait for"
  | aborted error => s!"CSMA-CA attempt aborted: {error.label}"
  | queueFull => "Simulation queue full, dropping event"

/-- A line of the log. -/
def line (note : Note) : String := note.level.label ++ " " ++ note.text

end Note

end ChannelAccess
