import ChannelAccess.Report.Basic
import ChannelAccess.Report.Style
import ChannelAccess.Time.Text

/-!
Reports in print: the configuration, then a numbered section for each attempt with a line for each
event.
-/

namespace ChannelAccess

namespace Report

def heading (text : String) : Line := { pieces := [.styled .heading text] }

def field (name value : String) : Line :=
  { indented := true, pieces := [.styled .fieldName name, .plain (": " ++ value)] }

def configuration (scenario : Scenario) : List Line :=
  let policy := scenario.policy
  let frame := scenario.frame
  let superframe := scenario.superframe
  [ heading "Configuration",
    field "mode" policy.mode.text,
    field "macMinBE" s!"{policy.minExponent.toNat}",
    field "macMaxBE" s!"{policy.maxExponent.toNat}",
    field "macMaxCSMABackoffs" s!"{policy.maxBackoffs.toNat}",
    field "unit backoff period" s!"{policy.backoffPeriod.toNat} symbols",
    field "battery life extension" (if policy.batteryLifeExtension then "on" else "off"),
    field "phy" s!"{scenario.phy.name} ({scenario.phy.symbolsPerSecond.toNat} symbols/s)",
    field "frame" (s!"{scenario.payloadOctets.toNat} octets, {frame.symbols.toNat} symbols" ++
      if frame.ackRequested then ", ack requested" else "") ] ++
  if policy.isSlotted then
    [ field "superframe" (s!"SO {superframe.order.toNat}, " ++
        s!"final CAP slot {superframe.finalSlot.toNat}, beacon at {superframe.beacon.text}") ]
  else []

end Report

def Verdict.style : Verdict → Style
  | .channelIdle => .success
  | .accessFailure => .failure
  | .deferred => .deferral

def Occurrence.piece : Occurrence → Piece
  | .started mode => .plain s!"started ({mode.text})"
  | .ccaRequested exponent backoffs window =>
    .plain s!"CCA requested (BE {exponent}, NB {backoffs}, CW {window})"
  | .ccaResult .idle => .styled .clear "channel idle"
  | .ccaResult .busy => .styled .blocked "channel busy"
  | .ccaResult .transceiverOff => .styled .blocked "transceiver off"
  | .cost symbols => .plain s!"transaction needs {symbols} symbols"
  | .verdict outcome => .styled outcome.style s!"verdict: {outcome.text}"

def TraceEvent.line (event : TraceEvent) : Line where
  indented := true
  pieces := [.styled .time event.instant.text, .plain " ", event.occurrence.piece]

namespace Report

/-- The sections, numbered from `number` on. -/
def numberedSections (number : Nat) : List (List TraceEvent) → List Line
  | [] => []
  | events :: rest =>
    heading s!"Attempt {number}" :: events.map TraceEvent.line ++ numberedSections (number + 1) rest

def lines (report : Report) : List Line :=
  configuration report.scenario ++ numberedSections 1 report.sections

def text (colour : Bool) (report : Report) : String :=
  String.join (report.lines.map (Line.render colour))

end Report

end ChannelAccess
