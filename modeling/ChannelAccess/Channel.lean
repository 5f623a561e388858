import ChannelAccess.Phy
import ChannelAccess.Text.Blank
import ChannelAccess.Time

/-!
Simulated channels: what each assessment of them reports, and scripts of assessments written as
`i` for idle and `b` for busy.
-/

namespace ChannelAccess

inductive Channel where
  | idle
  | busy
  /-- One status for each assessment, idle once they are used up. -/
  | scripted (script : List ChannelStatus)
  /-- Busy before the instant and idle from it on. -/
  | busyUntil (instant : Instant)
  deriving DecidableEq, Repr

namespace Channel

/-- The status at an instant, and the channel for the next assessment. -/
def assess (channel : Channel) (now : Instant) : ChannelStatus × Channel :=
  match channel with
  | idle => (.idle, idle)
  | busy => (.busy, busy)
  | scripted [] => (.idle, scripted [])
  | scripted (status :: script) => (status, scripted script)
  | busyUntil instant => (if now < instant then .busy else .idle, busyUntil instant)

/-- The status that a letter of a pattern stands for. -/
def letterStatus : Char → Option ChannelStatus
  | 'i' | 'I' => some .idle
  | 'b' | 'B' => some .busy
  | _ => none

/-- The script written as letters, or the first character that is none. -/
def readLetters : List Char → Except Char (List ChannelStatus)
  | [] => .ok []
  | c :: letters =>
    match letterStatus c with
    | none => .error c
    | some status => (readLetters letters).map (status :: ·)

/-- The channel written as a pattern. Blanks do not count. -/
def ofPattern (pattern : String) : Except Char Channel :=
  (readLetters (pattern.toList.filter (! isBlank ·))).map scripted

def patternComplaint (unexpected : Char) : String :=
  "unexpected '" ++ unexpected.toString ++ "', use 'i' for idle and 'b' for busy"

end Channel

end ChannelAccess
