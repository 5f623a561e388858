import ChannelAccess.CommandLine.Basic

/-!
The program. Colour is used on a terminal, or wherever the environment asks for it.
-/

namespace ChannelAccess

def wantsColour : IO Bool := do
  let forced := (← IO.getEnv "CLICOLOR_FORCE").any (· != "0")
  let refused := (← IO.getEnv "NO_COLOR").isSome || (← IO.getEnv "CLICOLOR") == some "0"
  let terminal ← (← IO.getStdout).isTty
  return forced || (terminal && !refused)

end ChannelAccess

open ChannelAccess

def main (arguments : List String) : IO UInt32 := do
  let result := Exit.ofArguments arguments (← wantsColour)
  IO.print result.output
  IO.eprint result.errors
  return result.code
