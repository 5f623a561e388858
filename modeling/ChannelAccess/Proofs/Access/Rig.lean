import ChannelAccess.Access.Session

/-!
A host on a test rig. Its layer always gives the same advice, its radio assesses the channel in
eight symbols and reports the statuses of a script, and its sleeps last exactly as long as asked.
-/

namespace ChannelAccess

structure Rig where
  clock : Instant
  /-- One status for each assessment, idle once they are used up. -/
  script : List ChannelStatus
  /-- When the assessments so far began. -/
  assessments : List Instant := []
  /-- What the layer was asked and told. -/
  heard : List Call := []
  deriving DecidableEq, Repr

namespace Rig

def hear (rig : Rig) (call : Call) : Rig := { rig with heard := rig.heard ++ [call] }

def sleep (us : Nat) (rig : Rig) : Except Overflow (Bool × Rig) := do
  let clock ← rig.clock.plus ⟨us⟩
  return (true, { rig with clock })

def assess (phy : Phy) (rig : Rig) : Except Overflow (Option ChannelStatus × Rig) := do
  let clock ← rig.clock.plus ((SymbolRate.ofPhy phy).spanOf assessmentSymbols)
  return (some (rig.script.head?.getD .idle), {
    rig with
    clock
    script := rig.script.tail
    assessments := rig.assessments ++ [rig.clock] })

def host (phy : Phy) (layer : LayerFacts) (advice : Option UInt32) : Host Rig where
  readClock rig := (rig.clock, rig)
  radio _ := { symbolsPerSecond := phy.symbolsPerSecond }
  layer _ := layer
  advise exponent backoffs rig := (advice, rig.hear (.askAdvice exponent backoffs advice))
  hearCost symbols rig := rig.hear (.cost symbols)
  hearVerdict verdict rig := rig.hear (.verdict verdict)
  sleep := sleep
  assess := assess phy

end Rig

end ChannelAccess
