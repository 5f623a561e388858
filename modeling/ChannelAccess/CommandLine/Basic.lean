import ChannelAccess.CommandLine.Numeral
import ChannelAccess.CommandLine.Options
import ChannelAccess.RandomWords.ChaCha
import ChannelAccess.Report.Text

/-!
The command line: arguments describe a scenario, and the program prints its report.
-/

namespace ChannelAccess

/-- A scenario and the seed of its backoffs. -/
structure Invocation where
  scenario : Scenario := {}
  seed : UInt64 := 0
  deriving DecidableEq, Repr

namespace Invocation

/-- A value from zero to `limit`. -/
def bounded? (limit : Nat) (text : String) : Option Nat := do
  let value ← Numeral.integer? text
  if 0 ≤ value ∧ value ≤ limit then some value.toNat else none

/-- An unsigned value of 64 bits. -/
def longWord? (text : String) : Option Nat := do
  let value ← Numeral.natural? text
  if value < 18446744073709551616 then some value else none

def phy? (text : String) : Option Phy :=
  Phy.all.find? (·.name.toLower == text)

def setPolicy (invocation : Invocation) (change : Policy → Policy) : Invocation :=
  { invocation with
    scenario := { invocation.scenario with policy := change invocation.scenario.policy } }

def setSuperframe (invocation : Invocation) (change : Superframe → Superframe) : Invocation :=
  { invocation with
    scenario := { invocation.scenario with superframe := change invocation.scenario.superframe } }

/-- The invocation with an option that takes a value. None if the value is bad. -/
def setValue? (invocation : Invocation) (name : OptionName) (value : String) : Option Invocation :=
  match name with
  | .minBe => do
    let bound ← bounded? 255 value
    return invocation.setPolicy ({ · with minExponent := UInt8.ofNat bound })
  | .maxBe => do
    let bound ← bounded? 255 value
    return invocation.setPolicy ({ · with maxExponent := UInt8.ofNat bound })
  | .maxBackoffs => do
    let bound ← bounded? 255 value
    return invocation.setPolicy ({ · with maxBackoffs := UInt8.ofNat bound })
  | .phy => do
    let phy ← phy? value
    return { invocation with scenario := { invocation.scenario with phy } }
  | .mpduOctets => do
    let octets ← bounded? 127 value
    return { invocation with
      scenario := { invocation.scenario with payloadOctets := UInt32.ofNat octets } }
  | .superframeOrder => do
    let order ← bounded? 14 value
    return invocation.setSuperframe ({ · with order := UInt8.ofNat order })
  | .finalCapSlot => do
    let finalSlot ← bounded? 15 value
    return invocation.setSuperframe ({ · with finalSlot := UInt8.ofNat finalSlot })
  | .beaconOffsetUs => do
    let offset ← bounded? 4294967295 value
    return { invocation with scenario := { invocation.scenario with start := ⟨offset⟩ } }
  | .channel =>
    match Channel.ofPattern value with
    | .ok channel => some { invocation with scenario := { invocation.scenario with channel } }
    | .error _ => none
  | .seed => do
    let seed ← longWord? value
    return { invocation with seed := UInt64.ofNat seed }
  | .attempts => do
    let attempts ← longWord? value
    return { invocation with scenario := { invocation.scenario with attempts } }
  | .slotted | .batteryLifeExtension | .ack | .toCoordinator => none

/-- The invocation with a switch on. -/
def setSwitch (invocation : Invocation) (name : OptionName) : Invocation :=
  match name with
  | .slotted => invocation.setPolicy ({ · with mode := .slotted })
  | .batteryLifeExtension => invocation.setPolicy ({ · with batteryLifeExtension := true })
  | .ack => { invocation with scenario := { invocation.scenario with ackRequested := true } }
  | .toCoordinator => { invocation with scenario := { invocation.scenario with toCoordinator := true } }
  | _ => invocation

def set (invocation : Invocation) (given : GivenOption) : Except UsageError Invocation :=
  match given.value with
  | none => .ok (invocation.setSwitch given.name)
  | some value =>
    match invocation.setValue? given.name value with
    | some invocation => .ok invocation
    | none => .error (.badValue given.name value)

def ofArguments (arguments : List String) : Except UsageError Invocation := do
  let given ← GivenOption.readAll arguments
  match GivenOption.repeated? given with
  | some name => .error (.repeatedOption name)
  | none => given.foldlM set {}

end Invocation

/-- What the program prints and its exit code. -/
structure Exit where
  code : UInt32
  output : String := ""
  errors : String := ""
  deriving DecidableEq, Repr

namespace Exit

def errorLine (colour : Bool) (message : String) : String :=
  Line.render colour { pieces := [.styled .error "error", .plain (": " ++ message)] }

/-- The whole program: zero for a report, one for a refusal, two for bad usage. -/
def ofArguments (arguments : List String) (colour : Bool) : Exit :=
  match Invocation.ofArguments arguments with
  | .error error => { code := 2, errors := errorLine colour error.message }
  | .ok invocation =>
    match invocation.scenario.report (Keystream.ofSeed invocation.seed) with
    | .error overflow => { code := 101, errors := errorLine colour overflow.message }
    | .ok (.error error) => { code := 1, errors := errorLine colour error.message }
    | .ok (.ok report) => { code := 0, output := report.text colour }

end Exit

end ChannelAccess
