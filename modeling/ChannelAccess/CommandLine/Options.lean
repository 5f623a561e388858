/-!
The options of the command line and how they are told apart from their values. An option is
written once, in full, after two dashes. A switch takes no value. Any other option takes one, after
an equals sign or as the next argument, which then may not begin with a dash unless it is just one.
Two dashes alone end the options.
-/

namespace ChannelAccess

inductive OptionName where
  | slotted
  | minBe
  | maxBe
  | maxBackoffs
  | batteryLifeExtension
  | phy
  | mpduOctets
  | ack
  | toCoordinator
  | superframeOrder
  | finalCapSlot
  | beaconOffsetUs
  | channel
  | seed
  | attempts
  deriving DecidableEq, Repr

namespace OptionName

def all : List OptionName :=
  [slotted, minBe, maxBe, maxBackoffs, batteryLifeExtension, phy, mpduOctets, ack, toCoordinator,
    superframeOrder, finalCapSlot, beaconOffsetUs, channel, seed, attempts]

def text : OptionName → String
  | slotted => "slotted"
  | minBe => "min-be"
  | maxBe => "max-be"
  | maxBackoffs => "max-backoffs"
  | batteryLifeExtension => "battery-life-extension"
  | phy => "phy"
  | mpduOctets => "mpdu-octets"
  | ack => "ack"
  | toCoordinator => "to-coordinator"
  | superframeOrder => "superframe-order"
  | finalCapSlot => "final-cap-slot"
  | beaconOffsetUs => "beacon-offset-us"
  | channel => "channel"
  | seed => "seed"
  | attempts => "attempts"

def ofText? (text : String) : Option OptionName := all.find? (·.text == text)

def isSwitch : OptionName → Bool
  | slotted | batteryLifeExtension | ack | toCoordinator => true
  | minBe | maxBe | maxBackoffs | phy | mpduOctets | superframeOrder | finalCapSlot
  | beaconOffsetUs | channel | seed | attempts => false

end OptionName

inductive UsageError where
  | unexpectedArgument (argument : String)
  | repeatedOption (option : OptionName)
  | unexpectedValue (option : OptionName)
  | missingValue (option : OptionName)
  | badValue (option : OptionName) (value : String)
  deriving DecidableEq, Repr

def UsageError.message : UsageError → String
  | .unexpectedArgument argument => "unexpected argument " ++ argument
  | .repeatedOption option => "option --" ++ option.text ++ " is given more than once"
  | .unexpectedValue option => "option --" ++ option.text ++ " takes no value"
  | .missingValue option => "option --" ++ option.text ++ " needs a value"
  | .badValue option value => "bad value for option --" ++ option.text ++ ": " ++ value

/-- An option as given, with its value unless it is a switch. -/
structure GivenOption where
  name : OptionName
  value : Option String
  deriving DecidableEq, Repr

namespace GivenOption

/-- The name and the attached value of an argument that begins with two dashes. -/
def split? (argument : String) : Option (String × Option String) :=
  match argument.toList with
  | '-' :: '-' :: rest =>
    let name := String.ofList (rest.takeWhile (· ≠ '='))
    match rest.dropWhile (· ≠ '=') with
    | [] => some (name, none)
    | _ :: value => some (name, some (String.ofList value))
  | _ => none

/-- The argument can be the value of the option before it. -/
def canBeValue (argument : String) : Bool :=
  match argument.toList with
  | '-' :: _ :: _ => false
  | _ => true

/-- The option that an argument names. -/
def named? (argument : String) : Except UsageError (OptionName × Option String) :=
  match split? argument with
  | none => .error (.unexpectedArgument argument)
  | some (text, value) =>
    match OptionName.ofText? text with
    | none => .error (.unexpectedArgument argument)
    | some name => .ok (name, value)

def readAll : List String → Except UsageError (List GivenOption)
  | [] => .ok []
  | argument :: rest =>
    if argument = "--" then
      match rest with
      | [] => .ok []
      | extra :: _ => .error (.unexpectedArgument extra)
    else
      match named? argument with
      | .error error => .error error
      | .ok (name, value) =>
        match name.isSwitch, value, rest with
        | true, some _, _ => .error (.unexpectedValue name)
        | true, none, rest => (readAll rest).map (⟨name, none⟩ :: ·)
        | false, some value, rest => (readAll rest).map (⟨name, some value⟩ :: ·)
        | false, none, [] => .error (.missingValue name)
        | false, none, value :: rest =>
          if canBeValue value then (readAll rest).map (⟨name, some value⟩ :: ·)
          else .error (.missingValue name)

/-- The first option given again. -/
def repeated? : List GivenOption → Option OptionName
  | [] => none
  | given :: rest =>
    if rest.any (·.name = given.name) then some given.name else repeated? rest

end GivenOption

end ChannelAccess
