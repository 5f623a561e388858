/-!
Physical layers whose timing is a whole number of symbols per octet, and what a clear channel
assessment can report.
-/

namespace ChannelAccess

inductive Phy where
  | bpsk868
  | bpsk915
  | oqpsk868
  | oqpsk915
  | oqpsk2450
  deriving DecidableEq, Repr

namespace Phy

def all : List Phy := [bpsk868, bpsk915, oqpsk868, oqpsk915, oqpsk2450]

def name : Phy → String
  | bpsk868 => "Bpsk868"
  | bpsk915 => "Bpsk915"
  | oqpsk868 => "Oqpsk868"
  | oqpsk915 => "Oqpsk915"
  | oqpsk2450 => "Oqpsk2450"

/-- Symbols per second. -/
def symbolsPerSecond : Phy → UInt32
  | bpsk868 => 20000
  | bpsk915 => 40000
  | oqpsk868 => 25000
  | oqpsk915 => 62500
  | oqpsk2450 => 62500

def symbolsPerOctet : Phy → Nat
  | bpsk868 | bpsk915 => 8
  | oqpsk868 | oqpsk915 | oqpsk2450 => 2

/-- Symbols of the synchronization header: four octets of preamble and one of delimiter. -/
def synchronizationSymbols (phy : Phy) : Nat := 5 * phy.symbolsPerOctet

/-- Symbols of the header of one octet that carries the length. -/
def headerSymbols (phy : Phy) : Nat := phy.symbolsPerOctet

end Phy

/-- Symbols in which a radio turns from receiving to sending or back. -/
def standardTurnaround : UInt32 := 12

/-- Symbols taken by one clear channel assessment. -/
def assessmentSymbols : Nat := 8

/-- Result of a clear channel assessment. A transceiver that was off counts as a busy channel. -/
inductive ChannelStatus where
  | idle
  | busy
  | transceiverOff
  deriving DecidableEq, Repr

namespace ChannelStatus

def isIdle : ChannelStatus → Bool
  | idle => true
  | busy | transceiverOff => false

def label : ChannelStatus → String
  | idle => "Idle"
  | busy => "Busy"
  | transceiverOff => "TrxOff"

end ChannelStatus

end ChannelAccess
