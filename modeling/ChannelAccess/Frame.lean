import ChannelAccess.Phy
import ChannelAccess.Saturation

/-!
What the medium access layer wants to send, measured in symbols.
-/

namespace ChannelAccess

structure Frame where
  /-- Length of the whole transmission, headers included. -/
  symbols : UInt32
  ackRequested : Bool
  /-- Interframe spacing required after the frame. -/
  spacing : UInt32
  toCoordinator : Bool
  deriving DecidableEq, Repr

namespace Frame

/-- Symbols of a payload of `octets` octets with its headers, at most the largest word. -/
def transmissionSymbols (phy : Phy) (octets : UInt32) : Nat :=
  saturatingAdd
    (saturatingAdd (saturatingMul octets.toNat phy.symbolsPerOctet) phy.synchronizationSymbols)
    phy.headerSymbols

/-- A short spacing follows payloads of at most 18 octets, a long one all others. -/
def spacingSymbols (octets : UInt32) : Nat :=
  if octets.toNat ≤ 18 then 12 else 40

def ofPayload (phy : Phy) (octets : UInt32) (ackRequested toCoordinator : Bool) : Frame where
  symbols := UInt32.ofNat (transmissionSymbols phy octets)
  ackRequested
  spacing := UInt32.ofNat (spacingSymbols octets)
  toCoordinator

theorem transmissionSymbols_eq (phy : Phy) (octets : UInt32) :
    transmissionSymbols phy octets =
      min ((octets.toNat + 6) * phy.symbolsPerOctet) largestWord := by
  unfold transmissionSymbols saturatingMul
  rw [saturatingAdd_saturated]
  unfold Phy.synchronizationSymbols Phy.headerSymbols
  cases phy <;> simp only [Phy.symbolsPerOctet, saturatingAdd, largestWord] <;> omega

end Frame

/-- Symbols to wait for an acknowledgment, whose six octets follow a synchronization header. -/
def ackWaitSymbols (phy : Phy) : UInt32 :=
  UInt32.ofNat (20 + standardTurnaround.toNat + phy.synchronizationSymbols +
    6 * phy.symbolsPerOctet)

end ChannelAccess
