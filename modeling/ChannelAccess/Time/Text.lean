import ChannelAccess.Rounding
import ChannelAccess.Time

/-!
Times in print: milliseconds with three decimals. The count of microseconds is first rounded to
53 significant bits, then its quotient by 1000 is, and that quotient's exact value is printed, so
the digits are those of the count only as long as both roundings are harmless.
-/

namespace ChannelAccess

/-- The quotient by 1000 of a count, both held with 53 significant bits. -/
def milliseconds (count : Nat) : Fraction :=
  let held := (Fraction.mk count 1).nearestDouble
  (Fraction.mk held.num (held.den * 1000)).nearestDouble

/-- Three decimals of a fraction, a half to the even neighbour. -/
def threeDecimals (f : Fraction) : String :=
  let thousandths := roundHalfEven (f.num * 1000) f.den
  let decimals := toString (thousandths % 1000)
  toString (thousandths / 1000) ++ "." ++ "".pushn '0' (3 - decimals.length) ++ decimals

def millisecondsText (us : Int) : String :=
  (if us < 0 then "-" else "") ++ threeDecimals (milliseconds us.natAbs) ++ "ms"

def Instant.text (t : Instant) : String := millisecondsText t.us

def Span.text (d : Span) : String := millisecondsText d.us

end ChannelAccess
