/-!
Decimal numerals: a sign where one is allowed, then one digit or more and nothing else. Leading
zeros do not matter.
-/

namespace ChannelAccess.Numeral

/-- The value of digits read after `value`. None if there is another character. -/
def digitsFrom? (value : Nat) : List Char → Option Nat
  | [] => some value
  | c :: digits =>
    if c.isDigit then digitsFrom? (10 * value + (c.toNat - '0'.toNat)) digits else none

def digits? : List Char → Option Nat
  | [] => none
  | c :: digits => digitsFrom? 0 (c :: digits)

/-- A numeral with an optional plus sign. -/
def natural? (text : String) : Option Nat :=
  match text.toList with
  | '+' :: digits => digits? digits
  | digits => digits? digits

/-- A numeral with an optional plus or minus sign. -/
def integer? (text : String) : Option Int :=
  match text.toList with
  | '-' :: digits => (digits? digits).map fun value => -(value : Int)
  | '+' :: digits => (digits? digits).map Int.ofNat
  | digits => (digits? digits).map Int.ofNat

end ChannelAccess.Numeral
