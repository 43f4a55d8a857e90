/-!
# Numerals

Reading unsigned numerals of a base with an upper limit: an optional plus sign, then one or more
digits. Leading zeros are allowed, and a value above the limit is refused at the first digit that
takes it there.
-/

namespace EventFeed.Text

/-- The value of a digit of `base`; letters of either case follow the decimal digits. -/
def digit? (base : Nat) (c : Char) : Option Nat :=
  let n := c.toNat
  let value? :=
    if 48 ≤ n && n ≤ 57 then some (n - 48)
    else if 97 ≤ n && n ≤ 122 then some (n - 87)
    else if 65 ≤ n && n ≤ 90 then some (n - 55)
    else none
  value?.filter (· < base)

/-- Append digits to a value that is already read, never going above `limit`. -/
def digitsFrom? (base limit : Nat) : Nat → List Char → Option Nat
  | value, [] => some value
  | value, c :: cs =>
    match digit? base c with
    | none => none
    | some d =>
      let next := value * base + d
      if next ≤ limit then digitsFrom? base limit next cs else none

/-- One or more digits of `base` with a value of at most `limit`. -/
def digits? (base limit : Nat) (cs : List Char) : Option Nat :=
  if cs.isEmpty then none else digitsFrom? base limit 0 cs

/-- A numeral of `base` with a value of at most `limit`: digits after an optional plus sign. -/
def numeral? (base limit : Nat) : List Char → Option Nat
  | '+' :: cs => digits? base limit cs
  | cs => digits? base limit cs

end EventFeed.Text
