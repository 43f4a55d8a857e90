/-!
# Durations

A duration is a whole number of nanoseconds. Its short text uses the largest of the units `s`, `ms`,
`µs` and `ns` in which the value is at least one, with the exact fraction and no trailing zeros.
-/

namespace EventFeed

/-- A span of time in nanoseconds. -/
structure Duration where
  nanos : Nat
  deriving DecidableEq, Repr, Inhabited

namespace Duration

instance : LE Duration := ⟨fun a b => a.nanos ≤ b.nanos⟩
instance : LT Duration := ⟨fun a b => a.nanos < b.nanos⟩

theorem le_iff {a b : Duration} : a ≤ b ↔ a.nanos ≤ b.nanos := Iff.rfl
theorem lt_iff {a b : Duration} : a < b ↔ a.nanos < b.nanos := Iff.rfl

instance (a b : Duration) : Decidable (a ≤ b) := inferInstanceAs (Decidable (a.nanos ≤ b.nanos))
instance (a b : Duration) : Decidable (a < b) := inferInstanceAs (Decidable (a.nanos < b.nanos))

/-- One span after another. -/
instance : Add Duration := ⟨fun a b => ⟨a.nanos + b.nanos⟩⟩

/-- What is left of a span after another; nothing when the other is longer. -/
instance : Sub Duration := ⟨fun a b => ⟨a.nanos - b.nanos⟩⟩

theorem add_nanos (a b : Duration) : (a + b).nanos = a.nanos + b.nanos := rfl
theorem sub_nanos (a b : Duration) : (a - b).nanos = a.nanos - b.nanos := rfl

/-- The empty span. -/
def zero : Duration := ⟨0⟩

/-- The number of nanoseconds in a second. -/
def nanosPerSecond : Nat := 1000000000

/-- The number of nanoseconds in a millisecond. -/
def nanosPerMilli : Nat := 1000000

/-- A whole number of seconds. -/
def ofSeconds (n : Nat) : Duration := ⟨n * nanosPerSecond⟩

/-- A whole number of milliseconds. -/
def ofMillis (n : Nat) : Duration := ⟨n * nanosPerMilli⟩

/-- The whole seconds of a duration. -/
def seconds (d : Duration) : Nat := d.nanos / nanosPerSecond

/-- The whole milliseconds of a duration. -/
def millis (d : Duration) : Nat := d.nanos / nanosPerMilli

/-- The whole milliseconds of a duration as a counter of 64 bits shows them. -/
def millisCounter (d : Duration) : UInt64 := UInt64.ofNat d.millis

/-- The milliseconds of a duration, a part of one counted as a whole. -/
def millisUp (d : Duration) : Nat := (d.nanos + (nanosPerMilli - 1)) / nanosPerMilli

/-- The decimal digits of `n`, filled up with zeros to `width`. -/
def padded (width n : Nat) : List Char :=
  let digits := (toString n).toList
  List.replicate (width - digits.length) '0' ++ digits

/-- The number `n` with so many of its digits behind the point, without trailing zeros. -/
def decimal (places n : Nat) : String :=
  let whole := toString (n / Nat.pow 10 places)
  let fraction := (padded places (n % Nat.pow 10 places)).reverse.dropWhile (· == '0') |>.reverse
  if fraction.isEmpty then whole else whole ++ "." ++ String.ofList fraction

/-- The short text of a duration, in the largest unit in which it is at least one. -/
def text (d : Duration) : String :=
  if nanosPerSecond ≤ d.nanos then decimal 9 d.nanos ++ "s"
  else if nanosPerMilli ≤ d.nanos then decimal 6 d.nanos ++ "ms"
  else if 1000 ≤ d.nanos then decimal 3 d.nanos ++ "µs"
  else decimal 0 d.nanos ++ "ns"

end Duration

end EventFeed
