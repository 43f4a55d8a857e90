/-!
# Punycode

Labels outside ASCII written in ASCII. The ASCII characters stand first; each other character is
inserted by a number that says how far to move on, over places in the label and over code points at
once. The numbers are written in digits of base 36 whose weights adapt to the numbers before, so the
end of each is known without a mark.
-/

namespace EventFeed.Url.Punycode

/-! ### Digits -/

/-- A digit of base 36: letters first. -/
def digit (n : Nat) : Char :=
  Char.ofNat (if n < 26 then 97 + n else 22 + n)

/-- The value of a digit; letters may be of either case. -/
def value? (c : Char) : Option Nat :=
  let n := c.toNat
  if 97 ≤ n && n ≤ 122 then some (n - 97)
  else if 65 ≤ n && n ≤ 90 then some (n - 65)
  else if 48 ≤ n && n ≤ 57 then some (n - 22)
  else none

/-- The number from which on a digit at a place says that more follow. -/
def threshold (place bias : Nat) : Nat :=
  min 26 (max 1 (place - bias))

theorem one_le_threshold (place bias : Nat) : 1 ≤ threshold place bias := by
  unfold threshold; omega

/-- How often a number is divided before the bias is taken from it. -/
def settle (delta bias : Nat) : Nat :=
  if 455 < delta then settle (delta / 35) (bias + 36) else bias + 36 * delta / (delta + 38)
termination_by delta
decreasing_by omega

/-- The bias after a number, in a label that then has `size` characters. -/
def adapt (delta size : Nat) (first : Bool) : Nat :=
  let delta := if first then delta / 700 else delta / 2
  settle (delta + delta / size) 0

/-! ### Writing -/

/-- A number in digits, the first of which stands at `place`. -/
def digits (bias place n : Nat) : List Char :=
  let t := threshold place bias
  if n < t then [digit n]
  else digit (t + (n - t) % (36 - t)) :: digits bias (place + 36) ((n - t) / (36 - t))
termination_by n
decreasing_by
  have := one_le_threshold place bias
  exact Nat.lt_of_le_of_lt (Nat.div_le_self _ _) (by omega)

/-- A label that is being written: how far the next character is away, the bias, the characters
placed so far, and the digits, last one first. -/
structure Writer where
  delta : Nat := 0
  bias : Nat := 72
  placed : Nat
  written : List Char := []

/-- Pass a character of the label while code point `code` is placed. -/
def Writer.pass (basic code : Nat) (w : Writer) (c : Char) : Writer :=
  if c.toNat < code then { w with delta := w.delta + 1 }
  else if c.toNat = code then
    { delta := 0
      bias := adapt w.delta (w.placed + 1) (w.placed == basic)
      placed := w.placed + 1
      written := (digits w.bias 36 w.delta).reverse ++ w.written }
  else w

/-- Place the code points that occur in a label, in rising order; the ones below `next`
are placed. -/
def Writer.placeAll (label : List Char) (basic : Nat) : Nat → List Nat → Writer → Writer
  | _, [], w => w
  | next, code :: codes, w =>
    let w := { w with delta := w.delta + (code - next) * (w.placed + 1) }
    let w := label.foldl (Writer.pass basic code) w
    placeAll label basic (code + 1) codes { w with delta := w.delta + 1 }

/-- Insert a number into a rising list that does not hold it. -/
def insert (n : Nat) : List Nat → List Nat
  | [] => [n]
  | m :: rest => if n < m then n :: m :: rest else if n = m then m :: rest else m :: insert n rest

/-- Write a label. -/
def encode (label : List Char) : List Char :=
  let basic := label.filter fun c => c.toNat < 128
  let codes := ((label.filter fun c => 128 ≤ c.toNat).map Char.toNat).foldr insert []
  let written := (Writer.placeAll label basic.length 128 codes { placed := basic.length }).written
  (if basic.isEmpty then [] else basic ++ ['-']) ++ written.reverse

/-! ### Reading -/

/-- A label that is being read: what it holds so far, the code point and place that were reached,
and of the number that is being read its value, the weight of the next digit and the digit's place.
-/
structure Reader where
  label : List Char
  code : Nat := 128
  position : Nat := 0
  bias : Nat := 72
  first : Bool := true
  value : Nat := 0
  weight : Nat := 1
  place : Nat := 36

/-- Insert the character at which a number has arrived. -/
def Reader.place? (r : Reader) (value : Nat) : Option Reader :=
  let size := r.label.length + 1
  let reached := r.position + value
  let code := r.code + reached / size
  let position := reached % size
  if 128 ≤ code ∧ code.isValidChar then
    some {
      label := r.label.take position ++ Char.ofNat code :: r.label.drop position
      code
      position := position + 1
      bias := adapt value size r.first
      first := false }
  else none

/-- Read a digit. -/
def Reader.step? (r : Reader) (c : Char) : Option Reader := do
  let d ← value? c
  let value := r.value + d * r.weight
  let t := threshold r.place r.bias
  if d < t then r.place? value
  else some { r with value, weight := r.weight * (36 - t), place := r.place + 36 }

/-- Read a label. -/
def decode? (cs : List Char) : Option (List Char) :=
  let back := cs.reverse
  let (basic, rest) := match (back.dropWhile (· != '-')).drop 1 with
    | [] => ([], cs)
    | basic => (basic.reverse, (back.takeWhile (· != '-')).reverse)
  if basic.all fun c => c.toNat < 128 then
    (rest.foldlM Reader.step? { label := basic }).bind fun r =>
      if r.place = 36 then some r.label else none
  else none

end EventFeed.Url.Punycode
