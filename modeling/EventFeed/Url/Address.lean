import EventFeed.Url.Percent

/-!
# Numeric addresses

Hosts that are numbers. An address of four bytes may be written with fewer parts, of which the last
fills the rest, and each part in decimal, octal or hexadecimal. An address of eight pieces may leave
out one run of zeros and end in four decimal bytes; it is printed in its shortest form.
-/

namespace EventFeed.Url

/-! ### Four bytes -/

/-- The parts of a text between full stops. -/
def dotted : List Char → List (List Char)
  | [] => [[]]
  | c :: cs =>
    if c == '.' then [] :: dotted cs
    else match dotted cs with
      | [] => [[c]]
      | part :: rest => (c :: part) :: rest

/-- The value of digits of a base. -/
def valueOf? (base : Nat) (cs : List Char) : Option Nat :=
  cs.foldlM (fun value c =>
    ((hexValue? c).filter (· < base)).map fun d => value * base + d) 0

/-- The number that is written as one part of an address. -/
def part? (cs : List Char) : Option Nat :=
  match cs with
  | [] => none
  | '0' :: 'x' :: rest => valueOf? 16 rest
  | '0' :: 'X' :: rest => valueOf? 16 rest
  | '0' :: c :: rest => valueOf? 8 (c :: rest)
  | _ => valueOf? 10 cs

/-- Whether the last part of a host, the empty one behind a final full stop aside, is a number. -/
def endsInNumber (host : List Char) : Bool :=
  let parts := (dotted host).reverse
  let parts := match parts with
    | [] :: rest => rest
    | _ => parts
  match parts with
  | [] => false
  | last :: _ =>
    (!last.isEmpty && last.all fun c => 48 ≤ c.toNat && c.toNat ≤ 57) || (part? last).isSome

/-- The number of an address of up to four parts. -/
def shortAddress? (host : List Char) : Option Nat :=
  let parts := dotted host
  let parts := if parts.getLast? = some [] then parts.dropLast else parts
  if 4 < parts.length then none
  else match parts.mapM part? with
    | none => none
    | some numbers =>
      match numbers.getLast? with
      | none => none
      | some last =>
        let front := numbers.dropLast
        if front.any (255 < ·) || Nat.pow 256 (4 - front.length) ≤ last then none
        else some (front.zipIdx.foldl
          (fun address entry => address + entry.1 * Nat.pow 256 (3 - entry.2)) last)

/-- An address of four bytes in decimal. -/
def shortAddressText (n : Nat) : String :=
  ".".intercalate ([n / 16777216 % 256, n / 65536 % 256, n / 256 % 256, n % 256].map toString)

/-! ### Eight pieces -/

/-- Four decimal bytes, without leading zeros, as two pieces. -/
def decimalPieces? (cs : List Char) : Option (List Nat) :=
  let byte? (part : List Char) : Option Nat :=
    if part.isEmpty || 3 < part.length || (part.length != 1 && part.head? == some '0') then none
    else (valueOf? 10 part).filter (· ≤ 255)
  match (dotted cs).mapM byte? with
  | some [a, b, c, d] => some [a * 256 + b, c * 256 + d]
  | _ => none

/-- Pieces between colons; the last one may be four decimal bytes. -/
def pieces? (cs : List Char) : Option (List Nat) :=
  if cs.isEmpty then some []
  else
    let rec go (fuel : Nat) (cs : List Char) : Option (List Nat) :=
      match fuel with
      | 0 => none
      | fuel + 1 =>
        let word := cs.takeWhile (· != ':')
        match cs.dropWhile (· != ':') with
        | [] =>
          if word.contains '.' then decimalPieces? word
          else if word.isEmpty || 4 < word.length then none
          else (valueOf? 16 word).map fun n => [n]
        | _ :: rest =>
          if word.isEmpty || 4 < word.length then none
          else (valueOf? 16 word).bind fun n => (go fuel rest).map (n :: ·)
    go (cs.length + 1) cs

/-- What stands before and after the first double colon. -/
def splitDouble? : List Char → Option (List Char × List Char)
  | ':' :: ':' :: rest => some ([], rest)
  | c :: rest => (splitDouble? rest).map fun parts => (c :: parts.1, parts.2)
  | [] => none

/-- The eight pieces of an address. -/
def longAddress? (cs : List Char) : Option (List Nat) :=
  match splitDouble? cs with
  | none => (pieces? cs).filter fun pieces => pieces.length == 8
  | some (front, back) =>
    if front.contains '.' then none
    else match pieces? front, pieces? back with
      | some front, some back =>
        if front.length + back.length < 8 then
          some (front ++ List.replicate (8 - front.length - back.length) 0 ++ back)
        else none
      | _, _ => none

/-- The length of the run of zeros at the begin. -/
def zeroRun (pieces : List Nat) : Nat :=
  (pieces.takeWhile (· == 0)).length

/-- Start and length of the first longest run of zeros. -/
def longestZeros (pieces : List Nat) : Nat × Nat :=
  (List.range pieces.length).foldl
    (fun best i =>
      let n := zeroRun (pieces.drop i)
      if best.2 < n then (i, n) else best)
    (0, 0)

/-- The pieces in hexadecimal, between colons. -/
def colons (pieces : List Nat) : String :=
  ":".intercalate (pieces.map fun n => String.ofList (Nat.toDigits 16 n))

/-- An address of eight pieces in its shortest form. -/
def longAddressText (pieces : List Nat) : String :=
  let (start, length) := longestZeros pieces
  if length < 2 then colons pieces
  else colons (pieces.take start) ++ "::" ++ colons (pieces.drop (start + length))

end EventFeed.Url
