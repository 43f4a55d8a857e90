/-!
# Blank characters

The characters with the Unicode property `White_Space`, and trimming: cutting the characters of a
class from both ends of a text. Trimmed text neither begins nor ends with a character of the class,
and trimming twice is trimming once.
-/

namespace EventFeed.Text

/-- The characters with the Unicode property `White_Space`. -/
def isBlank (c : Char) : Bool :=
  let n := c.toNat
  (0x9 ≤ n && n ≤ 0xD) || n == 0x20 || n == 0x85 || n == 0xA0 || n == 0x1680 ||
    (0x2000 ≤ n && n ≤ 0x200A) || n == 0x2028 || n == 0x2029 || n == 0x202F || n == 0x205F ||
    n == 0x3000

/-- Drop the characters of the class `p` from the right end. -/
def dropRight (p : Char → Bool) (cs : List Char) : List Char :=
  (cs.reverse.dropWhile p).reverse

/-- Drop the characters of the class `p` from both ends. -/
def trimBy (p : Char → Bool) (cs : List Char) : List Char :=
  dropRight p (cs.dropWhile p)

/-- Drop the blank characters from both ends. -/
def trim (s : String) : String :=
  String.ofList (trimBy isBlank s.toList)

@[simp] theorem trimBy_nil (p : Char → Bool) : trimBy p [] = [] := rfl

@[simp] theorem toList_trim (s : String) : (trim s).toList = trimBy isBlank s.toList := by
  simp [trim]

/-- The trimmed text, unless nothing is left of it. -/
def trim? (s : String) : Option String :=
  let t := trim s
  if t.isEmpty then none else some t

end EventFeed.Text
