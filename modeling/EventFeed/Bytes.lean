/-!
# Bytes

Numbers written in bytes, the highest byte first, and taking a number of bytes off a list.
-/

namespace EventFeed.Bytes

/-- A number in so many bytes; what does not fit is cut off at the high end. -/
def ofNumber : Nat → Nat → List UInt8
  | 0, _ => []
  | size + 1, n => UInt8.ofNat (n / Nat.pow 256 size) :: ofNumber size n

/-- The number that some bytes write. -/
def number (bytes : List UInt8) : Nat :=
  bytes.foldl (fun n b => n * 256 + b.toNat) 0

@[simp] theorem length_ofNumber (size n : Nat) : (ofNumber size n).length = size := by
  induction size with
  | zero => rfl
  | succ size ih => simp [ofNumber, ih]

/-- The first bytes and the rest, if there are so many. -/
def split? (size : Nat) (bytes : List UInt8) : Option (List UInt8 × List UInt8) :=
  if bytes.length < size then none else some (bytes.take size, bytes.drop size)

/-- What is left when some bytes are taken off. -/
theorem length_of_split? {size : Nat} {bytes front rest : List UInt8}
    (h : split? size bytes = some (front, rest)) : rest.length + size = bytes.length := by
  unfold split? at h
  split at h
  · simp at h
  · simp only [Option.some.injEq, Prod.mk.injEq] at h
    obtain ⟨_, rfl⟩ := h
    simp only [List.length_drop]
    omega

end EventFeed.Bytes
