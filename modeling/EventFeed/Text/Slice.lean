import EventFeed.Text.Blank
import EventFeed.Text.Search

/-!
# Slices

A slice is the part of a text between two byte offsets of its UTF-8 form. Not every pair of offsets
has one: both must lie within the text and between two of its characters, and the first must not be
behind the second.
-/

namespace EventFeed.Text

/-- Why there is no slice between two offsets. -/
inductive SliceFault where
  /-- The first offset is behind the second. -/
  | outOfOrder
  /-- An offset is behind the end of the text. -/
  | outOfRange
  /-- An offset is inside a character. -/
  | insideCharacter
  deriving DecidableEq, Repr

/-- The slice of a text between two byte offsets. -/
def slice (s : String) (start stop : Nat) : Except SliceFault String :=
  if h : String.Pos.Raw.IsValid s ⟨start⟩ ∧ String.Pos.Raw.IsValid s ⟨stop⟩ ∧ start ≤ stop then
    .ok (s.slice ⟨⟨start⟩, h.1⟩ ⟨⟨stop⟩, h.2.1⟩ h.2.2).copy
  else if stop < start then .error .outOfOrder
  else if s.utf8ByteSize < stop then .error .outOfRange
  else .error .insideCharacter

/-- The byte offset of the first occurrence of `key`. -/
def offset? (key s : String) : Option Nat :=
  (splitAt? key.toList s.toList).map fun parts => (String.ofList parts.1).utf8ByteSize

/-- The byte offset of the first blank. -/
def blankOffset? (s : String) : Option Nat :=
  if s.toList.any isBlank then
    some (String.ofList (s.toList.takeWhile fun c => !isBlank c)).utf8ByteSize
  else none

/-- Between the ends of a part of a text the slice is this part. -/
theorem slice_append (before part after : String) :
    slice (before ++ part ++ after) before.utf8ByteSize (before ++ part).utf8ByteSize =
      .ok part := by
  have hstart : String.Pos.Raw.IsValid (before ++ part ++ after) ⟨before.utf8ByteSize⟩ :=
    String.Pos.Raw.isValid_iff_exists_append.2 ⟨before, part ++ after, String.append_assoc, rfl⟩
  have hstop : String.Pos.Raw.IsValid (before ++ part ++ after) ⟨(before ++ part).utf8ByteSize⟩ :=
    String.Pos.Raw.isValid_iff_exists_append.2 ⟨before ++ part, after, rfl, rfl⟩
  have hle : before.utf8ByteSize ≤ (before ++ part).utf8ByteSize := by
    rw [String.utf8ByteSize_append]
    exact Nat.le_add_right _ _
  have hslice : ∃ h, ((before ++ part ++ after).slice ⟨⟨before.utf8ByteSize⟩, hstart⟩
      ⟨⟨(before ++ part).utf8ByteSize⟩, hstop⟩ h).copy = part :=
    String.copy_slice_eq_iff_splits.2
      ⟨before, after, ⟨String.append_assoc, rfl⟩, ⟨rfl, rfl⟩⟩
  rw [slice, dif_pos ⟨hstart, hstop, hle⟩]
  exact congrArg Except.ok hslice.2

end EventFeed.Text
