import EventFeed.Report.Progress
import EventFeed.Text.Slice

/-!
# Progress reports by offsets

A report can be read without taking it apart into characters: what is looked for is found by its
byte offset, offsets are added up, and the parts of the report are the slices between them. A slice
that does not exist is a failure of the reader and not a property of the report, and it is told
apart from a report that lacks a field.
-/

namespace EventFeed.Progress

open Text (SliceFault slice offset? blankOffset?)

/-- The word behind the first occurrence of `key`. -/
def wordSlice (key message : String) : Except SliceFault (Option String) :=
  match offset? key message with
  | none => .ok none
  | some first => do
    let rest ← slice message (first + key.utf8ByteSize) message.utf8ByteSize
    let word ← slice rest 0 ((blankOffset? rest).getD rest.utf8ByteSize)
    return if word.isEmpty then none else some word

/-- What stands in the first pair of brackets. -/
def bracketSlice (s : String) : Except SliceFault (Option String) :=
  match offset? "[" s with
  | none => .ok none
  | some opening => do
    let inside ← slice s opening s.utf8ByteSize
    match offset? "]" inside with
    | none => return none
    | some width =>
      let digits ← slice s (opening + 1) (opening + width)
      return some digits

/-- The byte in the first brackets behind the memory address. -/
def byteSlice (message : String) : Except SliceFault (Option UInt8) :=
  match offset? "dbAddr=" message with
  | none => .ok none
  | some first => do
    let address ← slice message first message.utf8ByteSize
    let digits ← bracketSlice address
    return digits.bind fun digits =>
      (Text.numeral? 16 255 (Text.trim digits).toList).map UInt8.ofNat

/-- The memory write that a message describes. What comes first and is missing ends the search. -/
def memorySlices (message : String) : Except SliceFault (Option MemoryWrite) := do
  match ← wordSlice "dbAddr=" message with
  | none => return none
  | some memory =>
    match ← byteSlice message with
    | none => return none
    | some value =>
      match ← wordSlice "cmd1=" message with
      | none => return none
      | some cmd1 =>
        match ← wordSlice "cmd2=" message with
        | none => return none
        | some cmd2 => return some { memory, cmd1, cmd2, value }

/-- What stands before the first closing bracket and what stands behind it. -/
def halves (text : String) : Except SliceFault (String × String) :=
  match offset? "]" text with
  | none => .ok (text, "")
  | some first => do
    let before ← slice text 0 first
    let after ← slice text (first + 1) text.utf8ByteSize
    return (before, after)

/-- The report that a text holds. -/
def ofSlices (text : String) : Except SliceFault Progress := do
  let (before, after) ← halves text
  let address := String.ofList (Text.trimBy isAddressEdge before.toList)
  let message := Text.trim after
  if address ≠ "All" ∧ "Memory".toList.isPrefixOf message.toList then
    let memory ← memorySlices message
    return { address, message, action := .deviceMemory, memory }
  else return { address, message, action := .deviceWriting, memory := none }

end EventFeed.Progress
