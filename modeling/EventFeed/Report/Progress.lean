import EventFeed.Report.NodeChange
import EventFeed.Text.Numeral
import EventFeed.Text.Search

/-!
# Progress reports

While the controller writes to a device it reports lines of the form `[address] message`. A message
about a memory write to one device names the memory address, the byte written and two commands.
-/

namespace EventFeed

/-- A byte written to the memory of a device. -/
structure MemoryWrite where
  memory : String
  cmd1 : String
  cmd2 : String
  value : UInt8
  deriving DecidableEq, Repr

/-- A progress report. -/
structure Progress where
  /-- The address of the device, or `All`. -/
  address : String
  message : String
  action : NodeAction
  memory : Option MemoryWrite
  deriving DecidableEq, Repr

namespace Progress

/-- The word behind the first occurrence of `key`: what stands there up to a blank. -/
def wordAfter? (key message : List Char) : Option (List Char) :=
  ((Text.after? key message).map (List.takeWhile fun c => !Text.isBlank c)).filter
    fun word => !word.isEmpty

/-- What stands in the first pair of brackets. -/
def bracketed? (cs : List Char) : Option (List Char) :=
  (Text.after? ['['] cs).bind fun inside => (Text.splitAt? [']'] inside).map Prod.fst

/-- The byte in brackets, in hexadecimal. -/
def byte? (cs : List Char) : Option UInt8 :=
  (bracketed? cs).bind fun digits =>
    (Text.numeral? 16 255 (Text.trimBy Text.isBlank digits)).map UInt8.ofNat

/-- The memory write that a message describes. The byte is looked for behind the memory address. -/
def memoryWrite? (message : List Char) : Option MemoryWrite :=
  match wordAfter? "dbAddr=".toList message, (Text.after? "dbAddr=".toList message).bind byte?,
      wordAfter? "cmd1=".toList message, wordAfter? "cmd2=".toList message with
  | some memory, some value, some cmd1, some cmd2 =>
    some { memory := String.ofList memory, cmd1 := String.ofList cmd1,
           cmd2 := String.ofList cmd2, value }
  | _, _, _, _ => none

/-- Whether a character surrounds the address. -/
def isAddressEdge (c : Char) : Bool :=
  c == '[' || c == ' '

/-- The report that a text holds: the address stands before the first closing bracket. -/
def ofText (text : String) : Progress :=
  let parts := (Text.splitAt? [']'] text.toList).getD (text.toList, [])
  let address := Text.trimBy isAddressEdge parts.1
  let message := Text.trimBy Text.isBlank parts.2
  let isMemory := address != "All".toList && "Memory".toList.isPrefixOf message
  { address := String.ofList address
    message := String.ofList message
    action := if isMemory then .deviceMemory else .deviceWriting
    memory := if isMemory then memoryWrite? message else none }

/-- The report that an envelope carries: none for other families. -/
def ofEnvelope? (envelope : Envelope) : Option Progress :=
  if envelope.family = .progressReport then some (ofText (envelope.eventInfoText.getD ""))
  else none

end Progress

end EventFeed
