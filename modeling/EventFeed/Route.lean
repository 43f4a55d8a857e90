import EventFeed.Duration
import EventFeed.Envelope
import EventFeed.Text.Numeral
import EventFeed.Text.Search
import EventFeed.Topic

/-!
# Routes

What the feed does with a classified frame. The control code decides for all families but the
triggers, which share one code. A trigger is told apart by what its frame holds, in this order: a
variable, a program, a repeated node update, a program key.
-/

namespace EventFeed

/-- Why a frame is dropped. -/
inductive DiscardReason where
  | noControl
  | unknownControl
  /-- A trigger that repeats a node update. -/
  | duplicateNodeUpdate
  /-- A trigger that holds nothing known. -/
  | emptyTrigger
  deriving DecidableEq, Repr

/-- What is done with a frame. -/
inductive Route where
  /-- A sign of life, with the heartbeat interval that the controller asks for, if it does. -/
  | heartbeat (interval : Option Duration)
  | publish (topic : Topic)
  /-- Remember the program key. -/
  | cacheProgramKey (key : String)
  /-- Programs changed; the new program key is remembered, if there is one. -/
  | refreshPrograms (key : Option String)
  | discard (reason : DiscardReason)
  deriving DecidableEq, Repr

namespace Route

/-- The largest number of seconds in a heartbeat. -/
def maxSeconds : Nat := 18446744073709551615

/-- The interval that the action of a heartbeat asks for: a positive number of seconds. -/
def interval? (action : String) : Option Duration :=
  ((Text.numeral? 10 maxSeconds (Text.trimBy Text.isBlank action.toList)).filter (0 < ·)).map
    Duration.ofSeconds

/-- Whether the frame as received holds a text. -/
def holds (envelope : Envelope) (mark : String) : Bool :=
  Text.occurs mark.toList envelope.raw.toList

/-- The route of a trigger. -/
def ofTrigger (envelope : Envelope) : Route :=
  if holds envelope "<var" then publish .variableUpdate
  else if holds envelope "<id>" then publish .programUpdate
  else if holds envelope "<node>" && holds envelope "[" then discard .duplicateNodeUpdate
  else if !holds envelope "<action>" then discard .emptyTrigger
  else if envelope.action = some "6" then cacheProgramKey (envelope.eventInfoText.getD "")
  else if envelope.action = some "7" then refreshPrograms (some (envelope.node.getD ""))
  else refreshPrograms none

/-- The route of a frame. -/
def ofEnvelope (envelope : Envelope) : Route :=
  match envelope.control? with
  | none => discard .noControl
  | some .heartbeat => heartbeat (envelope.action.bind interval?)
  | some .status => publish .nodeStatus
  | some (.property _) => publish .nodeControl
  | some .trigger => ofTrigger envelope
  | some .nodeChanged => publish .nodeChanged
  | some .systemStatus => publish .systemStatus
  | some .progress => publish .progressReport
  | some (.other _) => discard .unknownControl

end Route

end EventFeed
