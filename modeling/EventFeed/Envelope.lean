import EventFeed.Control
import EventFeed.Frame

/-!
# Envelopes

An envelope is a frame as consumers see it: the family of its control code, the values that most of
them ask for, and the frame as it was received.
-/

namespace EventFeed

/-- A classified frame. -/
structure Envelope where
  family : ControlFamily := .unrecognized
  /-- The control code as written, empty when the frame had none. -/
  controlCode : String := ""
  action : Option String := none
  actionAttributes : Fields := {}
  node : Option String := none
  /-- The node, else the variable, else the program that the frame is about. -/
  nodeOrVariableId : Option String := none
  eventInfo : Fields := {}
  eventInfoText : Option String := none
  seqnum : Option String := none
  streamId : Option String := none
  formattedAction : Option String := none
  formattedName : Option String := none
  /-- The frame as received. -/
  raw : String := ""
  deriving DecidableEq, Repr, Inhabited

namespace Envelope

/-- The envelope of a frame that was read from `raw`. -/
def ofFrame (frame : Frame) (raw : String) : Envelope where
  family := (frame.control.map fun code => (ControlCode.ofText code).family).getD .unrecognized
  controlCode := frame.control.getD ""
  action := frame.actionValue?
  actionAttributes := (frame.action.map ActionValue.attributes).getD {}
  node := frame.node
  nodeOrVariableId :=
    frame.node.or ((frame.eventInfo.get? "var.id").or (frame.eventInfo.get? "id"))
  eventInfo := frame.eventInfo.fields
  eventInfoText := frame.eventInfo.text
  seqnum := frame.seqnum
  streamId := frame.streamId
  formattedAction := frame.formattedAction
  formattedName := frame.formattedName
  raw := raw

/-- Read a frame and put it into its envelope. -/
def classify (raw : String) : Except FrameError Envelope :=
  (Frame.read raw).map fun frame => ofFrame frame raw

/-- The control code, when the frame had one. -/
def control? (envelope : Envelope) : Option ControlCode :=
  if envelope.controlCode.isEmpty then none else some (ControlCode.ofText envelope.controlCode)

end Envelope

end EventFeed
