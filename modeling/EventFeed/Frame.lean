import EventFeed.Markup.Reader
import EventFeed.Text.Blank

/-!
# Event frames

Every frame on the feed is a small document of its own. Reading one takes out the handful of
elements that the feed routes on, and flattens the `eventInfo` element into fields, so that a
consumer can pick the ones it understands. A text that is blank counts as absent; what is present is
trimmed.
-/

namespace EventFeed

/-- Why a frame cannot be read. -/
inductive FrameError where
  /-- The frame is no well-formed document. -/
  | malformed (detail : String)
  deriving DecidableEq, Repr

namespace FrameError

/-- What the reader reports about the document. -/
def detail : FrameError → String
  | malformed detail => detail

/-- The kind of the error in words. -/
def kindText : FrameError → String
  | malformed _ => "malformed XML"

/-- The text of the error. -/
def message (e : FrameError) : String :=
  e.kindText ++ ": " ++ e.detail

end FrameError

/-- The `action` element: its trimmed text and its attributes. -/
structure ActionValue where
  value : String
  attributes : Fields
  deriving DecidableEq, Repr

/-- The flattened `eventInfo` element. -/
structure EventInfo where
  fields : Fields := {}
  text : Option String := none
  deriving DecidableEq, Repr, Inhabited

/-- A frame that has been read. -/
structure Frame where
  root : String
  seqnum : Option String
  streamId : Option String
  control : Option String
  action : Option ActionValue
  node : Option String
  eventInfo : EventInfo
  formattedAction : Option String
  formattedName : Option String
  deriving DecidableEq, Repr

open Markup

namespace EventInfo

/-- The value of a field. -/
def get? (info : EventInfo) (key : String) : Option String :=
  info.fields.get? key

/-- Whether there is a field of this name; an empty element is one. -/
def contains (info : EventInfo) (key : String) : Bool :=
  info.fields.contains key

/-- Whether there is neither a field nor text. -/
def isEmpty (info : EventInfo) : Bool :=
  info.fields.isEmpty && info.text.isNone

/-- Add the attributes of the element `name` to the fields, each under `name.attribute`. -/
def addAttributes (name : String) (attributes : Fields) (fields : Fields) : Fields :=
  attributes.entries.foldl (fun fields entry => fields.insertNew (name ++ "." ++ entry.1) entry.2)
    fields

/-- Add what the elements of a list contribute to the fields: an element gives its attributes, then
its own trimmed text, then what is inside it. The first value of a name stays. -/
def flattenInto : List Node → Fields → Fields
  | [], fields => fields
  | .text _ :: rest, fields => flattenInto rest fields
  | .element name attributes children :: rest, fields =>
    let own := String.ofList (Text.trimBy Text.isBlank (Node.textOf children))
    flattenInto rest (flattenInto children
      ((addAttributes name attributes fields).insertNew name own))

/-- The flattened form of an element. -/
def ofNode (node : Node) : EventInfo where
  fields := flattenInto node.children {}
  text := Text.trim? node.innerText

end EventInfo

namespace Frame

/-- The trimmed text of the first child of a name. -/
def childText? (root : Node) (name : String) : Option String :=
  (root.child? name).bind fun child => Text.trim? child.innerText

/-- The frame of a document tree. -/
def ofNode (root : Node) : Frame where
  root := root.name?.getD ""
  seqnum := root.attributes.get? "seqnum"
  streamId := root.attributes.get? "sid"
  control := childText? root "control"
  action := (root.child? "action").map fun child =>
    { value := Text.trim child.innerText, attributes := child.attributes }
  node := childText? root "node"
  eventInfo := ((root.child? "eventInfo").map EventInfo.ofNode).getD {}
  formattedAction := childText? root "fmtAct"
  formattedName := childText? root "fmtName"

/-- Read a frame. -/
def read (text : String) : Except FrameError Frame :=
  match parse? text with
  | some root => .ok (ofNode root)
  | none => .error (.malformed "the text is not a well-formed document")

/-- The text of the action, unless it is absent or empty. -/
def actionValue? (frame : Frame) : Option String :=
  (frame.action.map ActionValue.value).filter fun value => !value.isEmpty

end Frame

end EventFeed
