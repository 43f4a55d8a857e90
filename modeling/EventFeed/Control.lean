/-!
# Control codes

The control code of a frame says what the frame is about. Codes with an underscore in front belong
to the controller itself, all others name a property of a node. The family is the part of a code
that consumers branch on.
-/

namespace EventFeed

/-- What a frame is about, in broad terms. -/
inductive ControlFamily where
  | heartbeat
  | statusUpdate
  | controlEvent
  | genericTrigger
  | nodeChanged
  | systemStatusChanged
  | progressReport
  | unrecognized
  deriving DecidableEq, Repr, Inhabited

/-- A control code that has been read. -/
inductive ControlCode where
  | heartbeat
  | status
  /-- A code without an underscore in front. -/
  | property (code : String)
  | trigger
  | nodeChanged
  | systemStatus
  | progress
  /-- A reserved code, or one that is not known yet. -/
  | other (code : String)
  deriving DecidableEq, Repr

namespace ControlCode

/-- The control code of a text. -/
def ofText (code : String) : ControlCode :=
  if code = "_0" then heartbeat
  else if code = "ST" then status
  else if code.toList.head? ≠ some '_' then property code
  else if code = "_1" then trigger
  else if code = "_3" then nodeChanged
  else if code = "_5" then systemStatus
  else if code = "_7" then progress
  else other code

/-- The family of a control code. -/
def family : ControlCode → ControlFamily
  | heartbeat => .heartbeat
  | status => .statusUpdate
  | property _ => .controlEvent
  | trigger => .genericTrigger
  | nodeChanged => .nodeChanged
  | systemStatus => .systemStatusChanged
  | progress => .progressReport
  | other _ => .unrecognized

/-- The text that a code carries along, for the codes that are kept as written. -/
def written? : ControlCode → Option String
  | property code => some code
  | other code => some code
  | _ => none

end ControlCode

end EventFeed
