import EventFeed.Envelope

/-!
# System status

How busy the controller says it is.
-/

namespace EventFeed

/-- The busy state of the controller. -/
inductive SystemStatus where
  | notBusy
  | busy
  | idle
  | safeMode
  | unknown (code : String)
  deriving DecidableEq, Repr, Inhabited

namespace SystemStatus

/-- The busy state of a code. -/
def ofCode (code : String) : SystemStatus :=
  if code = "0" then notBusy
  else if code = "1" then busy
  else if code = "2" then idle
  else if code = "3" then safeMode
  else unknown code

/-- The busy state that an envelope carries: none for other families, or without an action. -/
def ofEnvelope? (envelope : Envelope) : Option SystemStatus :=
  if envelope.family = .systemStatusChanged then envelope.action.map ofCode else none

/-- Whether the controller is busy. -/
def isBusy (status : SystemStatus) : Bool :=
  status = busy

/-- A busy state in words. -/
def text : SystemStatus → String
  | notBusy => "not busy"
  | busy => "busy"
  | idle => "idle"
  | safeMode => "safe mode"
  | unknown code => "unknown (" ++ code ++ ")"

end SystemStatus

end EventFeed
