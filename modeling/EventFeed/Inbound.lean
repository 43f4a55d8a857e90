/-!
# Inbound frames

What a connection delivers: messages, the frames that only keep it alive, and the frame with which
the other side ends it.
-/

namespace EventFeed

/-- What a close frame says. -/
structure CloseInfo where
  code : Nat
  reason : String
  deriving DecidableEq, Repr

/-- A frame of the connection underneath. -/
inductive Inbound where
  | text (content : String)
  | binary (bytes : List UInt8)
  | ping
  | pong
  | close (info : Option CloseInfo)
  deriving DecidableEq, Repr

end EventFeed
