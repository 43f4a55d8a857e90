/-!
# Log lines

What the feed reports about its work.
-/

namespace EventFeed

/-- The level of a log line. -/
inductive LogLevel where
  | info
  | warn
  | error
  deriving DecidableEq, Repr

/-- One line of the log: a message and named values. -/
structure LogLine where
  level : LogLevel
  message : String
  fields : List (String × String) := []
  /-- The error behind the line, where it is shown with its kind. -/
  error : Option String := none
  deriving DecidableEq, Repr

/-- The line about a listener that panicked. -/
def LogLine.panicked (listener : Nat) (message : String) : LogLine :=
  { level := .error
    message := "Event handler panicked: " ++ message
    fields := [("subscription", toString listener)] }

end EventFeed
