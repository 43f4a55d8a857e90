/-!
# Topics

Consumers of the feed subscribe to topics. The status of the connection is not a topic: it has
listeners of its own.
-/

namespace EventFeed

/-- What published events are about. -/
inductive Topic where
  | nodeStatus
  | nodeControl
  | programUpdate
  | variableUpdate
  | nodeChanged
  | systemStatus
  | progressReport
  deriving DecidableEq, Repr, Inhabited

namespace Topic

/-- All topics. -/
def all : List Topic :=
  [nodeStatus, nodeControl, programUpdate, variableUpdate, nodeChanged, systemStatus,
    progressReport]

/-- The name of a topic. -/
def name : Topic → String
  | nodeStatus => "node-status"
  | nodeControl => "node-control"
  | programUpdate => "program-update"
  | variableUpdate => "variable-update"
  | nodeChanged => "node-changed"
  | systemStatus => "system-status"
  | progressReport => "progress-report"

/-- The topic of a name. -/
def ofName? (name : String) : Option Topic :=
  all.find? fun topic => topic.name = name

end Topic

end EventFeed
