import EventFeed.Envelope

/-!
# Node changes

Frames of the node-changed family say what happened to a node, a folder or a group. Each action has
a code, a description and a list of the `eventInfo` elements that belong to it; an action that is
not known keeps its code.
-/

namespace EventFeed

/-- What changed about a node, folder or group. -/
inductive NodeAction where
  | clearError
  | folderAdded
  | folderRemoved
  | folderRenamed
  | groupAdded
  | groupRemoved
  | groupRenamed
  | netRenamed
  | nodeAdded
  | nodeEnabled
  | nodeError
  | nodeMoved
  | nodeRemovedFromGroup
  | nodeRemoved
  | nodeRenamed
  | nodeRevised
  | parentChanged
  | pendingDeviceOp
  | programmingDevice
  /-- Seen in progress reports only. -/
  | deviceWriting
  /-- Seen in progress reports of memory writes only. -/
  | deviceMemory
  | unknown (code : String)
  deriving DecidableEq, Repr, Inhabited

namespace NodeAction

/-- The actions that have a code of their own. -/
def known : List NodeAction :=
  [clearError, folderAdded, folderRemoved, folderRenamed, groupAdded, groupRemoved, groupRenamed,
    netRenamed, nodeAdded, nodeEnabled, nodeError, nodeMoved, nodeRemovedFromGroup, nodeRemoved,
    nodeRenamed, nodeRevised, parentChanged, pendingDeviceOp, programmingDevice, deviceWriting,
    deviceMemory]

/-- The code of an action. -/
def code : NodeAction → String
  | clearError => "CE"
  | folderAdded => "FD"
  | folderRemoved => "FR"
  | folderRenamed => "FN"
  | groupAdded => "GD"
  | groupRemoved => "GR"
  | groupRenamed => "GN"
  | netRenamed => "WR"
  | nodeAdded => "ND"
  | nodeEnabled => "EN"
  | nodeError => "NE"
  | nodeMoved => "MV"
  | nodeRemovedFromGroup => "RG"
  | nodeRemoved => "NR"
  | nodeRenamed => "NN"
  | nodeRevised => "RV"
  | parentChanged => "PC"
  | pendingDeviceOp => "WH"
  | programmingDevice => "WD"
  | deviceWriting => "_7A"
  | deviceMemory => "_7M"
  | unknown code => code

/-- The action of a code. -/
def ofCode (code : String) : NodeAction :=
  (known.find? fun action => action.code = code).getD (unknown code)

/-- An action in words. -/
def description : NodeAction → String
  | clearError => "clear error"
  | folderAdded => "folder added"
  | folderRemoved => "folder removed"
  | folderRenamed => "folder renamed"
  | groupAdded => "group added"
  | groupRemoved => "group removed"
  | groupRenamed => "group renamed"
  | netRenamed => "network renamed"
  | nodeAdded => "node added"
  | nodeEnabled => "node enabled"
  | nodeError => "node error"
  | nodeMoved => "node moved"
  | nodeRemovedFromGroup => "node removed from group"
  | nodeRemoved => "node removed"
  | nodeRenamed => "node renamed"
  | nodeRevised => "node revised"
  | parentChanged => "parent changed"
  | pendingDeviceOp => "pending device operation"
  | programmingDevice => "programming device"
  | deviceWriting => "device writing"
  | deviceMemory => "device memory"
  | unknown code => code

/-- The `eventInfo` elements that belong to an action. -/
def detailTags : NodeAction → List String
  | folderRenamed | groupRenamed | nodeRenamed => ["newName"]
  | groupAdded => ["groupName", "groupType"]
  | nodeAdded => ["nodeName", "nodeType"]
  | nodeEnabled => ["enabled"]
  | nodeMoved => ["movedNode", "linkType"]
  | nodeRemovedFromGroup => ["removedNode"]
  | parentChanged => ["node", "nodeType", "parent", "parentType"]
  | deviceWriting => ["message"]
  | deviceMemory => ["memory", "cmd1", "cmd2", "value"]
  | _ => []

end NodeAction

/-- A node change. -/
structure NodeChange where
  address : String
  action : NodeAction
  /-- The elements that belong to the action and were sent; all fields for an unknown action. -/
  detail : Fields
  deriving DecidableEq, Repr

namespace NodeChange

/-- The details that are kept for an action. -/
def detailOf (action : NodeAction) (info : Fields) : Fields :=
  match action with
  | .unknown _ => info
  | known => Fields.ofList (known.detailTags.filterMap fun tag =>
      (info.get? tag).map fun value => (tag, value))

/-- The node change that an envelope carries: none for other families, or without an action. -/
def ofEnvelope? (envelope : Envelope) : Option NodeChange :=
  if envelope.family = .nodeChanged then
    envelope.action.map fun code =>
      let action := NodeAction.ofCode code
      { address := envelope.node.getD "", action, detail := detailOf action envelope.eventInfo }
  else none

/-- Whether the node was enabled, when the change says so. -/
def enabled? (change : NodeChange) : Option Bool :=
  (change.detail.get? "enabled").bind fun value =>
    if value = "true" ∨ value = "1" then some true
    else if value = "false" ∨ value = "0" then some false
    else none

end NodeChange

end EventFeed
