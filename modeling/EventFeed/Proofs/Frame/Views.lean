import EventFeed.Proofs.Frame.Markers
import EventFeed.Report.Progress
import EventFeed.Report.SystemStatus

/-!
# Families, routes and views

The family of an envelope is settled when the frame is put into it. The route is decided later, by
reading the control code once more, and a typed view of the envelope asks for the family only. The
three agree on every frame that can be read (`Envelope.classify_coherent`).

What carries this is that the envelope keeps no difference between a control code that is absent and
an empty one: what is read from an element is trimmed and, where nothing is left of it, absent, so
that an empty code stands for an absent one and for nothing else. A route tells the family that it
was taken for (`Route.family`), and for the families that are published as a whole the family tells
the route.
-/

namespace EventFeed

open Markup

/-! ### Texts of children -/

/-- The text directly inside the first child of a name, without the blanks around it. It is empty
when there is no such child. -/
def Markup.Node.childText (root : Node) (name : String) : String :=
  ((root.child? name).map fun child => Text.trim child.innerText).getD ""

/-- A text of a child is absent when nothing is left of it. -/
lemma childText?_eq (root : Node) (name : String) :
    Frame.childText? root name =
      if root.childText name = "" then none else some (root.childText name) := by
  cases h : root.child? name with
  | none => simp [Frame.childText?, Node.childText, h]
  | some child => simp [Frame.childText?, Node.childText, h, Text.trim?]

namespace Envelope

variable (root : Node) (raw : String)

lemma controlCode_ofNode :
    (ofFrame (.ofNode root) raw).controlCode = root.childText "control" := by
  simp only [ofFrame, Frame.ofNode, childText?_eq]
  split
  · next h => rw [h, Option.getD_none]
  · rw [Option.getD_some]

/-- The control code is read from the text of the element `control`, unless this is empty. -/
lemma control?_ofNode :
    (ofFrame (.ofNode root) raw).control? =
      if root.childText "control" = "" then none
      else some (.ofText (root.childText "control")) := by
  simp only [control?, controlCode_ofNode, String.isEmpty_iff]

/-- The family is the one of the control code that the envelope keeps. -/
lemma family_ofNode :
    (ofFrame (.ofNode root) raw).family =
      ((ofFrame (.ofNode root) raw).control?.map ControlCode.family).getD .unrecognized := by
  rw [control?_ofNode]
  simp only [ofFrame, Frame.ofNode, childText?_eq]
  split <;> rfl

/-- There is an action when something is left of the text of the element `action`. -/
lemma isSome_action_ofNode :
    (ofFrame (.ofNode root) raw).action.isSome ↔ root.childText "action" ≠ "" := by
  cases h : root.child? "action" with
  | none => simp [ofFrame, Frame.actionValue?, Frame.ofNode, Node.childText, h]
  | some child => simp [ofFrame, Frame.actionValue?, Frame.ofNode, Node.childText, h]

end Envelope

/-! ### Routes by family -/

/-- The topic under which all frames of a family are published. Heartbeats are not published,
triggers are told apart by what they hold. -/
def ControlFamily.topic? : ControlFamily → Option Topic
  | statusUpdate => some .nodeStatus
  | controlEvent => some .nodeControl
  | nodeChanged => some .nodeChanged
  | systemStatusChanged => some .systemStatus
  | progressReport => some .progressReport
  | heartbeat | genericTrigger | unrecognized => none

namespace Route

/-- The family that a route is taken for. -/
def family : Route → ControlFamily
  | heartbeat _ => .heartbeat
  | publish .nodeStatus => .statusUpdate
  | publish .nodeControl => .controlEvent
  | publish .nodeChanged => .nodeChanged
  | publish .systemStatus => .systemStatusChanged
  | publish .progressReport => .progressReport
  | discard .noControl | discard .unknownControl => .unrecognized
  | publish .variableUpdate | publish .programUpdate | cacheProgramKey _ | refreshPrograms _
  | discard .duplicateNodeUpdate | discard .emptyTrigger => .genericTrigger

variable {envelope : Envelope} {route : Route}

/-- Whatever a trigger holds, its route is one of the routes of triggers. -/
lemma family_ofTrigger (envelope : Envelope) : (ofTrigger envelope).family = .genericTrigger := by
  unfold ofTrigger
  repeat' split
  all_goals rfl

/-- A frame is routed by the family of its control code. -/
lemma family_ofEnvelope (envelope : Envelope) :
    (ofEnvelope envelope).family =
      (envelope.control?.map ControlCode.family).getD .unrecognized := by
  cases hcode : envelope.control? with
  | none =>
    rw [ofEnvelope, hcode]
    rfl
  | some code =>
    cases code with
    | trigger =>
      rw [ofEnvelope, hcode]
      exact family_ofTrigger envelope
    | heartbeat | status | property _ | nodeChanged | systemStatus | progress | other _ =>
      rw [ofEnvelope, hcode]
      rfl

/-- A family that is published under a topic has no other route. -/
lemma eq_publish_iff {f : ControlFamily} {topic : Topic} (h : f.topic? = some topic) :
    route = publish topic ↔ route.family = f := by
  constructor
  · rintro rfl
    cases f <;> simp only [ControlFamily.topic?, Option.some.injEq, reduceCtorEq] at h <;>
      subst h <;> rfl
  · rintro rfl
    revert h
    fun_cases family route <;> simp [ControlFamily.topic?]

lemma exists_eq_heartbeat_iff :
    (∃ interval, route = heartbeat interval) ↔ route.family = .heartbeat := by
  fun_cases family route <;> simp

/-- Frames of no known family are discarded, for one of two reasons. -/
lemma family_eq_unrecognized_iff :
    route.family = .unrecognized ↔
      route = discard .noControl ∨ route = discard .unknownControl := by
  fun_cases family route <;> simp

/-- The want of a control code is a reason to discard a frame exactly when the frame has none. A
code that is not known is discarded for another reason. -/
lemma ofEnvelope_eq_noControl_iff :
    ofEnvelope envelope = discard .noControl ↔ envelope.control? = none := by
  constructor
  · intro h
    have hfamily := family_ofEnvelope envelope
    rw [h] at hfamily
    cases hcode : envelope.control? with
    | none => rfl
    | some code =>
      rw [hcode] at hfamily
      cases code <;> simp_all [family, ControlCode.family, ofEnvelope]
  · intro h
    rw [ofEnvelope, h]

end Route

/-! ### Views by family -/

namespace Envelope

/-- Which of the typed views decode an envelope. -/
def decoded (envelope : Envelope) : List Bool :=
  [(NodeChange.ofEnvelope? envelope).isSome, (SystemStatus.ofEnvelope? envelope).isSome,
    (Progress.ofEnvelope? envelope).isSome]

variable (envelope : Envelope)

lemma isSome_nodeChange :
    (NodeChange.ofEnvelope? envelope).isSome ↔
      envelope.family = .nodeChanged ∧ envelope.action.isSome := by
  unfold NodeChange.ofEnvelope?
  split
  · next h => simp [h]
  · next h => simp [h]

lemma isSome_systemStatus :
    (SystemStatus.ofEnvelope? envelope).isSome ↔
      envelope.family = .systemStatusChanged ∧ envelope.action.isSome := by
  unfold SystemStatus.ofEnvelope?
  split
  · next h => simp [h]
  · next h => simp [h]

lemma isSome_progress :
    (Progress.ofEnvelope? envelope).isSome ↔ envelope.family = .progressReport := by
  simp [Progress.ofEnvelope?]

/-- A family has one view at most. -/
lemma count_decoded_le : envelope.decoded.count true ≤ 1 := by
  cases hfamily : envelope.family <;> cases haction : envelope.action <;>
    simp [decoded, NodeChange.ofEnvelope?, SystemStatus.ofEnvelope?, Progress.ofEnvelope?, hfamily,
      haction]

/-! ### Agreement -/

/-- What the family, the route and the views of an envelope have to do with each other, and with the
tree that the frame was read from. -/
structure Coherent (envelope : Envelope) (root : Node) : Prop where
  control?_eq :
    envelope.control? =
      if root.childText "control" = "" then none
      else some (.ofText (root.childText "control"))
  family_eq : envelope.family = (envelope.control?.map ControlCode.family).getD .unrecognized
  control?_eq_none_iff : envelope.control? = none ↔ root.childText "control" = ""
  noControl_iff :
    Route.ofEnvelope envelope = .discard .noControl ↔ root.childText "control" = ""
  heartbeat_iff :
    (∃ interval, Route.ofEnvelope envelope = .heartbeat interval) ↔ envelope.family = .heartbeat
  nodeStatus_iff :
    Route.ofEnvelope envelope = .publish .nodeStatus ↔ envelope.family = .statusUpdate
  nodeControl_iff :
    Route.ofEnvelope envelope = .publish .nodeControl ↔ envelope.family = .controlEvent
  nodeChanged_iff :
    Route.ofEnvelope envelope = .publish .nodeChanged ↔ envelope.family = .nodeChanged
  systemStatus_iff :
    Route.ofEnvelope envelope = .publish .systemStatus ↔ envelope.family = .systemStatusChanged
  progressReport_iff :
    Route.ofEnvelope envelope = .publish .progressReport ↔ envelope.family = .progressReport
  unknownControl_iff :
    Route.ofEnvelope envelope = .discard .unknownControl ↔
      envelope.family = .unrecognized ∧ envelope.control? ≠ none
  nodeChange_iff :
    (NodeChange.ofEnvelope? envelope).isSome ↔
      Route.ofEnvelope envelope = .publish .nodeChanged ∧ root.childText "action" ≠ ""
  status_iff :
    (SystemStatus.ofEnvelope? envelope).isSome ↔
      Route.ofEnvelope envelope = .publish .systemStatus ∧ root.childText "action" ≠ ""
  progress_iff :
    (Progress.ofEnvelope? envelope).isSome ↔ Route.ofEnvelope envelope = .publish .progressReport
  decoded_le : envelope.decoded.count true ≤ 1

/-- What is read from a tree is coherent with it. -/
lemma coherent_ofNode (root : Node) (raw : String) :
    (ofFrame (.ofNode root) raw).Coherent root := by
  set envelope := ofFrame (.ofNode root) raw with henvelope
  have hcode := control?_ofNode root raw
  have hnone : envelope.control? = none ↔ root.childText "control" = "" := by
    rw [hcode]
    split <;> simp_all
  have hroute : (Route.ofEnvelope envelope).family = envelope.family :=
    (Route.family_ofEnvelope envelope).trans (family_ofNode root raw).symm
  have hpublish (f : ControlFamily) {topic : Topic} (h : f.topic? = some topic) :
      Route.ofEnvelope envelope = .publish topic ↔ envelope.family = f := by
    rw [Route.eq_publish_iff h, hroute]
  have haction := isSome_action_ofNode root raw
  exact {
    control?_eq := hcode
    family_eq := family_ofNode root raw
    control?_eq_none_iff := hnone
    noControl_iff := Route.ofEnvelope_eq_noControl_iff.trans hnone
    heartbeat_iff := by rw [Route.exists_eq_heartbeat_iff, hroute]
    nodeStatus_iff := hpublish .statusUpdate rfl
    nodeControl_iff := hpublish .controlEvent rfl
    nodeChanged_iff := hpublish .nodeChanged rfl
    systemStatus_iff := hpublish .systemStatusChanged rfl
    progressReport_iff := hpublish .progressReport rfl
    unknownControl_iff := by
      rw [← hroute, Route.family_eq_unrecognized_iff, ne_eq, ← Route.ofEnvelope_eq_noControl_iff]
      constructor
      · intro h
        simp [h]
      · rintro ⟨h, hne⟩
        exact h.resolve_left hne
    nodeChange_iff := by rw [isSome_nodeChange, hpublish .nodeChanged rfl, ← haction]
    status_iff := by rw [isSome_systemStatus, hpublish .systemStatusChanged rfl, ← haction]
    progress_iff := by rw [isSome_progress, hpublish .progressReport rfl]
    decoded_le := count_decoded_le envelope }

/-- Every frame that can be read is routed by the family of its control code, and decoded by the
view of this family only. -/
theorem classify_coherent {raw : String} {envelope : Envelope}
    (h : classify raw = .ok envelope) :
    ∃ root, Markup.parse? raw = some root ∧ envelope.Coherent root := by
  simp only [classify, Frame.read] at h
  cases hroot : Markup.parse? raw with
  | none =>
    rw [hroot] at h
    cases h
  | some root =>
    rw [hroot] at h
    cases h
    exact ⟨root, rfl, coherent_ofNode root raw⟩

/-- The first control element counts, without the blanks around its text. -/
theorem classify_coherent_instance :
    let raw := "<Event><control> _5 </control><control>ST</control><action> 1 </action></Event>"
    ∃ envelope root, classify raw = .ok envelope ∧ Markup.parse? raw = some root ∧
      envelope.Coherent root ∧ envelope.control? = some .systemStatus ∧
      SystemStatus.ofEnvelope? envelope = some .busy := by
  intro raw
  have hvalues : (classify raw).toOption.map
      (fun envelope => (envelope.control?, SystemStatus.ofEnvelope? envelope)) =
      some (some .systemStatus, some .busy) := by
    decide +kernel
  cases hclassify : classify raw with
  | error e =>
    rw [hclassify] at hvalues
    cases hvalues
  | ok envelope =>
    rw [hclassify] at hvalues
    obtain ⟨hcontrol, hstatus⟩ := Prod.mk.inj (Option.some.inj hvalues)
    obtain ⟨root, hroot, hcoherent⟩ := classify_coherent hclassify
    exact ⟨envelope, root, rfl, hroot, hcoherent, hcontrol, hstatus⟩

end Envelope

end EventFeed
