import EventFeed.Frame
import EventFeed.Proofs.Markup.ReadBack

/-!
# Frames are read as they were written

A draft is a frame before it is written: the attributes of its root, the texts of the elements that
the feed routes on, and the elements inside `eventInfo`. Whatever the texts hold, reading the
written draft gives them back, trimmed, and the fields of the `eventInfo` element are the first
entries of their names in document order.

The blank is where writing and reading could part: a text of white space alone leaves no node behind
while a blank text of other characters does. Both are nothing once they are trimmed, since white
space is blank (`trim_textOf`).
-/

namespace EventFeed

open Markup

/-! ### Trimming -/

/-- White space of documents is blank. -/
lemma isBlank_of_isSpace {c : Char} (h : isSpace c) : Text.isBlank c := by
  simp only [isSpace, Bool.or_eq_true, beq_iff_eq] at h
  rcases h with ((rfl | rfl) | rfl) | rfl <;> decide

/-- Nothing is left of blank characters. -/
lemma trimBy_eq_nil {p : Char → Bool} {cs : List Char} (h : ∀ c ∈ cs, p c) :
    Text.trimBy p cs = [] := by
  have hdrop : cs.dropWhile p = [] := List.dropWhile_eq_nil_iff.2 h
  simp [Text.trimBy, Text.dropRight, hdrop]

/-- Elements hold no text of the element they stand in. -/
lemma textOf_nodes (forest : Forest) : Node.textOf forest.nodes = [] := by
  induction forest with
  | nil => rfl
  | cons e children rest _ ih => exact ih

/-- The text of an element is the one it was written with, up to blanks at its ends. -/
lemma trim_textOf (content : Content) (forest : Forest) :
    Text.trimBy Text.isBlank (Node.textOf (content.nodes ++ forest.nodes)) =
      Text.trimBy Text.isBlank content.text.toList := by
  unfold Content.nodes
  split
  · next hspace =>
    have hblank : ∀ c ∈ content.text.toList, Text.isBlank c := fun c hc =>
      isBlank_of_isSpace (List.all_eq_true.1 hspace c hc)
    rw [List.nil_append, textOf_nodes, trimBy_eq_nil hblank]
    rfl
  · simp [Node.textOf, textOf_nodes]

lemma trim_innerText (e : Element) (children : Forest) :
    Text.trim (e.node children).innerText = Text.trim e.text.text := by
  simp [Text.trim, Node.innerText, Node.children, Element.node, trim_textOf]

lemma trim?_innerText (e : Element) (children : Forest) :
    Text.trim? (e.node children).innerText = Text.trim? e.text.text := by
  simp only [Text.trim?, trim_innerText]

/-! ### Flattening -/

namespace EventInfo

/-- Text between elements adds no field. -/
lemma flattenInto_content (content : Content) (nodes : List Node) (fields : Fields) :
    flattenInto (content.nodes ++ nodes) fields = flattenInto nodes fields := by
  unfold Content.nodes
  split
  · rfl
  · simp [flattenInto]

/-- Elements add their entries in document order. -/
lemma flattenInto_nodes (forest : Forest) (fields : Fields) :
    flattenInto forest.nodes fields =
      forest.entries.foldl (fun fields entry => fields.insertNew entry.1 entry.2) fields := by
  induction forest generalizing fields with
  | nil => simp [Forest.nodes, flattenInto]
  | cons e children rest ihchildren ihrest =>
    have hattributes : addAttributes e.name.text e.attributes.fields fields =
        (e.attributes.entries.map fun entry =>
          (e.name.text ++ "." ++ entry.1.text, entry.2.text)).foldl
            (fun fields entry => fields.insertNew entry.1 entry.2) fields := by
      simp [addAttributes, Attributes.fields, List.foldl_map]
    rw [Forest.nodes, flattenInto, flattenInto_content, ihchildren, ihrest, hattributes,
      trim_textOf]
    simp [Element.entries, Text.trim, List.foldl_append]

end EventInfo

/-- Of several entries under a name the first one counts, and a value that is there already counts
before all of them. -/
lemma get?_foldl_insertNew (entries : List (String × String)) (fields : Fields) (key : String) :
    (entries.foldl (fun fields entry => fields.insertNew entry.1 entry.2) fields).get? key =
      (fields.get? key).or (entries.lookup key) := by
  induction entries generalizing fields with
  | nil => simp
  | cons entry entries ih =>
    obtain ⟨k, v⟩ := entry
    rw [List.foldl_cons, ih, Fields.get?_insertNew, Option.or_assoc]
    congr 1
    by_cases h : key = k
    · simp [h]
    · simp [h, List.lookup_cons, beq_eq_false_iff_ne.2 h]

/-! ### Drafts -/

/-- A frame before it is written. -/
structure Draft where
  /-- The attributes of the root. -/
  header : Attributes
  control : Content
  action : Content
  actionAttributes : Attributes
  node : Content
  /-- The text of `eventInfo` in front of its child elements. -/
  info : Content
  /-- The child elements of `eventInfo`. -/
  details : Forest

namespace Draft

/-- The `control` element. -/
def controlElement (draft : Draft) : Element :=
  { name := ⟨"control", by decide⟩, text := draft.control }

/-- The `action` element. -/
def actionElement (draft : Draft) : Element :=
  ⟨⟨"action", by decide⟩, draft.actionAttributes, draft.action⟩

/-- The `node` element. -/
def nodeElement (draft : Draft) : Element :=
  { name := ⟨"node", by decide⟩, text := draft.node }

/-- The `eventInfo` element without its child elements. -/
def infoElement (draft : Draft) : Element :=
  { name := ⟨"eventInfo", by decide⟩, text := draft.info }

/-- The children of the root. -/
def parts (draft : Draft) : Forest :=
  .cons draft.controlElement .nil <| .cons draft.actionElement .nil <|
    .cons draft.nodeElement .nil <| .one draft.infoElement draft.details

/-- The root without its children. -/
def root (draft : Draft) : Element :=
  ⟨⟨"Event", by decide⟩, draft.header, ⟨"", by decide⟩⟩

/-- The draft as it is written. -/
def written (draft : Draft) : String :=
  String.ofList (Forest.one draft.root draft.parts).written

/-- The attributes of a root with a sequence number and the name of a stream. -/
def stamp (seqnum streamId : Content) : Attributes where
  entries := [(⟨"seqnum", by decide⟩, seqnum), (⟨"sid", by decide⟩, streamId)]
  distinct := by simp
  proper := by simp

example : Draft.written ⟨stamp ⟨"7", by decide⟩ ⟨"a\"b", by decide⟩, ⟨"_1", by decide⟩,
    ⟨"<6>", by decide⟩, .empty, ⟨"1 2", by decide⟩, ⟨" & ", by decide⟩,
    .one { name := ⟨"id", by decide⟩, text := ⟨"3", by decide⟩ } .nil⟩ =
      "<Event seqnum=\"7\" sid=\"a&quot;b\"><control>_1</control><action>&lt;6&gt;</action>" ++
        "<node>1 2</node><eventInfo> &amp; <id>3</id></eventInfo></Event>" := by
  decide +kernel

/-- What reading makes of the draft. -/
def frame (draft : Draft) : Frame where
  root := "Event"
  seqnum := draft.header.fields.get? "seqnum"
  streamId := draft.header.fields.get? "sid"
  control := Text.trim? draft.control.text
  action := some ⟨Text.trim draft.action.text, draft.actionAttributes.fields⟩
  node := Text.trim? draft.node.text
  eventInfo := ⟨Fields.ofList draft.details.entries, Text.trim? draft.info.text⟩
  formattedAction := none
  formattedName := none

/-- The flattened form of an element that was written. -/
lemma ofNode_node (e : Element) (children : Forest) :
    EventInfo.ofNode (e.node children) =
      ⟨Fields.ofList children.entries, Text.trim? e.text.text⟩ := by
  rw [EventInfo.ofNode, trim?_innerText, Element.node, Node.children,
    EventInfo.flattenInto_content, EventInfo.flattenInto_nodes]
  rfl

/-- The tree of the written draft has the parts of the frame in their places. -/
lemma ofNode_root (draft : Draft) : Frame.ofNode (draft.root.node draft.parts) = draft.frame := by
  have hchild (name : String) : (draft.root.node draft.parts).child? name =
      [draft.controlElement.node .nil, draft.actionElement.node .nil, draft.nodeElement.node .nil,
        draft.infoElement.node draft.details].find? fun child => child.name? == some name := rfl
  have hcontrol : (draft.root.node draft.parts).child? "control" =
      some (draft.controlElement.node .nil) := hchild _
  have haction : (draft.root.node draft.parts).child? "action" =
      some (draft.actionElement.node .nil) := hchild _
  have hnode : (draft.root.node draft.parts).child? "node" =
      some (draft.nodeElement.node .nil) := hchild _
  have hinfo : (draft.root.node draft.parts).child? "eventInfo" =
      some (draft.infoElement.node draft.details) := hchild _
  have hact : (draft.root.node draft.parts).child? "fmtAct" = none := hchild _
  have hname : (draft.root.node draft.parts).child? "fmtName" = none := hchild _
  simp only [Frame.ofNode, Frame.childText?, hcontrol, haction, hnode, hinfo, hact, hname,
    Option.bind_some, Option.bind_none, Option.map_some, Option.getD_some, trim?_innerText,
    trim_innerText, ofNode_node]
  rfl

/-- A written draft is read as the frame it was written for. -/
theorem read_written (draft : Draft) : Frame.read draft.written = .ok draft.frame := by
  rw [Frame.read, written, parse_written]
  exact congrArg Except.ok (ofNode_root draft)

end Draft

/-- For all texts, attributes and elements, the frame that is written with them, escaped, is read
with its stamp unchanged, its texts trimmed, exactly the attributes of its action, and under every
key the first of the entries of its elements. -/
theorem Frame.read_stamped (q s c a n t : Content) (attributes : Attributes) (details : Forest) :
    ∃ frame,
      Frame.read (Draft.written ⟨Draft.stamp q s, c, a, attributes, n, t, details⟩) = .ok frame ∧
      frame.root = "Event" ∧ frame.seqnum = some q.text ∧ frame.streamId = some s.text ∧
      frame.control = Text.trim? c.text ∧ frame.node = Text.trim? n.text ∧
      frame.action = some ⟨Text.trim a.text, attributes.fields⟩ ∧
      frame.eventInfo.text = Text.trim? t.text ∧
      ∀ key, frame.eventInfo.get? key = details.entries.lookup key := by
  have hfields : (Draft.stamp q s).fields = ⟨[("seqnum", q.text), ("sid", s.text)]⟩ := rfl
  have hseqnum : (Draft.stamp q s).fields.get? "seqnum" = some q.text := by
    simp [hfields, Fields.get?]
  have hstreamId : (Draft.stamp q s).fields.get? "sid" = some s.text := by
    simp [hfields, Fields.get?, List.lookup_cons]
  refine ⟨_, Draft.read_written _, ?_⟩
  simp only [Draft.frame, hseqnum, hstreamId, true_and]
  exact fun key => (get?_foldl_insertNew details.entries .empty key).trans (by simp)

end EventFeed
