import EventFeed.Proofs.Frame.RoundTrip
import EventFeed.Proofs.Text.Search
import EventFeed.Route

/-!
# Marks in written frames

The route of a trigger depends on marks in the frame as received, such as `<var`, and not on the
tree that was read from it. On written frames both agree: a mark occurs exactly where an element has
such a start tag.

A written document falls into segments that begin with a less-than sign and hold no other one, since
texts and attribute values are escaped. A segment is either a start tag with the text behind it or
an end tag. So a mark, which begins with a less-than sign too, occurs in the document exactly when
what follows its less-than sign is a prefix of a segment (`infix_written`), and end tags are ruled
out by their slash.
-/

namespace EventFeed

open Markup

/-! ### Occurrences of marks -/

/-- What begins with a less-than sign occurs behind characters among which there is none. -/
lemma infix_append_iff {k zs more : List Char} (hzs : '<' ∉ zs) :
    '<' :: k <:+: zs ++ more ↔ '<' :: k <:+: more := by
  induction zs with
  | nil => rfl
  | cons d zs ih =>
    have hd : '<' ≠ d := fun h => hzs (h ▸ List.mem_cons_self)
    have hrest : '<' ∉ zs := fun h => hzs (List.mem_cons_of_mem d h)
    rw [List.cons_append, List.infix_cons_iff, ih hrest]
    simp [List.cons_prefix_cons, hd]

/-- A mark in a segment of a document, or behind it. -/
lemma infix_segment {k zs more : List Char} (hk : '<' ∉ k) (hzs : '<' ∉ zs)
    (hmore : more = [] ∨ more.head? = some '<') :
    '<' :: k <:+: '<' :: (zs ++ more) ↔ k <+: zs ∨ '<' :: k <:+: more := by
  rw [List.infix_cons_iff, List.cons_prefix_cons, infix_append_iff hzs,
    Text.prefix_append_iff hk hmore]
  simp

/-! ### What stands in segments -/

/-- No less-than sign is left in an escaped text. -/
lemma lt_notMem_escape (cs : List Char) : '<' ∉ escape cs := by
  induction cs with
  | nil => simp
  | cons c cs ih =>
    have hc : '<' ∉ escapeChar c := by
      rcases escapeChar_cases c with ⟨name, hw, hname, -⟩ | ⟨hw, -, hlt, -⟩
      · have hlt : '<' ∉ name := fun h => absurd (hname _ h) (by decide)
        simp [hw, hlt]
      · simp [hw, Ne.symm hlt]
    simp [hc, ih]

/-- Escaping neither adds nor takes away a bracket. -/
lemma bracket_mem_escape (cs : List Char) : '[' ∈ escape cs ↔ '[' ∈ cs := by
  induction cs with
  | nil => simp
  | cons c cs ih =>
    have hc : '[' ∈ escapeChar c ↔ '[' = c := by
      unfold escapeChar
      repeat' split
      all_goals simp_all
    simp [hc, ih]

lemma isNameChar_of_mem {name : PlainName} {c : Char} (h : c ∈ name.written) : isNameChar c := by
  obtain ⟨first, cs, hname, hstart, -, hcs⟩ := name.exists_cons
  rcases List.mem_cons.1 (hname ▸ h) with rfl | hmem
  · exact isNameChar_of_isNameStart hstart
  · exact (hcs c hmem).1

/-- What is neither of a name nor of the marks of a start tag stands in values of attributes. -/
lemma mem_startTag {x : Char} (hx : isNameChar x = false) (hspace : x ≠ ' ') (hgt : x ≠ '>')
    (hequals : x ≠ '=') (hquot : x ≠ '\x22') (e : Element) :
    x ∈ e.startTag ↔ ∃ entry ∈ e.attributes.entries, x ∈ entry.2.written := by
  have hname (name : PlainName) : x ∉ name.written := fun h =>
    ne_of_isNameChar (isNameChar_of_mem h) hx rfl
  simp [Element.startTag, Attributes.written, writtenAttribute, hname, hspace, hgt, hequals, hquot]

/-- No less-than sign stands between the one of a start tag and the next tag. -/
lemma lt_notMem_segment (e : Element) : '<' ∉ e.startTag ++ e.text.written := by
  rw [List.mem_append, mem_startTag (by decide) (by decide) (by decide) (by decide) (by decide)]
  rintro (⟨entry, -, hvalue⟩ | htext)
  · exact lt_notMem_escape _ hvalue
  · exact lt_notMem_escape _ htext

lemma lt_notMem_endTag (e : Element) : '<' ∉ e.endTag := by
  have hname : '<' ∉ e.name.written := fun h =>
    ne_of_isNameChar (isNameChar_of_mem h) (by decide) rfl
  simp [Element.endTag, hname]

/-! ### Marks in documents -/

/-- What follows a document that has been written is markup, if the document is followed by some. -/
lemma head?_written_append (forest : Forest) {more : List Char}
    (hmore : more = [] ∨ more.head? = some '<') :
    forest.written ++ more = [] ∨ (forest.written ++ more).head? = some '<' := by
  cases forest with
  | nil => exact hmore
  | cons e children rest => exact .inr rfl

/-- A mark, given without its less-than sign, occurs where a start tag and the text behind it begin
with it. -/
lemma infix_written {k : List Char} (hk : '<' ∉ k) (hne : k ≠ [])
    (hslash : k.head? ≠ some '/') (forest : Forest) {more : List Char}
    (hmore : more = [] ∨ more.head? = some '<') :
    '<' :: k <:+: forest.written ++ more ↔
      (∃ e ∈ forest.elements, k <+: e.startTag ++ e.text.written) ∨ '<' :: k <:+: more := by
  induction forest generalizing more with
  | nil => simp [Forest.written, Forest.elements]
  | cons e children rest ihchildren ihrest =>
    have hwritten : (Forest.cons e children rest).written ++ more =
        '<' :: ((e.startTag ++ e.text.written) ++
          (children.written ++ ('<' :: (e.endTag ++ (rest.written ++ more))))) := by
      simp [Forest.written]
    have hend : ¬ k <+: e.endTag := by
      cases k with
      | nil => exact absurd rfl hne
      | cons c k =>
        intro h
        exact hslash (by simp [(List.cons_prefix_cons.1 h).1])
    rw [hwritten, infix_segment hk (lt_notMem_segment e)
        (head?_written_append children (.inr rfl)), ihchildren (.inr rfl),
      infix_segment hk (lt_notMem_endTag e) (head?_written_append rest hmore), ihrest hmore]
    simp [Forest.elements, hend, or_assoc, or_and_right, exists_or]

/-! ### What marks mark -/

namespace Markup.Element

/-- The element has the name, and no attributes. -/
def Bare (e : Element) (name : String) : Prop :=
  e.name.text = name ∧ e.attributes.entries = []

instance (e : Element) (name : String) : Decidable (e.Bare name) :=
  inferInstanceAs (Decidable (_ ∧ _))

/-- The text of the element or one of its attributes holds a bracket. -/
def Bracketed (e : Element) : Prop :=
  '[' ∈ e.text.text.toList ∨ ∃ entry ∈ e.attributes.entries, '[' ∈ entry.2.text.toList

instance (e : Element) : Decidable e.Bracketed :=
  inferInstanceAs (Decidable (_ ∨ _))

/-- What stands behind the name in a start tag, with the text of the element. -/
def behindName (e : Element) : List Char :=
  e.attributes.written ++ '>' :: e.text.written

lemma startTag_append (e : Element) :
    e.startTag ++ e.text.written = e.name.written ++ e.behindName := by
  simp [startTag, behindName]

/-- Behind the name there is a greater-than sign or, before attributes, a space. -/
lemma head?_behindName (e : Element) :
    (e.attributes.entries = [] ∧ e.behindName.head? = some '>') ∨
      (e.attributes.entries ≠ [] ∧ e.behindName.head? = some ' ') := by
  cases h : e.attributes.entries with
  | nil => exact .inl ⟨rfl, by simp [behindName, Attributes.written, h]⟩
  | cons entry entries =>
    exact .inr ⟨by simp, by simp [behindName, Attributes.written, writtenAttribute, h]⟩

/-- A start tag begins with a word when the name does. -/
lemma word_prefix_iff {word : List Char} (hword : ∀ c ∈ word, isNameChar c) (e : Element) :
    word <+: e.startTag ++ e.text.written ↔ word <+: e.name.written := by
  rw [startTag_append]
  have hnot {c : Char} (hc : isNameChar c = false) : c ∉ word := fun h =>
    ne_of_isNameChar (hword c h) hc rfl
  rcases e.head?_behindName with ⟨-, h⟩ | ⟨-, h⟩
  · exact Text.prefix_append_iff (hnot (by decide)) (.inr h)
  · exact Text.prefix_append_iff (hnot (by decide)) (.inr h)

/-- A start tag begins with a word that a greater-than sign follows when it is the tag of this word
without attributes. -/
lemma closed_prefix_iff {word : String} (hword : ∀ c ∈ word.toList, isNameChar c) (e : Element) :
    word.toList ++ ['>'] <+: e.startTag ++ e.text.written ↔ e.Bare word := by
  constructor
  · intro h
    obtain ⟨more, hmore⟩ := (word_prefix_iff hword e).1
      ((List.prefix_append word.toList ['>']).trans h)
    rw [startTag_append, ← hmore, List.append_assoc, List.prefix_append_right_inj] at h
    have hnil : more = [] := by
      cases more with
      | nil => rfl
      | cons c more =>
        have hc : '>' = c := (List.cons_prefix_cons.1 h).1
        have hmem : c ∈ e.name.written := hmore ▸ by simp
        exact absurd hc.symm (ne_of_isNameChar (isNameChar_of_mem hmem) (by decide))
    subst hnil
    rw [List.nil_append] at h
    have hhead : e.behindName.head? = some '>' := by
      obtain ⟨rest, hrest⟩ := h
      rw [← hrest]
      rfl
    refine ⟨String.toList_inj.1 (by simpa using hmore.symm), ?_⟩
    rcases e.head?_behindName with ⟨hentries, -⟩ | ⟨-, hspace⟩
    · exact hentries
    · rw [hhead] at hspace
      exact absurd hspace (by decide)
  · rintro ⟨hname, hentries⟩
    rw [startTag_append, ← hname, List.prefix_append_right_inj]
    simp [behindName, Attributes.written, hentries]

/-- A bracket stands in a start tag and the text behind it when the element holds one. -/
lemma bracket_mem_iff (e : Element) : '[' ∈ e.startTag ++ e.text.written ↔ e.Bracketed := by
  rw [List.mem_append, mem_startTag (by decide) (by decide) (by decide) (by decide) (by decide),
    or_comm]
  simp [Bracketed, Content.written, bracket_mem_escape]

end Markup.Element

/-- A bracket stands in a written document when an element holds one. -/
lemma bracket_mem_written (forest : Forest) :
    '[' ∈ forest.written ↔ ∃ e ∈ forest.elements, e.Bracketed := by
  induction forest with
  | nil => simp [Forest.written, Forest.elements]
  | cons e children rest ihchildren ihrest =>
    have hend : '[' ∉ e.endTag := by
      have hname : '[' ∉ e.name.written := fun h =>
        ne_of_isNameChar (isNameChar_of_mem h) (by decide) rfl
      simp [Element.endTag, hname]
    have hwritten : (Forest.cons e children rest).written =
        '<' :: ((e.startTag ++ e.text.written) ++
          (children.written ++ ('<' :: (e.endTag ++ rest.written)))) := by
      simp [Forest.written]
    rw [hwritten, List.mem_cons, List.mem_append, e.bracket_mem_iff]
    simp [Forest.elements, hend, ihchildren, ihrest, or_and_right, exists_or]

/-! ### Routes of triggers -/

/-- What is absent once it is trimmed was nothing but blanks. -/
lemma getD_trim? (s : String) : (Text.trim? s).getD "" = Text.trim s := by
  unfold Text.trim?
  by_cases h : (Text.trim s).isEmpty
  · simp only [h, if_true, Option.getD_none]
    exact (String.isEmpty_iff.1 h).symm
  · simp [h]

namespace Draft

/-- All elements of the draft. -/
def elements (draft : Draft) : List Element :=
  (Forest.one draft.root draft.parts).elements

/-- The envelope of the written draft. -/
def envelope (draft : Draft) : Envelope :=
  .ofFrame draft.frame draft.written

lemma raw_envelope (draft : Draft) :
    draft.envelope.raw.toList = (Forest.one draft.root draft.parts).written :=
  String.toList_ofList

/-- A written draft can be classified. -/
lemma classify_written (draft : Draft) :
    Envelope.classify draft.written = .ok draft.envelope := by
  rw [Envelope.classify, read_written]
  rfl

/-- The raw frame holds a mark of the tree when a start tag begins with it. -/
lemma holds_iff (draft : Draft) {mark : String} {k : List Char} (hmark : mark.toList = '<' :: k)
    (hk : '<' ∉ k) (hne : k ≠ []) (hslash : k.head? ≠ some '/') :
    Route.holds draft.envelope mark ↔
      ∃ e ∈ draft.elements, k <+: e.startTag ++ e.text.written := by
  have hinfix := infix_written hk hne hslash (Forest.one draft.root draft.parts) (.inl rfl)
  rw [List.append_nil] at hinfix
  rw [Route.holds, Text.occurs_iff, hmark, raw_envelope, hinfix]
  simp [elements]

/-- A raw frame holds a start of a start tag when the name of an element begins like this. -/
lemma holds_word (draft : Draft) {mark word : String} (hmark : mark.toList = '<' :: word.toList)
    (hword : ∀ c ∈ word.toList, isNameChar c) (hne : word.toList ≠ []) :
    Route.holds draft.envelope mark ↔
      ∃ e ∈ draft.elements, word.toList <+: e.name.text.toList := by
  have hnot {c : Char} (hc : isNameChar c = false) : c ∉ word.toList := fun h =>
    ne_of_isNameChar (hword c h) hc rfl
  have hslash : word.toList.head? ≠ some '/' := fun h =>
    hnot (by decide) (List.mem_of_head? h)
  rw [draft.holds_iff hmark (hnot (by decide)) hne hslash]
  simp only [Element.word_prefix_iff hword]

/-- A raw frame holds a start tag without attributes when there is an element with this tag. -/
lemma holds_tag (draft : Draft) {mark name : String}
    (hmark : mark.toList = '<' :: (name.toList ++ ['>']))
    (hname : ∀ c ∈ name.toList, isNameChar c) :
    Route.holds draft.envelope mark ↔ ∃ e ∈ draft.elements, e.Bare name := by
  have hnot {c : Char} (hc : isNameChar c = false) : c ∉ name.toList := fun h =>
    ne_of_isNameChar (hname c h) hc rfl
  have hlt : '<' ∉ name.toList ++ ['>'] := by
    simp [hnot (by decide : isNameChar '<' = false)]
  have hslash : (name.toList ++ ['>']).head? ≠ some '/' := by
    intro h
    have hmem : '/' ∈ name.toList ++ ['>'] := List.mem_of_head? h
    simp [hnot (by decide : isNameChar '/' = false)] at hmem
  rw [draft.holds_iff hmark hlt (by simp) hslash]
  simp only [Element.closed_prefix_iff hname]

/-- A raw frame holds a bracket when the text or an attribute of an element does. -/
lemma holds_bracket (draft : Draft) :
    Route.holds draft.envelope "[" ↔ ∃ e ∈ draft.elements, e.Bracketed := by
  rw [elements, ← bracket_mem_written, Route.holds, Text.occurs_iff, raw_envelope]
  constructor
  · rintro ⟨before, after, h⟩
    rw [← h]
    simp
  · intro h
    obtain ⟨before, after, h⟩ := List.append_of_mem h
    exact ⟨before, after, by simp [h]⟩

/-- There is always an element `node` without attributes. -/
lemma exists_node (draft : Draft) : ∃ e ∈ draft.elements, e.Bare "node" :=
  ⟨draft.nodeElement, by simp [elements, parts, Forest.one, Forest.elements], rfl, rfl⟩

/-- A trigger before it is written. -/
def trigger (header : Attributes) (action : Content) (actionAttributes : Attributes)
    (node info : Content) (details : Forest) : Draft :=
  ⟨header, ⟨"_1", by decide⟩, action, actionAttributes, node, info, details⟩

/-- The control code of a trigger. -/
lemma control?_envelope (draft : Draft) (h : draft.control.text = "_1") :
    draft.envelope.control? = some .trigger := by
  have htrim : Text.trim? "_1" = some "_1" := by decide +kernel
  have hcode : draft.envelope.controlCode = "_1" := by
    simp [envelope, Envelope.ofFrame, frame, h, htrim]
  rw [Envelope.control?, hcode]
  decide

/-- The action of the envelope is the trimmed text of the `action` element. -/
lemma action_envelope_iff (draft : Draft) {value : String} (hvalue : value ≠ "") :
    draft.envelope.action = some value ↔ Text.trim draft.action.text = value := by
  simp only [envelope, Envelope.ofFrame, Frame.actionValue?, frame, Option.map_some,
    Option.filter_eq_some_iff, Option.some.injEq]
  refine ⟨fun h => h.1, fun h => ⟨h, ?_⟩⟩
  simpa using hvalue

lemma eventInfoText_envelope (draft : Draft) :
    draft.envelope.eventInfoText = Text.trim? draft.info.text := by
  simp only [envelope, Envelope.ofFrame, frame]

lemma node_envelope (draft : Draft) : draft.envelope.node = Text.trim? draft.node.text := by
  simp only [envelope, Envelope.ofFrame, frame]

end Draft

/-- A written trigger is routed by its tree: whatever its texts and attributes hold, only a start
tag is taken for the mark of one. -/
theorem Route.ofEnvelope_trigger (header attributes : Attributes) (a n t : Content)
    (details : Forest) :
    let draft := Draft.trigger header a attributes n t details
    ∃ envelope, Envelope.classify draft.written = .ok envelope ∧
      Route.ofEnvelope envelope =
        (if ∃ e ∈ draft.elements, "var".toList <+: e.name.text.toList then
          publish .variableUpdate
        else if ∃ e ∈ draft.elements, e.Bare "id" then publish .programUpdate
        else if ∃ e ∈ draft.elements, e.Bracketed then discard .duplicateNodeUpdate
        else if ¬ ∃ e ∈ draft.elements, e.Bare "action" then discard .emptyTrigger
        else if Text.trim a.text = "6" then cacheProgramKey (Text.trim t.text)
        else if Text.trim a.text = "7" then refreshPrograms (some (Text.trim n.text))
        else refreshPrograms none) ∧
      (holds envelope "<var" ↔ ∃ e ∈ draft.elements, "var".toList <+: e.name.text.toList) ∧
      (holds envelope "<id>" ↔ ∃ e ∈ draft.elements, e.Bare "id") ∧
      (holds envelope "<action>" ↔ ∃ e ∈ draft.elements, e.Bare "action") := by
  intro draft
  have hvar : holds draft.envelope "<var" ↔
      ∃ e ∈ draft.elements, "var".toList <+: e.name.text.toList :=
    draft.holds_word (by decide) (List.all_eq_true.1 (by decide)) (by decide)
  have hid : holds draft.envelope "<id>" ↔ ∃ e ∈ draft.elements, e.Bare "id" :=
    draft.holds_tag (by decide) (List.all_eq_true.1 (by decide))
  have haction : holds draft.envelope "<action>" ↔ ∃ e ∈ draft.elements, e.Bare "action" :=
    draft.holds_tag (by decide) (List.all_eq_true.1 (by decide))
  have hnode : holds draft.envelope "<node>" :=
    (draft.holds_tag (by decide) (List.all_eq_true.1 (by decide))).2 draft.exists_node
  refine ⟨_, draft.classify_written, ?_, hvar, hid, haction⟩
  rw [ofEnvelope, draft.control?_envelope rfl, ofTrigger]
  refine if_congr hvar rfl (if_congr hid rfl (if_congr ?_ rfl (if_congr ?_ rfl
    (if_congr ?_ ?_ (if_congr ?_ ?_ rfl)))))
  · simp [hnode, draft.holds_bracket]
  · simp [← haction]
  · exact draft.action_envelope_iff (by decide)
  · rw [draft.eventInfoText_envelope, getD_trim?]
    rfl
  · exact draft.action_envelope_iff (by decide)
  · rw [draft.node_envelope, getD_trim?]
    rfl

end EventFeed
