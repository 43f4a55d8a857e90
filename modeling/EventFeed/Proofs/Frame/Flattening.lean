import Mathlib.Data.List.Forall2
import EventFeed.Proofs.Frame.RoundTrip

/-!
# Flattened elements

The fields of a flattened element are the first entries of their names in document order. Every
element inside it says something of its own: the values of its attributes, each under its name
behind that of the element, and then its text under the name of the element. `Node.elements` puts
the elements in the order of their start tags, and the listing of a tree is what they say, one
after the other.

The attributes of an element have no order of their own, so that `Node.Says` leaves their order
open and a tree has many listings. All of them give the same fields: the names of an element's
attributes differ from each other, and putting the name of the element in front keeps them apart.
Names may hold dots, and what two elements say may well meet under one name; then the listing
decides.
-/

namespace EventFeed

open Markup

variable {entries entries' : List (String × String)} {key value : String}

/-! ### Listings -/

/-- The list holds every field once, in some order. -/
def Fields.EnumeratedBy (fields : Fields) (order : List (String × String)) : Prop :=
  (order.map Prod.fst).Nodup ∧
    ∀ name value, (name, value) ∈ order ↔ fields.get? name = some value

namespace Markup.Node

/-- What a text node holds. -/
def content? : Node → Option String
  | text content => some content
  | element _ _ _ => none

/-- The elements among some nodes and inside them, in document order. -/
def elements : List Node → List Node
  | [] => []
  | text _ :: rest => elements rest
  | element name attributes children :: rest =>
    element name attributes children :: (elements children ++ elements rest)

/-- An entry under the name of an attribute, as it is listed for the element `name`. -/
def underName (name : String) (entry : String × String) : String × String :=
  (name ++ "." ++ entry.1, entry.2)

/-- What an element says by itself: its attributes, in some order, and then its text, which is put
together from its own text nodes and trimmed. -/
inductive Says : Node → List (String × String) → Prop
  | element {name : String} {attributes : Fields} {children : List Node}
      {order : List (String × String)} (enumerated : attributes.EnumeratedBy order) :
      Says (.element name attributes children)
        (order.map (underName name) ++
          [(name, Text.trim (String.join (children.filterMap content?)))])

/-- The same trees, but for the order in which the attributes of each element are enumerated. -/
inductive Reordered : List Node → List Node → Prop
  | nil : Reordered [] []
  | text {rest rest' : List Node} (content : String) (behind : Reordered rest rest') :
      Reordered (.text content :: rest) (.text content :: rest')
  | element {attributes attributes' : Fields} {children children' rest rest' : List Node}
      (name : String) (enumerated : attributes.EnumeratedBy attributes'.entries)
      (inside : Reordered children children') (behind : Reordered rest rest') :
      Reordered (.element name attributes children :: rest)
        (.element name attributes' children' :: rest')

end Markup.Node

/-! ### First entries -/

/-- Where no name occurs twice, every entry is the first one of its name. -/
lemma lookup_eq_some_iff_mem (h : (entries.map Prod.fst).Nodup) :
    entries.lookup key = some value ↔ (key, value) ∈ entries := by
  induction entries with
  | nil => simp
  | cons entry entries ih =>
    obtain ⟨k, v⟩ := entry
    obtain ⟨hk, hrest⟩ := List.nodup_cons.1 h
    by_cases heq : key = k
    · subst heq
      have hnot : (key, value) ∉ entries := fun hmem => hk (List.mem_map.2 ⟨_, hmem, rfl⟩)
      simp [hnot, eq_comm]
    · simp [List.lookup_cons, beq_eq_false_iff_ne.2 heq, heq, ih hrest]

/-- A name has an entry when it is found. -/
lemma isSome_lookup_iff : (entries.lookup key).isSome ↔ ∃ value, (key, value) ∈ entries := by
  rw [← not_iff_not, Bool.not_eq_true, Option.isSome_eq_false_iff, Option.isNone_iff_eq_none,
    List.lookup_eq_none_iff]
  constructor
  · rintro h ⟨value, hmem⟩
    simpa using h _ hmem
  · rintro h ⟨k, v⟩ hmem
    simp only [bne_iff_ne, ne_eq]
    rintro rfl
    exact h ⟨v, hmem⟩

/-- Renaming all names, each to one of its own, renames what is found. -/
lemma lookup_map_of_injective {f : String → String} (hf : Function.Injective f)
    (entries : List (String × String)) (key : String) :
    (entries.map fun entry => (f entry.1, entry.2)).lookup (f key) = entries.lookup key := by
  induction entries with
  | nil => rfl
  | cons entry entries ih =>
    obtain ⟨k, v⟩ := entry
    by_cases h : key = k
    · simp [h]
    · simp [List.lookup_cons, beq_eq_false_iff_ne.2 h, beq_eq_false_iff_ne.2 (hf.ne h), ih]

/-- Names behind the name of an element are found alike when they are found alike without it. -/
lemma lookup_underName_congr (h : ∀ key, entries.lookup key = entries'.lookup key)
    (name key : String) :
    (entries.map (Node.underName name)).lookup key =
      (entries'.map (Node.underName name)).lookup key := by
  have hinjective : Function.Injective fun own => name ++ "." ++ own := fun _ _ hown =>
    (String.append_right_inj (name ++ ".")).1 hown
  by_cases hkey : ∃ own, name ++ "." ++ own = key
  · obtain ⟨own, rfl⟩ := hkey
    exact (lookup_map_of_injective hinjective entries own).trans
      ((h own).trans (lookup_map_of_injective hinjective entries' own).symm)
  · have hnone (list : List (String × String)) :
        (list.map (Node.underName name)).lookup key = none := by
      rw [List.lookup_eq_none_iff]
      rintro _ hmem
      obtain ⟨entry, -, rfl⟩ := List.mem_map.1 hmem
      exact bne_iff_ne.2 fun heq => hkey ⟨entry.1, heq.symm⟩
    rw [hnone, hnone]

namespace Fields

/-- Whatever the order, the values are found under their names. -/
lemma EnumeratedBy.lookup {fields : Fields} {order : List (String × String)}
    (h : fields.EnumeratedBy order) (name : String) : order.lookup name = fields.get? name :=
  Option.ext fun value => (lookup_eq_some_iff_mem h.1).trans (h.2 name value)

/-- Fields whose names differ are enumerated by their entries, in any order. -/
lemma enumeratedBy_of_perm {fields : Fields} {order : List (String × String)}
    (h : (fields.entries.map Prod.fst).Nodup) (horder : order.Perm fields.entries) :
    fields.EnumeratedBy order :=
  ⟨(horder.map Prod.fst).nodup_iff.2 h, fun _ _ =>
    horder.mem_iff.trans (lookup_eq_some_iff_mem h).symm⟩

/-- A new name is none of those that are there. -/
lemma nodup_insertNew {fields : Fields} (h : (fields.entries.map Prod.fst).Nodup)
    (name value : String) : ((fields.insertNew name value).entries.map Prod.fst).Nodup := by
  unfold insertNew
  split
  · exact h
  · next hnew =>
    have hnot : name ∉ fields.entries.map Prod.fst := by
      intro hmem
      obtain ⟨⟨_, v⟩, hentry, rfl⟩ := List.mem_map.1 hmem
      exact hnew (isSome_lookup_iff.2 ⟨v, hentry⟩)
    rw [List.map_append, List.nodup_append]
    refine ⟨h, by simp, fun other hother appended happended heq => hnot ?_⟩
    have hname : appended = name := List.mem_singleton.1 happended
    rw [← hname, ← heq]
    exact hother

lemma nodup_foldl_insertNew (entries : List (String × String)) {fields : Fields}
    (h : (fields.entries.map Prod.fst).Nodup) :
    ((entries.foldl (fun fields entry => fields.insertNew entry.1 entry.2)
      fields).entries.map Prod.fst).Nodup := by
  induction entries generalizing fields with
  | nil => exact h
  | cons entry entries ih => exact ih (nodup_insertNew h entry.1 entry.2)

/-- All fields can be enumerated. -/
lemma exists_enumeratedBy (fields : Fields) : ∃ order, fields.EnumeratedBy order := by
  have hempty : (Fields.empty.entries.map Prod.fst).Nodup := List.nodup_nil
  have hnodup := nodup_foldl_insertNew fields.entries hempty
  refine ⟨_, hnodup, fun name value => ?_⟩
  rw [← lookup_eq_some_iff_mem hnodup]
  have hget := get?_foldl_insertNew fields.entries .empty name
  rw [get?_empty, Option.none_or] at hget
  exact Eq.congr_left hget

end Fields

/-! ### What flattening adds -/

namespace Markup.Node

/-- What an element says, its attributes in the order in which they stand. -/
def said : Node → List (String × String)
  | text _ => []
  | element name attributes children =>
    attributes.entries.map (underName name) ++
      [(name, Text.trim (String.join (children.filterMap content?)))]

/-- The text of some nodes is what their text nodes hold, one after the other. -/
lemma ofList_textOf (nodes : List Node) :
    String.ofList (textOf nodes) = String.join (nodes.filterMap content?) := by
  induction nodes with
  | nil => rfl
  | cons node nodes ih =>
    cases node with
    | text content => simp [textOf, content?, ih, String.join_cons]
    | element name attributes children => simp [textOf, content?, List.filterMap_cons, ih]

/-- The same is found in what an element says, whatever the order of its attributes. -/
lemma Says.lookup {node : Node} (h : Says node entries) (key : String) :
    entries.lookup key = node.said.lookup key := by
  cases h with
  | element enumerated =>
    rw [said, List.lookup_append, List.lookup_append,
      lookup_underName_congr fun key => enumerated.lookup key]

/-- So it is in listings. -/
lemma lookup_flatten {nodes : List Node} {parts : List (List (String × String))}
    (h : List.Forall₂ Says nodes parts) (key : String) :
    parts.flatten.lookup key = (nodes.flatMap said).lookup key := by
  induction h with
  | nil => rfl
  | cons hsays _ ih =>
    rw [List.flatten_cons, List.flatMap_cons, List.lookup_append, List.lookup_append, ih,
      hsays.lookup]

/-- Every tree has a listing. -/
lemma exists_listing (nodes : List Node) :
    ∃ parts, List.Forall₂ Says (elements nodes) parts := by
  induction nodes using elements.induct with
  | case1 => exact ⟨[], by simp [elements]⟩
  | case2 content rest ih => simpa [elements] using ih
  | case3 name attributes children rest ihchildren ihrest =>
    obtain ⟨inside, hinside⟩ := ihchildren
    obtain ⟨behind, hbehind⟩ := ihrest
    obtain ⟨order, horder⟩ := attributes.exists_enumeratedBy
    rw [elements]
    exact ⟨_, .cons (.element horder) (List.rel_append hinside hbehind)⟩

/-- Text nodes stay where they are when attributes change places. -/
lemma Reordered.contents {nodes others : List Node} (h : Reordered nodes others) :
    nodes.filterMap content? = others.filterMap content? := by
  induction h with
  | nil => rfl
  | text content _ ih => simp [content?, ih]
  | element name _ _ _ _ ihbehind => simp [content?, List.filterMap_cons, ihbehind]

/-- Trees that differ in the order of attributes have a listing in common. -/
lemma Reordered.exists_listing {nodes others : List Node} (h : Reordered nodes others) :
    ∃ parts, List.Forall₂ Says (elements nodes) parts ∧
      List.Forall₂ Says (elements others) parts := by
  induction h with
  | nil => exact ⟨[], by simp [elements]⟩
  | text content _ ih => simpa [elements] using ih
  | @element attributes attributes' children children' _ _ name enumerated inside _ ihin ihbehind =>
    obtain ⟨parts, hparts, hparts'⟩ := ihin
    obtain ⟨behind, hbehind, hbehind'⟩ := ihbehind
    have hother : Says (.element name attributes' children')
        (attributes'.entries.map (underName name) ++
          [(name, Text.trim (String.join (children.filterMap content?)))]) := by
      rw [inside.contents]
      exact .element (Fields.enumeratedBy_of_perm enumerated.1 (.refl _))
    rw [elements, elements]
    exact ⟨_, .cons (.element enumerated) (List.rel_append hparts hbehind),
      .cons hother (List.rel_append hparts' hbehind')⟩

end Markup.Node

namespace EventInfo

/-- Flattening adds what the elements say, in document order. -/
lemma flattenInto_eq (nodes : List Node) (fields : Fields) :
    flattenInto nodes fields = ((Node.elements nodes).flatMap Node.said).foldl
      (fun fields entry => fields.insertNew entry.1 entry.2) fields := by
  induction nodes, fields using flattenInto.induct with
  | case1 fields => simp [flattenInto, Node.elements]
  | case2 content rest fields ih => simpa [flattenInto, Node.elements] using ih
  | case3 name attributes children rest fields own ihchildren _ ihrest =>
    have hattributes : addAttributes name attributes fields =
        (attributes.entries.map (Node.underName name)).foldl
          (fun fields entry => fields.insertNew entry.1 entry.2) fields := by
      simp [addAttributes, Node.underName, List.foldl_map]
    have hown : own = Text.trim (String.join (children.filterMap Node.content?)) := by
      rw [← Node.ofList_textOf, Text.trim, String.toList_ofList]
    rw [flattenInto, ihrest, ihchildren, Node.elements, List.flatMap_cons, List.flatMap_append,
      Node.said, List.foldl_append, List.foldl_append, List.foldl_append, hattributes, ← hown]
    rfl

/-- Under every name there is the first entry of the name in a listing. -/
lemma get?_ofNode {node : Node} {parts : List (List (String × String))}
    (h : List.Forall₂ Node.Says (Node.elements node.children) parts) (key : String) :
    (ofNode node).get? key = parts.flatten.lookup key := by
  have hget := get?_foldl_insertNew ((Node.elements node.children).flatMap Node.said) .empty key
  rw [Fields.get?_empty, Option.none_or, ← Node.lookup_flatten h] at hget
  rw [get?, ofNode, flattenInto_eq]
  exact hget

/-- No name has two fields. -/
lemma nodup_ofNode (node : Node) : ((ofNode node).fields.entries.map Prod.fst).Nodup := by
  rw [ofNode, flattenInto_eq]
  exact Fields.nodup_foldl_insertNew _ List.nodup_nil

/-- For every tree and every order in which the attributes of its elements may be enumerated, the
fields of the flattened element are the first entries of their names in the listing, and no others.
There is always a listing, and a tree that enumerates its attributes in another order has the same
fields and the same text. -/
theorem ofNode_firsts (node : Node) :
    (∃ parts, List.Forall₂ Node.Says (Node.elements node.children) parts) ∧
    (∀ parts, List.Forall₂ Node.Says (Node.elements node.children) parts →
      ((ofNode node).fields.entries.map Prod.fst).Nodup ∧
      ∀ key,
        (ofNode node).get? key = parts.flatten.lookup key ∧
        ((ofNode node).contains key ↔ ∃ value, (key, value) ∈ parts.flatten) ∧
        ∀ value, (key, value) ∈ (ofNode node).fields.entries ↔
          parts.flatten.lookup key = some value) ∧
    ∀ other : Node, Node.Reordered node.children other.children →
      (∀ key, (ofNode other).get? key = (ofNode node).get? key) ∧
      (ofNode other).text = (ofNode node).text := by
  refine ⟨Node.exists_listing _, fun parts hparts => ⟨nodup_ofNode node, fun key => ?_⟩,
    fun other hother => ⟨fun key => ?_, ?_⟩⟩
  · have hget := get?_ofNode hparts key
    refine ⟨hget, ?_, fun value => ?_⟩
    · rw [← isSome_lookup_iff, ← hget]
      rfl
    · rw [← lookup_eq_some_iff_mem (nodup_ofNode node), ← hget]
      rfl
  · obtain ⟨parts, hparts, hparts'⟩ := hother.exists_listing
    rw [get?_ofNode hparts, get?_ofNode hparts']
  · rw [ofNode, ofNode, Node.innerText, Node.innerText, Node.ofList_textOf, Node.ofList_textOf,
      hother.contents]

/-- An attribute and an element may share a name: the one that comes first in the document counts,
be it the attribute (`a.b`) or the element (`z.k`). The element `a` holds its text in two nodes and
comes a second time inside `z`, and its attributes stand in one order in the tree, in the other one
in the listing. -/
theorem ofNode_firsts_instances :
    ∃ (node other : Node) (parts : List (List (String × String))),
      List.Forall₂ Node.Says (Node.elements node.children) parts ∧
      Node.Reordered node.children other.children ∧
      parts.flatten = [("a.c", "2"), ("a.b", "1"), ("a", "t1"), ("e", ""), ("a.b", "late"),
        ("z.k", "early"), ("z.k", "late"), ("z", ""), ("a.b", "9"), ("a", "again")] ∧
      (ofNode node).get? "a.b" = some "1" ∧ (ofNode node).get? "z.k" = some "early" ∧
      (ofNode node).get? "a" = some "t1" ∧ (ofNode node).contains "e" ∧
      ¬ (ofNode node).contains "b" ∧ (ofNode other).get? "a.c" = some "2" := by
  let behind : List Node :=
    [.element "a.b" {} [.text "late"], .element "z.k" {} [.text "early"],
      .element "z" ⟨[("k", "late")]⟩ [.element "a" ⟨[("b", "9")]⟩ [.text "again"]]]
  let inside : List Node := [.text " t", .element "e" {} [], .text "1 "]
  let node : Node :=
    .element "eventInfo" {} (.element "a" ⟨[("b", "1"), ("c", "2")]⟩ inside :: behind)
  let other : Node :=
    .element "eventInfo" {} (.element "a" ⟨[("c", "2"), ("b", "1")]⟩ inside :: behind)
  have hpart {name : String} {attributes : Fields} {children : List Node}
      (order part : List (String × String))
      (h : (attributes.entries.map Prod.fst).Nodup ∧ order.Perm attributes.entries)
      (heq : order.map (Node.underName name) ++
        [(name, Text.trim (String.join (children.filterMap Node.content?)))] = part) :
      Node.Says (.element name attributes children) part :=
    heq ▸ .element (Fields.enumeratedBy_of_perm h.1 h.2)
  have hsays : List.Forall₂ Node.Says (Node.elements node.children)
      [[("a.c", "2"), ("a.b", "1"), ("a", "t1")], [("e", "")], [("a.b", "late")],
        [("z.k", "early")], [("z.k", "late"), ("z", "")], [("a.b", "9"), ("a", "again")]] := by
    simp only [node, behind, inside, Node.children, Node.elements, List.nil_append,
      List.cons_append]
    exact .cons (hpart [("c", "2"), ("b", "1")] _ (by decide) (by decide +kernel)) <|
      .cons (hpart [] _ (by decide) (by decide +kernel)) <|
      .cons (hpart [] _ (by decide) (by decide +kernel)) <|
      .cons (hpart [] _ (by decide) (by decide +kernel)) <|
      .cons (hpart [("k", "late")] _ (by decide) (by decide +kernel)) <|
      .cons (hpart [("b", "9")] _ (by decide) (by decide +kernel)) .nil
  have hsame {fields : Fields} (h : (fields.entries.map Prod.fst).Nodup) :
      fields.EnumeratedBy fields.entries := Fields.enumeratedBy_of_perm h (.refl _)
  have hinside : Node.Reordered inside inside :=
    .text " t" (.element "e" (hsame (by decide)) .nil (.text "1 " .nil))
  have hbehind : Node.Reordered behind behind :=
    .element "a.b" (hsame (by decide)) (.text "late" .nil) <|
      .element "z.k" (hsame (by decide)) (.text "early" .nil) <|
      .element "z" (hsame (by decide))
        (.element "a" (hsame (by decide)) (.text "again" .nil) .nil) .nil
  have hreordered : Node.Reordered node.children other.children :=
    .element "a" (Fields.enumeratedBy_of_perm (by decide) (by decide)) hinside hbehind
  obtain ⟨-, hfirsts, hother⟩ := ofNode_firsts node
  have hget := fun key => ((hfirsts _ hsays).2 key).1
  have hcontains := fun key => ((hfirsts _ hsays).2 key).2.1
  refine ⟨node, other, _, hsays, hreordered, rfl, (hget _).trans (by decide),
    (hget _).trans (by decide), (hget _).trans (by decide), (hcontains _).2 ⟨"", by decide⟩,
    fun h => ?_, ((hother other hreordered).1 _).trans ((hget _).trans (by decide))⟩
  obtain ⟨value, hvalue⟩ := (hcontains _).1 h
  simp at hvalue

end EventInfo

end EventFeed
