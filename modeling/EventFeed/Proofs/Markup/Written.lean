import Mathlib.Tactic.Lemma
import EventFeed.Markup.Reader
import EventFeed.Text.Blank

/-!
# Documents written out

How documents are written: an element has a start tag with its attributes, its text, its child
elements and an end tag, and the four characters that could be taken for markup are written by name.
The parts carry what makes them writable: a text holds only characters that documents may hold, a
name has no colon, the attributes of an element have names of their own.

`Forest.nodes` is what a reader should make of such a document, and `Forest.entries` is what it
says, in the order in which it says it.
-/

namespace EventFeed.Markup

/-! ### Texts -/

/-- A text of characters that a document of version 1.0 may hold. -/
structure Content where
  text : String
  allowed : text.toList.all Version.one.allows

/-- How a character is written in text and in attribute values. -/
def escapeChar (c : Char) : List Char :=
  if c = '&' then "&amp;".toList
  else if c = '<' then "&lt;".toList
  else if c = '>' then "&gt;".toList
  else if c = '\x22' then "&quot;".toList
  else [c]

/-- How characters are written in text and in attribute values. -/
def escape (cs : List Char) : List Char :=
  cs.flatMap escapeChar

@[simp] lemma escape_nil : escape [] = [] := rfl

@[simp] lemma escape_cons (c : Char) (cs : List Char) :
    escape (c :: cs) = escapeChar c ++ escape cs := rfl

namespace Content

/-- The text as it is written. -/
def written (content : Content) : List Char :=
  escape content.text.toList

/-- The text node that is made of the text, unless it is white space alone. -/
def nodes (content : Content) : List Node :=
  if content.text.toList.all isSpace then [] else [.text content.text]

end Content

/-! ### Names -/

/-- Whether the characters are a name without a colon. -/
def isPlain : List Char → Bool
  | [] => false
  | c :: cs => isNameStart c && c != ':' && cs.all fun d => isNameChar d && d != ':'

/-- A name without a colon. -/
structure PlainName where
  text : String
  plain : isPlain text.toList

/-- The characters of a name. -/
abbrev PlainName.written (name : PlainName) : List Char :=
  name.text.toList

/-! ### Attributes -/

/-- The attributes of an element. None of them binds a vocabulary, and no name occurs twice. -/
structure Attributes where
  entries : List (PlainName × Content) := []
  distinct : (entries.map fun entry => entry.1.text).Nodup
  proper : ∀ entry ∈ entries, entry.1.text ≠ "xmlns"

/-- An attribute as it is written. -/
def writtenAttribute (entry : PlainName × Content) : List Char :=
  ' ' :: (entry.1.written ++ '=' :: '\x22' :: (entry.2.written ++ ['\x22']))

namespace Attributes

/-- No attributes. -/
def empty : Attributes where
  entries := []
  distinct := .nil
  proper := List.forall_mem_nil _

/-- Attributes as they are written. -/
def written (attributes : Attributes) : List Char :=
  attributes.entries.flatMap writtenAttribute

/-- The values under their names. -/
def fields (attributes : Attributes) : Fields :=
  ⟨attributes.entries.map fun entry => (entry.1.text, entry.2.text)⟩

end Attributes

/-! ### Elements -/

/-- An element without its child elements. -/
structure Element where
  name : PlainName
  attributes : Attributes := .empty
  text : Content

namespace Element

/-- The start tag without its less-than sign. -/
def startTag (e : Element) : List Char :=
  e.name.written ++ (e.attributes.written ++ ['>'])

/-- The end tag without its less-than sign. -/
def endTag (e : Element) : List Char :=
  '/' :: (e.name.written ++ ['>'])

/-- What the element says by itself: its attributes, each under its own name behind that of the
element, and its trimmed text. -/
def entries (e : Element) : List (String × String) :=
  e.attributes.entries.map (fun entry => (e.name.text ++ "." ++ entry.1.text, entry.2.text)) ++
    [(e.name.text, Text.trim e.text.text)]

end Element

/-- Elements that follow one another, each with its child elements behind its text. -/
inductive Forest where
  | nil
  | cons (element : Element) (children rest : Forest)

namespace Forest

/-- A single element. -/
def one (element : Element) (children : Forest := nil) : Forest :=
  cons element children nil

/-- The elements as they are written. -/
def written : Forest → List Char
  | nil => []
  | cons e children rest =>
    '<' :: e.startTag ++ (e.text.written ++ (children.written ++ ('<' :: e.endTag ++ rest.written)))

/-- The nodes that the elements stand for. -/
def nodes : Forest → List Node
  | nil => []
  | cons e children rest =>
    .element e.name.text e.attributes.fields (e.text.nodes ++ children.nodes) :: rest.nodes

/-- The elements in document order. -/
def elements : Forest → List Element
  | nil => []
  | cons e children rest => e :: (children.elements ++ rest.elements)

/-- What the elements say, in document order. -/
def entries (forest : Forest) : List (String × String) :=
  forest.elements.flatMap Element.entries

@[simp] lemma entries_nil : nil.entries = [] := rfl

@[simp] lemma entries_cons (e : Element) (children rest : Forest) :
    (cons e children rest).entries = e.entries ++ (children.entries ++ rest.entries) := by
  simp [entries, elements]

end Forest

/-- The node that an element with child elements stands for. -/
def Element.node (e : Element) (children : Forest) : Node :=
  .element e.name.text e.attributes.fields (e.text.nodes ++ children.nodes)

end EventFeed.Markup
