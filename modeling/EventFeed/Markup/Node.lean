import EventFeed.Fields

/-!
# Document trees

The tree of a document: elements with attributes and children, and the text nodes between them.
Names are local names, without the part that names a vocabulary. The text of an element is what its
text nodes hold, one after the other; elements inside it do not count.
-/

namespace EventFeed.Markup

/-- A text node or an element. -/
inductive Node where
  | text (content : String)
  | element (name : String) (attributes : Fields) (children : List Node)
  deriving Repr, Inhabited

namespace Node

/-- The name of an element. -/
def name? : Node → Option String
  | text _ => none
  | element name _ _ => some name

/-- The attributes of an element. -/
def attributes : Node → Fields
  | text _ => {}
  | element _ attributes _ => attributes

/-- The children of an element. -/
def children : Node → List Node
  | text _ => []
  | element _ _ children => children

/-- What the text nodes of a list of nodes hold. -/
def textOf : List Node → List Char
  | [] => []
  | text content :: rest => content.toList ++ textOf rest
  | element _ _ _ :: rest => textOf rest

/-- The text directly inside an element. -/
def innerText (node : Node) : String :=
  String.ofList (textOf node.children)

/-- The first child element of a name. -/
def child? (node : Node) (name : String) : Option Node :=
  node.children.find? fun child => child.name? == some name

end Node

end EventFeed.Markup
