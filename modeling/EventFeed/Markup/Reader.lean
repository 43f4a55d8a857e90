import EventFeed.Markup.Alphabet
import EventFeed.Markup.Encoding
import EventFeed.Markup.Node
import EventFeed.Text.Numeral

/-!
# Reading documents

A reader takes a document one character at a time. It keeps the elements that are open, the run of
text since the last markup, the entities declared so far, and its place: what it is in the middle
of. A character either leads to the next state of the reader or shows that the document is
malformed.

A reference to a declared entity in text is the one thing that cannot be answered at once: the value
is read in the place of the reference, so it may hold markup. `Reader.feed` reads such values with a
budget, and no more than `maxExpansions` references are read this way between two characters of the
document itself.

A run of text ends at any markup. A run of white space alone is dropped; a `CDATA` section is a text
node of its own even when it is blank. There may be several root elements, of which the first
counts.
-/

namespace EventFeed.Markup

/-! ### Names -/

/-- The name of an element or attribute, with the vocabulary mark that may stand before
its colon. -/
structure QName where
  space : Option (List Char)
  base : List Char
  deriving DecidableEq, Repr, Inhabited

namespace QName

/-- The name that is written by the characters: at most one colon, with something on either side. -/
def ofChars? (cs : List Char) : Option QName :=
  let first := cs.takeWhile (· != ':')
  match cs.dropWhile (· != ':') with
  | [] => if first.isEmpty then none else some ⟨none, first⟩
  | _ :: rest => if first.isEmpty || rest.isEmpty then none else some ⟨some first, rest⟩

/-- Whether `c` may follow the characters `read` (last one first) of a name. -/
def allows (read : List Char) (c : Char) : Bool :=
  if read.isEmpty then isNameStart c && c != ':'
  else if c == ':' then !read.contains ':'
  else isNameChar c

/-- Whether the name is the plain word `word`. -/
def isWord (name : QName) (word : String) : Bool :=
  name.space.isNone && name.base == word.toList

end QName

/-- The mark under which vocabularies are named. -/
def bindingMark : List Char := "xmlns".toList

/-- The mark of the document language itself. -/
def languageMark : List Char := "xml".toList

/-- The vocabulary of the document language. -/
def languageUri : List Char := "http:".toList ++ "//www.w3.org/XML/1998/namespace".toList

/-- The vocabulary of names of vocabularies. -/
def bindingUri : List Char := "http:".toList ++ "//www.w3.org/2000/xmlns/".toList

/-! ### References -/

/-- The character with a code point, when there is one. -/
def charOf? (n : Nat) : Option Char :=
  if n.isValidChar then some (Char.ofNat n) else none

/-- The character of a numeric reference, given what follows the `#`. Only the value of an entity
can write a plus sign there. -/
def numericReference? (version : Version) (digits : List Char) : Option Char :=
  let value? :=
    match digits with
    | 'x' :: hex => Text.numeral? 16 0xFFFFFFFF hex
    | _ => Text.numeral? 10 0xFFFFFFFF digits
  (value?.bind charOf?).filter version.allows

/-- The characters that may be referred to by name in every document. -/
def predefined : List (List Char × Char) :=
  [("lt".toList, '<'), ("gt".toList, '>'), ("amp".toList, '&'), ("apos".toList, '\x27'),
   ("quot".toList, '\x22')]

/-- What a reference stands for: one character, or the value of a declared entity. -/
inductive Meaning where
  | char (c : Char)
  | entity (value : List Char)

/-- The declared entities, the first declaration of a name in front of later ones. A parameter
entity has a percent sign before its name. -/
abbrev Entities := List (List Char × List Char)

/-- What the reference `name` stands for. -/
def meaning? (version : Version) (entities : Entities) (name : List Char) : Option Meaning :=
  match name with
  | '#' :: digits => (numericReference? version digits).map .char
  | _ =>
    match predefined.lookup name with
    | some c => some (.char c)
    | none => (entities.lookup name).map .entity

/-- Whether `c` may follow the characters `read` (last one first) of a reference. -/
def referenceAllows (read : List Char) (c : Char) : Bool :=
  if read.isEmpty then isNameStart c || c == '#' else isNameChar c

/-! ### Places -/

/-- A start tag that is being read. -/
structure Tag where
  name : QName
  attributes : List (QName × List Char) := []
  bindings : List (List Char) := []

/-- Where the reader is inside a start tag. -/
inductive TagPlace where
  /-- Between attributes; `spaced` when white space has been read, so that one may begin. -/
  | gap (spaced : Bool)
  | slash
  | name (read : List Char)
  | afterName (name : QName)
  | beforeValue (name : QName)
  | value (name : QName) (quote : Char) (read : List Char)
  | reference (name : QName) (quote : Char) (read ref : List Char)

/-- The parts of a document declaration, in their order. -/
inductive HeadPart where
  | version
  | encoding
  | standalone
  deriving DecidableEq

/-- Where the reader is inside the document declaration. -/
inductive HeadPlace where
  | gap (last : Option HeadPart) (spaced : Bool)
  | name (last : Option HeadPart) (read : List Char)
  | afterName (part : HeadPart)
  | beforeValue (part : HeadPart)
  | value (part : HeadPart) (quote : Char) (read : List Char)
  | reference (part : HeadPart) (quote : Char) (read ref : List Char)
  | question

/-- Where the reader is inside the document type. -/
inductive TypePlace where
  | outside
  | quoted (quote : Char)
  | opened
  | bang
  | dash
  | comment (dashes : Nat)
  | instruction (closing : Bool)
  | kind (read : List Char)
  | beforeName
  | beforeParameterName
  | name (read : List Char)
  | beforeValue (name : List Char)
  | value (name : List Char) (quote : Char) (read : List Char)
  | valueMark (name : List Char) (quote : Char) (read : List Char)
  | valueNumber (name : List Char) (quote : Char) (read digits : List Char)
  | valueParameter (name : List Char) (quote : Char) (read ref : List Char)
  | skip
  | skipQuoted (quote : Char)
  | parameter (ref : List Char)

/-- What the reader is in the middle of. Characters that are collected are kept last one first. -/
inductive Place where
  /-- Between markup; `brackets` closing brackets (at most two) have just been read. -/
  | text (brackets : Nat)
  | reference (ref : List Char)
  | opened
  | declared (read : List Char)
  | comment (dashes : Nat)
  | verbatim (brackets : Nat) (read : List Char)
  | instruction (read : List Char) (closing : Bool)
  | instructionData (closing : Bool)
  | startName (read : List Char)
  | endName (read : List Char)
  | endGap (name : QName)
  | tag (tag : Tag) (place : TagPlace)
  | head (place : HeadPlace)
  | docType (place : TypePlace)

/-- How far the document has come: nothing read, something before the first element, a document
type, an element. -/
inductive Stage where
  | untouched
  | prolog
  | typed
  | body
  deriving DecidableEq, Repr

/-- An element whose end tag has not been read, with its children so far, last one first. -/
structure OpenElement where
  name : QName
  bindings : List (List Char)
  attributes : Fields
  children : List Node := []

/-- The state of a reader. -/
structure Reader where
  version : Version := .one
  encoding : Encoding := .utf8
  marked : Bool := false
  stage : Stage := .untouched
  entities : Entities := []
  opened : List OpenElement := []
  run : List Char := []
  root : Option Node := none
  place : Place := .text 0
  expansions : Nat := 0

/-- What a character leads to: the next state, or a state that first reads a value in its place. -/
inductive Next where
  | read (reader : Reader)
  | reread (reader : Reader) (value : List Char)

namespace Reader

/-- Go on at another place. -/
def goTo (r : Reader) (place : Place) : Option Next :=
  some (.read { r with place })

/-- Note that something has been read before the first element. -/
def touch (r : Reader) : Reader :=
  if r.stage = .untouched then { r with stage := .prolog } else r

/-- Add a node to the innermost open element, or as a root. -/
def add (r : Reader) (node : Node) : Reader :=
  match r.opened with
  | [] => { r with root := r.root.or (some node) }
  | element :: rest =>
    { r with opened := { element with children := node :: element.children } :: rest }

/-- End the run of text: it becomes a text node unless it is white space alone. -/
def endRun (r : Reader) : Reader :=
  if r.run.all isSpace then { r with run := [] }
  else ({ r with run := [] } : Reader).add (.text (String.ofList r.run.reverse))

/-- Whether a vocabulary mark is bound here or by the tag that is being read. -/
def isBound (r : Reader) (tag : Tag) (mark : List Char) : Bool :=
  mark == languageMark || mark == bindingMark || tag.bindings.contains mark ||
    r.opened.any fun element => element.bindings.contains mark

/-! ### Text -/

/-- A character between markup. -/
def stepText (r : Reader) (brackets : Nat) (c : Char) : Option Next :=
  if c == '<' then r.endRun.goTo .opened
  else if r.opened.isEmpty then
    if isSpace c then r.touch.goTo (.text 0)
    else if c == '\uFEFF' && r.stage = .untouched && !r.marked then
      ({ r with marked := true } : Reader).goTo (.text 0)
    else none
  else if c == '&' then r.goTo (.reference [])
  else if c == '>' && 2 ≤ brackets then none
  else if r.version.allowsLiteral c then
    ({ r with run := c :: r.run } : Reader).goTo
      (.text (if c == ']' then min (brackets + 1) 2 else 0))
  else none

/-- A character of a reference in text. -/
def stepReference (r : Reader) (ref : List Char) (c : Char) : Option Next :=
  if c == ';' then
    match meaning? r.version r.entities ref.reverse with
    | none => none
    | some (.char c) => ({ r with run := c :: r.run } : Reader).goTo (.text 0)
    | some (.entity []) => r.goTo (.text 0)
    | some (.entity value) => some (.reread { r with place := .text 0 } value)
  else if referenceAllows ref c then r.goTo (.reference (c :: ref))
  else none

/-! ### Comments, sections and instructions -/

/-- The character behind a less-than sign. -/
def stepOpened (r : Reader) (c : Char) : Option Next :=
  if c == '?' then r.goTo (.instruction [] false)
  else if c == '!' then r.goTo (.declared [])
  else if c == '/' then if r.opened.isEmpty then none else r.goTo (.endName [])
  else if QName.allows [] c then ({ r with stage := .body } : Reader).goTo (.startName [c])
  else none

/-- A character behind `<!`: the begin of a comment, a `CDATA` section or a document type. -/
def stepDeclared (r : Reader) (read : List Char) (c : Char) : Option Next :=
  let word := read ++ [c]
  if word == "--".toList then r.touch.goTo (.comment 0)
  else if word == "[CDATA[".toList then
    if r.opened.isEmpty then none else r.goTo (.verbatim 0 [])
  else if word == "DOCTYPE".toList then
    if r.stage = .untouched || r.stage = .prolog then
      ({ r with stage := .typed } : Reader).goTo (.docType .outside)
    else none
  else if ["--", "[CDATA[", "DOCTYPE"].any fun opening => word.isPrefixOf opening.toList then
    r.goTo (.declared word)
  else none

/-- The dashes that have just been read of the end of a comment; nothing but the end may
follow two. -/
def commentDashes? (dashes : Nat) (c : Char) : Option Nat :=
  if 2 ≤ dashes then none else some (if c == '-' then dashes + 1 else 0)

/-- A character of a comment. -/
def stepComment (r : Reader) (dashes : Nat) (c : Char) : Option Next :=
  if 2 ≤ dashes && c == '>' then r.goTo (.text 0)
  else if r.version.allows c then (commentDashes? dashes c).bind fun n => r.goTo (.comment n)
  else none

/-- A character of a `CDATA` section. -/
def stepVerbatim (r : Reader) (brackets : Nat) (read : List Char) (c : Char) : Option Next :=
  if 2 ≤ brackets && c == '>' then
    (r.add (.text (String.ofList (read.drop 2).reverse))).goTo (.text 0)
  else if r.version.allows c then
    r.goTo (.verbatim (if c == ']' then min (brackets + 1) 2 else 0) (c :: read))
  else none

/-- Whether an instruction name is the reserved one, in any case. -/
def isReserved (name : List Char) : Bool :=
  name.map Char.toLower == languageMark

/-- A character of the name of an instruction. -/
def stepInstruction (r : Reader) (read : List Char) (closing : Bool) (c : Char) : Option Next :=
  if closing then
    if c == '>' && !read.isEmpty && !isReserved read.reverse then r.touch.goTo (.text 0) else none
  else if isSpace c then
    if read.reverse == languageMark && r.stage = .untouched then r.goTo (.head (.gap none true))
    else if isReserved read.reverse then none
    else r.touch.goTo (.instructionData false)
  else if c == '?' then r.goTo (.instruction read true)
  else if if read.isEmpty then isNameStart c else isNameChar c then
    r.goTo (.instruction (c :: read) false)
  else none

/-- A character of the data of an instruction. -/
def stepInstructionData (r : Reader) (closing : Bool) (c : Char) : Option Next :=
  if closing && c == '>' then r.goTo (.text 0)
  else if r.version.allows c then r.goTo (.instructionData (c == '?'))
  else none

/-! ### Tags -/

/-- The attributes of a tag under their local names; of two that share one, the later one counts. -/
def Tag.fields (tag : Tag) : Fields :=
  tag.attributes.foldl
    (fun fields entry => fields.set (String.ofList entry.1.base) (String.ofList entry.2))
    {}

/-- Note an attribute: a binding of a vocabulary mark, or an attribute proper. -/
def Tag.note? (tag : Tag) (name : QName) (value : List Char) : Option Tag :=
  if name.space = some bindingMark then
    if name.base == bindingMark || (name.base == languageMark && value != languageUri) ||
        value.isEmpty then none
    else some { tag with bindings := name.base :: tag.bindings }
  else if name.space = none && name.base == bindingMark then
    if [bindingMark, languageMark, languageUri, bindingUri].contains value then none else some tag
  else some { tag with attributes := tag.attributes ++ [(name, value)] }

/-- Whether every vocabulary mark of the tag is bound, and the one of the element is no reserved
one. -/
def tagBound (r : Reader) (tag : Tag) : Bool :=
  (match tag.name.space with
    | none => true
    | some mark => mark != languageMark && mark != bindingMark && r.isBound tag mark) &&
  tag.attributes.all fun entry =>
    match entry.1.space with
    | none => true
    | some mark => r.isBound tag mark

/-- The end of a start tag: the element is open. -/
def openElement (r : Reader) (tag : Tag) : Option Next :=
  if r.tagBound tag then
    some (.read { r with
      opened := ⟨tag.name, tag.bindings, Tag.fields tag, []⟩ :: r.opened
      place := .text 0 })
  else none

/-- The end of a tag that is both start and end. -/
def emptyElement (r : Reader) (tag : Tag) : Option Next :=
  if r.tagBound tag then
    (r.add (.element (String.ofList tag.name.base) (Tag.fields tag) [])).goTo (.text 0)
  else none

/-- The end tag `name`: it must close the innermost open element. -/
def closeElement (r : Reader) (name : QName) : Option Next :=
  match r.opened with
  | [] => none
  | element :: rest =>
    if element.name = name then
      (({ r with opened := rest } : Reader).add
        (.element (String.ofList name.base) element.attributes element.children.reverse)).goTo
          (.text 0)
    else none

/-- A character of the name in a start tag. -/
def stepStartName (r : Reader) (read : List Char) (c : Char) : Option Next :=
  if isSpace c || c == '/' || c == '>' then
    (QName.ofChars? read.reverse).bind fun name =>
      let tag : Tag := { name }
      if c == '>' then r.openElement tag
      else if c == '/' then r.goTo (.tag tag .slash)
      else r.goTo (.tag tag (.gap true))
  else if QName.allows read c then r.goTo (.startName (c :: read))
  else none

/-- A character of the name in an end tag. -/
def stepEndName (r : Reader) (read : List Char) (c : Char) : Option Next :=
  if isSpace c || c == '>' then
    (QName.ofChars? read.reverse).bind fun name =>
      if c == '>' then r.closeElement name else r.goTo (.endGap name)
  else if QName.allows read c then r.goTo (.endName (c :: read))
  else none

/-- A character behind the name in an end tag. -/
def stepEndGap (r : Reader) (name : QName) (c : Char) : Option Next :=
  if isSpace c then r.goTo (.endGap name)
  else if c == '>' then r.closeElement name
  else none

/-- A character of a start tag behind its name. -/
def stepTag (r : Reader) (tag : Tag) (place : TagPlace) (c : Char) : Option Next :=
  match place with
  | .gap spaced =>
    if isSpace c then r.goTo (.tag tag (.gap true))
    else if c == '>' then r.openElement tag
    else if c == '/' then r.goTo (.tag tag .slash)
    else if spaced && QName.allows [] c then r.goTo (.tag tag (.name [c]))
    else none
  | .slash => if c == '>' then r.emptyElement tag else none
  | .name read =>
    if isSpace c || c == '=' then
      (QName.ofChars? read.reverse).bind fun name =>
        if (tag.attributes.map Prod.fst).contains name then none
        else if c == '=' then r.goTo (.tag tag (.beforeValue name))
        else r.goTo (.tag tag (.afterName name))
    else if QName.allows read c then r.goTo (.tag tag (.name (c :: read)))
    else none
  | .afterName name =>
    if isSpace c then r.goTo (.tag tag (.afterName name))
    else if c == '=' then r.goTo (.tag tag (.beforeValue name))
    else none
  | .beforeValue name =>
    if isSpace c then r.goTo (.tag tag (.beforeValue name))
    else if c == '\x22' || c == '\x27' then r.goTo (.tag tag (.value name c []))
    else none
  | .value name quote read =>
    if c == quote then
      (Tag.note? tag name read.reverse).bind fun tag => r.goTo (.tag tag (.gap false))
    else if c == '&' then r.goTo (.tag tag (.reference name quote read []))
    else if c != '<' && r.version.allowsLiteral c then
      r.goTo (.tag tag (.value name quote (c :: read)))
    else none
  | .reference name quote read ref =>
    if c == ';' then
      match meaning? r.version r.entities ref.reverse with
      | none => none
      | some (.char c) => r.goTo (.tag tag (.value name quote (c :: read)))
      | some (.entity value) => r.goTo (.tag tag (.value name quote (value.reverse ++ read)))
    else if referenceAllows ref c then r.goTo (.tag tag (.reference name quote read (c :: ref)))
    else none

/-! ### The document declaration -/

/-- The part that is named, if it may come after the last one. -/
def HeadPart.next? (last : Option HeadPart) (name : QName) : Option HeadPart :=
  match last with
  | none => if name.isWord "version" then some .version else none
  | some .version =>
    if name.isWord "encoding" then some .encoding
    else if name.isWord "standalone" then some .standalone
    else none
  | some .encoding => if name.isWord "standalone" then some .standalone else none
  | some .standalone => none

/-- Take over the value of a part. -/
def declare? (r : Reader) (part : HeadPart) (value : List Char) : Option Reader :=
  match part with
  | .version =>
    if value == "1.0".toList then some { r with version := .one }
    else if value == "1.1".toList then some { r with version := .oneOne }
    else none
  | .encoding =>
    match Encoding.ofLabel? (String.ofList value) with
    | none => none
    | some encoding =>
      if r.marked && encoding != .utf8 then none else some { r with encoding }
  | .standalone => if value == "yes".toList || value == "no".toList then some r else none

/-- A character of the document declaration. -/
def stepHead (r : Reader) (place : HeadPlace) (c : Char) : Option Next :=
  match place with
  | .gap last spaced =>
    if isSpace c then r.goTo (.head (.gap last true))
    else if c == '?' && last.isSome then r.goTo (.head .question)
    else if spaced && QName.allows [] c then r.goTo (.head (.name last [c]))
    else none
  | .question => if c == '>' then r.touch.goTo (.text 0) else none
  | .name last read =>
    if isSpace c || c == '=' then
      ((QName.ofChars? read.reverse).bind (HeadPart.next? last)).bind fun part =>
        if c == '=' then r.goTo (.head (.beforeValue part)) else r.goTo (.head (.afterName part))
    else if QName.allows read c then r.goTo (.head (.name last (c :: read)))
    else none
  | .afterName part =>
    if isSpace c then r.goTo (.head (.afterName part))
    else if c == '=' then r.goTo (.head (.beforeValue part))
    else none
  | .beforeValue part =>
    if isSpace c then r.goTo (.head (.beforeValue part))
    else if c == '\x22' || c == '\x27' then r.goTo (.head (.value part c []))
    else none
  | .value part quote read =>
    if c == quote then
      (r.declare? part read.reverse).bind fun r => r.goTo (.head (.gap (some part) false))
    else if c == '&' then r.goTo (.head (.reference part quote read []))
    else if c != '<' && r.version.allowsLiteral c then
      r.goTo (.head (.value part quote (c :: read)))
    else none
  | .reference part quote read ref =>
    if c == ';' then
      match meaning? r.version [] ref.reverse with
      | some (.char c) => r.goTo (.head (.value part quote (c :: read)))
      | _ => none
    else if referenceAllows ref c then r.goTo (.head (.reference part quote read (c :: ref)))
    else none

/-! ### The document type -/

/-- Declare an entity unless its name is declared already. -/
def declareEntity (r : Reader) (name value : List Char) : Reader :=
  if (r.entities.lookup name).isSome then r
  else { r with entities := r.entities ++ [(name, value)] }

/-- Whether a character is a quotation mark. -/
def isQuote (c : Char) : Bool :=
  c == '\x22' || c == '\x27'

/-- A character of the document type. Declarations other than those of entities are skipped. -/
def stepType (r : Reader) (place : TypePlace) (c : Char) : Option Next :=
  match place with
  | .outside =>
    if c == '>' then r.goTo (.text 0)
    else if c == '<' then r.goTo (.docType .opened)
    else if c == '%' then r.goTo (.docType (.parameter ['%']))
    else if isQuote c then r.goTo (.docType (.quoted c))
    else r.goTo (.docType .outside)
  | .quoted quote => r.goTo (.docType (if c == quote then .outside else .quoted quote))
  | .opened =>
    if c == '!' then r.goTo (.docType .bang)
    else if c == '?' then r.goTo (.docType (.instruction false))
    else if isSpace c || isNameChar c || c == '/' then r.goTo (.docType .outside)
    else none
  | .bang =>
    if c == '-' then r.goTo (.docType .dash)
    else if c == 'E' || c == 'A' || c == 'N' then r.goTo (.docType (.kind [c]))
    else none
  | .dash => if c == '-' then r.goTo (.docType (.comment 0)) else none
  | .comment dashes =>
    if 2 ≤ dashes && c == '>' then r.goTo (.docType .outside)
    else (commentDashes? dashes c).bind fun n => r.goTo (.docType (.comment n))
  | .instruction closing =>
    if closing && c == '>' then r.goTo (.docType .outside)
    else r.goTo (.docType (.instruction (c == '?')))
  | .kind read =>
    if isSpace c then
      let kind := read.reverse
      if kind == "ENTITY".toList then r.goTo (.docType .beforeName)
      else if ["NOTATION", "ELEMENT", "ATTLIST"].any fun word => kind == word.toList then
        r.goTo (.docType .skip)
      else none
    else if c.isUpper then r.goTo (.docType (.kind (c :: read)))
    else none
  | .beforeName =>
    if isSpace c then r.goTo (.docType .beforeName)
    else if c == '%' then r.goTo (.docType .beforeParameterName)
    else if isNameStart c then r.goTo (.docType (.name [c]))
    else none
  | .beforeParameterName =>
    if isSpace c then r.goTo (.docType .beforeParameterName)
    else if isNameStart c then r.goTo (.docType (.name [c, '%']))
    else none
  | .name read =>
    if isSpace c then r.goTo (.docType (.beforeValue read.reverse))
    else if isNameChar c then r.goTo (.docType (.name (c :: read)))
    else none
  | .beforeValue name =>
    if isSpace c then r.goTo (.docType (.beforeValue name))
    else if c == 'S' || c == 'P' then (r.declareEntity name []).goTo (.docType .skip)
    else if isQuote c then r.goTo (.docType (.value name c []))
    else none
  | .value name quote read =>
    if c == quote then (r.declareEntity name read.reverse).goTo (.docType .skip)
    else if c == '&' then r.goTo (.docType (.valueMark name quote read))
    else if c == '%' then r.goTo (.docType (.valueParameter name quote read ['%']))
    else if r.version.allows c then r.goTo (.docType (.value name quote (c :: read)))
    else none
  | .valueMark name quote read =>
    if c == '#' then r.goTo (.docType (.valueNumber name quote read []))
    else if c != quote && r.version.allows c then
      r.goTo (.docType (.value name quote (c :: '&' :: read)))
    else none
  | .valueNumber name quote read digits =>
    if c == ';' then
      (numericReference? r.version digits.reverse).bind fun c =>
        r.goTo (.docType (.value name quote (c :: read)))
    else if c != quote && r.version.allows c then
      r.goTo (.docType (.valueNumber name quote read (c :: digits)))
    else none
  | .valueParameter name quote read ref =>
    if c == ';' then
      (r.entities.lookup ref.reverse).bind fun value =>
        r.goTo (.docType (.value name quote (value.reverse ++ read)))
    else if isNameChar c then r.goTo (.docType (.valueParameter name quote read (c :: ref)))
    else none
  | .skip =>
    if c == '>' then r.goTo (.docType .outside)
    else if isQuote c then r.goTo (.docType (.skipQuoted c))
    else r.goTo (.docType .skip)
  | .skipQuoted quote => r.goTo (.docType (if c == quote then .skip else .skipQuoted quote))
  | .parameter ref =>
    if c == ';' then
      match r.entities.lookup ref.reverse with
      | none => none
      | some [] => r.goTo (.docType .outside)
      | some value => some (.reread { r with place := .docType .outside } value)
    else if isNameChar c then r.goTo (.docType (.parameter (c :: ref)))
    else none

/-! ### Whole documents -/

/-- Read one character at the reader's place. -/
def step (r : Reader) (c : Char) : Option Next :=
  match r.place with
  | .text brackets => r.stepText brackets c
  | .reference ref => r.stepReference ref c
  | .opened => r.stepOpened c
  | .declared read => r.stepDeclared read c
  | .comment dashes => r.stepComment dashes c
  | .verbatim brackets read => r.stepVerbatim brackets read c
  | .instruction read closing => r.stepInstruction read closing c
  | .instructionData closing => r.stepInstructionData closing c
  | .startName read => r.stepStartName read c
  | .endName read => r.stepEndName read c
  | .endGap name => r.stepEndGap name c
  | .tag tag place => r.stepTag tag place c
  | .head place => r.stepHead place c
  | .docType place => r.stepType place c

/-- The number of entity values that may be read between two characters of the document itself. -/
def maxExpansions : Nat := 10

/-- Read characters one after the other, and entity values in the place of their references as long
as the budget and `maxExpansions` allow. -/
def feed : Nat → Reader → List Char → Option Reader
  | budget, r, cs => cs.foldlM (fun r c =>
      match r.step c, budget with
      | none, _ => none
      | some (.read r), _ => some r
      | some (.reread _ _), 0 => none
      | some (.reread r value), budget + 1 =>
        if r.expansions < maxExpansions then
          feed budget { r with expansions := r.expansions + 1 } value
        else none) r

/-- Read one character of the document itself, as its encoding has it. -/
def readChar (r : Reader) (c : Char) : Option Reader :=
  (r.encoding.decode? c).bind fun cs =>
    cs.foldlM (fun r c => feed maxExpansions { r with expansions := 0 } [c]) r

/-- Read the characters of a document. -/
def readAll (r : Reader) (cs : List Char) : Option Reader :=
  cs.foldlM readChar r

/-- The root of a document that has been read to its end. -/
def finish? (r : Reader) : Option Node :=
  match r.place, r.opened with
  | .text _, [] => r.root
  | _, _ => none

end Reader

/-- The root element of a document, none when the document is malformed. -/
def parse? (document : String) : Option Node :=
  (Reader.readAll {} document.toList).bind Reader.finish?

end EventFeed.Markup
