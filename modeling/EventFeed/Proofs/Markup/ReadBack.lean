import Mathlib.Data.List.TakeWhile
import EventFeed.Proofs.Markup.Written

/-!
# Reading written documents

A reader makes of a written document the nodes that it was written from. A document is read piece by
piece: each lemma takes the reader from the place before a piece to the place behind it, and a run
of characters is put together from such pieces.

Two places need a notion of their own, since more than one state of the reader belongs to each. A
reader `Awaits` a tag when the tag may end or go on with a further attribute; it does so behind the
name of the tag and behind each attribute. And a reader `Rests` when it stands between markup with a
run of text that the next markup will end; what is open counts with this text already in its place.
-/

namespace EventFeed.Markup

/-! ### The alphabet -/

/-- A character of a name is none of those that do not stand in names. -/
lemma ne_of_isNameChar {c d : Char} (h : isNameChar c) (hd : isNameChar d = false) : c ≠ d := by
  rintro rfl
  rw [h] at hd
  exact Bool.noConfusion hd

lemma isNameChar_of_isNameStart {c : Char} (h : isNameStart c) : isNameChar c := by
  simp [isNameChar, h]

lemma not_isSpace_of_isNameChar {c : Char} (h : isNameChar c) : isSpace c = false := by
  have hs : c ≠ ' ' := ne_of_isNameChar h (by decide)
  have ht : c ≠ '\t' := ne_of_isNameChar h (by decide)
  have hn : c ≠ '\n' := ne_of_isNameChar h (by decide)
  have hr : c ≠ '\r' := ne_of_isNameChar h (by decide)
  simp [isSpace, hs, ht, hn, hr]

/-- A character is written as a reference by its name, or as itself. -/
lemma escapeChar_cases (c : Char) :
    (∃ name, escapeChar c = '&' :: (name ++ [';']) ∧ (∀ d ∈ name, isNameStart d) ∧
        meaning? .one [] name = some (.char c)) ∨
      (escapeChar c = [c] ∧ c ≠ '&' ∧ c ≠ '<' ∧ c ≠ '>' ∧ c ≠ '\x22') := by
  by_cases hamp : c = '&'
  · exact .inl ⟨"amp".toList, by simp [escapeChar, hamp], List.all_eq_true.1 (by decide),
      by subst c; rfl⟩
  by_cases hlt : c = '<'
  · exact .inl ⟨"lt".toList, by simp [escapeChar, hlt], List.all_eq_true.1 (by decide),
      by subst c; rfl⟩
  by_cases hgt : c = '>'
  · exact .inl ⟨"gt".toList, by simp [escapeChar, hgt], List.all_eq_true.1 (by decide),
      by subst c; rfl⟩
  by_cases hquot : c = '\x22'
  · exact .inl ⟨"quot".toList, by simp [escapeChar, hquot], List.all_eq_true.1 (by decide),
      by subst c; rfl⟩
  · exact .inr ⟨by simp [escapeChar, hamp, hlt, hgt, hquot], hamp, hlt, hgt, hquot⟩

/-- A plain name has a first character that may begin a name, and the others may stand in one. -/
lemma PlainName.exists_cons (name : PlainName) :
    ∃ c cs, name.written = c :: cs ∧ isNameStart c ∧ c ≠ ':' ∧
      ∀ d ∈ cs, isNameChar d ∧ d ≠ ':' := by
  obtain ⟨text, plain⟩ := name
  cases hcs : text.toList with
  | nil => simp [hcs, isPlain] at plain
  | cons c cs => exact ⟨c, cs, hcs, by simpa [hcs, isPlain, and_assoc] using plain⟩

/-- The name as the reader has it. -/
def PlainName.qname (name : PlainName) : QName :=
  ⟨none, name.written⟩

/-- A plain name is read as a name without a vocabulary mark. -/
lemma PlainName.ofChars? (name : PlainName) :
    QName.ofChars? name.written = some name.qname := by
  obtain ⟨c, cs, hname, -, hc, hcs⟩ := name.exists_cons
  have hall : ∀ d ∈ name.written, d != ':' := by
    rw [hname]
    simpa [hc] using fun d hd => (hcs d hd).2
  have htake : name.written.takeWhile (· != ':') = name.written :=
    List.takeWhile_eq_self_iff.2 hall
  have hdrop : name.written.dropWhile (· != ':') = [] := List.dropWhile_eq_nil_iff.2 hall
  have hne : name.written.isEmpty = false := by simp [hname]
  simp only [QName.ofChars?, htake, hdrop, hne, qname, Bool.false_eq_true, if_false]

namespace Reader

variable {r r' r'' : Reader} {opened : List OpenElement} {run : List Char} {place : Place}
  {c : Char} {cs cs' : List Char}

/-! ### Runs of characters -/

/-- From `r`, reading the characters leads to `r'`. -/
def Reads (r : Reader) (cs : List Char) (r' : Reader) : Prop :=
  r.readAll cs = some r'

lemma Reads.nil (r : Reader) : Reads r [] r := rfl

lemma Reads.append (h : Reads r cs r') (h' : Reads r' cs' r'') : Reads r (cs ++ cs') r'' := by
  unfold Reads readAll at *
  rw [List.foldlM_append, h]
  exact h'

lemma Reads.cons (h : Reads r [c] r') (h' : Reads r' cs r'') : Reads r (c :: cs) r'' :=
  h.append h'

/-- A character in whose place nothing else is read takes one step, whatever the budget. -/
lemma feed_singleton (budget : Nat) (h : r.step c = some (.read r')) :
    feed (budget + 1) r [c] = some r' := by
  delta feed
  simp [h]

lemma reads_of_step (encoding : r.encoding = .utf8) (expansions : r.expansions = 0)
    (h : r.step c = some (.read r')) : Reads r [c] r' := by
  have hr : ({ r with expansions := 0 } : Reader) = r := by rw [← expansions]
  have hfeed : feed maxExpansions { r with expansions := 0 } [c] = some r' := by
    rw [hr]
    exact feed_singleton 9 h
  have hread : r.readChar c = some r' := by
    rw [readChar, encoding]
    simp only [Encoding.decode?, Option.bind_some, List.foldlM_cons, List.foldlM_nil, hfeed]
    rfl
  simp [Reads, readAll, hread]

/-- A reader that has come to the first element of a document without declarations. -/
def within (opened : List OpenElement) (run : List Char) (place : Place) : Reader :=
  { stage := .body, opened, run, place }

lemma within_reads (h : (within opened run place).step c = some (.read r')) :
    Reads (within opened run place) [c] r' :=
  reads_of_step rfl rfl h

@[simp] lemma within_goTo (place' : Place) :
    (within opened run place).goTo place' = some (.read (within opened run place')) := rfl

/-- Characters that are collected one by one are all collected. -/
lemma reads_collected (collect : List Char → Place) (read : List Char)
    (h : ∀ c ∈ cs, ∀ read, Reads (within opened run (collect read)) [c]
      (within opened run (collect (c :: read)))) :
    Reads (within opened run (collect read)) cs
      (within opened run (collect (cs.reverse ++ read))) := by
  induction cs generalizing read with
  | nil => exact .nil _
  | cons c cs ih =>
    have hrest := ih (c :: read) fun d hd => h d (List.mem_cons_of_mem c hd)
    rw [List.reverse_cons, List.append_assoc]
    exact (h c List.mem_cons_self read).cons hrest

/-! ### Names -/

/-- A character of a plain name may follow what has been read of it. -/
lemma allows_of_isNameChar {c first : Char} {read : List Char} (h : isNameChar c ∧ c ≠ ':') :
    QName.allows (read ++ [first]) c := by
  simp [QName.allows, h.1, h.2]

/-- Behind its first character, a plain name is collected wherever names are. -/
lemma reads_name (collect : List Char → Place) {first : Char}
    (hcs : ∀ c ∈ cs, isNameChar c ∧ c ≠ ':')
    (hstep : ∀ read c, isNameChar c → QName.allows (read ++ [first]) c →
      (within opened run (collect (read ++ [first]))).step c =
        some (.read (within opened run (collect (c :: (read ++ [first])))))) :
    Reads (within opened run (collect [first])) cs
      (within opened run (collect (first :: cs).reverse)) := by
  have h : Reads (within opened run (collect ([] ++ [first]))) cs
      (within opened run (collect ((cs.reverse ++ []) ++ [first]))) :=
    reads_collected (fun read => collect (read ++ [first])) [] fun c hc read =>
      within_reads (hstep read c (hcs c hc).1 (allows_of_isNameChar (hcs c hc)))
  simpa using h

/-! ### References -/

/-- A character that begins a name may stand anywhere in the name of a reference. -/
lemma referenceAllows_of_isNameStart (ref : List Char) (h : isNameStart c) :
    referenceAllows ref c := by
  simp [referenceAllows, h, isNameChar_of_isNameStart h]

/-- In text, a reference by name becomes the character that it stands for. -/
lemma reads_reference_text {e : OpenElement} {name : List Char} (brackets : Nat)
    (hname : ∀ d ∈ name, isNameStart d) (hmeaning : meaning? .one [] name = some (.char c)) :
    Reads (within (e :: opened) run (.text brackets)) ('&' :: (name ++ [';']))
      (within (e :: opened) (c :: run) (.text 0)) := by
  have hopen : Reads (within (e :: opened) run (.text brackets)) ['&']
      (within (e :: opened) run (.reference [])) := within_reads rfl
  have hread : Reads (within (e :: opened) run (.reference [])) name
      (within (e :: opened) run (.reference (name.reverse ++ []))) := by
    refine reads_collected .reference [] fun d hd ref => within_reads ?_
    have hsemicolon : d ≠ ';' :=
      ne_of_isNameChar (isNameChar_of_isNameStart (hname d hd)) (by decide)
    have hallows := referenceAllows_of_isNameStart ref (hname d hd)
    simp [step, within, stepReference, goTo, hsemicolon, hallows]
  have hclose : Reads (within (e :: opened) run (.reference (name.reverse ++ []))) [';']
      (within (e :: opened) (c :: run) (.text 0)) := by
    refine within_reads ?_
    simp [step, within, stepReference, goTo, hmeaning]
  exact hopen.cons (hread.append hclose)

/-- In an attribute value, too. -/
lemma reads_reference_value {tag : Tag} {qname : QName} {read name : List Char}
    (hname : ∀ d ∈ name, isNameStart d) (hmeaning : meaning? .one [] name = some (.char c)) :
    Reads (within opened run (.tag tag (.value qname '\x22' read))) ('&' :: (name ++ [';']))
      (within opened run (.tag tag (.value qname '\x22' (c :: read)))) := by
  have hopen : Reads (within opened run (.tag tag (.value qname '\x22' read))) ['&']
      (within opened run (.tag tag (.reference qname '\x22' read []))) := within_reads rfl
  have hread : Reads (within opened run (.tag tag (.reference qname '\x22' read []))) name
      (within opened run (.tag tag (.reference qname '\x22' read (name.reverse ++ [])))) := by
    refine reads_collected (fun ref => .tag tag (.reference qname '\x22' read ref)) []
      fun d hd ref => within_reads ?_
    have hsemicolon : d ≠ ';' :=
      ne_of_isNameChar (isNameChar_of_isNameStart (hname d hd)) (by decide)
    have hallows := referenceAllows_of_isNameStart ref (hname d hd)
    simp [step, within, stepTag, goTo, hsemicolon, hallows]
  have hclose :
      Reads (within opened run (.tag tag (.reference qname '\x22' read (name.reverse ++ []))))
        [';'] (within opened run (.tag tag (.value qname '\x22' (c :: read)))) := by
    refine within_reads ?_
    simp [step, within, stepTag, goTo, hmeaning]
  exact hopen.cons (hread.append hclose)

/-! ### Text -/

/-- What is written for a character in text adds this character to the run of text. -/
lemma reads_text_char (e : OpenElement) (opened : List OpenElement) (run : List Char)
    (brackets : Nat) (hc : Version.one.allows c) :
    ∃ brackets', Reads (within (e :: opened) run (.text brackets)) (escapeChar c)
      (within (e :: opened) (c :: run) (.text brackets')) := by
  rcases escapeChar_cases c with ⟨name, hw, hname, hmeaning⟩ | ⟨hw, hamp, hlt, hgt, -⟩
  · exact ⟨0, hw ▸ reads_reference_text brackets hname hmeaning⟩
  · refine ⟨if c == ']' then min (brackets + 1) 2 else 0, hw ▸ within_reads ?_⟩
    simp [step, within, stepText, goTo, Version.allowsLiteral, hamp, hlt, hgt, hc]

lemma reads_text (e : OpenElement) (opened : List OpenElement) (run : List Char)
    (brackets : Nat) (hcs : ∀ c ∈ cs, Version.one.allows c) :
    ∃ brackets', Reads (within (e :: opened) run (.text brackets)) (escape cs)
      (within (e :: opened) (cs.reverse ++ run) (.text brackets')) := by
  induction cs generalizing run brackets with
  | nil => exact ⟨brackets, .nil _⟩
  | cons c cs ih =>
    obtain ⟨b, hc⟩ := reads_text_char e opened run brackets (hcs c List.mem_cons_self)
    obtain ⟨b', hrest⟩ := ih (c :: run) b fun d hd => hcs d (List.mem_cons_of_mem c hd)
    refine ⟨b', ?_⟩
    rw [List.reverse_cons, List.append_assoc, escape_cons]
    exact hc.append hrest

end Reader

/-- An open element with further nodes behind its children. -/
def OpenElement.adding (e : OpenElement) (nodes : List Node) : OpenElement :=
  { e with children := nodes.reverse ++ e.children }

@[simp] lemma OpenElement.adding_nil (e : OpenElement) : e.adding [] = e := rfl

@[simp] lemma OpenElement.adding_adding (e : OpenElement) (nodes nodes' : List Node) :
    (e.adding nodes).adding nodes' = e.adding (nodes ++ nodes') := by
  simp [adding]

namespace Reader

variable {r r' r'' : Reader} {opened : List OpenElement} {c : Char} {cs cs' : List Char}

/-- The reader stands between markup, and once its run of text has ended, `opened` is what is
open. -/
def Rests (r : Reader) (opened : List OpenElement) : Prop :=
  ∃ inner run brackets, r = within inner run (.text brackets) ∧
    r.endRun = within opened [] (.text brackets)

lemma rests_within (brackets : Nat) : Rests (within opened [] (.text brackets)) opened :=
  ⟨opened, [], brackets, rfl, rfl⟩

/-- The next markup ends the run of text. -/
lemma Rests.reads_lt (h : Rests r opened) : Reads r ['<'] (within opened [] .opened) := by
  obtain ⟨inner, run, brackets, rfl, hend⟩ := h
  refine within_reads ?_
  simp only [step, within, stepText]
  simp only [within] at hend
  simp [hend, goTo]

/-- The text of an element adds the node that is made of it. -/
lemma reads_content (e : OpenElement) (opened : List OpenElement) (content : Content) :
    ∃ r, Reads (within (e :: opened) [] (.text 0)) content.written r ∧
      Rests r (e.adding content.nodes :: opened) := by
  obtain ⟨brackets, h⟩ := reads_text e opened [] 0 (List.all_eq_true.1 content.allowed)
  refine ⟨_, h, e :: opened, _, brackets, rfl, ?_⟩
  simp only [endRun, within, Content.nodes, List.append_nil, List.all_reverse]
  split
  · simp
  · simp [add, OpenElement.adding]

end Reader

/-! ### Attributes -/

/-- The start tag of an element as far as the attributes `entries` have been read. -/
def tagOf (name : PlainName) (entries : List (PlainName × Content)) : Tag where
  name := name.qname
  attributes := entries.map fun entry => (entry.1.qname, entry.2.text.toList)

namespace Reader

variable {r r' r'' : Reader} {opened : List OpenElement} {run : List Char} {place : Place}
  {c : Char} {cs cs' : List Char} {name : PlainName} {entries : List (PlainName × Content)}
  {entry : PlainName × Content}

/-- An attribute that binds no vocabulary is noted as it is. -/
lemma note_tagOf (hproper : entry.1.text ≠ "xmlns") :
    Tag.note? (tagOf name entries) entry.1.qname entry.2.text.toList =
      some (tagOf name (entries ++ [entry])) := by
  have hbase : entry.1.text.toList ≠ bindingMark := fun h => hproper (String.toList_inj.1 h)
  simp [Tag.note?, tagOf, PlainName.qname, hbase]

/-- No vocabulary mark stands in the tag, so none is unbound. -/
lemma openElement_tagOf (run : List Char) (place : Place) :
    (within opened run place).openElement (tagOf name entries) =
      some (.read (within (⟨name.qname, [], Tag.fields (tagOf name entries), []⟩ :: opened) run
        (.text 0))) := by
  have hbound : (within opened run place).tagBound (tagOf name entries) := by
    simp [tagBound, tagOf, PlainName.qname]
  rw [openElement, if_pos hbound]
  rfl

/-- The reader is inside a start tag that may end or go on with a further attribute. -/
structure Awaits (r : Reader) (opened : List OpenElement) (name : PlainName)
    (entries : List (PlainName × Content)) : Prop where
  gap : Reads r [' '] (within opened [] (.tag (tagOf name entries) (.gap true)))
  close : Reads r ['>']
    (within (⟨name.qname, [], Tag.fields (tagOf name entries), []⟩ :: opened) [] (.text 0))

/-- Behind the name of the tag. -/
lemma awaits_startName (opened : List OpenElement) (name : PlainName) :
    Awaits (within opened [] (.startName name.written.reverse)) opened name [] where
  gap := within_reads <| by
    simp [step, within, stepStartName, goTo, isSpace, name.ofChars?, tagOf]
  close := within_reads <| by
    rw [← openElement_tagOf [] (.startName name.written.reverse)]
    simp [step, within, stepStartName, name.ofChars?, tagOf]

/-- Behind an attribute. -/
lemma awaits_gap :
    Awaits (within opened [] (.tag (tagOf name entries) (.gap false))) opened name entries where
  gap := within_reads rfl
  close := within_reads (openElement_tagOf [] _)

/-- The value of an attribute is read up to its closing quotation mark. -/
lemma reads_value {tag : Tag} {qname : QName} (read : List Char)
    (hcs : ∀ c ∈ cs, Version.one.allows c) :
    Reads (within opened [] (.tag tag (.value qname '\x22' read))) (escape cs)
      (within opened [] (.tag tag (.value qname '\x22' (cs.reverse ++ read)))) := by
  induction cs generalizing read with
  | nil => exact .nil _
  | cons c cs ih =>
    have hrest := ih (c :: read) fun d hd => hcs d (List.mem_cons_of_mem c hd)
    have hc : Reads (within opened [] (.tag tag (.value qname '\x22' read))) (escapeChar c)
        (within opened [] (.tag tag (.value qname '\x22' (c :: read)))) := by
      rcases escapeChar_cases c with ⟨name, hw, hname, hmeaning⟩ | ⟨hw, hamp, hlt, -, hquot⟩
      · exact hw ▸ reads_reference_value hname hmeaning
      · refine hw ▸ within_reads ?_
        simp [step, within, stepTag, goTo, Version.allowsLiteral, hamp, hlt, hquot,
          hcs c List.mem_cons_self]
    rw [List.reverse_cons, List.append_assoc, escape_cons]
    exact hc.append hrest

/-- The name of a further attribute, up to the place of its value. -/
lemma reads_attribute_name (opened : List OpenElement) (name : PlainName)
    (hnew : entry.1.text ∉ entries.map fun entry => entry.1.text) :
    Reads (within opened [] (.tag (tagOf name entries) (.gap true))) (entry.1.written ++ ['='])
      (within opened [] (.tag (tagOf name entries) (.beforeValue entry.1.qname))) := by
  obtain ⟨first, cs, hname, hstart, hcolon, hcs⟩ := entry.1.exists_cons
  have hchar := isNameChar_of_isNameStart hstart
  have hfirst : Reads (within opened [] (.tag (tagOf name entries) (.gap true))) [first]
      (within opened [] (.tag (tagOf name entries) (.name [first]))) := by
    refine within_reads ?_
    have hgt : first ≠ '>' := ne_of_isNameChar hchar (by decide)
    have hslash : first ≠ '/' := ne_of_isNameChar hchar (by decide)
    simp [step, within, stepTag, goTo, not_isSpace_of_isNameChar hchar, hgt, hslash,
      QName.allows, hstart, hcolon]
  have hrest : Reads (within opened [] (.tag (tagOf name entries) (.name [first]))) cs
      (within opened [] (.tag (tagOf name entries) (.name entry.1.written.reverse))) := by
    rw [hname]
    refine reads_name (fun read => .tag (tagOf name entries) (.name read)) hcs
      fun read c hc hallows => ?_
    have heq : c ≠ '=' := ne_of_isNameChar hc (by decide)
    simp [step, within, stepTag, goTo, not_isSpace_of_isNameChar hc, heq, hallows]
  have hequals : Reads
      (within opened [] (.tag (tagOf name entries) (.name entry.1.written.reverse))) ['=']
      (within opened [] (.tag (tagOf name entries) (.beforeValue entry.1.qname))) := by
    refine within_reads ?_
    have hfresh :
        ((tagOf name entries).attributes.map Prod.fst).contains entry.1.qname = false := by
      simpa [tagOf, PlainName.qname, String.toList_inj] using hnew
    simp only [step, within, stepTag, List.reverse_reverse, entry.1.ofChars?, Option.bind_some,
      hfresh]
    rfl
  have h := (hfirst.cons hrest).append hequals
  rwa [← hname] at h

/-- An attribute of a new name. -/
lemma Awaits.attribute (h : Awaits r opened name entries)
    (hnew : entry.1.text ∉ entries.map fun entry => entry.1.text)
    (hproper : entry.1.text ≠ "xmlns") :
    ∃ r', Reads r (writtenAttribute entry) r' ∧ Awaits r' opened name (entries ++ [entry]) := by
  have hquote : Reads
      (within opened [] (.tag (tagOf name entries) (.beforeValue entry.1.qname))) ['\x22']
      (within opened [] (.tag (tagOf name entries) (.value entry.1.qname '\x22' []))) :=
    within_reads rfl
  have hvalue : Reads
      (within opened [] (.tag (tagOf name entries) (.value entry.1.qname '\x22' [])))
      entry.2.written
      (within opened [] (.tag (tagOf name entries)
        (.value entry.1.qname '\x22' (entry.2.text.toList.reverse ++ [])))) :=
    reads_value [] (List.all_eq_true.1 entry.2.allowed)
  have hend : Reads (within opened [] (.tag (tagOf name entries)
        (.value entry.1.qname '\x22' (entry.2.text.toList.reverse ++ [])))) ['\x22']
      (within opened [] (.tag (tagOf name (entries ++ [entry])) (.gap false))) := by
    refine within_reads ?_
    simp [step, within, stepTag, goTo, note_tagOf hproper]
  refine ⟨_, ?_, awaits_gap⟩
  have hname := reads_attribute_name opened name hnew
  simpa [writtenAttribute] using h.gap.cons (hname.append (hquote.cons (hvalue.append hend)))

/-- The attributes of an element, the last ones behind those that have been read. -/
lemma Awaits.attributes {more : List (PlainName × Content)} (h : Awaits r opened name entries)
    (hnodup : ((entries ++ more).map fun entry => entry.1.text).Nodup)
    (hproper : ∀ entry ∈ more, entry.1.text ≠ "xmlns") :
    ∃ r', Reads r (more.flatMap writtenAttribute) r' ∧
      Awaits r' opened name (entries ++ more) := by
  induction more generalizing r entries with
  | nil => exact ⟨r, .nil r, by simpa using h⟩
  | cons entry more ih =>
    have hnew : entry.1.text ∉ entries.map fun entry => entry.1.text := by
      rw [List.map_append, List.map_cons] at hnodup
      exact fun hmem => (List.nodup_append.1 hnodup).2.2 _ hmem _ List.mem_cons_self rfl
    obtain ⟨r₁, hread, h₁⟩ := h.attribute hnew (hproper entry List.mem_cons_self)
    obtain ⟨r₂, hmore, h₂⟩ := ih h₁ (by simpa using hnodup)
      fun e he => hproper e (List.mem_cons_of_mem entry he)
    exact ⟨r₂, hread.append hmore, by simpa using h₂⟩

/-! ### Tags -/

/-- Attributes of new names are set behind those that are there. -/
lemma foldl_set_eq (before : List (String × String)) {more : List (PlainName × Content)}
    (hnodup : (before.map Prod.fst ++ more.map fun entry => entry.1.text).Nodup) :
    (more.map fun entry => (entry.1.qname, entry.2.text.toList)).foldl
        (fun (fields : Fields) entry =>
          fields.set (String.ofList entry.1.base) (String.ofList entry.2)) ⟨before⟩ =
      ⟨before ++ more.map fun entry => (entry.1.text, entry.2.text)⟩ := by
  induction more generalizing before with
  | nil => simp
  | cons entry more ih =>
    have hnew : entry.1.text ∉ before.map Prod.fst := by
      rw [List.map_cons] at hnodup
      exact fun hmem => (List.nodup_append.1 hnodup).2.2 _ hmem _ List.mem_cons_self rfl
    have hlookup : before.lookup entry.1.text = none := by
      rw [List.lookup_eq_none_iff]
      intro pair hpair
      have hne : entry.1.text ≠ pair.1 := fun h => hnew (h ▸ List.mem_map_of_mem hpair)
      simpa using hne
    have hset : (⟨before⟩ : Fields).set entry.1.text entry.2.text =
        ⟨before ++ [(entry.1.text, entry.2.text)]⟩ := by
      simp [Fields.set, Fields.contains, Fields.get?, hlookup]
    have hrest := ih (before ++ [(entry.1.text, entry.2.text)]) (by simpa using hnodup)
    simpa [PlainName.qname, hset] using hrest

/-- The attributes of an element are the fields of its tag. -/
lemma fields_tagOf (name : PlainName) (attributes : Attributes) :
    Tag.fields (tagOf name attributes.entries) = attributes.fields := by
  simpa [Tag.fields, tagOf, Attributes.fields] using
    foldl_set_eq [] (by simpa using attributes.distinct)

/-- A start tag opens its element. -/
lemma reads_startTag (e : Element) (stage : Stage) :
    Reads { within opened [] .opened with stage } e.startTag
      (within (⟨e.name.qname, [], e.attributes.fields, []⟩ :: opened) [] (.text 0)) := by
  obtain ⟨first, cs, hname, hstart, hcolon, hcs⟩ := e.name.exists_cons
  have hchar := isNameChar_of_isNameStart hstart
  have hfirst : Reads { within opened [] .opened with stage } [first]
      (within opened [] (.startName [first])) := by
    refine reads_of_step rfl rfl ?_
    have hbang : first ≠ '!' := ne_of_isNameChar hchar (by decide)
    have hquestion : first ≠ '?' := ne_of_isNameChar hchar (by decide)
    have hslash : first ≠ '/' := ne_of_isNameChar hchar (by decide)
    simp [step, within, stepOpened, goTo, QName.allows, hbang, hquestion, hslash, hstart, hcolon]
  have hrest : Reads (within opened [] (.startName [first])) cs
      (within opened [] (.startName e.name.written.reverse)) := by
    rw [hname]
    refine reads_name .startName hcs fun read c hc hallows => ?_
    have hgt : c ≠ '>' := ne_of_isNameChar hc (by decide)
    have hslash : c ≠ '/' := ne_of_isNameChar hc (by decide)
    simp [step, within, stepStartName, goTo, not_isSpace_of_isNameChar hc, hgt, hslash, hallows]
  obtain ⟨r, hattributes, h⟩ := (awaits_startName opened e.name).attributes
    e.attributes.distinct e.attributes.proper
  have hclose := h.close
  rw [List.nil_append, fields_tagOf] at hclose
  have hread := (hfirst.cons hrest).append (hattributes.append hclose)
  rwa [← hname] at hread

/-- An end tag closes the element it names. -/
lemma reads_endTag {e : Element} {x : OpenElement} (opened : List OpenElement)
    (hx : x.name = e.name.qname) :
    Reads (within (x :: opened) [] .opened) e.endTag
      ((within opened [] (.text 0)).add
        (.element e.name.text x.attributes x.children.reverse)) := by
  obtain ⟨first, cs, hname, hstart, hcolon, hcs⟩ := e.name.exists_cons
  have hchar := isNameChar_of_isNameStart hstart
  have hslash : Reads (within (x :: opened) [] .opened) ['/']
      (within (x :: opened) [] (.endName [])) := within_reads rfl
  have hfirst : Reads (within (x :: opened) [] (.endName [])) [first]
      (within (x :: opened) [] (.endName [first])) := by
    refine within_reads ?_
    have hgt : first ≠ '>' := ne_of_isNameChar hchar (by decide)
    simp [step, within, stepEndName, goTo, QName.allows, not_isSpace_of_isNameChar hchar, hgt,
      hstart, hcolon]
  have hrest : Reads (within (x :: opened) [] (.endName [first])) cs
      (within (x :: opened) [] (.endName e.name.written.reverse)) := by
    rw [hname]
    refine reads_name .endName hcs fun read c hc hallows => ?_
    have hgt : c ≠ '>' := ne_of_isNameChar hc (by decide)
    simp [step, within, stepEndName, goTo, not_isSpace_of_isNameChar hc, hgt, hallows]
  have hclose : Reads (within (x :: opened) [] (.endName e.name.written.reverse)) ['>']
      ((within opened [] (.text 0)).add
        (.element e.name.text x.attributes x.children.reverse)) := by
    refine within_reads ?_
    cases opened <;>
      simp [step, within, stepEndName, e.name.ofChars?, closeElement, hx, PlainName.qname, add,
        goTo]
  have hread := hslash.cons ((hfirst.cons hrest).append hclose)
  rwa [← hname] at hread

/-! ### Elements -/

/-- An element is added to what it stands in, whatever stage the document is in when it begins. -/
lemma reads_element (opened : List OpenElement) (e : Element) (children : Forest)
    (stage : Stage) (hchildren : ∀ r x opened, Rests r (x :: opened) →
      ∃ r', Reads r children.written r' ∧ Rests r' (x.adding children.nodes :: opened)) :
    Reads { within opened [] .opened with stage }
      (e.startTag ++ (e.text.written ++ (children.written ++ '<' :: e.endTag)))
      ((within opened [] (.text 0)).add (e.node children)) := by
  obtain ⟨r, htext, hr⟩ :=
    reads_content ⟨e.name.qname, [], e.attributes.fields, []⟩ opened e.text
  obtain ⟨r', hforest, hr'⟩ := hchildren r _ opened hr
  rw [OpenElement.adding_adding] at hr'
  have hread := (reads_startTag e stage).append
    (htext.append (hforest.append (hr'.reads_lt.cons (reads_endTag (e := e) opened rfl))))
  simpa [OpenElement.adding, Element.node] using hread

/-- Elements are added, one after the other, to what they stand in. -/
lemma reads_forest (forest : Forest) : ∀ r x opened, Rests r (x :: opened) →
    ∃ r', Reads r forest.written r' ∧ Rests r' (x.adding forest.nodes :: opened) := by
  induction forest with
  | nil => exact fun r x opened hr => ⟨r, .nil r, hr⟩
  | cons e children rest ihchildren ihrest =>
    intro r x opened hr
    have helement := reads_element (x :: opened) e children .body ihchildren
    obtain ⟨r', hrest, hr'⟩ := ihrest
      (within (x.adding [e.node children] :: opened) [] (.text 0)) _ _ (rests_within 0)
    rw [OpenElement.adding_adding] at hr'
    refine ⟨r', ?_, hr'⟩
    have hread := hr.reads_lt.cons (helement.append hrest)
    simpa [Forest.written] using hread

end Reader

/-- A document is read as the element from which it was written. -/
theorem parse_written (e : Element) (children : Forest) :
    parse? (String.ofList (Forest.one e children).written) = some (e.node children) := by
  have hbegin : Reader.Reads {} ['<']
      { Reader.within [] [] .opened with stage := .untouched } := Reader.reads_of_step rfl rfl rfl
  have hread := hbegin.cons
    (Reader.reads_element [] e children .untouched (Reader.reads_forest children))
  have hwritten : (Forest.one e children).written =
      '<' :: (e.startTag ++ (e.text.written ++ (children.written ++ '<' :: e.endTag))) := by
    simp [Forest.one, Forest.written]
  rw [parse?, String.toList_ofList, hwritten, hread]
  rfl

end EventFeed.Markup
