import EventFeed.Url.Percent

/-!
# Paths

The path of a URL is a list of segments. While it is read, a segment of one dot is dropped and one
of two dots takes the segment before it along; a dot may be percent-encoded. A segment that names a
drive is never taken along.
-/

namespace EventFeed.Url

/-- Whether a segment is a dot. -/
def isDot (segment : List Char) : Bool :=
  let lower := segment.map Char.toLower
  lower == ".".toList || lower == "%2e".toList

/-- Whether a segment is two dots. -/
def isDoubleDot (segment : List Char) : Bool :=
  let lower := segment.map Char.toLower
  ["..", ".%2e", "%2e.", "%2e%2e"].any fun form => lower == form.toList

/-- Whether a segment names a drive. -/
def isDrive (segment : List Char) : Bool :=
  match segment with
  | [letter, mark] => letter.isAlpha && (mark == ':' || mark == '|')
  | _ => false

/-- Take the last segment away, unless it names a drive. -/
def dropSegment (segments : List (List Char)) : List (List Char) :=
  match segments.getLast? with
  | none => []
  | some last => if isDrive last then segments else segments.dropLast

/-- Add a segment that was read; `final` when nothing follows it. -/
def addSegment (segments : List (List Char)) (segment : List Char) (final : Bool) :
    List (List Char) :=
  if isDoubleDot segment then
    let kept := dropSegment segments
    if final then kept ++ [[]] else kept
  else if isDot segment then if final then segments ++ [[]] else segments
  else segments ++ [segment]

/-- The segments of a text between the marks of a class. -/
def segmentsOf (isMark : Char → Bool) : List Char → List (List Char)
  | [] => [[]]
  | c :: cs =>
    if isMark c then [] :: segmentsOf isMark cs
    else match segmentsOf isMark cs with
      | [] => [[c]]
      | segment :: rest => (c :: segment) :: rest

/-- Add the segments of a list one after the other. -/
def addSegments (segments : List (List Char)) : List (List Char) → List (List Char)
  | [] => segments
  | [last] => addSegment segments last true
  | segment :: rest => addSegments (addSegment segments segment false) rest

/-- The path that a text behind the host stands for, in its printed form. -/
def pathText (cs : List Char) : List Char :=
  let isMark (c : Char) := c == '/' || c == '\\'
  let body := match cs with
    | [] => []
    | c :: rest => if isMark c then rest else c :: rest
  let segments := (segmentsOf isMark body).map (encode pathSet)
  (addSegments [] segments).flatMap fun segment => '/' :: segment

end EventFeed.Url
