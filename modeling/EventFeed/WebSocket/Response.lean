import EventFeed.Text.Blank

/-!
# Responses

The head of a response over HTTP, read one byte at a time. A byte leads on, ends the head, or shows
that the head is malformed; which rule it breaks depends on where it stands. Lines end with a line
feed, with or without a carriage return before it.
-/

namespace EventFeed.WebSocket

/-- How a head is malformed. -/
inductive HeadFault where
  | version
  | status
  | headerName
  | headerValue
  | newLine
  | tooManyHeaders
  deriving DecidableEq, Repr

/-- The head of a response. Header names are in lower case. -/
structure Response where
  /-- The minor version, after version 1. -/
  minor : Nat := 1
  status : Nat := 0
  headers : List (List Char × List UInt8) := []
  deriving DecidableEq, Repr

namespace Response

/-- The most headers a response may have. -/
def maxHeaders : Nat := 124

/-- The value of the first header of a name in lower case. -/
def header? (r : Response) (name : String) : Option (List UInt8) :=
  r.headers.lookup name.toList

/-! ### Bytes -/

/-- The byte of an ASCII character. -/
def byte (c : Char) : UInt8 := UInt8.ofNat c.toNat

/-- Whether a character may stand in a header name. -/
def isNameChar (c : Char) : Bool :=
  c.isAlphanum || "!#$%&'*+-.^_\x60|~".toList.contains c

/-- The character of a byte that may stand in a header name. -/
def nameChar? (b : UInt8) : Option Char :=
  if b < 0x80 then some (Char.ofNat b.toNat) |>.filter isNameChar else none

/-- Whether a byte may stand in a header value or in the words behind the status. -/
def isTextByte (b : UInt8) : Bool :=
  b == 0x09 || (0x20 ≤ b && b != 0x7F)

/-- Whether a byte is a space or a tab. -/
def isGap (b : UInt8) : Bool :=
  b == 0x20 || b == 0x09

/-! ### Reading -/

/-- Where the reader is. Bytes that are collected are kept last one first. -/
inductive HeadPlace where
  | before
  /-- Inside the version, with what of it has still to come. -/
  | version (rest : List UInt8)
  | minor
  | afterMinor
  | code (digits value : Nat)
  | reason
  | lineStart
  | name (read : List Char)
  | gap (name : List Char)
  | value (name : List Char) (read : List UInt8)
  /-- Behind a carriage return: a line feed leads on, anything else is the fault. -/
  | afterReturn (next : HeadPlace) (fault : HeadFault)
  /-- Behind the carriage return that ends a header. -/
  | returnHeader (name : List Char) (read : List UInt8)
  | finished

/-- A response that is being read. -/
structure HeadReader where
  response : Response := {}
  place : HeadPlace := .before

namespace HeadReader

/-- Go on at another place. -/
def goTo (r : HeadReader) (place : HeadPlace) : Except HeadFault HeadReader :=
  .ok { r with place }

/-- The begin of every version. -/
def versionMark : List UInt8 := "HTTP/1.".toList.map byte

/-- Add a header whose line has ended. -/
def addHeader (r : HeadReader) (name : List Char) (read : List UInt8) :
    Except HeadFault HeadReader :=
  if maxHeaders ≤ r.response.headers.length then .error .tooManyHeaders
  else .ok {
    response := { r.response with
      headers := r.response.headers ++ [(name, (read.dropWhile isGap).reverse)] }
    place := .lineStart }

/-- A byte inside the version. -/
def stepVersion (r : HeadReader) (b : UInt8) : List UInt8 → Except HeadFault HeadReader
  | [] => .error .version
  | expected :: rest =>
    if b = expected then r.goTo (if rest.isEmpty then .minor else .version rest)
    else .error .version

/-- A byte of the status, or behind it. -/
def stepCode (r : HeadReader) (digits value : Nat) (b : UInt8) : Except HeadFault HeadReader :=
  if digits < 3 then
    if byte '0' ≤ b ∧ b ≤ byte '9' then
      r.goTo (.code (digits + 1) (value * 10 + (b.toNat - 48)))
    else .error .status
  else
    let r := { r with response := { r.response with status := value } }
    if b = byte ' ' then r.goTo .reason
    else if b = byte '\r' then r.goTo (.afterReturn .lineStart .status)
    else if b = byte '\n' then r.goTo .lineStart
    else .error .status

/-- The first byte of a line behind the first one. -/
def stepLine (r : HeadReader) (b : UInt8) : Except HeadFault HeadReader :=
  if b = byte '\r' then r.goTo (.afterReturn .finished .newLine)
  else if b = byte '\n' then r.goTo .finished
  else match nameChar? b with
    | some c => r.goTo (.name [c])
    | none => .error .headerName

/-- Read one more byte. -/
def step (r : HeadReader) (b : UInt8) : Except HeadFault HeadReader :=
  match r.place with
  | .before =>
    if b = byte '\r' then r.goTo (.afterReturn .before .newLine)
    else if b = byte '\n' then r.goTo .before
    else r.stepVersion b versionMark
  | .version rest => r.stepVersion b rest
  | .minor =>
    if b = byte '0' ∨ b = byte '1' then
      { r with response := { r.response with minor := b.toNat - 48 } }.goTo .afterMinor
    else .error .version
  | .afterMinor => if b = byte ' ' then r.goTo (.code 0 0) else .error .version
  | .code digits value => r.stepCode digits value b
  | .reason =>
    if b = byte '\r' then r.goTo (.afterReturn .lineStart .status)
    else if b = byte '\n' then r.goTo .lineStart
    else if isTextByte b then .ok r
    else .error .status
  | .lineStart => r.stepLine b
  | .name read =>
    match nameChar? b with
    | some c => r.goTo (.name (c :: read))
    | none =>
      if b = byte ':' then r.goTo (.gap (read.reverse.map Char.toLower)) else .error .headerName
  | .gap name =>
    if isGap b then .ok r
    else if isTextByte b then r.goTo (.value name [b])
    else if b = byte '\r' then r.goTo (.returnHeader name [])
    else if b = byte '\n' then r.addHeader name []
    else .error .headerValue
  | .value name read =>
    if isTextByte b then r.goTo (.value name (b :: read))
    else if b = byte '\r' then r.goTo (.returnHeader name read)
    else if b = byte '\n' then r.addHeader name read
    else .error .headerValue
  | .afterReturn next fault => if b = byte '\n' then r.goTo next else .error fault
  | .returnHeader name read =>
    if b = byte '\n' then r.addHeader name read else .error .headerValue
  | .finished => .ok r

/-- Whether the head has ended. -/
def isFinished (r : HeadReader) : Bool :=
  match r.place with
  | .finished => true
  | _ => false

/-- Read bytes up to the end of the head; what follows it is left. -/
def read (r : HeadReader) : List UInt8 → Except HeadFault (HeadReader × List UInt8)
  | [] => .ok (r, [])
  | b :: rest =>
    if r.isFinished then .ok (r, b :: rest)
    else do (← r.step b).read rest

end HeadReader

/-- Read the head of a response and what follows it; none when the bytes end before the
head does. -/
def read (bytes : List UInt8) : Except HeadFault (Option (Response × List UInt8)) :=
  (({} : HeadReader).read bytes).map fun (reader, rest) =>
    if reader.isFinished then some (reader.response, rest) else none

/-! ### Standard reasons -/

/-- What a status means. -/
def reasons : List (Nat × String) :=
  [(100, "Continue"), (101, "Switching Protocols"), (102, "Processing"), (103, "Early Hints"),
   (200, "OK"), (201, "Created"), (202, "Accepted"), (203, "Non Authoritative Information"),
   (204, "No Content"), (205, "Reset Content"), (206, "Partial Content"), (207, "Multi-Status"),
   (208, "Already Reported"), (226, "IM Used"), (300, "Multiple Choices"),
   (301, "Moved Permanently"), (302, "Found"), (303, "See Other"), (304, "Not Modified"),
   (305, "Use Proxy"), (307, "Temporary Redirect"), (308, "Permanent Redirect"),
   (400, "Bad Request"), (401, "Unauthorized"), (402, "Payment Required"), (403, "Forbidden"),
   (404, "Not Found"), (405, "Method Not Allowed"), (406, "Not Acceptable"),
   (407, "Proxy Authentication Required"), (408, "Request Timeout"), (409, "Conflict"),
   (410, "Gone"), (411, "Length Required"), (412, "Precondition Failed"),
   (413, "Payload Too Large"), (414, "URI Too Long"), (415, "Unsupported Media Type"),
   (416, "Range Not Satisfiable"), (417, "Expectation Failed"), (418, "I'm a teapot"),
   (421, "Misdirected Request"), (422, "Unprocessable Entity"), (423, "Locked"),
   (424, "Failed Dependency"), (425, "Too Early"), (426, "Upgrade Required"),
   (428, "Precondition Required"), (429, "Too Many Requests"),
   (431, "Request Header Fields Too Large"), (451, "Unavailable For Legal Reasons"),
   (500, "Internal Server Error"), (501, "Not Implemented"), (502, "Bad Gateway"),
   (503, "Service Unavailable"), (504, "Gateway Timeout"), (505, "HTTP Version Not Supported"),
   (506, "Variant Also Negotiates"), (507, "Insufficient Storage"), (508, "Loop Detected"),
   (510, "Not Extended"), (511, "Network Authentication Required")]

end Response

end EventFeed.WebSocket
