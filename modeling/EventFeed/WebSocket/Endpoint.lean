import EventFeed.Text.Numeral

/-!
# Endpoints

Where a web socket is opened, read from the text of its URL: the scheme, the authority, and the path
that stands in the request. The text is taken as it is; unlike in the normal form of a URL, nothing
in it is changed or encoded.
-/

namespace EventFeed.WebSocket

/-- Why a text names no endpoint. -/
inductive EndpointError where
  | empty
  | tooLong
  | schemeTooLong
  | invalidFormat
  | invalidCharacter
  | invalidAuthority
  | noHost
  deriving DecidableEq, Repr

/-- The text of an error. -/
def EndpointError.message : EndpointError → String
  | empty => "empty string"
  | tooLong => "uri too long"
  | schemeTooLong => "scheme too long"
  | invalidFormat => "invalid format"
  | invalidCharacter => "invalid uri character"
  | invalidAuthority => "invalid authority"
  | noHost => "No host name in the URL"

/-- Where a web socket is opened. -/
structure Endpoint where
  /-- The scheme as it is written; none when the text is an authority alone. -/
  scheme : Option (List Char)
  authority : List Char
  /-- Path and query. -/
  path : List Char
  deriving DecidableEq, Repr

namespace Endpoint

/-- The longest text in bytes that may name an endpoint. -/
def maxLength : Nat := 65534

/-- The longest scheme. -/
def maxScheme : Nat := 64

/-! ### Scheme -/

/-- Whether a character may stand in a scheme. -/
def isSchemeChar (c : Char) : Bool :=
  c.isAlphanum || c == '+' || c == '-' || c == '.'

/-- What follows a prefix whose letters may be of either case. -/
def after? (key cs : List Char) : Option (List Char) :=
  if (cs.take key.length).map Char.toLower = key then some (cs.drop key.length) else none

/-- The scheme of a text, if it has one, and what follows it. The schemes of the web are recognised
in either case, any other is kept as it is written. -/
def splitScheme (cs : List Char) : Except EndpointError (Option (List Char) × List Char) :=
  match after? "http://".toList cs, after? "https://".toList cs with
  | some rest, _ => .ok (some "http".toList, rest)
  | none, some rest => .ok (some "https".toList, rest)
  | none, none =>
    let scheme := cs.takeWhile isSchemeChar
    match cs.drop scheme.length with
    | ':' :: '/' :: '/' :: rest =>
      if cs.length ≤ 3 then .ok (none, cs)
      else if maxScheme < scheme.length then .error .schemeTooLong
      else .ok (some scheme, rest)
    | _ => .ok (none, cs)

/-! ### Authority -/

/-- Whether a character ends an authority. -/
def endsAuthority (c : Char) : Bool :=
  c == '/' || c == '?' || c == '#'

/-- Whether a character without a meaning of its own may stand in an authority. -/
def isAuthorityChar (c : Char) : Bool :=
  c.isAlphanum || "!$&'()*+,-.;=_~".toList.contains c

/-- What has been seen of an authority. Colons and percent signs that turn out to stand in front of
the host, or inside its brackets, are forgotten. -/
structure AuthorityScan where
  colons : Nat := 0
  opened : Bool := false
  closed : Bool := false
  percent : Bool := false

/-- See one more character of an authority. -/
def AuthorityScan.push (s : AuthorityScan) (c : Char) : Except EndpointError AuthorityScan :=
  if c == ':' then
    if 8 ≤ s.colons then .error .invalidAuthority else .ok { s with colons := s.colons + 1 }
  else if c == '[' then
    if s.percent || s.opened then .error .invalidAuthority else .ok { s with opened := true }
  else if c == ']' then
    if !s.opened || s.closed then .error .invalidAuthority
    else .ok { s with closed := true, colons := 0, percent := false }
  else if c == '@' then .ok { s with colons := 0, percent := false }
  else if c == '%' then .ok { s with percent := true }
  else if isAuthorityChar c then .ok s
  else .error .invalidCharacter

/-- Check an authority: brackets come in a pair, at most one colon stands behind the host, something
follows the last `@`, and percent signs stand in front of it or inside the brackets. -/
def checkAuthority (cs : List Char) : Except EndpointError Unit := do
  let s ← cs.foldlM AuthorityScan.push {}
  if s.opened != s.closed || 1 < s.colons || s.percent || cs.getLast? == some '@' then
    throw .invalidAuthority

/-! ### Path -/

/-- Whether a character may stand in a path. -/
def isPathChar (c : Char) : Bool :=
  0x21 ≤ c.toNat && !"#<>?\x60".toList.contains c

/-- Whether a character may stand in a query. -/
def isQueryChar (c : Char) : Bool :=
  0x21 ≤ c.toNat && !"\x22#<>".toList.contains c

/-- Path and query of a text, without the fragment. -/
def readPath (cs : List Char) : Except EndpointError (List Char) :=
  let path := cs.takeWhile isPathChar
  match cs.drop path.length with
  | [] => .ok path
  | '#' :: _ => .ok path
  | '?' :: rest =>
    let query := rest.takeWhile isQueryChar
    match rest.drop query.length with
    | [] => .ok (path ++ '?' :: query)
    | '#' :: _ => .ok (path ++ '?' :: query)
    | _ => .error .invalidCharacter
  | _ => .error .invalidCharacter

/-! ### Reading -/

/-- Read an endpoint of a text that begins with no slash. -/
def readFull (cs : List Char) : Except EndpointError Endpoint := do
  let (scheme, rest) ← splitScheme cs
  if rest.isEmpty then throw .empty
  let authority := rest.takeWhile fun c => !endsAuthority c
  checkAuthority authority
  let more := rest.drop authority.length
  match scheme with
  | none =>
    if !more.isEmpty then
      throw (if cs.length = 1 then EndpointError.invalidCharacter else .invalidFormat)
    return { scheme, authority, path := [] }
  | some _ =>
    if authority.isEmpty then throw .invalidFormat
    return { scheme, authority, path := ← readPath more }

/-- Read an endpoint. A path alone names none, whatever it holds. -/
def parse (text : String) : Except EndpointError Endpoint :=
  if maxLength < text.utf8ByteSize then .error .tooLong
  else
    match text.toList with
    | [] => .error .empty
    | ['*'] => .error .noHost
    | '/' :: rest => do
      let _ ← readPath ('/' :: rest)
      .error .noHost
    | cs => readFull cs

/-! ### Parts -/

/-- The host and port that the request names: everything behind the first `@`. -/
def hostText (e : Endpoint) : List Char :=
  match e.authority.dropWhile (· != '@') with
  | [] => e.authority
  | _ :: rest => rest

/-- The port that is written behind the last colon. -/
def writtenPort? (e : Endpoint) : Option Nat :=
  let back := e.authority.reverse
  if back.contains ':' then Text.numeral? 10 65535 (back.takeWhile (· != ':')).reverse else none

/-- The port to connect to; only the schemes of web sockets have one by default. -/
def port? (e : Endpoint) : Option Nat :=
  e.writtenPort?.or
    (if e.scheme = some "ws".toList then some 80
     else if e.scheme = some "wss".toList then some 443
     else none)

/-- What the request asks for. -/
def requestPath (e : Endpoint) : List Char :=
  if e.path.isEmpty then ['/'] else e.path

end Endpoint

end EventFeed.WebSocket
