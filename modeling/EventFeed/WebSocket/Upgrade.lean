import EventFeed.Base64
import EventFeed.Request
import EventFeed.Sha1
import EventFeed.Text.Blank
import EventFeed.Text.Utf8
import EventFeed.TransportError
import EventFeed.WebSocket.Endpoint
import EventFeed.WebSocket.Response

/-!
# Opening a web socket

A web socket is opened by a request over HTTP that asks for an upgrade and carries a key. The server
shows that it has read the request by an accept value made of the key. This module makes the head of
the request, and checks the response; each way in which opening can fail is an `OpeningError`.
-/

namespace EventFeed.WebSocket

/-- Why a web socket was not opened. -/
inductive OpeningError where
  | endpoint (error : EndpointError)
  | headerName (name : String)
  | headerValue (name : String)
  | unsupportedScheme
  /-- Nothing listens at the endpoint. -/
  | refused
  /-- The endpoint is to be reached in a secured way. -/
  | secured
  /-- A header holds characters that cannot be sent. -/
  | unsendable
  | malformed (fault : HeadFault)
  | oldVersion
  | invalidStatus
  /-- The response ends before its head does. -/
  | unfinished
  | status (status : Nat) (message : String)
  | noUpgrade
  | noConnection
  | wrongAccept
  deriving DecidableEq, Repr

namespace OpeningError

/-- What is said about a malformed head. -/
def faultError : HeadFault → TransportError
  | .version => .handshake none "httparse error: invalid HTTP version"
  | .status => .handshake none "httparse error: invalid response status"
  | .headerName => .handshake none "httparse error: invalid header name"
  | .headerValue => .handshake none "httparse error: invalid header value"
  | .newLine => .handshake none "httparse error: invalid new line"
  | .tooManyHeaders => .other "Space limit exceeded: Too many headers"

/-- The error of the connection. -/
def transport : OpeningError → TransportError
  | endpoint error => .invalidRequest error.message
  | headerName name => .invalidRequest ("header " ++ name ++ ": invalid HTTP header name")
  | headerValue name => .invalidRequest ("header " ++ name ++ ": failed to parse header value")
  | unsupportedScheme => .invalidRequest "URL scheme not supported"
  | refused => .connector "Connection refused (os error 111)"
  | secured => .invalidRequest "TLS support not compiled in"
  | unsendable => .other "UTF-8 encoding error"
  | malformed fault => faultError fault
  | oldVersion => .handshake none "HTTP version must be 1.1 or higher"
  | invalidStatus => .invalidRequest "invalid status code"
  | unfinished => .handshake none "Handshake not finished"
  | status code message => .handshake (some code) message
  | noUpgrade => .handshake none "No \x22Upgrade: websocket\x22 header"
  | noConnection => .handshake none "No \x22Connection: upgrade\x22 header"
  | wrongAccept => .handshake none "Key mismatch in \x22Sec-WebSocket-Accept\x22 header"

end OpeningError

/-! ### The request -/

/-- What is asked of the server. Header names are in lower case, and no two are equal. -/
structure Upgrade where
  endpoint : Endpoint
  port : Nat
  headers : List (String × String)
  deriving DecidableEq, Repr

namespace Upgrade

/-- Set a header: its value replaces the one it had. -/
def setHeader (headers : List (String × String)) (name value : String) : List (String × String) :=
  if headers.any fun header => header.1 == name then
    headers.map fun header => if header.1 == name then (name, value) else header
  else headers ++ [(name, value)]

/-- The headers that every request has. -/
def ownHeaders (endpoint : Endpoint) (key : String) : List (String × String) :=
  [("host", String.ofList endpoint.hostText), ("connection", "Upgrade"), ("upgrade", "websocket"),
   ("sec-websocket-version", "13"), ("sec-websocket-key", key)]

/-- Whether a character may stand in a header value: no control character but the tab. -/
def isValueChar (c : Char) : Bool :=
  c == '\t' || (0x20 ≤ c.toNat && c != '\x7F')

/-- Add a header that the caller gives. -/
def addHeader (headers : List (String × String)) (header : String × String) :
    Except OpeningError (List (String × String)) :=
  let name := String.ofList (header.1.toList.map Char.toLower)
  if header.1.isEmpty || !header.1.toList.all Response.isNameChar then
    .error (.headerName header.1)
  else if !header.2.toList.all isValueChar then .error (.headerValue name)
  else .ok (setHeader headers name header.2)

/-- The upgrade that a request asks for; `key` is used unless the request brings its own. -/
def ofRequest (request : Request) (key : String) : Except OpeningError Upgrade := do
  let endpoint ← (Endpoint.parse request.url).mapError .endpoint
  let headers ← request.headers.foldlM addHeader (ownHeaders endpoint key)
  match endpoint.port? with
  | none => throw .unsupportedScheme
  | some port => return { endpoint, port, headers }

/-- The value of a header. -/
def header? (u : Upgrade) (name : String) : Option String :=
  u.headers.lookup name

/-- The names that are not sent in lower case. -/
def sentName (name : String) : String :=
  (["Host", "Connection", "Upgrade", "Sec-WebSocket-Version", "Sec-WebSocket-Key",
      "Sec-WebSocket-Protocol", "Origin"].find? fun sent =>
    sent.toList.map Char.toLower == name.toList).getD name

/-- The first line of the request. -/
def requestLine (u : Upgrade) : String :=
  "GET " ++ String.ofList u.endpoint.requestPath ++ " HTTP/1.1"

/-- The headers as they are sent. -/
def sentHeaders (u : Upgrade) : List (String × String) :=
  u.headers.map fun header => (sentName header.1, header.2)

/-- Check, once the server is reached, that the request can be sent. -/
def checkSendable (u : Upgrade) : Except OpeningError Unit :=
  if u.endpoint.scheme = some "wss".toList then .error .secured
  else if u.endpoint.scheme ≠ some "ws".toList then .error .unsupportedScheme
  else if u.headers.all fun header => header.2.toList.all fun c => c.toNat < 0x7F then .ok ()
  else .error .unsendable

/-- What every accept value is made with. -/
def acceptMark : String := "258EAFA5-E914-47DA-95CA-C5AB0DC85B11"

/-- The accept value of the key. -/
def accept (u : Upgrade) : String :=
  let key := (u.header? "sec-websocket-key").getD ""
  String.ofList (Base64.encode (Sha1.digest (key ++ acceptMark).toUTF8.data.toList))

/-! ### The response -/

/-- How many bytes are received at a time while the head of the response is read. -/
def block : Nat := 4096

/-- What a server that does not upgrade says: the text behind the head, as far as it was received
with the end of the head, or else what the status means. -/
def refusalMessage (status head : Nat) (body : List UInt8) : String :=
  let received := body.take ((head + block - 1) / block * block - head)
  (Text.trim? (Text.lossy received)).getD ((Response.reasons.lookup status).getD "")

/-- Whether a header value is a word, regardless of case. -/
def isWord (word : String) (value : Option (List UInt8)) : Bool :=
  value.any fun bytes =>
    bytes.map (fun b => (Char.ofNat b.toNat).toLower) == word.toList

/-- Check a response. -/
def check (u : Upgrade) (response : Response) : Except OpeningError Unit :=
  if !isWord "websocket" (response.header? "upgrade") then .error .noUpgrade
  else if !isWord "upgrade" (response.header? "connection") then .error .noConnection
  else if response.header? "sec-websocket-accept" ≠ some u.accept.toUTF8.data.toList then
    .error .wrongAccept
  else .ok ()

/-- Read what the server sends up to the end of the response; what is left are frames. -/
def readResponse (u : Upgrade) (bytes : List UInt8) : Except OpeningError (List UInt8) :=
  match Response.read bytes with
  | .error fault => .error (.malformed fault)
  | .ok none => .error .unfinished
  | .ok (some (response, rest)) =>
    if response.minor = 0 then .error .oldVersion
    else if response.status < 100 then .error .invalidStatus
    else if response.status ≠ 101 then
      .error (.status response.status
        (refusalMessage response.status (bytes.length - rest.length) rest))
    else (u.check response).map fun _ => rest

end Upgrade

end EventFeed.WebSocket
