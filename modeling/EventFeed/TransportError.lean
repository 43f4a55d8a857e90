import EventFeed.Duration
import EventFeed.Text.Quoted

/-!
# Transport errors

What can go wrong with the connection underneath the feed. All of it can be recovered from; the
errors differ in how loudly they are reported.
-/

namespace EventFeed

/-- How loudly an error is reported. -/
inductive Severity where
  /-- Expected now and then, such as a timeout. -/
  | debug
  | warn
  | error
  deriving DecidableEq, Repr

/-- An error of the connection. -/
inductive TransportError where
  | connectTimeout (after : Duration)
  | receiveTimeout (after : Duration)
  | connector (message : String)
  | serverDisconnected (message : String)
  /-- The server refused to open the connection, with an HTTP status if it sent one. -/
  | handshake (status : Option Nat) (message : String)
  /-- The server sent a close frame. -/
  | closed (code : Option Nat) (reason : String)
  | unexpectedEof
  | stream (message : String)
  | invalidRequest (message : String)
  | other (message : String)
  deriving DecidableEq, Repr

namespace TransportError

/-- A close code or an HTTP status that may be missing. -/
def codeText : Option Nat → String
  | none => "None"
  | some code => "Some(" ++ toString code ++ ")"

/-- What is said about the HTTP status. -/
def statusText : Option Nat → String
  | none => ""
  | some status => " with HTTP " ++ toString status

/-- The text of an error. -/
def message : TransportError → String
  | connectTimeout after => "Connect timed out after " ++ after.text
  | receiveTimeout after => "No frame received within " ++ after.text
  | connector message => "Connector error: " ++ message
  | serverDisconnected message => "Server disconnected: " ++ message
  | handshake status message => "Handshake failed" ++ statusText status ++ ": " ++ message
  | closed code reason => "Stream closed by server (code " ++ codeText code ++ "): " ++ reason
  | unexpectedEof => "Stream ended unexpectedly"
  | stream message => "Stream error: " ++ message
  | invalidRequest message => "Invalid connect request: " ++ message
  | other message => "Unexpected transport failure: " ++ message

/-- An error as it is shown with its kind. -/
def text : TransportError → String
  | connectTimeout after => "ConnectTimeout(" ++ after.text ++ ")"
  | receiveTimeout after => "ReceiveTimeout(" ++ after.text ++ ")"
  | connector message => "Connector(" ++ Text.quote message ++ ")"
  | serverDisconnected message => "ServerDisconnected(" ++ Text.quote message ++ ")"
  | handshake status message =>
    "Handshake \x7b status: " ++ codeText status ++ ", message: " ++ Text.quote message ++ " \x7d"
  | closed code reason =>
    "Closed \x7b code: " ++ codeText code ++ ", reason: " ++ Text.quote reason ++ " \x7d"
  | unexpectedEof => "UnexpectedEof"
  | stream message => "Stream(" ++ Text.quote message ++ ")"
  | invalidRequest message => "InvalidRequest(" ++ Text.quote message ++ ")"
  | other message => "Other(" ++ Text.quote message ++ ")"

/-- How loudly an error is reported. -/
def severity : TransportError → Severity
  | connectTimeout _ | receiveTimeout _ | serverDisconnected _ => .debug
  | handshake _ _ | closed _ _ | unexpectedEof => .warn
  | connector _ | stream _ | invalidRequest _ | other _ => .error

end TransportError

end EventFeed
