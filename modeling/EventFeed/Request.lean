import EventFeed.Base64
import EventFeed.Settings

/-!
# Connect requests

What is sent to open the subscription: the URL and the headers that the controller wants to see. The
credentials travel in an authorization header, whose value is never shown.
-/

namespace EventFeed

/-- What is needed to open a connection. -/
structure Request where
  url : String
  headers : List (String × String)
  deriving DecidableEq, Repr

namespace Request

/-- A header name regardless of case. -/
def foldName (name : String) : List Char :=
  name.toList.map Char.toLower

/-- The headers of every subscription. -/
def protocolHeaders : List (String × String) :=
  [("Sec-WebSocket-Protocol", "ISYSUB"), ("Sec-WebSocket-Version", "13"),
   ("Origin", "com.universal-devices.websockets.isy")]

/-- The name of the header with the credentials. -/
def authorizationName : String := "Authorization"

/-- The value of the header with the credentials. -/
def basicValue (username password : String) : String :=
  "Basic " ++ String.ofList (Base64.encode (username ++ ":" ++ password).toUTF8.data.toList)

/-- The headers that carry the credentials; none without a user name. -/
def credentialHeaders (settings : Settings) : List (String × String) :=
  if settings.username.isEmpty then []
  else [(authorizationName, basicValue settings.username settings.password)]

/-- The request of some settings. -/
def ofSettings (settings : Settings) : Except SettingsError Request :=
  settings.parsedUrl.map fun url =>
    { url := url.text, headers := protocolHeaders ++ credentialHeaders settings }

/-- The value of a header, its name taken regardless of case. -/
def header? (request : Request) (name : String) : Option String :=
  (request.headers.find? fun header => foldName header.1 = foldName name).map Prod.snd

/-- Whether a header carries credentials. -/
def isSecret (name : String) : Bool :=
  foldName name = foldName authorizationName

/-- A header as text. -/
def headerText (header : String × String) : String :=
  "(" ++ Text.quote header.1 ++ ", " ++
    Text.quote (if isSecret header.1 then Settings.redacted else header.2) ++ ")"

/-- A request as text, without the credentials. -/
def text (request : Request) : String :=
  "ConnectRequest \x7b url: " ++ Text.quote request.url ++
    ", headers: " ++ Settings.bracketList (request.headers.map headerText) ++ " \x7d"

end Request

end EventFeed
