import EventFeed.Duration
import EventFeed.Text.Quoted
import EventFeed.Url.Basic

/-!
# Settings

What a feed is told once, when it is made: the URL to subscribe at, the credentials, and the
timings. The heartbeat interval is only where a connection begins; the controller may change it
later. Settings are checked before a feed is made of them, and their text never shows the password.
-/

namespace EventFeed

/-- The settings of a feed. -/
structure Settings where
  url : String
  username : String := ""
  password : String := ""
  /-- The interval between heartbeats until the controller sends its own. -/
  heartbeatInterval : Duration := .ofSeconds 30
  /-- The attempt at which the backoff schedule stops advancing. -/
  maxRetries : UInt32 := 4
  /-- The delay before each attempt. -/
  backoffSchedule : List Duration :=
    [.ofMillis 10, .ofSeconds 1, .ofSeconds 10, .ofSeconds 30, .ofSeconds 60]
  connectTimeout : Duration := .ofSeconds 10
  /-- How long closing the connection on request may take. -/
  shutdownTimeout : Duration := .ofSeconds 5
  deriving DecidableEq, Repr

/-- What is wrong with settings. -/
inductive SettingsError where
  | invalidUrl (url : String) (error : Url.UrlError)
  | unsupportedScheme (scheme : String)
  | noHeartbeatInterval
  | emptySchedule
  | decreasingSchedule
  | noConnectTimeout
  deriving DecidableEq, Repr

/-- The text of an error. -/
def SettingsError.message : SettingsError → String
  | invalidUrl url error => "Invalid stream URL '" ++ url ++ "': " ++ error.message
  | unsupportedScheme scheme =>
    "Stream URL must use ws:// or wss://, got '" ++ scheme ++ "://'"
  | noHeartbeatInterval => "Heartbeat interval must be greater than 0"
  | emptySchedule => "Backoff schedule must contain at least one delay"
  | decreasingSchedule => "Backoff schedule must be non-decreasing"
  | noConnectTimeout => "Connect timeout must be greater than 0"

namespace Settings

/-- The path of the subscription on a controller. -/
def subscribePath : String := "/rest/subscribe"

/-- The settings a feed has unless it is told otherwise. -/
def standard : Settings where
  url := "ws://localhost" ++ subscribePath

/-- The settings for a host, which may name a port. -/
def forHost (host : String) (secure : Bool) : Settings :=
  { standard with url := (if secure then "wss" else "ws") ++ "://" ++ host ++ subscribePath }

section

variable {α : Type} (parse : String → Except Url.UrlError α) (scheme : α → String)

/-- The URL of the settings as it is parsed, which must have a websocket scheme. -/
def parsedUrlBy (settings : Settings) : Except SettingsError α :=
  match parse settings.url with
  | .error e => .error (.invalidUrl settings.url e)
  | .ok url =>
    if scheme url = "ws" ∨ scheme url = "wss" then .ok url
    else .error (.unsupportedScheme (scheme url))

/-- Whether no delay is longer than the next one. -/
def isNonDecreasing : List Duration → Bool
  | a :: b :: rest => decide (a ≤ b) && isNonDecreasing (b :: rest)
  | _ => true

/-- Check the settings, given how URLs are parsed. -/
def validateBy (settings : Settings) : Except SettingsError Unit := do
  let _ ← settings.parsedUrlBy parse scheme
  if settings.heartbeatInterval = .zero then throw .noHeartbeatInterval
  if settings.backoffSchedule.isEmpty then throw .emptySchedule
  if !isNonDecreasing settings.backoffSchedule then throw .decreasingSchedule
  if settings.connectTimeout = .zero then throw .noConnectTimeout

end

/-- The URL of the settings. A URL with a websocket scheme always has a host. -/
def parsedUrl (settings : Settings) : Except SettingsError Url :=
  match settings.parsedUrlBy Url.parse Url.Parsed.scheme with
  | .error e => .error e
  | .ok (.other scheme) => .error (.unsupportedScheme scheme)
  | .ok (.hosted url) => .ok url

/-- Check the settings. -/
def validate (settings : Settings) : Except SettingsError Unit :=
  settings.validateBy Url.parse Url.Parsed.scheme

/-- What is shown in the place of a secret. -/
def redacted : String := "<redacted>"

/-- A list of texts in brackets. -/
def bracketList (items : List String) : String :=
  "[" ++ ", ".intercalate items ++ "]"

/-- The settings as text, without the password. -/
def text (settings : Settings) : String :=
  "StreamConfig \x7b url: " ++ Text.quote settings.url ++
    ", username: " ++ Text.quote settings.username ++
    ", password: " ++ Text.quote redacted ++
    ", heartbeat_interval: " ++ settings.heartbeatInterval.text ++
    ", max_retries: " ++ toString settings.maxRetries.toNat ++
    ", backoff_schedule: " ++ bracketList (settings.backoffSchedule.map Duration.text) ++
    ", connect_timeout: " ++ settings.connectTimeout.text ++
    ", shutdown_timeout: " ++ settings.shutdownTimeout.text ++ " \x7d"

end Settings

end EventFeed
