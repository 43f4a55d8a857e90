import EventFeed.Url.Host
import EventFeed.Url.Path

/-!
# URLs

Reading a URL and printing it in its normal form. The schemes `ws`, `wss`, `http`, `https` and `ftp`
always have a host, take a backslash for a slash, and leave out their default port. Tabs and line
ends inside a URL are dropped, and so are controls and spaces around it.

Hosts outside ASCII, and labels in Punycode, are known within the limits of `asciiName?`. What is
required of settings is stated for any way of reading URLs (`Settings.validateBy`); this is the one
with which feeds are made.
-/

namespace EventFeed

/-- A URL of a scheme that always has a host. -/
structure Url where
  scheme : String
  user : List Char := []
  password : List Char := []
  host : Url.Host
  port : Option Nat := none
  path : List Char
  query : Option (List Char) := none
  fragment : Option (List Char) := none
  deriving DecidableEq, Repr

namespace Url

/-- A text that is a URL: one with a host, of which everything is kept, or any other, of which the
scheme is kept. -/
inductive Parsed where
  | hosted (url : Url)
  | other (scheme : String)
  deriving DecidableEq, Repr

/-- The scheme of a URL. -/
def Parsed.scheme : Parsed → String
  | .hosted url => url.scheme
  | .other scheme => scheme

/-- The schemes that always have a host, with their default ports. -/
def hostedSchemes : List (String × Nat) :=
  [("ws", 80), ("wss", 443), ("http", 80), ("https", 443), ("ftp", 21)]

/-- A URL in its normal form. -/
def text (url : Url) : String :=
  let credentials :=
    if url.user.isEmpty && url.password.isEmpty then []
    else url.user ++ (if url.password.isEmpty then [] else ':' :: url.password) ++ ['@']
  let port := match url.port with
    | none => ""
    | some port => ":" ++ toString port
  let part (mark : Char) (part? : Option (List Char)) := match part? with
    | none => []
    | some cs => mark :: cs
  url.scheme ++ "://" ++ String.ofList credentials ++ url.host.text ++ port ++
    String.ofList (url.path ++ part '?' url.query ++ part '#' url.fragment)

/-! ### Splitting -/

/-- Whether a character is a tab or a line end. -/
def isIgnored (c : Char) : Bool :=
  c == '\t' || c == '\n' || c == '\x0d'

/-- The characters of a URL that count. -/
def clean (cs : List Char) : List Char :=
  let isEdge (c : Char) := c.toNat ≤ 0x20
  (((cs.dropWhile isEdge).reverse.dropWhile isEdge).reverse).filter fun c => !isIgnored c

/-- The scheme in front of the first colon, in lower case, and the rest. -/
def splitScheme? (cs : List Char) : Option (List Char × List Char) :=
  let isMore (c : Char) := c.isAlphanum || c == '+' || c == '-' || c == '.'
  match cs.head?, cs.dropWhile isMore with
  | some first, ':' :: rest =>
    if first.isAlpha then some ((cs.takeWhile isMore).map Char.toLower, rest) else none
  | _, _ => none

/-- Split at the first character of a class, which goes to the second part. -/
def splitBefore (p : Char → Bool) (cs : List Char) : List Char × List Char :=
  (cs.takeWhile fun c => !p c, cs.dropWhile fun c => !p c)

/-- Split at the last `@`, if there is one. -/
def splitLastAt? (cs : List Char) : Option (List Char × List Char) :=
  let back := cs.reverse
  match back.dropWhile (· != '@') with
  | [] => none
  | _ :: front => some (front.reverse, (back.takeWhile (· != '@')).reverse)

/-- The host at the begin of a text: up to a colon that stands outside brackets. -/
def splitHost (inside : Bool) : List Char → List Char × List Char
  | [] => ([], [])
  | c :: cs =>
    if c == ':' && !inside then ([], c :: cs)
    else
      let parts := splitHost (if c == '[' then true else if c == ']' then false else inside) cs
      (c :: parts.1, parts.2)

/-- User name and password of a text before an `@`. -/
def splitUser (cs : List Char) : List Char × List Char :=
  let parts := splitBefore (· == ':') cs
  (encode userSet parts.1, encode userSet (parts.2.drop 1))

/-- A port behind a colon: at most 65535, and none when no digit is written. -/
def port? (cs : List Char) : Except UrlError (Option Nat) :=
  let rec go : Option Nat → List Char → Except UrlError (Option Nat)
    | value, [] => .ok value
    | value, c :: cs =>
      if 48 ≤ c.toNat && c.toNat ≤ 57 then
        let next := value.getD 0 * 10 + (c.toNat - 48)
        if next ≤ 65535 then go (some next) cs else .error .invalidPort
      else .error .invalidPort
  go none cs

/-- The query and the fragment behind a path. -/
def splitTail (cs : List Char) : Option (List Char) × Option (List Char) :=
  let parts := splitBefore (· == '#') cs
  let fragment := match parts.2 with
    | [] => none
    | _ :: rest => some (encode fragmentSet rest)
  let query := match parts.1 with
    | '?' :: rest => some (encode querySet rest)
    | _ => none
  (query, fragment)

/-! ### Reading -/

/-- What stands between the slashes and the path: credentials, host and port. -/
structure Authority where
  user : List Char := []
  password : List Char := []
  host : Host
  port : Option Nat

/-- Read the authority of a URL; `more` when something follows it. -/
def readAuthority (readHost : List Char → Except UrlError Host) (needsHost more : Bool)
    (cs : List Char) : Except UrlError Authority := do
  let (credentials, rest) :=
    match splitLastAt? cs with
    | none => (none, cs)
    | some (user, rest) => (some user, rest)
  if credentials == some [] && rest.isEmpty && more then throw .emptyHost
  let (hostPart, portPart) := splitHost false rest
  if needsHost && hostPart.isEmpty then throw .emptyHost
  let host ← readHost hostPart
  if hostPart.isEmpty && !portPart.isEmpty then throw .emptyHost
  let port ← port? ((portPart.drop 1).takeWhile (· != '\\'))
  let (user, password) := splitUser (credentials.getD [])
  if hostPart.isEmpty && !(user.isEmpty && password.isEmpty) then throw .emptyHost
  return { user, password, host, port }

/-- Read a URL. -/
def parse (input : String) : Except UrlError Parsed :=
  match splitScheme? (clean input.toList) with
  | none => .error .relativeWithoutBase
  | some (scheme, rest) =>
    let name := String.ofList scheme
    match hostedSchemes.lookup name with
    | some defaultPort =>
      let isSlash (c : Char) := c == '/' || c == '\\'
      let parts := splitBefore (fun c => isSlash c || c == '?' || c == '#') (rest.dropWhile isSlash)
      let tail := splitBefore (fun c => c == '?' || c == '#') parts.2
      (readAuthority Host.parse true (!parts.2.isEmpty) parts.1).map fun authority =>
        let (query, fragment) := splitTail tail.2
        .hosted {
          scheme := name
          user := authority.user
          password := authority.password
          host := authority.host
          port := authority.port.filter (· != defaultPort)
          path := pathText tail.1
          query, fragment }
    | none =>
      match rest with
      | '/' :: '/' :: rest =>
        if name = "file" then
          let host := rest.takeWhile fun c => !(c == '/' || c == '\\' || c == '?' || c == '#')
          if host.isEmpty || isDrive host then .ok (.other name)
          else (Host.parse host).map fun _ => .other name
        else
          let parts := splitBefore (fun c => c == '/' || c == '?' || c == '#') rest
          (readAuthority Host.plain false (!parts.2.isEmpty) parts.1).map fun _ => .other name
      | _ => .ok (.other name)

end Url

end EventFeed
