import EventFeed.Url.HostName

/-!
# Hosts

The host of a URL: a name, an address of four bytes, or an address of eight pieces in brackets.
Names are lower-cased and must not hold characters that mean something elsewhere in a URL. The host
of a scheme without rules of its own is kept as it is.
-/

namespace EventFeed.Url

/-- Why a text is no URL. -/
inductive UrlError where
  | relativeWithoutBase
  | emptyHost
  | invalidPort
  | invalidShortAddress
  | invalidLongAddress
  | invalidName
  | invalidHostCharacter
  deriving DecidableEq, Repr

/-- The text of an error. -/
def UrlError.message : UrlError → String
  | relativeWithoutBase => "relative URL without a base"
  | emptyHost => "empty host"
  | invalidPort => "invalid port number"
  | invalidShortAddress => "invalid IPv4 address"
  | invalidLongAddress => "invalid IPv6 address"
  | invalidName => "invalid international domain name"
  | invalidHostCharacter => "invalid domain character"

/-- The host of a URL. -/
inductive Host where
  | name (text : List Char)
  | short (address : Nat)
  | long (pieces : List Nat)
  deriving DecidableEq, Repr

namespace Host

/-- A host as it stands in a URL. -/
def text : Host → String
  | name text => String.ofList text
  | short address => shortAddressText address
  | long pieces => "[" ++ longAddressText pieces ++ "]"

/-- A host in brackets. -/
def bracketed (cs : List Char) : Except UrlError Host :=
  match cs.getLast?, longAddress? cs.dropLast with
  | some ']', some pieces => .ok (long pieces)
  | _, _ => .error .invalidLongAddress

/-- The host of a scheme without rules of its own. -/
def plain (cs : List Char) : Except UrlError Host :=
  match cs with
  | '[' :: rest => bracketed rest
  | _ =>
    if cs.any forbiddenInHost.contains then .error .invalidHostCharacter
    else .ok (name (encode [] cs))

/-- The host of a scheme with rules for hosts. -/
def parse (cs : List Char) : Except UrlError Host :=
  match cs with
  | '[' :: rest => bracketed rest
  | _ =>
    match (textOfBytes? (decodeBytes cs)).bind fun text => asciiName? text.toList with
    | none => .error .invalidName
    | some [] => .error .emptyHost
    | some ascii =>
      if endsInNumber ascii then
        match shortAddress? ascii with
        | some address => .ok (short address)
        | none => .error .invalidShortAddress
      else .ok (name ascii)

end Host

end EventFeed.Url
