import FileShare.Url.Form

/-!
# URLs

A URL in its normal form: the parts are already encoded, so that `toText` only
joins them.  A URL with a host or with a leading slash has path segments; any
other one has a bare path, which is kept as it is.
-/

set_option autoImplicit false

namespace FileShare

inductive UrlFault where
  | emptyHost
  | internationalName
  | domainCharacter
  | port
  | ipv4
  | ipv6
  | noScheme
deriving DecidableEq, Repr

def UrlFault.message : UrlFault -> Text
  | .emptyHost => "empty host"
  | .internationalName => "invalid international domain name"
  | .domainCharacter => "invalid domain character"
  | .port => "invalid port number"
  | .ipv4 => "invalid IPv4 address"
  | .ipv6 => "invalid IPv6 address"
  | .noScheme => "relative URL without a base"

def UrlFault.label : UrlFault -> Text
  | .emptyHost => "EmptyHost"
  | .internationalName => "IdnaError"
  | .domainCharacter => "InvalidDomainCharacter"
  | .port => "InvalidPort"
  | .ipv4 => "InvalidIpv4Address"
  | .ipv6 => "InvalidIpv6Address"
  | .noScheme => "RelativeUrlWithoutBase"

/-- Where a URL points: a name, possibly empty, or an address.  An address of
version 6 has eight pieces of 16 bits. -/
inductive Host where
  | domain (name : Text)
  | ipv4 (address : Nat)
  | ipv6 (pieces : List Nat)
deriving DecidableEq, Repr

inductive UrlPath where
  /-- Segments, each after a slash.  No segment at all is an empty path. -/
  | segments (list : List Text)
  /-- A path without structure, which no handle can be derived from. -/
  | bare (text : Text)
deriving DecidableEq, Repr

structure Url where
  scheme : Text
  username : Text
  password : Text
  /-- `none` where the URL has no authority at all. -/
  host : Option Host
  /-- `none` for the default port of the scheme. -/
  port : Option Nat
  path : UrlPath
  /-- Whether a dot segment keeps the path apart from the scheme.  It does so from
  the start where the path of a URL without an authority begins with two slashes,
  which would be read as the start of one. -/
  isSetApart : Bool
  query : Option Text
  fragment : Option Text
deriving DecidableEq, Repr

namespace Url

def isSpecialScheme (scheme : Text) : Bool :=
  [("http" : Text), "https", "ws", "wss", "ftp", "file"].contains scheme

def defaultPort? (scheme : Text) : Option Nat :=
  if scheme = "http" ∨ scheme = "ws" then some 80
  else if scheme = "https" ∨ scheme = "wss" then some 443
  else if scheme = "ftp" then some 21
  else none

def isSpecial (url : Url) : Bool := isSpecialScheme url.scheme

end Url

def Host.ipv4Text (address : Nat) : Text :=
  List.intercalate ['.']
    ([address / 0x1000000 % 256, address / 0x10000 % 256, address / 0x100 % 256, address % 256].map
      Text.decimal)

def Host.leadingZeros (pieces : List Nat) : Nat := (pieces.takeWhile (· == 0)).length

/-- Where the longest run of zeros begins, and its length; the first of equal
ones, and none shorter than two. -/
def Host.longestZeros (place : Nat) : List Nat -> Option (Nat × Nat)
  | [] => none
  | piece :: rest =>
      let here := leadingZeros (piece :: rest)
      match longestZeros (place + 1) rest with
      | none => if 2 ≤ here then some (place, here) else none
      | some (start, length) =>
          if 2 ≤ here ∧ length ≤ here then some (place, here) else some (start, length)

def Host.ipv6Text (pieces : List Nat) : Text :=
  let join (part : List Nat) := List.intercalate [':'] (part.map Text.hexadecimal)
  match longestZeros 0 pieces with
  | none => join pieces
  | some (start, length) => join (pieces.take start) ++ "::" ++ join (pieces.drop (start + length))

def Host.toText : Host -> Text
  | .domain name => name
  | .ipv4 address => Host.ipv4Text address
  | .ipv6 pieces => '[' :: Host.ipv6Text pieces ++ [']']

def UrlPath.toText : UrlPath -> Text
  | .segments list => list.flatMap ('/' :: ·)
  | .bare text => text

def UrlPath.beginsEmpty : UrlPath -> Bool
  | .segments ([] :: _ :: _) => true
  | _ => false

namespace Url

def pathText (url : Url) : Text := url.path.toText

def segments (url : Url) : List Text :=
  match url.path with
  | .segments list => list
  | .bare _ => []

/-- User name and password in front of the host; an empty password is left
out. -/
def userInfoText (url : Url) : Text :=
  let password := if url.password.isEmpty then [] else ':' :: url.password
  if url.username.isEmpty && url.password.isEmpty then []
  else url.username ++ password ++ ['@']

def hasHost (url : Url) : Bool :=
  match url.host with
  | none => false
  | some host => host != .domain []

def hostPortText (url : Url) : Text :=
  (url.host.elim [] Host.toText) ++ url.port.elim [] fun port => ':' :: Text.decimal port

def authorityText (url : Url) : Text :=
  match url.host with
  | some _ => "//" ++ url.userInfoText ++ url.hostPortText
  | none => if url.isSetApart then "/." else []

def throughPath (url : Url) : Text := url.scheme ++ ':' :: url.authorityText ++ url.pathText

def queryText (url : Url) : Text := url.query.elim [] ('?' :: ·)

def toText (url : Url) : Text :=
  url.throughPath ++ url.queryText ++ url.fragment.elim [] ('#' :: ·)

def withPair (url : Url) (name value : Text) : Url :=
  { url with query := some (Form.append url.query name value) }

def queryPairs (url : Url) : List (Text × Text) := url.query.elim [] Form.pairs

def withoutUserInfo (url : Url) : Url := { url with username := [], password := [] }

def withoutFragment (url : Url) : Url := { url with fragment := none }

end Url

end FileShare
