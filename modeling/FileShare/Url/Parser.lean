import FileShare.Url.Address
import FileShare.Url.DomainName
import FileShare.Url.Path

/-!
# Reading URLs

An absolute URL is read part by part: scheme, authority, path, query and
fragment.  White space and controls around it, and tabs and line breaks
anywhere in it, do not count; only the path of a file still looks at them.  Each
part is brought into normal form: the host by the rules of names and addresses,
the rest by percent encoding; the default port is left out, and dot segments are
resolved.
-/

set_option autoImplicit false

namespace FileShare.Url

def isSchemeChar (c : Char) : Bool :=
  Text.isAsciiLetter c || Text.isAsciiDigit c || ['+', '-', '.'].contains c

def splitScheme? (text : Text) : Option (Text × Text) :=
  match Text.cut ':' text with
  | (c :: name, some rest) =>
      if Text.isAsciiLetter c && name.all isSchemeChar then some (Text.asciiLower (c :: name), rest)
      else none
  | _ => none

def endsAuthority (special : Bool) (c : Char) : Bool :=
  c == '/' || c == '?' || c == '#' || (special && c == '\\')

structure UserInfo where
  username : Text
  password : Text
deriving DecidableEq, Repr

/-- The user name ends at the first colon. -/
def UserInfo.ofText (text : Text) : UserInfo :=
  let parts := Text.cut ':' text
  ⟨Percent.encode Percent.inUserInfoSet parts.1,
    Percent.encode Percent.inUserInfoSet (parts.2.getD [])⟩

def splitUserInfo (authority : Text) : Option Text × Text :=
  let host := (authority.reverse.takeWhile (· != '@')).reverse
  if host.length = authority.length then (none, authority)
  else (some (authority.take (authority.length - host.length - 1)), host)

/-- Splits a host from the port: a colon in square brackets belongs to the
host. -/
def splitPort (bracketed : Bool) : Text -> Text × Option Text
  | [] => ([], none)
  | c :: rest =>
      if c = ':' ∧ bracketed = false then ([], some rest)
      else
        let tail := splitPort (if c = '[' then true else if c = ']' then false else bracketed) rest
        (c :: tail.1, tail.2)

def bracketedHost (text : Text) : Except UrlFault Host :=
  match text.reverse with
  | ']' :: inside => Address.readIpv6 inside.reverse.tail
  | _ => .error .ipv6

/-- Reads the host of a special URL: an address in brackets, or a name, which is
an address if it ends in a number. -/
def specialHost (text : Text) : Except UrlFault Host :=
  match text with
  | '[' :: _ => bracketedHost text
  | _ =>
      match DomainName.toAscii? (Text.Utf8.decode (Percent.decodeText text)) with
      | none => .error .internationalName
      | some [] => .error .emptyHost
      | some name => if Address.endsInNumber name then Address.readIpv4 name else .ok (.domain name)

def isForbiddenHostChar (c : Char) : Bool :=
  c.toNat == 0 ||
    ['\t', '\n', '\r', ' ', '#', '/', ':', '<', '>', '?', '@', '[', '\\', ']', '^', '|'].contains c

def otherHost (text : Text) : Except UrlFault Host :=
  match text with
  | '[' :: _ => bracketedHost text
  | _ =>
      if text.any isForbiddenHostChar then .error .domainCharacter
      else .ok (.domain (Percent.encode Percent.inControlSet text))

/-- Reads the digits of a port, with a value of at most 16 bits, and gives back
what follows them: nothing, or the backslash that begins a path.  No digits at
all, and the default port of the scheme, are no port. -/
def readPort (scheme text : Text) : Except UrlFault (Option Nat × Text) :=
  let digits := text.takeWhile Text.isAsciiDigit
  let rest := text.dropWhile Text.isAsciiDigit
  let value := Text.digitsValue digits
  if 65535 < value || !(rest.head?.elim true (· == '\\')) then .error .port
  else if digits.isEmpty || defaultPort? scheme = some value then .ok (none, rest)
  else .ok (some value, rest)

structure Authority where
  userInfo : UserInfo
  host : Host
  port : Option Nat

/-- Reads an authority and gives back what belongs to the path already; `atEnd`
tells that nothing follows the text.  User info needs a host; so does every
special URL, and so do a port and a lone `@` that something follows. -/
def readAuthority (scheme text : Text) (atEnd : Bool) : Except UrlFault (Authority × Text) :=
  let special := isSpecialScheme scheme
  let (userInfoText, hostPort) := splitUserInfo text
  let userInfo := UserInfo.ofText (userInfoText.getD [])
  let (hostText, portText) := splitPort false hostPort
  let needsHost :=
    special || portText.isSome || (userInfoText = some [] && !atEnd) ||
      !(userInfo.username.isEmpty && userInfo.password.isEmpty)
  if hostText.isEmpty && needsHost then .error .emptyHost
  else do
    let host <- if special then specialHost hostText else otherHost hostText
    let (port, rest) <- readPort scheme (portText.getD [])
    .ok (⟨userInfo, host, port⟩, rest)

def readPath (scheme : Text) (texts : List Text) : OpenPath :=
  OpenPath.start.addTexts (scheme == "file") (Percent.encode Percent.inPathSet) texts

/-- The segments of a file's path: empty ones in front do not count. -/
def withoutEmptyStart (segments : List Text) : List Text :=
  let rest := segments.dropWhile (·.isEmpty)
  if rest.isEmpty then [[]] else rest

structure Tail where
  query : Option Text
  fragment : Option Text

def readTail (scheme text : Text) : Tail :=
  let parts := Text.cut '#' text
  let set := if isSpecialScheme scheme then Percent.inSpecialQuerySet else Percent.inQuerySet
  let query :=
    match parts.1 with
    | '?' :: query => some (Percent.encode set query)
    | _ => none
  ⟨query, parts.2.map (Percent.encode Percent.inFragmentSet)⟩

def splitTail (text : Text) : Text × Text :=
  let inPath (c : Char) := c != '?' && c != '#'
  (text.takeWhile inPath, text.dropWhile inPath)

def assemble (scheme : Text) (authority : Option Authority) (path : UrlPath) (tail : Text) : Url :=
  let rest := readTail scheme tail
  { scheme
    username := authority.elim [] (·.userInfo.username)
    password := authority.elim [] (·.userInfo.password)
    host := authority.map (·.host)
    port := authority.bind (·.port)
    path
    isSetApart := authority.isNone && path.beginsEmpty
    query := rest.query
    fragment := rest.fragment }

def readAfterSlashes (scheme text : Text) : Except UrlFault Url :=
  let special := isSpecialScheme scheme
  let ends := endsAuthority special
  let authorityText := text.takeWhile (!ends ·)
  let rest := text.dropWhile (!ends ·)
  let (pathText, tail) := splitTail rest
  match readAuthority scheme authorityText rest.isEmpty with
  | .error fault => .error fault
  | .ok (authority, pathStart) =>
      let path := readPath scheme (segmentTexts special (pathStart ++ pathText))
      .ok (assemble scheme (some authority) (.segments path.segments) tail)

/-- The host of a file: none for an empty text and for this machine. -/
def fileHost (text : Text) : Except UrlFault Host :=
  if text.isEmpty then .ok (.domain [])
  else
    match specialHost text with
    | .ok host => .ok (if host = .domain "localhost" then .domain [] else host)
    | .error fault => .error fault

/-- The URL of a file.  A drive letter in first place leaves no room for a host. -/
def locateFile (host : Host) (path : OpenPath) (tail : Text) : Url :=
  assemble "file" (some ⟨⟨[], []⟩, if path.onDrive then .domain [] else host, none⟩)
    (.segments (withoutEmptyStart path.segments)) (counted tail)

def locateLocal (text : Text) : Url :=
  let (pathText, tail) := splitTail text
  locateFile (.domain []) (readPath "file" (segmentTexts true pathText)) tail

/-- Reads what follows the two slashes in front of the host of a file.  A drive
letter in its place belongs to the path.  Where there is no host, the slash that
ends its place closes an empty segment, which counts as the first one. -/
def readFileAfterSlashes (text : Text) : Except UrlFault Url :=
  let ends := endsAuthority true
  let hostText := counted (text.takeWhile (!ends ·))
  if isDriveLetter hostText then .ok (locateLocal text)
  else
    match fileHost hostText with
    | .error fault => .error fault
    | .ok host =>
        let (pathText, tail) := splitTail (text.dropWhile (!ends ·))
        let texts := segmentTexts true pathText
        let closed := if host = .domain [] then [] :: texts else texts
        .ok (locateFile host (readPath "file" closed) tail)

def dropSlash? (text : Text) : Option Text :=
  match text.dropWhile isSkipped with
  | c :: rest => if c = '/' ∨ c = '\\' then some rest else none
  | [] => none

/-- Reads what follows the scheme of a file, in which tabs and line breaks are
still there. -/
def readFile (text : Text) : Except UrlFault Url :=
  match (dropSlash? text).bind dropSlash? with
  | some rest => readFileAfterSlashes rest
  | none => .ok (locateLocal text)

def readOther (scheme text : Text) : Except UrlFault Url :=
  match text with
  | '/' :: '/' :: rest => readAfterSlashes scheme rest
  | _ =>
      let (pathText, tail) := splitTail text
      let path :=
        match pathText with
        | '/' :: _ => .segments (readPath scheme (segmentTexts false pathText)).segments
        | _ => .bare (Percent.encode Percent.inControlSet pathText)
      .ok (assemble scheme none path tail)

def parse (text : Text) : Except UrlFault Url :=
  let trimmed := Text.trimBy (fun c => c.toNat ≤ 0x20) text
  match splitScheme? (counted trimmed) with
  | none => .error .noScheme
  | some (scheme, rest) =>
      if scheme = "file" then readFile ((Text.cut ':' trimmed).2.getD [])
      else if isSpecialScheme scheme then
        readAfterSlashes scheme (rest.dropWhile fun c => c == '/' || c == '\\')
      else readOther scheme rest

end FileShare.Url
