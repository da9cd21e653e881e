import FileShare.Codec.Base64
import FileShare.Http.Field
import FileShare.Http.Status
import FileShare.Text.Blank
import FileShare.Url.Child

/-!
# Requests and replies

A request is built field by field; a name or value that cannot be sent ends the
building.  User info in the URL becomes an authorization field at once.  What
the peer receives is the request without fragment and user info, with the
blanks around values dropped and the fields that the client adds by itself.
-/

set_option autoImplicit false

namespace FileShare

inductive TransportFault where
  | malformedField
  | unusableUrl (url : Text)
  | noReply (url : Text)
  | tooManyDetours (url : Text)
  | truncatedBody
deriving DecidableEq, Repr

def TransportFault.message : TransportFault -> Text
  | .malformedField => "builder error"
  | .unusableUrl url => "builder error for url (" ++ url ++ [')']
  | .noReply url => "error sending request for url (" ++ url ++ [')']
  | .tooManyDetours url => "error following redirect for url (" ++ url ++ [')']
  | .truncatedBody => "error decoding response body"

structure Request where
  method : Text
  url : Url
  fields : Fields
  body : Option Bytes
deriving DecidableEq, Repr

namespace Request

/-- User name and password of a URL as text: nothing if there are none, and
nothing if the user name is no text. -/
def userInfo? (url : Url) : Option (Text × Option Text) :=
  match Text.Utf8.decode? (Percent.decodeText url.username) with
  | none => none
  | some username =>
      let password :=
        if url.password.isEmpty then none
        else Text.Utf8.decode? (Percent.decodeText url.password)
      if username.isEmpty && password.isNone then none else some (username, password)

def basicAuthorization (username : Text) (password : Option Text) : Bytes :=
  Text.asciiBytes "Basic " ++
    Base64.encode (Text.Utf8.encode (username ++ ':' :: password.getD []))

def bare (method : Text) (url : Url) : Request :=
  match userInfo? url with
  | none => { method, url, fields := [], body := none }
  | some (username, password) =>
      { method
        url := url.withoutUserInfo
        fields := [⟨"authorization", basicAuthorization username password⟩]
        body := none }

def start (method : Text) (url : Url) : Except TransportFault Request :=
  if url.hasHost then .ok (bare method url) else .error (.unusableUrl url.toText)

def addField (request : Request) (name : Text) (value : Bytes) :
    Except TransportFault Request :=
  match Field.name? name with
  | none => .error .malformedField
  | some name =>
      if Field.isValue value then .ok { request with fields := request.fields.add name value }
      else .error .malformedField

def addFields (request : Request) : List (Text × Bytes) -> Except TransportFault Request
  | [] => .ok request
  | (name, value) :: rest =>
      match request.addField name value with
      | .error fault => .error fault
      | .ok request => request.addFields rest

def setField (request : Request) (name : Text) (value : Bytes) : Request :=
  { request with fields := request.fields.set name value }

end Request

structure Received where
  method : Text
  url : Text
  fields : Fields
  body : Bytes
deriving DecidableEq, Repr

def isFieldBlank (byte : UInt8) : Bool := byte.toNat == 32 || byte.toNat == 9

namespace Request

/-- The fields with one more, unless the name is there. -/
def withDefault (fields : Fields) (name : Text) (value : Bytes) : Fields :=
  if fields.any (·.name == name) then fields else fields.add name value

/-- What the peer receives from a client with the given name. -/
def received (request : Request) (userAgent : Option Text) : Received :=
  let trimmed : Fields := request.fields.map fun field =>
    { field with value := Text.trimBy isFieldBlank field.value }
  let agent := userAgent.elim trimmed fun name =>
    withDefault trimmed "user-agent" (Text.trimBy isFieldBlank (Text.Utf8.encode name))
  let accept := withDefault agent "accept" (Text.asciiBytes "*/*")
  { method := request.method
    url := request.url.withoutUserInfo.withoutFragment.toText
    fields := withDefault accept "host" (Text.Utf8.encode request.url.hostPortText)
    body := request.body.getD [] }

def isRequestHostChar (c : Char) : Bool := !(['"', '{', '}', Char.ofNat 96].contains c)

def longestUrl : Nat := 65534

def isUsableUrl (url : Url) : Bool :=
  (url.scheme = "http" || url.scheme = "https") && url.toText.length ≤ longestUrl &&
    (url.host.elim [] Host.toText).all isRequestHostChar

end Request

structure Reply where
  status : Nat
  fields : Fields
  body : Bytes
deriving DecidableEq, Repr

/-- A reply as the client sees it; `none` stands for a body that was cut short. -/
structure Response where
  status : Nat
  fields : Fields
  body : Option Bytes
deriving DecidableEq, Repr

def Reply.announced? (reply : Reply) : Option Nat :=
  ((reply.fields.text? "content-length").bind Text.readWord?).map (·.toNat)

/-- The reply to a request with the given method.  The replies to HEAD and those
with the status 204 or 304 have no body.  Any other reply announces the length
of its body unless it names one; a body shorter than announced is cut short. -/
def Reply.seen (reply : Reply) (method : Text) : Response :=
  let fields : Fields := reply.fields.map fun field =>
    { field with value := Text.trimBy isFieldBlank field.value }
  let trimmed : Reply := { reply with fields }
  if method = "HEAD" ∨ reply.status = 204 ∨ reply.status = 304 then ⟨reply.status, fields, some []⟩
  else
    match trimmed.announced? with
    | some length =>
        ⟨reply.status, fields,
          if reply.body.length < length then none else some (reply.body.take length)⟩
    | none =>
        ⟨reply.status,
          fields.add "content-length" (Text.asciiBytes (Text.decimal reply.body.length)),
          some reply.body⟩

end FileShare
