import FileShare.Http.Message

/-!
# Replies that send the client elsewhere

A client that is sent elsewhere may go there by itself, with another request.  Where a response
leads, which fields the client takes along and which it writes anew is its own affair; that it
goes nowhere without a status and a place that say so, and not for ever, is not.
-/

set_option autoImplicit false

namespace FileShare

structure Detour where
  url : Url
  /-- Whether it asks with GET and without a body, and not as before. -/
  asksAnew : Bool
  keeps : Text -> Bool
  adds : Fields

/-- The detour that a client makes for a response to a request with this method and URL. -/
abbrev Detours := Text -> Url -> Response -> Option Detour

def Detour.request (detour : Detour) (request : Request) : Request :=
  { method := if detour.asksAnew && request.method != "HEAD" then "GET" else request.method
    url := detour.url
    fields := request.fields.filter (fun field => detour.keeps field.name) ++ detour.adds
    body := if detour.asksAnew then none else request.body }

def Response.sendsElsewhere (response : Response) : Bool :=
  Status.elsewhere.contains response.status && (response.fields.first? "location").isSome

def Request.next? (request : Request) (detours : Detours) (response : Response) :
    Option Request :=
  if response.sendsElsewhere then
    (detours request.method request.url response).map (·.request request)
  else none

def mostDetours : Nat := 10

end FileShare
