/-
# Where the relay of a call is

The URL of the relay is known up front, or a service is asked for it: the request names the
chat and the call, and the reply holds the URL.  Only replies of success count, and what
they name must be a URL; it is handed on as it is written.
-/
import GroupCall.Identity
import GroupCall.Json.Printer
import GroupCall.Net.Url
import GroupCall.Sdp.Wire

namespace GroupCall

/-- A request to a service. -/
structure HttpRequest where
  /-- The method. -/
  method : String
  /-- The URL of the service. -/
  url : String
  /-- The header fields. -/
  headers : List (String × String)
  /-- The body. -/
  body : List UInt8
deriving DecidableEq, Repr

/-- The reply of a service. -/
structure HttpReply where
  /-- The status code. -/
  status : Nat
  /-- The body. -/
  body : List UInt8
deriving DecidableEq, Repr

/-- Whether a reply reports success. -/
def HttpReply.isSuccess (r : HttpReply) : Bool := 200 ≤ r.status && r.status < 300

/-- How the URL of the relay is found. -/
inductive SessionInitiator where
  /-- It is known. -/
  | known (url : String)
  /-- A service is asked. -/
  | service (endpoint : String)
deriving DecidableEq, Repr

namespace SessionInitiator

/-- The body of a request: the chat, then the call. -/
def requestBody (chat : ChatId) (call : CallId) : List UInt8 :=
  (Json.object [("chatId", .text chat.name), ("callId", .text call.name)]).bytes

/-- The request for the relay of a call. -/
def request (endpoint : String) (chat : ChatId) (call : CallId) : HttpRequest :=
  ⟨"POST", endpoint, [("Content-Type", "application/json")], requestBody chat call⟩

/-- The URL in the body of a reply: a record whose only part is the URL. -/
def urlOfBody? (body : List UInt8) : Option String := do
  let document ← Json.Document.read? body
  match ← Json.parts? ["url"] document with
  | [url] => Json.required? Json.textOf? url
  | _ => none

/-- The URL that a reply names, or why there is none. -/
def urlOfReply (reply : HttpReply) : Except String String :=
  if reply.isSuccess then
    match urlOfBody? reply.body with
    | none => .error "malformed session response"
    | some url =>
      match Url.parse url with
      | .ok _ => .ok url
      | .error _ => .error ("invalid relay url " ++ url)
  else
    .error ("session request failed with status " ++ toString reply.status ++ ": " ++
      String.ofList (Text.readUtf8Lossy reply.body))

/-- The requests that have to be made. -/
def requests (i : SessionInitiator) (chat : ChatId) (call : CallId) : List HttpRequest :=
  match i with
  | .known _ => []
  | .service endpoint => [request endpoint chat call]

/-- The URL of the relay, or why there is none.  `reply` is what the service replies, or why
it cannot be reached. -/
def url (i : SessionInitiator) (reply : Except String HttpReply) : Except String String :=
  match i with
  | .known url => .ok url
  | .service _ => reply.bind urlOfReply

end SessionInitiator
end GroupCall
