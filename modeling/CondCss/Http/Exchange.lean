import CondCss.Http.Status
import CondCss.Url.Join

/-!
# Requests and responses

A request is answered by a response, or fails. A response that names another location may be
followed there.
-/

namespace CondCss
namespace Http

/-- The answer to a request. -/
structure Response where
  /-- The address that answered. -/
  url : Url
  /-- The status code. -/
  status : Int
  /-- The text. -/
  text : Text
  /-- Where else the resource is, as the server says it. -/
  location : Option Text := none
  deriving DecidableEq, Repr

/-- The location to which a response sends the request. -/
def Response.redirect? (r : Response) : Option Text :=
  if redirectCodes.contains r.status then r.location else none

/-- Why a request brought nothing. -/
inductive Failure where
  /-- The connection failed. -/
  | transport (message : String)
  /-- The location of a response is no address. -/
  | badLocation (error : Url.Error)
  /-- The request was sent elsewhere too often. -/
  | tooManyRedirects
  /-- The response is no success. -/
  | refused (response : Response)
  deriving DecidableEq, Repr

/-- What is said of a response that is no success. -/
def Response.complaint (r : Response) : String :=
  failureKind r.status ++ s!" '{r.status} " ++ phrase r.status ++ "' for url '" ++
  String.ofList r.url.print ++ "'\n" ++
  (match r.redirect? with
    | some location => "Redirect location: '" ++ String.ofList location ++ "'\n"
    | none => "") ++
  "For more information check: " ++
  s!"https://developer.mozilla.org/en-US/docs/Web/HTTP/Status/{r.status}"

/-- What is said of a failure. -/
def Failure.message : Failure → String
  | transport message => message
  | badLocation error => "Invalid URL in location header: " ++ error.message ++ "."
  | tooManyRedirects => "Exceeded maximum allowed redirects."
  | refused response => response.complaint

/-- How often a request is sent elsewhere. -/
def maxRedirects : Nat := 20

/-- The address that the address of a location stands for in the answer to a request for `u`. A
    location without a host is on the same host, and a fragment is carried over. -/
def redirectTarget (u location : Url) : Except Url.Error Url := do
  let lacksHost ←
    if location.scheme.isEmpty then pure false else location.hostName.map List.isEmpty
  let located ← if lacksHost then location.withHost (← u.hostName) else pure location
  let target ← if located.isAbsolute then pure located else u.join located
  let keepsFragment := !u.fragmentText.isEmpty && target.fragmentText.isEmpty
  let target ← if keepsFragment then target.withFragment u.fragmentText else pure target
  let _ ← target.hostName
  return target

/-- The address that is really requested for `u`: one that does not stand for itself is cut down to
    a path from the root and a query. -/
def requestTarget (u : Url) : Url :=
  if u.isAbsolute then u
  else { path := '/' :: u.path.dropWhile (· == '/'), query := u.query }

end Http
end CondCss
