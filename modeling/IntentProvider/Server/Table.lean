import IntentProvider.Http.Message
import IntentProvider.Map.Sorted
import IntentProvider.Server.Route

/-!
Tables of routes. A route has a handler for POST requests to the paths that it serves; beside them
stands the health check, which answers GET and HEAD. What a request leads to is decided by the path
first, then by the method, and for a handler by the size of the body last.
-/

namespace IntentProvider

open IntentProvider.Http
open IntentProvider.Json

/-- The handlers of POST requests by their routes, and whether there is a health check. -/
structure RouteTable (H : Type) where
  routes : SortedMap H := {}
  healthCheck : Bool := false

/-- What a request leads to. -/
inductive Resolution (H : Type) where
  | handler (h : H)
  | answer (r : Response)

namespace RouteTable

variable {H : Type}

/-- The path of the health check. -/
def healthCheckPath : String := "/healthcheck"

/-- The answer of the health check. -/
def health : Response :=
  .json 200 (.object [("status", .string "Available")])

/-- What follows the two slashes after a scheme, if a text begins with these. -/
def afterScheme? (cs : List Char) : Option (List Char) :=
  match cs.dropWhile fun c => c.isAlphanum || c == '+' || c == '-' || c == '.' with
  | ':' :: '/' :: '/' :: rest => some rest
  | _ => none

/-- The path of a request target, without the query and the fragment. A target that names a scheme
and a host has its path after the host, or the root if nothing follows. -/
def pathOf (target : String) : String :=
  let cs := target.toList.takeWhile fun c => c != '?' && c != '#'
  match afterScheme? cs with
  | none => String.ofList cs
  | some rest =>
    let path := rest.dropWhile (· != '/')
    if path.isEmpty then "/" else String.ofList path

/-- The handler of the preferred one of the routes that serve a path by captures. -/
def captured? (t : RouteTable H) (path : String) : Option H :=
  let serving := t.routes.entries.filter fun e => Route.serves e.1.toList path.toList
  (serving.find? fun e => serving.all fun f => Route.isPreferred e.1.toList f.1.toList).map Prod.snd

/-- No resource has the path. -/
def notFound : Response where
  status := 404

/-- The resource has only other methods. -/
def methodNotAllowed (allow : String) : Response where
  status := 405
  allow := some allow

/-- The body is longer than it may be. -/
def tooLarge : Response :=
  .text 413 "Failed to buffer the request body: length limit exceeded"

/-- What a request with a method, for a target, with a body of some size leads to. -/
def resolve (t : RouteTable H) (limit : Nat) (method target : String) (size : Nat) :
    Resolution H :=
  let path := pathOf target
  let healthy := t.healthCheck && path == healthCheckPath
  let route := t.routes.get? path
  match healthy, if healthy then route else route.or (t.captured? path) with
  | false, none => .answer notFound
  | false, some h =>
    if method ≠ "POST" then .answer (methodNotAllowed "POST")
    else if limit < size then .answer tooLarge
    else .handler h
  | true, route =>
    if method = "GET" then .answer health
    else if method = "HEAD" then .answer { health with body := "" }
    else
      match route with
      | none => .answer (methodNotAllowed "GET,HEAD")
      | some h =>
        if method ≠ "POST" then .answer (methodNotAllowed "GET,HEAD,POST")
        else if limit < size then .answer tooLarge
        else .handler h

end RouteTable

end IntentProvider
