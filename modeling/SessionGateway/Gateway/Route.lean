import SessionGateway.Text.Blank
import SessionGateway.Text.Percent

/-!
The paths that the gateway answers, and the methods each path has.
-/

namespace SessionGateway

inductive Method where
  | get
  | head
  | post
  | put
  | delete
  | options
  | other (name : String)
  deriving DecidableEq, Repr

namespace Method

def ofString : String → Method
  | "GET" => get
  | "HEAD" => head
  | "POST" => post
  | "PUT" => put
  | "DELETE" => delete
  | "OPTIONS" => options
  | name => other name

def toString : Method → String
  | get => "GET"
  | head => "HEAD"
  | post => "POST"
  | put => "PUT"
  | delete => "DELETE"
  | options => "OPTIONS"
  | other name => name

end Method

inductive Route where
  | session
  | profile
  | previousRoute
  | typeahead (kind : List Char)
  | dataRequests
  | dataRequest (id : List Char)
  | cache
  | category (name : List Char)
  | cacheKey (category key : List Char)
  | stats
  | health
  deriving DecidableEq, Repr

namespace Route

/-- Finds the route of a path, compared segment by segment as it is written. Only a category
before a key may be empty. -/
def ofPath? (path : List Char) : Option Route :=
  match path with
  | '/' :: rest =>
    match Text.pieces (· == '/') rest with
    | [first] =>
      match String.ofList first with
      | "session" => some session
      | "data-requests" => some dataRequests
      | "cache" => some cache
      | "stats" => some stats
      | "health" => some health
      | _ => none
    | [first, second] =>
      match String.ofList first, String.ofList second with
      | "session", "profile" => some profile
      | "session", "previous-route" => some previousRoute
      | _, "" => none
      | "typeahead", _ => some (typeahead second)
      | "data-requests", _ => some (dataRequest second)
      | "cache", _ => some (category second)
      | _, _ => none
    | [first, second, third] =>
      if String.ofList first = "cache" ∧ third ≠ [] then some (cacheKey second third) else none
    | _ => none
  | _ => none

def methods : Route → List Method
  | session => [.delete, .get, .head, .post]
  | profile | typeahead _ | dataRequest _ | stats | health => [.get, .head]
  | previousRoute | cacheKey _ _ => [.get, .head, .put]
  | dataRequests => [.post]
  | cache | category _ => [.delete]

end Route

def parameter? (raw : List Char) : Option String :=
  (Text.Utf8.decode? (Text.Percent.decode raw)).map String.ofList

end SessionGateway
