import SessionGateway.Cache.Stats
import SessionGateway.Session.Auth
import SessionGateway.Text.Timestamp

/-!
What the gateway answers when all goes well.
-/

namespace SessionGateway

inductive Answer where
  | data (cached : Bool) (value : Json)
  | submitted (value : Json)
  | entry (category key : String) (entry : Entry) (window : Window) (now : Instant)
  | stored (category key : String) (timestamp : Instant)
  | cleared (message : String) (removed : Nat)
  | session (session : Session) (authenticated : Bool)
  | previousRoute (route : Option String)
  | stats (typeahead dataRequests : Stats) (cacheEntries : Nat)
  | healthy (now : Instant)

namespace Answer

def toJson : Answer → Json
  | data cached value => .obj [("cached", .bool cached), ("data", value)]
  | submitted value => value
  | entry category key e window now =>
    .obj [("category", .str category), ("key", .str key), ("data", e.data),
      ("timestamp", .int e.timestamp.toInt), ("age_ms", .int (e.age now).toInt),
      ("valid", .bool (e.isFresh window now))]
  | stored category key timestamp =>
    .obj [("message", .str ("Key '" ++ category ++ ":" ++ key ++ "' cached")),
      ("category", .str category), ("key", .str key), ("timestamp", .int timestamp.toInt)]
  | cleared message removed => .obj [("message", .str message), ("removed", .int removed)]
  | session s authenticated =>
    .obj [("claims", s.claims.toJson), ("established_at", .int s.establishedAt.toInt),
      ("authenticated", .bool authenticated)]
  | previousRoute none => .obj [("route", .null)]
  | previousRoute (some route) => .obj [("route", .str route)]
  | stats typeahead dataRequests cacheEntries =>
    .obj [("typeahead", typeahead.toJson), ("data_requests", dataRequests.toJson),
      ("cache_entries", .int cacheEntries)]
  | healthy now =>
    .obj [("status", .str "healthy"), ("timestamp", .str (Text.Timestamp.render now.toInt))]

end Answer
end SessionGateway
