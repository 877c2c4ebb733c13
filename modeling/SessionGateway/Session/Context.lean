import SessionGateway.Config
import SessionGateway.Session.Auth
import SessionGateway.Session.DataRequests

/-!
Everything that is remembered for the current session.
-/

namespace SessionGateway

structure Context where
  auth : Auth
  typeahead : Typeahead
  dataRequests : DataRequests
  cache : CategorizedCache

namespace Context

def new (config : Config) : Context :=
  ⟨.new config.profileWindow, .new config.typeaheadWindow, .new config.dataRequestWindow, .empty⟩

def size (c : Context) : Nat :=
  c.auth.size + c.typeahead.size + c.dataRequests.size + c.cache.size

/-- Ends the session and empties every store. Windows and counters stay. -/
def reset (c : Context) : Context where
  auth := c.auth.logout
  typeahead := c.typeahead.clear
  dataRequests := c.dataRequests.clear
  cache := .empty

end Context
end SessionGateway
