import SessionGateway.Cache.Entry
import SessionGateway.Text.Blank
import SessionGateway.Text.Whole

/-!
Settings of the gateway, and how they are taken from named variables.
-/

namespace SessionGateway

structure Config where
  apiBaseUrl : String := "http://localhost:8080/api"
  serverPort : UInt16 := 3000
  typeaheadWindow : Window := defaultWindow
  dataRequestWindow : Window := defaultWindow
  profileWindow : Window := defaultWindow
  requestTimeoutSeconds : UInt64 := 30
  deriving DecidableEq, Repr

namespace Config

def word (setting? : String → Option String) (name : String) (default : UInt64) : UInt64 :=
  (((setting? name).bind (Text.natural? (UInt64.size - 1))).map UInt64.ofNat).getD default

/-- Settings from variables. A base address of blanks alone counts as unset. -/
def ofVariables (setting? : String → Option String) : Config :=
  let defaults : Config := {}
  { apiBaseUrl :=
      ((setting? "API_BASE_URL").filter fun v => ! (Text.trim v).isEmpty).getD
        defaults.apiBaseUrl
    serverPort :=
      (((setting? "SERVER_PORT").bind (Text.natural? (UInt16.size - 1))).map UInt16.ofNat).getD
        defaults.serverPort
    typeaheadWindow := word setting? "TYPEAHEAD_INTERVAL_MS" defaults.typeaheadWindow
    dataRequestWindow := word setting? "DATA_REQUEST_INTERVAL_MS" defaults.dataRequestWindow
    profileWindow := word setting? "PROFILE_INTERVAL_MS" defaults.profileWindow
    requestTimeoutSeconds := word setting? "REQUEST_TIMEOUT_SECS" defaults.requestTimeoutSeconds }

def withApiBaseUrl (c : Config) (url : String) : Config := { c with apiBaseUrl := url }

end Config
end SessionGateway
