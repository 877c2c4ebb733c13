import SessionGateway.Cache.Table
import SessionGateway.Error
import SessionGateway.Session.Token

/-!
The current session and what is kept for it: the profile of its user, and the route to return to.
-/

namespace SessionGateway

structure Session where
  token : String
  claims : Claims
  establishedAt : Instant
  deriving BEq, Repr

def Session.toJson (s : Session) : Json :=
  .obj [("claims", s.claims.toJson), ("established_at", .int s.establishedAt.toInt)]

/-- The key under which the profile is kept. -/
def profileKey : String := "profile"

structure Auth where
  session : Option Session
  profiles : Table Entry
  profileWindow : Window
  previousRoute : Option String
  only_profile : ∀ key e, profiles.get? key = some e → key = profileKey

namespace Auth

def new (profileWindow : Window) : Auth where
  session := none
  profiles := .empty
  profileWindow := profileWindow
  previousRoute := none
  only_profile _ _ h := nomatch h

/-- Starts a session and drops the profile of the session before it. -/
def enter (a : Auth) (s : Session) : Auth :=
  { a with
    session := some s
    profiles := .empty
    only_profile := fun _ _ h => nomatch h }

/-- A token without readable claims changes nothing. -/
def login (a : Auth) (token : String) (now : Instant) :
    Except Token.DecodeError (Auth × Session) := do
  let claims ← Token.claims token
  let session : Session := ⟨token, claims, now⟩
  return (a.enter session, session)

def logout (a : Auth) : Auth :=
  { a with
    session := none
    profiles := .empty
    previousRoute := none
    only_profile := fun _ _ h => nomatch h }

def token (a : Auth) (now : Instant) : Except GatewayError String :=
  match a.session with
  | none => .error (.unauthorized "no active session")
  | some s =>
    if s.claims.isExpiredAt now then .error (.unauthorized "session expired") else .ok s.token

def isAuthenticated (a : Auth) (now : Instant) : Bool := (a.token now).toBool

def holdsToken (a : Auth) (token : String) : Bool :=
  match a.session with
  | none => false
  | some s => s.token == token

def storeProfile (a : Auth) (profile : Json) (now : Instant) : Auth :=
  { a with
    profiles := a.profiles.insert profileKey ⟨profile, now⟩
    only_profile := by
      intro key e h
      rw [Table.get?_insert] at h
      split at h
      · assumption
      · exact a.only_profile key e h }

def profileEntry (a : Auth) : Option Entry := a.profiles.get? profileKey

def profile (a : Auth) (now : Instant) : Option Json :=
  match a.profileEntry with
  | none => none
  | some e => if e.isFresh a.profileWindow now then some e.data else none

def setPreviousRoute (a : Auth) (route : String) : Auth :=
  { a with previousRoute := some route }

def size (a : Auth) : Nat := a.profiles.size

@[simp] theorem profileEntry_storeProfile (a : Auth) (profile : Json) (now : Instant) :
    (a.storeProfile profile now).profileEntry = some ⟨profile, now⟩ := by
  simp [profileEntry, storeProfile, Table.get?_insert]

theorem size_eq (a : Auth) : a.size = if a.profileEntry.isSome then 1 else 0 := by
  rw [size, Table.size, Table.entries_of_only_key a.only_profile, profileEntry]
  cases a.profiles.get? profileKey <;> rfl

end Auth
end SessionGateway
