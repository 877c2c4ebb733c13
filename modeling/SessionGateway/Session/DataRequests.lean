import SessionGateway.Json.Printer
import SessionGateway.Session.Typeahead

/-!
Data requests by id.
-/

namespace SessionGateway

/-- The id that a data request carries: text that is not empty, or a number, by its text. -/
def requestId? (payload : Json) : Option String :=
  match payload.get? "id" with
  | some (.str id) => if id.isEmpty then none else some id
  | some (.int n) => some (Json.render (.int n))
  | some (.float x) => some (Json.render (.float x))
  | _ => none

structure DataRequests where
  cache : Table Entry
  window : Window
  counters : Stats

namespace DataRequests

def new (window : Window) : DataRequests := ⟨.empty, window, .zero⟩

def lookup (d : DataRequests) (id : String) (now : Instant) : DataRequests × Option Json :=
  let found := d.cache.get? id
  ({ d with counters := d.counters.record (.of d.window now found) },
    Entry.served? d.window now found)

def store (d : DataRequests) (id : String) (data : Json) (now : Instant) : DataRequests :=
  { d with cache := d.cache.insert id ⟨data, now⟩ }

def recordSubmission (d : DataRequests) (response : Json) (now : Instant) : DataRequests :=
  match requestId? response with
  | none => d
  | some id => d.store id response now

def clear (d : DataRequests) : DataRequests := { d with cache := .empty }

def size (d : DataRequests) : Nat := d.cache.size

def stats (d : DataRequests) : Stats := d.counters.snapshot d.size

end DataRequests
end SessionGateway
