import SessionGateway.Cache.Categorized
import SessionGateway.Cache.Stats
import SessionGateway.Text.Blank
import SessionGateway.Text.Lowercase

/-!
Suggestions by kind and query. Queries are compared in a normal form: their words in lower case
with one space between them.
-/

namespace SessionGateway

def normalizeQuery (query : String) : String :=
  String.ofList (Text.lowerChars ([' '].intercalate (Text.words query.toList)))

structure Typeahead where
  cache : CategorizedCache
  window : Window
  counters : Stats

namespace Typeahead

def new (window : Window) : Typeahead := ⟨.empty, window, .zero⟩

/-- Fresh suggestions for a query. Each lookup is counted, and entries stay whatever their age. -/
def lookup (t : Typeahead) (kind query : String) (now : Instant) : Typeahead × Option Json :=
  let found := t.cache.get? kind (normalizeQuery query)
  ({ t with counters := t.counters.record (.of t.window now found) },
    Entry.served? t.window now found)

def store (t : Typeahead) (kind query : String) (data : Json) (now : Instant) : Typeahead :=
  { t with cache := t.cache.insert kind (normalizeQuery query) ⟨data, now⟩ }

def clearKind (t : Typeahead) (kind : String) : Typeahead :=
  { t with cache := t.cache.clearCategory kind }

def clear (t : Typeahead) : Typeahead := { t with cache := .empty }

def size (t : Typeahead) : Nat := t.cache.size

def stats (t : Typeahead) : Stats := t.counters.snapshot t.size

end Typeahead
end SessionGateway
