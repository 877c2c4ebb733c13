import SessionGateway.Text.Blank
import SessionGateway.Text.Percent

/-!
Form-encoded pairs, as in the query of a URL.
-/

namespace SessionGateway.Text.Form

def isKept (c : Char) : Bool :=
  c.isAlphanum || c == '*' || c == '-' || c == '.' || c == '_'

def encode (cs : List Char) : List Char :=
  cs.flatMap fun c => if c == ' ' then ['+'] else Percent.encodeChar (! isKept ·) c

def decode (cs : List Char) : List Char :=
  Utf8.decodeLossy (Percent.decode (cs.map fun c => if c == '+' then ' ' else c))

/-- The pairs of a query: empty parts are no pairs, and a part without `=` has an empty value. -/
def pairs (query : List Char) : List (String × String) :=
  ((pieces (· == '&') query).filter (! ·.isEmpty)).map fun part =>
    let (name, value) := cutAt '=' part
    (String.ofList (decode name), String.ofList (decode (value.getD [])))

end SessionGateway.Text.Form
