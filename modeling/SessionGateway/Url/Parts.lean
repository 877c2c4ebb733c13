import SessionGateway.Text.Blank
import SessionGateway.Url.Path

/-!
The parts of a URL after its authority: path, query and fragment.
-/

namespace SessionGateway.Url

def isSlash (special : Bool) (c : Char) : Bool := c == '/' || (special && c == '\\')

def endsPath (c : Char) : Bool := c == '?' || c == '#'

/-- The segments of a path below `above`, whose leading slash has been read, and the query and
fragment after it. -/
def splitPath (scheme : String) (above : List String) (input : List Char) :
    List String × List Char :=
  let special := isSpecialScheme scheme
  let text := input.takeWhile (! endsPath ·)
  (descendAll (scheme == "file") above (Text.pieces (isSlash special) text),
    input.dropWhile (! endsPath ·))

def splitQuery (special : Bool) : List Char → Option String × List Char
  | '?' :: rest =>
    (some (String.ofList (Text.Percent.encode (inQuerySet special) (rest.takeWhile (· != '#')))),
      rest.dropWhile (· != '#'))
  | rest => (none, rest)

def fragment? : List Char → Option String
  | '#' :: rest => some (String.ofList (Text.Percent.encode inFragmentSet rest))
  | _ => none

def finish (scheme : String) (authority : Option Authority) (path : Path) (rest : List Char) :
    Url :=
  let (query, rest) := splitQuery (isSpecialScheme scheme) rest
  { scheme, authority, path, query, fragment := fragment? rest }

end SessionGateway.Url
