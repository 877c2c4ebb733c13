import SessionGateway.Url.Basic

/-!
Paths as lists of segments: reading them from text, where `.` and `..` are followed, and adding a
segment whose text may be anything.
-/

namespace SessionGateway.Url

def isSingleDot (segment : List Char) : Bool :=
  segment == ['.'] || segment.map Char.toLower == ['%', '2', 'e']

def isDoubleDot (segment : List Char) : Bool :=
  let dot : List Char := ['.']
  let coded : List Char := ['%', '2', 'e']
  [dot ++ dot, dot ++ coded, coded ++ dot, coded ++ coded].contains (segment.map Char.toLower)

def isDropped (c : Char) : Bool := c == '\t' || c == '\n' || c == '\r'

def kept (cs : List Char) : List Char := cs.filter (! isDropped ·)

def isDriveLetter : List Char → Bool
  | [c, d] => c.isAlpha && (d == ':' || d == '|')
  | _ => false

def namesDrive (segment : String) : Bool :=
  isDriveLetter (segment.toList.take 2) && (segment.toList.drop 2).head?.all (· == '\\')

/-- The segments above: the last is dropped, but never a drive letter. -/
def parent (segments : List String) : List String :=
  if segments.getLast?.any namesDrive then segments else segments.dropLast

/-- Goes down a path by one piece of its text, of which `isLast` says that no slash follows. A drive
letter at the start of a file's path is written with a colon. -/
def descend (isFile : Bool) (segments : List String) (piece : List Char) (isLast : Bool) :
    List String :=
  let piece := Text.Percent.encode inPathSet piece
  if isDoubleDot piece then if isLast then parent segments ++ [""] else parent segments
  else if isSingleDot piece then if isLast then segments ++ [""] else segments
  else if isFile && segments.isEmpty && isDriveLetter piece then
    [String.ofList (piece.take 1 ++ [':'])]
  else segments ++ [String.ofList piece]

def descendAll (isFile : Bool) (segments : List String) : List (List Char) → List String
  | [] => segments
  | [piece] => descend isFile segments piece true
  | piece :: rest => descendAll isFile (descend isFile segments piece false) rest

def withoutLeadingEmpty (segments : List String) : List String :=
  match segments.dropWhile (·.isEmpty) with
  | [] => [""]
  | rest => rest

def popEmpty (segments : List String) : List String :=
  if segments = [""] then segments
  else if segments.getLast? = some "" then segments.dropLast
  else segments

/-- Adds one segment. Tabs and line ends in it are dropped and the rest is encoded. A segment that
is `.` or `..` as given adds nothing; one that becomes so by dropping goes where it points. -/
def pushSegment (special : Bool) (segments : List String) (text : String) : List String :=
  if text = "." ∨ text = ".." then segments
  else
    let above := if segments = [""] then [] else segments
    let piece := Text.Percent.encode (inSegmentSet special) (kept text.toList)
    if isDoubleDot piece then parent above ++ [""]
    else if isSingleDot piece then above ++ [""]
    else above ++ [String.ofList piece]

def extend (u : Url) (texts : List String) : Url :=
  match u.path with
  | .flat _ => u
  | .segments list =>
    { u with
      path := .segments
        (texts.foldl (pushSegment (isSpecialScheme u.scheme)) (popEmpty list)) }

end SessionGateway.Url
