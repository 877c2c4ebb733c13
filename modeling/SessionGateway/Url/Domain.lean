import SessionGateway.Url.DomainTable
import SessionGateway.Url.Label
import SessionGateway.Url.Punycode

/-!
Names of hosts in ASCII: characters are mapped, and labels with others than ASCII are coded.
-/

namespace SessionGateway.Url.Domain

def isAscii (c : Char) : Bool := c.toNat < 0x80

def mapChar? (c : Char) : Option (List Char) :=
  if Text.inRanges disallowedRanges c then none
  else if Text.inRanges ignoredRanges c then some []
  else
    match mappedRows.findSome? (·.image? c.toNat) with
    | some ns => some (ns.map Char.ofNat)
    | none => some [c]

def mapped? (cs : List Char) : Option (List Char) :=
  (cs.mapM mapChar?).map fun images => Text.canonical images.flatten

def codedMark : List Char := ['x', 'n', '-', '-']

def isCoded (label : List Char) : Bool := codedMark.isPrefixOf label

def longestCoded : Nat := 2000
def longestUncoded : Nat := 1000

/-- What the coded text of a label stands for: a label with others than ASCII that mapping would not
change. -/
def decoded? (text : List Char) : Option (List Char) :=
  if longestCoded < text.length then none
  else
    (Punycode.decode? text).filter fun label =>
      ! label.all isAscii && ! isCoded label
        && label.all (fun c => mapChar? c == some [c]) && Text.canonical label == label

def forms? (label : List Char) : Option (List Char × List Char) :=
  if isCoded label then
    if label.all isAscii then (decoded? (label.drop 4)).map fun meant => (label, meant) else none
  else if label.all isAscii then some (label, label)
  else if longestUncoded < label.length then none
  else some (codedMark ++ Punycode.encode label, label)

def toAscii? (cs : List Char) : Option (List Char) :=
  let lower := cs.map Char.toLower
  if lower.all isAscii && ! (Text.pieces (· == '.') lower).any isCoded then some lower
  else do
    let mapped ← mapped? cs
    let forms ← (Text.pieces (· == '.') mapped).mapM forms?
    let meant := forms.map (·.2)
    if meant.all isLabel && (! meant.any runsBack || meant.all runsOneWay) then
      some (['.'].intercalate (forms.map (·.1)))
    else none

end SessionGateway.Url.Domain
