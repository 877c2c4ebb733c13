import SessionGateway.Text.CanonicalTable

/-!
The canonical composed form of text: characters are taken apart, marks are put in order, and what
belongs together is composed.
-/

namespace SessionGateway.Text

def combiningClass (c : Char) : Nat :=
  ((combiningRanges.find? fun (_, ranges) => inRanges ranges c).map (·.1)).getD 0

/-! Hangul syllables are counted by lead, vowel and tail: 19, 21 and 28 with no tail as one. -/

def isSyllable (n : Nat) : Bool := 0xAC00 ≤ n && n < 0xD7A4

def splitSyllable (n : Nat) : List Nat :=
  let i := n - 0xAC00
  let tail := if i % 28 = 0 then [] else [0x11A7 + i % 28]
  [0x1100 + i / 588, 0x1161 + i % 588 / 28] ++ tail

def joinSyllable? (a b : Nat) : Option Nat :=
  if 0x1100 ≤ a && a < 0x1113 && 0x1161 ≤ b && b < 0x1176 then
    some (0xAC00 + ((a - 0x1100) * 21 + (b - 0x1161)) * 28)
  else if isSyllable a && (a - 0xAC00) % 28 == 0 && 0x11A8 ≤ b && b < 0x11C3 then
    some (a + (b - 0x11A7))
  else none

def splitChar (c : Char) : List Char :=
  let n := c.toNat
  if isSyllable n then (splitSyllable n).map Char.ofNat
  else
    match (singleRows ++ pairRows).findSome? (·.image? n) with
    | some ns => ns.map Char.ofNat
    | none => [c]

/-- Characters taken apart in full. No character goes down more than three steps. -/
def decomposed (cs : List Char) : List Char :=
  let step (cs : List Char) := cs.flatMap splitChar
  step (step (step cs))

/-- Puts a mark in front of text whose marks are in order: it goes after those of a lower class, up
to a character that keeps its place. -/
def insertMark (c : Char) : List Char → List Char
  | [] => [c]
  | x :: rest =>
    if 0 < combiningClass x && combiningClass x < combiningClass c then x :: insertMark c rest
    else c :: x :: rest

def ordered (cs : List Char) : List Char := cs.foldr insertMark []

def pairOf? (a b : Nat) : Option Nat :=
  (pairRows.find? fun row => row.image == [a, b]).map ImageRow.first

def join? (a b : Char) : Option Char :=
  (((joinSyllable? a.toNat b.toNat).or (pairOf? a.toNat b.toNat)).map Char.ofNat).filter
    (! inRanges uncomposedRanges ·)

/-- Composes `start` with what follows it; `marks` have been passed already. Only a mark of a higher
class than the last one passed can still reach the start. -/
def composeAfter (start : Char) (marks : List Char) : List Char → List Char
  | [] => start :: marks
  | c :: rest =>
    let reaches := marks.getLast?.all (combiningClass · < combiningClass c)
    match if reaches then join? start c else none with
    | some joined => composeAfter joined marks rest
    | none =>
      if combiningClass c = 0 then start :: marks ++ composeAfter c [] rest
      else composeAfter start (marks ++ [c]) rest

def composed : List Char → List Char
  | [] => []
  | c :: rest => if combiningClass c = 0 then composeAfter c [] rest else c :: composed rest

def canonical (cs : List Char) : List Char := composed (ordered (decomposed cs))

end SessionGateway.Text
