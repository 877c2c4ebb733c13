import SessionGateway.Text.Canonical
import SessionGateway.Url.LabelTable

/-!
What a label of a name may look like: its first character, the joiners in it, and the direction of
its text.
-/

namespace SessionGateway.Url

inductive Direction where
  | leftToRight
  | rightToLeft
  | arabicDigit
  | digit
  /-- A mark that takes the direction of what it stands on. -/
  | mark
  | neutral
  deriving DecidableEq, Repr

def direction (c : Char) : Direction :=
  if Text.inRanges rightToLeftRanges c then .rightToLeft
  else if Text.inRanges arabicDigitRanges c then .arabicDigit
  else if Text.inRanges digitRanges c then .digit
  else if Text.inRanges nonspacingRanges c then .mark
  else if Text.inRanges neutralRanges c then .neutral
  else .leftToRight

def runsBack (label : List Char) : Bool :=
  label.any fun c => direction c == .rightToLeft || direction c == .arabicDigit

/-- Whether the text of a label runs one way: what it starts with decides what it may have and what
it may end with, marks at the end left aside. -/
def runsOneWay (label : List Char) : Bool :=
  let kinds := label.map direction
  let ends (allowed : List Direction) :=
    (kinds.reverse.dropWhile (· == .mark)).head?.any allowed.contains
  match kinds.head? with
  | none => true
  | some .leftToRight =>
    kinds.all [.leftToRight, .digit, .mark, .neutral].contains && ends [.leftToRight, .digit]
  | some .rightToLeft =>
    ! kinds.contains .leftToRight && ! (kinds.contains .digit && kinds.contains .arabicDigit)
      && ends [.rightToLeft, .digit, .arabicDigit]
  | some _ => false

/-- Whether the first character that joining does not look through is in one of the ranges. -/
def meetsJoining (ranges : List (Nat × Nat)) (cs : List Char) : Bool :=
  (cs.dropWhile (Text.inRanges transparentRanges)).head?.any (Text.inRanges ranges)

/-- The class of the marks that leave a consonant without its vowel. -/
def viramaClass : Nat := 9

/-- Whether the joiners after `before`, which is read backwards, stand where they are of use: after
a virama, or the non-joiner between two characters that would join. -/
def joinersFit (before : List Char) : List Char → Bool
  | [] => true
  | c :: rest =>
    let afterVirama := before.head?.any (Text.combiningClass · == viramaClass)
    let isFit :=
      if c = '\u200D' then afterVirama
      else if c = '\u200C' then
        afterVirama || (meetsJoining (dualJoiningRanges ++ leftJoiningRanges) before
          && meetsJoining (dualJoiningRanges ++ rightJoiningRanges) rest)
      else true
    isFit && joinersFit (c :: before) rest

def isLabel (label : List Char) : Bool :=
  ! label.head?.any (Text.inRanges markRanges) && joinersFit [] label

end SessionGateway.Url
