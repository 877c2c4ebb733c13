import SessionGateway.Text.Blank
import SessionGateway.Text.Hex

/-!
Tables of code points. The long ones are kept as lines of hexadecimal text and read from there.
-/

namespace SessionGateway.Text

def inRanges (ranges : List (Nat × Nat)) (c : Char) : Bool :=
  ranges.any fun (first, last) => first ≤ c.toNat && c.toNat ≤ last

def entriesOf (lines : List String) : List (List Char) := lines.flatMap (words ·.toList)

/-- `A-B` is the range from `A` to `B`, and `A` alone is a range of one. -/
def rangeOf (cs : List Char) : Nat × Nat :=
  match cutAt '-' cs with
  | (first, some last) => (hexNumber first, hexNumber last)
  | (first, none) => (hexNumber first, hexNumber first)

def rangesOf (lines : List String) : List (Nat × Nat) := (entriesOf lines).map rangeOf

/-- The code points from `first` to `last`, `stride` apart, with what they stand for: the first for
`image`, the others for what runs on from it in step. -/
structure ImageRow where
  first : Nat
  last : Nat
  stride : Nat
  image : List Nat

def ImageRow.image? (row : ImageRow) (n : Nat) : Option (List Nat) :=
  if row.first ≤ n && n ≤ row.last && (n - row.first) % row.stride == 0 then
    some (row.image.map (· + (n - row.first)))
  else none

/-- `A-B/S>C,D` is the row from `A` to `B`, `S` apart, for `C` and `D`. The stride is one where it
is left out. -/
def imageRowOf (cs : List Char) : ImageRow :=
  let (source, image) := cutAt '>' cs
  let (source, stride) := cutAt '/' source
  let (first, last) := rangeOf source
  ⟨first, last, (stride.map hexNumber).getD 1,
    (pieces (· == ',') (image.getD [])).map hexNumber⟩

def imageRowsOf (lines : List String) : List ImageRow := (entriesOf lines).map imageRowOf

end SessionGateway.Text
