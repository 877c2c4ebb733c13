/-!
Whole numbers in decimal text: an optional sign and digits, nothing else.
-/

namespace SessionGateway.Text

def digits? (cs : List Char) : Option Nat :=
  if cs.isEmpty || ! cs.all Char.isDigit then none
  else some (cs.foldl (fun n c => 10 * n + (c.toNat - 0x30)) 0)

def natural? (greatest : Nat) (s : String) : Option Nat :=
  let n? :=
    match s.toList with
    | '+' :: cs => digits? cs
    | cs => digits? cs
  n?.filter (· ≤ greatest)

def integer? (least greatest : Int) (s : String) : Option Int :=
  let n? : Option Int :=
    match s.toList with
    | '+' :: cs => (digits? cs).map (↑·)
    | '-' :: cs => (digits? cs).map fun n => -(n : Int)
    | cs => (digits? cs).map (↑·)
  n?.filter fun n => least ≤ n && n ≤ greatest

end SessionGateway.Text
