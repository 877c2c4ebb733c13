import SessionGateway.Text.CaseTable

/-!
Lower case in full: each letter goes to its lower-case letters, and a capital sigma that ends a
word goes to the final form.
-/

namespace SessionGateway.Text

def isCased (c : Char) : Bool := inRanges casedRanges c

def isCaseIgnorable (c : Char) : Bool := inRanges caseIgnorableRanges c

def lowerChar (c : Char) : List Char :=
  match lowerRows.findSome? (·.image? c.toNat) with
  | some ns => ns.map Char.ofNat
  | none => [c]

def meetsCased (cs : List Char) : Bool :=
  match cs.dropWhile isCaseIgnorable with
  | [] => false
  | c :: _ => isCased c

def lowerSigma (before after : List Char) : Char :=
  if meetsCased before && ! meetsCased after then '\u03C2' else '\u03C3'

/-- Lower case of what follows `before`, which is read backwards. -/
def lowerAfter (before : List Char) : List Char → List Char
  | [] => []
  | c :: rest =>
    if c = '\u03A3' then lowerSigma before rest :: lowerAfter (c :: before) rest
    else lowerChar c ++ lowerAfter (c :: before) rest

def lowerChars (cs : List Char) : List Char := lowerAfter [] cs

def lower (s : String) : String := String.ofList (lowerChars s.toList)

end SessionGateway.Text
