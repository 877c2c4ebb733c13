/-!
Media types, as far as to tell those of JSON from others.
-/

namespace SessionGateway.MediaType

def isTokenChar (c : Char) : Bool :=
  c.isAlphanum || ['!', '#', '$', '%', '&', '*', '+', '-', '.', '^', '_', '`', '|', '~'].contains c
    || c.toNat == 0x27

def isQuotable (c : Char) : Bool := 0x20 ≤ c.toNat && c.toNat < 0x7F

def afterQuoted : List Char → Option (List Char)
  | [] => some []
  | c :: rest => if c == ';' then some rest else if c == ' ' then afterQuoted rest else none

/-- What follows a quoted value whose opening quote has been read. Its first character may be a
quote, and there must be one. -/
def quotedTail : List Char → Option (List Char)
  | [] => none
  | c :: rest =>
    match rest.dropWhile fun c => isQuotable c && c != '"' with
    | '"' :: after => if isQuotable c then afterQuoted after else none
    | _ => none

/-- What follows the value of a parameter. A value without quotes may be empty at the end only. -/
def valueTail : List Char → Option (List Char)
  | '"' :: rest => quotedTail rest
  | input =>
    match input.dropWhile isTokenChar with
    | [] => some []
    | c :: rest => if c == ';' && input.head? != some ';' then some rest else none

/-- Whether the text after a semicolon is a list of parameters. Each one takes a character at
least, and the first argument bounds them. -/
def areParameters : Nat → List Char → Bool
  | 0, _ => false
  | fuel + 1, input =>
    match input.dropWhile (· == ' ') with
    | [] => true
    | named =>
      match named.dropWhile isTokenChar with
      | '=' :: rest =>
        named.head? != some '=' &&
          match valueTail rest with
          | some tail => areParameters fuel tail
          | none => false
      | _ => false

/-- The subtype before its last plus sign, and the suffix after it. A plus sign in front is part
of the subtype. -/
def splitSuffix (subtype : List Char) : List Char × Option (List Char) :=
  let suffix := (subtype.reverse.takeWhile (· != '+')).reverse
  let before := subtype.take (subtype.length - suffix.length - 1)
  if subtype.contains '+' && ! before.isEmpty then (before, some suffix) else (subtype, none)

def lowered (cs : List Char) : String := String.ofList (cs.map Char.toLower)

def isJson (text : String) : Bool :=
  let cs := text.toList
  let main := cs.takeWhile isTokenChar
  match cs.dropWhile isTokenChar with
  | '/' :: rest =>
    let subtype := rest.takeWhile isTokenChar
    let wellFormed :=
      match rest.dropWhile isTokenChar with
      | [] => true
      | ';' :: parameters => ! subtype.isEmpty && areParameters (parameters.length + 1) parameters
      | _ => false
    let (before, suffix) := splitSuffix subtype
    ! main.isEmpty && wellFormed && lowered main == "application"
      && (lowered before == "json" || suffix.map lowered == some "json")
  | _ => false

end SessionGateway.MediaType
