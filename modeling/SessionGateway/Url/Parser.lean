import SessionGateway.Url.File

/-!
Reading absolute URLs by the URL Standard.
-/

namespace SessionGateway.Url

def isTrimmed (c : Char) : Bool := c.toNat ≤ 0x20

def trimmed (s : String) : List Char :=
  Text.dropEndWhile isTrimmed (s.toList.dropWhile isTrimmed)

def isSchemeChar (c : Char) : Bool :=
  c.isAlphanum || c == '+' || c == '-' || c == '.'

def splitScheme? (input : List Char) : Option (String × List Char) :=
  match Text.cutAt ':' input with
  | (name, some rest) =>
    let name := kept name
    if (name.head?.any Char.isAlpha) && name.all isSchemeChar then
      some (String.ofList (name.map Char.toLower), rest)
    else none
  | (_, none) => none

def splitUser (cs : List Char) : Option (List Char) × List Char :=
  match cs.reverse.dropWhile (· != '@') with
  | [] => (none, cs)
  | _ :: user => (some user.reverse, (cs.reverse.takeWhile (· != '@')).reverse)

def userParts (cs : List Char) : String × Option String :=
  let encoded (cs : List Char) := String.ofList (Text.Percent.encode inUserSet cs)
  let (user, password) := Text.cutAt ':' cs
  (encoded user, (password.filter (! ·.isEmpty)).map encoded)

def splitHost (inBrackets : Bool) : List Char → List Char × List Char
  | [] => ([], [])
  | c :: rest =>
    if c == ':' && ! inBrackets then ([], c :: rest)
    else
      let inside := if c == '[' then true else if c == ']' then false else inBrackets
      let (host, after) := splitHost inside rest
      (c :: host, after)

/-- The port after a colon, where it is not the usual one of the scheme, and what follows its
digits. -/
def splitPort (scheme : String) : List Char → Except ParseError (Option Nat × List Char)
  | ':' :: rest =>
    let digits := rest.takeWhile Char.isDigit
    let n := digits.foldl (fun n c => 10 * n + (c.toNat - 0x30)) 0
    let after := rest.dropWhile Char.isDigit
    if 65535 < n then .error .portNumber
    else if ! after.isEmpty && after.head? != some '\\' then .error .portNumber
    else
      let shown := if digits.isEmpty || usualPorts.lookup scheme == some n then none else some n
      .ok (shown, after)
  | rest => .ok (none, rest)

def readHost (special : Bool) (cs : List Char) : Except ParseError Host :=
  if special then
    if cs.isEmpty then .error .emptyHost else Host.ofSpecial cs
  else Host.ofOther cs

def parseAuthority (scheme : String) (input : List Char) : Except ParseError Url := do
  let special := isSpecialScheme scheme
  let ends (c : Char) := isSlash special c || endsPath c
  let text := input.takeWhile (! ends ·)
  let after := input.dropWhile (! ends ·)
  let (user?, place) := splitUser text
  if user? == some [] && place.isEmpty && ! after.isEmpty then throw .emptyHost
  let (hostText, portText) := splitHost false place
  let host ← readHost special hostText
  if host == .name "" && ! portText.isEmpty then throw .emptyHost
  let (portNumber, leftover) ← splitPort scheme portText
  let (user, password) := userParts (user?.getD [])
  if host == .name "" && (! user.isEmpty || password.isSome) then throw .emptyHost
  let authority : Authority := ⟨user, password, host, portNumber⟩
  let after := leftover ++ after
  match after with
  | [] => return finish scheme (some authority) (.segments (if special then [""] else [])) []
  | c :: rest =>
    if ! special && endsPath c then
      return finish scheme (some authority) (.segments []) after
    else
      let (segments, rest) := splitPath scheme [] (if isSlash special c then rest else after)
      return finish scheme (some authority) (.segments segments) rest

def startsDouble (segments : List String) : Bool :=
  segments.head? == some "" && 1 < segments.length

def parseOther (scheme : String) : List Char → Except ParseError Url
  | '/' :: '/' :: rest => parseAuthority scheme rest
  | '/' :: rest =>
    let (segments, rest) := splitPath scheme [] rest
    .ok { finish scheme none (.segments segments) rest with isMarked := startsDouble segments }
  | input =>
    let text := Text.Percent.encode inControlSet (input.takeWhile (! endsPath ·))
    .ok (finish scheme none (.flat (String.ofList text)) (input.dropWhile (! endsPath ·)))

def parse (s : String) : Except ParseError Url :=
  match splitScheme? (trimmed s) with
  | none => .error .relative
  | some (scheme, rest) =>
    if scheme == "file" then parseFile rest
    else if isSpecialScheme scheme then
      parseAuthority scheme ((kept rest).dropWhile (isSlash true))
    else parseOther scheme (kept rest)

end SessionGateway.Url
