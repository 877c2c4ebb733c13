import SessionGateway.Url.Host
import SessionGateway.Url.Parts

/-!
URLs of files. Their text is read with the tabs and line ends that other URLs drop beforehand,
because these part a drive letter from what follows it.
-/

namespace SessionGateway.Url

def afterSlash? (input : List Char) : Option (List Char) :=
  match input.dropWhile isDropped with
  | c :: rest => if isSlash true c then some rest else none
  | [] => none

def endsFileHost (c : Char) : Bool := isSlash true c || endsPath c

/-- A drive letter with its colon, and the text of the same piece that a tab or line end parts from
it. -/
def partedDrive? (input : List Char) : Option (List Char × List Char) :=
  let piece := input.takeWhile (! endsFileHost ·)
  let drive := (kept piece).take 2
  let after := piece.dropWhile (· != ':')
  let text := kept (after.drop 1)
  if isDriveLetter drive && drive.getLast? == some ':' && (after.drop 1).head?.any isDropped
      && ! text.isEmpty then
    some (drive, text)
  else none

def fileOf (host : Host) (segments : List String) (rest : List Char) : Url :=
  finish "file" (some ⟨"", none, host, none⟩) (.segments (withoutLeadingEmpty segments)) rest

/-- A file by its host and its path. A drive letter in front takes the host away; text parted from
it is a segment of its own, whatever it is, and the host stays. -/
def fileAt (host : Host) (input : List Char) : Url :=
  match partedDrive? input with
  | some (drive, text) =>
    let front := [drive, Text.Percent.encode inPathSet text].map String.ofList
    let after := kept (input.dropWhile (! endsFileHost ·))
    match afterSlash? after with
    | some path =>
      let (segments, rest) := splitPath "file" front path
      fileOf host segments rest
    | none => fileOf host front after
  | none =>
    let (segments, rest) := splitPath "file" [] (kept input)
    let onDrive := segments.head?.any (isDriveLetter ·.toList)
    fileOf (if onDrive then .name "" else host) segments rest

def parseFile (input : List Char) : Except ParseError Url :=
  let noHost : Host := .name ""
  match afterSlash? input with
  | none => .ok (fileAt noHost input)
  | some path =>
    match afterSlash? path with
    | none => .ok (fileAt noHost path)
    | some place =>
      let hostText := kept (place.takeWhile (! endsFileHost ·))
      let path := place.dropWhile (! endsFileHost ·)
      if hostText.isEmpty || isDriveLetter hostText then .ok (fileAt noHost place)
      else do
        let host ← Host.ofSpecial hostText
        if host == .name "localhost" then return fileAt noHost path
        return fileAt host ((afterSlash? path).getD path)

end SessionGateway.Url
