import SessionGateway.Session.Claims
import SessionGateway.Text.Base64Url
import SessionGateway.Text.Blank

/-!
Session tokens: three segments between dots, of which the middle one holds the claims. Nothing
here checks the signature.
-/

namespace SessionGateway.Token

inductive DecodeError where
  | segments
  | encoding (cause : Text.Base64Url.DecodeError)
  | claims (cause : Json.ReadError)

def DecodeError.message : DecodeError → String
  | segments => "expected three dot-separated segments"
  | encoding cause => "payload is not base64url: " ++ cause.message
  | claims cause => "payload is not a JSON object: " ++ cause.message

def payload? (token : String) : Option (List Char) :=
  match Text.pieces (· == '.') (Text.trimBlank token.toList) with
  | [_, payload, _] => some payload
  | _ => none

def claims (token : String) : Except DecodeError Claims :=
  match payload? token with
  | none => .error .segments
  | some payload =>
    let symbols := Text.Utf8.encode (Text.dropEndWhile (· == '=') payload)
    match Text.Base64Url.decode symbols with
    | .error cause => .error (.encoding cause)
    | .ok bytes =>
      match Json.readBytes Claims.read bytes with
      | .error cause => .error (.claims cause)
      | .ok c => .ok c

end SessionGateway.Token
