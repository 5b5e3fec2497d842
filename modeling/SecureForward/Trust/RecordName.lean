import SecureForward.Digest.Sha1
import SecureForward.Fault

/-!
# Names in a trust store

A host is recorded under its name, together with its port unless that is the default one. The name
may be hidden: a hashed name gives a salt and the keyed digest of the name under it, so that only
who knows the name recognises it.
-/

namespace SecureForward.RecordName

open SecureForward.Text.Utf8 (Bytes)
open SecureForward.Text (split)

/-- The name under which a host is recorded. -/
def ofHost (host : String) (port : Int) : String :=
  if port = Address.defaultPort then host else s!"[{host}]:{port}"

/-- What a hashed name begins with. -/
def mark : List Char := ['|', '1', '|']

/-- Whether a name begins like a hashed one. -/
def isHashed (name : String) : Bool :=
  mark.isPrefixOf name.toList

/-- The digest of a name under a salt. -/
def digest (salt : Bytes) (name : String) : Bytes :=
  Digest.hmacSha1 salt (Text.Utf8.encode name.toList)

/-- The hashed form of a name under a salt. -/
def hashed (salt : Bytes) (name : String) : String :=
  .ofList (mark ++ Base64.encode salt ++ '|' :: Base64.encode (digest salt name))

/-- The hashed form of a name under a salt of the right length. -/
def hash (salt : Bytes) (name : String) : Except Fault String :=
  if salt.length = Digest.sha1Size then .ok (hashed salt name) else .error .saltLength

/-- The salt in a hashed name. -/
def salt (recorded : String) : Except Fault Bytes :=
  let field := (split (· = '|') recorded.toList).getD 2 []
  match Base64.decode field with
  | .ok salt => .ok salt
  | .error e => .error (.base64 e)

/-- Whether a recorded name stands for a name: it is that name, or its hashed form. A name that
begins like a hashed one stands for itself only. -/
def denotes (recorded name : String) : Except Fault Bool :=
  if recorded = name then .ok true
  else if isHashed recorded && !isHashed name then do
    let form ← hash (← salt recorded) name
    return form == recorded
  else .ok false

end SecureForward.RecordName
