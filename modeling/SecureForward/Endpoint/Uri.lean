import SecureForward.Decimal.Integer
import SecureForward.Endpoint.IpAddress
import SecureForward.Text.Lower

/-!
# Endpoint URIs

A URI is divided into scheme, authority, path, query and fragment. The authority holds user
information, a host and a port: `userInfo`, `hostname` and `port`. Brackets stand around a host that
is an address of version 6 or of a later version, and nowhere else.
-/

namespace SecureForward

open SecureForward.Text (cut cutLast isAsciiDigit lower quote)

/-- The parts of a URI. -/
structure Uri where
  /-- The scheme, in small letters. -/
  scheme : List Char
  /-- User information, host and port. -/
  authority : List Char
  /-- The path. -/
  path : List Char
  /-- What follows the question mark. -/
  query : List Char
  /-- What follows the number sign. -/
  fragment : List Char
deriving DecidableEq, Repr

/-- The authority that a URI directs to. -/
structure Uri.HostInfo where
  /-- The host as written, without brackets. -/
  host : List Char
  /-- The port as written. -/
  port : List Char
deriving DecidableEq, Repr

/-- Why a text is not a URI, or has no port. -/
inductive Uri.Error where
  /-- A bracket is missing, or stands where none may stand. -/
  | misplacedBracket
  /-- The host between brackets announces a later version and is no such address. -/
  | invalidFutureAddress
  /-- The host between brackets is no address. -/
  | notAnAddress (host : List Char)
  /-- The host between brackets is an address of version 4. -/
  | bracketedVersion4
  /-- A character of the authority stands for a delimiter once it is normalised. -/
  | hiddenDelimiter (authority : List Char)
  /-- The port is no number. -/
  | portNotNumeric (port : List Char)
  /-- The port has too many digits. -/
  | portTooLong (digits : Nat)
  /-- The port is too great. -/
  | portOutOfRange
deriving DecidableEq, Repr

namespace Uri

/-- The error in words. -/
def Error.message : Error → String
  | .misplacedBracket => "Invalid IPv6 URL"
  | .invalidFutureAddress => "IPvFuture address is invalid"
  | .notAnAddress host =>
    String.ofList (quote host) ++ " does not appear to be an IPv4 or IPv6 address"
  | .bracketedVersion4 => "An IPv4 address cannot be in brackets"
  | .hiddenDelimiter authority =>
    "netloc '" ++ String.ofList authority ++
      "' contains invalid characters under NFKC normalization"
  | .portNotNumeric port =>
    "Port could not be cast to integer value as " ++ String.ofList (quote port)
  | .portTooLong digits => (Decimal.IntegerError.tooManyDigits digits).message
  | .portOutOfRange => "Port out of range 0-65535"

/-- Whether a character may stand in a scheme. -/
def isSchemeChar (c : Char) : Bool :=
  c.isAlpha || isAsciiDigit c || c == '+' || c == '-' || c == '.'

/-- The text without leading control characters and blanks, and without tabs and line breaks. -/
def clean (l : List Char) : List Char :=
  (l.dropWhile fun c => c.toNat ≤ 0x20).filter fun c => c != '\t' && c != '\r' && c != '\n'

/-- The scheme, in small letters, and the text after its colon; a text that does not begin with a
scheme has an empty one. -/
def takeScheme (l : List Char) : List Char × List Char :=
  match cut ':' l with
  | (c :: scheme, some rest) =>
    if c.isAlpha && scheme.all isSchemeChar then ((c :: scheme).map Char.toLower, rest) else ([], l)
  | _ => ([], l)

/-- Whether a character ends the authority. -/
def endsAuthority (c : Char) : Bool :=
  c == '/' || c == '?' || c == '#'

/-- The authority and the text after it; a text that does not begin with two slashes has an empty
one. -/
def takeAuthority : List Char → List Char × List Char
  | '/' :: '/' :: l => (l.takeWhile (!endsAuthority ·), l.dropWhile (!endsAuthority ·))
  | l => ([], l)

/-- The code points beyond ASCII whose compatibility form contains one of the characters `/?#@:`. -/
def hidingCodes : List Nat :=
  [0x2047, 0x2048, 0x2049, 0x2100, 0x2101, 0x2105, 0x2106, 0x2a74, 0xfe13, 0xfe16, 0xfe55, 0xfe56,
    0xfe5f, 0xfe6b, 0xff03, 0xff0f, 0xff1a, 0xff1f, 0xff20]

/-- The characters after the last at sign. -/
def afterUserInfo (authority : List Char) : List Char :=
  (cutLast '@' authority).2

/-- The characters before the last at sign. -/
def beforeHost (authority : List Char) : List Char :=
  (cutLast '@' authority).1.getD []

/-- Whether a text is an address of a later version: the letter `v`, hexadecimal digits, a full stop
and something after it. -/
def isFutureAddress (l : List Char) : Bool :=
  match cut '.' l with
  | (_ :: version, some rest) =>
    !version.isEmpty && version.all IpAddress.isHexDigit && !rest.isEmpty
  | _ => false

/-- Checks the host between brackets. -/
def checkBracketed (host : List Char) : Except Error Unit :=
  if host.head? = some 'v' then
    if isFutureAddress host then .ok () else .error .invalidFutureAddress
  else if IpAddress.isVersion4 host then .error .bracketedVersion4
  else if IpAddress.isVersion6 host then .ok ()
  else .error (.notAnAddress host)

/-- Checks the brackets of an authority: nothing stands before the first, and only a port after the
second. -/
def checkBrackets (authority : List Char) : Except Error Unit :=
  match authority.contains '[', authority.contains ']' with
  | false, false => .ok ()
  | true, true =>
    let hostAndPort := afterUserInfo authority
    match cut '[' hostAndPort with
    | (before, some inside) =>
      let (host, after) := cut ']' inside
      if !before.isEmpty then .error .misplacedBracket
      else if after.any fun port => !port.isEmpty && port.head? != some ':' then
        .error .misplacedBracket
      else checkBracketed host
    | (_, none) => checkBracketed (cut ':' hostAndPort).1
  | _, _ => .error .misplacedBracket

/-- Checks that no character of the authority turns into a delimiter when it is normalised. -/
def checkHidden (authority : List Char) : Except Error Unit :=
  if authority.any fun c => hidingCodes.contains c.toNat then .error (.hiddenDelimiter authority)
  else .ok ()

/-- Divides a text into the parts of a URI. -/
def ofList (l : List Char) : Except Error Uri := do
  let (scheme, l) := takeScheme (clean l)
  let (authority, l) := takeAuthority l
  checkBrackets authority
  let (l, fragment) := cut '#' l
  let (path, query) := cut '?' l
  checkHidden authority
  return { scheme, authority, path, query := query.getD [], fragment := fragment.getD [] }

/-- The text of a URI that has an authority. A path begins with a slash there, and an empty query or
fragment leaves no trace. -/
def toList (u : Uri) : List Char :=
  let path := if u.path.isEmpty || u.path.head? = some '/' then u.path else '/' :: u.path
  let scheme := if u.scheme.isEmpty then [] else u.scheme ++ [':']
  let query := if u.query.isEmpty then [] else '?' :: u.query
  let fragment := if u.fragment.isEmpty then [] else '#' :: u.fragment
  scheme ++ '/' :: '/' :: u.authority ++ path ++ query ++ fragment

/-- The user information. -/
def userInfo (u : Uri) : List Char :=
  beforeHost u.authority

/-- Host and port as the authority gives them. -/
def hostInfo (u : Uri) : HostInfo :=
  let hostAndPort := afterUserInfo u.authority
  match cut '[' hostAndPort with
  | (_, some inside) =>
    let (host, after) := cut ']' inside
    { host, port := (cut ':' (after.getD [])).2.getD [] }
  | (_, none) =>
    let (host, port) := cut ':' hostAndPort
    { host, port := port.getD [] }

/-- The host in small letters; what follows a percent sign, the zone of an address, is left as it
is. -/
def hostname (u : Uri) : Option (List Char) :=
  let host := u.hostInfo.host
  if host.isEmpty then none
  else
    match cut '%' host with
    | (name, some zone) => some (lower name ++ '%' :: zone)
    | (name, none) => some (lower name)

/-- The port, if there is one. -/
def port (u : Uri) : Except Error (Option Nat) :=
  let digits := u.hostInfo.port
  if digits.isEmpty then .ok none
  else if !digits.all isAsciiDigit then .error (.portNotNumeric digits)
  else if Decimal.digitLimit < digits.length then .error (.portTooLong digits.length)
  else
    let n := Nat.ofDigitChars 10 digits 0
    if 65535 < n then .error .portOutOfRange else .ok (some n)

end Uri

end SecureForward
