import SecureForward.Act

/-!
# Endpoint targets

The endpoint of a client, kept as a host and a port or as a URI, which can be redirected to the
local end of a tunnel. In a URI only host and port are replaced. A URI may keep its own host, so
that names in certificates still match. A target that cannot be redirected stays as it was.
-/

namespace SecureForward

namespace Uri

/-- Host and port as an authority holds them: a host with a colon stands in brackets, unless it
begins with one. -/
def hostAndPort (host : List Char) (port : Int) : List Char :=
  let host :=
    if host.contains ':' && host.head? != some '[' then '[' :: (host ++ [']']) else host
  host ++ ':' :: (toString port).toList

/-- The URI with another host and port. -/
def withAddress (u : Uri) (host : List Char) (port : Int) : Uri :=
  let address := hostAndPort host port
  let userInfo := u.userInfo
  { u with authority := if userInfo.isEmpty then address else userInfo ++ '@' :: address }

/-- Divides a text into the parts of a URI. -/
def ofString (text : String) : Except Fault Uri :=
  match ofList text.toList with
  | .ok u => .ok u
  | .error e => .error (.uri e)

/-- The URI in a text with another host and port. It needs a scheme and a host. -/
def redirect (text : String) (host : List Char) (port : Int) : Except Fault String := do
  let u ← ofString text
  if u.scheme.isEmpty || u.hostname.isNone then throw (.refusal (.invalidUri text))
  return .ofList (u.withAddress host port).toList

end Uri

/-- The endpoint of a client. -/
inductive Target where
  /-- An endpoint kept as host and port. -/
  | hostPort (address : Address)
  /-- An endpoint kept as a URI; `keepsHost` says that redirecting replaces the port only. -/
  | uri (text : String) (keepsHost : Bool)
deriving DecidableEq, Repr

namespace Target

/-- The host that a URI is given when it is redirected to `host`. A URI without a host is refused
later. -/
def newHost (text : String) (keepsHost : Bool) (host : String) : Except Fault (List Char) :=
  if keepsHost then do
    let u ← Uri.ofString text
    return u.hostname.getD []
  else return host.toList

/-- The endpoint redirected to another address. In a URI the port has to be written, which a number
of too many digits cannot be. -/
def redirect (target : Target) (address : Address) : Except Fault Target :=
  match target with
  | .hostPort _ => return .hostPort address
  | .uri text keepsHost => do
    let host ← newHost text keepsHost address.host
    let redirected ← Uri.redirect text host address.port
    if !Decimal.isWritable address.port then throw (.integer .unwritable)
    return .uri redirected keepsHost

/-- Puts the endpoint redirected to another address in its place. -/
def override (address : Address) : Act Target Unit := do
  let target ← get
  let redirected ← Act.ofExcept (target.redirect address)
  set redirected

end Target

end SecureForward
