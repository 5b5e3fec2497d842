import SecureForward.Property.Value

/-!
# Tunnel configuration

The parameters of one tunnel: the host that it goes through and how to log in there, how the host is
verified, and the target behind it. A configuration that asks for a tunnel is checked when it is
made; the field that is checked first and fails is the one reported.
-/

namespace SecureForward

/-- The parameters of a tunnel. -/
structure Config where
  /-- The host that the tunnel goes through. -/
  host : String
  /-- The port of that host. -/
  port : Int
  /-- The user to log in as. -/
  user : String
  /-- The file with the user's private key. -/
  keyFile : String
  /-- The file with the known host keys, if not the default one. -/
  knownHostsFile : Option String
  /-- Whether the host is verified. -/
  verifiesHost : Bool
  /-- The host that the tunnel leads to. -/
  targetHost : String
  /-- The port that the tunnel leads to. -/
  targetPort : Int
  /-- What the private key is decrypted with. -/
  passphrase : Value
  /-- Whether a tunnel is asked for. -/
  enabled : Bool

namespace Config

/-- The configuration that asks for no tunnel. -/
def disabled : Config :=
  { host := "", port := Address.defaultPort, user := "", keyFile := "", knownHostsFile := none,
    verifiesHost := true, targetHost := "", targetPort := 0, passphrase := .null,
    enabled := false }

/-- The address that the tunnel leads to. -/
def target (config : Config) : String :=
  s!"{config.targetHost}:{config.targetPort}"

/-- Whether a number is a port that can be connected to. -/
def isPort (n : Int) : Bool :=
  1 ≤ n && n ≤ 65535

/-- The first thing that is wrong with a configuration that asks for a tunnel. -/
def flaw? (config : Config) : Option Reason :=
  if config.host.isEmpty then some .hostRequired
  else if config.user.isEmpty then some .userRequired
  else if config.keyFile.isEmpty then some .keyFileRequired
  else if config.targetHost.isEmpty then some .targetHostRequired
  else if !isPort config.port then some .invalidHostPort
  else if !isPort config.targetPort then some .invalidTargetPort
  else none

/-- The configuration, if nothing is wrong with it or no tunnel is asked for. -/
def checked (config : Config) : Except Fault Config :=
  if config.enabled then
    match config.flaw? with
    | some reason => .error (.refusal reason)
    | none => .ok config
  else .ok config

/-- Whether a configuration is the one that asks for no tunnel, in every field. -/
def isDisabled (config : Config) : Bool :=
  config.host.isEmpty && config.port == Address.defaultPort && config.user.isEmpty
    && config.keyFile.isEmpty && config.knownHostsFile.isNone && config.verifiesHost
    && config.targetHost.isEmpty && config.targetPort == 0 && !config.enabled
    && (match config.passphrase with | .null => true | _ => false)

end Config

end SecureForward
