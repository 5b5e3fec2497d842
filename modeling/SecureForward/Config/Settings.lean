import SecureForward.Property.Value

/-!
# Settings

The settings of the program, read from environment variables. A variable that holds no whole number
where one is expected is refused; whether the numbers make sense is checked later.
-/

namespace SecureForward

/-- The settings of the program. -/
structure Settings where
  /-- How long an attempt to connect may take, in milliseconds. -/
  connectTimeout : Int
  /-- The local host that tunnels listen on. -/
  localHost : String
  /-- The local port to ask for; with zero, any free one is taken. -/
  localPort : Int
  /-- The port of a host that names no other. -/
  hostPort : Int
  /-- The file with the known host keys. -/
  knownHostsFile : String
  /-- Whether new hosts are taken and recorded. -/
  acceptsNewHosts : Bool
  /-- The name of the log level. -/
  logLevel : String
  /-- The log file, if not empty. -/
  logFile : String
deriving DecidableEq, Repr

namespace Settings

/-- The value of an environment variable, or what stands for it when it is not set. -/
def valueOf (environment : List (String × String)) (name default : String) : String :=
  (environment.lookup name).getD default

/-- The whole number in an environment variable. -/
def wholeVariable (environment : List (String × String)) (name default : String) :
    Except Fault Int :=
  match Decimal.readInteger (valueOf environment name default) with
  | .ok n => .ok n
  | .error e => .error (.integer e)

/-- The settings that environment variables describe. -/
def ofEnvironment (environment : List (String × String)) : Except Fault Settings := do
  let connectTimeout ← wholeVariable environment "GRAPHTUNNEL_CONNECT_TIMEOUT_MS" "3000"
  let localPort ← wholeVariable environment "GRAPHTUNNEL_LOCAL_BIND_PORT" "0"
  return {
    connectTimeout
    localHost := valueOf environment "GRAPHTUNNEL_LOCAL_HOST" "localhost"
    localPort
    hostPort := Address.defaultPort
    knownHostsFile := valueOf environment "GRAPHTUNNEL_KNOWN_HOSTS_FILE" "~/.ssh/known_hosts"
    acceptsNewHosts :=
      Value.meansYes (valueOf environment "GRAPHTUNNEL_ACCEPT_NEW_HOSTS" "false")
    logLevel := valueOf environment "LOG_LEVEL" "INFO"
    logFile := valueOf environment "LOG_FILE" "" }

/-- The settings that hold when no variable is set. -/
def default : Settings :=
  { connectTimeout := 3000, localHost := "localhost", localPort := 0,
    hostPort := Address.defaultPort, knownHostsFile := "~/.ssh/known_hosts",
    acceptsNewHosts := false, logLevel := "INFO", logFile := "" }

/-- The first thing that is wrong with the settings. -/
def flaw? (settings : Settings) : Option Reason :=
  if settings.connectTimeout < 1 then some .invalidTimeout
  else if settings.localPort < 0 || 65535 < settings.localPort then some .invalidBindPort
  else if settings.localHost.isEmpty then some .localHostRequired
  else none

/-- Refuses settings with which something is wrong. -/
def validate (settings : Settings) : Except Fault Unit :=
  match settings.flaw? with
  | some reason => .error (.refusal reason)
  | none => .ok ()

/-- Milliseconds as seconds. -/
def seconds (milliseconds : Int) : Except Fault Float :=
  match Decimal.Binary64.ofInt? milliseconds with
  | some x => .ok (x / 1000)
  | none => .error .beyondDoubles

end Settings

end SecureForward
