import SecureForward.Decimal.Integer
import SecureForward.Log.Level

/-!
# Events

What the program reports while it works. Each event has a part of the program that reports it, a
level and a text.
-/

namespace SecureForward

/-- What is reported. -/
inductive Event where
  /-- A tunnel is about to be opened. -/
  | opening (user host : String) (port : Int) (target : String)
  /-- A tunnel stands. -/
  | established (host localHost : String) (localPort : Int) (target : String)
  /-- A tunnel could not be opened. -/
  | failed (host target kind error : String)
  /-- A tunnel was taken down. -/
  | closed (host : String) (localPort : Int)
  /-- A transport could not be given back in order. -/
  | releaseFailed (error : String)
  /-- An endpoint now points to the tunnel. -/
  | redirected (host : String) (port : Int)
  /-- Hosts are not verified, as the caller asked. -/
  | trustDisabled (host : String)
  /-- Hosts are verified. -/
  | trustEnforced (host store : String) (keyType : Option String)
  /-- A host is taken as it is. -/
  | verificationSkipped (hostId keyType : String)
  /-- A host has the recorded key. -/
  | keyMatches (hostId store : String)
  /-- The key of a new host was recorded. -/
  | keyAdded (hostId keyType fingerprint store : String)
  /-- The key of a new host could not be recorded. -/
  | keyNotAdded (store error : String)
  /-- A session stands. -/
  | sessionEstablished (user endpoint : String)
  /-- A session could not be closed in order. -/
  | sessionCloseFailed (error : String)
  /-- The socket of a session could not be closed in order. -/
  | socketCloseFailed (error : String)
  /-- A local port is forwarded. -/
  | forwarding (localHost : String) (localPort : Int) (targetHost : String) (targetPort : Int)
  /-- A local port is no longer forwarded. -/
  | forwardStopped (localPort : Int)
  /-- The listener of a forward could not be closed in order. -/
  | listenerCloseFailed (error : String)
  /-- No more connections are accepted. -/
  | acceptFailed (error : String)
  /-- A connection could not be forwarded. -/
  | channelRefused (targetHost : String) (targetPort : Int) (connection error : String)
  /-- A connection is forwarded. -/
  | relayStarted (connection : String)
  /-- A connection broke. -/
  | relayBroken (connection error : String)
  /-- A connection is no longer forwarded. -/
  | relayEnded (connection : String)
  /-- One end of a connection could not be closed in order. -/
  | endCloseFailed (connection error : String)
  /-- The arguments make no configuration. -/
  | invalidArguments (error : String)
  /-- The tunnel that was asked for could not be opened. -/
  | openFailed (error : String)
  /-- A signal asks the program to end. -/
  | signalled (number : Int)
  /-- The program is about to take the tunnel down. -/
  | closing
  /-- The settings are in order. -/
  | settingsChecked
  /-- The key file was looked for and is missing. -/
  | keyFileMissing (path : String)
  /-- The key file is there. -/
  | keyFileFound (path : String)
  /-- The trust store can be loaded. -/
  | storeLoaded (path : String)
  /-- The whole configuration is in order. -/
  | checkPassed
  /-- The configuration is not in order. -/
  | checkFailed (error : String)
  /-- The log file cannot be written. -/
  | logFileFailed (error : String)
deriving DecidableEq, Repr

namespace Event

/-- The name of the part that reports the event. -/
def source : Event → String
  | .opening .. | .established .. | .failed .. | .closed .. | .releaseFailed _ =>
    "graphtunnel.tunnel"
  | .redirected .. => "graphtunnel.rewriter"
  | .trustDisabled _ | .trustEnforced .. | .verificationSkipped .. | .keyMatches .. | .keyAdded ..
  | .keyNotAdded .. => "graphtunnel.trust"
  | .sessionEstablished .. | .sessionCloseFailed _ | .socketCloseFailed _ | .forwarding ..
  | .forwardStopped _ | .listenerCloseFailed _ | .acceptFailed _ | .channelRefused ..
  | .relayStarted _ | .relayBroken .. | .relayEnded _ | .endCloseFailed .. =>
    "graphtunnel.transport"
  | .invalidArguments _ | .openFailed _ | .signalled _ | .closing | .settingsChecked
  | .keyFileMissing _ | .keyFileFound _ | .storeLoaded _ | .checkPassed | .checkFailed _
  | .logFileFailed _ => "graphtunnel"

/-- The level of the event. -/
def level : Event → Level
  | .failed .. | .acceptFailed _ | .channelRefused .. | .invalidArguments _ | .openFailed _
  | .keyFileMissing _ | .checkFailed _ => .error
  | .releaseFailed _ | .trustDisabled _ | .keyAdded .. | .keyNotAdded .. | .sessionCloseFailed _
  | .socketCloseFailed _ | .listenerCloseFailed _ | .logFileFailed _ => .warning
  | .verificationSkipped .. | .keyMatches .. | .relayStarted _ | .relayBroken .. | .relayEnded _
  | .endCloseFailed .. => .debug
  | .opening .. | .established .. | .closed .. | .redirected .. | .trustEnforced ..
  | .sessionEstablished .. | .forwarding .. | .forwardStopped _ | .signalled _ | .closing
  | .settingsChecked | .keyFileFound _ | .storeLoaded _ | .checkPassed => .info

/-- The numbers in the text of the event that may have any size. The port of a configuration is not
among them, since it was checked to be one, and neither is the number of a signal. -/
def numbers : Event → List Int
  | .established _ _ localPort _ | .closed _ localPort | .redirected _ localPort
  | .forwardStopped localPort => [localPort]
  | .forwarding _ localPort _ targetPort => [localPort, targetPort]
  | .channelRefused _ targetPort _ _ => [targetPort]
  | _ => []

/-- Whether the event can be put into words. -/
def isWritable (event : Event) : Bool :=
  event.numbers.all Decimal.isWritable

/-- How much of a fingerprint is shown. -/
def shownFingerprint (fingerprint : String) : String :=
  .ofList (fingerprint.toList.take 23)

/-- The event in words. -/
def message : Event → String
  | .opening user host port target =>
    s!"Tunnel OPENING - SSH: {user}@{host}:{port}, Target: {target}"
  | .established host localHost localPort target =>
    s!"Tunnel ESTABLISHED - {localHost}:{localPort} -> {host} -> {target}"
  | .failed host target kind error =>
    s!"Tunnel FAILED - SSH: {host}, Target: {target}, Kind: {kind}, Error: {error}"
  | .closed host localPort => s!"Tunnel CLOSED - SSH: {host}, Local port: {localPort}"
  | .releaseFailed error => s!"Error releasing SSH transport: {error}"
  | .redirected host port => s!"Endpoint redirected to {host}:{port}"
  | .trustDisabled host =>
    s!"Host key verification DISABLED - SSH: {host}, the server identity will not be checked"
  | .trustEnforced host store keyType =>
    let preferred := (keyType.filter (!·.isEmpty)).getD "any"
    s!"Host key verification ENFORCED - SSH: {host}, Trust store: {store}, " ++
      s!"Preferred key type: {preferred}"
  | .verificationSkipped hostId keyType =>
    s!"Skipping host key verification for {hostId} ({keyType})"
  | .keyMatches hostId store => s!"Host key for {hostId} matches {store}"
  | .keyAdded hostId keyType fingerprint store =>
    let shown := shownFingerprint fingerprint
    s!"Host key ADDED - Host: {hostId}, Type: {keyType}, Fingerprint: {shown}..., " ++
      s!"Trust store: {store}"
  | .keyNotAdded store error => s!"Could not update trust store {store}: {error}"
  | .sessionEstablished user endpoint => s!"SSH session established to {user}@{endpoint}"
  | .sessionCloseFailed error => s!"Error closing SSH transport: {error}"
  | .socketCloseFailed error => s!"Error closing SSH socket: {error}"
  | .forwarding localHost localPort targetHost targetPort =>
    s!"Forwarding {localHost}:{localPort} -> {targetHost}:{targetPort}"
  | .forwardStopped localPort => s!"Forward on local port {localPort} stopped"
  | .listenerCloseFailed error => s!"Error closing forward listener: {error}"
  | .acceptFailed error => s!"Error accepting forwarded connection: {error}"
  | .channelRefused targetHost targetPort connection error =>
    s!"Could not open channel to {targetHost}:{targetPort} for {connection}: {error}"
  | .relayStarted connection => s!"Relay started for {connection}"
  | .relayBroken connection error => s!"Relay {connection} data transfer error: {error}"
  | .relayEnded connection => s!"Relay {connection} terminated"
  | .endCloseFailed connection error => s!"Error closing {connection}: {error}"
  | .invalidArguments error => s!"Invalid arguments: {error}"
  | .openFailed error => s!"Could not open tunnel: {error}"
  | .signalled number => s!"Received signal {number}, shutting down..."
  | .closing => "Closing tunnel..."
  | .settingsChecked => "Configuration validation passed"
  | .keyFileMissing path => s!"Private key file not found: {path}"
  | .keyFileFound path => s!"Private key file exists: {path}"
  | .storeLoaded path => s!"Trust store loaded: {path}"
  | .checkPassed => "Configuration check completed successfully"
  | .checkFailed error => s!"Configuration check failed: {error}"
  | .logFileFailed error => s!"Could not setup file logging: {error}"

end Event

end SecureForward
