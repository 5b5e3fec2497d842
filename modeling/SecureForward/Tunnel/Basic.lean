import SecureForward.Endpoint.Target
import SecureForward.Trust.Policy
import SecureForward.Tunnel.Transport

/-!
# Tunnels

A tunnel goes from a local port through a host to a target. It is opened once and closed at most
once. What goes wrong while it is opened is undone and leads to one error; closing it gives the
transport back whatever happens.
-/

namespace SecureForward

/-- How far a tunnel has come. -/
inductive Phase where
  /-- No tunnel is asked for. -/
  | idle
  /-- The tunnel is being opened. -/
  | connecting
  /-- The tunnel stands. -/
  | forwarding
  /-- The tunnel could not be opened. -/
  | failed
  /-- The tunnel was taken down. -/
  | closed
deriving DecidableEq, Repr

/-- The name of a phase. -/
def Phase.name : Phase → String
  | .idle => "idle"
  | .connecting => "connecting"
  | .forwarding => "forwarding"
  | .failed => "failed"
  | .closed => "closed"

/-- A tunnel. -/
structure Tunnel where
  /-- What is asked for. -/
  config : Config
  /-- How the host is verified. -/
  policy : TrustPolicy
  /-- How long opening a session may take, in milliseconds. -/
  connectTimeout : Int
  /-- The local host to listen on. -/
  localHost : String
  /-- The local port to ask for. -/
  bindPort : Int
  /-- How far it has come. -/
  phase : Phase
  /-- The local port of the forward that it holds, as long as it holds one. -/
  heldPort : Option Int

namespace Tunnel

/-- The choices that may take the place of the settings. -/
structure Choices where
  /-- How the host is verified. -/
  policy : Option TrustPolicy
  /-- How long opening a session may take, in milliseconds. -/
  connectTimeout : Option Int
  /-- The local port to ask for. -/
  bindPort : Option Int
  /-- The local host to listen on. -/
  localHost : Option String
deriving DecidableEq, Repr

/-- No choices. -/
def Choices.none : Choices :=
  { policy := .none, connectTimeout := .none, bindPort := .none, localHost := .none }

/-- A tunnel that is not opened yet. -/
def new (settings : Settings) (choices : Choices) (config : Config) : Tunnel :=
  { config
    policy := choices.policy.getD (.ofSettings settings none none)
    connectTimeout := choices.connectTimeout.getD settings.connectTimeout
    localHost := ((choices.localHost.filter (!·.isEmpty))).getD settings.localHost
    bindPort := choices.bindPort.getD settings.localPort
    phase := .idle
    heldPort := none }

/-- The local port, or zero if the tunnel holds no forward. -/
def localPort (tunnel : Tunnel) : Int :=
  tunnel.heldPort.getD 0

/-- Whether the tunnel stands. -/
def isValid (tunnel : Tunnel) : Bool :=
  tunnel.phase = .forwarding

/-- The address that takes the place of the target while the tunnel stands. -/
def override? (tunnel : Tunnel) : Option Address :=
  if tunnel.isValid then some { host := tunnel.localHost, port := tunnel.localPort } else none

instance : ToString Tunnel where
  toString tunnel := s!"SshTunnel(state={tunnel.phase.name}, port={tunnel.localPort})"

end Tunnel

/-- A tunnel, the machine, and the state of the transport. -/
structure Session (ν : Type) where
  /-- The tunnel. -/
  tunnel : Tunnel
  /-- The machine and the transport. -/
  site : Site ν

namespace Session

variable {ν α : Type}

/-- The site as a part. -/
def sitePart : Part (Session ν) (Site ν) where
  get s := s.site
  set site s := { s with site }

/-- Works on the site. -/
def onSite (act : Act (Site ν) α) : Act (Session ν) α :=
  Act.within sitePart act

/-- Works on the machine. -/
def onMachine (act : Act Machine α) : Act (Session ν) α :=
  onSite (Site.onMachine act)

/-- Reports an event. -/
def report (event : Event) : Act (Session ν) Unit :=
  onMachine (Machine.report event)

/-- Moves the tunnel to another phase. -/
def enter (phase : Phase) : Act (Session ν) Unit :=
  modify fun s => { s with tunnel := { s.tunnel with phase } }

/-- Notes which forward the tunnel holds. -/
def hold (heldPort : Option Int) : Act (Session ν) Unit :=
  modify fun s => { s with tunnel := { s.tunnel with heldPort } }

/-- What has to be known before a transport is made: where the private key is and how the host is
verified. -/
def prepare (tunnel : Tunnel) : Act Machine (Login × Decision) := do
  let config := tunnel.config
  let keyFile ← Machine.resolvePath config.keyFile
  if !(← Machine.isFile keyFile) then throw (.refusal (.keyFileNotFound (toString keyFile)))
  let decision ← tunnel.policy.resolve config
  let login : Login :=
    { host := config.host, port := config.port, user := config.user, keyFile := toString keyFile,
      passphrase := config.passphrase }
  return (login, decision)

/-- Opens the session and the forward, and gives the local port. -/
def bringUp (transport : Transport ν) (tunnel : Tunnel) (login : Login) (decision : Decision) :
    Act (Site ν) Int := do
  let seconds ← Act.ofExcept (Settings.seconds tunnel.connectTimeout)
  transport.connect login decision seconds
  transport.openForward
    { localHost := tunnel.localHost, localPort := tunnel.bindPort,
      targetHost := tunnel.config.targetHost, targetPort := tunnel.config.targetPort }

/-- Gives the transport back. What goes wrong is only reported, unless it is an interruption. -/
def release (transport : Transport ν) : Act (Session ν) Unit := do
  match ← (onSite transport.disconnect).attempt with
  | .ok () => pure ()
  | .error fault =>
    if fault.isInterrupt then throw fault else report (.releaseFailed fault.message)

/-- The error that is reported for a fault while opening a tunnel through a host. -/
def reportedError (host : String) (fault : Fault) : Fault :=
  if fault.isRefusal then fault
  else if fault.isInterrupt then .refusalBy (.interrupted host) fault
  else .refusalBy (.tunnelFailed host) fault

/-- The error that the caller gets for a fault while opening a tunnel through a host: an
interruption is passed on. -/
def raisedError (host : String) (fault : Fault) : Fault :=
  if fault.isInterrupt then fault else reportedError host fault

/-- Ends an attempt to open a tunnel, after `undo`. -/
def giveUp {α : Type} (undo : Act (Session ν) Unit) (fault : Fault) : Act (Session ν) α := do
  let config := (← get).tunnel.config
  hold none
  enter .failed
  undo
  let error := reportedError config.host fault
  let kind := (error.reason?.map Reason.kind).getD ""
  report (.failed config.host config.target kind error.message)
  throw (raisedError config.host fault)

/-- Opens a tunnel that is asked for. -/
def establish (transport : Transport ν) : Act (Session ν) Unit := do
  enter .connecting
  let tunnel := (← get).tunnel
  let config := tunnel.config
  report (.opening config.user config.host config.port config.target)
  match ← (onMachine (prepare tunnel)).attempt with
  | .error fault => giveUp (pure ()) fault
  | .ok (login, decision) =>
    match ← (onSite transport.create).attempt with
    | .error fault => giveUp (pure ()) fault
    | .ok () =>
      match ← (onSite (bringUp transport tunnel login decision)).attempt with
      | .error fault => giveUp (release transport) fault
      | .ok port =>
        hold (some port)
        enter .forwarding
        report (.established config.host tunnel.localHost port config.target)

/-- Opens the tunnel if one is asked for. -/
def start (transport : Transport ν) : Act (Session ν) Unit := do
  if (← get).tunnel.config.enabled then establish transport

/-- Takes the tunnel down if it holds a forward. -/
def disconnect (transport : Transport ν) : Act (Session ν) Unit := do
  let tunnel := (← get).tunnel
  match tunnel.heldPort with
  | none => pure ()
  | some port =>
    hold none
    enter .closed
    release transport
    report (.closed tunnel.config.host port)

/-- Redirects a target to the tunnel if it stands, and gives the new target. -/
def redirect (target : Target) : Act (Session ν) (Option Target) := do
  match (← get).tunnel.override? with
  | none => return none
  | some address =>
    let target ← Act.ofExcept (target.redirect address)
    report (.redirected address.host address.port)
    return some target

/-- Runs a block with an open tunnel and takes the tunnel down on every way out. The block gets the
target, redirected if the tunnel stands. -/
def scope (transport : Transport ν) (target : Option Target)
    (block : Option Target → Act (Session ν) α) : Act (Session ν) α := do
  start transport
  Act.ensuring
    (do
      match target with
      | none => block none
      | some target => block (some ((← redirect target).getD target)))
    (disconnect transport)

end Session

end SecureForward
