import SecureForward.Ssh.Network
import SecureForward.Tunnel.Transport

/-!
# Session state

What a session with a host holds: the socket, the protocol session on it, and the forward of a local
port with the connections that are relayed. All operations on the network go through `ask`, which
puts them on the account before they succeed or fail.
-/

namespace SecureForward

/-- A relayed connection: its two ends, and how closing them fails if it does. -/
structure Connection where
  /-- The local connection. -/
  client : Resource
  /-- The channel to the target. -/
  channel : Resource
  /-- The fault of closing the local connection. -/
  clientFault : Option Fault
  /-- The fault of closing the channel. -/
  channelFault : Option Fault
deriving DecidableEq

/-- The forward of a local port. Both its ports were written when it was announced. -/
structure Forward where
  /-- The local port and the target. -/
  request : ForwardRequest
  /-- The local port that was taken. -/
  localPort : Int
  /-- The listener, as long as there is one. -/
  listener : Option Resource
  /-- The name of the thread that accepts connections, as long as there is one. -/
  thread : Option String
  /-- Whether connections are accepted and relayed. -/
  isRunning : Bool
  /-- The relayed connections by name, the oldest first. -/
  connections : List (String × Connection)
  /-- The local port can be written. -/
  localPort_isWritable : Decimal.isWritable localPort = true
  /-- The port of the target can be written. -/
  targetPort_isWritable : Decimal.isWritable request.targetPort = true
deriving DecidableEq

/-- The state of a session. -/
structure Ssh where
  /-- What the network answers. -/
  network : Network
  /-- The account of the network. -/
  calls : List NetworkCall
  /-- How many resources were opened. -/
  opened : Nat
  /-- How the host of the last attempt is verified. -/
  decision : Decision
  /-- The socket to the host. -/
  socket : Option Resource
  /-- The protocol session. -/
  transport : Option Resource
  /-- The forward. -/
  forward : Option Forward

namespace Ssh

/-- A session that holds nothing. -/
def idle (network : Network) : Ssh :=
  { network, calls := [], opened := 0, decision := .disabled, socket := none, transport := none,
    forward := none }

/-- Works on a session and the machine. -/
abbrev Task (α : Type) := Act (Site Ssh) α

/-- Reports an event. -/
def report (event : Event) : Task Unit :=
  Site.onMachine (Machine.report event)

/-- The session. -/
def session : Task Ssh := do
  return (← get).peer

/-- Changes the session. -/
def change (f : Ssh → Ssh) : Task Unit :=
  Site.onPeer (modify f)

/-- Puts a call on the account. -/
def note (call : NetworkCall) : Task Unit :=
  change fun s => { s with calls := s.calls ++ [call] }

/-- Ends with a fault if there is one. -/
def fail? : Option Fault → Task Unit
  | some fault => throw fault
  | none => pure ()

/-- Ends with the fault of an operation if it fails. -/
def meet (operation : Operation) : Task Unit := do
  fail? ((← session).network.fault? operation)

/-- Asks the network for an operation. -/
def ask (call : NetworkCall) (operation : Operation) : Task Unit := do
  note call
  meet operation

/-- A resource that was not there before. -/
def openResource (kind : ResourceKind) : Task Resource := do
  let resource : Resource := { kind, number := (← session).opened }
  change fun s => { s with opened := s.opened + 1 }
  note (.opened resource)
  return resource

/-- Closes the socket, the protocol session or the listener. -/
def close (resource : Resource) : Task Unit :=
  ask (.close resource) (.close resource.kind)

/-- Closes one end of a connection. -/
def closeEnd (resource : Resource) (fault : Option Fault) : Task Unit := do
  note (.close resource)
  fail? fault

/-- Does something that may fail; a fault of the class `handled` is only reported. -/
def tolerate (handled : Fault → Bool) (event : String → Event) (task : Task Unit) : Task Unit := do
  match ← task.attempt with
  | .ok () => pure ()
  | .error fault => if handled fault then report (event fault.message) else throw fault

/-- Changes the forward if there is one. -/
def changeForward (f : Forward → Forward) : Task Unit :=
  change fun s => { s with forward := s.forward.map f }

/-- Whether connections are accepted and relayed. -/
def isRunning : Task Bool := do
  return (← session).forward.any (·.isRunning)

end Ssh

end SecureForward
