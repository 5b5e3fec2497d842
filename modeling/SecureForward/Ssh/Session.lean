import SecureForward.Decimal.Shortest
import SecureForward.Ssh.Forward

/-!
# Sessions

Opening a session with a host, forwarding a local port over it, and giving both back. The host is
verified before the user proves who he is. Whatever goes wrong while a session is opened is undone
and classified, so that a caller can tell a refused user from a host that cannot be reached.
-/

namespace SecureForward

open SecureForward.Text.Utf8 (Bytes)

namespace Ssh

/-- The bytes of a passphrase. A value that is not given counts as none. -/
def passphraseBytes (passphrase : Value) : Except Fault (Option Bytes) :=
  if !passphrase.isGiven then .ok none
  else
    match passphrase with
    | .text s => .ok (some (Text.Utf8.encode s.toList))
    | value => .error (.notEncodable value.sort)

/-- The error for a fault of reading the private key at a path. -/
def keyError (path : String) (fault : Fault) : Fault :=
  if fault.isPassphraseRequired then .refusalBy (.keyEncrypted path) fault
  else if fault.isSystem || fault.isValue || fault.isUnknownKeyType || fault.isSsh then
    .refusalBy (.keyUnloadable path) fault
  else fault

/-- Reads the user's private key. -/
def loadKey (login : Login) : Task Unit := do
  let passphrase ← Act.ofExcept (passphraseBytes login.passphrase)
  match ← (ask (.loadKey login.keyFile passphrase) .loadKey).attempt with
  | .ok () => pure ()
  | .error fault => throw (keyError login.keyFile fault)

/-- A session and the machine as what verifying a host works on. -/
def verifyingPart : Part (Site Ssh) Verifying where
  get s := { decision := s.peer.decision, machine := s.machine }
  set v s := { machine := v.machine, peer := { s.peer with decision := v.decision } }

/-- Verifies the host by the key that it shows. -/
def verifyHost (login : Login) : Task Unit := do
  meet .readHostKey
  let key := (← session).network.hostKey
  Act.within verifyingPart (Verifying.verify (RecordName.ofHost login.host login.port) key)

/-- Connects to the host and makes a protocol session. -/
def openTransport (login : Login) (seconds : Float) : Task Unit := do
  ask (.dial login.host login.port seconds) .dial
  let socket ← openResource .socket
  change fun s => { s with socket := some socket }
  ask .makeTransport .makeTransport
  let transport ← openResource .transport
  change fun s => { s with transport := some transport }

/-- Goes through all steps of opening a session. -/
def establish (login : Login) (decision : Decision) (seconds : Float) : Task Unit := do
  openTransport login seconds
  ask (.offerKeyTypes (decision.orderTypes (← session).network.keyTypes)) .offerKeyTypes
  ask (.handshake seconds) .handshake
  verifyHost login
  ask (.authenticate login.user) .authenticate

/-- Whether a fault of closing a protocol session is only reported. -/
def isCloseFault (fault : Fault) : Bool :=
  fault.isSystem || fault.isSsh

/-- Gives everything back: the forward, the protocol session and the socket. -/
def disconnect : Task Unit := do
  stopForward
  change fun s => { s with forward := none }
  match (← session).transport with
  | none => pure ()
  | some transport => do
    tolerate isCloseFault .sessionCloseFailed (close transport)
    change fun s => { s with transport := none }
  match (← session).socket with
  | none => pure ()
  | some socket => do
    tolerate Fault.isSystem .socketCloseFailed (close socket)
    change fun s => { s with socket := none }

/-- The error for a fault while a session is opened. -/
def connectError (login : Login) (seconds : Float) (fault : Fault) : Fault :=
  if fault.isAuthentication then
    .refusalBy (.authenticationRejected login.user login.endpoint) fault
  else if fault.isSsh then .refusalBy (.handshakeFailed login.endpoint) fault
  else if fault.isTimeout then
    .refusalBy (.timedOut login.endpoint (Decimal.fixed 1 seconds)) fault
  else if fault.isSystem then .refusalBy (.unreachable login.endpoint) fault
  else fault

/-- Opens a session within so many seconds. -/
def connect (login : Login) (decision : Decision) (seconds : Float) : Task Unit := do
  if (← session).transport.isSome then throw (.refusal .alreadyConnected)
  loadKey login
  change fun s => { s with decision }
  match ← (establish login decision seconds).attempt with
  | .error fault => do
    disconnect
    throw (connectError login seconds fault)
  | .ok () => do
    if !(← session).network.isAuthenticated then
      disconnect
      throw (.refusal (.authenticationIncomplete login.user login.endpoint))
    report (.sessionEstablished login.user login.endpoint)

/-- Forwards a local port over the session and gives the port that was taken. -/
def openForward (request : ForwardRequest) : Task Int := do
  let s ← session
  if s.transport.isNone || !s.network.isActive then throw (.refusal .notConnected)
  if s.forward.isSome then throw (.refusal .alreadyForwarding)
  match ← (startForward request).attempt with
  | .error fault =>
    if fault.isSystem then
      let _ ← Act.ofExcept (writable request.localPort)
      throw (.refusalBy (.bindFailed request.localHost request.localPort) fault)
    else throw fault
  | .ok forward => do
    change fun s => { s with forward := some forward }
    return forward.localPort

/-- Drops what a session holds, without closing it. -/
def renew : Task Unit :=
  change fun s => { s with socket := none, transport := none, forward := none }

end Ssh

/-- The transport that works with sessions. -/
def Transport.ssh : Transport Ssh where
  create := Ssh.renew
  connect := Ssh.connect
  openForward := Ssh.openForward
  disconnect := Ssh.disconnect

end SecureForward
