import SecureForward.Ssh.Basic

/-!
# Forwards

Binding a local port and giving it up again. A forward that is stopped closes its listener and all
its connections; an end that cannot be closed in order is reported and does not keep the others
open.
-/

namespace SecureForward.Ssh

/-- How many connections may wait to be accepted. -/
def backlog : Nat := 100

/-- How long a connection is waited for at a time, in seconds. -/
def acceptSeconds : Float := 0.5

/-- How long the end of the accepting thread is waited for, in seconds. -/
def joinSeconds : Float := 2.0

/-- The name of the thread that accepts connections on a local port. -/
def threadName (localPort : Int) : String :=
  s!"graphtunnel-forward-{localPort}"

/-- Makes a listener listen. -/
def bindListener (request : ForwardRequest) : Task Unit := do
  ask .reuseAddress .reuseAddress
  ask (.bind request.localHost request.localPort) .bind
  ask (.listen backlog) .listen
  ask (.setAcceptTimeout acceptSeconds) .setAcceptTimeout

/-- The knowledge that a number can be written, or the fault of writing it. -/
def writable (n : Int) : Except Fault (PLift (Decimal.isWritable n = true)) :=
  if h : Decimal.isWritable n = true then .ok ⟨h⟩ else .error (.integer .unwritable)

/-- Starts to accept connections on a listener that is bound. The name of the thread and the report
tell the ports. -/
def announce (request : ForwardRequest) (listener : Resource) : Task Forward := do
  ask .readPort .readPort
  let localPort := (← session).network.localPort
  let ⟨localPort_isWritable⟩ ← Act.ofExcept (writable localPort)
  let thread := threadName localPort
  ask (.startThread (some thread)) .startThread
  let ⟨targetPort_isWritable⟩ ← Act.ofExcept (writable request.targetPort)
  report (.forwarding request.localHost localPort request.targetHost request.targetPort)
  return { request, localPort, listener := some listener, thread := some thread,
           isRunning := true, connections := [], localPort_isWritable, targetPort_isWritable }

/-- Binds a local port and starts to accept connections. A listener that the operating system does
not bind is closed again. -/
def startForward (request : ForwardRequest) : Task Forward := do
  note .makeListener
  let listener ← openResource .listener
  (bindListener request).onFault fun fault =>
    if fault.isSystem then close listener else pure ()
  announce request listener

/-- Closes both ends of a connection, the channel first. -/
def closeConnection (name : String) (connection : Connection) : Task Unit := do
  tolerate Fault.isSystem (.endCloseFailed name)
    (closeEnd connection.channel connection.channelFault)
  tolerate Fault.isSystem (.endCloseFailed name)
    (closeEnd connection.client connection.clientFault)

/-- Takes a connection out of the table and closes it; nothing happens if it is not there. -/
def dropConnection (name : String) : Task Unit := do
  match (← session).forward.bind (·.connections.lookup name) with
  | none => pure ()
  | some connection => do
    changeForward fun f => { f with connections := f.connections.filter (·.1 != name) }
    closeConnection name connection

/-- Drops connections one by one. -/
def dropConnections : List String → Task Unit
  | [] => pure ()
  | name :: names => do
    dropConnection name
    dropConnections names

/-- Closes the listener if there is one. -/
def closeListener (forward : Forward) : Task Unit := do
  match forward.listener with
  | none => pure ()
  | some listener => do
    tolerate Fault.isSystem .listenerCloseFailed (close listener)
    changeForward fun f => { f with listener := none }

/-- Waits for the end of the accepting thread if there is one. -/
def joinThread (forward : Forward) : Task Unit := do
  match forward.thread with
  | none => pure ()
  | some name => do
    note (.joinThread name joinSeconds)
    changeForward fun f => { f with thread := none }

/-- Stops the forward: no more connections are accepted, the port is given up, and all connections
are closed. -/
def stopForward : Task Unit := do
  match (← session).forward with
  | none => pure ()
  | some forward => do
    changeForward fun f => { f with isRunning := false }
    closeListener forward
    dropConnections (forward.connections.map (·.1))
    joinThread forward
    report (.forwardStopped forward.localPort)

end SecureForward.Ssh
