import SecureForward.Ssh.Relay

/-!
# Accepting connections

Each local connection is accepted, given a channel of its own, relayed, and closed. Running out of
time while waiting ends nothing; any other fault of the operating system ends the accepting.
-/

namespace SecureForward

/-- A client that connects, and what happens on its connection. -/
structure Visit where
  /-- The address of the client. -/
  host : String
  /-- The port of the client. -/
  port : Int
  /-- The fault of opening a channel for it. -/
  channelFault : Option Fault
  /-- What happens on the connection. -/
  events : List RelayEvent
  /-- The fault of closing the client. -/
  closeClientFault : Option Fault
  /-- The fault of closing the channel. -/
  closeChannelFault : Option Fault

/-- The name of a connection. -/
def Visit.name (visit : Visit) : String :=
  s!"{visit.host}:{visit.port}"

/-- What waiting for a connection meets. -/
structure Arrival where
  /-- Whether the forward is told to stop meanwhile. -/
  stops : Bool
  /-- A client, or the fault of waiting. -/
  outcome : Except Fault Visit

namespace Ssh

/-- Whether a fault of opening a channel turns only this client away. -/
def turnsAway (fault : Fault) : Bool :=
  fault.isSsh || fault.isSystem || fault.isEndOfInput

/-- Puts a connection into the table; one of the same name gives way. -/
def putConnection (name : String) (connection : Connection) : Task Unit :=
  changeForward fun f =>
    let table := f.connections
    let table :=
      if table.any (·.1 == name) then
        table.map fun entry => if entry.1 == name then (name, connection) else entry
      else table ++ [(name, connection)]
    { f with connections := table }

/-- Opens a channel to the target for a client. -/
def openChannel (request : ForwardRequest) (visit : Visit) : Task Resource := do
  note (.openChannel request.targetHost request.targetPort visit.host visit.port)
  fail? visit.channelFault
  openResource .channel

/-- Serves one client. -/
def handleClient (request : ForwardRequest) (client : Resource) (visit : Visit) : Task Unit := do
  match ← (openChannel request visit).attempt with
  | .error fault => do
    if !turnsAway fault then throw fault
    report (.channelRefused request.targetHost request.targetPort visit.name fault.message)
    closeEnd client visit.closeClientFault
  | .ok channel => do
    let connection : Connection :=
      { client, channel, clientFault := visit.closeClientFault,
        channelFault := visit.closeChannelFault }
    putConnection visit.name connection
    report (.relayStarted visit.name)
    Act.ensuring (relay visit.name connection visit.events) (dropConnection visit.name)

/-- Runs the thread of a connection to its end. -/
def runThread (task : Task Unit) : Task Unit := do
  note (.startThread none)
  match ← task.attempt with
  | .ok () => pure ()
  | .error fault => if (← session).network.sharesThread then throw fault

/-- Accepts one client and serves it. -/
def welcome (request : ForwardRequest) (visit : Visit) : Task Unit := do
  let client ← openResource .client
  note .unboundClient
  runThread (handleClient request client visit)

/-- Marks the forward as stopped. -/
def markStopped : Task Unit :=
  changeForward fun f => { f with isRunning := false }

/-- Accepts clients one after the other while the forward is running. When nobody arrives any more
the forward is marked as stopped. -/
def serveLoop (request : ForwardRequest) : List Arrival → Task Unit
  | [] => do
    if ← isRunning then
      note .accept
      markStopped
  | arrival :: arrivals => do
    if !(← isRunning) then return
    note .accept
    if arrival.stops then markStopped
    match arrival.outcome with
    | .ok visit => do
      welcome request visit
      serveLoop request arrivals
    | .error fault =>
      if fault.isTimeout then serveLoop request arrivals
      else if !fault.isSystem then throw fault
      else if ← isRunning then report (.acceptFailed fault.message)

/-- Accepts clients on the forward if there is one. -/
def serve (arrivals : List Arrival) : Task Unit := do
  match (← session).forward with
  | none => pure ()
  | some forward => serveLoop forward.request arrivals

end Ssh

end SecureForward
