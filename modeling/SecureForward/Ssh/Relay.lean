import SecureForward.Ssh.Forward

/-!
# Relaying

Bytes are copied both ways between a client and its channel until one side ends. What happens on a
connection is given as a list of events; each wait for data uses up one of them.
-/

namespace SecureForward

open SecureForward.Text.Utf8 (Bytes)

/-- What happens on a connection while data is waited for. An end that is not ready has no outcome;
no bytes are the end of its data. -/
structure RelayEvent where
  /-- Whether the channel is found closed, if the event is about that only. -/
  closed : Option Bool
  /-- Whether the connections are counted. -/
  countsConnections : Bool
  /-- Whether the forward is stopped. -/
  stops : Bool
  /-- The fault of waiting. -/
  waitFault : Option Fault
  /-- What receiving from the client gives, if it is ready. -/
  client : Option (Except Fault Bytes)
  /-- What receiving from the channel gives, if it is ready. -/
  channel : Option (Except Fault Bytes)
  /-- The fault of sending to the client. -/
  clientFault : Option Fault
  /-- The fault of sending to the channel. -/
  channelFault : Option Fault

namespace RelayEvent

/-- Nothing happens. -/
def quiet : RelayEvent :=
  { closed := none, countsConnections := false, stops := false, waitFault := none, client := none,
    channel := none, clientFault := none, channelFault := none }

end RelayEvent

namespace Ssh

/-- The most bytes that are received at a time. -/
def chunkLimit : Nat := 16384

/-- How long data is waited for at a time, in seconds. -/
def selectSeconds : Float := 1.0

/-- Copies one chunk from an end that is ready to the other one. The result says whether the end has
more to come. -/
def copyChunk (source destination : Resource) (outcome : Option (Except Fault Bytes))
    (sendFault : Option Fault) : Task Bool := do
  match outcome with
  | none => return true
  | some outcome => do
    note (.receive source chunkLimit)
    let data ← Act.ofExcept outcome
    if data.isEmpty then return false
    note (.send destination data)
    fail? sendFault
    return true

/-- Waits for data and copies it, from the client first. The result says whether both ends have more
to come. -/
def exchange (connection : Connection) (event : RelayEvent) : Task Bool := do
  note (.select selectSeconds)
  if event.countsConnections then
    let count := ((← session).forward.map (·.connections.length)).getD 0
    note (.countConnections count)
  if event.stops then stopForward
  fail? event.waitFault
  let more ← copyChunk connection.client connection.channel event.client event.channelFault
  if !more then return false
  copyChunk connection.channel connection.client event.channel event.clientFault

/-- Relays a connection while the forward is running, until the channel is closed or an end has no
more to come. When nothing more happens the channel is closed. -/
def relayLoop (connection : Connection) : List RelayEvent → Task Unit
  | [] => pure ()
  | event :: events => do
    if !(← isRunning) then return
    match event.closed with
    | some true => return
    | some false =>
      match events with
      | [] => discard <| exchange connection .quiet
      | event :: events =>
        if ← exchange connection event then relayLoop connection events
    | none => if ← exchange connection event then relayLoop connection events

/-- Whether a fault ends a relay without being passed on. -/
def endsRelay (fault : Fault) : Bool :=
  fault.isSystem || fault.isValue || fault.isSsh

/-- Relays a connection. A fault of the connection ends it and is only reported. -/
def relay (name : String) (connection : Connection) (events : List RelayEvent) : Task Unit :=
  Act.ensuring (tolerate endsRelay (.relayBroken name) (relayLoop connection events))
    (report (.relayEnded name))

end Ssh

end SecureForward
