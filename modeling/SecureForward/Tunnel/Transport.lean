import SecureForward.Config.Basic
import SecureForward.Trust.Decision

/-!
# Transports

What carries a tunnel: it opens a session with a host, forwards a local port to the target behind
it, and gives everything back. A transport has a state of its own beside the machine. `recorded`
keeps an account of the calls made on a transport, and `rehearsed` is a transport that answers as it
was told.
-/

namespace SecureForward

/-- How to log in at a host. -/
structure Login where
  /-- The host. -/
  host : String
  /-- The port of the host. -/
  port : Int
  /-- The user to log in as. -/
  user : String
  /-- The path of the file with the user's private key. -/
  keyFile : String
  /-- What the private key is decrypted with. -/
  passphrase : Value

namespace Login

/-- The address of the host, as it is shown. -/
def endpoint (login : Login) : String :=
  s!"{login.host}:{login.port}"

end Login

/-- A local port and what it is forwarded to. -/
structure ForwardRequest where
  /-- The local host to listen on. -/
  localHost : String
  /-- The local port to listen on; with zero, any free one is taken. -/
  localPort : Int
  /-- The host behind the tunnel. -/
  targetHost : String
  /-- The port of that host. -/
  targetPort : Int
deriving DecidableEq, Repr

/-- The machine and the state of a transport. -/
structure Site (ν : Type) where
  /-- The machine. -/
  machine : Machine
  /-- The state of the transport. -/
  peer : ν

namespace Site

variable {ν : Type}

/-- The machine as a part. -/
def machinePart : Part (Site ν) Machine where
  get s := s.machine
  set machine s := { s with machine }

/-- The state of the transport as a part. -/
def peerPart : Part (Site ν) ν where
  get s := s.peer
  set peer s := { s with peer }

/-- Works on the machine. -/
def onMachine {α : Type} (act : Act Machine α) : Act (Site ν) α :=
  Act.within machinePart act

/-- Works on the state of the transport. -/
def onPeer {α : Type} (act : Act ν α) : Act (Site ν) α :=
  Act.within peerPart act

end Site

/-- What a transport can be asked for. -/
structure Transport (ν : Type) where
  /-- Makes a transport without a session. -/
  create : Act (Site ν) Unit
  /-- Opens a session within so many seconds. -/
  connect : Login → Decision → Float → Act (Site ν) Unit
  /-- Forwards a local port and tells which one was taken. -/
  openForward : ForwardRequest → Act (Site ν) Int
  /-- Gives the forward and the session back. -/
  disconnect : Act (Site ν) Unit

/-- A call made on a transport. -/
inductive TransportCall where
  /-- A session is asked for. -/
  | connect (login : Login) (decision : Decision) (seconds : Float)
  /-- A forward is asked for. -/
  | openForward (request : ForwardRequest)
  /-- Everything is to be given back. -/
  | disconnect

/-- A transport's state with the calls made on each transport that was created, the first call
first. -/
structure Recorded (ν : Type) where
  /-- The calls, by transport. -/
  calls : List (List TransportCall)
  /-- The state of the transport. -/
  inner : ν

namespace Recorded

variable {ν : Type}

/-- The site without the account of calls as a part. -/
def sitePart : Part (Site (Recorded ν)) (Site ν) where
  get s := { machine := s.machine, peer := s.peer.inner }
  set site s := { machine := site.machine, peer := { s.peer with inner := site.peer } }

/-- Adds a call to those of the last transport. -/
def addCall (call : TransportCall) : List (List TransportCall) → List (List TransportCall)
  | [] => []
  | [calls] => [calls ++ [call]]
  | calls :: rest => calls :: addCall call rest

/-- Puts a call on the account. -/
def note (call : TransportCall) : Act (Site (Recorded ν)) Unit :=
  modify fun s => { s with peer := { s.peer with calls := addCall call s.peer.calls } }

/-- Opens an account for a transport that was created. -/
def noteCreated : Act (Site (Recorded ν)) Unit :=
  modify fun s => { s with peer := { s.peer with calls := s.peer.calls ++ [[]] } }

end Recorded

namespace Transport

/-- The transport with an account of the calls made on it. A call is put on the account before it is
made. -/
def recorded {ν : Type} (transport : Transport ν) : Transport (Recorded ν) where
  create := do
    Act.within Recorded.sitePart transport.create
    Recorded.noteCreated
  connect login decision seconds := do
    Recorded.note (.connect login decision seconds)
    Act.within Recorded.sitePart (transport.connect login decision seconds)
  openForward request := do
    Recorded.note (.openForward request)
    Act.within Recorded.sitePart (transport.openForward request)
  disconnect := do
    Recorded.note .disconnect
    Act.within Recorded.sitePart transport.disconnect

end Transport

/-- What a rehearsed transport answers. -/
structure Rehearsal where
  /-- The fault of making a transport. -/
  create : Option Fault
  /-- The fault of opening a session. -/
  connect : Option Fault
  /-- The fault of forwarding. -/
  openForward : Option Fault
  /-- The fault of giving everything back. -/
  disconnect : Option Fault
  /-- The local port that is taken. -/
  localPort : Int
deriving DecidableEq

namespace Rehearsal

/-- Ends with a fault if there is one. -/
def fail? {σ : Type} : Option Fault → Act σ Unit
  | some fault => throw fault
  | none => pure ()

end Rehearsal

/-- A transport that answers as it was told and does nothing else. -/
def Transport.rehearsed : Transport Rehearsal where
  create := do Rehearsal.fail? (← get).peer.create
  connect _ _ _ := do Rehearsal.fail? (← get).peer.connect
  openForward _ := do
    let rehearsal := (← get).peer
    Rehearsal.fail? rehearsal.openForward
    return rehearsal.localPort
  disconnect := do Rehearsal.fail? (← get).peer.disconnect

end SecureForward
