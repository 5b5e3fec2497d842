import SecureForward.Fault

/-!
# The network

The network as a session meets it: what each operation answers, and an account of the operations
that were asked for. Everything that can be closed is a `Resource`; the account says when one was
opened and when it was to be closed.
-/

namespace SecureForward

open SecureForward.Text.Utf8 (Bytes)

/-- The sorts of resources. -/
inductive ResourceKind where
  /-- The socket to the host. -/
  | socket
  /-- The protocol session on that socket. -/
  | transport
  /-- The socket that listens for local connections. -/
  | listener
  /-- A local connection that was accepted. -/
  | client
  /-- The channel to the target that a local connection is relayed over. -/
  | channel
deriving DecidableEq, Repr

/-- Something that was opened and is to be closed. -/
structure Resource where
  /-- What it is. -/
  kind : ResourceKind
  /-- Which one; no two resources of a session have the same number. -/
  number : Nat
deriving DecidableEq, Repr

/-- The operations that can fail. -/
inductive Operation where
  /-- Reads a private key. -/
  | loadKey
  /-- Connects to the host. -/
  | dial
  /-- Makes a protocol session. -/
  | makeTransport
  /-- Says which key types are wanted. -/
  | offerKeyTypes
  /-- Agrees on keys with the host. -/
  | handshake
  /-- Asks for the host's key. -/
  | readHostKey
  /-- Proves who the user is. -/
  | authenticate
  /-- Lets the listener take an address that was just in use. -/
  | reuseAddress
  /-- Gives the listener its address. -/
  | bind
  /-- Starts to listen. -/
  | listen
  /-- Bounds the waiting for a connection. -/
  | setAcceptTimeout
  /-- Asks which port was taken. -/
  | readPort
  /-- Starts the thread that accepts connections. -/
  | startThread
  /-- Closes a resource of this kind. -/
  | close (kind : ResourceKind)
deriving DecidableEq, Repr

/-- What the network answers. -/
structure Network where
  /-- The fault of an operation, if it fails. -/
  fault? : Operation → Option Fault
  /-- The key types that can be offered. -/
  keyTypes : List String
  /-- The key of the host. -/
  hostKey : HostKey
  /-- Whether the host lets the user in once the proof was sent. -/
  isAuthenticated : Bool
  /-- Whether the session stays up. -/
  isActive : Bool
  /-- The local port that is taken. -/
  localPort : Int
  /-- Whether connections are handled on the thread that accepts them, so that a fault of one ends
  the accepting as well. Otherwise each has a thread of its own, and a fault that leaves it ends no
  other. -/
  sharesThread : Bool := true

/-- What was asked of the network, or opened by it. -/
inductive NetworkCall where
  /-- A private key is to be read. -/
  | loadKey (path : String) (passphrase : Option Bytes)
  /-- The host is to be connected to within so many seconds. -/
  | dial (host : String) (port : Int) (seconds : Float)
  /-- A protocol session is to be made. -/
  | makeTransport
  /-- These key types are wanted. -/
  | offerKeyTypes (keyTypes : List String)
  /-- Keys are to be agreed on; no part of it may take longer. -/
  | handshake (seconds : Float)
  /-- The user is to be let in. -/
  | authenticate (user : String)
  /-- A listener is to be made. -/
  | makeListener
  /-- The listener may take an address that was just in use. -/
  | reuseAddress
  /-- The listener is to have this address. -/
  | bind (host : String) (port : Int)
  /-- So many connections may wait to be accepted. -/
  | listen (backlog : Nat)
  /-- A connection is waited for no longer than this. -/
  | setAcceptTimeout (seconds : Float)
  /-- The port that was taken is asked for. -/
  | readPort
  /-- A thread is to be started; the one that accepts connections has a name. -/
  | startThread (name : Option String)
  /-- The end of a thread is waited for no longer than this. -/
  | joinThread (name : String) (seconds : Float)
  /-- A connection is waited for. -/
  | accept
  /-- A connection is read and written without a time bound. -/
  | unboundClient
  /-- A channel to the target is to be opened for a client. -/
  | openChannel (targetHost : String) (targetPort : Int) (clientHost : String) (clientPort : Int)
  /-- Data is waited for no longer than this. -/
  | select (seconds : Float)
  /-- The number of connections was asked for. -/
  | countConnections (count : Nat)
  /-- At most so many bytes are to be received from one end. -/
  | receive (source : Resource) (limit : Nat)
  /-- Bytes are to be sent to one end. -/
  | send (destination : Resource) (data : Bytes)
  /-- A resource is there. -/
  | opened (resource : Resource)
  /-- A resource is to be closed. -/
  | close (resource : Resource)

end SecureForward
