import SecureForward.Proofs.Ssh.Admission
import SecureForward.Proofs.Ssh.Steady

/-!
# The lifecycle of sessions

What is asked of a session comes in turns, each on a network of its own: the session is opened, a
port is forwarded, clients are served, the session is given back, in any order and any number of
times. `lifecycle_of_turns` says what holds after every row of turns and how the next one ends.

`Sound` is what holds of a session also while it is opened: a forward needs a protocol session, a
protocol session needs a socket, and the ledger is in order. A session is `AtRest` if it is sound
and has no socket that was left over; `atRest_perform` is the step and `atRest_afterTurns` the run.
Opening a session may fail at any of its steps, and each time what is there is sound, so that giving
it back leaves nothing (`run_disconnect_of_sound`).
-/

namespace SecureForward

open Act (run)
open NetworkCall (isNeutral_of_none)

/-- Closing fails, if it does, as the operating system or the protocol makes it fail, for a listener
as well. -/
structure Network.ClosesAllInOrder (network : Network) : Prop extends network.ClosesInOrder where
  /-- A listener is closed, or the system refuses it. -/
  listener : ∀ fault, network.fault? (.close .listener) = some fault → fault.isSystem = true

/-- The site when its session meets another network. -/
def Site.facing (site : Site Ssh) (network : Network) : Site Ssh :=
  { site with peer := { site.peer with network } }

namespace Ssh

variable {s : Ssh} {site : Site Ssh} {login : Login} {decision : Decision} {seconds : Float}
  {request : ForwardRequest}

/-! ## Sound sessions -/

/-- What a session holds is what it should be, and its ledger is in order. -/
structure Sound (s : Ssh) : Prop where
  /-- A forward needs a protocol session. -/
  transport_of_forward : s.forward.isSome = true → s.transport.isSome = true
  /-- A protocol session needs a socket. -/
  socket_of_transport : s.transport.isSome = true → s.socket.isSome = true
  /-- The socket is one. -/
  socket_kind : ∀ resource, s.socket = some resource → resource.kind = .socket
  /-- The protocol session is one. -/
  transport_kind : ∀ resource, s.transport = some resource → resource.kind = .transport
  /-- The forward is fitted. -/
  fitted : ∀ forward, s.forward = some forward → forward.Fitted
  /-- The ledger is in order. -/
  ledger : s.Ledger

/-- A sound session without a socket that was left over. -/
structure AtRest (s : Ssh) : Prop extends s.Sound where
  /-- A socket comes with a protocol session. -/
  transport_of_socket : s.socket.isSome = true → s.transport.isSome = true

/-- A session holds nothing. -/
structure Vacant (s : Ssh) : Prop where
  /-- There is no socket. -/
  socket_eq : s.socket = none
  /-- There is no protocol session. -/
  transport_eq : s.transport = none
  /-- There is no forward. -/
  forward_eq : s.forward = none

/-- A session that holds nothing and has its ledger in order is at rest. -/
theorem Vacant.atRest (h : s.Vacant) (hledger : s.Ledger) : s.AtRest := by
  obtain ⟨hsocket, htransport, hforward⟩ := h
  refine ⟨⟨?_, ?_, ?_, ?_, ?_, hledger⟩, ?_⟩ <;> simp [hsocket, htransport, hforward]

/-- A session at rest without a protocol session holds nothing. -/
theorem AtRest.vacant (h : s.AtRest) (htransport : s.transport = none) : s.Vacant := by
  refine ⟨?_, htransport, ?_⟩
  · have hsocket := h.transport_of_socket
    rw [htransport] at hsocket
    simpa using hsocket
  · have hforward := h.transport_of_forward
    rw [htransport] at hforward
    simpa using hforward

namespace Sound

/-- At first nothing was done over a session. -/
theorem steady (h : site.peer.Sound) : Steady site.peer site :=
  ⟨rfl, rfl, rfl, rfl, h.fitted, h.ledger⟩

/-- Work over a session leaves it sound. -/
theorem of_steady (h : s.Sound) (hsteady : Steady s site) : site.peer.Sound where
  transport_of_forward := by
    rw [hsteady.isSome_eq, hsteady.transport_eq]
    exact h.transport_of_forward
  socket_of_transport := by
    rw [hsteady.transport_eq, hsteady.socket_eq]
    exact h.socket_of_transport
  socket_kind := by
    rw [hsteady.socket_eq]
    exact h.socket_kind
  transport_kind := by
    rw [hsteady.transport_eq]
    exact h.transport_kind
  fitted := hsteady.fitted
  ledger := hsteady.ledger

/-- Where the network closes in order, so does a sound session. -/
theorem closesInOrder (h : s.Sound) (hclose : s.network.ClosesInOrder)
    (hlistener : s.forward.isSome = true → ∀ fault,
      s.network.fault? (.close .listener) = some fault → fault.isSystem = true) :
    s.ClosesInOrder := by
  refine closesInOrder_of_kinds (fun forward hforward => ?_) h.transport_kind h.socket_kind hclose
  have hfitted := h.fitted forward hforward
  refine ⟨fun resource hresource fault hfault => ?_, fun entry hentry =>
    (hfitted.connections entry hentry).closes⟩
  rw [hfitted.listener resource hresource] at hfault
  exact hlistener (by rw [hforward]; rfl) fault hfault

end Sound

/-- Giving a sound session back leaves nothing of it, and no fault comes out. -/
theorem run_disconnect_of_sound (h : site.peer.Sound) (hclose : site.peer.network.ClosesInOrder)
    (hlistener : site.peer.forward.isSome = true → ∀ fault,
      site.peer.network.fault? (.close .listener) = some fault → fault.isSystem = true) :
    ∃ after, run disconnect site = (.ok (), after) ∧ after.peer.Vacant ∧ after.peer.AtRest := by
  obtain ⟨machine, hrun⟩ := run_disconnect
    (fun forward hforward => (h.fitted forward hforward).names) (h.closesInOrder hclose hlistener)
  have hvacant : Vacant { site.peer with
      calls := site.peer.calls ++ site.peer.teardown
      socket := none
      transport := none
      forward := none } := ⟨rfl, rfl, rfl⟩
  exact ⟨_, hrun, hvacant, hvacant.atRest (h.ledger.teardown h.fitted rfl rfl rfl)⟩

/-- Work over a session at rest leaves it at rest. -/
theorem AtRest.of_steady (h : s.AtRest) (hsteady : Steady s site) : site.peer.AtRest := by
  refine ⟨h.toSound.of_steady hsteady, ?_⟩
  rw [hsteady.socket_eq, hsteady.transport_eq]
  exact h.transport_of_socket

/-- Work over a session that holds nothing leaves it so. -/
theorem Vacant.of_steady (h : s.Vacant) (hsteady : Steady s site) : site.peer.Vacant :=
  ⟨hsteady.socket_eq.trans h.socket_eq, hsteady.transport_eq.trans h.transport_eq,
    hsteady.forward_eq_none h.forward_eq⟩

/-! ## Opening a session -/

/-- A session that is being opened on a network. -/
structure Underway (network : Network) (s : Ssh) : Prop extends s.Sound where
  /-- The network is the same. -/
  network_eq : s.network = network
  /-- There is no forward yet. -/
  forward_eq : s.forward = none

/-- Work over a session that is being opened leaves it so. -/
theorem Underway.of_steady {network : Network} (h : Underway network s) (hsteady : Steady s site) :
    Underway network site.peer :=
  ⟨h.toSound.of_steady hsteady, hsteady.network_eq.trans h.network_eq,
    hsteady.forward_eq_none h.forward_eq⟩

/-- A new socket that is held leaves a session without one sound. -/
theorem Sound.holdSocket (h : s.Sound) (hvacant : s.Vacant) :
    Sound { s with
      opened := s.opened + 1
      calls := s.calls ++ [.opened ⟨.socket, s.opened⟩]
      socket := some ⟨.socket, s.opened⟩ } := by
  refine ⟨h.transport_of_forward, fun _ => rfl, ?_, h.transport_kind, h.fitted,
    h.ledger.openResource rfl rfl fun resource _ => ?_⟩
  · rintro _ ⟨⟩
    rfl
  · simp [links, hvacant.socket_eq, hvacant.transport_eq]

/-- A new protocol session that is held leaves a session with a socket only sound. -/
theorem Sound.holdTransport (h : s.Sound) (htransport : s.transport = none)
    (hsocket : s.socket.isSome = true) :
    Sound { s with
      opened := s.opened + 1
      calls := s.calls ++ [.opened ⟨.transport, s.opened⟩]
      transport := some ⟨.transport, s.opened⟩ } := by
  refine ⟨fun _ => rfl, fun _ => hsocket, h.socket_kind, ?_, h.fitted,
    h.ledger.openResource rfl rfl fun resource _ => ?_⟩
  · rintro _ ⟨⟩
    rfl
  · simp [links, htransport]

/-- Makes a protocol session on the socket. -/
def makeTransport : Task Unit := do
  ask .makeTransport .makeTransport
  let transport ← openResource .transport
  change fun s => { s with transport := some transport }

/-- Making a protocol session keeps a session with a socket only in order, whether it fails or
not. -/
theorem underway_makeTransport {network : Network} (h : Underway network site.peer)
    (htransport : site.peer.transport = none) (hsocket : site.peer.socket.isSome = true) :
    Underway network (run makeTransport site).2.peer := by
  have hask : Steady site.peer (run (ask .makeTransport .makeTransport) site).2 :=
    Steady.ask (isNeutral_of_none rfl rfl) .makeTransport site h.steady
  refine Act.of_run_bind (I := fun t : Site Ssh => Underway network t.peer) (h.of_steady hask)
    fun _ _ => ?_
  have hasked := h.of_steady hask
  exact ⟨hasked.toSound.holdTransport (hask.transport_eq.trans htransport)
    (by rw [hask.socket_eq]; exact hsocket), hasked.network_eq, hasked.forward_eq⟩

/-- Connecting to the host keeps a session that held nothing in order, whatever fails. -/
theorem underway_openTransport {network : Network} (h : Underway network site.peer)
    (hvacant : site.peer.Vacant) (login : Login) (seconds : Float) :
    Underway network (run (openTransport login seconds) site).2.peer := by
  have hdial : Steady site.peer (run (ask (.dial login.host login.port seconds) .dial) site).2 :=
    Steady.ask (isNeutral_of_none rfl rfl) .dial site h.steady
  refine Act.of_run_bind (I := fun t : Site Ssh => Underway network t.peer) (h.of_steady hdial)
    fun _ _ => ?_
  have hdialled := h.of_steady hdial
  -- The socket is held before the next step can fail.
  exact underway_makeTransport
    ⟨hdialled.toSound.holdSocket (hvacant.of_steady hdial), hdialled.network_eq,
      hdialled.forward_eq⟩
    (hvacant.of_steady hdial).transport_eq rfl

/-- Another decision leaves the session alone, and so does what happens on the machine. -/
theorem Steady.decide (h : Steady s site) (decision : Decision) (machine : Machine) :
    Steady s { machine, peer := { site.peer with decision } } :=
  ⟨h.network_eq, h.socket_eq, h.transport_eq, h.isSome_eq, h.fitted,
    h.ledger.of_eq rfl rfl rfl⟩

/-- Verifying the host leaves the session alone. -/
theorem Steady.verifyHost (login : Login) : (verifyHost login).Keeps (Steady s) :=
  (keeps_meet _).bind fun _ => keeps_session.bind fun _ => .within fun _ h => h.decide _ _

/-- Whichever step of opening a session fails, what is there is in order. -/
theorem underway_establish {network : Network} (h : Underway network site.peer)
    (hvacant : site.peer.Vacant) (login : Login) (decision : Decision) (seconds : Float) :
    Underway network (run (establish login decision seconds) site).2.peer := by
  have hopened := underway_openTransport h hvacant login seconds
  refine Act.of_run_bind (I := fun t : Site Ssh => Underway network t.peer) hopened fun _ _ => ?_
  refine hopened.of_steady (Act.Keeps.bind keeps_session (fun t => ?_) _ hopened.steady)
  refine .bind (Steady.ask (isNeutral_of_none rfl rfl) _) fun _ => ?_
  refine .bind (Steady.ask (isNeutral_of_none rfl rfl) _) fun _ => ?_
  exact (Steady.verifyHost login).bind fun _ => Steady.ask (isNeutral_of_none rfl rfl) _

/-- A session that was being opened is given back without a fault, and nothing is left of it. -/
theorem Underway.run_disconnect {network : Network} (h : Underway network site.peer)
    (hclose : network.ClosesInOrder) :
    ∃ after, run disconnect site = (.ok (), after) ∧ after.peer.Vacant ∧ after.peer.AtRest := by
  refine run_disconnect_of_sound h.toSound (by rw [h.network_eq]; exact hclose) fun hforward => ?_
  rw [h.forward_eq] at hforward
  cases hforward

/-- However the steps of opening a session ended, what follows leaves it at rest, and with nothing
held unless the user was let in. -/
theorem conclude_of_underway {network : Network} (h : Underway network site.peer)
    (hclose : network.ClosesInOrder) {outcome : Except Fault Unit}
    (hdone : outcome = .ok () → site.peer.transport.isSome = true) (login : Login)
    (seconds : Float) :
    (run (conclude login seconds outcome) site).2.peer.AtRest ∧
      ∀ fault, (run (conclude login seconds outcome) site).1 = .error fault →
        (run (conclude login seconds outcome) site).2.peer.Vacant := by
  obtain ⟨after, hdisconnect, hvacant, hrest⟩ := h.run_disconnect hclose
  unfold conclude
  cases outcome with
  | error fault =>
    dsimp only
    rw [Act.run_bind_of_ok hdisconnect]
    exact ⟨hrest, fun _ _ => hvacant⟩
  | ok =>
    dsimp only
    rw [Act.run_bind_of_ok (run_session _)]
    cases hadmitted : site.peer.network.isAuthenticated with
    | true => exact ⟨⟨h.toSound, fun _ => hdone rfl⟩, fun _ hfault => by cases hfault⟩
    | false =>
      simp only [Bool.not_false, if_true]
      rw [Act.run_bind_of_ok hdisconnect]
      exact ⟨hrest, fun _ _ => hvacant⟩

/-- Reading the key leaves the session alone. -/
theorem Steady.loadKey (login : Login) : (loadKey login).Keeps (Steady s) := by
  refine .bind (.ofExcept _) fun passphrase => ?_
  refine .bind (.attempt (Steady.ask (isNeutral_of_none rfl rfl) _)) fun outcome => ?_
  cases outcome with
  | ok => exact .pure ()
  | error fault => exact .throw _

/-- Where nothing is held and closing is in order, opening a session ends at rest, and if it fails
with nothing held. -/
theorem connect_of_vacant (h : site.peer.AtRest) (htransport : site.peer.transport = none)
    (hclose : site.peer.network.ClosesInOrder) (login : Login) (decision : Decision)
    (seconds : Float) :
    (run (connect login decision seconds) site).2.peer.AtRest ∧
      ∀ fault, (run (connect login decision seconds) site).1 = .error fault →
        (run (connect login decision seconds) site).2.peer.Vacant := by
  have hvacant := h.vacant htransport
  have hsteady := Steady.loadKey login site h.steady
  rcases hload : run (loadKey login) site with ⟨fault | _, site₁⟩
  · -- The key cannot be read, and nothing else is tried.
    rw [hload] at hsteady
    rw [connect_eq, Act.run_bind_of_ok (run_session _), if_neg (by simp [htransport]),
      Act.run_bind_of_error hload]
    exact ⟨h.of_steady hsteady, fun _ _ => hvacant.of_steady hsteady⟩
  · obtain ⟨passphrase, hpassphrase, hkey, rfl⟩ := run_loadKey_eq_ok_iff.1 hload
    rw [hload] at hsteady
    have hprepared : Underway site.peer.network (site.peer.prepared login decision passphrase) :=
      Underway.of_steady ⟨h.toSound, rfl, hvacant.forward_eq⟩ (hsteady.decide decision site.machine)
    have hestablished := @underway_establish
      { site with peer := site.peer.prepared login decision passphrase } _ hprepared
      ⟨hvacant.socket_eq, hvacant.transport_eq, hvacant.forward_eq⟩ login decision seconds
    rw [run_connect_of_loadKey htransport hpassphrase hkey]
    refine conclude_of_underway hestablished hclose (fun hok => ?_) login seconds
    obtain ⟨-, v, -, hafter⟩ := run_establish_eq_ok_iff.1 (Prod.ext hok rfl)
    rw [show (run (establish login decision seconds) _).2.peer = _ from congrArg Site.peer hafter]
    rfl

/-- Where a protocol session is held opening another one is refused, and nothing happens. -/
theorem run_connect_of_some (htransport : site.peer.transport.isSome = true) (login : Login)
    (decision : Decision) (seconds : Float) :
    run (connect login decision seconds) site = (.error (.refusal .alreadyConnected), site) := by
  rw [connect_eq, Act.run_bind_of_ok (run_session _), if_pos htransport]
  rfl

/-! ## Forwarding a port -/

/-- A protocol session is held, and it is up. -/
structure IsActive (s : Ssh) : Prop where
  /-- It is held. -/
  held : s.transport.isSome = true
  /-- It is up. -/
  up : s.network.isActive = true

/-- Without an active session no port is forwarded, and nothing happens. -/
theorem run_openForward_of_not_active (h : ¬ site.peer.IsActive) (request : ForwardRequest) :
    run (openForward request) site = (.error (.refusal .notConnected), site) := by
  have hnot : (site.peer.transport.isNone || !site.peer.network.isActive) = true := by
    cases htransport : site.peer.transport with
    | none => rfl
    | some transport =>
      cases hup : site.peer.network.isActive with
      | false => rfl
      | true => exact absurd ⟨by rw [htransport]; rfl, hup⟩ h
  unfold openForward
  rw [Act.run_bind_of_ok (run_session _), if_pos hnot]
  rfl

/-- Where a port is forwarded another one is refused, and nothing happens. -/
theorem run_openForward_of_forward (h : site.peer.IsActive)
    (hforward : site.peer.forward.isSome = true) (request : ForwardRequest) :
    run (openForward request) site = (.error (.refusal .alreadyForwarding), site) := by
  unfold openForward
  rw [Act.run_bind_of_ok (run_session _),
    if_neg (by simp [h.up, Option.isSome_iff_ne_none.1 h.held]), if_pos hforward]
  rfl

/-- Forwarding a port leaves a session at rest. -/
theorem atRest_openForward (h : site.peer.AtRest) (request : ForwardRequest) :
    (run (openForward request) site).2.peer.AtRest := by
  by_cases hup : site.peer.IsActive
  case neg =>
    rw [run_openForward_of_not_active hup]
    exact h
  by_cases hforward : site.peer.forward.isSome = true
  case pos =>
    rw [run_openForward_of_forward hup hforward]
    exact h
  have hsteady := Steady.startForward request site h.steady
  unfold openForward
  rw [Act.run_bind_of_ok (run_session _),
    if_neg (by simp [hup.up, Option.isSome_iff_ne_none.1 hup.held]), if_neg hforward,
    Act.run_bind_of_ok (Act.run_attempt _ _)]
  rcases hstart : run (startForward request) site with ⟨fault | forward, site₁⟩
  · -- No port is forwarded, and the session is as it was.
    rw [hstart] at hsteady
    dsimp only
    split
    · exact Act.Keeps.bind (I := fun site : Site Ssh => site.peer.AtRest) (.ofExcept _)
        (fun _ => .throw _) site₁ (h.of_steady hsteady)
    · exact h.of_steady hsteady
  · rw [hstart] at hsteady
    have hrest := h.of_steady hsteady
    have hheld : site₁.peer.transport.isSome = true := by
      rw [hsteady.transport_eq]
      exact hup.held
    refine ⟨⟨fun _ => hheld, hrest.socket_of_transport, hrest.socket_kind, hrest.transport_kind,
      fun other hother => ?_, hrest.ledger.of_eq rfl rfl rfl⟩,
      hrest.transport_of_socket⟩
    obtain rfl := Option.some.inj hother
    exact (of_startForward hstart).1

/-! ## Turns -/

/-- What can be asked of a session. -/
inductive Move where
  /-- A session is to be opened. -/
  | connect (login : Login) (decision : Decision) (seconds : Float)
  /-- A port is to be forwarded. -/
  | openForward (request : ForwardRequest)
  /-- Clients arrive at the forwarded port. -/
  | serve (arrivals : List Arrival)
  /-- The session is to be given back. -/
  | disconnect

namespace Move

/-- What is done. -/
def act : Move → Task Unit
  | connect login decision seconds => Ssh.connect login decision seconds
  | openForward request => do
    let _ ← Ssh.openForward request
  | serve arrivals => Ssh.serve arrivals
  | disconnect => Ssh.disconnect

/-- The clients that arrive. -/
def arrivals : Move → List Arrival
  | serve arrivals => arrivals
  | _ => []

end Move

/-- Something that is asked of a session, and what the network answers meanwhile. -/
structure Turn where
  /-- The network. -/
  network : Network
  /-- What is asked. -/
  move : Move

namespace Turn

/-- Takes a turn. -/
def perform (turn : Turn) (site : Site Ssh) : Except Fault Unit × Site Ssh :=
  run turn.move.act (site.facing turn.network)

/-- Closing fails in the turn, if it does, in the expected ways. -/
structure InOrder (turn : Turn) : Prop where
  /-- The network closes in order. -/
  network : turn.network.ClosesAllInOrder
  /-- What clients bring is closed in order. -/
  visits :
    ∀ arrival ∈ turn.move.arrivals, ∀ visit, arrival.outcome = .ok visit → visit.ClosesInOrder

end Turn

/-- The site after turns were taken, whatever they ended with. -/
def afterTurns (turns : List Turn) (site : Site Ssh) : Site Ssh :=
  turns.foldl (fun site turn => (turn.perform site).2) site

/-- Another network leaves a session at rest. -/
theorem AtRest.facing (h : site.peer.AtRest) (network : Network) :
    (site.facing network).peer.AtRest :=
  ⟨⟨h.transport_of_forward, h.socket_of_transport, h.socket_kind, h.transport_kind, h.fitted,
    h.ledger.of_eq rfl rfl rfl⟩, h.transport_of_socket⟩

/-- A turn leaves a session at rest, whatever it ends with. -/
theorem atRest_perform (h : site.peer.AtRest) {turn : Turn} (hturn : turn.InOrder) :
    (turn.perform site).2.peer.AtRest := by
  obtain ⟨network, move⟩ := turn
  have hfacing := h.facing network
  unfold Turn.perform
  cases move with
  | connect login decision seconds =>
    change (run (connect login decision seconds) (site.facing network)).2.peer.AtRest
    cases htransport : (site.facing network).peer.transport with
    | some transport =>
      rw [run_connect_of_some (by rw [htransport]; rfl)]
      exact hfacing
    | none =>
      exact (connect_of_vacant hfacing htransport hturn.network.toClosesInOrder login decision
        seconds).1
  | openForward request =>
    refine Act.of_run_bind (I := fun t : Site Ssh => t.peer.AtRest) ?_ fun _ _ => ?_
    · exact atRest_openForward hfacing request
    · exact atRest_openForward hfacing request
  | serve arrivals => exact hfacing.of_steady (Steady.serve hturn.visits _ hfacing.steady)
  | disconnect =>
    change (run disconnect (site.facing network)).2.peer.AtRest
    obtain ⟨after, hrun, -, hrest⟩ := run_disconnect_of_sound hfacing.toSound
      hturn.network.toClosesInOrder fun _ => hturn.network.listener
    rw [hrun]
    exact hrest

/-- Turns leave a session at rest. -/
theorem atRest_afterTurns (h : site.peer.AtRest) {turns : List Turn}
    (hturns : ∀ turn ∈ turns, turn.InOrder) : (afterTurns turns site).peer.AtRest := by
  induction turns generalizing site with
  | nil => exact h
  | cons turn turns ih =>
    exact ih (atRest_perform h (hturns turn List.mem_cons_self)) fun other hother =>
      hturns other (List.mem_cons_of_mem _ hother)

/-! ## The lifecycle -/

/-- A session can be opened: this is done on every network that admits the user. -/
def CanConnect (site : Site Ssh) : Prop :=
  ∀ (network : Network) (login : Login) (decision : Decision) (seconds : Float),
    network.Admits login decision site.machine →
      (run (connect login decision seconds) (site.facing network)).1 = .ok ()

/-- Without a protocol session one can be opened. -/
theorem canConnect_of_vacant (h : site.peer.Vacant) : CanConnect site := by
  intro network login decision seconds hadmits
  obtain ⟨machine, passphrase, decided, hrun⟩ :=
    @run_connect_of_admits (site.facing network) login decision h.transport_eq hadmits seconds
  rw [hrun]

/-- The user was let in over the protocol session that is held: keys were agreed on over it, then
the user proved who he is, and the host confirmed it. -/
structure LetIn (login : Login) (network : Network) (s : Ssh) : Prop where
  /-- The proof of identity is the last that was done, and it was done over what is held. -/
  proved : ∃ transport before keyTypes seconds, s.transport = some transport ∧
    s.calls = before ++ [.opened transport, .offerKeyTypes keyTypes, .handshake seconds,
      .authenticate login.user]
  /-- It did not fail. -/
  answered : network.fault? .authenticate = none
  /-- The host let the user in. -/
  confirmed : network.isAuthenticated = true

/-- Where opening a session returns the user was let in. -/
theorem letIn_of_run_connect (h : (run (connect login decision seconds) site).1 = .ok ()) :
    (run (connect login decision seconds) site).2.peer.LetIn login site.peer.network := by
  have htransport : site.peer.transport = none := by
    cases htransport : site.peer.transport with
    | none => rfl
    | some transport =>
      rw [run_connect_of_some (by rw [htransport]; rfl)] at h
      cases h
  have hadmits := admits_of_run_connect htransport h
  obtain ⟨machine, passphrase, decided, hrun⟩ := run_connect_of_admits htransport hadmits seconds
  rw [hrun]
  refine ⟨⟨_, site.peer.calls ++ [.loadKey login.keyFile passphrase,
    .dial login.host login.port seconds, .opened ⟨.socket, site.peer.opened⟩, .makeTransport],
    decision.orderTypes site.peer.network.keyTypes, seconds, rfl, ?_⟩, hadmits.steps _ rfl,
    hadmits.accepted⟩
  simp [introduced, approached, prepared]

/-- The lifecycle of a session, for every row of turns in which closing fails in the expected ways
only. After it a forward needs a protocol session and that one a socket, and every socket and every
protocol session that was ever opened is held and was not closed, or is not held and was closed
exactly once. In the next turn, on any network, another session is refused and changes nothing; a
first one that fails, if closing is in order, leaves nothing and does not keep others from being
opened; one that is opened holds a protocol session over which the user was let in. A forward
without an active session or a second one is refused and changes nothing, and giving the session
back returns, leaves nothing, and lets another one be opened. -/
theorem lifecycle_of_turns (machine : Machine) (network : Network) (turns : List Turn)
    (hturns : ∀ turn ∈ turns, turn.InOrder) :
    let site := afterTurns turns { machine, peer := idle network }
    let s := site.peer
    (s.forward.isSome = true → s.transport.isSome = true) ∧
      (s.transport.isSome = true → s.socket.isSome = true) ∧
      (∀ resource ∈ openings s.calls, resource.kind = .socket ∨ resource.kind = .transport →
        (s.socket = some resource ∨ s.transport = some resource) ∧
            (closings s.calls).count resource = 0 ∨
          ¬ (s.socket = some resource ∨ s.transport = some resource) ∧
            (closings s.calls).count resource = 1) ∧
      ∀ next : Network,
        let found := site.facing next
        (∀ login decision seconds,
          let ended := run (connect login decision seconds) found
          (s.transport.isSome = true → ended = (.error (.refusal .alreadyConnected), found)) ∧
            (s.transport = none → next.ClosesInOrder → ∀ fault, ended.1 = .error fault →
              ended.2.peer.Vacant ∧ CanConnect ended.2) ∧
            (ended.1 = .ok () → ended.2.peer.LetIn login next)) ∧
          (∀ request,
            (¬ found.peer.IsActive →
              run (openForward request) found = (.error (.refusal .notConnected), found)) ∧
              (found.peer.IsActive → s.forward.isSome = true →
                run (openForward request) found = (.error (.refusal .alreadyForwarding), found))) ∧
          (next.ClosesAllInOrder →
            ∃ after, run disconnect found = (.ok (), after) ∧ after.peer.Vacant ∧
              CanConnect after) := by
  intro site s
  have hvacant : (idle network).Vacant := ⟨rfl, rfl, rfl⟩
  have hrest : s.AtRest :=
    @atRest_afterTurns { machine, peer := idle network } (hvacant.atRest (.idle network))
      turns hturns
  refine ⟨hrest.transport_of_forward, hrest.socket_of_transport, fun resource hopened hkind => ?_,
    fun next => ⟨fun login decision seconds =>
      ⟨fun htransport => ?_, fun htransport hclose fault hfault => ?_, letIn_of_run_connect⟩,
      fun request => ⟨fun hnot => ?_, fun hactive hforward => ?_⟩, fun hclose => ?_⟩⟩
  · -- The ledger says of each socket and each transport that it is held or was closed.
    have hlink : resource.kind.isLink = true := by
      rcases hkind with hkind | hkind <;> rw [hkind] <;> rfl
    simpa [links] using hrest.ledger.settled hlink hopened
  · exact @run_connect_of_some (site.facing next) htransport login decision seconds
  · -- An attempt that fails leaves the session vacant, and a vacant session can connect.
    have hleft := (connect_of_vacant (hrest.facing next) htransport hclose login decision seconds).2
      fault hfault
    exact ⟨hleft, canConnect_of_vacant hleft⟩
  · exact run_openForward_of_not_active hnot request
  · exact run_openForward_of_forward hactive hforward request
  · obtain ⟨after, hrun, hleft, -⟩ := run_disconnect_of_sound (hrest.facing next).toSound
      hclose.toClosesInOrder fun _ => hclose.listener
    exact ⟨after, hrun, hleft, canConnect_of_vacant hleft⟩

/-- The user `deploy` at the host `gate`. -/
def trialLogin : Login :=
  { host := "gate", port := 22, user := "deploy", keyFile := "/key", passphrase := .null }

/-- The network of the trial as long as no keys can be agreed on. -/
def brokenNetwork : Network :=
  { trialNetwork with fault? := fun operation =>
      if operation = .handshake then some (.outside .ssh "handshake")
      else trialNetwork.fault? operation }

/-- A session that cannot be opened at first, and then a port is forwarded over it. -/
def trialTurns : List Turn :=
  [{ network := brokenNetwork, move := .connect trialLogin .disabled 3.0 },
    { network := trialNetwork, move := .connect trialLogin .disabled 3.0 },
    { network := trialNetwork
      move := .openForward
        { localHost := "localhost", localPort := 0, targetHost := "db", targetPort := 5432 } }]

/-- Nothing on the network of the trial closes without a fault, but all in the expected ways. -/
theorem closesAllInOrder_trial : trialNetwork.ClosesAllInOrder := by
  refine ⟨⟨?_, ?_⟩, ?_⟩
  · rintro _ ⟨⟩
    exact .inr rfl
  · rintro _ ⟨⟩
    rfl
  · rintro _ ⟨⟩
    rfl

/-- The user of the trial can be let in. -/
theorem admits_trial (machine : Machine) : trialNetwork.Admits trialLogin .disabled machine := by
  refine ⟨⟨none, rfl⟩, fun operation hoperation => ?_, rfl, rfl⟩
  cases operation <;> first | rfl | cases hoperation

/-- After the turns of the trial the links of the first attempt were closed once, and those of the
second one are held; another session is refused, and once this one is given back another one is
opened. -/
theorem lifecycle_of_turns_trial :
    let site := afterTurns trialTurns { machine := Session.trialMachine, peer := idle trialNetwork }
    let found := site.facing trialNetwork
    (∀ turn ∈ trialTurns, turn.InOrder) ∧
      (site.peer.forward.isSome = true ∧ site.peer.transport.isSome = true ∧
        site.peer.socket.isSome = true) ∧
      (closings site.peer.calls).count ⟨.socket, 0⟩ = 1 ∧
      (closings site.peer.calls).count ⟨.transport, 3⟩ = 0 ∧
      run (connect trialLogin .disabled 3.0) found = (.error (.refusal .alreadyConnected), found) ∧
      ∃ after, run disconnect found = (.ok (), after) ∧ after.peer.Vacant ∧
        (run (connect trialLogin .disabled 3.0) (after.facing trialNetwork)).1 = .ok () := by
  intro site found
  have hturns : ∀ turn ∈ trialTurns, turn.InOrder := by
    have hbroken : brokenNetwork.ClosesAllInOrder :=
      ⟨⟨closesAllInOrder_trial.transport, closesAllInOrder_trial.socket⟩,
        closesAllInOrder_trial.listener⟩
    simp only [trialTurns, List.mem_cons, List.not_mem_nil, or_false, forall_eq_or_imp, forall_eq]
    exact ⟨⟨hbroken, fun _ harrival => by cases harrival⟩,
      ⟨closesAllInOrder_trial, fun _ harrival => by cases harrival⟩,
      ⟨closesAllInOrder_trial, fun _ harrival => by cases harrival⟩⟩
  obtain ⟨hforward, htransport, hsettled, hnext⟩ :=
    lifecycle_of_turns Session.trialMachine trialNetwork trialTurns hturns
  obtain ⟨hconnect, -, hdisconnect⟩ := hnext trialNetwork
  have hup : site.peer.forward.isSome = true := by decide +kernel
  have hfirst := hsettled ⟨.socket, 0⟩ (by decide +kernel) (.inl rfl)
  have hsecond := hsettled ⟨.transport, 3⟩ (by decide +kernel) (.inr rfl)
  obtain ⟨after, hrun, hvacant, hagain⟩ := hdisconnect closesAllInOrder_trial
  refine ⟨hturns, ⟨hup, hforward hup, htransport (hforward hup)⟩, ?_, ?_,
    (hconnect trialLogin .disabled 3.0).1 (hforward hup), after, hrun, hvacant,
    hagain trialNetwork trialLogin .disabled 3.0 (admits_trial _)⟩
  · rcases hfirst with ⟨hheld, -⟩ | ⟨-, honce⟩
    · exact absurd hheld (by decide +kernel)
    · exact honce
  · rcases hsecond with ⟨-, hnever⟩ | ⟨hnot, -⟩
    · exact hnever
    · exact absurd (.inr (by decide +kernel)) hnot

end Ssh

end SecureForward
