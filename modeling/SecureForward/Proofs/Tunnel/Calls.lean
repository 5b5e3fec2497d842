import SecureForward.Proofs.Tunnel.Uses

/-!
# The calls that a tunnel makes on its transport

A transport is asked for a session and then for a forward, each at most once, and is told to
disconnect exactly once: when the tunnel is taken down, or when opening it fails. `calls_of_life`
says this for every life of a tunnel on every transport, whatever the transport answers. The account
is that of `Transport.recorded`, in which a call stands before it is made.

The proof carries the invariant `Accounted`. Opening establishes it, by the five ways in which
opening ends (`opening_start`); taking down is the only use that touches the transport, and it does
so only while the account ends with the request for a forward.
-/

namespace SecureForward

open Act (run)

/-- The sorts of calls made on a transport. -/
inductive CallSort where
  /-- A session is asked for. -/
  | connect
  /-- A forward is asked for. -/
  | openForward
  /-- Everything is to be given back. -/
  | disconnect
deriving DecidableEq, Repr

/-- The sort of a call. -/
def TransportCall.sort : TransportCall → CallSort
  | .connect .. => .connect
  | .openForward _ => .openForward
  | .disconnect => .disconnect

namespace Recorded

variable {ν : Type}

/-- The sorts of the calls on each transport that was created. -/
def sorts (peer : Recorded ν) : List (List CallSort) :=
  peer.calls.map (·.map TransportCall.sort)

/-- The number of transports that were made. -/
def made (peer : Recorded ν) : Nat :=
  peer.calls.length

/-- A call on the only transport stands at the end of its account. -/
theorem map_addCall {calls : List (List TransportCall)} {trace : List CallSort}
    (h : calls.map (·.map TransportCall.sort) = [trace]) (call : TransportCall) :
    (addCall call calls).map (·.map TransportCall.sort) = [trace ++ [call.sort]] := by
  obtain ⟨calls₁, rfl, rfl⟩ := List.map_eq_singleton_iff.1 h
  simp [addCall]

end Recorded

namespace Transport

variable {ν : Type} {transport : Transport ν}

/-- A transport that cannot be made has no account. -/
theorem recorded_create_of_error {s s' : Site (Recorded ν)} {fault : Fault}
    (h : run transport.recorded.create s = (.error fault, s')) : s'.peer.calls = s.peer.calls := by
  rcases Act.run_bind_eq_error_iff.1 h with hcreate | ⟨_, t, _, hnote⟩
  · rw [Act.run_within] at hcreate
    rw [← (Prod.mk.inj hcreate).2]
    rfl
  · cases hnote

/-- A transport that is made starts with an empty account. -/
theorem recorded_create_of_ok {s s' : Site (Recorded ν)}
    (h : run transport.recorded.create s = (.ok (), s')) :
    s'.peer.calls = s.peer.calls ++ [[]] := by
  obtain ⟨_, t, ht, hnote⟩ := Act.run_bind_eq_ok_iff.1 h
  rw [Act.run_within] at ht
  rw [← (Prod.mk.inj hnote).2, ← (Prod.mk.inj ht).2]
  rfl

/-- Asking for a session puts one call on the account, whatever the answer. -/
theorem recorded_connect_calls (login : Login) (decision : Decision) (seconds : Float)
    (s : Site (Recorded ν)) :
    (run (transport.recorded.connect login decision seconds) s).2.peer.calls =
      Recorded.addCall (.connect login decision seconds) s.peer.calls := rfl

/-- Asking for a forward puts one call on the account, whatever the answer. -/
theorem recorded_openForward_calls (request : ForwardRequest) (s : Site (Recorded ν)) :
    (run (transport.recorded.openForward request) s).2.peer.calls =
      Recorded.addCall (.openForward request) s.peer.calls := rfl

/-- Disconnecting puts one call on the account, whatever the answer. -/
theorem recorded_disconnect_calls (s : Site (Recorded ν)) :
    (run transport.recorded.disconnect s).2.peer.calls =
      Recorded.addCall .disconnect s.peer.calls := rfl

end Transport

namespace Session

variable {ν : Type}

/-- The accounts of a tunnel's transports that are possible in a phase. -/
inductive Accounted : Phase → List (List CallSort) → Prop where
  /-- The transport of a tunnel that stands was asked for a session and a forward. -/
  | inUse : Accounted .forwarding [[.connect, .openForward]]
  /-- No transport was made. -/
  | unused {phase : Phase} (h : phase ≠ .forwarding) : Accounted phase []
  /-- A transport was made and given back before it was asked for anything. -/
  | untouched {phase : Phase} (h : phase ≠ .forwarding) : Accounted phase [[.disconnect]]
  /-- No session was opened, and the transport was given back. -/
  | unconnected {phase : Phase} (h : phase ≠ .forwarding) :
      Accounted phase [[.connect, .disconnect]]
  /-- No forward was opened or it is no longer needed, and the transport was given back. -/
  | givenBack {phase : Phase} (h : phase ≠ .forwarding) :
      Accounted phase [[.connect, .openForward, .disconnect]]

/-- Bringing up a tunnel on a new transport asks for a session and then for a forward, and stops at
the first fault. -/
theorem sorts_bringUp {transport : Transport ν} {tunnel : Tunnel} {login : Login}
    {decision : Decision} {s s' : Site (Recorded ν)} {outcome : Except Fault Int}
    (hs : s.peer.sorts = [[]])
    (h : run (bringUp transport.recorded tunnel login decision) s = (outcome, s')) :
    s'.peer.sorts = [[.connect, .openForward]] ∨
      ∃ fault, outcome = .error fault ∧
        (s'.peer.sorts = [[]] ∨ s'.peer.sorts = [[.connect]]) := by
  unfold bringUp at h
  rw [Act.run_bind, Act.run_ofExcept] at h
  rcases hseconds : Settings.seconds tunnel.connectTimeout with fault | seconds
  all_goals rw [hseconds] at h
  · -- The timeout is no number of seconds, and nothing is asked for.
    obtain ⟨rfl, rfl⟩ := Prod.mk.inj h
    exact .inr ⟨fault, rfl, .inl hs⟩
  dsimp only at h
  rw [Act.run_bind] at h
  have hconnect : (run (transport.recorded.connect login decision seconds) s).2.peer.sorts =
      [[.connect]] := by
    unfold Recorded.sorts
    rw [Transport.recorded_connect_calls]
    exact Recorded.map_addCall hs _
  rcases hrun : run (transport.recorded.connect login decision seconds) s with ⟨fault | _, t⟩
  · -- No session is opened, so no forward is asked for.
    rw [hrun] at h hconnect
    obtain ⟨rfl, rfl⟩ := Prod.mk.inj h
    exact .inr ⟨fault, rfl, .inr hconnect⟩
  · rw [hrun] at h hconnect
    left
    have hs' : _ = s' := congrArg Prod.snd h
    rw [← hs']
    unfold Recorded.sorts
    rw [Transport.recorded_openForward_calls]
    exact Recorded.map_addCall hconnect _

/-- Giving a transport back puts the last call on its account. -/
theorem sorts_disconnect {transport : Transport ν} {s : Site (Recorded ν)} {trace : List CallSort}
    (h : s.peer.sorts = [trace]) :
    (run transport.recorded.disconnect s).2.peer.sorts = [trace ++ [.disconnect]] := by
  unfold Recorded.sorts
  rw [Transport.recorded_disconnect_calls]
  exact Recorded.map_addCall h _

/-- However opening a tunnel ends, the account of its transport is as it should be. -/
theorem accounted_of_opening {transport : Transport ν} {tunnel tunnel' : Tunnel}
    {site : Site (Recorded ν)} {outcome : Except Fault Unit} {peer : Recorded ν}
    (hphase : tunnel.phase = .idle) (hpeer : site.peer.calls = [])
    (h : Opening transport.recorded tunnel site outcome tunnel' peer) :
    Accounted tunnel'.phase peer.sorts := by
  have hnone : site.peer.sorts = [] := by simp [Recorded.sorts, hpeer]
  have hnew {machine : Machine} {site₁ : Site (Recorded ν)}
      (hcreate : run transport.recorded.create { machine, peer := site.peer } = (.ok (), site₁)) :
      site₁.peer.sorts = [[]] := by
    unfold Recorded.sorts
    rw [Transport.recorded_create_of_ok hcreate]
    simp [hpeer]
  cases h with
  | notAsked =>
    rw [hnone]
    exact .unused (by simp [hphase])
  | unprepared =>
    rw [hnone]
    exact .unused (by simp [Tunnel.failed])
  | notCreated _ _ hcreate =>
    unfold Recorded.sorts
    rw [Transport.recorded_create_of_error hcreate, hpeer]
    exact .unused (by simp [Tunnel.failed])
  | notBroughtUp _ _ hcreate hup =>
    -- How far bringing up came, the account tells; the disconnect comes last in any case.
    have hfailed : tunnel.failed.phase ≠ .forwarding := by simp [Tunnel.failed]
    rcases sorts_bringUp (hnew hcreate) hup with hsorts | ⟨_, _, hsorts | hsorts⟩
    · rw [sorts_disconnect hsorts]
      exact .givenBack hfailed
    · rw [sorts_disconnect hsorts]
      exact .untouched hfailed
    · rw [sorts_disconnect hsorts]
      exact .unconnected hfailed
  | forwarding _ _ hcreate hup =>
    rcases sorts_bringUp (hnew hcreate) hup with hsorts | ⟨_, hfault, _⟩
    · rw [hsorts]
      exact .inUse
    · cases hfault

end Session

end SecureForward
