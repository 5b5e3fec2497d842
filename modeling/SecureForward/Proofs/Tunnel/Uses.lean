import SecureForward.Proofs.Machine
import SecureForward.Tunnel.Basic

/-!
# The life of a tunnel

A tunnel is opened once and then used any number of times: it is taken down, entered and left as a
block, asked about, or a target is redirected to it. `Session.life` is the session after such a
life, whatever each step ends with.

Everything that a step can do to the tunnel and to its transport is said once, for any transport:
`opening_start` lists the ways in which opening ends, `run_disconnect_of_none` and
`run_disconnect_of_some` say what taking down does, and `run_redirect_snd` that redirecting changes
nothing but the machine. The laws of the tunnel follow from these without looking into the steps
again.
-/

namespace SecureForward

open Act (run)

/-- What can be done with a tunnel once it is made. -/
inductive Use where
  /-- It is taken down. -/
  | disconnect
  /-- A block that works with it begins. -/
  | enter
  /-- A block that works with it ends. -/
  | leave
  /-- It is asked how far it has come, where it is, and what takes the place of the target. -/
  | query
  /-- A target is redirected to it. -/
  | redirect (target : Target)

namespace Tunnel

/-- The tunnel once opening it was given up. -/
def failed (tunnel : Tunnel) : Tunnel :=
  { tunnel with phase := .failed, heldPort := none }

/-- The tunnel once it stands from a local port. -/
def standing (tunnel : Tunnel) (port : Int) : Tunnel :=
  { tunnel with phase := .forwarding, heldPort := some port }

/-- The tunnel once it was taken down. -/
def closed (tunnel : Tunnel) : Tunnel :=
  { tunnel with phase := .closed, heldPort := none }

/-- The machine once it was reported that the tunnel is being opened. -/
def reportOpening (tunnel : Tunnel) (machine : Machine) : Machine :=
  (run (Machine.report (.opening tunnel.config.user tunnel.config.host tunnel.config.port
    tunnel.config.target)) machine).2

/-- No step on the tunnel is under way: it holds a forward exactly while it stands, and it is not
being opened. -/
structure Settled (tunnel : Tunnel) : Prop where
  /-- A forward is held exactly while the tunnel stands. -/
  held_iff : tunnel.heldPort.isSome ↔ tunnel.phase = .forwarding
  /-- The tunnel is not being opened. -/
  not_connecting : tunnel.phase ≠ .connecting

/-- A tunnel that is not opened yet is settled. -/
theorem settled_new (settings : Settings) (choices : Choices) (config : Config) :
    (new settings choices config).Settled where
  held_iff := by simp [new]
  not_connecting := by simp [new]

/-- A tunnel that was given up is settled. -/
theorem settled_failed (tunnel : Tunnel) : tunnel.failed.Settled where
  held_iff := by simp [failed]
  not_connecting := by simp [failed]

/-- A tunnel that stands from a local port is settled. -/
theorem settled_standing (tunnel : Tunnel) (port : Int) : (tunnel.standing port).Settled where
  held_iff := by simp [standing]
  not_connecting := by simp [standing]

end Tunnel

namespace Session

variable {ν : Type}

/-- Uses a tunnel. The result is left out, a fault is not. -/
def perform (transport : Transport ν) : Use → Act (Session ν) Unit
  | .disconnect => disconnect transport
  | .enter => pure ()
  | .leave => disconnect transport
  | .query => pure ()
  | .redirect target => discard <| redirect target

/-- The session after some uses, one after the other, whatever each of them ends with. -/
def afterUses (transport : Transport ν) (s : Session ν) (uses : List Use) : Session ν :=
  uses.foldl (fun s use => (run (perform transport use) s).2) s

/-- The session after the tunnel was opened, successfully or not, and then used. -/
def life (transport : Transport ν) (s : Session ν) (uses : List Use) : Session ν :=
  afterUses transport (run (start transport) s).2 uses

/-- A session with a tunnel that is not opened yet; without a configuration no tunnel is asked
for. -/
def fresh (settings : Settings) (choices : Tunnel.Choices) (config : Option Config)
    (site : Site ν) : Session ν :=
  { tunnel := .new settings choices (config.getD .disabled), site }

/-- What every use keeps holds after any number of uses. -/
theorem afterUses_induction {transport : Transport ν} {s : Session ν} {I : Session ν → Prop}
    (hs : I s) (hkeep : ∀ use, (perform transport use).Keeps I) (uses : List Use) :
    I (afterUses transport s uses) := by
  unfold afterUses
  induction uses generalizing s with
  | nil => exact hs
  | cons use uses ih => exact ih (hkeep use s hs)

/-! ## Single steps -/

/-- Works on the site and leaves the tunnel alone. -/
theorem run_onSite {α : Type} (act : Act (Site ν) α) (s : Session ν) :
    run (onSite act) s = ((run act s.site).1, { s with site := (run act s.site).2 }) := rfl

/-- Works on the machine and leaves the tunnel and the transport alone. -/
theorem run_onMachine {α : Type} (act : Act Machine α) (s : Session ν) :
    run (onMachine act) s =
      ((run act s.site.machine).1,
        { s with site := { s.site with machine := (run act s.site.machine).2 } }) := rfl

/-- Reports, on the machine, what can be put into words. -/
theorem run_report {event : Event} (h : event.isWritable = true) (s : Session ν) :
    run (report event) s =
      (.ok (), { s with site :=
        { s.site with machine := Machine.reporting event s.site.machine } }) := by
  unfold report
  rw [run_onMachine, Machine.run_report_of_writable h]

/-- A report changes nothing but the machine, whether it can be put into words or not. -/
theorem run_report_snd (event : Event) (s : Session ν) :
    ∃ machine, (run (report event) s).2 = { s with site := { s.site with machine } } :=
  ⟨_, congrArg Prod.snd (run_onMachine _ s)⟩

/-- Moves the tunnel to another phase. -/
theorem run_enter (phase : Phase) (s : Session ν) :
    run (enter phase) s = (.ok (), { s with tunnel := { s.tunnel with phase } }) := rfl

/-- Notes which forward the tunnel holds. -/
theorem run_hold (heldPort : Option Int) (s : Session ν) :
    run (hold heldPort) s = (.ok (), { s with tunnel := { s.tunnel with heldPort } }) := rfl

/-- What giving the transport back ends with, by what the transport answered: only an interruption
is passed on. -/
def passedOn : Except Fault Unit → Except Fault Unit
  | .error fault => if fault.isInterrupt then .error fault else .ok ()
  | .ok () => .ok ()

/-- What the caller gets when an attempt to open a tunnel through a host is given up: the error for
the fault that was met, unless undoing ended with a fault of its own. -/
def failure (host : String) (fault : Fault) : Except Fault Unit → Fault
  | .error e => e
  | .ok () => raisedError host fault

/-- Giving the transport back asks it once to disconnect and leaves the tunnel alone, whatever the
transport answers. -/
theorem run_release (transport : Transport ν) (s : Session ν) :
    ∃ machine, run (release transport) s =
      (passedOn (run transport.disconnect s.site).1,
        { s with site := { machine, peer := (run transport.disconnect s.site).2.peer } }) := by
  unfold release
  rw [Act.run_bind_of_ok (Act.run_attempt _ _)]
  rw [run_onSite]
  rcases h : run transport.disconnect s.site with ⟨outcome, site⟩
  rcases outcome with fault | _
  · by_cases hi : fault.isInterrupt
    · simp only [passedOn, hi, if_true, Act.run_throw]
      exact ⟨site.machine, rfl⟩
    · simp only [passedOn, hi]
      exact ⟨_, rfl⟩
  · exact ⟨site.machine, rfl⟩

/-- Giving up ends with a fault, after the tunnel failed and everything was undone. Whether undoing
ends with a fault or not, nothing but a report comes after it. -/
theorem run_giveUp (α : Type) (undo : Act (Session ν) Unit) (fault : Fault) (s : Session ν) :
    ∃ machine, run (giveUp undo fault : Act (Session ν) α) s =
      (.error (failure s.tunnel.config.host fault
        (run undo { s with tunnel := s.tunnel.failed }).1),
        { (run undo { s with tunnel := s.tunnel.failed }).2 with
          site := { (run undo { s with tunnel := s.tunnel.failed }).2.site with machine } }) := by
  unfold giveUp
  rw [Act.run_bind_of_ok (Act.run_get _), Act.run_bind_of_ok (run_hold _ _),
    Act.run_bind_of_ok (run_enter _ _)]
  change ∃ machine, run (undo >>= _) { s with tunnel := s.tunnel.failed } = _
  rcases h : run undo { s with tunnel := s.tunnel.failed } with ⟨e | _, t⟩
  · rw [Act.run_bind_of_error h]
    exact ⟨t.site.machine, rfl⟩
  · rw [Act.run_bind_of_ok h, Act.run_bind_of_ok (run_report rfl _), Act.run_throw]
    exact ⟨_, rfl⟩

/-! ## Opening -/

/-- What the caller gets once the tunnel stands from a local port. A port that cannot be written
cannot be reported. -/
def announced (port : Int) : Except Fault Unit :=
  if Decimal.isWritable port then .ok () else .error (.integer .unwritable)

/-- A report that a tunnel stands ends with what the caller gets. -/
theorem run_report_established (host localHost target : String) (port : Int) (s : Session ν) :
    ∃ machine, run (report (.established host localHost port target)) s =
      (announced port, { s with site := { s.site with machine } }) := by
  have hwords : (Event.established host localHost port target).isWritable =
      Decimal.isWritable port := Bool.and_true _
  unfold report announced
  rw [run_onMachine, Machine.run_report, hwords]
  split <;> exact ⟨_, rfl⟩

/-- The ways in which opening a tunnel ends: what the caller gets, and what becomes of the tunnel
and of the state of the transport. -/
inductive Opening (transport : Transport ν) (tunnel : Tunnel) (site : Site ν) :
    Except Fault Unit → Tunnel → ν → Prop where
  /-- No tunnel is asked for, and nothing happens. -/
  | notAsked (asked : tunnel.config.enabled = false) :
      Opening transport tunnel site (.ok ()) tunnel site.peer
  /-- The key file or the trust store is not in order, and no transport is made. -/
  | unprepared (asked : tunnel.config.enabled = true) {fault : Fault} {machine : Machine}
      (prepared : run (prepare tunnel) (tunnel.reportOpening site.machine) =
        (.error fault, machine)) :
      Opening transport tunnel site (.error (raisedError tunnel.config.host fault)) tunnel.failed
        site.peer
  /-- No transport can be made. -/
  | notCreated (asked : tunnel.config.enabled = true) {login : Login} {decision : Decision}
      {fault : Fault} {machine : Machine} {site₁ : Site ν}
      (prepared : run (prepare tunnel) (tunnel.reportOpening site.machine) =
        (.ok (login, decision), machine))
      (created : run transport.create { machine, peer := site.peer } = (.error fault, site₁)) :
      Opening transport tunnel site (.error (raisedError tunnel.config.host fault)) tunnel.failed
        site₁.peer
  /-- The session or the forward cannot be opened, and the transport is given back. -/
  | notBroughtUp (asked : tunnel.config.enabled = true) {login : Login} {decision : Decision}
      {fault : Fault} {machine : Machine} {site₁ site₂ : Site ν}
      (prepared : run (prepare tunnel) (tunnel.reportOpening site.machine) =
        (.ok (login, decision), machine))
      (created : run transport.create { machine, peer := site.peer } = (.ok (), site₁))
      (broughtUp : run (bringUp transport tunnel login decision) site₁ = (.error fault, site₂)) :
      Opening transport tunnel site
        (.error (failure tunnel.config.host fault (passedOn (run transport.disconnect site₂).1)))
        tunnel.failed (run transport.disconnect site₂).2.peer
  /-- The tunnel stands from the local port that the transport gave, which is then reported. -/
  | forwarding (asked : tunnel.config.enabled = true) {login : Login} {decision : Decision}
      {port : Int} {machine : Machine} {site₁ site₂ : Site ν}
      (prepared : run (prepare tunnel) (tunnel.reportOpening site.machine) =
        (.ok (login, decision), machine))
      (created : run transport.create { machine, peer := site.peer } = (.ok (), site₁))
      (broughtUp : run (bringUp transport tunnel login decision) site₁ = (.ok port, site₂)) :
      Opening transport tunnel site (announced port) (tunnel.standing port) site₂.peer

/-- Opening a tunnel that is asked for ends in one of the last four ways. -/
theorem opening_establish (transport : Transport ν) (s : Session ν)
    (asked : s.tunnel.config.enabled = true) :
    Opening transport s.tunnel s.site (run (establish transport) s).1
      (run (establish transport) s).2.tunnel (run (establish transport) s).2.site.peer := by
  unfold establish
  rw [Act.run_bind_of_ok (run_enter _ _), Act.run_bind_of_ok (Act.run_get _),
    Act.run_bind_of_ok (run_report rfl _), Act.run_bind_of_ok (Act.run_attempt _ _), run_onMachine]
  dsimp only
  rcases hprepare : run (prepare _) (Machine.reporting _ s.site.machine) with
    ⟨fault | ⟨login, decision⟩, machine⟩
  · -- No transport exists yet, so there is nothing to undo.
    obtain ⟨machine', h⟩ := run_giveUp Unit (pure ()) fault
      { tunnel := { s.tunnel with phase := .connecting },
        site := { machine, peer := s.site.peer } }
    rw [h]
    exact .unprepared asked hprepare
  dsimp only
  rw [Act.run_bind_of_ok (Act.run_attempt _ _), run_onSite]
  dsimp only
  rcases hcreate : run transport.create { machine, peer := s.site.peer } with ⟨fault | _, site₁⟩
  · obtain ⟨machine', h⟩ := run_giveUp Unit (pure ()) fault
      { tunnel := { s.tunnel with phase := .connecting }, site := site₁ }
    rw [h]
    change Opening transport s.tunnel s.site (.error (raisedError s.tunnel.config.host fault))
      s.tunnel.failed site₁.peer
    exact .notCreated asked hprepare hcreate
  dsimp only
  rw [Act.run_bind_of_ok (Act.run_attempt _ _), run_onSite]
  dsimp only
  rcases hup : run (bringUp transport { s.tunnel with phase := .connecting } login decision) site₁
    with ⟨fault | port, site₂⟩
  · -- The transport exists, and undoing gives it back whatever it answers.
    obtain ⟨machine₁, h⟩ := run_giveUp Unit (release transport) fault
      { tunnel := { s.tunnel with phase := .connecting }, site := site₂ }
    obtain ⟨machine₂, hrelease⟩ := run_release transport
      { tunnel := s.tunnel.failed, site := site₂ }
    rw [h]
    change Opening transport s.tunnel s.site
      (.error (failure s.tunnel.config.host fault
        (run (release transport) { tunnel := s.tunnel.failed, site := site₂ }).1))
      (run (release transport) { tunnel := s.tunnel.failed, site := site₂ }).2.tunnel
      (run (release transport) { tunnel := s.tunnel.failed, site := site₂ }).2.site.peer
    rw [hrelease]
    exact .notBroughtUp asked hprepare hcreate hup
  · dsimp only
    rw [Act.run_bind_of_ok (run_hold _ _), Act.run_bind_of_ok (run_enter _ _)]
    obtain ⟨machine', h⟩ := run_report_established s.tunnel.config.host s.tunnel.localHost
      s.tunnel.config.target port { tunnel := s.tunnel.standing port, site := site₂ }
    change Opening transport s.tunnel s.site (run (report _) ⟨s.tunnel.standing port, site₂⟩).1
      (run (report _) ⟨s.tunnel.standing port, site₂⟩).2.tunnel
      (run (report _) ⟨s.tunnel.standing port, site₂⟩).2.site.peer
    rw [h]
    change Opening transport s.tunnel s.site (announced port) (s.tunnel.standing port) site₂.peer
    exact .forwarding asked hprepare hcreate hup

/-- Opening a tunnel ends in one of the five ways. -/
theorem opening_start (transport : Transport ν) (s : Session ν) :
    Opening transport s.tunnel s.site (run (start transport) s).1
      (run (start transport) s).2.tunnel (run (start transport) s).2.site.peer := by
  unfold start
  rw [Act.run_bind_of_ok (Act.run_get _)]
  by_cases asked : s.tunnel.config.enabled = true
  · rw [if_pos asked]
    exact opening_establish transport s asked
  · rw [if_neg asked]
    exact .notAsked (by simpa using asked)

/-- However opening ends, the tunnel is settled. -/
theorem Opening.settled {transport : Transport ν} {tunnel tunnel' : Tunnel} {site : Site ν}
    {outcome : Except Fault Unit} {peer : ν}
    (h : Opening transport tunnel site outcome tunnel' peer) (htunnel : tunnel.Settled) :
    tunnel'.Settled := by
  cases h with
  | notAsked => exact htunnel
  | unprepared => exact tunnel.settled_failed
  | notCreated => exact tunnel.settled_failed
  | notBroughtUp => exact tunnel.settled_failed
  | forwarding => exact tunnel.settled_standing _

/-! ## Using -/

/-- Taking down a tunnel that holds no forward does nothing at all. -/
theorem run_disconnect_of_none (transport : Transport ν) {s : Session ν}
    (h : s.tunnel.heldPort = none) : run (disconnect transport) s = (.ok (), s) := by
  unfold disconnect
  rw [Act.run_bind_of_ok (Act.run_get _)]
  dsimp only
  rw [h]
  rfl

/-- Taking down a tunnel that holds a forward asks the transport once to disconnect and closes the
tunnel, whatever the transport answers. -/
theorem run_disconnect_of_some (transport : Transport ν) {s : Session ν} {port : Int}
    (h : s.tunnel.heldPort = some port) :
    (run (disconnect transport) s).2.tunnel = s.tunnel.closed ∧
      (run (disconnect transport) s).2.site.peer = (run transport.disconnect s.site).2.peer := by
  unfold disconnect
  rw [Act.run_bind_of_ok (Act.run_get _)]
  dsimp only
  rw [h]
  dsimp only
  rw [Act.run_bind_of_ok (run_hold _ _), Act.run_bind_of_ok (run_enter _ _)]
  obtain ⟨machine, hrelease⟩ := run_release transport { s with tunnel := s.tunnel.closed }
  change (run (release transport >>= _) { s with tunnel := s.tunnel.closed }).2.tunnel = _ ∧
    (run (release transport >>= _) { s with tunnel := s.tunnel.closed }).2.site.peer = _
  rcases hrun : run (release transport) { s with tunnel := s.tunnel.closed } with
    ⟨fault | _, t⟩
  · -- An interrupt leaves after the tunnel was closed, before this is reported.
    rw [Act.run_bind_of_error hrun]
    rw [hrun] at hrelease
    obtain rfl := (Prod.mk.inj hrelease).2
    exact ⟨rfl, rfl⟩
  · rw [Act.run_bind_of_ok hrun]
    rw [hrun] at hrelease
    obtain rfl := (Prod.mk.inj hrelease).2
    obtain ⟨machine', h⟩ := run_report_snd (.closed s.tunnel.config.host port)
      { s with tunnel := s.tunnel.closed,
               site := ⟨machine, (run transport.disconnect s.site).2.peer⟩ }
    rw [h]
    exact ⟨rfl, rfl⟩

/-- Redirecting a target changes neither the tunnel nor the transport. -/
theorem run_redirect_snd (target : Target) (s : Session ν) :
    ∃ machine, (run (redirect target) s).2 = { s with site := { s.site with machine } } := by
  unfold redirect
  rw [Act.run_bind_of_ok (Act.run_get _)]
  rcases s.tunnel.override? with _ | address
  · exact ⟨s.site.machine, rfl⟩
  · dsimp only
    rcases h : target.redirect address with e | target'
    · rw [Act.run_bind_of_error (Act.run_ofExcept _ _)]
      exact ⟨s.site.machine, rfl⟩
    · rw [Act.run_bind_of_ok (Act.run_ofExcept _ _), Act.run_bind]
      obtain ⟨machine, hreport⟩ := run_report_snd (.redirected address.host address.port) s
      refine ⟨machine, hreport ▸ ?_⟩
      rcases run (report (.redirected address.host address.port)) s with ⟨_ | _, t⟩
      · rfl
      · rfl

/-- A property of the tunnel and of the state of the transport that taking down keeps, where a
forward is held, is kept by every use. -/
theorem keeps_perform {transport : Transport ν} {I : Tunnel → ν → Prop}
    (h : ∀ (s : Session ν) (port : Int), s.tunnel.heldPort = some port → I s.tunnel s.site.peer →
      I s.tunnel.closed (run transport.disconnect s.site).2.peer)
    (use : Use) : (perform transport use).Keeps fun s => I s.tunnel s.site.peer := by
  have hdisconnect : (disconnect transport).Keeps fun s => I s.tunnel s.site.peer := by
    intro s hs
    rcases hport : s.tunnel.heldPort with _ | port
    · rw [run_disconnect_of_none transport hport]
      exact hs
    · obtain ⟨htunnel, hpeer⟩ := run_disconnect_of_some transport hport
      rw [htunnel, hpeer]
      exact h s port hport hs
  cases use with
  | disconnect => exact hdisconnect
  | enter => exact .pure ()
  | leave => exact hdisconnect
  | query => exact .pure ()
  | redirect target =>
    intro s hs
    obtain ⟨machine, hrun⟩ := run_redirect_snd target s
    have hperform :
        (run (perform transport (.redirect target)) s).2 = (run (redirect target) s).2 := by
      change (run (redirect target >>= fun _ => pure ()) s).2 = _
      rw [Act.run_bind]
      rcases run (redirect target) s with ⟨_ | _, t⟩ <;> rfl
    rw [hperform, hrun]
    exact hs

/-- Uses of a tunnel that holds no forward change neither it nor the transport. -/
theorem afterUses_of_none (transport : Transport ν) {s : Session ν} (h : s.tunnel.heldPort = none)
    (uses : List Use) :
    (afterUses transport s uses).tunnel = s.tunnel ∧
      (afterUses transport s uses).site.peer = s.site.peer := by
  refine afterUses_induction (I := fun t => t.tunnel = s.tunnel ∧ t.site.peer = s.site.peer)
    ⟨rfl, rfl⟩ (keeps_perform (I := fun tunnel peer => tunnel = s.tunnel ∧ peer = s.site.peer)
      fun t port hport ht => ?_) uses
  rw [ht.1, h] at hport
  cases hport

/-- What holds of the tunnel and of the state of the transport after every life: it holds however
opening ends, and taking down keeps it where a forward is held. -/
theorem life_tunnel_induction {transport : Transport ν} {s : Session ν} {I : Tunnel → ν → Prop}
    (hopen : ∀ outcome tunnel peer, Opening transport s.tunnel s.site outcome tunnel peer →
      I tunnel peer)
    (hdown : ∀ (s : Session ν) (port : Int), s.tunnel.heldPort = some port →
      I s.tunnel s.site.peer → I s.tunnel.closed (run transport.disconnect s.site).2.peer)
    (uses : List Use) :
    I (life transport s uses).tunnel (life transport s uses).site.peer :=
  afterUses_induction (I := fun s => I s.tunnel s.site.peer)
    (hopen _ _ _ (opening_start transport s)) (keeps_perform hdown) uses

end Session

end SecureForward
