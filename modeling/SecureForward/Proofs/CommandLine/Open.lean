import SecureForward.Proofs.CommandLine.Check
import SecureForward.Proofs.Tunnel.Scope

/-!
# Opening closes what it opened

A tunnel that was opened from the command line is kept up until the program is asked to end, or
until asking for signals, printing or waiting fails. `run_keepUp` follows the work with the tunnel
down to its end, which is the same on every way out. The opening itself ends in one of two ways:
`Unopened.openTunnel_of_stopped` and `Unopened.openTunnel_of_opened` say what the program does then.
`open_closes_tunnel` puts them together: what was opened is closed exactly once, and the exit code
is 1 exactly if the opening was refused.
-/

namespace SecureForward

open Act (run)

/-- The fault that ends the waiting, if no signal does. -/
def waitFault? : List Wait → Option Fault
  | [] => none
  | .quiet :: waits => waitFault? waits
  | .signal _ :: _ => none
  | .fault fault :: _ => some fault

namespace Watch

/-- The fault that ends the work with a tunnel, if no signal does. -/
def fault? (watch : Watch) : Option Fault :=
  watch.installFault.or (watch.printFault.or (waitFault? watch.waits))

/-- The lines that are printed for a tunnel: its local address, unless something fails before. -/
def printed (watch : Watch) (localHost : String) (localPort : Int) : List String :=
  if watch.installFault.isNone && watch.printFault.isNone then [s!"{localHost}:{localPort}"] else []

end Watch

namespace Serving

variable {ν : Type} {transport : Transport ν}

/-- The program after something was reported. -/
def withMachine (s : Serving ν) (machine : Machine) : Serving ν :=
  { s with session := { s.session with site := { s.session.site with machine } } }

/-- Waiting ends with a signal or with its fault, and changes nothing but the log. -/
theorem run_await (waits : List Wait) (s : Serving ν) :
    ∃ machine, run (await waits) s =
      (resultUnless () (waitFault? waits), s.withMachine machine) := by
  induction waits with
  | nil => exact ⟨_, rfl⟩
  | cons wait waits ih =>
    cases wait with
    | quiet => exact ih
    | signal number => exact ⟨_, rfl⟩
    | fault fault => exact ⟨s.session.site.machine, rfl⟩

/-- What is done with a tunnel that was opened. -/
def attend (watch : Watch) : Act (Serving ν) Unit := do
  fail? watch.installFault
  announce watch
  await watch.waits

/-- The work with a tunnel prints its address once, unless something fails before, and ends with the
first fault. -/
theorem run_attend (watch : Watch) (s : Serving ν) :
    ∃ machine, run (attend watch) s =
      (resultUnless () watch.fault?,
        { s.withMachine machine with
          output :=
            s.output ++ watch.printed s.session.tunnel.localHost s.session.tunnel.localPort }) := by
  unfold attend announce Watch.fault? Watch.printed
  rcases hinstall : watch.installFault with _ | fault
  · rcases hprint : watch.printFault with _ | fault
    · obtain ⟨machine, hawait⟩ := run_await watch.waits
        { s with
          output :=
            s.output ++ [s!"{s.session.tunnel.localHost}:{s.session.tunnel.localPort}"] }
      exact ⟨machine, hawait⟩
    · refine ⟨s.session.site.machine, ?_⟩
      simp only [Option.isNone_none, Option.isNone_some, Bool.and_false, Bool.false_eq_true,
        if_false, List.append_nil]
      rfl
  · refine ⟨s.session.site.machine, ?_⟩
    simp only [Option.isNone_some, Bool.false_and, Bool.false_eq_true, if_false, List.append_nil]
    rfl

/-- Keeping a tunnel up ends as the work with it does and takes the tunnel down, unless giving the
transport back is interrupted. -/
theorem run_keepUp (watch : Watch) (s : Serving ν) (hport : s.session.tunnel.HasWritablePort)
    (hquiet : ∀ site e, transport.disconnect.fault? site = some e → e.isInterrupt = false) :
    ∃ machine, run (keepUp transport watch) s =
      (resultUnless () watch.fault?,
        { session := (run (Session.disconnect transport)
            { s.session with site := { s.session.site with machine } }).2
          output :=
            s.output ++ watch.printed s.session.tunnel.localHost s.session.tunnel.localPort }) := by
  obtain ⟨machine, hattend⟩ := run_attend watch s
  let closing := Machine.reporting .closing machine
  let left : Session ν := { s.session with site := { s.session.site with machine := closing } }
  have hdown : run (Session.disconnect transport) left =
      (.ok (), (run (Session.disconnect transport) left).2) :=
    Session.run_disconnect_of_quiet hport fun e => hquiet _ e
  have hshut : run (shutDown transport) (run (attend watch) s).2 = (.ok (),
      { session := (run (Session.disconnect transport) left).2
        output :=
          s.output ++ watch.printed s.session.tunnel.localHost s.session.tunnel.localPort }) := by
    rw [hattend]
    unfold shutDown onSession
    rw [Act.run_within, Act.run_bind_of_ok (Session.run_report rfl _)]
    change ((run (Session.disconnect transport) left).1, _) = _
    rw [hdown]
    rfl
  refine ⟨closing, ?_⟩
  have hkeep := Act.run_ensuring_of_ok hshut
  rw [hattend] at hkeep
  exact hkeep

/-- Once the opening succeeded, the tunnel is kept up, and the exit code is 0 unless a fault ends
that. -/
theorem run_openTunnel_of_opening_ok {settings : Settings} (watch : Watch) {s t : Serving ν}
    (hport : t.session.tunnel.HasWritablePort)
    (hquiet : ∀ site e, transport.disconnect.fault? site = some e → e.isInterrupt = false)
    (h : run (opening transport settings) s = (.ok (), t)) :
    ∃ machine, run (openTunnel transport settings watch) s =
      (resultUnless 0 watch.fault?,
        { session := (run (Session.disconnect transport)
            { t.session with site := { t.session.site with machine } }).2
          output :=
            t.output ++ watch.printed t.session.tunnel.localHost t.session.tunnel.localPort }) := by
  obtain ⟨machine, hkeep⟩ := run_keepUp watch t hport hquiet
  refine ⟨machine, ?_⟩
  unfold opening at h
  unfold openTunnel
  dsimp only
  rw [Act.run_bind_of_ok (Act.run_attempt _ _), h]
  change run (keepUp transport watch >>= fun _ => pure 0) t = _
  rcases hfault : watch.fault? with _ | fault
  · rw [hfault] at hkeep
    rw [Act.run_bind_of_ok hkeep]
    rfl
  · rw [hfault] at hkeep
    rw [Act.run_bind_of_error hkeep]
    rfl

end Serving

namespace Session

variable {ν : Type} {transport : Transport ν} {tunnel tunnel' : Tunnel}
    {outcome : Except Fault Unit}

/-- A tunnel that is asked for stands once it was opened. -/
theorem up_of_opening {site : Site ν} {peer : ν} (hasked : tunnel.config.enabled = true)
    (h : Opening transport tunnel site (.ok ()) tunnel' peer) : tunnel'.phase = .forwarding := by
  generalize hok : (Except.ok () : Except Fault Unit) = outcome at h
  cases h with
  | notAsked asked =>
    rw [asked] at hasked
    cases hasked
  | unprepared | notCreated | notBroughtUp => cases hok
  | forwarding => rfl

/-- Where opening fails, a transport that was made was given back once, at the end, unless its port
could not be reported. -/
theorem givenBack_of_opening {site : Site (Recorded ν)} {peer : Recorded ν} {fault : Fault}
    (hphase : tunnel.phase = .idle) (hpeer : site.peer.calls = [])
    (h : Opening transport.recorded tunnel site (.error fault) tunnel' peer) :
    (∀ trace ∈ peer.sorts, trace.count .disconnect = 1 ∧ trace.getLast? = some .disconnect) ∨
      Unannounced transport.recorded tunnel site fault := by
  have haccounted := accounted_of_opening hphase hpeer h
  by_cases hup : tunnel'.phase = .forwarding
  · exact .inr (unannounced_of_opening hphase h hup)
  · generalize peer.sorts = sorts, tunnel'.phase = phase at haccounted hup
    left
    cases haccounted with
    | inUse => exact absurd rfl hup
    | unused | untouched | unconnected | givenBack => simp

end Session

namespace Serving

variable {ν : Type} {transport : Transport ν} {settings : Settings} {s : Serving (Recorded ν)}

/-- The opening ends as the check of the settings does, and otherwise as opening the tunnel does. -/
theorem run_opening_fst (transport : Transport ν) (settings : Settings) (s : Serving ν) :
    (run (opening transport settings) s).1 =
      settings.validate >>= fun _ => (run (Session.start transport) s.session).1 := by
  rcases hvalid : settings.validate with fault | _
  · unfold opening
    rw [hvalid, Act.run_bind_of_error (Act.run_ofExcept _ _)]
    rfl
  · rw [run_opening_of_ok hvalid]
    rfl

/-- The tunnel is asked for, and neither it nor a transport was touched yet. -/
structure Unopened (s : Serving (Recorded ν)) : Prop where
  /-- The tunnel is asked for. -/
  enabled : s.session.tunnel.config.enabled = true
  /-- Nothing was done with the tunnel. -/
  settled : s.session.tunnel.Settled
  /-- The tunnel was not opened. -/
  idle : s.session.tunnel.phase = .idle
  /-- No transport was made. -/
  uncalled : s.session.site.peer.calls = []

/-- No forward is held yet. -/
theorem Unopened.unheld (h : s.Unopened) : s.session.tunnel.heldPort = none := by
  cases hheld : s.session.tunnel.heldPort with
  | none => rfl
  | some port =>
    have hup := h.settled.held_iff.1 (by rw [hheld]; rfl)
    rw [h.idle] at hup
    cases hup

/-- A fault that stops the opening becomes the exit code 1 if it is a refusal. Nothing is printed,
and a transport that was made was given back once, at the end, unless its port could not be
reported. -/
theorem Unopened.openTunnel_of_stopped (h : s.Unopened) (watch : Watch) {fault : Fault}
    (hstopped : (run (opening transport.recorded settings) s).1 = .error fault) :
    let opened := run (openTunnel transport.recorded settings watch) s
    opened.1 = (if fault.isRefusal then .ok 1 else .error fault) ∧ opened.2.output = s.output ∧
      ((∀ trace ∈ opened.2.session.site.peer.sorts,
        trace.count .disconnect = 1 ∧ trace.getLast? = some .disconnect) ∨
        Session.Unannounced transport.recorded s.session.tunnel s.session.site fault) := by
  intro opened
  obtain ⟨machine, hopened⟩ := run_openTunnel_of_opening_error watch (Prod.ext hstopped rfl)
  change opened = _ at hopened
  rw [hopened]
  rcases hvalid : settings.validate with refusal | _
  · -- The settings are refused before anything is done.
    unfold opening
    rw [hvalid, Act.run_bind_of_error (Act.run_ofExcept _ _)]
    refine ⟨rfl, rfl, .inl fun trace htrace => ?_⟩
    change trace ∈ s.session.site.peer.calls.map _ at htrace
    rw [h.uncalled] at htrace
    cases htrace
  · rw [run_opening_of_ok hvalid] at hstopped ⊢
    have hopening := Session.opening_start transport.recorded s.session
    rw [show (run (Session.start transport.recorded) s.session).1 = .error fault from hstopped]
      at hopening
    exact ⟨rfl, rfl, Session.givenBack_of_opening h.idle h.uncalled hopening⟩

/-- Once the opening succeeded, the program ends as its work does, after the tunnel was closed and
its transport was given back once. The line that is printed has the local host of the tunnel and the
port that the transport gave. -/
theorem Unopened.openTunnel_of_opened (h : s.Unopened) (watch : Watch)
    (hquiet : ∀ site e, transport.disconnect.fault? site = some e → e.isInterrupt = false)
    (hok : (run (opening transport.recorded settings) s).1 = .ok ()) :
    let opened := run (openTunnel transport.recorded settings watch) s
    opened.1 = resultUnless 0 watch.fault? ∧ opened.2.session.tunnel.phase = .closed ∧
      opened.2.session.site.peer.sorts = [[.connect, .openForward, .disconnect]] ∧
      ∃ port, (run (Session.start transport.recorded) s.session).2.tunnel.heldPort = some port ∧
        (run (Session.steps transport.recorded s.session.tunnel) s.session.site).1 = .ok port ∧
        opened.2.output = s.output ++ watch.printed s.session.tunnel.localHost port := by
  intro opened
  have hrecorded (site : Site (Recorded ν)) (e : Fault)
      (he : transport.recorded.disconnect.fault? site = some e) : e.isInterrupt = false :=
        hquiet _ e he
  have hbegun := hok
  rw [run_opening_fst] at hbegun
  obtain ⟨_, hvalid, hstarted⟩ := bind_eq_ok_iff.1 hbegun
  have hopening := Session.opening_start transport.recorded s.session
  rw [hstarted] at hopening
  have hwritable :
      (run (opening transport.recorded settings) s).2.session.tunnel.HasWritablePort := by
    rw [run_opening_of_ok hvalid]
    exact Session.hasWritablePort_of_opening h.unheld hopening
  obtain ⟨machine, hopened⟩ :=
    run_openTunnel_of_opening_ok watch hwritable hrecorded (Prod.ext hok rfl)
  rw [run_opening_of_ok hvalid] at hopened
  have hup := Session.up_of_opening h.enabled hopening
  obtain ⟨port, -, htunnel, hport⟩ := Session.standing_of_opening h.idle hopening hup
  have hlent := Session.lent_of_opening h.settled h.idle h.uncalled hopening hup
  change opened = _ at hopened
  dsimp only at hopened
  generalize (run (Session.start transport.recorded) s.session).2 = session at *
  obtain ⟨hphase, hsorts⟩ := Session.Lent.run_disconnect (s := { session with site :=
    { session.site with machine } }) hlent transport
  rw [hopened]
  refine ⟨rfl, hphase, hsorts, port, ?_, hport, ?_⟩
  · rw [htunnel]
    rfl
  · rw [htunnel]
    rfl

end Serving

namespace Desk

variable {ν : Type}

/-- What a program that opens a tunnel leaves behind, for any settings and configuration, any
machine and transport, and whatever happens once the tunnel stands; the transport is only assumed
not to be interrupted while it is given back. `attempt` is what checking the settings and opening
the tunnel end with.

Once the tunnel was opened, the program ends with exit code 0 or with the fault that ended its work,
and in either case the tunnel is closed and its transport was given back exactly once. What is
printed is the line `watch.printed` with the local host of the tunnel and the port that its
transport gave. The exit code is 1 exactly if a refusal stopped the attempt, and then nothing is
printed and a transport that was made was given back exactly once, at the end. Any other fault that
stopped it does the same, unless it is met after the transport gave a port of more digits than can
be written. -/
theorem open_closes_tunnel (settings : Settings) (watch : Watch) (config : Config)
    (acceptsNewHosts : Bool)
    (transport : Transport ν) (machine : Machine) (inner : ν) (output : List String)
    (hasked : config.enabled = true)
    (hquiet : ∀ site e, transport.disconnect.fault? site = some e → e.isInterrupt = false) :
    let policy := TrustPolicy.ofSettings settings none (some acceptsNewHosts)
    let asked :=
      Session.fresh settings { Tunnel.Choices.none with policy := some policy } (some config)
      { machine, peer := { calls := [], inner } }
    let begun := Act.run (Session.start transport.recorded) asked
    let attempt := settings.validate >>= fun _ => begun.1
    let opened :=
      Act.run (Serving.openTunnel transport.recorded settings watch) { session := asked, output }
    Act.run (openConfig transport.recorded settings watch config acceptsNewHosts)
        { site := asked.site, output } =
        (opened.1, { site := opened.2.session.site, output := opened.2.output }) ∧
      (attempt = .ok () →
        opened.1 = resultUnless 0 watch.fault? ∧ opened.2.session.tunnel.phase = .closed ∧
          opened.2.session.site.peer.sorts = [[.connect, .openForward, .disconnect]] ∧
          ∃ port, begun.2.tunnel.heldPort = some port ∧
            (Act.run (Session.steps transport.recorded asked.tunnel) asked.site).1 = .ok port ∧
            opened.2.output = output ++ watch.printed asked.tunnel.localHost port) ∧
      (opened.1 = .ok 1 ↔ ∃ fault, fault.isRefusal = true ∧ attempt = .error fault) ∧
      (opened.1 = .ok 1 → opened.2.output = output ∧
        ∀ trace ∈ opened.2.session.site.peer.sorts,
          trace.count .disconnect = 1 ∧ trace.getLast? = some .disconnect) ∧
      ∀ fault, attempt = .error fault →
        opened.1 = (if fault.isRefusal then .ok 1 else .error fault) ∧ opened.2.output = output ∧
          ((∀ trace ∈ opened.2.session.site.peer.sorts,
            trace.count .disconnect = 1 ∧ trace.getLast? = some .disconnect) ∨
            Session.Unannounced transport.recorded asked.tunnel asked.site fault) := by
  intro policy asked begun attempt opened
  have hnew : Serving.Unopened { session := asked, output } :=
    { enabled := hasked, settled := Tunnel.settled_new _ _ _, idle := rfl, uncalled := rfl }
  have hattempt :
      (Act.run (Serving.opening transport.recorded settings) { session := asked, output }).1 =
      attempt := Serving.run_opening_fst _ _ _
  have hstopped (fault : Fault) (h : attempt = .error fault) :=
    hnew.openTunnel_of_stopped watch (hattempt.trans h)
  have hopened (h : attempt = .ok ()) := hnew.openTunnel_of_opened watch hquiet (hattempt.trans h)
  have hrefused : opened.1 = .ok 1 ↔ ∃ fault, fault.isRefusal = true ∧ attempt = .error fault := by
    constructor
    · intro hcode
      rcases h : attempt with fault | _
      · have hexit := hcode.symm.trans (hstopped fault h).1
        split at hexit
        · exact ⟨fault, ‹_›, rfl⟩
        · cases hexit
      · -- A tunnel that was opened ends the program with 0 or with a fault.
        have hexit := hcode.symm.trans (hopened h).1
        unfold resultUnless at hexit
        split at hexit <;> cases hexit
    · rintro ⟨fault, hrefusal, h⟩
      rw [(hstopped fault h).1, if_pos hrefusal]
  refine ⟨rfl, hopened, hrefused, fun hcode => ?_, hstopped⟩
  obtain ⟨fault, hrefusal, h⟩ := hrefused.1 hcode
  obtain ⟨-, houtput, hback | ⟨hunwritable, -⟩⟩ := hstopped fault h
  · exact ⟨houtput, hback⟩
  · -- A port that cannot be written is no refusal.
    rw [hunwritable] at hrefusal
    cases hrefusal

/-- A transport that cannot be given back in order. -/
def trialTransport : Transport Rehearsal :=
  { Transport.rehearsed with disconnect := throw (.outside .runtime "lost") }

/-- A tunnel whose address cannot be printed, and whose transport cannot be given back in order: the
fault of printing ends the program after the transport was told to disconnect, once, and nothing is
printed. -/
theorem open_closes_tunnel_trial :
    let s := Session.rehearsedSession
      { create := none, connect := none, openForward := none, disconnect := none,
        localPort := 4000 }
    let watch : Watch :=
      { installFault := none, printFault := some (.outside .runtime "closed"), waits := [] }
    let ended := Act.run (openConfig trialTransport.recorded .default watch s.tunnel.config false)
      { site := { machine := s.site.machine, peer := { calls := [], inner := s.site.peer } },
        output := [] }
    ended.1 = .error (.outside .runtime "closed") ∧
      ended.2.site.peer.sorts = [[.connect, .openForward, .disconnect]] ∧ ended.2.output = [] := by
  intro s watch ended
  have hquiet :
      ∀ site e, trialTransport.disconnect.fault? site = some e → e.isInterrupt = false := by
    rintro site e he
    obtain rfl := Option.some.inj he
    rfl
  have hvalid : Settings.default.validate = .ok () := by rfl
  let policy := TrustPolicy.ofSettings Settings.default none (some false)
  have hstart : (Session.start trialTransport.recorded).fault?
      (Session.fresh .default { Tunnel.Choices.none with policy := some policy }
        (some s.tunnel.config)
        { machine := s.site.machine, peer := { calls := [], inner := s.site.peer } }) = none := by
    decide +kernel
  obtain ⟨_, hstarted⟩ := Act.exists_of_fault?_eq_none hstart
  obtain ⟨hrun, hopened, -⟩ :=
    open_closes_tunnel .default watch s.tunnel.config false trialTransport
    s.site.machine s.site.peer [] rfl hquiet
  obtain ⟨hcode, -, hsorts, port, -, -, houtput⟩ := hopened (by rw [hvalid, hstarted]; rfl)
  change ended = _ at hrun
  rw [hrun]
  exact ⟨hcode, hsorts, houtput⟩

end Desk

end SecureForward
