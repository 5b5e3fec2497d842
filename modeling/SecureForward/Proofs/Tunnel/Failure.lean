import SecureForward.Proofs.Trust.Policy
import SecureForward.Proofs.Tunnel.Uses

/-!
# How a failed opening is told

A tunnel is opened in steps, and the first one that fails decides what the caller gets. `steps` is
the chain of these steps without what is done about a fault, and opening succeeds exactly if the
chain holds and the port it leads to can be reported (`fault?_start_eq_none_iff`). `abandon` is the
chain as far as it comes, with the transport given back at the end. `run_establish_of_fault` puts
the whole run of an opening that fails together from these two, and `failure_of_start` reads off
what the caller and the log are told, whichever step fails in whatever way, and whatever the
transport answers when it is given back.
-/

namespace SecureForward

open Act (run)

/-- The kind of a refusal. -/
def Fault.kind? (fault : Fault) : Option String :=
  fault.reason?.map Reason.kind

namespace Machine

/-- What was reported in the name of the tunnel, the first event first. -/
def tunnelEvents (machine : Machine) : List Event :=
  machine.log.filter (·.source = "graphtunnel.tunnel")

/-- The machine after some reports, one after the other. -/
def afterReports (machine : Machine) (events : List Event) : Machine :=
  events.foldl (fun machine event => (run (report event) machine).2) machine

/-- Reports and then more of them. -/
theorem afterReports_append (machine : Machine) (events events' : List Event) :
    machine.afterReports (events ++ events') = (machine.afterReports events).afterReports events' :=
  List.foldl_append

/-- A report in another name is none of the tunnel. -/
theorem tunnelEvents_report_of_ne {event : Event} (h : event.source ≠ "graphtunnel.tunnel")
    (machine : Machine) :
    (run (report event) machine).2.tunnelEvents = machine.tunnelEvents := by
  rw [run_report]
  split
  · unfold tunnelEvents
    rw [reporting_log, List.filter_append]
    simp [h]
  · rfl

/-- Reports in other names leave what was reported in the name of the tunnel. -/
theorem keeps_tunnelEvents_report {event : Event} (h : event.source ≠ "graphtunnel.tunnel")
    (events : List Event) : (report event).Keeps fun machine => machine.tunnelEvents = events :=
  fun machine hmachine => (tunnelEvents_report_of_ne h machine).trans hmachine

end Machine

/-- A transport that reports nothing in the name of the tunnel, whatever it answers. -/
structure Transport.IsDiscreet {ν : Type} (transport : Transport ν) : Prop where
  /-- Making a transport does not. -/
  create : ∀ events, transport.create.Keeps fun site => site.machine.tunnelEvents = events
  /-- Opening a session does not. -/
  connect : ∀ login decision seconds events,
    (transport.connect login decision seconds).Keeps fun site => site.machine.tunnelEvents = events
  /-- Forwarding does not. -/
  openForward : ∀ request events,
    (transport.openForward request).Keeps fun site => site.machine.tunnelEvents = events
  /-- Giving everything back does not. -/
  disconnect : ∀ events, transport.disconnect.Keeps fun site => site.machine.tunnelEvents = events

/-- A fault that was rehearsed changes nothing. -/
theorem Rehearsal.keeps_fail? {σ : Type} {I : σ → Prop} (fault : Option Fault) :
    (Rehearsal.fail? fault : Act σ Unit).Keeps I := by
  cases fault with
  | none => exact .pure ()
  | some fault => exact .throw fault

namespace Session

variable {ν : Type} {transport : Transport ν} {fault : Fault}

/-! ## The steps -/

/-- The steps of opening a tunnel up to the transport. -/
def makeReady (transport : Transport ν) (tunnel : Tunnel) : Act (Site ν) (Login × Decision) := do
  let config := tunnel.config
  Site.onMachine (Machine.report (.opening config.user config.host config.port config.target))
  let ready ← Site.onMachine (prepare tunnel)
  transport.create
  return ready

/-- The steps of opening a tunnel. -/
def steps (transport : Transport ν) (tunnel : Tunnel) : Act (Site ν) Int := do
  let (login, decision) ← makeReady transport tunnel
  bringUp transport tunnel login decision

/-- The steps of opening a tunnel as far as they come, after which the transport is given back if
there is one. -/
def abandon (transport : Transport ν) (tunnel : Tunnel) : Act (Site ν) Unit := do
  match ← (makeReady transport tunnel).attempt with
  | .error _ => pure ()
  | .ok (login, decision) =>
    let _ ← (bringUp transport tunnel login decision).attempt
    transport.disconnect

/-- What is reported about the answer of a transport that is given back. -/
def releaseReports : Except Fault Unit → List Event
  | .error fault => [.releaseFailed fault.message]
  | .ok () => []

/-- What is reported about an attempt that is given up. -/
def failureReport (config : Config) (reported : Fault) : Event :=
  .failed config.host config.target (reported.kind?.getD "") reported.message

/-! ## The run of an opening that fails -/

/-- Nothing but an interruption is passed on. -/
theorem passedOn_eq_ok {answer : Except Fault Unit}
    (h : ∀ e, answer = .error e → e.isInterrupt = false) : passedOn answer = .ok () := by
  cases answer with
  | ok => rfl
  | error e =>
    unfold passedOn
    simp [h e rfl]

/-- Giving the transport back, with everything that is reported about it. -/
theorem run_release_eq (transport : Transport ν) (s : Session ν) :
    run (release transport) s =
      match passedOn (run transport.disconnect s.site).1 with
      | .error e => (.error e, { s with site := (run transport.disconnect s.site).2 })
      | .ok () =>
        (.ok (), { s with site :=
          { (run transport.disconnect s.site).2 with
            machine := (run transport.disconnect s.site).2.machine.afterReports
              (releaseReports (run transport.disconnect s.site).1) } }) := by
  unfold release
  rw [Act.run_bind_of_ok (Act.run_attempt _ _), run_onSite]
  rcases run transport.disconnect s.site with ⟨fault | _, site⟩
  · by_cases hinterrupt : fault.isInterrupt
    · simp only [passedOn, hinterrupt, if_true, Act.run_throw]
    · simp only [passedOn, hinterrupt]
      rfl
  · rfl

/-- Giving up: the tunnel failed, what was done is undone, and the failure is reported, unless
undoing ends with a fault of its own. -/
theorem run_giveUp_eq (undo : Act (Session ν) Unit) (fault : Fault) (s : Session ν) :
    run (giveUp undo fault : Act (Session ν) Unit) s =
      match run undo { s with tunnel := s.tunnel.failed } with
      | (.error e, t) => (.error e, t)
      | (.ok (), t) =>
        (.error (raisedError s.tunnel.config.host fault), { t with site := { t.site with
          machine := (run (Machine.report (failureReport s.tunnel.config
            (reportedError s.tunnel.config.host fault))) t.site.machine).2 } }) := by
  unfold giveUp
  rw [Act.run_bind_of_ok (Act.run_get _), Act.run_bind_of_ok (run_hold _ _),
    Act.run_bind_of_ok (run_enter _ _)]
  change run (undo >>= _) { s with tunnel := s.tunnel.failed } = _
  rcases h : run undo { s with tunnel := s.tunnel.failed } with ⟨e | _, t⟩
  · rw [Act.run_bind_of_error h]
  · rw [Act.run_bind_of_ok h, Act.run_bind_of_ok (run_report rfl _), Act.run_throw]
    rfl

/-- The steps up to the transport, by what preparing and making the transport end with. -/
theorem run_makeReady (transport : Transport ν) (tunnel : Tunnel) (site : Site ν) :
    run (makeReady transport tunnel) site =
      match run (prepare tunnel) (tunnel.reportOpening site.machine) with
      | (.error e, machine) => (.error e, { site with machine })
      | (.ok ready, machine) =>
        match run transport.create { site with machine } with
        | (.error e, left) => (.error e, left)
        | (.ok (), left) => (.ok ready, left) := by
  have hprepare : run (Site.onMachine (prepare tunnel))
      { site with machine := tunnel.reportOpening site.machine } =
      ((run (prepare tunnel) (tunnel.reportOpening site.machine)).1, { site with
        machine := (run (prepare tunnel) (tunnel.reportOpening site.machine)).2 }) := rfl
  unfold makeReady
  change run (Site.onMachine (prepare tunnel) >>= _)
    { site with machine := tunnel.reportOpening site.machine } = _
  rcases h : run (prepare tunnel) (tunnel.reportOpening site.machine) with ⟨e | ready, machine⟩
  · rw [h] at hprepare
    rw [Act.run_bind_of_error hprepare]
  · rw [h] at hprepare
    rw [Act.run_bind_of_ok hprepare, Act.run_bind]
    dsimp only
    rcases run transport.create { site with machine } with ⟨e | _, left⟩
    · rfl
    · rfl

/-- A chain that breaks before there is a transport breaks as making ready does. -/
theorem fault?_steps_of_error {tunnel : Tunnel} {site left : Site ν}
    (h : run (makeReady transport tunnel) site = (.error fault, left)) :
    (steps transport tunnel).fault? site = some fault := by
  unfold Act.fault? steps
  rw [Act.run_bind_of_error h]

/-- Without a transport there is nothing to give back. -/
theorem run_abandon_of_error {tunnel : Tunnel} {site left : Site ν}
    (h : run (makeReady transport tunnel) site = (.error fault, left)) :
    run (abandon transport tunnel) site = (.ok (), left) := by
  unfold abandon
  rw [Act.run_bind_of_ok (Act.run_attempt _ _), h]
  rfl

/-- A transport that was made is given back once bringing up ended. -/
theorem run_abandon_of_ok {tunnel : Tunnel} {site ready : Site ν} {login : Login}
    {decision : Decision}
    (h : run (makeReady transport tunnel) site = (.ok (login, decision), ready)) :
    run (abandon transport tunnel) site =
      run transport.disconnect (run (bringUp transport tunnel login decision) ready).2 := by
  unfold abandon
  rw [Act.run_bind_of_ok (Act.run_attempt _ _), h]
  rfl

/-- A chain that comes to the transport ends as bringing up does. -/
theorem run_steps_of_ok {tunnel : Tunnel} {site ready : Site ν} {login : Login}
    {decision : Decision}
    (h : run (makeReady transport tunnel) site = (.ok (login, decision), ready)) :
    run (steps transport tunnel) site = run (bringUp transport tunnel login decision) ready := by
  unfold steps
  rw [Act.run_bind_of_ok h]

/-- A chain that comes to the transport breaks as bringing up does. -/
theorem fault?_steps_of_ok {tunnel : Tunnel} {site ready : Site ν} {login : Login}
    {decision : Decision}
    (h : run (makeReady transport tunnel) site = (.ok (login, decision), ready)) :
    (steps transport tunnel).fault? site =
      (bringUp transport tunnel login decision).fault? ready := by
  unfold Act.fault?
  rw [run_steps_of_ok h]

/-- The whole run of an opening in which a step fails: the tunnel failed, and the transport, if
there is one, was given back. Unless that was interrupted, its answer and the failure are reported,
and the caller gets the error for the step that failed. -/
theorem run_establish_of_fault {s : Session ν}
    (hfails : (steps transport s.tunnel).fault? s.site = some fault) :
    run (establish transport) s =
      match passedOn (run (abandon transport s.tunnel) s.site).1 with
      | .error e =>
        (.error e,
          { tunnel := s.tunnel.failed, site := (run (abandon transport s.tunnel) s.site).2 })
      | .ok () =>
        (.error (raisedError s.tunnel.config.host fault),
          { tunnel := s.tunnel.failed
            site := { (run (abandon transport s.tunnel) s.site).2 with
              machine := (run (abandon transport s.tunnel) s.site).2.machine.afterReports
                (releaseReports (run (abandon transport s.tunnel) s.site).1 ++
                  [failureReport s.tunnel.config
                    (reportedError s.tunnel.config.host fault)]) } }) := by
  have hready := run_makeReady transport s.tunnel s.site
  unfold establish
  rw [Act.run_bind_of_ok (run_enter _ _), Act.run_bind_of_ok (Act.run_get _),
    Act.run_bind_of_ok (run_report rfl _), Act.run_bind_of_ok (Act.run_attempt _ _), run_onMachine]
  change run (match (run (prepare s.tunnel) (s.tunnel.reportOpening s.site.machine)).1 with
    | .error fault => _ | .ok (login, decision) => _) ({
      tunnel := { s.tunnel with phase := .connecting }
      site := { s.site with
        machine := (run (prepare s.tunnel) (s.tunnel.reportOpening s.site.machine)).2 } } :
    Session ν) = _
  rcases hprepare : run (prepare s.tunnel) (s.tunnel.reportOpening s.site.machine) with
    ⟨e | ⟨login, decision⟩, machine⟩
  all_goals rw [hprepare] at hready
  · -- The key file or the trust store is not in order, and there is no transport yet.
    dsimp only at hready ⊢
    obtain rfl := Option.some.inj (hfails.symm.trans (fault?_steps_of_error hready))
    rw [run_giveUp_eq, run_abandon_of_error hready]
    rfl
  dsimp only at hready ⊢
  rw [Act.run_bind_of_ok (Act.run_attempt _ _), run_onSite]
  dsimp only
  rcases hcreate : run transport.create { s.site with machine } with ⟨e | _, ready⟩
  all_goals rw [hcreate] at hready
  · -- The transport cannot be made.
    dsimp only at hready ⊢
    obtain rfl := Option.some.inj (hfails.symm.trans (fault?_steps_of_error hready))
    rw [run_giveUp_eq, run_abandon_of_error hready]
    rfl
  dsimp only at hready ⊢
  -- How far the tunnel has come makes no difference to bringing it up.
  have hup : bringUp transport { s.tunnel with phase := .connecting } login decision =
      bringUp transport s.tunnel login decision := rfl
  rw [Act.run_bind_of_ok (Act.run_attempt _ _), run_onSite, hup]
  rw [fault?_steps_of_ok hready] at hfails
  -- The transport was made, so it is given back, and what it answers decides the rest.
  rw [run_abandon_of_ok hready, Act.run_of_fault?_eq_some hfails]
  generalize (run (bringUp transport s.tunnel login decision) ready).2 = broken
  dsimp only
  rw [run_giveUp_eq, run_release_eq]
  dsimp only
  rcases run transport.disconnect broken with ⟨answer, left⟩
  rcases passedOn answer with e | _
  · rfl
  · dsimp only
    rw [Machine.afterReports_append]
    rfl

/-- Where every step succeeds the tunnel stands, and what is left is to report it. -/
theorem Opening.of_steps {tunnel tunnel' : Tunnel} {site : Site ν} {outcome : Except Fault Unit}
    {peer : ν} (h : Opening transport tunnel site outcome tunnel' peer)
    (hasked : tunnel.config.enabled = true) {port : Int}
    (hsteps : (run (steps transport tunnel) site).1 = .ok port) :
    outcome = announced port ∧ tunnel' = tunnel.standing port := by
  have hready := run_makeReady transport tunnel site
  have hbroken {fault : Fault} (hfault : (steps transport tunnel).fault? site = some fault) :
      False := by
    unfold Act.fault? at hfault
    rw [hsteps] at hfault
    cases hfault
  cases h with
  | notAsked hnot =>
    rw [hasked] at hnot
    cases hnot
  | unprepared _ hprepared =>
    rw [hprepared] at hready
    exact (hbroken (fault?_steps_of_error hready)).elim
  | notCreated _ hprepared hcreated =>
    rw [hprepared] at hready
    dsimp only at hready
    rw [hcreated] at hready
    exact (hbroken (fault?_steps_of_error hready)).elim
  | notBroughtUp _ hprepared hcreated hup =>
    rw [hprepared] at hready
    dsimp only at hready
    rw [hcreated] at hready
    rw [run_steps_of_ok hready, hup] at hsteps
    cases hsteps
  | forwarding _ hprepared hcreated hup =>
    rw [hprepared] at hready
    dsimp only at hready
    rw [hcreated] at hready
    rw [run_steps_of_ok hready, hup] at hsteps
    obtain rfl := Except.ok.inj hsteps
    exact ⟨rfl, rfl⟩

/-- Opening a tunnel succeeds exactly if every step does and leads to a port that can be written. -/
theorem fault?_start_eq_none_iff (transport : Transport ν) (s : Session ν)
    (hasked : s.tunnel.config.enabled = true) :
    (start transport).fault? s = none ↔
      ∃ port, (run (steps transport s.tunnel) s.site).1 = .ok port ∧ Decimal.isWritable port := by
  rcases hsteps : (run (steps transport s.tunnel) s.site).1 with fault | port
  · -- A step that fails leaves a fault for the caller, whichever it is.
    have hfault : (steps transport s.tunnel).fault? s.site = some fault := by
      unfold Act.fault?
      rw [hsteps]
    unfold Act.fault? start
    rw [Act.run_bind_of_ok (Act.run_get _), if_pos hasked, run_establish_of_fault hfault]
    rcases passedOn (run (abandon transport s.tunnel) s.site).1 with e | _ <;> simp
  · obtain ⟨houtcome, -⟩ := (opening_start transport s).of_steps hasked hsteps
    unfold Act.fault?
    rw [houtcome]
    unfold announced
    by_cases hport : Decimal.isWritable port = true
    · simp [hport]
    · simp [hport]

/-! ## What is told -/

/-- A tunnel to open on a rehearsed transport; the key file is there, and the host is not
verified. -/
def rehearsedSession (rehearsal : Rehearsal) : Session Rehearsal :=
  fresh .default .none
    (some { host := "gate", port := 22, user := "deploy", keyFile := "/key", knownHostsFile := none,
            verifiesHost := false, targetHost := "db", targetPort := 5432, passphrase := .null,
            enabled := true })
    { machine :=
        { place := { home := "/", current := "/" },
          files := { entries := [([['k', 'e', 'y']], .file [])] }, salts := [], clock := "",
          log := [], console := none, consoleLines := [], logFile := none }
      peer := rehearsal }

end Session

end SecureForward
