import SecureForward.Proofs.Ssh.Lifecycle

/-!
# Forwards that are not opened

A forward opens a listener before anything can fail, then the listener is bound and announced. Both
is done `Quietly`: it opens and closes nothing. `started_startForward` says what is left of the
session however that ends: nothing is held, one listener was opened, and it was closed if the
operating system did not bind it. `openForward_fails` draws the conclusion for a forward that is not
opened: another one can be opened, but the listener may be lost.
-/

namespace SecureForward

open Act (run)

/-- The operations that open a forward. -/
def Operation.opensForward : Operation → Bool
  | .reuseAddress | .bind | .listen | .setAcceptTimeout | .readPort | .startThread => true
  | _ => false

/-- A port can be forwarded on the network: the session is up, the port that is taken can be
written, and no step fails. -/
structure Network.Forwards (network : Network) : Prop where
  /-- The session is up. -/
  up : network.isActive = true
  /-- The port that is taken can be written. -/
  port : Decimal.isWritable network.localPort = true
  /-- No step fails. -/
  steps : ∀ operation : Operation, operation.opensForward = true → network.fault? operation = none

/-- A call neither opens nor closes anything. -/
structure NetworkCall.IsQuiet (call : NetworkCall) : Prop where
  /-- It opens nothing. -/
  opened : call.opened? = none
  /-- It closes nothing. -/
  closed : call.closed? = none

/-- Quiet calls open nothing. -/
theorem openings_of_quiet {calls : List NetworkCall} (h : ∀ call ∈ calls, call.IsQuiet) :
    openings calls = [] :=
  List.filterMap_eq_nil_iff.2 fun call hcall => (h call hcall).opened

/-- Quiet calls close nothing. -/
theorem closings_of_quiet {calls : List NetworkCall} (h : ∀ call ∈ calls, call.IsQuiet) :
    closings calls = [] :=
  List.filterMap_eq_nil_iff.2 fun call hcall => (h call hcall).closed

namespace Ssh

variable {s : Ssh} {site after : Site Ssh} {request : ForwardRequest} {fault : Fault}

/-! ## Quiet work -/

/-- Since it was `s`, nothing was done over a session but quiet calls. -/
def Quietly (s : Ssh) (site : Site Ssh) : Prop :=
  ∃ added, site.peer = { s with calls := s.calls ++ added } ∧ ∀ call ∈ added, call.IsQuiet

/-- At first nothing was done. -/
theorem Quietly.refl (site : Site Ssh) : Quietly site.peer site :=
  ⟨[], by rw [List.append_nil], by simp⟩

/-- Asking the network quietly. -/
theorem keeps_ask_quietly {call : NetworkCall} (hcall : call.IsQuiet) (operation : Operation) :
    (ask call operation).Keeps (Quietly s) := by
  rintro site ⟨added, hpeer, hadded⟩
  refine ⟨added ++ [call], ?_, ?_⟩
  · rw [run_ask_snd, hpeer, List.append_assoc]
  · intro other hother
    rcases List.mem_append.1 hother with hother | hother
    · exact hadded other hother
    · obtain rfl := List.mem_singleton.1 hother
      exact hcall

/-- Reports leave the session alone. -/
theorem keeps_report_quietly (event : Event) : (report event).Keeps (Quietly s) := fun _ h => h

/-! ## Binding a listener -/

/-- The session once a listener was made. -/
def withListener (s : Ssh) : Ssh :=
  { s with
    calls := s.calls ++ [.makeListener, .opened ⟨.listener, s.opened⟩]
    opened := s.opened + 1 }

/-- Starting a forward makes a listener, binds it and announces it. -/
theorem run_startForward (request : ForwardRequest) (site : Site Ssh) :
    run (startForward request) site =
      run ((bindListener request).onFault (fun fault =>
          if fault.isSystem then close ⟨.listener, site.peer.opened⟩ else pure ()) >>=
        fun _ => announce request ⟨.listener, site.peer.opened⟩)
        { site with peer := site.peer.withListener } := by
  unfold startForward note withListener
  rw [Act.run_bind_of_ok (run_change _ _), Act.run_bind_of_ok (run_openResource _ _),
    List.append_assoc]
  rfl

/-- The fault with which a listener is not bound, if there is one. -/
def bindFault? (network : Network) : Option Fault :=
  (network.fault? .reuseAddress).or <| (network.fault? .bind).or <|
    (network.fault? .listen).or <| network.fault? .setAcceptTimeout

/-- A listener is not bound where one of the steps fails. -/
theorem fault?_bindListener (request : ForwardRequest) (site : Site Ssh) :
    (bindListener request).fault? site = bindFault? site.peer.network := by
  unfold bindListener
  simp only [fault?_ask_bind, fault?_ask]
  rfl

/-- Binding a listener is quiet. -/
theorem keeps_bindListener_quietly (request : ForwardRequest) :
    (bindListener request).Keeps (Quietly s) := by
  refine (keeps_ask_quietly ⟨rfl, rfl⟩ _).bind fun _ => ?_
  refine (keeps_ask_quietly ⟨rfl, rfl⟩ _).bind fun _ => ?_
  exact (keeps_ask_quietly ⟨rfl, rfl⟩ _).bind fun _ => keeps_ask_quietly ⟨rfl, rfl⟩ _

/-- Announcing a listener is quiet. -/
theorem keeps_announce_quietly (request : ForwardRequest) (listener : Resource) :
    (announce request listener).Keeps (Quietly s) := by
  refine (keeps_ask_quietly ⟨rfl, rfl⟩ _).bind fun _ => keeps_session.bind fun t => ?_
  refine .bind (.ofExcept _) fun ⟨_⟩ => (keeps_ask_quietly ⟨rfl, rfl⟩ _).bind fun _ => ?_
  exact .bind (.ofExcept _) fun ⟨_⟩ => (keeps_report_quietly _).bind fun _ => .pure _

/-- A forward was started on a session, whatever this ended with: one listener was opened, these
resources were closed, and nothing else changed. -/
def Started (s : Ssh) (closed : List Resource) (site : Site Ssh) : Prop :=
  ∃ added, site.peer = { s with opened := s.opened + 1, calls := s.calls ++ added } ∧
    openings added = [⟨.listener, s.opened⟩] ∧ closings added = closed

/-- What is done quietly over a new listener closes nothing. -/
theorem started_of_quietly (h : Quietly s.withListener site) : Started s [] site := by
  obtain ⟨added, hpeer, hadded⟩ := h
  refine ⟨[.makeListener, .opened ⟨.listener, s.opened⟩] ++ added, ?_, ?_, ?_⟩
  · rw [hpeer, ← List.append_assoc]
    rfl
  · rw [openings_append, openings_of_quiet hadded]
    rfl
  · rw [closings_append, closings_of_quiet hadded]
    rfl

/-- The new listener is closed, whether this fails or not. -/
theorem Started.close (h : Started s [] site) :
    Started s [⟨.listener, s.opened⟩] (run (close ⟨.listener, s.opened⟩) site).2 := by
  obtain ⟨added, hpeer, hopened, hclosed⟩ := h
  refine ⟨added ++ [.close ⟨.listener, s.opened⟩], ?_, ?_, ?_⟩
  · rw [Ssh.close, run_ask_snd, hpeer, List.append_assoc]
  · rw [openings_append, hopened]
    rfl
  · rw [closings_append, hclosed]
    rfl

/-- The resources that starting a forward on a session closes: the new listener, if the operating
system does not bind it. -/
def closedAtStart (s : Ssh) : List Resource :=
  if (bindFault? s.network).any (·.isSystem) then [⟨.listener, s.opened⟩] else []

/-- However starting a forward ends, one listener was opened, and it was closed if the operating
system did not bind it. -/
theorem started_startForward (request : ForwardRequest) (site : Site Ssh) :
    Started site.peer site.peer.closedAtStart (run (startForward request) site).2 := by
  have hquiet := keeps_bindListener_quietly request _
    (Quietly.refl { site with peer := site.peer.withListener })
  have hfault := fault?_bindListener request { site with peer := site.peer.withListener }
  rw [run_startForward]
  unfold closedAtStart
  cases hbind : bindFault? site.peer.network with
  | none =>
    -- From here on nothing closes the listener, whether it is announced or not.
    obtain ⟨_, hrun⟩ := Act.exists_of_fault?_eq_none (hfault.trans hbind)
    rw [Act.run_bind_of_ok (Act.run_onFault_of_ok hrun _)]
    exact started_of_quietly (keeps_announce_quietly request _ _ hquiet)
  | some e =>
    -- The listener is not announced; the clean-up looks at the class of the fault.
    have hrun := Act.run_of_fault?_eq_some (hfault.trans hbind)
    obtain ⟨_, hfailed⟩ := Act.run_onFault_of_error hrun fun fault =>
      if fault.isSystem then close ⟨.listener, site.peer.opened⟩ else pure ()
    rw [Act.run_bind_of_error hfailed, Option.any_some]
    cases e.isSystem with
    | false => exact started_of_quietly hquiet
    | true => exact (started_of_quietly hquiet).close

/-! ## Opening a forward -/

/-- A forward that is not opened was started, and what went wrong was told. -/
theorem run_startForward_of_openForward (hactive : site.peer.IsActive)
    (hforward : site.peer.forward = none)
    (h : run (openForward request) site = (.error fault, after)) :
    ∃ e, run (startForward request) site = (.error e, after) := by
  unfold openForward at h
  rw [Act.run_bind_of_ok (run_session _),
    if_neg (by simp [hactive.up, Option.isSome_iff_ne_none.1 hactive.held]),
    if_neg (by simp [hforward]), Act.run_bind_of_ok (Act.run_attempt _ _)] at h
  rcases hstart : run (startForward request) site with ⟨e | forward, site'⟩
  · rw [hstart] at h
    refine ⟨e, Prod.ext rfl ?_⟩
    dsimp only at h ⊢
    split at h
    · rcases Act.run_bind_eq_error_iff.1 h with hport | ⟨_, _, hport, hrefused⟩
      · rw [Act.run_ofExcept] at hport
        exact (Prod.mk.inj hport).2
      · rw [Act.run_ofExcept] at hport
        cases (Prod.mk.inj hport).2
        exact (Prod.mk.inj hrefused).2
    · exact (Prod.mk.inj h).2
  · rw [hstart] at h
    cases h

/-- A listener is announced with the port that was taken if no step fails. -/
theorem run_announce_of_forwards (h : site.peer.network.Forwards)
    (htarget : Decimal.isWritable request.targetPort = true) (listener : Resource) :
    ∃ forward after, run (announce request listener) site = (.ok forward, after) ∧
      forward.localPort = site.peer.network.localPort := by
  have hwritten : (Event.forwarding request.localHost site.peer.network.localPort request.targetHost
      request.targetPort).isWritable = true := by
    simp [Event.isWritable, Event.numbers, h.port, htarget]
  have hread : run (announce request listener) site = _ :=
    run_ask_bind_eq_ok_iff.2 ⟨h.steps .readPort rfl, run_writable_bind_eq_ok_iff.2
      ⟨h.port, run_ask_bind_eq_ok_iff.2 ⟨h.steps .startThread rfl, run_writable_bind_eq_ok_iff.2
        ⟨htarget, Act.run_bind_eq_ok_iff.2 ⟨(), _, run_report hwritten _, rfl⟩⟩⟩⟩⟩
  exact ⟨_, _, hread, rfl⟩

/-- Where no step fails, starting a forward takes a port. -/
theorem run_startForward_of_forwards (h : site.peer.network.Forwards)
    (htarget : Decimal.isWritable request.targetPort = true) :
    ∃ forward after, run (startForward request) site = (.ok forward, after) ∧
      forward.localPort = site.peer.network.localPort := by
  have hbind : bindFault? site.peer.network = none := by
    unfold bindFault?
    rw [h.steps .reuseAddress rfl, h.steps .bind rfl, h.steps .listen rfl,
      h.steps .setAcceptTimeout rfl]
    rfl
  obtain ⟨_, hrun⟩ := Act.exists_of_fault?_eq_none ((fault?_bindListener request
    { site with peer := site.peer.withListener }).trans hbind)
  obtain ⟨added, hpeer, -⟩ := keeps_bindListener_quietly request _
    (Quietly.refl { site with peer := site.peer.withListener })
  have hnetwork :
      (run (bindListener request) { site with peer := site.peer.withListener }).2.peer.network =
      site.peer.network := by
    rw [hpeer]
    rfl
  rw [run_startForward, Act.run_bind_of_ok (Act.run_onFault_of_ok hrun _), ← hnetwork]
  exact run_announce_of_forwards (by rw [hnetwork]; exact h) htarget _

/-- Where a port can be forwarded and none is yet, it is forwarded. -/
theorem run_openForward_of_forwards (hheld : site.peer.transport.isSome = true)
    (hforward : site.peer.forward = none) (h : site.peer.network.Forwards)
    (htarget : Decimal.isWritable request.targetPort = true) :
    (run (openForward request) site).1 = .ok site.peer.network.localPort := by
  obtain ⟨forward, after, hstart, hport⟩ := run_startForward_of_forwards h htarget
  unfold openForward
  rw [Act.run_bind_of_ok (run_session _),
    if_neg (by simp [h.up, Option.isSome_iff_ne_none.1 hheld]),
    if_neg (by simp [hforward]), Act.run_bind_of_ok (Act.run_attempt _ _), hstart, ← hport]
  rfl

/-- A port can be forwarded over a session: this is done on every network on which nothing fails,
for every target whose port can be written. -/
def CanForward (site : Site Ssh) : Prop :=
  ∀ network : Network, network.Forwards → ∀ request : ForwardRequest,
    Decimal.isWritable request.targetPort = true →
    (run (openForward request) (site.facing network)).1 = .ok network.localPort

/-- Over a protocol session without a forward a port can be forwarded. -/
theorem canForward_of_none (hheld : site.peer.transport.isSome = true)
    (hforward : site.peer.forward = none) : CanForward site :=
  fun network hnetwork request htarget =>
    @run_openForward_of_forwards (site.facing network) request hheld hforward hnetwork htarget

/-- A forward that is not opened over an active session leaves the session without one, so that the
next one can be opened. The listener that it made is closed if the operating system did not bind it,
and is not closed if anything else went wrong. -/
theorem openForward_fails (hactive : site.peer.IsActive) (hforward : site.peer.forward = none)
    (h : run (openForward request) site = (.error fault, after)) :
    after.peer.forward = none ∧ CanForward after ∧
      ∃ added, after.peer.calls = site.peer.calls ++ added ∧
        openings added = [⟨.listener, site.peer.opened⟩] ∧
        closings added =
          if (bindFault? site.peer.network).any (·.isSystem) then [⟨.listener, site.peer.opened⟩]
          else [] := by
  obtain ⟨e, hstart⟩ := run_startForward_of_openForward hactive hforward h
  obtain ⟨added, hpeer, hopened, hclosed⟩ := started_startForward request site
  rw [hstart] at hpeer
  have hnone : after.peer.forward = none := (congrArg Ssh.forward hpeer).trans hforward
  have hheld : after.peer.transport.isSome = true := by
    rw [hpeer]
    exact hactive.held
  exact ⟨hnone, canForward_of_none hheld hnone, added, congrArg Ssh.calls hpeer, hopened, hclosed⟩

/-- Forwards a local port to a database. -/
def trialRequest : ForwardRequest :=
  { localHost := "localhost", localPort := 0, targetHost := "db", targetPort := 5432 }

/-- A network on which one operation fails. -/
def refusingNetwork (operation : Operation) (fault : Fault) : Network :=
  { trialNetwork with fault? := fun asked => if asked = operation then some fault else none }

/-- A session on such a network. -/
def connectedSite (network : Network) : Site Ssh :=
  (run (connect trialLogin .disabled 3.0)
    { machine := Session.trialMachine, peer := idle network }).2

/-- A port that cannot be bound costs nothing: the listener is closed, and the next one is bound. -/
theorem openForward_fails_trial :
    let site := connectedSite (refusingNetwork .bind (.outside .system "Address already in use"))
    let ended := run (openForward trialRequest) site
    site.peer.IsActive ∧ site.peer.forward = none ∧
      ended.1 = .error (.refusalBy (.bindFailed "localhost" 0)
        (.outside .system "Address already in use")) ∧
      ended.2.peer.forward = none ∧
      (run (openForward trialRequest) (ended.2.facing trialNetwork)).1 = .ok 4000 ∧
      ∃ added, ended.2.peer.calls = site.peer.calls ++ added ∧
        openings added = [⟨.listener, 2⟩] ∧ closings added = [⟨.listener, 2⟩] := by
  intro site ended
  have hactive : site.peer.IsActive := ⟨by decide +kernel, rfl⟩
  have hforward : site.peer.forward = none := by decide +kernel
  have hended : ended.1 = .error (.refusalBy (.bindFailed "localhost" 0)
      (.outside .system "Address already in use")) := by rfl
  obtain ⟨hnone, hnext, hcalls⟩ := openForward_fails hactive hforward (Prod.ext hended rfl)
  have hforwards : trialNetwork.Forwards := by
    refine ⟨rfl, by decide, fun operation hoperation => ?_⟩
    cases operation <;> first | rfl | cases hoperation
  exact ⟨hactive, hforward, hended, hnone, hnext trialNetwork hforwards trialRequest (by decide),
    hcalls⟩

/-- A port that was bound and cannot be asked for costs a listener: it is closed neither then nor
when the session is given back. -/
theorem unread_port_leaves_listener :
    let site := connectedSite (refusingNetwork .readPort (.outside .system "Bad file descriptor"))
    let ended := run (openForward trialRequest) site
    let left := (run disconnect ended.2).2
    ended.1 = .error (.refusalBy (.bindFailed "localhost" 0)
        (.outside .system "Bad file descriptor")) ∧
      ⟨.listener, 2⟩ ∈ openings ended.2.peer.calls ∧ ⟨.listener, 2⟩ ∉ closings ended.2.peer.calls ∧
      left.peer.Vacant ∧ ⟨.listener, 2⟩ ∉ closings left.peer.calls := by
  refine ⟨by rfl, by decide +kernel, by decide +kernel, ⟨by decide +kernel, by decide +kernel,
    by decide +kernel⟩, by decide +kernel⟩

end Ssh

end SecureForward
