import SecureForward.Proofs.Machine
import SecureForward.Ssh.Session

/-!
# The account of the network

What a task may put on the account of the network. `Account P s` holds of a site if, since the
session was `s`, the network is still the same one and every call that was added has the property
`P`.

Of all that a session does, only `establish` lets the user prove who he is. Every other task is made
of silent steps, and a property that those keep is a `Frame`: the task keeps it, whatever it ends
with. That only silent calls are put on the account is such a property (`frame_account`).
-/

namespace SecureForward

/-- The call does not prove who the user is. -/
def NetworkCall.IsSilent : NetworkCall → Prop
  | .authenticate _ => False
  | _ => True

open Act (run)

namespace Ssh

/-- Since the session was `s`, the network stayed and only calls with a property were made. -/
structure Account (P : NetworkCall → Prop) (s : Ssh) (site : Site Ssh) : Prop where
  /-- The network is the same. -/
  network_eq : site.peer.network = s.network
  /-- The account was only added to. -/
  calls_eq : ∃ added, site.peer.calls = s.calls ++ added ∧ ∀ call ∈ added, P call

variable {P : NetworkCall → Prop} {s : Ssh} {I : Site Ssh → Prop} {α : Type}

/-- At first nothing was added. -/
theorem Account.refl (P : NetworkCall → Prop) (site : Site Ssh) : Account P site.peer site where
  network_eq := rfl
  calls_eq := ⟨[], by simp, by simp⟩

/-! ## Single steps -/

/-- Gives the session. -/
theorem run_session (site : Site Ssh) : run session site = (.ok site.peer, site) := rfl

/-- Changes the session and nothing else. -/
theorem run_change (f : Ssh → Ssh) (site : Site Ssh) :
    run (change f) site = (.ok (), { site with peer := f site.peer }) := rfl

/-- A report changes the machine and nothing else. -/
theorem run_report {event : Event} (h : event.isWritable = true) (site : Site Ssh) :
    run (report event) site =
      (.ok (), { site with machine := Machine.reporting event site.machine }) := by
  change run (Site.onMachine (Machine.report event)) site = _
  unfold Site.onMachine
  rw [Act.run_within, Machine.run_report_of_writable h]
  rfl

/-- What the network answers changes nothing, and is a success where it is no fault. -/
theorem run_meet_eq_ok_iff {operation : Operation} {site site' : Site Ssh} :
    run (meet operation) site = (.ok (), site') ↔
      site.peer.network.fault? operation = none ∧ site' = site := by
  change run (fail? (site.peer.network.fault? operation)) site = _ ↔ _
  cases site.peer.network.fault? operation with
  | none =>
    constructor
    · intro h
      exact ⟨rfl, (Prod.mk.inj h).2.symm⟩
    · rintro ⟨-, rfl⟩
      rfl
  | some fault =>
    constructor
    · intro h
      cases h
    · rintro ⟨h, -⟩
      cases h

/-- Asking the network puts the call on the account, whatever is answered. -/
theorem run_ask_snd (call : NetworkCall) (operation : Operation) (site : Site Ssh) :
    (run (ask call operation) site).2 =
      { site with peer := { site.peer with calls := site.peer.calls ++ [call] } } := by
  change (run (fail? (site.peer.network.fault? operation)) _).2 = _
  cases site.peer.network.fault? operation <;> rfl

/-- Asking the network succeeds as the operation does. -/
theorem run_ask_eq_ok_iff {call : NetworkCall} {operation : Operation} {site site' : Site Ssh} :
    run (ask call operation) site = (.ok (), site') ↔
      site.peer.network.fault? operation = none ∧
        site' = { site with peer := { site.peer with calls := site.peer.calls ++ [call] } } := by
  unfold ask note
  rw [Act.run_bind_of_ok (run_change _ _), run_meet_eq_ok_iff]

/-- What comes after a number was found writable succeeds if the number is. -/
theorem run_writable_bind_eq_ok_iff {n : Int} {next : PLift (Decimal.isWritable n = true) → Task α}
    {site after : Site Ssh} {a : α} :
    run (Act.ofExcept (writable n) >>= next) site = (.ok a, after) ↔
      ∃ h, run (next ⟨h⟩) site = (.ok a, after) := by
  unfold writable
  constructor
  · by_cases h : Decimal.isWritable n = true
    · rw [dif_pos h]
      exact fun hrun => ⟨h, hrun⟩
    · rw [dif_neg h]
      intro hrun
      cases hrun
  · rintro ⟨h, hrun⟩
    rw [dif_pos h]
    exact hrun

/-- An operation fails as the network says. -/
theorem fault?_meet (operation : Operation) (site : Site Ssh) :
    (meet operation).fault? site = site.peer.network.fault? operation := by
  change (fail? (site.peer.network.fault? operation)).fault? site = _
  cases site.peer.network.fault? operation <;> rfl

/-- Asking the network fails as the operation does. -/
theorem fault?_ask (call : NetworkCall) (operation : Operation) (site : Site Ssh) :
    (ask call operation).fault? site = site.peer.network.fault? operation := by
  unfold ask note
  rw [Act.fault?_bind_of_ok (run_change _ _), fault?_meet]

/-- A run that goes on after an operation fails as the operation does, or as the rest. -/
theorem fault?_ask_bind {call : NetworkCall} {operation : Operation} {next : Unit → Task α}
    {site : Site Ssh} :
    (ask call operation >>= next).fault? site =
      (site.peer.network.fault? operation).or ((next ()).fault?
        { site with peer := { site.peer with calls := site.peer.calls ++ [call] } }) := by
  rw [← fault?_ask call operation site]
  refine Act.fault?_bind fun _ after h => ?_
  obtain ⟨-, rfl⟩ := run_ask_eq_ok_iff.1 h
  rfl

/-- Looking at the session changes nothing. -/
theorem keeps_session : session.Keeps I := fun _ h => h

/-- A fault that is met, or none, changes nothing. -/
theorem keeps_fail? (fault : Option Fault) : (fail? fault).Keeps I := by
  cases fault with
  | none => exact .pure ()
  | some fault => exact .throw fault

/-- What the network answers changes nothing. -/
theorem keeps_meet (operation : Operation) : (meet operation).Keeps I :=
  keeps_session.bind fun _ => keeps_fail? _

/-- What is done with the session as it is keeps what it keeps on that session. -/
theorem keeps_of_session {next : Ssh → Task α}
    (h : ∀ site, I site → I (run (next site.peer) site).2) :
    (session >>= next).Keeps I := by
  intro site hsite
  rw [Act.run_bind_of_ok (run_session site)]
  exact h site hsite

/-- Tolerating a fault adds a report at most. -/
theorem keeps_tolerate {handled : Fault → Bool} {event : String → Event} {task : Task Unit}
    (hreport : ∀ text, (report (event text)).Keeps I) (htask : task.Keeps I) :
    (tolerate handled event task).Keeps I := by
  refine htask.attempt.bind fun outcome => ?_
  cases outcome with
  | ok => exact .pure ()
  | error fault => exact .ite (hreport _) (.throw fault)

/-! ## Stopping the forward -/

/-- Gives up what a forward holds: the listener, the connections and the thread. -/
def giveUp (forward : Forward) : Task Unit := do
  closeListener forward
  dropConnections (forward.connections.map (·.1))
  joinThread forward
  report (.forwardStopped forward.localPort)

/-- A forward that there is is marked as stopped, and then what it holds is given up. -/
theorem run_stopForward_eq {forward : Forward} {site : Site Ssh}
    (hforward : site.peer.forward = some forward) :
    run stopForward site = run (giveUp forward)
      { site with
        peer := { site.peer with forward := some { forward with isRunning := false } } } := by
  unfold stopForward
  rw [Act.run_bind_of_ok (run_session site), hforward]
  dsimp only
  unfold changeForward
  rw [Act.run_bind_of_ok (run_change _ _), hforward]
  rfl

/-- Without a forward nothing is stopped. -/
theorem run_stopForward_of_none {site : Site Ssh} (hforward : site.peer.forward = none) :
    run stopForward site = (.ok (), site) := by
  unfold stopForward
  rw [Act.run_bind_of_ok (run_session site), hforward]
  rfl

/-- A property that the steps keep which stop a forward: none of them lets it run again. -/
structure Stopping (I : Site Ssh → Prop) : Prop where
  /-- A change of the forward that does not let it run keeps it. -/
  change : ∀ f : Forward → Forward,
    (∀ forward, (f forward).isRunning = true → forward.isRunning = true) →
    (changeForward f).Keeps I
  /-- A call that closes something keeps it. -/
  close : ∀ resource, (note (.close resource)).Keeps I
  /-- Waiting for a thread keeps it. -/
  join : ∀ name seconds, (note (.joinThread name seconds)).Keeps I
  /-- A report of the transport keeps it. -/
  report : ∀ event : Event, event.source = "graphtunnel.transport" → (report event).Keeps I

namespace Stopping

/-- Tolerating a fault adds a report of the transport at most. -/
theorem tolerate (h : Stopping I) {handled : Fault → Bool} {event : String → Event}
    {task : Task Unit}
    (hevent : ∀ text, (event text).source = "graphtunnel.transport") (htask : task.Keeps I) :
    (tolerate handled event task).Keeps I :=
  keeps_tolerate (fun text => h.report _ (hevent text)) htask

/-- Giving up what a forward holds is made of such steps. -/
theorem giveUp (h : Stopping I) (forward : Forward) : (giveUp forward).Keeps I := by
  have hclose (resource : Resource) (fault : Option Fault) : (closeEnd resource fault).Keeps I :=
    (h.close resource).bind fun _ => keeps_fail? fault
  have hdrop (names : List String) : (dropConnections names).Keeps I := by
    induction names with
    | nil => exact .pure ()
    | cons name names ih =>
      refine .bind (keeps_session.bind fun t => ?_) fun _ => ih
      cases t.forward.bind (·.connections.lookup name) with
      | none => exact .pure ()
      | some connection =>
        refine .bind (h.change _ fun _ => id) fun _ => ?_
        exact (h.tolerate (fun _ => rfl) (hclose _ _)).bind fun _ =>
          h.tolerate (fun _ => rfl) (hclose _ _)
  refine .bind ?_ fun _ => (hdrop _).bind fun _ => .bind ?_ fun _ => h.report _ rfl
  · unfold closeListener
    cases forward.listener with
    | none => exact .pure ()
    | some listener =>
      refine .bind (h.tolerate (fun _ => rfl) ?_) fun _ => h.change _ fun _ => id
      exact (h.close _).bind fun _ => keeps_meet _
  · unfold joinThread
    cases forward.thread with
    | none => exact .pure ()
    | some name => exact .bind (h.join _ _) fun _ => h.change _ fun _ => id

/-- Stopping the forward is made of such steps. -/
theorem stopForward (h : Stopping I) : stopForward.Keeps I := by
  refine keeps_session.bind fun t => ?_
  cases t.forward with
  | none => exact .pure ()
  | some forward => exact .bind (h.change _ fun _ hnot => by cases hnot) fun _ => h.giveUp forward

end Stopping

/-! ## What silent steps keep -/

/-- A property that every step keeps which leaves the network as it is, proves nothing about the
user and reports in the name of the transport, whatever becomes of the session. -/
structure Frame (I : Site Ssh → Prop) : Prop where
  /-- A change of what the session holds keeps it. -/
  change : ∀ f : Ssh → Ssh, (∀ t, (f t).network = t.network) → (∀ t, (f t).calls = t.calls) →
    (change f).Keeps I
  /-- A silent call keeps it. -/
  note : ∀ call : NetworkCall, call.IsSilent → (note call).Keeps I
  /-- A report of the transport keeps it. -/
  report : ∀ event : Event, event.source = "graphtunnel.transport" → (report event).Keeps I

/-- Silent steps put silent calls on the account only. -/
theorem frame_account : Frame (Account NetworkCall.IsSilent s) where
  change f hnetwork hcalls := by
    intro site h
    refine ⟨(hnetwork _).trans h.network_eq, ?_⟩
    obtain ⟨added, hadded, hsilent⟩ := h.calls_eq
    exact ⟨added, (hcalls _).trans hadded, hsilent⟩
  note call hcall := by
    intro site h
    refine ⟨h.network_eq, ?_⟩
    obtain ⟨added, hadded, hsilent⟩ := h.calls_eq
    refine ⟨added ++ [call], ?_, ?_⟩
    · change site.peer.calls ++ [call] = s.calls ++ (added ++ [call])
      rw [hadded, List.append_assoc]
    · simpa [or_imp, forall_and] using ⟨hsilent, hcall⟩
  report _ _ := fun _ h => ⟨h.network_eq, h.calls_eq⟩

namespace Frame

/-- Asking for an operation is a call, whatever is answered. -/
theorem ask (h : Frame I) {call : NetworkCall} (hcall : call.IsSilent) (operation : Operation) :
    (ask call operation).Keeps I :=
  (h.note call hcall).bind fun _ => keeps_meet operation

/-- A new resource is a call. -/
theorem openResource (h : Frame I) (kind : ResourceKind) : (openResource kind).Keeps I := by
  refine keeps_session.bind fun t => ?_
  refine .bind (h.change _ (fun _ => rfl) fun _ => rfl) fun _ => ?_
  exact (h.note _ (by trivial)).bind fun _ => .pure _

/-- What silent steps keep, the steps that stop a forward keep. -/
theorem stopping (h : Frame I) : Stopping I where
  change _ _ := h.change _ (fun _ => rfl) fun _ => rfl
  close _ := h.note _ (by trivial)
  join _ _ := h.note _ (by trivial)
  report := h.report

/-- Tolerating a fault adds a report of the transport at most. -/
theorem tolerate (h : Frame I) {handled : Fault → Bool} {event : String → Event} {task : Task Unit}
    (hevent : ∀ text, (event text).source = "graphtunnel.transport") (htask : task.Keeps I) :
    (tolerate handled event task).Keeps I :=
  h.stopping.tolerate hevent htask

/-- Stopping the forward is made of silent steps. -/
theorem stopForward (h : Frame I) : stopForward.Keeps I := h.stopping.stopForward

end Frame

/-! ## Giving back -/

/-- Closes the protocol session if there is one. -/
def closeTransport : Task Unit := do
  match (← session).transport with
  | none => pure ()
  | some transport => do
    tolerate isCloseFault .sessionCloseFailed (close transport)
    change fun s => { s with transport := none }

/-- Closes the socket if there is one. -/
def closeSocket : Task Unit := do
  match (← session).socket with
  | none => pure ()
  | some socket => do
    tolerate Fault.isSystem .socketCloseFailed (close socket)
    change fun s => { s with socket := none }

/-- Everything is given back part by part. -/
theorem disconnect_eq : disconnect = (do
    stopForward
    change fun s => { s with forward := none }
    closeTransport
    closeSocket) := by
  unfold disconnect closeTransport closeSocket
  refine congrArg (stopForward >>= ·)
    (funext fun _ => congrArg (change _ >>= ·) (funext fun _ => ?_))
  rw [bind_assoc]
  refine congrArg (session >>= ·) (funext fun t => ?_)
  cases t.transport with
  | none => rfl
  | some transport => exact (bind_assoc _ _ _).symm

/-- Giving everything back is made of silent steps. -/
theorem Frame.disconnect (h : Frame I) : disconnect.Keeps I := by
  rw [disconnect_eq]
  refine h.stopForward.bind fun _ => .bind (h.change _ (fun _ => rfl) fun _ => rfl) fun _ =>
    .bind (keeps_session.bind fun t => ?_) fun _ => keeps_session.bind fun t => ?_
  · cases t.transport with
    | none => exact .pure ()
    | some transport =>
      exact (h.tolerate (fun _ => rfl) (h.ask (by trivial) _)).bind fun _ =>
        h.change _ (fun _ => rfl) fun _ => rfl
  · cases t.socket with
    | none => exact .pure ()
    | some socket =>
      exact (h.tolerate (fun _ => rfl) (h.ask (by trivial) _)).bind fun _ =>
        h.change _ (fun _ => rfl) fun _ => rfl

/-- Giving everything back proves nothing about the user. -/
theorem keeps_disconnect : disconnect.Keeps (Account NetworkCall.IsSilent s) :=
  frame_account.disconnect

/-! ## Forwarding -/

/-- Forwarding a port is made of silent steps. -/
theorem Frame.openForward (h : Frame I) (request : ForwardRequest) :
    (openForward request).Keeps I := by
  have hbind : (bindListener request).Keeps I :=
    (h.ask (by trivial) _).bind fun _ => (h.ask (by trivial) _).bind fun _ =>
      (h.ask (by trivial) _).bind fun _ => h.ask (by trivial) _
  have hannounce (listener : Resource) : (announce request listener).Keeps I :=
    (h.ask (by trivial) _).bind fun _ => keeps_session.bind fun t => .bind (.ofExcept _) fun ⟨_⟩ =>
      (h.ask (by trivial) _).bind fun _ => .bind (.ofExcept _) fun ⟨_⟩ =>
        (h.report _ rfl).bind fun _ => .pure _
  have hstart : (startForward request).Keeps I := by
    refine (h.note _ (by trivial)).bind fun _ => (h.openResource _).bind fun listener =>
      .bind (hbind.onFault fun fault => ?_) fun _ => hannounce listener
    exact .ite (h.ask (by trivial) _) (.pure ())
  refine keeps_session.bind fun t => ?_
  refine .refuse (.refuse (hstart.attempt.bind fun outcome => ?_))
  cases outcome with
  | error fault => exact .ite (.bind (.ofExcept _) fun _ => .throw _) (.throw _)
  | ok forward =>
    exact .bind (h.change _ (fun _ => rfl) fun _ => rfl) fun _ => .pure forward.localPort

/-- Forwarding a port proves nothing about the user. -/
theorem keeps_openForward (request : ForwardRequest) :
    (openForward request).Keeps (Account NetworkCall.IsSilent s) :=
  frame_account.openForward request

end Ssh

end SecureForward
