import SecureForward.Proofs.Ssh.Trust
import SecureForward.Proofs.Tunnel.Failure

/-!
# What a session reports

A session reports in the name of the transport, and in the name of trust while it verifies the host.
`isDiscreet_ssh` says that nothing is reported in the name of the tunnel meanwhile, so what the log
holds in this name is told by the tunnel alone.
-/

namespace SecureForward

open Act (run)

namespace Verifying

variable {events : List Event}

/-- Work on the machine keeps what it keeps of the machine. -/
theorem keeps_onMachine {α : Type} {act : Act Machine α} {I : Machine → Prop} (h : act.Keeps I) :
    (onMachine act).Keeps fun v => I v.machine :=
  fun v hv => h v.machine hv

/-- Appending a record reports nothing. -/
theorem keeps_tunnelEvents_appendRecord (path : Path) (entry : TrustStore.Entry) :
    (appendRecord path entry).Keeps fun machine => machine.tunnelEvents = events := by
  refine .bind (.of_same fun machine => by rw [Machine.run_openToUpdate]) fun old => ?_
  cases Text.Utf8.decode old with
  | error e => exact .throw _
  | ok content =>
    intro machine h
    change (run (Machine.appendToFile path old _) machine).2.tunnelEvents = events
    rw [Machine.run_appendToFile]
    exact h

/-- Verifying a host reports nothing in the name of the tunnel. -/
theorem keeps_tunnelEvents_verify (hostId : String) (key : HostKey) :
    (verify hostId key).Keeps fun v => v.machine.tunnelEvents = events := by
  have hreport (event : Event) (h : event.source = "graphtunnel.trust") :
      (onMachine (Machine.report event)).Keeps fun v => v.machine.tunnelEvents = events :=
    keeps_onMachine (Machine.keeps_tunnelEvents_report (by simp [h]) events)
  have hdraw : Machine.drawSalt.Keeps fun machine => machine.tunnelEvents = events := by
    intro machine h
    rw [Machine.run_drawSalt]
    exact h
  have hrecord (pinning : Pinning) (name : String) :
      (recordInFile pinning hostId key name).Keeps fun v => v.machine.tunnelEvents = events := by
    refine .bind (keeps_onMachine (keeps_tunnelEvents_appendRecord _ _)).attempt fun outcome => ?_
    cases outcome with
    | ok => exact hreport _ rfl
    | error fault => exact .ite (hreport _ rfl) (.throw fault)
  have hremember (pinning : Pinning) :
      (remember pinning hostId key).Keeps fun v => v.machine.tunnelEvents = events := by
    unfold remember
    dsimp only
    -- The name is hashed or not, and what follows is the same for every name.
    refine .ite (.bind (keeps_onMachine hdraw) fun salt => .bind (.ofExcept _) fun name => ?_)
      (.bind (.pure _) fun name => ?_)
    all_goals exact .bind (fun v hv => hv) fun _ => hrecord pinning _
  refine .bind (fun v hv => hv) fun v => ?_
  cases v.decision with
  | disabled => exact hreport _ rfl
  | enforced pinning =>
    change (verifyBy pinning hostId key).Keeps _
    have hverdict := verdict_verifyBy pinning hostId key
    generalize verifyBy pinning hostId key = act at hverdict
    cases hverdict with
    | refused fault => exact .throw fault
    | known => exact hreport _ rfl
    | new => exact hremember pinning

end Verifying

namespace Ssh

variable {events : List Event}

/-- What is reported in the name of the tunnel is kept by silent steps. -/
theorem frame_tunnelEvents : Frame fun site => site.machine.tunnelEvents = events where
  change _ _ _ := fun _ h => h
  note _ _ := fun _ h => h
  report event hevent := fun site h =>
    Machine.keeps_tunnelEvents_report (by simp [hevent]) events site.machine h

/-- Opening a session reports nothing in the name of the tunnel. -/
theorem keeps_tunnelEvents_connect (login : Login) (decision : Decision) (seconds : Float) :
    (connect login decision seconds).Keeps fun site => site.machine.tunnelEvents = events := by
  have hverify : (verifyHost login).Keeps fun site => site.machine.tunnelEvents = events := by
    refine .bind (keeps_meet _) fun _ => .bind keeps_session fun s => .within fun site h => ?_
    exact Verifying.keeps_tunnelEvents_verify _ _ (verifyingPart.get site) h
  have hidentify (decision : Decision) : (identify login decision seconds).Keeps
      fun site => site.machine.tunnelEvents = events :=
    (frame_tunnelEvents.approach _ _ _).bind fun _ => hverify
  rw [connect_eq]
  refine .bind keeps_session fun s => .refuse ?_
  refine .bind (frame_tunnelEvents.loadKey login) fun _ => .bind (fun _ h => h) fun _ => ?_
  refine .bind (Act.Keeps.attempt ?_) fun outcome => frame_tunnelEvents.conclude _ _ outcome
  rw [establish_eq]
  -- The proof of identity is a call like any other here.
  exact (hidentify decision).bind fun _ => .bind (fun _ h => h) fun _ => keeps_meet _

/-- A session reports nothing in the name of the tunnel. -/
theorem isDiscreet_ssh : Transport.ssh.IsDiscreet where
  create _ := fun _ h => h
  connect login decision seconds _ := keeps_tunnelEvents_connect login decision seconds
  openForward request _ := frame_tunnelEvents.openForward request
  disconnect _ := frame_tunnelEvents.disconnect

end Ssh

end SecureForward
