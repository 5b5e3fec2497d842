import SecureForward.Proofs.CommandLine.Check
import SecureForward.Proofs.Trust.Faults

/-!
# Whether a check answers

A check answers with 0 or 1 unless a fault comes up that is no refusal: the settings cannot be
checked, or the key file or the trust store has a fault that strays (`answered_checkConfig`). For
the trust store `TrustPolicy.Stray` lists these faults. `short_key_strays` is a store with one of
them, a record whose key is too short: neither the trust decision nor the check turns it into a
refusal.
-/

namespace SecureForward.Desk

open TrustPolicy (Resolved Stray)

variable {settings : Settings} {config : Config} {machine : Machine} {fault : Fault}

/-- What a check comes to. -/
inductive Answered (settings : Settings) (config : Config) (machine : Machine) :
    Except Fault Int → Prop where
  /-- Nothing is wrong. -/
  | passed : Answered settings config machine (.ok 0)
  /-- Something is refused. -/
  | failed : Answered settings config machine (.ok 1)
  /-- The settings have a fault that is no refusal. -/
  | settings {fault : Fault} (invalid : settings.validate = .error fault) :
      Answered settings config machine (.error fault)
  /-- The key file or the trust store has a fault that strays, as they stand once something was
  reported. -/
  | stray {machine' : Machine} {fault : Fault} (reported : machine.Reported machine')
      (stray : machine'.Unreachable config.keyFile fault ∨ config.verifiesHost = true ∧
        Stray (chooseStore config.knownHostsFile settings.knownHostsFile) machine' fault) :
      Answered settings config machine (.error fault)

/-- A trust decision that fails is a refusal, or it has a fault that strays. -/
theorem of_resolve_error {policy : TrustPolicy} {machine' : Machine}
    (h : Act.run (policy.resolve config) machine = (.error fault, machine')) :
    fault.isRefusal = true ∨ config.verifiesHost = true ∧
      Stray (chooseStore config.knownHostsFile policy.defaultStore) machine fault := by
  cases hverifies : config.verifiesHost with
  | false =>
    unfold TrustPolicy.resolve at h
    rw [if_pos (by simp [hverifies])] at h
    cases h
  | true =>
    have hresolved := TrustPolicy.resolved_resolve policy machine hverifies
    rw [congrArg Prod.fst h] at hresolved
    cases hresolved with
    | refused hblames =>
      obtain ⟨reason, hreason, -⟩ := hblames
      exact .inl (Option.isSome_iff_exists.2 ⟨reason, hreason⟩)
    | stray hstray => exact .inr ⟨rfl, hstray⟩

/-- Going through a configuration ends with a refusal, or as a check does. -/
theorem of_examine_error {machine' : Machine}
    (h : Act.run (examine settings config) machine = (.error fault, machine')) :
    fault.isRefusal = true ∨ Answered settings config machine (.error fault) := by
  unfold examine at h
  rcases Act.run_bind_eq_error_iff.1 h with h | ⟨_, machine₁, hvalid, h⟩
  · rw [Act.run_ofExcept] at h
    exact .inr (.settings (Prod.mk.inj h).1)
  rw [Act.run_ofExcept] at hvalid
  obtain rfl := (Prod.mk.inj hvalid).2
  rw [Act.run_bind_of_ok (Machine.run_report_of_writable rfl _)] at h
  have hreported := Machine.reported_reporting .settingsChecked machine
  generalize Machine.reporting .settingsChecked machine = machine₁ at h hreported
  -- The key file is looked for first.
  rcases Act.run_bind_eq_error_iff.1 h with h | ⟨path, machine₂, hpath, h⟩
  · exact .inr (.stray hreported (.inl (Machine.unreachable_of_resolvePath h)))
  obtain ⟨hresolved, rfl⟩ := Machine.run_resolvePath_eq_ok_iff.1 hpath
  rcases Act.run_bind_eq_error_iff.1 h with h | ⟨isFile, machine₃, hfile, h⟩
  · exact .inr (.stray hreported (.inl (Machine.unreachable_of_isFile hresolved h)))
  obtain ⟨-, rfl⟩ := Machine.run_isFile_eq_ok_iff.1 hfile
  cases isFile with
  | false => cases h
  | true =>
    rw [if_neg (by simp), Act.run_bind_of_ok (Machine.run_report_of_writable rfl _)] at h
    have hreported :=
      hreported.trans (Machine.reported_reporting (.keyFileFound (toString path)) machine₁)
    generalize Machine.reporting (.keyFileFound (toString path)) machine₁ = machine₂ at h hreported
    -- What fails behind the key file is the trust decision.
    rcases Act.run_bind_eq_error_iff.1 h with h | ⟨decision, machine₃, -, h⟩
    · rcases of_resolve_error h with hrefusal | ⟨hverifies, hstray⟩
      · exact .inl hrefusal
      · exact .inr (.stray hreported (.inr ⟨hverifies, hstray⟩))
    · cases decision <;> cases h

/-- Going through a configuration ends with 0 or 1, if it ends well. -/
theorem of_examine_ok {machine' : Machine} {code : Int}
    (h : Act.run (examine settings config) machine = (.ok code, machine')) :
    code = 0 ∨ code = 1 := by
  unfold examine at h
  obtain ⟨_, machine₁, -, h⟩ := Act.run_bind_eq_ok_iff.1 h
  obtain ⟨_, machine₂, -, h⟩ := Act.run_bind_eq_ok_iff.1 h
  obtain ⟨path, machine₃, -, h⟩ := Act.run_bind_eq_ok_iff.1 h
  obtain ⟨isFile, machine₄, -, h⟩ := Act.run_bind_eq_ok_iff.1 h
  cases isFile with
  | false => exact .inr (Except.ok.inj (Prod.mk.inj h).1).symm
  | true =>
    obtain ⟨_, machine₅, -, h⟩ := Act.run_bind_eq_ok_iff.1 h
    obtain ⟨decision, machine₆, -, h⟩ := Act.run_bind_eq_ok_iff.1 h
    cases decision <;> exact .inl (Except.ok.inj (Prod.mk.inj h).1).symm

/-- A check answers with 0 or 1, or it has a fault that strays. -/
theorem answered_checkConfig (settings : Settings) (config : Config) (machine : Machine) :
    Answered settings config machine (Act.run (checkConfig settings config) machine).1 := by
  unfold checkConfig
  rw [Act.run_bind_of_ok (Act.run_attempt _ _)]
  rcases hrun : Act.run (examine settings config) machine with ⟨fault | code, machine'⟩
  · dsimp only
    by_cases hrefusal : fault.isRefusal = true
    · rw [if_neg (by simp [hrefusal])]
      exact .failed
    · rw [if_pos (by simpa using hrefusal)]
      exact (of_examine_error hrun).resolve_left hrefusal
  · rcases of_examine_ok hrun with rfl | rfl
    · exact .passed
    · exact .failed

/-- For a host that is to be verified, a trust decision is enforced, or it is refused and blames the
trust store, unless a fault of the store's path, of a key or of a name in it strays; and a check
answers with 0 or 1, unless the settings, the path of the key file or the trust store have such a
fault. -/
theorem resolved_and_answered (policy : TrustPolicy) (settings : Settings) (machine : Machine)
    (hverifies : config.verifiesHost = true) :
    Resolved policy config machine (Act.run (policy.resolve config) machine).1 ∧
      Answered settings config machine (Act.run (checkConfig settings config) machine).1 :=
  ⟨TrustPolicy.resolved_resolve policy machine hverifies,
    answered_checkConfig settings config machine⟩

/-- A record with a key of five bytes. -/
def shortRecord : Text.Utf8.Bytes :=
  Text.Utf8.encode "gate ssh-ed25519 AAAAC3NzaC1lZDI1NTE5AAAABQEBAQEB".toList

/-- The policy of the trial. -/
def trialPolicy : TrustPolicy := { defaultStore := "/known", acceptsNewHosts := false }

/-- The configuration of the trial. Its key file is the trust store itself, as it only has to be
there. -/
def trialCheck : Config := trialConfig "/known"

/-- The machine of the trial. -/
def shortMachine : Machine := TrustStore.trialMachine shortRecord

/-- What the trust decision of the trial ends with. -/
theorem resolve_short :
    (Act.run (trialPolicy.resolve trialCheck) shortMachine).1 = .error (.hostKey .wrongSize) := by
  have hfault :
      (trialPolicy.resolve trialCheck).fault? shortMachine = some (.hostKey .wrongSize) := by
    decide +kernel
  rw [Act.run_of_fault?_eq_some hfault]

/-- What the check of the trial ends with. -/
theorem check_short :
    (Act.run (checkConfig Settings.default trialCheck) shortMachine).1 =
      .error (.hostKey .wrongSize) := by
  have hfault : (checkConfig Settings.default trialCheck).fault? shortMachine =
      some (.hostKey .wrongSize) := by
    decide +kernel
  rw [Act.run_of_fault?_eq_some hfault]

/-- A refusal that blames the trust store has a reason, which a key that is too short has not. -/
theorem not_blamesStore_short : ¬(Fault.hostKey .wrongSize).BlamesStore := by
  rintro ⟨_, hreason, -⟩
  cases hreason

/-- The key that is too short strays, and the check has nothing else to say. -/
theorem resolved_and_answered_trial :
    Stray "/known" shortMachine (.hostKey .wrongSize) ∧
      Answered Settings.default trialCheck shortMachine (.error (.hostKey .wrongSize)) := by
  obtain ⟨hresolved, hanswered⟩ :=
    @resolved_and_answered trialCheck trialPolicy Settings.default shortMachine rfl
  rw [resolve_short] at hresolved
  rw [check_short] at hanswered
  refine ⟨?_, hanswered⟩
  cases hresolved with
  | refused hblames => exact absurd hblames not_blamesStore_short
  | stray hstray => exact hstray

/-- Neither the trust decision nor the check turns the key that is too short into a refusal. -/
theorem short_key_strays :
    trialCheck.verifiesHost = true ∧
      (Act.run (trialPolicy.resolve trialCheck) shortMachine).1 = .error (.hostKey .wrongSize) ∧
      ¬(Fault.hostKey .wrongSize).BlamesStore ∧
      (Act.run (checkConfig Settings.default trialCheck) shortMachine).1 =
        .error (.hostKey .wrongSize) :=
  ⟨rfl, resolve_short, not_blamesStore_short, check_short⟩

end SecureForward.Desk
