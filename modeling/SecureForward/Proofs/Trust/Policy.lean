import SecureForward.Proofs.Machine
import SecureForward.Tunnel.Basic

/-!
# What a trust decision rests on

`run_loadStore` is loading a store in one equation. When `resolve` succeeds, the store of its
enforced decision is what the file at the path holds that the configuration names; whether it
succeeds or not, nothing changes but the log. `prepare` adds the path of the private key to such a
decision.
-/

namespace SecureForward

open Act (run)
open SecureForward.Text.Utf8 (Bytes)

namespace TrustPolicy

/-- The fault with which loading a store ends for a reason: most reasons are wrapped. -/
def loadFault (path : String) (reason : Fault) : Fault :=
  if TrustStore.isLoadFault reason then .refusalBy (.trustStoreUnloadable path) reason else reason

/-- Loading a store reads its file and then the content, and leaves the machine as it is. -/
theorem run_loadStore (path : Path) (machine : Machine) :
    run (loadStore path) machine =
      (((run (Machine.readFile path) machine).1.bind
        (TrustStore.ofBytes (toString path))).mapError (loadFault (toString path)), machine) := by
  have hfault (reason : Fault) : run (if TrustStore.isLoadFault reason = true then
      throw (.refusalBy (.trustStoreUnloadable (toString path)) reason) else throw reason :
        Act Machine TrustStore) machine = (.error (loadFault (toString path) reason), machine) := by
    unfold loadFault
    split <;> rfl
  have hmachine := Machine.run_readFile_snd path machine
  unfold loadStore
  rw [Act.run_bind_of_ok (Act.run_attempt _ _)]
  rcases hread : run (Machine.readFile path) machine with ⟨reason | bytes, machine'⟩
  · -- The file is not read.
    rw [hread] at hmachine
    obtain rfl : machine' = machine := hmachine
    rw [Act.run_bind_of_error hread]
    exact hfault reason
  · rw [hread] at hmachine
    obtain rfl : machine' = machine := hmachine
    rw [Act.run_bind_of_ok hread, Act.run_ofExcept]
    change _ = ((TrustStore.ofBytes (toString path) bytes).mapError _, machine')
    rcases TrustStore.ofBytes (toString path) bytes with reason | store
    · -- What is read is no store.
      exact hfault reason
    · rfl

/-- Loading a store leaves the machine as it is. -/
theorem run_loadStore_snd (path : Path) (machine : Machine) :
    (run (loadStore path) machine).2 = machine := by
  rw [run_loadStore]

/-- A store that is loaded is what the content of its file denotes. -/
theorem run_loadStore_eq_ok_iff {path : Path} {machine machine' : Machine} {store : TrustStore} :
    run (loadStore path) machine = (.ok store, machine') ↔
      ∃ bytes, '\x00' ∉ path.toList ∧ machine.files.read path = .ok bytes ∧
        TrustStore.ofBytes (toString path) bytes = .ok store ∧ machine' = machine := by
  rw [run_loadStore]
  constructor
  · intro h
    obtain ⟨hstore, hmachine⟩ := Prod.mk.inj h
    rcases hrun : run (Machine.readFile path) machine with ⟨reason | bytes, machine₁⟩
    · rw [hrun] at hstore
      cases hstore
    · obtain ⟨hpath, hread, -⟩ := Machine.run_readFile_eq_ok_iff.1 hrun
      refine ⟨bytes, hpath, hread, ?_, hmachine.symm⟩
      rw [hrun] at hstore
      change (TrustStore.ofBytes (toString path) bytes).mapError _ = _ at hstore
      rcases hbytes : TrustStore.ofBytes (toString path) bytes with reason | store'
      · rw [hbytes] at hstore
        cases hstore
      · rw [hbytes] at hstore
        exact hstore
  · rintro ⟨bytes, hpath, hread, hbytes, rfl⟩
    rw [Machine.run_readFile_eq_ok_iff.2 ⟨hpath, hread, rfl⟩]
    change ((TrustStore.ofBytes (toString path) bytes).mapError _, machine') = _
    rw [hbytes]
    rfl

/-- All that an enforced decision is made of: the path that the configuration or the policy names,
the store at it, the key type that this store prefers for the host, and whether new hosts are
accepted. -/
theorem enforced_of_resolve {policy : TrustPolicy} {config : Config} {machine machine' : Machine}
    {decision : Decision} (hverifies : config.verifiesHost = true)
    (h : run (policy.resolve config) machine = (.ok decision, machine')) :
    ∃ pinning : Pinning, decision = .enforced pinning ∧
      machine.place.resolve? (chooseStore config.knownHostsFile policy.defaultStore) =
        some pinning.storePath ∧
      run (loadStore pinning.storePath) machine = (.ok pinning.store, machine) ∧
      pinning.store.preferredType? (RecordName.ofHost config.host config.port) =
        .ok pinning.preferredType ∧
      pinning.acceptsNewHosts = policy.acceptsNewHosts := by
  unfold resolve at h
  rw [if_neg (by simp [hverifies])] at h
  obtain ⟨path, machine₁, hpath, h⟩ := Act.run_bind_eq_ok_iff.1 h
  obtain ⟨hresolve, rfl⟩ := Machine.run_resolvePath_eq_ok_iff.1 hpath
  obtain ⟨isFile, machine₂, hfile, h⟩ := Act.run_bind_eq_ok_iff.1 h
  obtain ⟨-, rfl⟩ := Machine.run_isFile_eq_ok_iff.1 hfile
  cases isFile with
  | false => cases h
  | true =>
    obtain ⟨store, machine₃, hload, hrest⟩ := Act.run_bind_eq_ok_iff.1 h
    dsimp only at hrest
    obtain ⟨preferredType, machine₄, htype, hrest⟩ := Act.run_bind_eq_ok_iff.1 hrest
    obtain ⟨_, machine₅, -, hrest⟩ := Act.run_bind_eq_ok_iff.1 hrest
    rw [Act.run_ofExcept] at htype
    have hmachine := run_loadStore_snd path machine
    rw [hload] at hmachine
    rw [show machine₃ = machine from hmachine] at hload
    exact ⟨_, (Except.ok.inj (Prod.mk.inj hrest).1).symm, hresolve, hload, (Prod.mk.inj htype).1,
      rfl⟩

/-- A decision for a configuration that verifies its host is enforced, on the store at the path that
the configuration or the policy names. -/
theorem exists_of_resolve {policy : TrustPolicy} {config : Config} {machine machine' : Machine}
    {decision : Decision} (hverifies : config.verifiesHost = true)
    (h : run (policy.resolve config) machine = (.ok decision, machine')) :
    ∃ pinning : Pinning, decision = .enforced pinning ∧
      machine.place.resolve? (chooseStore config.knownHostsFile policy.defaultStore) =
        some pinning.storePath ∧
      run (loadStore pinning.storePath) machine = (.ok pinning.store, machine) ∧
      pinning.acceptsNewHosts = policy.acceptsNewHosts := by
  obtain ⟨pinning, hdecision, hpath, hload, -, haccepts⟩ := enforced_of_resolve hverifies h
  exact ⟨pinning, hdecision, hpath, hload, haccepts⟩

/-- The decision is not to verify exactly for a configuration that does not. -/
theorem resolve_eq_disabled_iff {policy : TrustPolicy} {config : Config} {machine : Machine} :
    (run (policy.resolve config) machine).1 = .ok .disabled ↔ config.verifiesHost = false := by
  cases hverifies : config.verifiesHost with
  | true =>
    refine iff_of_false ?_ (by simp)
    intro h
    obtain ⟨pinning, hdecision, -⟩ := exists_of_resolve hverifies (Prod.ext h rfl)
    cases hdecision
  | false =>
    refine iff_of_true ?_ rfl
    unfold resolve
    rw [if_pos (by simp [hverifies])]
    rfl

/-- Making a trust decision does nothing to the machine but report about trust. -/
theorem keeps_resolve {I : Machine → Prop}
    (hreport : ∀ event : Event, event.source = "graphtunnel.trust" → (Machine.report event).Keeps I)
    (policy : TrustPolicy) (config : Config) : (policy.resolve config).Keeps I := by
  unfold resolve
  refine .ite (.bind (hreport _ rfl) fun _ => .pure _) ?_
  refine .bind (.of_same fun machine => by rw [Machine.run_resolvePath]) fun path => ?_
  refine .bind (.of_same fun machine => by rw [Machine.run_isFile]) fun isFile => ?_
  refine .refuse ?_
  refine .bind (.of_same fun machine => run_loadStore_snd path machine) fun store => ?_
  exact .bind (.ofExcept _) fun preferredType => .bind (hreport _ rfl) fun _ => .pure _

end TrustPolicy

namespace Session

/-- What preparing a tunnel comes to: a file stands where the configuration says that the key is,
the login is the configuration's with this path in it, and the decision is that of the policy. -/
theorem exists_path_of_prepare {tunnel : Tunnel} {machine machine' : Machine} {login : Login}
    {decision : Decision} (h : run (prepare tunnel) machine = (.ok (login, decision), machine')) :
    ∃ path, machine.place.resolve? tunnel.config.keyFile = some path ∧
      machine.files.isFile path = .ok true ∧
      login =
        { host := tunnel.config.host, port := tunnel.config.port, user := tunnel.config.user,
          keyFile := toString path, passphrase := tunnel.config.passphrase } ∧
      run (tunnel.policy.resolve tunnel.config) machine = (.ok decision, machine') := by
  unfold prepare at h
  obtain ⟨keyFile, machine₁, hpath, h⟩ := Act.run_bind_eq_ok_iff.1 h
  obtain ⟨hkeyFile, rfl⟩ := Machine.run_resolvePath_eq_ok_iff.1 hpath
  obtain ⟨isFile, machine₂, hfile, h⟩ := Act.run_bind_eq_ok_iff.1 h
  obtain ⟨hisFile, rfl⟩ := Machine.run_isFile_eq_ok_iff.1 hfile
  cases isFile with
  | false => cases h
  | true =>
    obtain ⟨decision', machine₃, hresolve, h⟩ := Act.run_bind_eq_ok_iff.1 h
    obtain ⟨hlogin, rfl⟩ := Prod.mk.inj h
    obtain ⟨rfl, rfl⟩ := Prod.mk.inj (Except.ok.inj hlogin)
    exact ⟨keyFile, hkeyFile, hisFile, rfl, hresolve⟩

/-- What is known once a tunnel is prepared: how to log in, from the configuration, and the decision
of the policy. -/
theorem exists_of_prepare {tunnel : Tunnel} {machine machine' : Machine} {login : Login}
    {decision : Decision} (h : run (prepare tunnel) machine = (.ok (login, decision), machine')) :
    login.host = tunnel.config.host ∧ login.port = tunnel.config.port ∧
      login.user = tunnel.config.user ∧
      run (tunnel.policy.resolve tunnel.config) machine = (.ok decision, machine') := by
  obtain ⟨path, -, -, rfl, hresolve⟩ := exists_path_of_prepare h
  exact ⟨rfl, rfl, rfl, hresolve⟩

end Session

end SecureForward
