import SecureForward.Proofs.Ssh.Disconnect
import SecureForward.Proofs.Trust.Policy
import SecureForward.Proofs.Trust.Verify
import SecureForward.Proofs.Tunnel.Uses

/-!
# No proof of identity before trust

`encounter` is what opening a tunnel does before the host is verified. `authenticate_after_trust`
says that the user proves who he is only after these steps and the verification went well, on the
store that the configured file held, and that a host that is refused ends the opening with that
refusal.

A run of `connect` is taken apart where the host has been identified (`account_connect`): up to
there and from the next call on nothing is said about the user.
-/

namespace SecureForward

open Act (run)
open SecureForward.Text.Utf8 (Bytes)
open TrustStore (anyDenotes)

namespace Ssh

variable {s : Ssh} {I : Site Ssh → Prop} {login : Login} {decision : Decision} {seconds : Float}

/-! ## The steps of a session -/

/-- The steps of opening a session before the host's key is read. -/
def approach (login : Login) (decision : Decision) (seconds : Float) : Task Unit := do
  openTransport login seconds
  ask (.offerKeyTypes (decision.orderTypes (← session).network.keyTypes)) .offerKeyTypes
  ask (.handshake seconds) .handshake

/-- The steps of opening a session before the user proves who he is. -/
def identify (login : Login) (decision : Decision) (seconds : Float) : Task Unit := do
  approach login decision seconds
  verifyHost login

/-- What follows once the steps of opening a session ended somehow. -/
def conclude (login : Login) (seconds : Float) : Except Fault Unit → Task Unit
  | .error fault => do
    disconnect
    throw (connectError login seconds fault)
  | .ok () => do
    if !(← session).network.isAuthenticated then
      disconnect
      throw (.refusal (.authenticationIncomplete login.user login.endpoint))
    report (.sessionEstablished login.user login.endpoint)

/-- Opening a session ends with the proof of the user. -/
theorem establish_eq (login : Login) (decision : Decision) (seconds : Float) :
    establish login decision seconds = (do
      identify login decision seconds
      ask (.authenticate login.user) .authenticate) := by
  simp only [establish, identify, approach, bind_assoc]

/-- Opening a session as a chain of its parts. -/
theorem connect_eq (login : Login) (decision : Decision) (seconds : Float) :
    connect login decision seconds = (do
      if (← session).transport.isSome then throw (.refusal .alreadyConnected)
      loadKey login
      change fun s => { s with decision }
      conclude login seconds (← (establish login decision seconds).attempt)) := by
  unfold connect conclude
  rfl

/-- Reading the key is made of silent steps. -/
theorem Frame.loadKey (h : Frame I) (login : Login) : (loadKey login).Keeps I := by
  refine .bind (.ofExcept _) fun passphrase => (h.ask (by trivial) _).attempt.bind fun outcome => ?_
  cases outcome with
  | ok => exact .pure ()
  | error fault => exact .throw _

/-- Making a protocol session is made of silent steps. -/
theorem Frame.openTransport (h : Frame I) (login : Login) (seconds : Float) :
    (openTransport login seconds).Keeps I := by
  refine (h.ask (by trivial) _).bind fun _ => (h.openResource _).bind fun socket => ?_
  refine .bind (h.change _ (fun _ => rfl) fun _ => rfl) fun _ => ?_
  refine (h.ask (by trivial) _).bind fun _ => (h.openResource _).bind fun t => ?_
  exact h.change _ (fun _ => rfl) fun _ => rfl

/-- The steps up to the host's key are silent. -/
theorem Frame.approach (h : Frame I) (login : Login) (decision : Decision) (seconds : Float) :
    (approach login decision seconds).Keeps I := by
  refine (h.openTransport _ _).bind fun _ => keeps_session.bind fun t => ?_
  exact (h.ask (by trivial) _).bind fun _ => h.ask (by trivial) _

/-- However opening a session ended, what follows is made of silent steps. -/
theorem Frame.conclude (h : Frame I) (login : Login) (seconds : Float)
    (outcome : Except Fault Unit) : (conclude login seconds outcome).Keeps I := by
  cases outcome with
  | error fault => exact h.disconnect.bind fun _ => .throw _
  | ok =>
    refine keeps_session.bind fun t => .ite ?_ (h.report _ rfl)
    exact h.disconnect.bind fun _ => .bind (.throw _) fun _ => h.report _ rfl

/-- The steps up to the host's key prove nothing about the user. -/
theorem keeps_approach (login : Login) (decision : Decision) (seconds : Float) :
    (approach login decision seconds).Keeps (Account NetworkCall.IsSilent s) :=
  frame_account.approach login decision seconds

/-- Reading the key leaves a session fitted. -/
theorem keeps_loadKey_fitted (login : Login) : (loadKey login).Keeps (Fitted decision) := by
  refine .bind (.ofExcept _) fun passphrase => (keeps_ask_fitted _ _).attempt.bind fun outcome => ?_
  cases outcome with
  | ok => exact .pure ()
  | error fault => exact .throw _

/-- The steps up to the host's key leave a session fitted. -/
theorem keeps_approach_fitted (login : Login) (offered : Decision) (seconds : Float) :
    (approach login offered seconds).Keeps (Fitted decision) := by
  refine (keeps_openTransport_fitted _ _).bind fun _ => keeps_session.bind fun t => ?_
  exact (keeps_ask_fitted _ _).bind fun _ => keeps_ask_fitted _ _

/-- Identifying the host proves nothing about the user. -/
theorem keeps_identify (login : Login) (decision : Decision) (seconds : Float) :
    (identify login decision seconds).Keeps (Account NetworkCall.IsSilent s) := by
  refine (keeps_approach _ _ _).bind fun _ => (keeps_meet _).bind fun _ =>
    keeps_session.bind fun t => ?_
  exact .within fun site h => ⟨h.network_eq, h.calls_eq⟩

/-! ## The host before the user -/

/-- The steps of opening a tunnel before the host is verified; the decision is what it will be
verified by. -/
def encounter (tunnel : Tunnel) : Task Decision := do
  let config := tunnel.config
  report (.opening config.user config.host config.port config.target)
  let (login, decision) ← Site.onMachine (Session.prepare tunnel)
  renew
  let seconds ← Act.ofExcept (Settings.seconds tunnel.connectTimeout)
  loadKey login
  change fun s => { s with decision }
  approach login decision seconds
  meet .readHostKey
  return decision

/-- Verifying the host at a site, by the name that it is recorded under. -/
def verification (hostId : String) (site : Site Ssh) : Except Fault Unit × Verifying :=
  run (Verifying.verify hostId site.peer.network.hostKey) (verifyingPart.get site)

/-- Whatever opening a session ends with, the user proved nothing, or he proved who he is right
after the host was identified. -/
theorem account_connect (login : Login) (decision : Decision) (seconds : Float) (site : Site Ssh) :
    Account NetworkCall.IsSilent site.peer (run (connect login decision seconds) site).2 ∨
      ∃ site₁ site₂,
        run (loadKey login) site = (.ok (), site₁) ∧
        run (identify login decision seconds)
          { site₁ with peer := { site₁.peer with decision } } = (.ok (), site₂) ∧
        Account NetworkCall.IsSilent
          { site₂.peer with calls := site₂.peer.calls ++ [.authenticate login.user] }
          (run (connect login decision seconds) site).2 := by
  rw [connect_eq, Act.run_bind_of_ok (run_session site)]
  by_cases hsome : site.peer.transport.isSome = true
  · rw [if_pos hsome]
    exact .inl (Account.refl _ site)
  rw [if_neg hsome]
  rcases hkey : run (loadKey login) site with ⟨fault | _, site₁⟩
  · -- The key cannot be read, and nothing else is tried.
    rw [Act.run_bind_of_error hkey]
    exact .inl ((frame_account.loadKey login).of_run hkey (Account.refl _ site))
  have hload := (frame_account.loadKey login).of_run hkey (Account.refl _ site)
  rw [Act.run_bind_of_ok hkey]
  have hsite₁ : Account NetworkCall.IsSilent site.peer
      { site₁ with peer := { site₁.peer with decision } } := ⟨hload.network_eq, hload.calls_eq⟩
  rw [Act.run_bind_of_ok (run_change _ _), Act.run_bind_of_ok (Act.run_attempt _ _), establish_eq]
  rcases hid : run (identify login decision seconds)
    { site₁ with peer := { site₁.peer with decision } } with ⟨fault | _, site₂⟩
  · -- Before the proof of identity the account was silent, and the clean-up is silent, too.
    have hsite₂ := (keeps_identify login decision seconds).of_run hid hsite₁
    rw [Act.run_bind_of_error hid]
    exact .inl (frame_account.conclude _ _ _ _ hsite₂)
  · -- The proof of identity is one call more, whatever is answered to it.
    rw [Act.run_bind_of_ok hid, run_ask_snd]
    exact .inr ⟨site₁, site₂, rfl, hid, frame_account.conclude _ _ _ _ ⟨rfl, [], by simp, by simp⟩⟩

/-- Once the host's key is read, verifying the host ends as the verification by that key. -/
theorem run_verifyHost {site : Site Ssh} (h : site.peer.network.fault? .readHostKey = none) :
    run (verifyHost login) site =
      ((verification (RecordName.ofHost login.host login.port) site).1,
        verifyingPart.set (verification (RecordName.ofHost login.host login.port) site).2
          site) := by
  unfold verifyHost
  rw [Act.run_bind_of_ok (run_meet_eq_ok_iff.2 ⟨h, rfl⟩), Act.run_bind_of_ok (run_session _),
    Act.run_within]
  rfl

/-- A host whose key cannot be read is not identified. -/
theorem fault?_readHostKey_of_run_verifyHost {site after : Site Ssh}
    (h : run (verifyHost login) site = (.ok (), after)) :
    site.peer.network.fault? .readHostKey = none := by
  obtain ⟨_, site', hmeet, -⟩ := Act.run_bind_eq_ok_iff.1 h
  exact (run_meet_eq_ok_iff.1 hmeet).1

/-- The host is identified when all steps up to its key went well and it was verified by that
key. -/
theorem run_identify_eq_ok_iff {site after : Site Ssh} :
    run (identify login decision seconds) site = (.ok (), after) ↔
      ∃ before v, run (approach login decision seconds) site = (.ok (), before) ∧
        before.peer.network.fault? .readHostKey = none ∧
        verification (RecordName.ofHost login.host login.port) before = (.ok (), v) ∧
        after = verifyingPart.set v before := by
  unfold identify
  rw [Act.run_bind_eq_ok_iff]
  constructor
  · rintro ⟨_, before, happroach, hverify⟩
    have hkey := fault?_readHostKey_of_run_verifyHost hverify
    rw [run_verifyHost hkey] at hverify
    obtain ⟨hok, rfl⟩ := Prod.mk.inj hverify
    exact ⟨before, _, happroach, hkey, Prod.ext hok rfl, rfl⟩
  · rintro ⟨before, v, happroach, hkey, hverify, rfl⟩
    refine ⟨(), before, happroach, ?_⟩
    rw [run_verifyHost hkey, hverify]

/-- A new session that is made on an unused one holds nothing. -/
theorem run_renew_idle (machine : Machine) (network : Network) :
    run renew { machine, peer := idle network } = (.ok (), { machine, peer := idle network }) := rfl

/-- The steps before the verification, one by one. -/
theorem run_encounter_eq_ok_iff {tunnel : Tunnel} {machine : Machine} {network : Network}
    {before : Site Ssh} :
    run (encounter tunnel) { machine, peer := idle network } = (.ok decision, before) ↔
      ∃ login seconds machine₁ site₁,
        run (Session.prepare tunnel) (tunnel.reportOpening machine) =
          (.ok (login, decision), machine₁) ∧
        Settings.seconds tunnel.connectTimeout = .ok seconds ∧
        run (loadKey login) { machine := machine₁, peer := idle network } = (.ok (), site₁) ∧
        run (approach login decision seconds) { site₁ with peer := { site₁.peer with decision } } =
          (.ok (), before) ∧
        before.peer.network.fault? .readHostKey = none := by
  have hreport : run (report (.opening tunnel.config.user tunnel.config.host tunnel.config.port
      tunnel.config.target)) { machine, peer := idle network } =
      (.ok (), { machine := tunnel.reportOpening machine, peer := idle network }) := rfl
  have hprepare : run (Site.onMachine (Session.prepare tunnel))
      { machine := tunnel.reportOpening machine, peer := idle network } =
      ((run (Session.prepare tunnel) (tunnel.reportOpening machine)).1,
        { machine := (run (Session.prepare tunnel) (tunnel.reportOpening machine)).2,
          peer := idle network }) := rfl
  unfold encounter
  dsimp only
  rw [Act.run_bind_of_ok hreport]
  constructor
  · -- The run is taken apart step by step, from the first to the last.
    intro h
    obtain ⟨⟨login, decision'⟩, machine₁, hlogin, h₁⟩ := Act.run_bind_eq_ok_iff.1 h
    rw [hprepare] at hlogin
    dsimp only at h₁
    obtain ⟨hlogin, hmachine⟩ := Prod.mk.inj hlogin
    rw [← hmachine, Act.run_bind_of_ok (run_renew_idle _ _)] at h₁
    obtain ⟨seconds, site', hseconds, h₂⟩ := Act.run_bind_eq_ok_iff.1 h₁
    rw [Act.run_ofExcept] at hseconds
    obtain ⟨hseconds, hsite⟩ := Prod.mk.inj hseconds
    rw [← hsite] at h₂
    obtain ⟨_, site₁, hload, h₃⟩ := Act.run_bind_eq_ok_iff.1 h₂
    rw [Act.run_bind_of_ok (run_change _ _)] at h₃
    obtain ⟨_, before', happroach, h₄⟩ := Act.run_bind_eq_ok_iff.1 h₃
    obtain ⟨_, before'', hmeet, h₅⟩ := Act.run_bind_eq_ok_iff.1 h₄
    obtain ⟨hfault, hbefore⟩ := run_meet_eq_ok_iff.1 hmeet
    obtain ⟨hdecision, hsame⟩ := Prod.mk.inj h₅
    obtain rfl := Except.ok.inj hdecision
    obtain rfl := hsame.symm.trans hbefore
    exact ⟨login, seconds, _, site₁, Prod.ext hlogin rfl, hseconds, hload, happroach, hfault⟩
  · rintro ⟨login, seconds, machine₁, site₁, hlogin, hseconds, hload, happroach, hfault⟩
    rw [hlogin] at hprepare
    rw [Act.run_bind_of_ok hprepare]
    dsimp only
    rw [Act.run_bind_of_ok (run_renew_idle _ _), hseconds,
      Act.run_bind_of_ok (Act.run_ofExcept _ _),
      Act.run_bind_of_ok hload, Act.run_bind_of_ok (run_change _ _), Act.run_bind_of_ok happroach,
      Act.run_bind_of_ok (run_meet_eq_ok_iff.2 ⟨hfault, rfl⟩)]
    rfl

/-- The host of a tunnel was found trustworthy, by the store of `pinning`, at the site `before`. -/
structure Vouched (tunnel : Tunnel) (machine : Machine) (network : Network) (pinning : Pinning)
    (before : Site Ssh) : Prop where
  /-- The trust store is at the path that the configuration or the policy names. -/
  storePath_eq : machine.place.resolve?
    (chooseStore tunnel.config.knownHostsFile tunnel.policy.defaultStore) = some pinning.storePath
  /-- The trust store is what the file there holds. -/
  store_eq : ∃ bytes, (tunnel.reportOpening machine).files.read pinning.storePath = .ok bytes ∧
    TrustStore.ofBytes (toString pinning.storePath) bytes = .ok pinning.store
  /-- All steps before the verification went well. -/
  encountered : run (encounter tunnel) { machine, peer := idle network } =
    (.ok (.enforced pinning), before)
  /-- Keys were agreed on with the host, and its own key was read. -/
  agreed : network.fault? .handshake = none ∧ (∃ seconds, .handshake seconds ∈ before.peer.calls) ∧
    network.fault? .readHostKey = none
  /-- The host was verified by that key. -/
  verified : (run
    (Verifying.verify (RecordName.ofHost tunnel.config.host tunnel.config.port) network.hostKey)
    { decision := .enforced pinning, machine := before.machine }).1 = .ok ()
  /-- The store has that key for the host, or no record of the host where new ones are accepted. -/
  known_or_new :
    (∃ entry ∈ pinning.store.entries,
      anyDenotes (RecordName.ofHost tunnel.config.host tunnel.config.port) entry.names = .ok true ∧
        entry.key.typeName = network.hostKey.typeName ∧
        entry.key.encode = network.hostKey.encode) ∨
      tunnel.policy.acceptsNewHosts = true ∧ ∀ entry ∈ pinning.store.entries,
        anyDenotes (RecordName.ofHost tunnel.config.host tunnel.config.port) entry.names = .ok false

/-- The user proved nothing so far, or he proved who he is once, right after the host was found
trustworthy. -/
def Guarded (tunnel : Tunnel) (machine : Machine) (network : Network) (peer : Ssh) : Prop :=
  (∀ call ∈ peer.calls, call.IsSilent) ∨
    ∃ pinning before rest, Vouched tunnel machine network pinning before ∧
      peer.calls = before.peer.calls ++ .authenticate tunnel.config.user :: rest ∧
      ∀ call ∈ before.peer.calls ++ rest, call.IsSilent

variable {tunnel : Tunnel} {machine : Machine} {network : Network}

/-- Steps that prove nothing about the user keep the order of things. -/
theorem Guarded.of_account {site : Site Ssh} (h : Guarded tunnel machine network s)
    (haccount : Account NetworkCall.IsSilent s site) :
    Guarded tunnel machine network site.peer := by
  obtain ⟨added, hcalls, hadded⟩ := haccount.calls_eq
  rcases h with h | ⟨pinning, before, rest, hvouched, hs, hsilent⟩
  · refine .inl fun call hcall => ?_
    rw [hcalls] at hcall
    rcases List.mem_append.1 hcall with hcall | hcall
    · exact h call hcall
    · exact hadded call hcall
  · refine .inr ⟨pinning, before, rest ++ added, hvouched, ?_, fun call hcall => ?_⟩
    · rw [hcalls, hs, List.append_assoc, List.cons_append]
    · rw [← List.append_assoc] at hcall
      rcases List.mem_append.1 hcall with hcall | hcall
      · exact hsilent call hcall
      · exact hadded call hcall

/-- A new session kept the order of things. -/
theorem guarded_idle : Guarded tunnel machine network (idle network) :=
  .inl fun _ hcall => by cases hcall

/-- The steps up to the host's key, on a network where they went well: keys were agreed on. -/
theorem agreed_of_approach {site before : Site Ssh}
    (h : run (approach login decision seconds) site = (.ok (), before)) :
    before.peer.network.fault? .handshake = none ∧ .handshake seconds ∈ before.peer.calls := by
  obtain ⟨_, site₁, -, h₁⟩ := Act.run_bind_eq_ok_iff.1 h
  rw [Act.run_bind_of_ok (run_session _)] at h₁
  obtain ⟨_, site₂, -, h₂⟩ := Act.run_bind_eq_ok_iff.1 h₁
  obtain ⟨hfault, rfl⟩ := run_ask_eq_ok_iff.1 h₂
  exact ⟨hfault, by simp⟩

/-- The decision and what is held stay fitted on the way to the host's key. -/
theorem fitted_of_encounter {before : Site Ssh}
    (h : run (encounter tunnel) { machine, peer := idle network } = (.ok decision, before)) :
    Fitted decision before ∧ Account NetworkCall.IsSilent (idle network) before := by
  obtain ⟨login, seconds, machine₁, site₁, -, -, hload, happroach, -⟩ := run_encounter_eq_ok_iff.1 h
  have hidle : Fitted .disabled { machine := machine₁, peer := idle network } :=
    .of_none rfl rfl rfl rfl
  have hfitted := (keeps_loadKey_fitted login).of_run hload hidle
  have haccount := (frame_account.loadKey login).of_run hload
    (Account.refl NetworkCall.IsSilent { machine := machine₁, peer := idle network })
  have hfitted' := (keeps_approach_fitted login decision seconds).of_run happroach
    ⟨rfl, hfitted.forward_eq, hfitted.transport_kind, hfitted.socket_kind⟩
  have haccount' := (keeps_approach login decision seconds).of_run happroach
    ⟨haccount.network_eq, haccount.calls_eq⟩
  exact ⟨hfitted', haccount'⟩

/-- The host was found trustworthy where the steps before the verification and the verification
itself went well. -/
theorem vouched_of_encounter (hverifies : tunnel.config.verifiesHost = true) {before : Site Ssh}
    {v : Verifying}
    (h : run (encounter tunnel) { machine, peer := idle network } = (.ok decision, before))
    (hverify : verification (RecordName.ofHost tunnel.config.host tunnel.config.port) before =
      (.ok (), v)) :
    ∃ pinning, Vouched tunnel machine network pinning before := by
  obtain ⟨hfitted, haccount⟩ := fitted_of_encounter h
  obtain ⟨login, seconds, machine₁, site₁, hprepare, -, -, happroach, hkey⟩ :=
    run_encounter_eq_ok_iff.1 h
  obtain ⟨-, -, -, hresolve⟩ := Session.exists_of_prepare hprepare
  obtain ⟨pinning, rfl, hpath, hload, haccepts⟩ :=
    TrustPolicy.exists_of_resolve hverifies hresolve
  obtain ⟨bytes, -, hread, hbytes, -⟩ := TrustPolicy.run_loadStore_eq_ok_iff.1 hload
  have hnetwork : before.peer.network = network := haccount.network_eq
  obtain ⟨hhandshake, hcall⟩ := agreed_of_approach happroach
  -- What is verified by is still the decision that was made before the network was touched.
  have hverified : run
      (Verifying.verify (RecordName.ofHost tunnel.config.host tunnel.config.port) network.hostKey)
      { decision := .enforced pinning, machine := before.machine } = (.ok (), v) := by
    rw [← hnetwork, ← hfitted.decision_eq]
    exact hverify
  refine ⟨pinning, ?_, ⟨bytes, hread, hbytes⟩, h, ⟨?_, ⟨seconds, hcall⟩, ?_⟩, ?_, ?_⟩
  · rw [← hpath]
    exact congrArg (Place.resolve? · _) (Machine.run_report_place _ _).symm
  · rw [← hnetwork]
    exact hhandshake
  · rw [← hnetwork]
    exact hkey
  · rw [hverified]
  · rw [← haccepts]
    rcases Verifying.known_or_new_of_verify hverified with ⟨entry, hmem, hdenotes, hsame⟩ | hnew
    · exact .inl ⟨entry, hmem, hdenotes, by rw [hsame], by rw [hsame]⟩
    · exact .inr hnew

/-- Bringing up a tunnel keeps the order of things. -/
theorem guarded_bringUp (network : Network) (hverifies : tunnel.config.verifiesHost = true)
    {machine₁ : Machine}
    (hprepare : run (Session.prepare tunnel) (tunnel.reportOpening machine) =
      (.ok (login, decision), machine₁)) :
    Guarded tunnel machine network (run (Session.bringUp .ssh tunnel login decision)
      { machine := machine₁, peer := idle network }).2.peer := by
  unfold Session.bringUp
  rcases hseconds : Settings.seconds tunnel.connectTimeout with fault | seconds
  · rw [Act.run_bind_of_error (Act.run_ofExcept _ _)]
    exact guarded_idle
  rw [Act.run_bind_of_ok (Act.run_ofExcept _ _)]
  -- Opening the session proves who the user is only after the host was identified.
  have hconnect : Guarded tunnel machine network (run (connect login decision seconds)
      { machine := machine₁, peer := idle network }).2.peer := by
    rcases account_connect login decision seconds { machine := machine₁, peer := idle network } with
      haccount | ⟨site₁, site₂, hload, hidentify, haccount⟩
    · exact guarded_idle.of_account haccount
    obtain ⟨before, v, happroach, hkey, hverify, rfl⟩ := run_identify_eq_ok_iff.1 hidentify
    have hencounter : run (encounter tunnel) { machine, peer := idle network } =
        (.ok decision, before) :=
      run_encounter_eq_ok_iff.2
        ⟨login, seconds, machine₁, site₁, hprepare, hseconds, hload, happroach, hkey⟩
    obtain ⟨hhost, hport, huser, -⟩ := Session.exists_of_prepare hprepare
    rw [hhost, hport] at hverify
    obtain ⟨pinning, hvouched⟩ := vouched_of_encounter hverifies hencounter hverify
    obtain ⟨added, hcalls, hsilent⟩ := (fitted_of_encounter hencounter).2.calls_eq
    have hguarded : Guarded tunnel machine network
        { before.peer with decision := v.decision, calls := before.peer.calls ++
          [.authenticate login.user] } := by
      refine .inr ⟨pinning, before, [], hvouched, by rw [huser], ?_⟩
      rw [List.append_nil, hcalls]
      exact hsilent
    exact hguarded.of_account haccount
  -- Forwarding a port proves nothing more.
  change Guarded tunnel machine network
    (run (connect login decision seconds >>= fun _ => openForward _) _).2.peer
  rcases hrun : run (connect login decision seconds) { machine := machine₁, peer := idle network }
    with ⟨fault | _, site⟩
  · rw [Act.run_bind_of_error hrun]
    rw [hrun] at hconnect
    exact hconnect
  · rw [Act.run_bind_of_ok hrun]
    rw [hrun] at hconnect
    exact hconnect.of_account (keeps_openForward _ _ (Account.refl _ site))

/-- However opening a tunnel ends, the order of things was kept. -/
theorem guarded_of_opening (hverifies : tunnel.config.verifiesHost = true)
    {outcome : Except Fault Unit} {tunnel' : Tunnel} {peer : Ssh}
    (h : Session.Opening .ssh tunnel { machine, peer := idle network } outcome tunnel' peer) :
    Guarded tunnel machine network peer := by
  cases h with
  | notAsked => exact guarded_idle
  | unprepared => exact guarded_idle
  | notCreated _ _ hcreated => cases hcreated
  | notBroughtUp _ hprepare hcreated hup =>
    rw [← (Prod.mk.inj ((run_renew_idle _ _).symm.trans hcreated)).2] at hup
    have hguarded := guarded_bringUp network hverifies hprepare
    rw [hup] at hguarded
    exact hguarded.of_account (keeps_disconnect _ (Account.refl _ _))
  | forwarding _ hprepare hcreated hup =>
    rw [← (Prod.mk.inj ((run_renew_idle _ _).symm.trans hcreated)).2] at hup
    have hguarded := guarded_bringUp network hverifies hprepare
    rw [hup] at hguarded
    exact hguarded

/-! ## A host that is refused -/

/-- A refusal is passed on as it is while a session is opened. -/
theorem connectError_of_isRefusal {fault : Fault} (h : fault.isRefusal = true) (login : Login)
    (seconds : Float) : connectError login seconds fault = fault := by
  cases fault <;> first | rfl | cases h

/-- A refusal is passed on as it is while a tunnel is opened. -/
theorem raisedError_of_isRefusal {fault : Fault} (h : fault.isRefusal = true) (host : String) :
    Session.raisedError host fault = fault := by
  cases fault <;> first | rfl | cases h

/-- Where the host is not accepted opening the session fails. If it is refused and closing fails in
the expected ways only, then nothing is left of the session, and the refusal is what the caller of
`connect` gets. -/
theorem run_connect_of_unverified {machine₁ : Machine} {site₁ before : Site Ssh} {v : Verifying}
    {fault : Fault}
    (hload : run (loadKey login) { machine := machine₁, peer := idle network } = (.ok (), site₁))
    (happroach : run (approach login decision seconds)
      { site₁ with peer := { site₁.peer with decision } } = (.ok (), before))
    (hkey : before.peer.network.fault? .readHostKey = none)
    (hverify : verification (RecordName.ofHost login.host login.port) before = (.error fault, v))
    (hfitted : Fitted decision before) :
    ∃ e site, run (connect login decision seconds) { machine := machine₁, peer := idle network } =
        (.error e, site) ∧
      (fault.isRefusal = true → before.peer.network.ClosesInOrder → e = fault ∧
        Fitted v.decision site ∧ site.peer.network = before.peer.network) := by
  have hidentify : run (identify login decision seconds)
      { site₁ with peer := { site₁.peer with decision } } =
      (.error fault, verifyingPart.set v before) := by
    unfold identify
    rw [Act.run_bind_of_ok happroach, run_verifyHost hkey, hverify]
  have hconnect : run (connect login decision seconds)
      { machine := machine₁, peer := idle network } =
      run (conclude login seconds (.error fault)) (verifyingPart.set v before) := by
    rw [connect_eq, Act.run_bind_of_ok (run_session _), if_neg (by simp [idle]),
      Act.run_bind_of_ok hload, Act.run_bind_of_ok (run_change _ _),
      Act.run_bind_of_ok (Act.run_attempt _ _), establish_eq, Act.run_bind_of_error hidentify]
  have hverified : Fitted v.decision (verifyingPart.set v before) :=
    ⟨rfl, hfitted.forward_eq, hfitted.transport_kind, hfitted.socket_kind⟩
  rw [hconnect]
  unfold conclude
  dsimp only
  rcases hdisconnect : run disconnect (verifyingPart.set v before) with ⟨e | _, site⟩
  · -- The clean-up fails, which it does not where closing fails in the expected ways only.
    rw [Act.run_bind_of_error hdisconnect]
    refine ⟨e, site, rfl, fun _ hclose => ?_⟩
    obtain ⟨machine, calls, h⟩ := run_disconnect_of_fitted hverified hclose
    cases hdisconnect.symm.trans h
  · rw [Act.run_bind_of_ok hdisconnect]
    refine ⟨_, site, rfl, fun hrefused hclose => ⟨connectError_of_isRefusal hrefused _ _, ?_⟩⟩
    obtain ⟨machine, calls, h⟩ := run_disconnect_of_fitted hverified hclose
    obtain ⟨-, rfl⟩ := Prod.mk.inj (hdisconnect.symm.trans h)
    exact ⟨.of_none rfl hfitted.forward_eq rfl rfl, rfl⟩

/-- Where the host is not accepted the tunnel fails, and a refusal reaches the caller if closing
fails in the expected ways only. -/
theorem opening_of_unverified {before : Site Ssh} {v : Verifying} {fault : Fault}
    {outcome : Except Fault Unit} {tunnel' : Tunnel} {peer : Ssh}
    (henabled : tunnel.config.enabled = true)
    (h : Session.Opening .ssh tunnel { machine, peer := idle network } outcome tunnel' peer)
    (hencounter : run (encounter tunnel) { machine, peer := idle network } = (.ok decision, before))
    (hverify : verification (RecordName.ofHost tunnel.config.host tunnel.config.port) before =
      (.error fault, v)) :
    tunnel' = tunnel.failed ∧
      (fault.isRefusal = true → network.ClosesInOrder → outcome = .error fault) := by
  obtain ⟨hfitted, haccount⟩ := fitted_of_encounter hencounter
  have hnetwork : before.peer.network = network := haccount.network_eq
  obtain ⟨login, seconds, machine₁, site₁, hprepare, hseconds, hload, happroach, hkey⟩ :=
    run_encounter_eq_ok_iff.1 hencounter
  obtain ⟨hhost, hport, -, -⟩ := Session.exists_of_prepare hprepare
  rw [← hhost, ← hport] at hverify
  obtain ⟨e, site₂, hconnect, he⟩ := run_connect_of_unverified hload happroach hkey hverify hfitted
  rw [hnetwork] at he
  -- The transport fails to come up, so of the ways of opening only one is left.
  have hbringUp : run (Session.bringUp .ssh tunnel login decision)
      { machine := machine₁, peer := idle network } = (.error e, site₂) := by
    unfold Session.bringUp
    rw [hseconds, Act.run_bind_of_ok (Act.run_ofExcept _ _)]
    exact Act.run_bind_of_error hconnect
  cases h with
  | notAsked hnot =>
    rw [henabled] at hnot
    cases hnot
  | unprepared _ hprepare' => cases hprepare.symm.trans hprepare'
  | notCreated _ _ hcreated => cases hcreated
  | notBroughtUp _ hprepare' hcreated hup =>
    obtain ⟨hsame, rfl⟩ := Prod.mk.inj (hprepare.symm.trans hprepare')
    obtain ⟨rfl, rfl⟩ := Prod.mk.inj (Except.ok.inj hsame)
    rw [← (Prod.mk.inj ((run_renew_idle _ _).symm.trans hcreated)).2] at hup
    obtain ⟨hfault, rfl⟩ := Prod.mk.inj (hbringUp.symm.trans hup)
    obtain rfl := Except.error.inj hfault
    refine ⟨rfl, fun hrefused hclose => ?_⟩
    obtain ⟨rfl, hfitted₂, hnetwork₂⟩ := he hrefused hclose
    obtain ⟨machine₃, calls, hdisconnect⟩ := run_disconnect_of_fitted hfitted₂
      (by rw [hnetwork₂]; exact hclose)
    change Except.error (Session.failure _ _ (Session.passedOn (run disconnect site₂).1)) = _
    rw [hdisconnect]
    exact congrArg Except.error (raisedError_of_isRefusal hrefused _)
  | forwarding _ hprepare' hcreated hup =>
    obtain ⟨hsame, rfl⟩ := Prod.mk.inj (hprepare.symm.trans hprepare')
    obtain ⟨rfl, rfl⟩ := Prod.mk.inj (Except.ok.inj hsame)
    rw [← (Prod.mk.inj ((run_renew_idle _ _).symm.trans hcreated)).2] at hup
    cases hbringUp.symm.trans hup

end Ssh

/-- The user that a call proves its maker to be. -/
def NetworkCall.user? : NetworkCall → Option String
  | .authenticate user => some user
  | _ => none

namespace Session

open Ssh (encounter Vouched)

/-- In the whole life of a tunnel the order of things is kept. -/
theorem guarded_life (settings : Settings) (choices : Tunnel.Choices) (config : Config)
    (machine : Machine) (network : Network) (uses : List Use)
    (hverifies : config.verifiesHost = true) :
    let asked := fresh settings choices (some config) { machine, peer := Ssh.idle network }
    Ssh.Guarded asked.tunnel machine network (life .ssh asked uses).site.peer := by
  intro asked
  refine life_tunnel_induction (I := fun _ peer => Ssh.Guarded asked.tunnel machine network peer)
    (fun _ _ _ h => Ssh.guarded_of_opening hverifies h) (fun t _ _ h => ?_) uses
  exact h.of_account (Ssh.keeps_disconnect _ (Ssh.Account.refl _ t.site))

/-- No proof of identity before trust, for every tunnel that is asked for with its host to be
verified, on every machine and network and whatever is done with the tunnel later. If the user ever
proves who he is, this happens once and right after the host was found trustworthy. If the host is
not accepted the user proves nothing and the tunnel stays failed; a refusal for want of trust
reaches the caller as it is, provided that closing fails in the expected ways only. -/
theorem authenticate_after_trust (settings : Settings) (choices : Tunnel.Choices) (config : Config)
    (machine : Machine) (network : Network) (uses : List Use) (henabled : config.enabled = true)
    (hverifies : config.verifiesHost = true) :
    let asked := fresh settings choices (some config) { machine, peer := Ssh.idle network }
    let s := life .ssh asked uses
    (∀ user, .authenticate user ∈ s.site.peer.calls →
        ∃ pinning before rest, Vouched asked.tunnel machine network pinning before ∧
          s.site.peer.calls = before.peer.calls ++ .authenticate config.user :: rest ∧
          ∀ user, .authenticate user ∉ before.peer.calls ++ rest) ∧
      ∀ decision before fault v,
        run (encounter asked.tunnel) asked.site = (.ok decision, before) →
        run (Verifying.verify (RecordName.ofHost config.host config.port) network.hostKey)
          { decision, machine := before.machine } = (.error fault, v) →
        (∀ user, .authenticate user ∉ s.site.peer.calls) ∧ s.tunnel.phase = .failed ∧
          (fault.reason?.map Reason.family = some .trust → network.ClosesInOrder →
            (run (start .ssh) asked).1 = .error fault) := by
  intro asked s
  have hsilent {calls : List NetworkCall} (h : ∀ call ∈ calls, call.IsSilent) (user : String) :
      .authenticate user ∉ calls := fun hmem => h _ hmem
  have htrust (user : String) (huser : .authenticate user ∈ s.site.peer.calls) :
      ∃ pinning before rest, Vouched asked.tunnel machine network pinning before ∧
        s.site.peer.calls = before.peer.calls ++ .authenticate config.user :: rest ∧
        ∀ user, .authenticate user ∉ before.peer.calls ++ rest := by
    rcases guarded_life settings choices config machine network uses hverifies with
      h | ⟨pinning, before, rest, hvouched, hcalls, hrest⟩
    · exact absurd huser (hsilent h user)
    · exact ⟨pinning, before, rest, hvouched, hcalls, hsilent hrest⟩
  refine ⟨htrust, fun decision before fault v hencounter hverify => ?_⟩
  -- The steps before the verification fix the decision and the network that it meets.
  obtain ⟨hfitted, haccount⟩ := Ssh.fitted_of_encounter hencounter
  have hnetwork : before.peer.network = network := haccount.network_eq
  have hverification : Ssh.verification
      (RecordName.ofHost asked.tunnel.config.host asked.tunnel.config.port) before =
      (.error fault, v) := by
    unfold Ssh.verification Ssh.verifyingPart
    dsimp only
    rw [hnetwork, hfitted.decision_eq]
    exact hverify
  obtain ⟨htunnel, houtcome⟩ := Ssh.opening_of_unverified henabled (opening_start .ssh asked)
    hencounter hverification
  have hnone : (run (start .ssh) asked).2.tunnel.heldPort = none := by rw [htunnel]; rfl
  refine ⟨fun user huser => ?_, ?_, fun hfamily hclose => houtcome ?_ hclose⟩
  · -- A proof of identity would mean that the same verification went well.
    obtain ⟨pinning, before', _, hvouched, -⟩ := htrust user huser
    obtain ⟨hdecision, rfl⟩ := Prod.mk.inj (hencounter.symm.trans hvouched.encountered)
    obtain rfl := Except.ok.inj hdecision
    cases (congrArg Prod.fst hverify).symm.trans hvouched.verified
  · rw [show s.tunnel = _ from (afterUses_of_none .ssh hnone uses).1, htunnel]
    rfl
  · obtain ⟨reason, hreason, -⟩ := Option.map_eq_some_iff.1 hfamily
    simp [Fault.isRefusal, hreason]

/-- A tunnel through the host `gate`, which the trust store at `/known` knows nothing about. -/
def trialConfig : Config :=
  { host := "gate", port := 22, user := "deploy", keyFile := "/key",
    knownHostsFile := some "/known",
    verifiesHost := true, targetHost := "db", targetPort := 5432, passphrase := .null,
    enabled := true }

/-- A machine with an empty trust store. -/
def trialMachine : Machine :=
  { place := { home := "/", current := "/" },
    files :=
      { entries := [([['k', 'e', 'y']], .file []), ([['k', 'n', 'o', 'w', 'n']], .file [])] },
    salts := [], clock := "", log := [], console := none, consoleLines := [], logFile := none }

/-- As many bytes as an Ed25519 key has. -/
theorem length_zeros : (List.replicate 32 (UInt8.ofNat 0)).length = 32 := rfl

/-- A network on which nothing fails. -/
def trialNetwork : Network :=
  { fault? := fun _ => none, keyTypes := [],
    hostKey := .ed25519 (List.replicate 32 (.ofNat 0)) length_zeros, isAuthenticated := true,
    isActive := true, localPort := 4000 }

/-- The choices to accept new hosts, or not to. -/
def trialChoices (acceptsNewHosts : Bool) : Tunnel.Choices :=
  { Tunnel.Choices.none with policy := some { defaultStore := "/known", acceptsNewHosts } }

/-- The tunnel of the trial before it is opened. -/
def trial (acceptsNewHosts : Bool) : Session Ssh :=
  fresh .default (trialChoices acceptsNewHosts) (some trialConfig)
    { machine := trialMachine, peer := Ssh.idle trialNetwork }

/-- An unknown host is accepted before the user proves who he is, or refused. -/
theorem authenticate_after_trust_trial :
    (∃ pinning before rest, Vouched (trial true).tunnel trialMachine trialNetwork pinning before ∧
      (life .ssh (trial true) []).site.peer.calls =
        before.peer.calls ++ .authenticate "deploy" :: rest) ∧
    (life .ssh (trial false) []).tunnel.phase = .failed ∧
      ∃ fault, (run (start .ssh) (trial false)).1 = .error fault ∧
        fault.reason?.map Reason.family = some .trust := by
  constructor
  · obtain ⟨hproof, -⟩ := authenticate_after_trust .default (trialChoices true) trialConfig
      trialMachine trialNetwork [] rfl rfl
    have hcall : (life .ssh (trial true) []).site.peer.calls.findSome? NetworkCall.user? =
        some "deploy" := by decide +kernel
    obtain ⟨call, hmem, hcall⟩ := List.exists_of_findSome?_eq_some hcall
    cases call with
    | authenticate user =>
      obtain ⟨pinning, before, rest, hvouched, hcalls, -⟩ := hproof user hmem
      exact ⟨pinning, before, rest, hvouched, hcalls⟩
    | _ => cases hcall
  · obtain ⟨-, hrefused⟩ := authenticate_after_trust .default (trialChoices false) trialConfig
      trialMachine trialNetwork [] rfl rfl
    have hencounter : (encounter (trial false).tunnel).fault? (trial false).site = none := by
      decide +kernel
    have hfamily : (((Verifying.verify "gate" trialNetwork.hostKey).fault?
        (Ssh.verifyingPart.get (run (encounter (trial false).tunnel) (trial false).site).2)).bind
          Fault.reason?).map Reason.family = some .trust := by decide +kernel
    obtain ⟨decision, hencounter⟩ := Act.exists_of_fault?_eq_none hencounter
    generalize (run (encounter (trial false).tunnel) (trial false).site).2 = before at *
    obtain ⟨reason, hreason, htrust⟩ := Option.map_eq_some_iff.1 hfamily
    obtain ⟨fault, hfault, hreason⟩ := Option.bind_eq_some_iff.1 hreason
    have hverify := Act.run_of_fault?_eq_some hfault
    rw [show Ssh.verifyingPart.get before =
      { decision := before.peer.decision, machine := before.machine } from rfl,
      (Ssh.fitted_of_encounter hencounter).1.decision_eq] at hverify
    have hfamily : fault.reason?.map Reason.family = some .trust := by rw [hreason, ← htrust]; rfl
    obtain ⟨-, hphase, hreach⟩ := hrefused decision before fault _ hencounter hverify
    have hcloses : trialNetwork.ClosesInOrder := ⟨by simp [trialNetwork], by simp [trialNetwork]⟩
    exact ⟨hphase, fault, hreach hfamily hcloses, hfamily⟩

end Session

end SecureForward
