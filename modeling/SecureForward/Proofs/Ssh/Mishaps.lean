import SecureForward.Proofs.Ssh.Lifecycle

/-!
# What a caller is told of a session that is not opened

Opening a session reads the private key first, then it goes through steps each of which may fail.
`keyMishap?` and `mishap?` say with what, without running anything, and `connect_classified` says
what becomes of it: where the session can be given back, a refusal that names the class of the fault
and keeps it as the cause, or the fault itself if it belongs to none of these classes.

`fault?_establish` puts the faults of the steps in their order. A session stays `Bare` while it is
opened: it has no forward, and holds what it should, so that giving it back replaces no fault by
another (`run_conclude_fst`).
-/

namespace SecureForward

open Act (run)

namespace Fault

/-- A fault is told as a refusal of this family and kind, and is the cause of it. -/
structure IsToldAs (e told : Fault) (family : Family) (kind : String) : Prop where
  /-- The family and the kind are these. -/
  label : told.label? = some (family, kind)
  /-- The fault is the cause. -/
  cause : told.cause? = some e

/-- What a caller is told if a step of opening a session fails. -/
structure Classified (e told : Fault) : Prop where
  /-- The user is not let in. -/
  authentication : e.isAuthentication = true → e.IsToldAs told .connection "authentication"
  /-- The protocol fails in another way. -/
  handshake : e.isSsh = true → e.isAuthentication = false → e.IsToldAs told .connection "handshake"
  /-- The system gives up waiting. -/
  timeout : e.isTimeout = true → e.IsToldAs told .connection "timeout"
  /-- The system refuses something else. -/
  network : e.isSystem = true → e.isTimeout = false → e.IsToldAs told .connection "network"
  /-- Every other fault stays what it is. -/
  other : e.isSsh = false → e.isSystem = false → told = e

/-- A fault of reading a private key is one of those that are handled. -/
def IsKeyFault (e : Fault) : Prop :=
  e.isSystem = true ∨ e.isValue = true ∨ e.isUnknownKeyType = true ∨ e.isSsh = true

/-- What a caller is told if the private key cannot be read. -/
structure KeyClassified (e told : Fault) : Prop where
  /-- The key is wrong. -/
  handled : e.IsKeyFault → e.IsToldAs told .configuration "private-key-invalid"
  /-- Every other fault stays what it is. -/
  other : ¬e.IsKeyFault → told = e

/-- Giving up waiting is one of the things that the system does. -/
theorem isSystem_of_isTimeout {e : Fault} (h : e.isTimeout = true) : e.isSystem = true := by
  unfold isTimeout at h
  split at h
  · rfl
  · cases h

/-- Not being let in is one of the ways in which the protocol fails. -/
theorem isSsh_of_isAuthentication {e : Fault} (h : e.isAuthentication = true) : e.isSsh = true := by
  unfold isSsh
  split
  · rfl
  · rfl
  · rfl
  · rfl
  · rfl
  · exact h

/-- No fault is of the system and of the protocol at once. -/
theorem isSsh_eq_false {e : Fault} (h : e.isSystem = true) : e.isSsh = false := by
  unfold isSystem at h
  split at h
  · rfl
  · rfl
  · rfl
  · cases h

/-- A fault that is not of the protocol is not about letting the user in. -/
theorem isAuthentication_eq_false {e : Fault} (h : e.isSsh = false) :
    e.isAuthentication = false := by
  cases hlet : e.isAuthentication with
  | false => rfl
  | true =>
    rw [isSsh_of_isAuthentication hlet] at h
    cases h

end Fault

/-- The call reads a private key. -/
def NetworkCall.ReadsKey (call : NetworkCall) : Prop :=
  ∃ path passphrase, call = .loadKey path passphrase

namespace Ssh

variable {site : Site Ssh} {held : Decision} {login : Login} {decision : Decision} {seconds : Float}

/-! ## The order of the faults -/

/-- The fault of reading the private key: of the passphrase, or of the file. -/
def keyMishap? (login : Login) (network : Network) : Option Fault :=
  match passphraseBytes login.passphrase with
  | .error e => some e
  | .ok _ => network.fault? .loadKey

/-- The fault of the first of the steps behind the private key that fails. -/
def mishap? (login : Login) (decision : Decision) (site : Site Ssh) : Option Fault :=
  let network := site.peer.network
  let hostId := RecordName.ofHost login.host login.port
  (network.fault? .dial).or <| (network.fault? .makeTransport).or <|
    (network.fault? .offerKeyTypes).or <| (network.fault? .handshake).or <|
    (network.fault? .readHostKey).or <|
    ((Verifying.verify hostId network.hostKey).fault? { decision, machine := site.machine }).or <|
    network.fault? .authenticate

/-- Verifying the host fails if its key cannot be read, or as the verification by that key. -/
theorem fault?_verifyHost (login : Login) (site : Site Ssh) :
    (verifyHost login).fault? site =
      (site.peer.network.fault? .readHostKey).or
        ((Verifying.verify (RecordName.ofHost login.host login.port)
          site.peer.network.hostKey).fault? (verifyingPart.get site)) := by
  unfold verifyHost
  rw [← fault?_meet .readHostKey site]
  refine Act.fault?_bind fun _ after h => ?_
  obtain ⟨-, rfl⟩ := run_meet_eq_ok_iff.1 h
  rw [Act.fault?_bind_of_ok (run_session _)]
  unfold Act.fault?
  rw [Act.run_within]

/-- The network stays the same while the host is verified. -/
theorem network_of_run_verifyHost {after : Site Ssh}
    (h : run (verifyHost login) site = (.ok (), after)) :
    after.peer.network = site.peer.network := by
  rw [run_verifyHost (fault?_readHostKey_of_run_verifyHost h)] at h
  rw [← (Prod.mk.inj h).2]
  rfl

/-- The steps of opening a session fail as the first of them that does. -/
theorem fault?_establish (passphrase : Option Text.Utf8.Bytes) :
    (establish login decision seconds).fault?
      { site with peer := site.peer.prepared login decision passphrase } =
      mishap? login decision site := by
  unfold establish openTransport
  simp only [bind_assoc, fault?_ask_bind, Act.fault?_bind_of_ok (run_openResource _ _),
    Act.fault?_bind_of_ok (run_change _ _), Act.fault?_bind_of_ok (run_session _)]
  -- Verifying the host is no single operation: it may change the decision, but not the network.
  rw [Act.fault?_bind fun _ after h => ?_, fault?_verifyHost, Option.or_assoc]
  · rfl
  · rw [fault?_ask, network_of_run_verifyHost h]
    rfl

/-! ## Giving up -/

/-- A session on a network has no forward, and what it holds is what it should be. -/
def Bare (network : Network) (site : Site Ssh) : Prop :=
  (∃ held, Fitted held site) ∧ site.peer.network = network

/-- Asking the network for something leaves a session bare. -/
theorem keeps_ask_bare {network : Network} (call : NetworkCall) (operation : Operation) :
    (ask call operation).Keeps (Bare network) := by
  rintro site ⟨⟨held, hfitted⟩, hnetwork⟩
  refine ⟨⟨held, keeps_ask_fitted call operation site hfitted⟩, ?_⟩
  rw [run_ask_snd]
  exact hnetwork

/-- The steps up to the host's key leave a session bare. -/
theorem keeps_approach_bare {network : Network} :
    (approach login decision seconds).Keeps (Bare network) := by
  rintro site ⟨⟨held, hfitted⟩, hnetwork⟩
  refine ⟨⟨held, keeps_approach_fitted login decision seconds site hfitted⟩, ?_⟩
  have haccount := keeps_approach login decision seconds site (Account.refl _ site)
  exact haccount.network_eq.trans hnetwork

/-- Verifying the host leaves a session bare. -/
theorem keeps_verifyHost_bare {network : Network} : (verifyHost login).Keeps (Bare network) := by
  refine (keeps_meet _).bind fun _ => keeps_session.bind fun t => .within fun site h => ?_
  obtain ⟨⟨held, hfitted⟩, hnetwork⟩ := h
  exact ⟨⟨_, rfl, hfitted.forward_eq, hfitted.transport_kind, hfitted.socket_kind⟩, hnetwork⟩

/-- Whichever step of opening a session fails, the session stays bare. -/
theorem keeps_establish_bare {network : Network} :
    (establish login decision seconds).Keeps (Bare network) := by
  rw [establish_eq]
  exact (keeps_approach_bare.bind fun _ => keeps_verifyHost_bare).bind fun _ =>
    keeps_ask_bare _ _

/-- What a caller is told once the steps of opening a session ended somehow. -/
theorem run_conclude_fst {network : Network} (h : Bare network site)
    (hclose : network.ClosesInOrder) (outcome : Except Fault Unit) :
    (run (conclude login seconds outcome) site).1 =
      match outcome with
      | .error e => .error (connectError login seconds e)
      | .ok () =>
        if network.isAuthenticated then .ok ()
        else .error (.refusal (.authenticationIncomplete login.user login.endpoint)) := by
  obtain ⟨⟨held, hfitted⟩, rfl⟩ := h
  obtain ⟨machine, calls, hdisconnect⟩ := run_disconnect_of_fitted hfitted hclose
  unfold conclude
  cases outcome with
  | error e =>
    dsimp only
    rw [Act.run_bind_of_ok hdisconnect]
    rfl
  | ok =>
    dsimp only
    rw [Act.run_bind_of_ok (run_session _)]
    cases site.peer.network.isAuthenticated with
    | true => rfl
    | false =>
      simp only [Bool.not_false, if_true]
      rw [Act.run_bind_of_ok hdisconnect]
      rfl

/-! ## The classes -/

/-- The fault of a step of opening a session is told by its class. -/
theorem classified_connectError (login : Login) (seconds : Float) (e : Fault) :
    e.Classified (connectError login seconds e) := by
  have hsystem (h : e.isSystem = true) : e.isSsh = false ∧ e.isAuthentication = false :=
    ⟨Fault.isSsh_eq_false h, Fault.isAuthentication_eq_false (Fault.isSsh_eq_false h)⟩
  unfold connectError
  constructor
  · intro h
    rw [if_pos h]
    exact ⟨rfl, rfl⟩
  · intro h hlet
    rw [if_neg (by simp [hlet]), if_pos h]
    exact ⟨rfl, rfl⟩
  · intro h
    obtain ⟨hssh, hlet⟩ := hsystem (Fault.isSystem_of_isTimeout h)
    rw [if_neg (by simp [hlet]), if_neg (by simp [hssh]), if_pos h]
    exact ⟨rfl, rfl⟩
  · intro h htimeout
    obtain ⟨hssh, hlet⟩ := hsystem h
    rw [if_neg (by simp [hlet]), if_neg (by simp [hssh]), if_neg (by simp [htimeout]), if_pos h]
    exact ⟨rfl, rfl⟩
  · intro hssh h
    have htimeout : e.isTimeout = false := by
      cases htimeout : e.isTimeout with
      | false => rfl
      | true =>
        rw [Fault.isSystem_of_isTimeout htimeout] at h
        cases h
    rw [if_neg (by simp [Fault.isAuthentication_eq_false hssh]), if_neg (by simp [hssh]),
      if_neg (by simp [htimeout]), if_neg (by simp [h])]

/-- The fault of reading the private key is told by its class. -/
theorem keyClassified_keyError (path : String) (e : Fault) : e.KeyClassified (keyError path e) := by
  unfold keyError
  by_cases hpassphrase : e.isPassphraseRequired = true
  · rw [if_pos hpassphrase]
    refine ⟨fun _ => ⟨rfl, rfl⟩, fun hnot => absurd (.inr (.inr (.inr ?_))) hnot⟩
    unfold Fault.isPassphraseRequired at hpassphrase
    split at hpassphrase
    · rfl
    · cases hpassphrase
  rw [if_neg hpassphrase]
  have hclass :
      (e.isSystem || e.isValue || e.isUnknownKeyType || e.isSsh) = true ↔ e.IsKeyFault := by
    simp [Fault.IsKeyFault, or_assoc]
  by_cases hhandled : e.IsKeyFault
  · rw [if_pos (hclass.2 hhandled)]
    exact ⟨fun _ => ⟨rfl, rfl⟩, fun hnot => absurd hhandled hnot⟩
  · rw [if_neg fun h => hhandled (hclass.1 h)]
    exact ⟨fun h => absurd h hhandled, fun _ => rfl⟩

/-- A passphrase without bytes is told as such. -/
theorem keyClassified_of_passphraseBytes {passphrase : Value} {e : Fault}
    (h : passphraseBytes passphrase = .error e) : e.KeyClassified e := by
  refine ⟨fun hkey => ?_, fun _ => rfl⟩
  unfold passphraseBytes at h
  split at h
  · cases h
  split at h
  · cases h
  · obtain rfl := Except.error.inj h
    rcases hkey with hkey | hkey | hkey | hkey <;> cases hkey

/-- Where the private key cannot be read, a caller is told this by its class, and nothing was done
but to read it. -/
theorem run_loadKey_of_keyMishap? {e : Fault} (h : keyMishap? login site.peer.network = some e) :
    ∃ told added, e.KeyClassified told ∧ (∀ call ∈ added, NetworkCall.ReadsKey call) ∧
      run (loadKey login) site = (.error told, { site with peer :=
        { site.peer with calls := site.peer.calls ++ added } }) := by
  unfold keyMishap? at h
  unfold loadKey
  cases hpassphrase : passphraseBytes login.passphrase with
  | error e' =>
    rw [hpassphrase] at h
    obtain rfl := Option.some.inj h
    refine ⟨e', [], keyClassified_of_passphraseBytes hpassphrase, by simp, ?_⟩
    rw [Act.run_bind_of_error (Act.run_ofExcept _ _), List.append_nil]
  | ok passphrase =>
    rw [hpassphrase] at h
    have hask : run (ask (.loadKey login.keyFile passphrase) .loadKey) site = (.error e, _) :=
      Act.run_of_fault?_eq_some ((fault?_ask _ _ _).trans h)
    rw [run_ask_snd] at hask
    refine ⟨keyError login.keyFile e, [.loadKey login.keyFile passphrase],
      keyClassified_keyError login.keyFile e, ?_, ?_⟩
    · simp [NetworkCall.ReadsKey]
    · rw [Act.run_bind_of_ok (Act.run_ofExcept _ _), Act.run_bind_of_ok (Act.run_attempt _ _), hask]
      rfl

/-- Where the private key can be read, there is a passphrase for it or none is needed. -/
theorem of_keyMishap?_eq_none {network : Network} (h : keyMishap? login network = none) :
    (∃ passphrase, passphraseBytes login.passphrase = .ok passphrase) ∧
      network.fault? .loadKey = none := by
  unfold keyMishap? at h
  cases hpassphrase : passphraseBytes login.passphrase with
  | error e =>
    rw [hpassphrase] at h
    cases h
  | ok passphrase =>
    rw [hpassphrase] at h
    exact ⟨⟨passphrase, rfl⟩, h⟩

/-- How opening a session ends where there is none, the network closes in order, and no forward was
left. If the private key cannot be read, a caller is told this by the class of the fault, and
nothing else was done; a fault that is handled is a wrong configuration. If a step behind it fails,
the caller is told this by the class of the fault, too. If no step fails, the session is opened,
unless the host did not let the user in. -/
theorem connect_classified (htransport : site.peer.transport = none) (hbare : Fitted held site)
    (hclose : site.peer.network.ClosesInOrder) (login : Login) (decision : Decision)
    (seconds : Float) :
    let network := site.peer.network
    let ended := run (connect login decision seconds) site
    (∀ e, keyMishap? login network = some e →
      ∃ told added, ended.1 = .error told ∧ e.KeyClassified told ∧
        ended.2 = { site with peer := { site.peer with calls := site.peer.calls ++ added } } ∧
        ∀ call ∈ added, call.ReadsKey) ∧
      (keyMishap? login network = none →
        (∀ e, mishap? login decision site = some e →
          ∃ told, ended.1 = .error told ∧ e.Classified told) ∧
        (mishap? login decision site = none →
          (network.isAuthenticated = false → ∃ told, ended.1 = .error told ∧
            told.label? = some (.connection, "authentication") ∧ told.cause? = none) ∧
          (network.isAuthenticated = true → ended.1 = .ok ()))) := by
  intro network ended
  constructor
  · intro e hkey
    obtain ⟨told, added, htold, hadded, hload⟩ := run_loadKey_of_keyMishap? hkey
    have hended : ended = (.error told,
        { site with peer := { site.peer with calls := site.peer.calls ++ added } }) := by
      change run (connect login decision seconds) site = _
      rw [connect_eq, Act.run_bind_of_ok (run_session _), if_neg (by simp [htransport]),
        Act.run_bind_of_error hload]
    rw [hended]
    exact ⟨told, added, rfl, htold, rfl, hadded⟩
  · intro hkey
    obtain ⟨⟨passphrase, hpassphrase⟩, hfile⟩ := of_keyMishap?_eq_none hkey
    -- The steps run on the session with the key read, and what they end with is told by `conclude`.
    have hprepared :
        Bare network { site with peer := site.peer.prepared login decision passphrase } :=
      ⟨⟨decision, rfl, hbare.forward_eq, hbare.transport_kind, hbare.socket_kind⟩, rfl⟩
    have hestablished := @keeps_establish_bare login decision seconds network _ hprepared
    have hsteps := @fault?_establish site login decision seconds passphrase
    have hended : ended.1 = _ :=
      (congrArg Prod.fst (run_connect_of_loadKey htransport hpassphrase hfile)).trans
        (run_conclude_fst hestablished hclose _)
    rw [hended]
    constructor
    · intro e he
      rw [Act.run_of_fault?_eq_some (hsteps.trans he)]
      exact ⟨_, rfl, classified_connectError login seconds e⟩
    · intro hnone
      obtain ⟨_, hok⟩ := Act.exists_of_fault?_eq_none (hsteps.trans hnone)
      rw [hok]
      constructor
      · intro hnot
        simp only [hnot, Bool.false_eq_true, if_false]
        exact ⟨_, rfl, rfl, rfl⟩
      · intro hadmitted
        simp only [hadmitted, if_true]

/-- Keys that cannot be agreed on are told as a handshake that failed. -/
theorem connect_classified_trial :
    let site : Site Ssh := { machine := Session.trialMachine, peer := idle brokenNetwork }
    site.peer.transport = none ∧ Fitted .disabled site ∧ site.peer.network.ClosesInOrder ∧
      mishap? trialLogin .disabled site = some (.outside .ssh "handshake") ∧
      ∃ told, (run (connect trialLogin .disabled 3.0) site).1 = .error told ∧
        told.label? = some (.connection, "handshake") ∧
        told.cause? = some (.outside .ssh "handshake") := by
  intro site
  have hfitted : Fitted .disabled site := .of_none rfl rfl rfl rfl
  have hclose : site.peer.network.ClosesInOrder :=
    ⟨closesAllInOrder_trial.transport, closesAllInOrder_trial.socket⟩
  have hmishap : mishap? trialLogin .disabled site = some (.outside .ssh "handshake") := by rfl
  obtain ⟨-, hsteps⟩ := connect_classified rfl hfitted hclose trialLogin .disabled 3.0
  obtain ⟨told, hended, htold⟩ := (hsteps rfl).1 _ hmishap
  obtain ⟨hlabel, hcause⟩ := htold.handshake rfl rfl
  exact ⟨rfl, hfitted, hclose, hmishap, told, hended, hlabel, hcause⟩

end Ssh

end SecureForward
