import SecureForward.Proofs.Ssh.Trust

/-!
# When a session is opened

Opening a session returns exactly where the network admits the user: no step fails, the host is
verified, and it lets the user in (`admits_of_run_connect`, `run_connect_of_admits`). Then the
session holds a new socket and a new protocol session on it, and the account ends with the proof of
identity.

Each part of opening a session has a lemma that gives the conditions under which it returns and the
state that it ends in. The steps up to the host's key are asked for one by one, and
`run_ask_bind_eq_ok_iff` turns each of them into a condition.
-/

namespace SecureForward

open Act (run)

/-- The operations that open a session. -/
def Operation.opensSession : Operation → Bool
  | .loadKey | .dial | .makeTransport | .offerKeyTypes | .handshake | .readHostKey
  | .authenticate => true
  | _ => false

/-- A session can be opened on the network: no step fails, the host is verified on this machine, and
it lets the user in. -/
structure Network.Admits (network : Network) (login : Login) (decision : Decision)
    (machine : Machine) : Prop where
  /-- The passphrase, if one is given, has bytes. -/
  passphrase : ∃ passphrase, Ssh.passphraseBytes login.passphrase = .ok passphrase
  /-- No step fails. -/
  steps : ∀ operation : Operation, operation.opensSession = true → network.fault? operation = none
  /-- The host is verified by its key. -/
  verified : (run (Verifying.verify (RecordName.ofHost login.host login.port) network.hostKey)
    { decision, machine }).1 = .ok ()
  /-- The host lets the user in. -/
  accepted : network.isAuthenticated = true

namespace Ssh

variable {site after : Site Ssh} {login : Login} {decision : Decision} {seconds : Float} {α : Type}

/-! ## Steps of a run that returns -/

/-- A run that goes on after an operation returns exactly if the operation does not fail and the
rest returns. -/
theorem run_ask_bind_eq_ok_iff {call : NetworkCall} {operation : Operation} {next : Unit → Task α}
    {a : α} :
    run (ask call operation >>= next) site = (.ok a, after) ↔
      site.peer.network.fault? operation = none ∧
        run (next ()) { site with peer := { site.peer with calls := site.peer.calls ++ [call] } } =
          (.ok a, after) := by
  rw [Act.run_bind_eq_ok_iff]
  constructor
  · rintro ⟨_, site', hask, hnext⟩
    obtain ⟨hfault, rfl⟩ := run_ask_eq_ok_iff.1 hask
    exact ⟨hfault, hnext⟩
  · rintro ⟨hfault, hnext⟩
    exact ⟨(), _, run_ask_eq_ok_iff.2 ⟨hfault, rfl⟩, hnext⟩

/-- A new resource has the next number. -/
theorem run_openResource (kind : ResourceKind) (site : Site Ssh) :
    run (openResource kind) site =
      (.ok { kind, number := site.peer.opened }, { site with peer :=
        { site.peer with
          opened := site.peer.opened + 1
          calls := site.peer.calls ++ [.opened { kind, number := site.peer.opened }] } }) := rfl

/-! ## The way to the host's key -/

/-- The session once a socket and a protocol session on it were opened and keys were agreed on. -/
def approached (s : Ssh) (login : Login) (decision : Decision) (seconds : Float) : Ssh :=
  { s with
    calls := s.calls ++ [.dial login.host login.port seconds, .opened ⟨.socket, s.opened⟩,
      .makeTransport, .opened ⟨.transport, s.opened + 1⟩,
      .offerKeyTypes (decision.orderTypes s.network.keyTypes), .handshake seconds]
    opened := s.opened + 2
    socket := some ⟨.socket, s.opened⟩
    transport := some ⟨.transport, s.opened + 1⟩ }

/-- The steps up to the host's key return exactly if none of them fails. -/
theorem run_approach_eq_ok_iff :
    run (approach login decision seconds) site = (.ok (), after) ↔
      (site.peer.network.fault? .dial = none ∧ site.peer.network.fault? .makeTransport = none ∧
        site.peer.network.fault? .offerKeyTypes = none ∧
        site.peer.network.fault? .handshake = none) ∧
      after = { site with peer := site.peer.approached login decision seconds } := by
  unfold approach openTransport
  simp only [bind_assoc, run_ask_bind_eq_ok_iff, run_ask_eq_ok_iff,
    Act.run_bind_of_ok (run_openResource _ _), Act.run_bind_of_ok (run_change _ _),
    Act.run_bind_of_ok (run_session _)]
  simp only [and_assoc, List.append_assoc]
  exact Iff.rfl

/-! ## The host and the user -/

/-- The session once the user proved who he is. -/
def introduced (s : Ssh) (login : Login) (decision : Decision) (seconds : Float)
    (decided : Decision) : Ssh :=
  let t := s.approached login decision seconds
  { t with calls := t.calls ++ [.authenticate login.user], decision := decided }

/-- All steps of opening a session return exactly if none of them fails and the host is verified by
the decision of the session. -/
theorem run_establish_eq_ok_iff :
    run (establish login decision seconds) site = (.ok (), after) ↔
      ((site.peer.network.fault? .dial = none ∧ site.peer.network.fault? .makeTransport = none ∧
        site.peer.network.fault? .offerKeyTypes = none ∧
        site.peer.network.fault? .handshake = none) ∧
        site.peer.network.fault? .readHostKey = none ∧
        site.peer.network.fault? .authenticate = none) ∧
      ∃ v, verification (RecordName.ofHost login.host login.port) site = (.ok (), v) ∧
        after = { machine := v.machine
                  peer := site.peer.introduced login decision seconds v.decision } := by
  rw [establish_eq, Act.run_bind_eq_ok_iff]
  constructor
  · rintro ⟨_, site', hidentify, hask⟩
    obtain ⟨before, v, happroach, hkey, hverify, rfl⟩ := run_identify_eq_ok_iff.1 hidentify
    obtain ⟨hsteps, rfl⟩ := run_approach_eq_ok_iff.1 happroach
    obtain ⟨hproof, rfl⟩ := run_ask_eq_ok_iff.1 hask
    exact ⟨⟨hsteps, hkey, hproof⟩, v, hverify, rfl⟩
  · rintro ⟨⟨hsteps, hkey, hproof⟩, v, hverify, rfl⟩
    have happroach : run (approach login decision seconds) site = (.ok (), _) :=
      run_approach_eq_ok_iff.2 ⟨hsteps, rfl⟩
    exact ⟨(), _, run_identify_eq_ok_iff.2 ⟨_, v, happroach, hkey, hverify, rfl⟩,
      run_ask_eq_ok_iff.2 ⟨hproof, rfl⟩⟩

/-! ## The whole -/

/-- The key is read exactly if the passphrase has bytes and reading does not fail. -/
theorem run_loadKey_eq_ok_iff :
    run (loadKey login) site = (.ok (), after) ↔
      ∃ passphrase, passphraseBytes login.passphrase = .ok passphrase ∧
        site.peer.network.fault? .loadKey = none ∧
        after = { site with peer :=
          { site.peer with calls := site.peer.calls ++ [.loadKey login.keyFile passphrase] } } := by
  unfold loadKey
  constructor
  · intro h
    obtain ⟨passphrase, site', hpassphrase, h⟩ := Act.run_bind_eq_ok_iff.1 h
    rw [Act.run_ofExcept] at hpassphrase
    obtain ⟨hpassphrase, hsite⟩ := Prod.mk.inj hpassphrase
    rw [← hsite, Act.run_bind_of_ok (Act.run_attempt _ _)] at h
    rcases hask :
      run (ask (.loadKey login.keyFile passphrase) .loadKey) site with ⟨fault | _, site'⟩
    · rw [hask] at h
      cases h
    · rw [hask] at h
      obtain ⟨hfault, rfl⟩ := run_ask_eq_ok_iff.1 hask
      exact ⟨passphrase, hpassphrase, hfault, (Prod.mk.inj h).2.symm⟩
  · rintro ⟨passphrase, hpassphrase, hfault, rfl⟩
    rw [hpassphrase, Act.run_bind_of_ok (Act.run_ofExcept _ _),
      Act.run_bind_of_ok (Act.run_attempt _ _), run_ask_eq_ok_iff.2 ⟨hfault, rfl⟩]
    rfl

/-- After the steps of opening a session the end is good exactly if they returned and the host let
the user in. -/
theorem run_conclude_eq_ok_iff {outcome : Except Fault Unit} :
    run (conclude login seconds outcome) site = (.ok (), after) ↔
      outcome = .ok () ∧ site.peer.network.isAuthenticated = true ∧
        after = (run (report (.sessionEstablished login.user login.endpoint)) site).2 := by
  unfold conclude
  cases outcome with
  | error fault =>
    refine ⟨fun h => ?_, fun ⟨h, _⟩ => by cases h⟩
    obtain ⟨_, _, -, h⟩ := Act.run_bind_eq_ok_iff.1 h
    cases h
  | ok =>
    dsimp only
    rw [Act.run_bind_of_ok (run_session _)]
    cases hadmitted : site.peer.network.isAuthenticated with
    | true =>
      constructor
      · intro h
        exact ⟨rfl, rfl, (Prod.mk.inj h).2.symm⟩
      · rintro ⟨-, -, rfl⟩
        rfl
    | false =>
      refine ⟨fun h => ?_, fun ⟨_, h, _⟩ => by cases h⟩
      obtain ⟨_, _, -, h⟩ := Act.run_bind_eq_ok_iff.1 h
      cases h

/-- The session once the key was read and the decision is known. -/
def prepared (s : Ssh) (login : Login) (decision : Decision)
    (passphrase : Option Text.Utf8.Bytes) : Ssh :=
  { s with calls := s.calls ++ [.loadKey login.keyFile passphrase], decision }

/-- Where there is no protocol session and the key can be read, opening a session ends as its steps
and what follows them. -/
theorem run_connect_of_loadKey (htransport : site.peer.transport = none)
    {passphrase : Option Text.Utf8.Bytes}
    (hpassphrase : passphraseBytes login.passphrase = .ok passphrase)
    (hkey : site.peer.network.fault? .loadKey = none) :
    run (connect login decision seconds) site =
      let established := run (establish login decision seconds)
        { site with peer := site.peer.prepared login decision passphrase }
      run (conclude login seconds established.1) established.2 := by
  rw [connect_eq, Act.run_bind_of_ok (run_session _), if_neg (by simp [htransport]),
    Act.run_bind_of_ok (run_loadKey_eq_ok_iff.2 ⟨passphrase, hpassphrase, hkey, rfl⟩),
    Act.run_bind_of_ok (run_change _ _), Act.run_bind_of_ok (Act.run_attempt _ _)]
  rfl

/-- A session that was opened was admitted by the network. -/
theorem admits_of_run_connect (htransport : site.peer.transport = none)
    (h : (run (connect login decision seconds) site).1 = .ok ()) :
    site.peer.network.Admits login decision site.machine := by
  obtain ⟨passphrase, hpassphrase, hkey⟩ : ∃ passphrase,
      passphraseBytes login.passphrase = .ok passphrase ∧
          site.peer.network.fault? .loadKey = none := by
    rw [connect_eq, Act.run_bind_of_ok (run_session _), if_neg (by simp [htransport])] at h
    obtain ⟨_, _, hload, -⟩ := Act.run_bind_eq_ok_iff.1 (Prod.ext h rfl)
    obtain ⟨passphrase, hpassphrase, hkey, -⟩ := run_loadKey_eq_ok_iff.1 hload
    exact ⟨passphrase, hpassphrase, hkey⟩
  rw [run_connect_of_loadKey htransport hpassphrase hkey] at h
  obtain ⟨hestablished, haccepted, -⟩ := run_conclude_eq_ok_iff.1 (Prod.ext h rfl)
  obtain ⟨⟨⟨hdial, hmake, hoffer, hagree⟩, hread, hproof⟩, v, hverify, hafter⟩ :=
    run_establish_eq_ok_iff.1 (Prod.ext hestablished rfl)
  refine ⟨⟨passphrase, hpassphrase⟩, fun operation hoperation => ?_, ?_, ?_⟩
  · cases operation <;> first | assumption | cases hoperation
  · exact congrArg Prod.fst hverify
  · exact (congrArg (·.peer.network.isAuthenticated) hafter).symm.trans haccepted

/-- Where the network admits the user a session is opened: the user proves who he is on a new
protocol session over a new socket. -/
theorem run_connect_of_admits (htransport : site.peer.transport = none)
    (h : site.peer.network.Admits login decision site.machine) (seconds : Float) :
    ∃ machine passphrase decided, run (connect login decision seconds) site =
      (.ok (),
        { machine
          peer := (site.peer.prepared login decision passphrase).introduced login decision seconds
            decided }) := by
  obtain ⟨passphrase, hpassphrase⟩ := h.passphrase
  have hestablished : run (establish login decision seconds)
      { site with peer := site.peer.prepared login decision passphrase } = (.ok (), _) :=
    run_establish_eq_ok_iff.2
      ⟨⟨⟨h.steps _ rfl, h.steps _ rfl, h.steps _ rfl, h.steps _ rfl⟩, h.steps _ rfl, h.steps _ rfl⟩,
        _, Prod.ext h.verified rfl, rfl⟩
  have hconnect : run (connect login decision seconds) site = _ :=
    run_connect_of_loadKey htransport hpassphrase (h.steps _ rfl)
  rw [hestablished] at hconnect
  exact ⟨_, passphrase, _, hconnect.trans (run_conclude_eq_ok_iff.2 ⟨rfl, h.accepted, rfl⟩)⟩

end Ssh

end SecureForward
