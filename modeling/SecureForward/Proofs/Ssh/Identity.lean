import SecureForward.Proofs.Endpoint.Address
import SecureForward.Proofs.Ssh.Admission
import SecureForward.Proofs.Trust.Matching
import SecureForward.Proofs.Trust.Policy

/-!
# The name that an endpoint is verified under

An endpoint is recorded under its host, or under its host in brackets with a colon and its port. The
host of an endpoint that was read from a text holds no colon, so the first colon of the name stands
in front of the port if there is one, and the endpoint can be read back from the name
(`ofRecordName_ofHost`), whatever brackets and digits the host holds. No two endpoints share a name.

`IsVerifiedAs` says under which name the host of a session is verified, by what opening a session
comes to. It can be one name only (`isVerifiedAs_iff`): a trust store with one record tells two
names apart, as no two names denote each other. `IsLookedUpAs` says under which name a trust
decision looks up the key type to prefer. `recordName_identifies` is the result.
-/

namespace SecureForward

open Act (run)

/-! ## Reading an endpoint back from its name -/

namespace RecordName

/-- The name of an endpoint with the default port is its host. -/
theorem ofHost_default (host : String) : ofHost host Address.defaultPort = host :=
  if_pos rfl

/-- The name of an endpoint with another port. -/
theorem toList_ofHost {n : Nat} (h : (n : Int) ≠ Address.defaultPort) (host : String) :
    (ofHost host n).toList = ('[' :: (host.toList ++ [']'])) ++ ':' :: Nat.toDigits 10 n := by
  have hdigits : (toString (n : Int)).toList = Nat.toDigits 10 n := String.toList_ofList
  unfold ofHost
  rw [if_neg h]
  change ("[" ++ host ++ "]:" ++ toString (n : Int)).toList = _
  rw [String.toList_append, String.toList_append, String.toList_append, hdigits]
  simp

end RecordName

namespace Address

open SecureForward.Text (cut cut_eq_none_iff cut_eq_some_iff)

variable {a a' : Address}

/-- The endpoint that is recorded under a name. -/
def ofRecordName (name : String) : Address :=
  match cut ':' name.toList with
  | (host, none) => { host := .ofList host, port := defaultPort }
  | (bracketed, some digits) =>
    { host := .ofList bracketed.tail.dropLast, port := (Nat.ofDigitChars 10 digits 0 : Nat) }

/-- A plain endpoint is read back from its name. -/
theorem ofRecordName_ofHost (h : a.IsPlain) :
    ofRecordName (RecordName.ofHost a.host a.port) = a := by
  obtain ⟨host, port⟩ := a
  obtain ⟨-, hcolon, -, hlow, hhigh⟩ := h
  dsimp only at hcolon hlow hhigh ⊢
  by_cases hdefault : port = defaultPort
  · -- Without a port there is no colon in the name.
    subst hdefault
    have hcut : cut ':' host.toList = (host.toList, none) := cut_eq_none_iff.2 ⟨hcolon, rfl⟩
    rw [RecordName.ofHost_default, ofRecordName, hcut]
    dsimp only
    rw [String.ofList_toList]
  · -- The host has no colon, so the first one stands between the bracket and the port.
    obtain ⟨n, rfl⟩ := Int.eq_ofNat_of_zero_le (show 0 ≤ port by omega)
    obtain ⟨-, -, -, hvalue⟩ := toDigits_of_port (show n ≤ 65535 by omega)
    have hcut : cut ':' (RecordName.ofHost host n).toList =
        ('[' :: (host.toList ++ [']']), some (Nat.toDigits 10 n)) :=
      cut_eq_some_iff.2 ⟨by simpa using hcolon, RecordName.toList_ofHost hdefault host⟩
    rw [ofRecordName, hcut]
    dsimp only
    rw [hvalue, List.tail_cons, List.dropLast_concat, String.ofList_toList]

/-- No two plain endpoints have the same name. -/
theorem eq_of_ofHost_eq (h : a.IsPlain) (h' : a'.IsPlain)
    (hname : RecordName.ofHost a.host a.port = RecordName.ofHost a'.host a'.port) : a = a' := by
  calc a = ofRecordName (RecordName.ofHost a.host a.port) := (ofRecordName_ofHost h).symm
    _ = ofRecordName (RecordName.ofHost a'.host a'.port) := by rw [hname]
    _ = a' := ofRecordName_ofHost h'

end Address

/-! ## The name that a session goes by -/

/-- Nothing on the network keeps a user from the host, unless the host is not verified. -/
structure Network.Welcomes (network : Network) (login : Login) : Prop where
  /-- The passphrase, if one is given, has bytes. -/
  passphrase : ∃ passphrase, Ssh.passphraseBytes login.passphrase = .ok passphrase
  /-- No step fails. -/
  steps : ∀ operation : Operation, operation.opensSession = true → network.fault? operation = none
  /-- The host lets the user in. -/
  accepted : network.isAuthenticated = true

/-- The host of a session with this endpoint is verified under this name: where nothing else is in
the way, a session is opened exactly if the host is verified under it. -/
def Address.IsVerifiedAs (a : Address) (hostId : String) : Prop :=
  ∀ (login : Login) (decision : Decision) (seconds : Float) (site : Site Ssh),
    login.host = a.host → login.port = a.port → site.peer.transport = none →
      site.peer.network.Welcomes login →
        ((run (Ssh.connect login decision seconds) site).1 = .ok () ↔
          (run (Verifying.verify hostId site.peer.network.hostKey)
            { decision, machine := site.machine }).1 =
            .ok ())

/-- The key type to prefer for an endpoint is looked up under this name: a decision that has loaded
its store ends as the look-up does. -/
def Address.IsLookedUpAs (a : Address) (hostId : String) : Prop :=
  ∀ (policy : TrustPolicy) (config : Config) (machine : Machine) (path : Path) (store : TrustStore),
    config.host = a.host → config.port = a.port → config.verifiesHost = true →
      machine.place.resolve? (chooseStore config.knownHostsFile policy.defaultStore) = some path →
        machine.files.isFile path = .ok true →
          run (TrustPolicy.loadStore path) machine = (.ok store, machine) →
            (run (policy.resolve config) machine).1 =
                (store.preferredType? hostId).map fun preferredType =>
              .enforced { storePath := path, store, preferredType, hashesNames := true,
                          acceptsNewHosts := policy.acceptsNewHosts }

/-- A decision by a trust store with one record. -/
def Decision.recordsOnly (recorded : String) (key : HostKey) : Decision :=
  .enforced { storePath := { doubled := false, names := [] },
              store := { entries := [{ names := [recorded], key }] },
              preferredType := none, hashesNames := true, acceptsNewHosts := false }

/-- By a store with one record, a host with the recorded key is verified exactly if the recorded
name denotes it. -/
theorem Verifying.verify_recordsOnly_iff {recorded hostId : String} {key : HostKey}
    {machine : Machine} :
    (run (verify hostId key) { decision := .recordsOnly recorded key, machine }).1 = .ok () ↔
      RecordName.denotes recorded hostId = .ok true := by
  have hsingle (answer : Bool) (h : RecordName.denotes recorded hostId = .ok answer) :
      TrustStore.anyDenotes hostId [recorded] = .ok answer := by
    rw [TrustStore.anyDenotes, h]
    cases answer with
    | true => rfl
    | false => rfl
  constructor
  · intro h
    rcases known_or_new_of_verify (Prod.ext h rfl) with ⟨entry, hentry, hdenotes, -⟩ | ⟨haccepts, -⟩
    · obtain rfl := List.mem_singleton.1 hentry
      rcases hanswer : RecordName.denotes recorded hostId with fault | answer
      · rw [TrustStore.anyDenotes, hanswer] at hdenotes
        cases hdenotes
      · rw [hsingle answer hanswer] at hdenotes
        exact hdenotes
    · cases haccepts
  · intro h
    have hlookup : TrustStore.lookup { entries := [{ names := [recorded], key }] } hostId =
        .ok [{ names := [recorded], key }] :=
      TrustStore.matching_cons_eq_ok_iff.2 ⟨true, [], hsingle true h, rfl, rfl⟩
    have hkey : TrustStore.keyOfType? [{ names := [recorded], key }] key.typeName = some key := by
      simp [TrustStore.keyOfType?]
    rw [verify_of_enforced rfl, verifyBy_of_match hlookup hkey]
    rfl

namespace Address

variable {a a' : Address} {hostId hostId' : String}

/-- The host of a session is verified under the name that its endpoint is recorded under. -/
theorem isVerifiedAs_ofHost (a : Address) : a.IsVerifiedAs (RecordName.ofHost a.host a.port) := by
  intro login decision seconds site hhost hport htransport hwelcome
  rw [← hhost, ← hport]
  constructor
  · intro h
    exact (Ssh.admits_of_run_connect htransport h).verified
  · intro h
    have hadmits : site.peer.network.Admits login decision site.machine :=
      ⟨hwelcome.passphrase, hwelcome.steps, h, hwelcome.accepted⟩
    obtain ⟨machine, passphrase, decided, hconnect⟩ :=
      Ssh.run_connect_of_admits htransport hadmits seconds
    rw [hconnect]

/-- Two names that the host of a session is verified under are denoted by the same records. -/
theorem IsVerifiedAs.denotes_iff (h : a.IsVerifiedAs hostId) (h' : a.IsVerifiedAs hostId')
    (recorded : String) :
    RecordName.denotes recorded hostId = .ok true ↔
      RecordName.denotes recorded hostId' = .ok true := by
  -- A network on which nothing fails, and a decision by this record alone.
  let login : Login :=
    { host := a.host, port := a.port, user := "", keyFile := "", passphrase := .null }
  let site : Site Ssh := { machine := Session.trialMachine, peer := Ssh.idle Session.trialNetwork }
  let decision : Decision := .recordsOnly recorded site.peer.network.hostKey
  have hwelcome : site.peer.network.Welcomes login := ⟨⟨none, rfl⟩, fun _ _ => rfl, rfl⟩
  have hopened := h login decision 0 site rfl rfl rfl hwelcome
  have hopened' := h' login decision 0 site rfl rfl rfl hwelcome
  rw [← Verifying.verify_recordsOnly_iff, ← Verifying.verify_recordsOnly_iff]
  exact hopened.symm.trans hopened'

/-- There is one name that the host of a session is verified under. -/
theorem isVerifiedAs_iff : a.IsVerifiedAs hostId ↔ hostId = RecordName.ofHost a.host a.port := by
  constructor
  · intro h
    have hsame := h.denotes_iff a.isVerifiedAs_ofHost
    exact RecordName.denotes_antisymm ((hsame hostId).1 (RecordName.denotes_self hostId))
      ((hsame _).2 (RecordName.denotes_self _))
  · rintro rfl
    exact a.isVerifiedAs_ofHost

/-- The key type to prefer is looked up under the name that an endpoint is recorded under. -/
theorem isLookedUpAs_ofHost (a : Address) : a.IsLookedUpAs (RecordName.ofHost a.host a.port) := by
  intro policy config machine path store hhost hport hverifies hpath hfile hload
  unfold TrustPolicy.resolve
  rw [if_neg (by simp [hverifies]), Act.run_bind_of_ok
    (Machine.run_resolvePath_eq_ok_iff.2 ⟨hpath, rfl⟩),
    Act.run_bind_of_ok (Machine.run_isFile_eq_ok_iff.2 ⟨hfile, rfl⟩), ← hhost, ← hport]
  change (run (TrustPolicy.loadStore path >>= _) machine).1 = _
  rw [Act.run_bind_of_ok hload]
  dsimp only
  cases hlookup : store.preferredType? (RecordName.ofHost config.host config.port) with
  | error fault =>
    rw [Act.run_bind_of_error (Act.run_ofExcept _ _)]
    rfl
  | ok preferredType =>
    rw [Act.run_bind_of_ok (Act.run_ofExcept _ _)]
    rfl

/-- Endpoints that are read from texts are told apart by the names that they are recorded under.
This is the one name that the host of a session is verified under, so no two endpoints have a name
under which both are verified, and the name that the key type to prefer is looked up under. A record
whose name is not hashed is of one endpoint at most. -/
theorem recordName_identifies {text text' : String} {a a' : Address}
    (h : parse defaultPort text = .ok a) (h' : parse defaultPort text' = .ok a') :
    (RecordName.ofHost a.host a.port = RecordName.ofHost a'.host a'.port ↔
      a.host = a'.host ∧ a.port = a'.port) ∧
      (∀ hostId, a.IsVerifiedAs hostId ↔ hostId = RecordName.ofHost a.host a.port) ∧
      (∀ hostId, a.IsVerifiedAs hostId → a'.IsVerifiedAs hostId → a = a') ∧
      a.IsLookedUpAs (RecordName.ofHost a.host a.port) ∧
      ∀ recorded, RecordName.isHashed recorded = false →
        RecordName.denotes recorded (RecordName.ofHost a.host a.port) = .ok true →
          RecordName.denotes recorded (RecordName.ofHost a'.host a'.port) = .ok true → a = a' := by
  have hplain : a.IsPlain := isPlain_of_parse (by decide) (by decide) h
  have hplain' : a'.IsPlain := isPlain_of_parse (by decide) (by decide) h'
  refine ⟨⟨fun hname => ?_, ?_⟩, fun hostId => isVerifiedAs_iff,
    fun hostId hverified hverified' => ?_,
    a.isLookedUpAs_ofHost, fun recorded hrecorded hdenotes hdenotes' => ?_⟩
  · obtain rfl := eq_of_ofHost_eq hplain hplain' hname
    exact ⟨rfl, rfl⟩
  · rintro ⟨hhost, hport⟩
    rw [hhost, hport]
  · have hname := (isVerifiedAs_iff.1 hverified).symm.trans (isVerifiedAs_iff.1 hverified')
    exact eq_of_ofHost_eq hplain hplain' hname
  · have hname := (RecordName.eq_of_denotes hrecorded hdenotes).symm.trans
      (RecordName.eq_of_denotes hrecorded hdenotes')
    exact eq_of_ofHost_eq hplain hplain' hname

/-- Brackets that belong to a host are not mistaken for those of a name: the endpoint `[gate]` with
port 2022 and the endpoint `gate` with the same port are verified under different names. -/
theorem recordName_identifies_trial :
    parse defaultPort "[gate]:2022" = .ok ⟨"[gate]", 2022⟩ ∧
      parse defaultPort "gate:2022" = .ok ⟨"gate", 2022⟩ ∧
      RecordName.ofHost "[gate]" 2022 ≠ RecordName.ofHost "gate" 2022 ∧
      ¬∃ hostId, IsVerifiedAs ⟨"[gate]", 2022⟩ hostId ∧ IsVerifiedAs ⟨"gate", 2022⟩ hostId := by
  have hbracketed : parse defaultPort "[gate]:2022" = .ok ⟨"[gate]", 2022⟩ := by rfl
  have hbare : parse defaultPort "gate:2022" = .ok ⟨"gate", 2022⟩ := by rfl
  obtain ⟨hname, -, hverified, -⟩ := recordName_identifies hbracketed hbare
  refine ⟨hbracketed, hbare, fun heq => ?_, ?_⟩
  · exact absurd (hname.1 heq).1 (by decide)
  · rintro ⟨hostId, h, h'⟩
    have hsame := hverified hostId h h'
    exact absurd (congrArg Address.host hsame) (by decide)

end Address

end SecureForward
