import SecureForward.Proofs.Trust.Matching
import SecureForward.Proofs.Trust.Remember

/-!
# What a refused host leaves behind

A call that refuses a host writes nothing to the file of the trust store, and it leaves the store in
memory as it was, with one exception: a new host that is to be accepted is recorded in memory before
the file is read, and a file that holds no text breaks the call off in between (`BreaksOff`). From
then on the host is known. `refusal_of_verify` says both: apart from this the refusal stands however
often the call is repeated, and after it the repeated call accepts.
-/

namespace SecureForward.Verifying

open Act (run)
open RecordName (denotes isHashed)
open SecureForward.Text.Utf8 (Bytes)
open TrustStore (Entry keyOfType?)

variable {s s' : Verifying} {pinning : Pinning} {hostId name : String} {key : HostKey}
    {fault : Fault}
  {machine machine' : Machine}

/-! ## Recording a new host -/

/-- The call breaks off behind the record in memory only if the file holds no text, and then nothing
else has happened. -/
theorem of_recordInFile_error
    (h : run (recordInFile pinning hostId key name) s = (.error fault, s')) :
    s' = s ∧ HoldsNoText s.machine pinning.storePath := by
  have happended :=
    appended_appendRecord pinning.storePath { names := [name], key } s.machine
  rcases happend : run (appendRecord pinning.storePath { names := [name], key }) s.machine with
    ⟨outcome, machine⟩
  rw [happend] at happended
  rw [run_recordInFile happend] at h
  cases happended with
  | barred | cut | whole => cases h
  | textless hunexpected htext =>
    dsimp only at h
    rw [if_neg (by simp [hunexpected])] at h
    exact ⟨(Prod.mk.inj h).2.symm, htext⟩

/-! ## The host is known afterwards -/

/-- The name of a new host denotes it, unless it is to be hidden and begins like a hashed one. -/
theorem denotes_newName (hhost : pinning.hashesNames = true → isHashed hostId = false)
    (h : newName pinning hostId machine = (.ok name, machine')) :
    denotes name hostId = .ok true := by
  unfold newName at h
  cases hhashes : pinning.hashesNames with
  | true =>
    rw [if_pos hhashes] at h
    exact RecordName.denotes_hashed (hhost hhashes) (Prod.mk.inj h).1
  | false =>
    rw [if_neg (by simp [hhashes])] at h
    obtain rfl := Except.ok.inj (Prod.mk.inj h).1
    exact RecordName.denotes_self _

/-- A new host gets a name exactly if there is a salt to hide it with, or nothing is hidden. -/
theorem newName_eq_ok_iff : (∃ name, (newName pinning hostId machine).1 = .ok name) ↔
    (pinning.hashesNames = true → machine.nextSalt.length = Digest.sha1Size) := by
  unfold newName RecordName.hash
  cases pinning.hashesNames with
  | true => by_cases hlength : machine.nextSalt.length = Digest.sha1Size <;> simp [hlength]
  | false => simp

/-- A host whose key is recorded behind the entries of a store without one for it is accepted. -/
theorem verify_of_recorded (hdecision : s.decision = .enforced (withEntry pinning name key))
    (hlookup : pinning.store.lookup hostId = .ok []) (hdenotes : denotes name hostId = .ok true) :
    (run (verify hostId key) s).1 = .ok () := by
  have hnew : TrustStore.matching hostId [{ names := [name], key }] =
      .ok [{ names := [name], key }] := by
    have hany : TrustStore.anyDenotes hostId [name] = .ok true := by
      rw [TrustStore.anyDenotes, hdenotes]
      rfl
    exact TrustStore.matching_cons_eq_ok_iff.2 ⟨true, [], hany, rfl, rfl⟩
  have hkey : keyOfType? [{ names := [name], key }] key.typeName = some key := by
    simp [keyOfType?]
  have hfound : (withEntry pinning name key).store.lookup hostId = .ok [{ names := [name], key }] :=
    TrustStore.matching_append hlookup hnew
  rw [verify_of_enforced hdecision, verifyBy_of_match hfound hkey]
  rfl

/-! ## Refusals -/

/-- A new host is to be accepted and has a name, but the file of the trust store holds no text. -/
structure BreaksOff (pinning : Pinning) (hostId : String) (machine : Machine) : Prop where
  /-- The host has no entry. -/
  unknown : pinning.store.lookup hostId = .ok []
  /-- New hosts are accepted. -/
  accepted : pinning.acceptsNewHosts = true
  /-- There is a salt to hide the name with, where names are hidden. -/
  salt : pinning.hashesNames = true → machine.nextSalt.length = Digest.sha1Size
  /-- No record can be put into the file. -/
  holdsNoText : HoldsNoText machine pinning.storePath

/-- A host that is not new and accepted is refused without a look at the machine, if it is
refused. -/
theorem verifyBy_of_refused
    (hnew : ¬(pinning.store.lookup hostId = .ok [] ∧ pinning.acceptsNewHosts = true))
    (h : run (verifyBy pinning hostId key) s = (.error fault, s')) :
    verifyBy pinning hostId key = throw fault ∧ s' = s := by
  have hverdict := verdict_verifyBy pinning hostId key
  generalize verifyBy pinning hostId key = act at hverdict h
  cases hverdict with
  | refused reason =>
    obtain ⟨hfault, rfl⟩ := Prod.mk.inj h
    rw [Except.error.inj hfault]
    exact ⟨rfl, rfl⟩
  | known => cases h
  | new hlookup haccepts => exact absurd ⟨hlookup, haccepts⟩ hnew

/-- A refused call leaves the files as they are. Unless it breaks off at a file without text, the
decision is the same as before, and with a salt of the right length nothing has changed at all and
the call is refused for the same reason whenever it is repeated. If it does break off, the host has
a record in memory, under its name or a hidden form of it, and is accepted whenever the call is
repeated. -/
theorem refusal_of_verify (hdecision : s.decision = .enforced pinning)
    (hrun : run (verify hostId key) s = (.error fault, s')) :
    s'.machine.files = s.machine.files ∧
      (¬BreaksOff pinning hostId s.machine → s'.decision = s.decision ∧
        (s.machine.nextSalt.length = Digest.sha1Size → s' = s ∧
          ∀ machine, (run (verify hostId key) { s' with machine }).1 = .error fault)) ∧
      (BreaksOff pinning hostId s.machine → (pinning.hashesNames = true → isHashed hostId = false) →
        ∃ name, s'.decision = .enforced (withEntry pinning name key) ∧
          ∀ machine, (run (verify hostId key) { s' with machine }).1 = .ok ()) := by
  rw [verify_of_enforced hdecision] at hrun
  by_cases hnew : pinning.store.lookup hostId = .ok [] ∧ pinning.acceptsNewHosts = true
  · obtain ⟨hlookup, haccepts⟩ := hnew
    rw [verifyBy_of_new hlookup haccepts] at hrun
    rcases hname : newName pinning hostId s.machine with ⟨reason | name, machine⟩
    · -- The host gets no name, since the salt has the wrong length.
      have hsalt : ¬(pinning.hashesNames = true → s.machine.nextSalt.length = Digest.sha1Size) := by
        intro hlength
        obtain ⟨_, h⟩ := newName_eq_ok_iff.2 hlength
        rw [hname] at h
        cases h
      rw [run_remember_of_nameless hname] at hrun
      obtain rfl := (Prod.mk.inj hrun).2
      exact ⟨(advanced_newName pinning.storePath hname).1,
        fun _ => ⟨rfl, fun hlength => absurd (fun _ => hlength) hsalt⟩,
        fun hbreaks => absurd hbreaks.salt hsalt⟩
    · -- The host is in memory already, and it is the file that the call breaks off at.
      have hsalt := newName_eq_ok_iff.1 ⟨name, congrArg Prod.fst hname⟩
      have hfiles := (advanced_newName pinning.storePath hname).1
      rw [run_remember_of_named hname] at hrun
      obtain ⟨rfl, htext⟩ := of_recordInFile_error hrun
      have hbreaks : BreaksOff pinning hostId s.machine := by
        refine ⟨hlookup, haccepts, hsalt, ?_⟩
        unfold HoldsNoText at htext ⊢
        rwa [hfiles] at htext
      refine ⟨hfiles, fun hnot => absurd hbreaks hnot, fun _ hhost => ⟨name, ?_⟩⟩
      have hdenotes := denotes_newName hhost hname
      have hmem := TrustStore.not_mem_of_denotes hlookup hdenotes
      rw [TrustStore.insert_of_not_mem key hmem]
      exact ⟨rfl, fun machine => verify_of_recorded rfl hlookup hdenotes⟩
  · -- The host is refused by what is in memory alone.
    obtain ⟨hthrow, rfl⟩ := verifyBy_of_refused hnew hrun
    refine ⟨rfl, fun _ => ⟨rfl, fun _ => ⟨rfl, fun machine => ?_⟩⟩, fun hbreaks => ?_⟩
    · rw [verify_of_enforced (s := { s' with machine }) hdecision, hthrow]
      rfl
    · exact absurd ⟨hbreaks.unknown, hbreaks.accepted⟩ hnew

/-- The file of the trust store was replaced by bytes that are no text. -/
def scrambledMachine : Machine :=
  { trialMachine with files := FileTree.empty.insert trialPinning.storePath (.file [0xff]) }

/-- The decision on the store that was loaded before the file was replaced. -/
def scrambled : Verifying :=
  { decision := .enforced trialPinning, machine := scrambledMachine }

/-- What is wrong with the bytes that replaced the file. -/
def scrambledError : Text.Utf8.DecodeError :=
  { start := 0, byte := 0xff, count := 1, flaw := .invalidStart }

/-- The bytes that replaced the file are no text. -/
theorem decode_scrambled : Text.Utf8.decode [0xff] = .error scrambledError := by
  rw [Text.Utf8.decode, Text.Utf8.decodeFrom]
  split
  · rename_i h
    cases h
    rfl
  · rename_i h
    cases h

/-- The hidden name of the new host. -/
def hiddenName : String :=
  RecordName.hashed Machine.plainSalt "near"

/-- The new host is recorded in memory before the replaced file breaks the call off. -/
theorem run_verify_scrambled : run (verify "near" trialKey) scrambled =
    (.error (.decoding scrambledError),
      { scrambled with decision := .enforced (withEntry trialPinning hiddenName trialKey) }) := by
  have hopen : run (Machine.openToUpdate trialPinning.storePath) scrambledMachine =
      (.ok [0xff], scrambledMachine) :=
    Machine.run_openToUpdate_eq_ok_iff.2 ⟨by decide, rfl, rfl⟩
  have happend :
      run (appendRecord trialPinning.storePath { names := [hiddenName], key := trialKey })
      scrambledMachine = (.error (.decoding scrambledError), scrambledMachine) := by
    unfold appendRecord
    rw [Act.run_bind_of_ok hopen, decode_scrambled]
    rfl
  have hname : newName trialPinning "near" scrambledMachine = (.ok hiddenName, scrambledMachine) :=
    rfl
  rw [verify_of_enforced rfl, verifyBy_of_new rfl rfl, run_remember_of_named hname,
    run_recordInFile happend]
  rfl

/-- A call that is broken off by the replaced file, and what every later call says. -/
theorem refusal_of_verify_trial :
    let ended := run (verify "near" trialKey) scrambled
    ended.1 = .error (.decoding scrambledError) ∧ BreaksOff trialPinning "near" scrambledMachine ∧
      ended.2.machine.files = scrambledMachine.files ∧
      ∃ name, ended.2.decision = .enforced (withEntry trialPinning name trialKey) ∧
        ∀ machine, (run (verify "near" trialKey) { ended.2 with machine }).1 = .ok () := by
  have hbreaks : BreaksOff trialPinning "near" scrambledMachine :=
    ⟨rfl, rfl, fun _ => by decide, .inr ⟨[0xff], _, rfl, decode_scrambled⟩⟩
  rw [run_verify_scrambled]
  obtain ⟨hfiles, -, hafter⟩ := refusal_of_verify rfl run_verify_scrambled
  exact ⟨rfl, hbreaks, hfiles, hafter hbreaks fun _ => by decide⟩

/-- The host that is refused for the first time is accepted the second time. -/
theorem accepted_after_refusal :
    let first := run (verify "near" trialKey) scrambled
    let second := run (verify "near" trialKey) first.2
    first.1 = .error (.decoding scrambledError) ∧ first.2.decision ≠ scrambled.decision ∧
      second.1 = .ok () := by
  rw [run_verify_scrambled]
  have hdenotes : denotes hiddenName "near" = .ok true :=
    RecordName.denotes_hashed (by decide) (s := Machine.plainSalt) rfl
  exact ⟨rfl, by decide, verify_of_recorded rfl rfl hdenotes⟩

end SecureForward.Verifying
