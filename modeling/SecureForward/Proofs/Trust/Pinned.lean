import SecureForward.Proofs.Trust.Matching
import SecureForward.Proofs.Trust.Remember

/-!
# Known hosts stay known

The store in memory grows while a session that accepts new hosts verifies one host after the other.
`Growth` says by how much in one call: not at all, or by an entry under a hashed name of the very
host that was asked for, which had none. Such an entry is found for no other host, as long as no two
of the names have the same digest (`lookup_of_growth`), so a host that has entries keeps these and
no others through any calls (`continued_afterCalls`). What verifying this host ends with rests on
its entries alone, hence it is settled from then on, and `settled_after_calls` says what it is.
-/

namespace SecureForward

namespace Verifying

open Act (run)
open Machine (Advanced)
open RecordName (digest isHashed)
open SecureForward.Text.Utf8 (Bytes)
open TrustStore (Entry keyOfType?)

variable {s : Verifying} {pinning before after : Pinning} {host hostId name : String}
  {key : HostKey} {salt : Bytes} {outcome : Except Fault Unit}

/-- A new host is recorded in memory whatever becomes of its record in the file. -/
theorem remember_memory (key : HostKey) (hhashes : pinning.hashesNames = true)
    (hname : RecordName.hash s.machine.nextSalt hostId = .ok name) :
    (run (remember pinning hostId key) s).2.decision =
      .enforced { pinning with store := pinning.store.insert name key } := by
  have hnamed := newName_of_hashes hhashes hostId s.machine
  rw [hname] at hnamed
  rw [run_remember_of_named hnamed]
  exact (advanced_recordInFile pinning hostId key name _).1

/-- What verifying a host with a key ends with and adds to the store in memory. -/
inductive Growth (hostId : String) (key : HostKey) (salt : Bytes) (outcome : Except Fault Unit)
    (before after : Pinning) : Prop where
  /-- The host is known or not recorded, and nothing changes. -/
  | unchanged (settled : ¬(outcome = .ok () ∧ before.store.lookup hostId = .ok []))
      (memory : after = before)
  /-- The host is unknown, and an entry under its hashed name comes behind all others. -/
  | recorded (name : String) (unknown : before.store.lookup hostId = .ok [])
      (hidden : RecordName.hash salt hostId = .ok name)
      (memory : after = { before with
        store := { entries := before.store.entries ++ [{ names := [name], key }] } })

/-- Only the entries of a decision grow. -/
theorem Growth.kept (h : Growth hostId key salt outcome before after) :
    after.storePath = before.storePath ∧ after.hashesNames = before.hashesNames := by
  cases h with
  | unchanged _ hmemory => exact hmemory ▸ ⟨rfl, rfl⟩
  | recorded _ _ _ hmemory => exact hmemory ▸ ⟨rfl, rfl⟩

/-- A host that has entries is answered for by these, and only the log tells. -/
theorem run_verify_of_known {found : List Entry} (hdecision : s.decision = .enforced pinning)
    (hlookup : pinning.store.lookup hostId = .ok found) (hfound : found ≠ []) (key : HostKey) :
    run (verify hostId key) s =
      if keyOfType? found key.typeName = some key then
        (.ok (), { s with machine := (run (Machine.report
          (.keyMatches hostId (toString pinning.storePath))) s.machine).2 })
      else (.error (.refusal (.hostKeyMismatch hostId (toString pinning.storePath) key.typeName
        key.fingerprint)), s) := by
  rw [verify_of_enforced hdecision]
  by_cases hmatch : keyOfType? found key.typeName = some key
  · rw [verifyBy_of_match hlookup hmatch, if_pos hmatch]
    rfl
  · rw [verifyBy_of_mismatch hlookup hmatch hfound, if_neg hmatch]
    rfl

/-- By how much the store grows while a host is verified. -/
theorem verify_growth (key : HostKey) (hdecision : s.decision = .enforced pinning)
    (hhashes : pinning.hashesNames = true) (hhost : isHashed hostId = false) :
    ∃ after, (run (verify hostId key) s).2.decision = .enforced after ∧
      Growth hostId key s.machine.nextSalt (run (verify hostId key) s).1 pinning after ∧
      Advanced pinning.storePath s.machine (run (verify hostId key) s).2.machine := by
  have hadvanced := advanced_verify hdecision hostId key
  have hverdict := verdict_verifyBy pinning hostId key
  rw [verify_of_enforced hdecision] at hadvanced ⊢
  generalize verifyBy pinning hostId key = act at hverdict hadvanced ⊢
  cases hverdict with
  | refused fault =>
    exact ⟨pinning, hdecision, .unchanged (fun h => by cases h.1) rfl, hadvanced⟩
  | known hlookup hkey =>
    have hsettled := ne_nil_of_recorded hlookup hkey
    exact ⟨pinning, hdecision, .unchanged (fun h => hsettled h.2) rfl, hadvanced⟩
  | new hlookup haccepts =>
    rcases hname : RecordName.hash s.machine.nextSalt hostId with fault | name
    · have hnamed := newName_of_hashes hhashes hostId s.machine
      rw [hname] at hnamed
      rw [run_remember_of_nameless hnamed] at hadvanced ⊢
      exact ⟨pinning, hdecision, .unchanged (fun h => by cases h.1) rfl, hadvanced⟩
    · -- No entry has the hashed name yet, so that the new one stands behind all.
      have hmem := TrustStore.hashed_not_mem hhost hlookup hname
      have hmemory := remember_memory key hhashes hname
      rw [TrustStore.insert_of_not_mem key hmem] at hmemory
      exact ⟨_, hmemory, .recorded name hlookup hname rfl, hadvanced⟩

/-- No salt that can be drawn gives a host the digest of another one that is called. -/
def NoCollision (salts : List Bytes) (hostId : String) (calls : List (String × HostKey)) : Prop :=
  ∀ salt ∈ Machine.plainSalt :: salts, ∀ call ∈ calls,
    digest salt call.1 = digest salt hostId → call.1 = hostId

/-- With fewer salts and fewer calls there is no collision either. -/
theorem NoCollision.mono {salts salts' : List Bytes} {calls calls' : List (String × HostKey)}
    (h : NoCollision salts hostId calls) (hsalts : salts' ⊆ salts) (hcalls : calls' ⊆ calls) :
    NoCollision salts' hostId calls' :=
  fun salt hsalt call hcall => h salt (List.cons_subset_cons _ hsalts hsalt) call (hcalls hcall)

/-- The salt that is drawn next can be drawn. -/
theorem nextSalt_mem (machine : Machine) :
    machine.nextSalt ∈ Machine.plainSalt :: machine.salts := by
  unfold Machine.nextSalt
  cases machine.salts with
  | nil => exact List.mem_cons_self
  | cons salt salts => exact List.mem_cons_of_mem _ List.mem_cons_self

/-- A host that has entries keeps them, and gets no other, while hosts with other digests are
verified. -/
theorem lookup_of_growth {found : List Entry} (h : Growth host key salt outcome before after)
    (hhost : isHashed hostId = false) (hne : digest salt host = digest salt hostId → host = hostId)
    (hlookup : before.store.lookup hostId = .ok found) (hfound : found ≠ []) :
    after.store.lookup hostId = .ok found := by
  cases h with
  | unchanged _ hmemory => rw [hmemory, hlookup]
  | recorded name hunknown hhidden hmemory =>
    -- The host that is recorded had no entry, so it is not the one that has some.
    have hother : host ≠ hostId := by
      rintro rfl
      exact hfound (Except.ok.inj (hlookup.symm.trans hunknown))
    have hdigest : digest salt host ≠ digest salt hostId := fun h => hother (hne h)
    have hdenotes := RecordName.denotes_of_digest_ne hhost hhidden hdigest
    have hnew : TrustStore.matching hostId [{ names := [name], key }] = .ok [] := by
      refine TrustStore.matching_eq_nil_iff.2 (List.forall_mem_singleton.2 ?_)
      exact TrustStore.anyDenotes_eq_false_iff.2 (List.forall_mem_singleton.2 hdenotes)
    have happend := TrustStore.matching_append hlookup hnew
    rw [List.append_nil] at happend
    rw [hmemory]
    exact happend

/-- A host that had no entry has the one with its key once it was accepted. -/
theorem lookup_of_accepted (h : Growth hostId key salt (.ok ()) before after)
    (hhost : isHashed hostId = false) (hlookup : before.store.lookup hostId = .ok []) :
    ∃ name, after.store.lookup hostId = .ok [{ names := [name], key }] := by
  cases h with
  | unchanged hsettled _ => exact absurd ⟨rfl, hlookup⟩ hsettled
  | recorded name _ hhidden hmemory =>
    have hdenotes := RecordName.denotes_hashed hhost hhidden
    have hany : TrustStore.anyDenotes hostId [name] = .ok true := by
      rw [TrustStore.anyDenotes, hdenotes]
      rfl
    have hnew : TrustStore.matching hostId [{ names := [name], key }] =
        .ok [{ names := [name], key }] :=
      TrustStore.matching_cons_eq_ok_iff.2 ⟨true, [], hany, rfl, rfl⟩
    refine ⟨name, ?_⟩
    rw [hmemory]
    exact TrustStore.matching_append hlookup hnew

/-- The decision went on from one state to another by the same file, and a host that had entries has
the same ones. -/
structure Continued (hostId : String) (before after : Pinning) (s t : Verifying) : Prop where
  /-- The decision is enforced. -/
  decision : t.decision = .enforced after
  /-- New hosts are recorded under hashed names. -/
  hashesNames : after.hashesNames = true
  /-- The file is the same. -/
  storePath : after.storePath = before.storePath
  /-- Nothing was written but to this file and to the log. -/
  advanced : Advanced before.storePath s.machine t.machine
  /-- What is found for a host that is known does not change. -/
  lookup : ∀ found, before.store.lookup hostId = .ok found → found ≠ [] →
    after.store.lookup hostId = .ok found

/-- One change after the other. -/
theorem Continued.trans {t u : Verifying} {last : Pinning} (h : Continued hostId before after s t)
    (h' : Continued hostId after last t u) : Continued hostId before last s u where
  decision := h'.decision
  hashesNames := h'.hashesNames
  storePath := h'.storePath.trans h.storePath
  advanced := h.advanced.trans (h.storePath ▸ h'.advanced)
  lookup found hlookup hfound := h'.lookup found (h.lookup found hlookup hfound) hfound

/-- The decision goes on through a call for any host that has another digest. -/
theorem continued_verify (key : HostKey) (hdecision : s.decision = .enforced pinning)
    (hhashes : pinning.hashesNames = true) (hhostId : isHashed hostId = false)
    (hhost : isHashed host = false)
    (hne : digest s.machine.nextSalt host = digest s.machine.nextSalt hostId → host = hostId) :
    ∃ after, Continued hostId pinning after s (run (verify host key) s).2 := by
  obtain ⟨after, hafter, hgrowth, hadvanced⟩ := verify_growth key hdecision hhashes hhost
  obtain ⟨hpath, hhashes'⟩ := hgrowth.kept
  exact ⟨after, hafter, hhashes'.trans hhashes, hpath, hadvanced,
    fun found => lookup_of_growth hgrowth hhostId hne⟩

/-- The decision goes on through any calls. -/
theorem continued_afterCalls {calls : List (String × HostKey)}
    (hdecision : s.decision = .enforced pinning) (hhashes : pinning.hashesNames = true)
    (hhost : isHashed hostId = false) (hcalls : ∀ call ∈ calls, isHashed call.1 = false)
    (hapart : NoCollision s.machine.salts hostId calls) :
    ∃ after, Continued hostId pinning after s (afterCalls calls s) := by
  induction calls generalizing s pinning with
  | nil =>
    exact ⟨pinning, hdecision, hhashes, rfl, .of_reported (.refl _), fun _ hlookup _ => hlookup⟩
  | cons call calls ih =>
    obtain ⟨hcall, hrest⟩ := List.forall_mem_cons.1 hcalls
    have hne := hapart _ (nextSalt_mem s.machine) call List.mem_cons_self
    obtain ⟨next, hnext⟩ := continued_verify call.2 hdecision hhashes hhost hcall hne
    -- The salts that are left are among those that there were.
    have hleft := hapart.mono hnext.advanced.salts.subset (List.subset_cons_self call calls)
    obtain ⟨after, hafter⟩ := ih hnext.decision hnext.hashesNames hrest hleft
    exact ⟨after, hnext.trans hafter⟩

section

variable {t : Verifying} {accepted : HostKey} {found : List Entry}

/-- A host that has entries is answered as it was before, and neither the entries nor the file of
the store change. -/
theorem verify_of_continued (h : Continued hostId before after s t)
    (hdecision : s.decision = .enforced before) (hlookup : before.store.lookup hostId = .ok found)
    (hfound : found ≠ []) (key : HostKey) :
    let ended := run (verify hostId key) t
    ended.1 = (run (verify hostId key) s).1 ∧
      (ended.1 = .ok () ∨ ended.1 = .error (.refusal (.hostKeyMismatch hostId
        (toString before.storePath) key.typeName key.fingerprint))) ∧
      ended.2.decision = t.decision ∧
      (t.machine.LogOpen → t.machine.LogsElsewhere before.storePath →
        ended.2.machine.files.lookup before.storePath =
          t.machine.files.lookup before.storePath) := by
  dsimp only
  rw [run_verify_of_known h.decision (h.lookup found hlookup hfound) hfound,
    run_verify_of_known hdecision hlookup hfound, h.storePath]
  by_cases hmatch : keyOfType? found key.typeName = some key
  · rw [if_pos hmatch, if_pos hmatch]
    refine ⟨rfl, .inl rfl, rfl, fun hopen helse => ?_⟩
    exact (Machine.reported_report _ _).lookup hopen _ helse
  · rw [if_neg hmatch, if_neg hmatch]
    exact ⟨rfl, .inr rfl, rfl, fun _ _ => rfl⟩

/-- With one entry a host is accepted with the key of this entry only. -/
theorem verify_eq_ok_iff_of_single (key : HostKey) (hdecision : s.decision = .enforced pinning)
    (hlookup : pinning.store.lookup hostId = .ok [{ names := [name], key := accepted }]) :
    (run (verify hostId key) s).1 = .ok () ↔ key = accepted := by
  have hfound : keyOfType? [{ names := [name], key := accepted }] key.typeName = some key ↔
      key = accepted := by
    constructor
    · intro hmatch
      obtain ⟨entry, hmem, hkey⟩ := TrustStore.exists_of_keyOfType? hmatch
      rw [List.mem_singleton.1 hmem] at hkey
      exact hkey.symm
    · rintro rfl
      simp [keyOfType?]
  rw [run_verify_of_known hdecision hlookup (List.cons_ne_nil _ _), ← hfound]
  split
  · exact ⟨fun _ => ‹_›, fun _ => rfl⟩
  · exact ⟨fun h => absurd h (by simp), fun h => absurd h ‹_›⟩

end

/-- For a decision that hides the names of new hosts, after any calls `earlier` for hosts whose
names do not begin like hashed ones, and with no collision of digests. A host that has entries then
is answered in the same way after any further calls `later`: it is accepted, or refused for its key.
Neither the entries nor, if the log goes elsewhere, the file of the store change with this. A host
that had none and was accepted is accepted after any further calls with that key only, which is to
say with its type and its bytes. -/
theorem settled_after_calls (pinning : Pinning) (machine : Machine) (hostId : String)
    (earlier later : List (String × HostKey)) (hhashes : pinning.hashesNames = true)
    (hhost : isHashed hostId = false) (hcalls : ∀ call ∈ earlier ++ later, isHashed call.1 = false)
    (hapart : NoCollision machine.salts hostId (earlier ++ later)) (key : HostKey) :
    let s := afterCalls earlier { decision := .enforced pinning, machine }
    ∃ now, s.decision = .enforced now ∧
      (∀ found, now.store.lookup hostId = .ok found → found ≠ [] →
        let t := afterCalls later s
        let ended := run (verify hostId key) t
        ended.1 = (run (verify hostId key) s).1 ∧
        (ended.1 = .ok () ∨ ended.1 = .error (.refusal (.hostKeyMismatch hostId
          (toString pinning.storePath) key.typeName key.fingerprint))) ∧
        ended.2.decision = t.decision ∧
        (machine.LogOpen → machine.LogsElsewhere pinning.storePath →
          ended.2.machine.files.lookup pinning.storePath =
            t.machine.files.lookup pinning.storePath)) ∧
      ∀ accepted, now.store.lookup hostId = .ok [] → (run (verify hostId accepted) s).1 = .ok () →
        let ended := run (verify hostId key) (afterCalls later (run (verify hostId accepted) s).2)
        (ended.1 = .ok () ↔ key = accepted) ∧
        (key.ReadsBack → accepted.ReadsBack →
          (ended.1 = .ok () ↔ key.typeName = accepted.typeName ∧
            key.encode = accepted.encode)) := by
  intro s
  obtain ⟨hearlier, hlater⟩ := List.forall_mem_append.1 hcalls
  have hbefore := hapart.mono (List.Subset.refl _) (List.subset_append_left earlier later)
  have hafter {machine' : Machine} (h : machine'.salts <:+ machine.salts) :
      NoCollision machine'.salts hostId later :=
    hapart.mono h.subset (List.subset_append_right earlier later)
  have hstart : ({ decision := .enforced pinning, machine } : Verifying).decision =
      .enforced pinning := rfl
  obtain ⟨now, hnow⟩ := continued_afterCalls hstart hhashes hhost hearlier hbefore
  refine ⟨now, hnow.decision, fun found hlookup hfound => ?_, fun accepted hlookup haccepted => ?_⟩
  · -- The host is known before the later calls.
    obtain ⟨last, hlast⟩ := continued_afterCalls hnow.decision hnow.hashesNames hhost hlater
      (hafter hnow.advanced.salts)
    obtain ⟨hsame, hanswer, hmemory, hfile⟩ :=
      verify_of_continued hlast hnow.decision hlookup hfound key
    rw [hnow.storePath] at hanswer hfile
    refine ⟨hsame, hanswer, hmemory, fun hopen helse => ?_⟩
    have htold := hnow.advanced.trans (hnow.storePath ▸ hlast.advanced)
    exact hfile (htold.logOpen hopen helse) (htold.logsElsewhere helse)
  · -- The host is known by the key that it was accepted with, and the later calls follow.
    obtain ⟨next, hnext, hgrowth, hadvanced⟩ :=
      verify_growth accepted hnow.decision hnow.hashesNames hhost
    rw [haccepted] at hgrowth
    obtain ⟨name, hentry⟩ := lookup_of_accepted hgrowth hhost hlookup
    obtain ⟨last, hlast⟩ := continued_afterCalls hnext (hgrowth.kept.2.trans hnow.hashesNames) hhost
      hlater (hafter (hadvanced.salts.trans hnow.advanced.salts))
    have hsingle := hlast.lookup _ hentry (List.cons_ne_nil _ _)
    have hsame := verify_eq_ok_iff_of_single key hlast.decision hsingle
    refine ⟨hsame, fun hkey haccepted' => ?_⟩
    rw [hsame]
    constructor
    · rintro rfl
      exact ⟨rfl, rfl⟩
    · rintro ⟨htype, hencode⟩
      exact hkey.eq_of_encode_eq haccepted' htype hencode

/-- The decision of a session that knows one host. -/
def knowingPinning : Pinning :=
  { trialPinning with store := { entries := [{ names := ["near"], key := trialKey }] } }

/-- The key of another host. -/
def otherKey : HostKey := .ed25519 (List.replicate 32 (.ofNat 8)) (by decide)

/-- The names of the two hosts have different digests. -/
theorem digest_near_ne : digest Machine.plainSalt "near" ≠ digest Machine.plainSalt "far" := by
  decide +kernel

/-- A host that is known is answered as before once another one was accepted, and the other one is
accepted with the same key only, also after the first one was verified. -/
theorem settled_after_calls_trial :
    let s : Verifying := { decision := .enforced knowingPinning, machine := trialMachine }
    let known := afterCalls [("far", otherKey)] s
    let added := afterCalls [("near", trialKey)] (run (verify "far" otherKey) s).2
    (run (verify "near" trialKey) known).1 = .ok () ∧
      (run (verify "near" otherKey) known).1 = .error (.refusal (.hostKeyMismatch "near" "/hosts"
        otherKey.typeName otherKey.fingerprint)) ∧
      (run (verify "far" otherKey) added).1 = .ok () ∧
      (run (verify "far" trialKey) added).1 ≠ .ok () := by
  intro s known added
  have hnear : NoCollision trialMachine.salts "near" ([] ++ [("far", otherKey)]) := by
    intro salt hsalt call hcall hdigest
    obtain rfl := List.mem_singleton.1 hsalt
    obtain rfl := List.mem_singleton.1 hcall
    exact absurd hdigest.symm digest_near_ne
  have hfar : NoCollision trialMachine.salts "far" ([] ++ [("near", trialKey)]) := by
    intro salt hsalt call hcall hdigest
    obtain rfl := List.mem_singleton.1 hsalt
    obtain rfl := List.mem_singleton.1 hcall
    exact absurd hdigest digest_near_ne
  have hsettled :=
    settled_after_calls knowingPinning trialMachine "near" [] [("far", otherKey)] rfl rfl
    (by decide) hnear
  have haccepted :=
    settled_after_calls knowingPinning trialMachine "far" [] [("near", trialKey)] rfl rfl
    (by decide) hfar
  have hknown (key : HostKey) :
      (run (verify "near" key) known).1 = (run (verify "near" key) s).1 := by
    obtain ⟨now, hnow, hsame, -⟩ := hsettled key
    cases hnow
    exact (hsame [{ names := ["near"], key := trialKey }] rfl (List.cons_ne_nil _ _)).1
  have hfirst : (run (verify "far" otherKey) s).1 = .ok () := by
    have hresult : (run (verify "far" otherKey) s).1.toOption = some () := by decide +kernel
    rcases houtcome : (run (verify "far" otherKey) s).1 with fault | _
    · rw [houtcome] at hresult
      cases hresult
    · rfl
  have hadded (key : HostKey) : (run (verify "far" key) added).1 = .ok () ↔ key = otherKey := by
    obtain ⟨now, hnow, -, hsame⟩ := haccepted key
    cases hnow
    exact (hsame otherKey rfl hfirst).1
  refine ⟨hknown trialKey, hknown otherKey, (hadded otherKey).2 rfl, ?_⟩
  rw [ne_eq, hadded trialKey]
  decide

end Verifying

end SecureForward
