import SecureForward.Proofs.Machine
import SecureForward.Proofs.Trust.Store
import SecureForward.Trust.Decision

/-!
# Verifying a host

The five ways of verifying a host by a trust store, by what is found for it. `Verdict` sums them up,
and `known_or_new_of_verify` says when a host is accepted.
-/

namespace SecureForward.Verifying

open Act (run)
open TrustStore (anyDenotes keyOfType?)

variable {pinning : Pinning} {hostId : String} {key : HostKey} {found : List TrustStore.Entry}

/-- An enforced decision verifies by its store. -/
theorem verify_of_enforced {s : Verifying} (h : s.decision = .enforced pinning) :
    run (verify hostId key) s = run (verifyBy pinning hostId key) s := by
  unfold verify
  rw [Act.run_bind_of_ok (Act.run_get _), h]

/-- A search that fails is the end of it. -/
theorem verifyBy_of_error {fault : Fault} (h : pinning.store.lookup hostId = .error fault) :
    verifyBy pinning hostId key = throw fault := by
  unfold verifyBy
  rw [TrustStore.check_of_lookup_error h]
  rfl

/-- A host with the recorded key is accepted, and nothing changes but the log. -/
theorem verifyBy_of_match (h : pinning.store.lookup hostId = .ok found)
    (hkey : keyOfType? found key.typeName = some key) :
    verifyBy pinning hostId key =
      onMachine (Machine.report (.keyMatches hostId (toString pinning.storePath))) := by
  unfold verifyBy
  rw [TrustStore.check_of_lookup h, hkey, BEq.rfl]
  rfl

/-- A host with another key than the recorded one is refused. -/
theorem verifyBy_of_mismatch (h : pinning.store.lookup hostId = .ok found)
    (hkey : keyOfType? found key.typeName ≠ some key) (hfound : found ≠ []) :
    verifyBy pinning hostId key =
      throw (.refusal (.hostKeyMismatch hostId (toString pinning.storePath) key.typeName
        key.fingerprint)) := by
  unfold verifyBy
  rw [TrustStore.check_of_lookup h, h, beq_eq_false_iff_ne.2 hkey]
  cases found with
  | nil => exact absurd rfl hfound
  | cons => rfl

/-- A host without a record is refused unless new hosts are accepted. -/
theorem verifyBy_of_unknown (h : pinning.store.lookup hostId = .ok [])
    (haccepts : pinning.acceptsNewHosts = false) :
    verifyBy pinning hostId key =
      throw (.refusal (.unknownHost hostId (toString pinning.storePath) key.typeName
        key.fingerprint)) := by
  unfold verifyBy
  rw [TrustStore.check_of_lookup h, h, haccepts]
  rfl

/-- A host without a record is remembered if new hosts are accepted. -/
theorem verifyBy_of_new (h : pinning.store.lookup hostId = .ok [])
    (haccepts : pinning.acceptsNewHosts = true) :
    verifyBy pinning hostId key = remember pinning hostId key := by
  unfold verifyBy
  rw [TrustStore.check_of_lookup h, h, haccepts]
  rfl

/-- What verifying a host by a trust store comes to. -/
inductive Verdict (pinning : Pinning) (hostId : String) (key : HostKey) :
    Act Verifying Unit → Prop where
  /-- The search fails, or the host is refused. -/
  | refused (fault : Fault) : Verdict pinning hostId key (throw fault)
  /-- The host has the recorded key. -/
  | known {found : List TrustStore.Entry} (lookup : pinning.store.lookup hostId = .ok found)
      (recorded : keyOfType? found key.typeName = some key) :
      Verdict pinning hostId key
        (onMachine (Machine.report (.keyMatches hostId (toString pinning.storePath))))
  /-- The host has no record and is accepted. -/
  | new (lookup : pinning.store.lookup hostId = .ok []) (wanted : pinning.acceptsNewHosts = true) :
      Verdict pinning hostId key (remember pinning hostId key)

/-- Verifying a host comes to one of these. -/
theorem verdict_verifyBy (pinning : Pinning) (hostId : String) (key : HostKey) :
    Verdict pinning hostId key (verifyBy pinning hostId key) := by
  rcases hlookup : pinning.store.lookup hostId with fault | found
  · rw [verifyBy_of_error hlookup]
    exact .refused fault
  by_cases hkey : keyOfType? found key.typeName = some key
  · rw [verifyBy_of_match hlookup hkey]
    exact .known hlookup hkey
  by_cases hfound : found = []
  · subst hfound
    cases haccepts : pinning.acceptsNewHosts with
    | false =>
      rw [verifyBy_of_unknown hlookup haccepts]
      exact .refused _
    | true =>
      rw [verifyBy_of_new hlookup haccepts]
      exact .new hlookup haccepts
  · rw [verifyBy_of_mismatch hlookup hkey hfound]
    exact .refused _

/-- A host with a recorded key is not unknown. -/
theorem ne_nil_of_recorded (h : pinning.store.lookup hostId = .ok found)
    (hkey : keyOfType? found key.typeName = some key) : pinning.store.lookup hostId ≠ .ok [] := by
  intro hnone
  rw [Except.ok.inj (h.symm.trans hnone)] at hkey
  cases hkey

/-- A host that is accepted by an enforced decision has this key in the trust store, or it has no
record there and new hosts are accepted. -/
theorem known_or_new_of_verify {machine : Machine} {after : Verifying}
    (h : run (verify hostId key) { decision := .enforced pinning, machine } = (.ok (), after)) :
    (∃ entry ∈ pinning.store.entries,
        anyDenotes hostId entry.names = .ok true ∧ entry.key = key) ∨
      pinning.acceptsNewHosts = true ∧
        ∀ entry ∈ pinning.store.entries, anyDenotes hostId entry.names = .ok false := by
  have hverdict := verdict_verifyBy pinning hostId key
  rw [verify_of_enforced rfl] at h
  generalize verifyBy pinning hostId key = act at hverdict h
  cases hverdict with
  | refused fault => cases h
  | known hlookup hkey =>
    obtain ⟨entry, hentry, hsame⟩ := TrustStore.exists_of_keyOfType? hkey
    obtain ⟨hmem, hdenotes⟩ := (TrustStore.mem_lookup_iff hlookup).1 hentry
    exact .inl ⟨entry, hmem, hdenotes, hsame⟩
  | new hlookup haccepts => exact .inr ⟨haccepts, TrustStore.lookup_eq_nil_iff.1 hlookup⟩

end SecureForward.Verifying
