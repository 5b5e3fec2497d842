import Mathlib.Data.List.Nodup
import SecureForward.Proofs.Trust.Faults
import SecureForward.Proofs.Trust.FirstRecord

/-!
# Which key type comes first

A host is asked for one key type first, and the algorithms that are available are put in an order
for it. `orderTypes_reorders` says what the order is: the wanted algorithms that are available in
front, the others behind them as they stood, and nothing lost or added.
`preferred_type_follows_store` says which type is wanted: that of the host's first entry, or, if the
host has none, that of the first entry of all.

The type of the first entry of all is found by a search for the first recorded name. This name is
one of the first entry (`names_ne_nil_of_addLines`), and it denotes itself, so the search comes upon
this entry first (`firstType?_names`). It does not fail if a search for the host ended well and
found nothing, since then every hashed name was examined (`wellFormed_of_lookup_eq_nil`). A host
that begins like a hashed name is the exception: it is compared with the names as they are, and none
of them is examined.
-/

namespace SecureForward

namespace Pinning

variable {pinning : Pinning} {available : List String} {name : String}

/-- The algorithms that a decision wants first. Without a preferred type there are none, and an
empty type is none. -/
def wanted (pinning : Pinning) : List String :=
  match pinning.preferredType with
  | none => []
  | some keyType => if keyType.isEmpty then [] else wantedTypes keyType

/-- The wanted algorithms that are available. -/
def front (pinning : Pinning) (available : List String) : List String :=
  pinning.wanted.filter available.contains

/-- The available algorithms that are not wanted first. -/
def rest (pinning : Pinning) (available : List String) : List String :=
  available.filter fun name => !pinning.wanted.contains name

/-- An algorithm stands in front if it is wanted and available. -/
theorem mem_front_iff :
    name ∈ pinning.front available ↔ name ∈ pinning.wanted ∧ name ∈ available := by
  unfold front
  rw [List.mem_filter, List.contains_iff_mem]

/-- An algorithm is left for the rest if it is available and not wanted. -/
theorem mem_rest_iff :
    name ∈ pinning.rest available ↔ name ∈ available ∧ name ∉ pinning.wanted := by
  unfold rest
  rw [List.mem_filter, Bool.not_eq_true', ← Bool.not_eq_true, List.contains_iff_mem]

/-- No algorithm is wanted twice. -/
theorem nodup_wanted (pinning : Pinning) : pinning.wanted.Nodup := by
  unfold wanted wantedTypes
  split
  · exact List.nodup_nil
  · split
    · exact List.nodup_nil
    · split
      · decide
      · exact List.nodup_singleton _

/-- Of an available algorithm it is the same whether it is wanted or stands in front. -/
theorem filter_not_front (pinning : Pinning) (available : List String) :
    (available.filter fun name => !(pinning.front available).contains name) =
      pinning.rest available := by
  apply List.filter_congr
  intro name hname
  rw [Bool.not_inj_iff, Bool.eq_iff_iff, List.contains_iff_mem, List.contains_iff_mem,
    mem_front_iff]
  exact ⟨fun h => h.1, fun h => ⟨h, hname⟩⟩

/-- If nothing is wanted, the rest is all that there is. -/
theorem front_append_rest_of_nil (hwanted : pinning.wanted = []) :
    pinning.front available ++ pinning.rest available = available := by
  unfold front rest
  rw [hwanted, List.filter_nil, List.nil_append]
  apply List.filter_eq_self.2
  intro name _
  rfl

/-- The wanted algorithms come first, and the rest behind them. -/
theorem orderTypes_eq (pinning : Pinning) (available : List String) :
    pinning.orderTypes available = pinning.front available ++ pinning.rest available := by
  rcases htype : pinning.preferredType with _ | keyType
  · have hwanted : pinning.wanted = [] := by
      unfold wanted
      rw [htype]
    rw [front_append_rest_of_nil hwanted]
    unfold orderTypes
    rw [htype]
  · by_cases hempty : keyType.isEmpty = true
    · have hwanted : pinning.wanted = [] := by
        unfold wanted
        rw [htype]
        exact if_pos hempty
      rw [front_append_rest_of_nil hwanted]
      unfold orderTypes
      rw [htype]
      exact if_pos hempty
    · have hwanted : pinning.wanted = wantedTypes keyType := by
        unfold wanted
        rw [htype]
        exact if_neg hempty
      have hfront : (wantedTypes keyType).filter available.contains = pinning.front available := by
        unfold front
        rw [hwanted]
      calc pinning.orderTypes available
          = (wantedTypes keyType).filter available.contains ++ available.filter fun name =>
              !((wantedTypes keyType).filter available.contains).contains name := by
            unfold orderTypes
            rw [htype]
            exact if_neg hempty
        _ = pinning.front available ++ pinning.rest available := by rw [hfront, filter_not_front]

/-- Ordering loses no algorithm and adds none. -/
theorem mem_orderTypes_iff : name ∈ pinning.orderTypes available ↔ name ∈ available := by
  rw [orderTypes_eq, List.mem_append, mem_front_iff, mem_rest_iff]
  constructor
  · rintro (⟨-, h⟩ | ⟨h, -⟩)
    · exact h
    · exact h
  · intro h
    by_cases hwanted : name ∈ pinning.wanted
    · exact .inl ⟨hwanted, h⟩
    · exact .inr ⟨h, hwanted⟩

/-- No algorithm is there twice in the order if none is available twice. -/
theorem nodup_orderTypes (h : available.Nodup) : (pinning.orderTypes available).Nodup := by
  have hfront : (pinning.front available).Nodup := (nodup_wanted pinning).filter _
  have hrest : (pinning.rest available).Nodup := h.filter _
  have hapart : (pinning.front available).Disjoint (pinning.rest available) := by
    intro name hname hname'
    exact (mem_rest_iff.1 hname').2 (mem_front_iff.1 hname).1
  rw [orderTypes_eq]
  exact hfront.append hrest hapart

/-- In an order the same algorithms are in front as before. -/
theorem front_orderTypes (pinning : Pinning) (available : List String) :
    pinning.front (pinning.orderTypes available) = pinning.front available := by
  unfold front
  apply List.filter_congr
  intro name _
  rw [Bool.eq_iff_iff, List.contains_iff_mem, List.contains_iff_mem, mem_orderTypes_iff]

/-- In an order the same algorithms are left as before. -/
theorem rest_orderTypes (pinning : Pinning) (available : List String) :
    pinning.rest (pinning.orderTypes available) = pinning.rest available := by
  have hfront :
      (pinning.front available).filter (fun name => !pinning.wanted.contains name) = [] := by
    apply List.filter_eq_nil_iff.2
    intro name hname
    have hwanted := (mem_front_iff.1 hname).1
    simpa using hwanted
  have hrest : (pinning.rest available).filter (fun name => !pinning.wanted.contains name) =
      pinning.rest available := by
    unfold rest
    rw [List.filter_filter]
    simp only [Bool.and_self]
  calc pinning.rest (pinning.orderTypes available)
      = (pinning.front available ++ pinning.rest available).filter
          (fun name => !pinning.wanted.contains name) := by
        rw [← orderTypes_eq]
        rfl
    _ = pinning.rest available := by rw [List.filter_append, hfront, hrest, List.nil_append]

/-- Ordering the available algorithms only reorders them. Those that are wanted and available come
first, as they are wanted: without a preferred type, or with an empty one, none, for RSA keys the
three algorithms from the best on, and for other keys the one of their type. The others follow in
the order in which they stood. The same algorithms are there as before, each as often if none of
them was there twice, and ordering them again changes nothing. -/
theorem orderTypes_reorders (pinning : Pinning) (available : List String) :
    pinning.wanted = (match pinning.preferredType with
        | none => []
        | some keyType =>
          if keyType = "" then []
          else if keyType = "ssh-rsa" then ["rsa-sha2-512", "rsa-sha2-256", "ssh-rsa"]
          else [keyType]) ∧
      pinning.orderTypes available =
        pinning.wanted.filter (fun name => decide (name ∈ available)) ++
          available.filter (fun name => decide (name ∉ pinning.wanted)) ∧
      (available.Nodup → (pinning.orderTypes available).Perm available) ∧
      pinning.orderTypes (pinning.orderTypes available) = pinning.orderTypes available ∧
      ∀ name, name ∈ pinning.orderTypes available ↔ name ∈ available := by
  refine ⟨?_, ?_, fun h => ?_, ?_, fun name => mem_orderTypes_iff⟩
  · unfold wanted
    rcases pinning.preferredType with _ | keyType
    · rfl
    · by_cases hempty : keyType = ""
      · subst hempty
        rfl
      · have hisEmpty : ¬keyType.isEmpty = true := mt String.isEmpty_iff.1 hempty
        dsimp only
        rw [if_neg hisEmpty, if_neg hempty]
        rfl
  · have hfront : pinning.front available =
        pinning.wanted.filter (fun name => decide (name ∈ available)) := by
      unfold front
      exact List.filter_congr fun name _ => List.contains_eq_mem name available
    have hrest : pinning.rest available =
        available.filter (fun name => decide (name ∉ pinning.wanted)) := by
      unfold rest
      simp only [List.contains_eq_mem, decide_not]
    rw [orderTypes_eq, hfront, hrest]
  · exact (List.perm_ext_iff_of_nodup (nodup_orderTypes h) h).2 fun name => mem_orderTypes_iff
  · calc pinning.orderTypes (pinning.orderTypes available)
        = pinning.front (pinning.orderTypes available) ++
            pinning.rest (pinning.orderTypes available) :=
          orderTypes_eq pinning _
      _ = pinning.front available ++ pinning.rest available := by
        rw [front_orderTypes, rest_orderTypes]
      _ = pinning.orderTypes available := (orderTypes_eq pinning available).symm

/-- A decision with nothing but a preferred key type. -/
def preferring (preferredType : Option String) : Pinning :=
  { storePath := TrustStore.trialPath, store := .empty, preferredType, hashesNames := true,
    acceptsNewHosts := false }

/-- For RSA keys the best of the available algorithms comes first, and what is not for RSA keys
stays behind in its order. -/
theorem orderTypes_reorders_trial :
    let available := ["ssh-ed25519", "ssh-rsa", "ecdsa-sha2-nistp256", "rsa-sha2-512"]
    let ordered := (preferring (some "ssh-rsa")).orderTypes available
    ordered = ["rsa-sha2-512", "ssh-rsa", "ssh-ed25519", "ecdsa-sha2-nistp256"] ∧
      ordered.Perm available ∧ (preferring (some "ssh-rsa")).orderTypes ordered = ordered := by
  intro available ordered
  obtain ⟨-, -, hperm, hagain, -⟩ := orderTypes_reorders (preferring (some "ssh-rsa")) available
  exact ⟨by decide, hperm (by decide), hagain⟩

/-- An empty key type is preferred and available, and does not come first. -/
theorem empty_type_stays_behind :
    let available := ["ssh-ed25519", ""]
    (preferring (some "")).preferredType = some "" ∧ available.Nodup ∧ "" ∈ available ∧
      (preferring (some "")).orderTypes available = ["ssh-ed25519", ""] ∧
      ¬[""] <+: (preferring (some "")).orderTypes available := by
  decide

/-- A preferred key type that is available and not that of RSA keys comes first. -/
theorem head?_orderTypes {keyType : String} (htype : pinning.preferredType = some keyType)
    (hempty : keyType ≠ "") (hrsa : keyType ≠ "ssh-rsa") (hmem : keyType ∈ available) :
    (pinning.orderTypes available).head? = some keyType := by
  have hwanted : pinning.wanted = [keyType] := by
    unfold wanted wantedTypes
    rw [htype]
    dsimp only
    rw [if_neg (mt String.isEmpty_iff.1 hempty), if_neg hrsa]
  have hfront : pinning.front available = [keyType] := by
    unfold front
    rw [hwanted]
    simpa using hmem
  rw [orderTypes_eq, hfront]
  rfl

/-- If RSA keys are preferred, the algorithms for them that are available come before all others. -/
theorem orderTypes_of_rsa (htype : pinning.preferredType = some "ssh-rsa")
    (available : List String) :
    ∃ behind, pinning.orderTypes available = rsaAlgorithms.filter available.contains ++ behind ∧
      ∀ name ∈ behind, name ∉ rsaAlgorithms := by
  have hwanted : pinning.wanted = rsaAlgorithms := by
    unfold wanted
    rw [htype]
    rfl
  refine ⟨pinning.rest available, ?_, fun name hname => ?_⟩
  · rw [orderTypes_eq]
    unfold front
    rw [hwanted]
  · rw [← hwanted]
    exact (mem_rest_iff.1 hname).2

end Pinning

namespace TrustStore

open RecordName (IsWellFormed isHashed)

variable {store : TrustStore} {host : String} {found : List Entry}

/-- The key type of the first entry of a host, or, if the host has none, that of the first entry of
all. -/
def leadingType? (store : TrustStore) (host : String) : Option String :=
  ((store.entries.find? (Entry.isOf host)).or store.entries.head?).map (·.key.typeName)

/-- Only a store without entries has no leading type. -/
theorem leadingType?_eq_none_iff : store.leadingType? host = none ↔ store.entries = [] := by
  unfold leadingType?
  rw [Option.map_eq_none_iff, Option.or_eq_none_iff, List.head?_eq_none_iff]
  constructor
  · rintro ⟨-, h⟩
    exact h
  · intro h
    exact ⟨by rw [h]; rfl, h⟩

/-- A leading type is that of a key. -/
theorem exists_of_leadingType? {keyType : String} (h : store.leadingType? host = some keyType) :
    ∃ key : HostKey, key.typeName = keyType := by
  obtain ⟨entry, -, htype⟩ := Option.map_eq_some_iff.1 h
  exact ⟨entry.key, htype⟩

/-- Every entry of a store that was read has a name. -/
theorem names_ne_nil_of_addLines {content : List (List Char)}
    (h : empty.addLines content = .ok store) : ∀ entry ∈ store.entries, entry.names ≠ [] := by
  refine addLines_induction (I := fun _ store => ∀ entry ∈ store.entries, entry.names ≠ [])
    (fun _ hentry => by cases hentry) (fun before line store store' ih hadd => ?_) h
  intro entry hentry
  rcases hrecord : record? line with _ | record
  · rw [addLine_of_none hrecord hadd] at hentry
    exact ih entry hentry
  · obtain ⟨left, -, -, hentries⟩ := addLine_of_some hrecord hadd
    rw [hentries] at hentry
    rcases List.mem_append.1 hentry with hbefore | hnew
    · exact ih entry hbefore
    · -- A record without names is not kept.
      split at hnew
      · cases hnew
      · rename_i hleft
        obtain rfl := List.mem_singleton.1 hnew
        exact mt List.isEmpty_iff.2 hleft

/-- If a search for a plain name finds nothing, all names are well formed, as each of them was
examined. -/
theorem wellFormed_of_lookup_eq_nil (hplain : isHashed host = false)
    (h : store.lookup host = .ok []) :
    ∀ entry ∈ store.entries, ∀ name ∈ entry.names, IsWellFormed name := by
  intro entry hentry name hname hmarked
  have hdenotes := anyDenotes_eq_false_iff.1 (lookup_eq_nil_iff.1 h entry hentry) name hname
  have hne : name ≠ host := by
    rintro rfl
    rw [hplain] at hmarked
    cases hmarked
  unfold RecordName.denotes at hdenotes
  rw [if_neg hne, if_pos (by simp [hmarked, hplain])] at hdenotes
  obtain ⟨s, hsalt, hdenotes⟩ := bind_eq_ok_iff.1 hdenotes
  obtain ⟨form, hhash, -⟩ := bind_eq_ok_iff.1 hdenotes
  exact ⟨s, hsalt, RecordName.length_of_hash hhash⟩

/-- The search for the first recorded name comes upon the first entry of all, if it does not
fail. -/
theorem firstType?_names (hnames : ∀ entry ∈ store.entries, entry.names ≠ []) :
    store.firstType? store.names = .ok (store.entries.head?.map (·.key.typeName)) ∨
      ∃ name fault, store.lookup name = .error fault ∧
        store.firstType? store.names = .error fault := by
  rcases hentries : store.entries with _ | ⟨first, others⟩
  · left
    unfold names
    rw [hentries]
    rfl
  · have hfirst : first ∈ store.entries := hentries ▸ List.mem_cons_self
    obtain ⟨name, more, hname⟩ := List.exists_cons_of_ne_nil (hnames first hfirst)
    obtain ⟨behind, hbehind⟩ : ∃ behind, store.names = name :: behind := by
      unfold names
      rw [hentries, List.flatMap_cons, hname, List.cons_append, List.eraseDups_cons]
      exact ⟨_, rfl⟩
    rw [hbehind, firstType?]
    rcases hlookup : store.lookup name with fault | found
    · exact .inr ⟨name, fault, hlookup, rfl⟩
    · -- The first entry is found, and nothing is in front of it.
      left
      have hof : first.isOf name = true :=
        Entry.isOf_iff.2 ⟨name, by simp [hname], RecordName.denotes_self _⟩
      have hfound : found = first :: others.filter (Entry.isOf name) := by
        rw [matching_eq_filter hlookup, hentries, List.filter_cons_of_pos hof]
      rw [hfound]
      rfl

/-- If the search for a host ends well, its leading type is preferred. Only of a host that begins
like a hashed name and has no entry it can be that no type is told, because a name in the store is
flawed. -/
theorem preferredType?_of_lookup (hnames : ∀ entry ∈ store.entries, entry.names ≠ [])
    (h : store.lookup host = .ok found) :
    store.preferredType? host = .ok (store.leadingType? host) ∨
      isHashed host = true ∧ found = [] ∧
        ∃ fault, store.preferredType? host = .error fault ∧ store.HasFlawed fault := by
  have hfilter := matching_eq_filter h
  have hhead : store.entries.find? (Entry.isOf host) = found.head? := by
    rw [hfilter, List.head?_filter]
  cases found with
  | cons entry others =>
    left
    unfold preferredType? leadingType?
    rw [h, hhead]
    rfl
  | nil =>
    have hpreferred : store.preferredType? host = store.firstType? store.names := by
      unfold preferredType?
      rw [h]
      rfl
    have hleading : store.leadingType? host = store.entries.head?.map (·.key.typeName) := by
      unfold leadingType?
      rw [hhead]
      rfl
    rw [hpreferred, hleading]
    rcases firstType?_names hnames with hfirst | ⟨name, fault, hlookup, hfirst⟩
    · exact .inl hfirst
    · right
      refine ⟨?_, rfl, fault, hfirst, hasFlawed_of_lookup hlookup⟩
      by_contra hplain
      have hwell := wellFormed_of_lookup_eq_nil (Bool.eq_false_iff.2 hplain) h
      have hsearch : store.lookup name = .ok (store.entries.filter (Entry.isOf name)) :=
        matching_of_wellFormed hwell name
      rw [hlookup] at hsearch
      cases hsearch

end TrustStore

namespace TrustPolicy

open Act (run)
open RecordName (isHashed)
open TrustStore (trialFile trialKey trialMachine trialPath)
open Verifying (rotated rotatedPinning)

variable {policy : TrustPolicy} {config : Config} {machine : Machine} {pinning : Pinning}

/-- The entries of a loaded store have names. -/
theorem names_ne_nil_of_loadStore {path : Path} {store : TrustStore}
    (h : (run (loadStore path) machine).1 = .ok store) :
    ∀ entry ∈ store.entries, entry.names ≠ [] := by
  have hmachine := run_loadStore_snd path machine
  obtain ⟨bytes, -, -, hbytes, -⟩ := run_loadStore_eq_ok_iff.1 (Prod.ext h hmachine)
  exact TrustStore.names_ne_nil_of_addLines (TrustStore.fileLines_of_ofBytes hbytes).2

/-- An enforced decision prefers the leading type of its store for the host. -/
theorem preferredType_of_resolve
    (h : (run (policy.resolve config) machine).1 = .ok (.enforced pinning)) :
    pinning.preferredType = pinning.store.leadingType?
      (RecordName.ofHost config.host config.port) := by
  have hverifies : config.verifiesHost = true := by
    by_contra hnot
    have hdisabled : (run (policy.resolve config) machine).1 = .ok .disabled :=
      resolve_eq_disabled_iff.2 (Bool.eq_false_iff.2 hnot)
    cases h.symm.trans hdisabled
  obtain ⟨pinning', hpinning, -, hload, htype, -⟩ := enforced_of_resolve hverifies (Prod.ext h rfl)
  obtain rfl := Decision.enforced.inj hpinning
  rcases hlookup :
    pinning.store.lookup (RecordName.ofHost config.host config.port) with fault | found
  · unfold TrustStore.preferredType? at htype
    rw [hlookup] at htype
    cases htype
  · have hnames := names_ne_nil_of_loadStore (congrArg Prod.fst hload)
    rcases TrustStore.preferredType?_of_lookup hnames hlookup with
      hleading | ⟨-, -, fault, hfault, -⟩
    · exact Except.ok.inj (htype.symm.trans hleading)
    · cases htype.symm.trans hfault

/-- Of a loaded store and a host for which the search of the store ends well, the key type to prefer
is that of the first entry of the host, or, if it has none, that of the first entry of all, and
there is none only if the store has no entries. The exception is a host that begins like a hashed
name and has no entry: it may be that no type is told, because a name in the store is flawed. An
enforced decision has this type of its store, and offers it first where it is available; for RSA
keys it offers all of their algorithms that are available before any other. -/
theorem preferred_type_follows_store {path : Path} {machine : Machine} {store : TrustStore}
    {hostId : String}
    {found : List TrustStore.Entry} (hload : (run (loadStore path) machine).1 = .ok store)
    (hlookup : store.lookup hostId = .ok found) :
    (store.preferredType? hostId = .ok (((store.entries.find? (TrustStore.Entry.isOf hostId)).or
          store.entries.head?).map (·.key.typeName)) ∨
      isHashed hostId = true ∧ found = [] ∧
        ∃ fault, store.preferredType? hostId = .error fault ∧ store.HasFlawed fault) ∧
    (store.preferredType? hostId = .ok none ↔ store.entries = []) ∧
    ∀ {policy : TrustPolicy} {config : Config} {machine' : Machine} {pinning : Pinning},
      (run (policy.resolve config) machine').1 = .ok (.enforced pinning) →
        let decidedId := RecordName.ofHost config.host config.port
        pinning.preferredType = ((pinning.store.entries.find? (TrustStore.Entry.isOf decidedId)).or
            pinning.store.entries.head?).map (·.key.typeName) ∧
        ∀ available keyType, pinning.preferredType = some keyType →
          (keyType ≠ "ssh-rsa" → keyType ∈ available →
            ((Decision.enforced pinning).orderTypes available).head? = some keyType) ∧
          (keyType = "ssh-rsa" → ∃ behind, (Decision.enforced pinning).orderTypes available =
            ["rsa-sha2-512", "rsa-sha2-256", "ssh-rsa"].filter available.contains ++ behind ∧
              ∀ name ∈ behind, name ∉ ["rsa-sha2-512", "rsa-sha2-256", "ssh-rsa"]) := by
  have hcases := TrustStore.preferredType?_of_lookup (names_ne_nil_of_loadStore hload) hlookup
  refine ⟨hcases, ?_, ?_⟩
  · rcases hcases with hleading | ⟨-, -, fault, hfault, entry, hentry, -⟩
    · rw [hleading, Except.ok.injEq]
      exact TrustStore.leadingType?_eq_none_iff
    · -- A store in which a name is flawed has an entry.
      rw [hfault]
      constructor
      · intro h
        cases h
      · intro h
        rw [h] at hentry
        cases hentry
  · intro policy config machine' pinning h decidedId
    have htype := preferredType_of_resolve h
    refine ⟨htype, fun available keyType hkeyType => ⟨fun hrsa hmem => ?_, fun hrsa => ?_⟩⟩
    · have hempty : keyType ≠ "" := by
        obtain ⟨key, rfl⟩ := TrustStore.exists_of_leadingType? (htype.symm.trans hkeyType)
        intro hnil
        exact key.typeName_ne_nil (congrArg String.toList hnil)
      exact Pinning.head?_orderTypes hkeyType hempty hrsa hmem
    · subst hrsa
      exact Pinning.orderTypes_of_rsa hkeyType available

/-- A configuration whose host is recorded for another port only. -/
def movedConfig : Config :=
  { host := "gate", port := 2022, user := "ada", keyFile := "/key", knownHostsFile := some "/known",
    verifiesHost := true, targetHost := "db", targetPort := 5432, passphrase := .null,
    enabled := true }

/-- A host without an entry is asked for the type of the first entry of all, which is offered
first. -/
theorem preferred_type_follows_store_trial :
    let machine := trialMachine (trialFile rotated)
    let policy : TrustPolicy := { defaultStore := "", acceptsNewHosts := false }
    (run (loadStore trialPath) machine).1 = .ok rotatedPinning.store ∧
      rotatedPinning.store.lookup "[gate]:2022" = .ok [] ∧
      rotatedPinning.store.preferredType? "[gate]:2022" = .ok (some "ssh-ed25519") ∧
      (run (policy.resolve movedConfig) machine).1 = .ok (.enforced rotatedPinning) ∧
      ((Decision.enforced rotatedPinning).orderTypes ["rsa-sha2-512", "ssh-ed25519"]).head? =
        some "ssh-ed25519" := by
  intro machine policy
  have hlookup : rotatedPinning.store.lookup "[gate]:2022" = .ok [] := by rfl
  have hresolve :
      (run (policy.resolve movedConfig) machine).1.toOption = some (.enforced rotatedPinning) := by
    decide +kernel
  have hresolved :
      (run (policy.resolve movedConfig) machine).1 = .ok (.enforced rotatedPinning) := by
    rcases hrun : (run (policy.resolve movedConfig) machine).1 with fault | decision
    · rw [hrun] at hresolve
      cases hresolve
    · rw [hrun] at hresolve
      rw [Option.some.inj hresolve]
  obtain ⟨htype, -, hdecided⟩ := preferred_type_follows_store Verifying.load_rotated hlookup
  obtain ⟨-, hoffered⟩ := hdecided hresolved
  refine ⟨Verifying.load_rotated, hlookup, ?_, hresolved, ?_⟩
  · rcases htype with hleading | ⟨hhashed, -⟩
    · exact hleading
    · cases hhashed
  · exact (hoffered ["rsa-sha2-512", "ssh-ed25519"] "ssh-ed25519" rfl).1 (by decide) (by decide)

/-- Two entries of which the second has a name that begins like a hashed one and has a salt that is
too short. -/
def flawed : List TrustStore.Entry :=
  [{ names := ["gate"], key := trialKey 1 }, { names := ["|1|AAAA|AAAA"], key := trialKey 2 }]

/-- In a store with entries, the search for a host ends well and finds none, and no type is told for
it. -/
theorem hashed_host_without_type :
    let store : TrustStore := { entries := flawed }
    (run (loadStore trialPath) (trialMachine (trialFile flawed))).1 = .ok store ∧
      store.lookup "|1|gate" = .ok [] ∧
      store.entries.head?.map (·.key.typeName) = some "ssh-ed25519" ∧
      store.preferredType? "|1|gate" = .error .saltLength :=
  ⟨TrustStore.load_trialMachine (by decide +kernel), by rfl, by rfl, by rfl⟩

end TrustPolicy

end SecureForward
