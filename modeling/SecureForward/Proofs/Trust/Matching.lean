import SecureForward.Proofs.Trust.RecordName

/-!
# Which entries are those of a host

A recorded name denotes a host if it is the host's name or a hashed form of it
(`denotes_eq_true_iff`). What denotes a recorded name denotes all that this name denotes
(`denotes_trans`), and no two names denote each other (`denotes_antisymm`). `Entry.isOf` is the
search of a store without its faults: `matching_eq_filter` says that a search which ends well keeps
the entries of the host, in their order.
-/

namespace SecureForward

namespace RecordName

open SecureForward.Text.Utf8 (Bytes)

variable {recorded name host : String} {s : Bytes}

/-- A recorded name denotes a host exactly when it is the host's name, or a hashed form of it. -/
theorem denotes_eq_true_iff :
    denotes recorded name = .ok true ↔
      recorded = name ∨ isHashed name = false ∧ ∃ s, hash s name = .ok recorded := by
  constructor
  · intro h
    unfold denotes at h
    by_cases heq : recorded = name
    · exact .inl heq
    rw [if_neg heq] at h
    by_cases hmarks : (isHashed recorded && !isHashed name) = true
    · rw [if_pos hmarks] at h
      have hname : isHashed name = false := by simp_all
      rcases hsalt : salt recorded with e | s
      · rw [hsalt] at h
        cases h
      rw [hsalt] at h
      change (hash s name >>= fun form => _) = _ at h
      rcases hform : hash s name with e | form
      · rw [hform] at h
        cases h
      rw [hform] at h
      have hsame : (form == recorded) = true := Except.ok.inj h
      exact .inr ⟨hname, s, by rw [hform, eq_of_beq hsame]⟩
    · rw [if_neg hmarks] at h
      cases h
  · rintro (rfl | ⟨hname, s, hhash⟩)
    · unfold denotes
      rw [if_pos rfl]
    · exact denotes_hashed hname hhash

/-- A name denotes itself. -/
theorem denotes_self (name : String) : denotes name name = .ok true :=
  denotes_eq_true_iff.2 (.inl rfl)

/-- A name that is not hashed denotes no other. -/
theorem eq_of_denotes (hplain : isHashed recorded = false) (h : denotes recorded name = .ok true) :
    recorded = name := by
  rcases denotes_eq_true_iff.1 h with heq | ⟨-, s, hhash⟩
  · exact heq
  · rw [eq_hashed_of_hash hhash, isHashed_hashed] at hplain
    cases hplain

/-- A hashed name is denoted by itself only. -/
theorem eq_of_denotes_hash (hhash : hash s host = .ok name) (h : denotes recorded name = .ok true) :
    recorded = name := by
  have hname : isHashed name = true := eq_hashed_of_hash hhash ▸ isHashed_hashed s host
  rcases denotes_eq_true_iff.1 h with heq | ⟨hplain, -⟩
  · exact heq
  · rw [hname] at hplain
    cases hplain

/-- What denotes a name denotes everything that this name denotes. -/
theorem denotes_trans (h : denotes recorded name = .ok true) (h' : denotes name host = .ok true) :
    denotes recorded host = .ok true := by
  rcases denotes_eq_true_iff.1 h' with rfl | ⟨-, s, hhash⟩
  · exact h
  · rwa [eq_of_denotes_hash hhash h]

/-- No two names denote each other. -/
theorem denotes_antisymm (h : denotes name host = .ok true) (h' : denotes host name = .ok true) :
    name = host := by
  rcases denotes_eq_true_iff.1 h with heq | ⟨-, s, hhash⟩
  · exact heq
  · exact (eq_of_denotes_hash hhash h').symm

/-- A name that begins like a hashed one has a salt, and the salt has the right length. -/
def IsWellFormed (recorded : String) : Prop :=
  isHashed recorded = true → ∃ s, salt recorded = .ok s ∧ s.length = Digest.sha1Size

/-- It can be told of a well-formed name whether it denotes a host. -/
theorem IsWellFormed.exists_denotes (h : IsWellFormed recorded) (host : String) :
    ∃ answer, denotes recorded host = .ok answer := by
  unfold denotes
  by_cases heq : recorded = host
  · exact ⟨true, if_pos heq⟩
  rw [if_neg heq]
  by_cases hmarks : (isHashed recorded && !isHashed host) = true
  · obtain ⟨s, hsalt, hlength⟩ := h (by simp_all)
    rw [if_pos hmarks, hsalt]
    change ∃ answer, (hash s host >>= fun form => _) = Except.ok answer
    unfold hash
    rw [if_pos hlength]
    exact ⟨_, rfl⟩
  · rw [if_neg hmarks]
    exact ⟨false, rfl⟩

/-- Only a salt of the right length hides a name. -/
theorem length_of_hash (h : hash s name = .ok recorded) : s.length = Digest.sha1Size := by
  unfold hash at h
  split at h
  · assumption
  · cases h

/-- The digest can be read from a hashed name. -/
theorem digest_eq_of_hashed_eq (h : hashed s name = hashed s host) :
    digest s name = digest s host := by
  unfold hashed at h
  have hencoded : Base64.encode (digest s name) = Base64.encode (digest s host) := by
    simpa using String.ofList_injective h
  have hdecoded := congrArg Base64.decode hencoded
  rw [Base64.decode_encode, Base64.decode_encode] at hdecoded
  exact Except.ok.inj hdecoded

/-- A hashed name does not denote a name with another digest. -/
theorem denotes_of_digest_ne (hhost : isHashed host = false) (hhash : hash s name = .ok recorded)
    (hne : digest s name ≠ digest s host) : denotes recorded host = .ok false := by
  have hrecorded := eq_hashed_of_hash hhash
  have hmarked : isHashed recorded = true := hrecorded ▸ isHashed_hashed s name
  have hsalt : salt recorded = .ok s := hrecorded ▸ salt_hashed s name
  have hother : recorded ≠ host := by
    rintro rfl
    rw [hhost] at hmarked
    cases hmarked
  unfold denotes
  rw [if_neg hother, if_pos (by simp [hmarked, hhost]), hsalt]
  change (hash s host >>= fun form => _) = _
  unfold hash
  rw [if_pos (length_of_hash hhash)]
  change Except.ok (hashed s host == recorded) = _
  rw [beq_eq_false_iff_ne.2]
  intro hsame
  exact hne (digest_eq_of_hashed_eq (hrecorded.symm.trans hsame.symm))

end RecordName

namespace TrustStore

open RecordName (denotes IsWellFormed)

variable {host : String} {entries found : List Entry}

/-- Whether one of the names of an entry denotes a host. -/
def Entry.isOf (host : String) (entry : Entry) : Bool :=
  entry.names.any fun name => (denotes name host).toOption == some true

/-- An entry is one of a host exactly when one of its names denotes the host. -/
theorem Entry.isOf_iff {entry : Entry} :
    entry.isOf host = true ↔ ∃ name ∈ entry.names, denotes name host = .ok true := by
  have hanswer (name : String) :
      (denotes name host).toOption = some true ↔ denotes name host = .ok true := by
    rcases denotes name host with e | answer <;> simp [Except.toOption]
  simp [Entry.isOf, hanswer]

/-- What a search of the names of an entry answers. -/
theorem eq_isOf_of_anyDenotes {entry : Entry} {answer : Bool}
    (h : anyDenotes host entry.names = .ok answer) : answer = entry.isOf host := by
  unfold Entry.isOf
  generalize entry.names = names at h
  induction names with
  | nil =>
    cases h
    rfl
  | cons name names ih =>
    rw [anyDenotes] at h
    rw [List.any_cons]
    rcases hname : denotes name host with e | _ | _
    · rw [hname] at h
      cases h
    · rw [hname] at h
      rw [ih h]
      rfl
    · rw [hname] at h
      rw [← Except.ok.inj h]
      rfl

/-- A search that ends well finds the entries of the host, in their order. -/
theorem matching_eq_filter (h : matching host entries = .ok found) :
    found = entries.filter (Entry.isOf host) := by
  induction entries generalizing found with
  | nil =>
    cases h
    rfl
  | cons entry entries ih =>
    obtain ⟨here, rest, hhere, hrest, rfl⟩ := matching_cons_eq_ok_iff.1 h
    rw [List.filter_cons, ← eq_isOf_of_anyDenotes hhere, ih hrest]

/-- A search goes on behind other entries. -/
theorem matching_append {others found' : List Entry} (h : matching host entries = .ok found)
    (h' : matching host others = .ok found') :
    matching host (entries ++ others) = .ok (found ++ found') := by
  induction entries generalizing found with
  | nil =>
    cases h
    exact h'
  | cons entry entries ih =>
    obtain ⟨here, rest, hhere, hrest, rfl⟩ := matching_cons_eq_ok_iff.1 h
    refine matching_cons_eq_ok_iff.2 ⟨here, rest ++ found', hhere, ih hrest, ?_⟩
    cases here <;> rfl

/-- Names of which each can be examined can be searched. -/
theorem exists_anyDenotes {names : List String} (h : ∀ name ∈ names, IsWellFormed name)
    (host : String) : ∃ answer, anyDenotes host names = .ok answer := by
  induction names with
  | nil => exact ⟨false, rfl⟩
  | cons name names ih =>
    obtain ⟨hname, hnames⟩ := List.forall_mem_cons.1 h
    obtain ⟨answer, hanswer⟩ := hname.exists_denotes host
    rw [anyDenotes, hanswer]
    cases answer with
    | true => exact ⟨true, rfl⟩
    | false => exact ih hnames

/-- A search ends well where all names are well formed. -/
theorem matching_of_wellFormed (h : ∀ entry ∈ entries, ∀ name ∈ entry.names, IsWellFormed name)
    (host : String) : matching host entries = .ok (entries.filter (Entry.isOf host)) := by
  suffices hfound : ∃ found, matching host entries = .ok found by
    obtain ⟨found, hfound⟩ := hfound
    rw [hfound, matching_eq_filter hfound]
  induction entries with
  | nil => exact ⟨[], rfl⟩
  | cons entry entries ih =>
    obtain ⟨hentry, hentries⟩ := List.forall_mem_cons.1 h
    obtain ⟨here, hhere⟩ := exists_anyDenotes hentry host
    obtain ⟨rest, hrest⟩ := ih hentries
    exact ⟨_, matching_cons_eq_ok_iff.2 ⟨here, rest, hhere, hrest, rfl⟩⟩

/-- A host that has a key has an entry with this key. -/
theorem exists_of_check {store : TrustStore} {key : HostKey}
    (h : store.check host key = .ok true) :
    ∃ entry ∈ store.entries, entry.isOf host = true ∧ entry.key = key := by
  rcases hlookup : store.lookup host with fault | found
  · rw [check_of_lookup_error hlookup] at h
    cases h
  · rw [check_of_lookup hlookup] at h
    obtain ⟨entry, hentry, hkey⟩ := exists_of_keyOfType? (eq_of_beq (Except.ok.inj h))
    rw [matching_eq_filter hlookup, List.mem_filter] at hentry
    exact ⟨entry, hentry.1, hentry.2, hkey⟩

/-- The key of a type among entries is sought among the later ones if the earlier ones have none. -/
theorem keyOfType?_append (entries others : List Entry) (typeName : String) :
    keyOfType? (entries ++ others) typeName =
      (keyOfType? entries typeName).or (keyOfType? others typeName) := by
  unfold keyOfType?
  rw [List.find?_append, Option.map_or]

end TrustStore

end SecureForward
