import SecureForward.Trust.Store

/-!
# Searching a trust store

What a search of a trust store finds, in terms of its entries: `mem_lookup_iff` and
`lookup_eq_nil_iff` for the entries of a host, and `exists_of_check` for a key that a host has.
-/

namespace SecureForward.TrustStore

/-- A search goes on after an entry, which is found if one of its names denotes the host. -/
theorem matching_cons_eq_ok_iff {host : String} {entry : Entry} {entries found : List Entry} :
    matching host (entry :: entries) = .ok found ↔
      ∃ here rest, anyDenotes host entry.names = .ok here ∧ matching host entries = .ok rest ∧
        found = if here then entry :: rest else rest := by
  rw [matching]
  rcases anyDenotes host entry.names with e | here
  · constructor
    · intro h
      cases h
    · rintro ⟨_, _, h, _⟩
      cases h
  rcases hrest : matching host entries with e | rest
  · constructor
    · intro h
      cases h
    · rintro ⟨_, _, _, h, _⟩
      cases h
  constructor
  · intro h
    exact ⟨here, rest, rfl, rfl, (Except.ok.inj h).symm⟩
  · rintro ⟨here', rest', hhere, hrest', rfl⟩
    cases hhere
    cases hrest'
    rfl

/-- A search that succeeds finds the entries of which a name denotes the host. -/
theorem mem_matching_iff {host : String} {entries found : List Entry}
    (h : matching host entries = .ok found) {entry : Entry} :
    entry ∈ found ↔ entry ∈ entries ∧ anyDenotes host entry.names = .ok true := by
  induction entries generalizing found with
  | nil =>
    cases h
    simp
  | cons head entries ih =>
    obtain ⟨here, rest, hhere, hrest, rfl⟩ := matching_cons_eq_ok_iff.1 h
    cases here with
    | true =>
      rw [if_pos rfl, List.mem_cons, List.mem_cons, ih hrest]
      constructor
      · rintro (rfl | ⟨hmem, hdenotes⟩)
        · exact ⟨.inl rfl, hhere⟩
        · exact ⟨.inr hmem, hdenotes⟩
      · rintro ⟨rfl | hmem, hdenotes⟩
        · exact .inl rfl
        · exact .inr ⟨hmem, hdenotes⟩
    | false =>
      rw [if_neg Bool.false_ne_true, ih hrest, List.mem_cons]
      constructor
      · rintro ⟨hmem, hdenotes⟩
        exact ⟨.inr hmem, hdenotes⟩
      · rintro ⟨rfl | hmem, hdenotes⟩
        · rw [hhere] at hdenotes
          cases hdenotes
        · exact ⟨hmem, hdenotes⟩

/-- A search that succeeds finds the entries of the host. -/
theorem mem_lookup_iff {store : TrustStore} {host : String} {found : List Entry}
    (h : store.lookup host = .ok found) {entry : Entry} :
    entry ∈ found ↔ entry ∈ store.entries ∧ anyDenotes host entry.names = .ok true :=
  mem_matching_iff h

/-- A search finds nothing exactly when it fails nowhere and no name denotes the host. -/
theorem matching_eq_nil_iff {host : String} {entries : List Entry} :
    matching host entries = .ok [] ↔
      ∀ entry ∈ entries, anyDenotes host entry.names = .ok false := by
  induction entries with
  | nil => simp [matching]
  | cons head entries ih =>
    rw [matching_cons_eq_ok_iff, List.forall_mem_cons, ← ih]
    constructor
    · rintro ⟨here, rest, hhere, hrest, hfound⟩
      cases here with
      | true => cases hfound
      | false => exact ⟨hhere, by rw [hrest, hfound]; rfl⟩
    · rintro ⟨hhere, hrest⟩
      exact ⟨false, [], hhere, hrest, rfl⟩

/-- A host has no entry exactly when no name of an entry denotes it. -/
theorem lookup_eq_nil_iff {store : TrustStore} {host : String} :
    store.lookup host = .ok [] ↔
      ∀ entry ∈ store.entries, anyDenotes host entry.names = .ok false :=
  matching_eq_nil_iff

/-- Whether a host has a key is told by the entries that are found for it. -/
theorem check_of_lookup {store : TrustStore} {host : String} {found : List Entry}
    (h : store.lookup host = .ok found) (key : HostKey) :
    store.check host key = .ok (keyOfType? found key.typeName == some key) := by
  unfold check
  rw [h]
  rfl

/-- A search that fails is no answer to whether a host has a key. -/
theorem check_of_lookup_error {store : TrustStore} {host : String} {fault : Fault}
    (h : store.lookup host = .error fault) (key : HostKey) :
    store.check host key = .error fault := by
  unfold check
  rw [h]
  rfl

/-- The key of a type among entries is that of one of them. -/
theorem exists_of_keyOfType? {entries : List Entry} {typeName : String} {key : HostKey}
    (h : keyOfType? entries typeName = some key) : ∃ entry ∈ entries, entry.key = key := by
  obtain ⟨entry, hfind, hkey⟩ := Option.map_eq_some_iff.1 h
  exact ⟨entry, List.mem_of_find?_eq_some hfind, hkey⟩

end SecureForward.TrustStore
