import SecureForward.Proofs.Trust.Records

/-!
# What can be wrong with a trust store

A trust decision is made of a path, a file, its lines and the names in them, and each of these can
fail. Most of this is a refusal that blames the trust store. What is not is a `Stray` fault: it
stems from a path that leads nowhere, from a key that is base64 but no key, or from a name that
begins like a hashed one but is none. `resolved_resolve` says that there is nothing else, and the
constructors of `Stray` name the line and the name at fault.
-/

namespace SecureForward

open Act (run)
open SecureForward.Text (completeLines lines trim unifyBreaks)
open SecureForward.Text.Utf8 (Bytes)

/-- A fault is a refusal that blames the trust store, because it is missing or cannot be used. -/
def Fault.BlamesStore (fault : Fault) : Prop :=
  ∃ reason, fault.reason? = some reason ∧ reason.family = .configuration ∧
    (reason.kind = "trust-store-not-found" ∨ reason.kind = "trust-store-invalid")

namespace RecordName

/-- A name begins like a hashed one and it cannot be told what it denotes, for this reason: its salt
is not base64, or has the wrong length. -/
def Flawed (recorded : String) (fault : Fault) : Prop :=
  isHashed recorded = true ∧
    (salt recorded = .error fault ∨
      fault = .saltLength ∧ ∃ s, salt recorded = .ok s ∧ s.length ≠ Digest.sha1Size)

/-- Only of a flawed name it cannot be told whether it denotes another one. -/
theorem flawed_of_denotes {recorded name : String} {fault : Fault}
    (h : denotes recorded name = .error fault) : Flawed recorded fault := by
  unfold denotes at h
  by_cases heq : recorded = name
  · rw [if_pos heq] at h
    cases h
  rw [if_neg heq] at h
  by_cases hmarks : (isHashed recorded && !isHashed name) = true
  · rw [if_pos hmarks] at h
    have hmarked : isHashed recorded = true := (Bool.and_eq_true_iff.1 hmarks).1
    rcases bind_eq_error_iff.1 h with hsalt | ⟨s, hsalt, h⟩
    · exact ⟨hmarked, .inl hsalt⟩
    rcases bind_eq_error_iff.1 h with hhash | ⟨form, -, h⟩
    · unfold hash at hhash
      split at hhash
      · cases hhash
      · exact ⟨hmarked, .inr ⟨(Except.error.inj hhash).symm, s, hsalt, ‹_›⟩⟩
    · cases h
  · rw [if_neg hmarks] at h
    cases h

end RecordName

namespace TrustStore

open RecordName (Flawed)

variable {store store' : TrustStore} {host : String} {fault : Fault} {line : List Char}
  {content : List (List Char)} {path : String} {bytes : Bytes}

/-! ## Searching -/

/-- A search of names fails at one of them. -/
theorem exists_flawed_of_anyDenotes {names : List String}
    (h : anyDenotes host names = .error fault) : ∃ name ∈ names, Flawed name fault := by
  induction names with
  | nil => cases h
  | cons name names ih =>
    rcases bind_eq_error_iff.1 h with hname | ⟨found, -, h⟩
    · exact ⟨name, List.mem_cons_self, RecordName.flawed_of_denotes hname⟩
    · cases found with
      | true => cases h
      | false =>
        obtain ⟨other, hother, hflawed⟩ := ih h
        exact ⟨other, List.mem_cons_of_mem _ hother, hflawed⟩

/-- A name in the store is flawed. -/
def HasFlawed (store : TrustStore) (fault : Fault) : Prop :=
  ∃ entry ∈ store.entries, ∃ name ∈ entry.names, Flawed name fault

/-- What is wrong with a name is not taken for a failure to load the store. -/
theorem HasFlawed.isLoadFault_eq_false (h : store.HasFlawed fault) : isLoadFault fault = false := by
  obtain ⟨-, -, name, -, -, hsalt | ⟨rfl, -⟩⟩ := h
  · unfold RecordName.salt at hsalt
    dsimp only at hsalt
    split at hsalt
    · cases hsalt
    · obtain rfl := Except.error.inj hsalt
      rfl
  · rfl

/-- A search of a store fails at one of its names. -/
theorem hasFlawed_of_lookup (h : store.lookup host = .error fault) : store.HasFlawed fault := by
  have hentries (entries : List Entry) (h : matching host entries = .error fault) :
      ∃ entry ∈ entries, ∃ name ∈ entry.names, Flawed name fault := by
    induction entries with
    | nil => cases h
    | cons entry entries ih =>
      rcases bind_eq_error_iff.1 h with hentry | ⟨found, -, h⟩
      · exact ⟨entry, List.mem_cons_self, exists_flawed_of_anyDenotes hentry⟩
      · rcases bind_eq_error_iff.1 h with hrest | ⟨rest, -, h⟩
        · obtain ⟨other, hother, hflawed⟩ := ih hrest
          exact ⟨other, List.mem_cons_of_mem _ hother, hflawed⟩
        · cases h
  exact hentries store.entries h

/-- The key type to prefer cannot be told if a name in the store is flawed. -/
theorem hasFlawed_of_preferredType? (h : store.preferredType? host = .error fault) :
    store.HasFlawed fault := by
  have hfirst (hosts : List String) (h : store.firstType? hosts = .error fault) :
      store.HasFlawed fault := by
    induction hosts with
    | nil => cases h
    | cons name hosts ih =>
      rcases bind_eq_error_iff.1 h with hlookup | ⟨found, -, h⟩
      · exact hasFlawed_of_lookup hlookup
      · cases found with
        | nil => exact ih h
        | cons => cases h
  rcases bind_eq_error_iff.1 h with hlookup | ⟨found, -, h⟩
  · exact hasFlawed_of_lookup hlookup
  · cases found with
    | nil => exact hfirst _ h
    | cons => cases h

/-- Dropping known names fails where it cannot be told whether one is known. -/
theorem exists_of_dropKnown_error {known : String → Except Fault Bool} {done names : List String}
    (h : dropKnown known done names = .error fault) : ∃ name, known name = .error fault := by
  fun_induction dropKnown known done names with
  | case1 => cases h
  | case2 done name rest ihdrop ihkeep =>
    rcases bind_eq_error_iff.1 h with hname | ⟨here, -, h⟩
    · exact ⟨name, hname⟩
    · cases here with
      | true => exact ihdrop h
      | false => exact ihkeep h

/-! ## Reading -/

/-- A line fails to add its record because it is no record, or because a name in the store is
flawed. -/
theorem of_addLine_error (h : store.addLine line = .error fault) :
    isPassedOver (trim line) = false ∧ Entry.ofLine (trim line) = .error fault ∨
      store.HasFlawed fault := by
  unfold addLine at h
  dsimp only at h
  split at h
  · cases h
  · rename_i hpassed
    have hpassed : isPassedOver (trim line) = false := by simpa using hpassed
    split at h
    · rename_i e hline
      split at h
      · cases h
      · obtain rfl := Except.error.inj h
        exact .inl ⟨hpassed, hline⟩
    · cases h
    · rename_i record hline
      rcases bind_eq_error_iff.1 h with hdrop | ⟨left, -, h⟩
      · obtain ⟨name, hname⟩ := exists_of_dropKnown_error hdrop
        rcases hlookup : store.lookup name with e | found
        · rw [check_of_lookup_error hlookup] at hname
          obtain rfl := Except.error.inj hname
          exact .inr (hasFlawed_of_lookup hlookup)
        · rw [check_of_lookup hlookup] at hname
          cases hname
      · cases h

/-- What is read fails at a line behind others that were read. -/
theorem exists_of_addLines_error {start : TrustStore} (h : start.addLines content = .error fault) :
    ∃ before line after store, content = before ++ line :: after ∧
      start.addLines before = .ok store ∧ store.addLine line = .error fault := by
  induction content generalizing start with
  | nil => cases h
  | cons line content ih =>
    rcases bind_eq_error_iff.1 h with hline | ⟨next, hnext, h⟩
    · exact ⟨[], line, content, start, rfl, rfl, hline⟩
    · obtain ⟨before, line', after, store, rfl, hbefore, hline'⟩ := ih h
      refine ⟨line :: before, line', after, store, rfl, ?_, hline'⟩
      rw [addLines, hnext]
      exact hbefore

/-- A line in these is no record, or one of the names in front of a record in them is flawed. -/
inductive Unread (content : List (List Char)) (fault : Fault) : Prop where
  /-- A line that is neither blank nor a comment is no record. -/
  | record {line : List Char} (mem : line ∈ content) (counts : isPassedOver (trim line) = false)
      (flaw : Entry.ofLine (trim line) = .error fault)
  /-- A name in front of a record is flawed. -/
  | name {line : List Char} {record : Entry} {name : String} (mem : line ∈ content)
      (holds : record? line = some record) (named : name ∈ record.names) (flaw : Flawed name fault)

/-- A flawed name in a store stands in a line that was read. -/
theorem unread_of_hasFlawed (h : empty.addLines content = .ok store)
    (hflawed : store.HasFlawed fault) :
    Unread content fault := by
  obtain ⟨entry, hentry, name, hname, hflaw⟩ := hflawed
  obtain ⟨line, hline, record, hrecord, hmem, -⟩ :=
    exists_line_of_addLines h entry hentry name hname
  exact .name hline hrecord hmem hflaw

/-- More lines take nothing away. -/
theorem Unread.mono {content' : List (List Char)} (h : Unread content fault)
    (hsubset : content ⊆ content') : Unread content' fault := by
  cases h with
  | record hmem hcounts hflaw => exact .record (hsubset hmem) hcounts hflaw
  | name hmem hholds hnamed hflaw => exact .name (hsubset hmem) hholds hnamed hflaw

/-- Lines are not read because of a line that is no record, or of a flawed name. -/
theorem unread_of_addLines (h : empty.addLines content = .error fault) : Unread content fault := by
  obtain ⟨before, line, after, store, rfl, hbefore, hline⟩ := exists_of_addLines_error h
  rcases of_addLine_error hline with ⟨hpassed, hflaw⟩ | hflawed
  · exact .record (by simp) hpassed hflaw
  · exact (unread_of_hasFlawed hbefore hflawed).mono (List.subset_append_left ..)

/-- A line that does not pass the check has too few fields or a key type that is not supported,
which blames the trust store, or it is no record. -/
theorem of_checkLine_error {number : Nat} (h : checkLine path number line = .error fault) :
    fault.BlamesStore ∨
      isPassedOver (trim line) = false ∧ Entry.ofLine (trim line) = .error fault := by
  unfold checkLine at h
  dsimp only at h
  split at h
  · cases h
  · rename_i hpassed
    split at h
    · split at h
      · cases h
      · split at h
        · rename_i e hline
          obtain rfl := Except.error.inj h
          exact .inr ⟨by simpa using hpassed, hline⟩
        · obtain rfl := Except.error.inj h
          exact .inl ⟨_, rfl, rfl, .inr rfl⟩
        · cases h
    · obtain rfl := Except.error.inj h
      exact .inl ⟨_, rfl, rfl, .inr rfl⟩

/-- Lines do not pass the check because of one of them. -/
theorem of_checkLines_error {number : Nat} (h : checkLines path number content = .error fault) :
    fault.BlamesStore ∨ Unread content fault := by
  induction content generalizing number with
  | nil => cases h
  | cons line content ih =>
    rcases bind_eq_error_iff.1 h with hline | ⟨_, -, h⟩
    · rcases of_checkLine_error hline with hblames | ⟨hcounts, hflaw⟩
      · exact .inl hblames
      · exact .inr (.record List.mem_cons_self hcounts hflaw)
    · exact (ih h).imp_right fun hrest => hrest.mono (List.subset_cons_self ..)

/-- The lines of a file, up to what is not UTF-8. -/
def arrivedLines (bytes : Bytes) : List (List Char) :=
  let arrived := Text.Utf8.decodeStream bytes
  match arrived.error with
  | some _ => completeLines arrived.text
  | none => lines (unifyBreaks arrived.text)

/-- Bytes are no store because they are not UTF-8, or because of a line that arrived. -/
theorem of_ofBytes_error (h : ofBytes path bytes = .error fault) :
    fault.BlamesStore ∨ (∃ e, fault = .decoding e) ∨ Unread (arrivedLines bytes) fault := by
  unfold ofBytes at h
  unfold arrivedLines
  dsimp only at h ⊢
  cases harrived : (Text.Utf8.decodeStream bytes).error with
  | some e =>
    rw [harrived] at h
    rcases bind_eq_error_iff.1 h with hcheck | ⟨_, -, h⟩
    · exact (of_checkLines_error hcheck).imp_right .inr
    · exact .inr (.inl ⟨e, (Except.error.inj h).symm⟩)
  | none =>
    rw [harrived] at h
    rcases bind_eq_error_iff.1 h with hcheck | ⟨_, -, hadd⟩
    · exact (of_checkLines_error hcheck).imp_right .inr
    · exact .inr (.inr (unread_of_addLines hadd))

/-- The lines from which a store is read have arrived. -/
theorem addLines_of_ofBytes (h : ofBytes path bytes = .ok store) :
    empty.addLines (arrivedLines bytes) = .ok store := by
  obtain ⟨text, hdecode, -, hadd⟩ := ofBytes_eq_ok_iff.1 h
  obtain ⟨hcomplete, htext⟩ := Text.Utf8.decodeStream_error_eq_none_iff.2 hdecode
  unfold arrivedLines
  dsimp only
  rw [hcomplete, htext]
  exact hadd

/-- A line is no record because its key is not base64, or because it is no key. -/
theorem of_ofLine_error (h : Entry.ofLine line = .error fault) :
    (∃ text e, fault = .recordKey text e) ∨ ∃ e, fault = .hostKey e := by
  unfold Entry.ofLine at h
  split at h
  · split at h
    · exact .inl ⟨_, _, (Except.error.inj h).symm⟩
    · split at h
      · cases h
      · split at h
        · exact .inr ⟨_, (Except.error.inj h).symm⟩
        · cases h
  · cases h

end TrustStore

namespace Machine

variable {machine : Machine} {named : String} {fault : Fault}

/-- It cannot be told whether a file stands where a text says: the text begins at the home
directory, which is not known, a name on the way is too long, or a directory on the way may not be
gone through. -/
inductive Unreachable (machine : Machine) (named : String) : Fault → Prop where
  /-- The home directory is not known. -/
  | homeless (unresolved : machine.place.resolve? named = none) :
      Unreachable machine named .homeUnknown
  /-- A name is too long. -/
  | overlong {path : Path} (resolved : machine.place.resolve? named = some path)
      (long : machine.files.isFile path = .error .tooLong) :
      Unreachable machine named (.access .tooLong (toString path))
  /-- A directory may not be gone through. -/
  | denied {path : Path} (resolved : machine.place.resolve? named = some path)
      (barred : machine.files.isFile path = .error .denied) :
      Unreachable machine named (.access .denied (toString path))

/-- A text denotes no path if the home directory is not known. -/
theorem unreachable_of_resolvePath {machine' : Machine}
    (h : run (resolvePath named) machine = (.error fault, machine')) :
    machine.Unreachable named fault := by
  rw [run_resolvePath] at h
  have hfault := (Prod.mk.inj h).1
  split at hfault
  · cases hfault
  · obtain rfl := Except.error.inj hfault
    exact .homeless ‹_›

/-- It cannot be told whether a file stands at a path if a name in it is too long or a directory on
the way may not be gone through. -/
theorem unreachable_of_isFile {machine' : Machine} {path : Path}
    (hpath : machine.place.resolve? named = some path)
    (h : run (isFile path) machine = (.error fault, machine')) :
    machine.Unreachable named fault := by
  rw [run_isFile] at h
  have hfault := (Prod.mk.inj h).1
  split at hfault
  · cases hfault
  · rename_i e hfile
    obtain rfl := Except.error.inj hfault
    rcases FileTree.of_isFile_error hfile with rfl | rfl
    · exact .overlong hpath hfile
    · exact .denied hpath hfile

end Machine

namespace TrustPolicy

open TrustStore (Entry Unread arrivedLines isLoadFault isPassedOver record?)
open RecordName (Flawed)

variable {policy : TrustPolicy} {config : Config} {machine : Machine} {named : String}
    {fault : Fault}

/-- A fault of the trust store at the path that a text denotes which nobody turns into a refusal. -/
inductive Stray (named : String) (machine : Machine) : Fault → Prop where
  /-- The path leads nowhere. -/
  | path {fault : Fault} (unreachable : machine.Unreachable named fault) : Stray named machine fault
  /-- The key of a record is base64 of something that is no key, and not in the way that is
  expected. -/
  | key {path : Path} {bytes : Bytes} {line : List Char} {e : HostKey.Error}
      (resolved : machine.place.resolve? named = some path)
      (read : machine.files.read path = .ok bytes) (mem : line ∈ arrivedLines bytes)
      (counts : isPassedOver (trim line) = false)
      (flaw : Entry.ofLine (trim line) = .error (.hostKey e))
      (unexpected : isLoadFault (.hostKey e) = false) : Stray named machine (.hostKey e)
  /-- A name in front of a record begins like a hashed one and is none. -/
  | name {path : Path} {bytes : Bytes} {line : List Char} {record : Entry} {name : String}
      {fault : Fault} (resolved : machine.place.resolve? named = some path)
      (read : machine.files.read path = .ok bytes) (mem : line ∈ arrivedLines bytes)
      (holds : record? line = some record) (among : name ∈ record.names)
      (flaw : Flawed name fault) : Stray named machine fault

/-- A file that is no store has a fault that blames the trust store, or one that is found in its
lines. A file that cannot be read blames the trust store. -/
theorem of_loadStore_error {path : Path} (hnull : '\x00' ∉ path.toList)
    (h : (run (loadStore path) machine).1 = .error fault) :
    fault.BlamesStore ∨ isLoadFault fault = false ∧
      ∃ bytes, machine.files.read path = .ok bytes ∧ Unread (arrivedLines bytes) fault := by
  rw [run_loadStore, Machine.run_readFile, if_neg hnull] at h
  rcases hread : machine.files.read path with e | bytes
  · rw [hread] at h
    obtain rfl := Except.error.inj h
    exact .inl ⟨_, rfl, rfl, .inr rfl⟩
  · rw [hread] at h
    change (TrustStore.ofBytes (toString path) bytes).mapError _ = _ at h
    rcases hbytes : TrustStore.ofBytes (toString path) bytes with reason | store
    · rw [hbytes] at h
      obtain rfl := Except.error.inj h
      unfold loadFault
      by_cases hwrapped : isLoadFault reason = true
      · rw [if_pos hwrapped]
        exact .inl ⟨_, rfl, rfl, .inr rfl⟩
      · rw [if_neg hwrapped]
        have hwrapped : isLoadFault reason = false := by simpa using hwrapped
        rcases TrustStore.of_ofBytes_error hbytes with hblames | ⟨e, rfl⟩ | hunread
        · exact .inl hblames
        · cases hwrapped
        · exact .inr ⟨hwrapped, bytes, rfl, hunread⟩
    · rw [hbytes] at h
      cases h

/-- What is found in the lines of a file and is not turned into a refusal is stray. -/
theorem stray_of_unread {path : Path} {bytes : Bytes}
    (hpath : machine.place.resolve? named = some path) (hread : machine.files.read path = .ok bytes)
    (hwrapped : isLoadFault fault = false) (h : Unread (arrivedLines bytes) fault) :
    Stray named machine fault := by
  cases h with
  | record hmem hcounts hflaw =>
    rcases TrustStore.of_ofLine_error hflaw with ⟨_, _, rfl⟩ | ⟨e, rfl⟩
    · cases hwrapped
    · exact .key hpath hread hmem hcounts hflaw hwrapped
  | name hmem hholds hnamed hflaw => exact .name hpath hread hmem hholds hnamed hflaw

/-- What a trust decision for a host that is to be verified comes to. -/
inductive Resolved (policy : TrustPolicy) (config : Config) (machine : Machine) :
    Except Fault Decision → Prop where
  /-- The decision is enforced. -/
  | enforced (pinning : Pinning) : Resolved policy config machine (.ok (.enforced pinning))
  /-- The trust store is blamed. -/
  | refused {fault : Fault} (blames : fault.BlamesStore) :
      Resolved policy config machine (.error fault)
  /-- A fault strays. -/
  | stray {fault : Fault}
      (stray : Stray (chooseStore config.knownHostsFile policy.defaultStore) machine fault) :
      Resolved policy config machine (.error fault)

/-- Making a trust decision ends in one of these ways. -/
theorem resolved_resolve (policy : TrustPolicy) {config : Config} (machine : Machine)
    (hverifies : config.verifiesHost = true) :
    Resolved policy config machine (run (policy.resolve config) machine).1 := by
  rcases hrun : run (policy.resolve config) machine with ⟨fault | decision, machine'⟩
  · -- The steps are gone through up to the one that fails.
    unfold resolve at hrun
    rw [if_neg (by simp [hverifies])] at hrun
    rcases Act.run_bind_eq_error_iff.1 hrun with h | ⟨path, machine₁, h, hrun⟩
    · exact .stray (.path (Machine.unreachable_of_resolvePath h))
    obtain ⟨hpath, rfl⟩ := Machine.run_resolvePath_eq_ok_iff.1 h
    rcases Act.run_bind_eq_error_iff.1 hrun with h | ⟨isFile, machine₂, h, hrun⟩
    · exact .stray (.path (Machine.unreachable_of_isFile hpath h))
    cases isFile with
    | false =>
      obtain rfl := Except.error.inj (Prod.mk.inj hrun).1
      exact .refused ⟨_, rfl, rfl, .inl rfl⟩
    | true =>
      obtain ⟨hfile, rfl⟩ := Machine.run_isFile_eq_ok_iff.1 h
      obtain ⟨hnull, -⟩ := FileTree.lookup_of_isFile hfile
      rcases Act.run_bind_eq_error_iff.1 hrun with h | ⟨store, machine₃, h, hrun⟩
      · rcases of_loadStore_error hnull (congrArg Prod.fst h) with
          hblames | ⟨hwrapped, bytes, hread, hunread⟩
        · exact .refused hblames
        · exact .stray (stray_of_unread hpath hread hwrapped hunread)
      obtain ⟨bytes, -, hread, hbytes, -⟩ := run_loadStore_eq_ok_iff.1 h
      dsimp only at hrun
      rcases Act.run_bind_eq_error_iff.1 hrun with h | ⟨preferredType, machine₄, -, hrun⟩
      · rw [Act.run_ofExcept] at h
        have hflawed := TrustStore.hasFlawed_of_preferredType? (Prod.mk.inj h).1
        have hunread :=
          TrustStore.unread_of_hasFlawed (TrustStore.addLines_of_ofBytes hbytes) hflawed
        exact .stray (stray_of_unread hpath hread hflawed.isLoadFault_eq_false hunread)
      -- What is left is a report without numbers and the decision.
      cases hrun
  · obtain ⟨pinning, rfl, -⟩ := exists_of_resolve hverifies hrun
    exact .enforced pinning

end TrustPolicy

end SecureForward
