import SecureForward.Proofs.Trust.Records

/-!
# Tolerated lines

A trust store may hold lines that are of no use here: blank ones, comments, and records of key types
that other programs use. The check lets all of them pass (`checkLine_of_isTolerable`). The reader
knows nothing of tolerated types, however. It tells fields by single blanks, and decodes the key of
a line before it looks at the type beside it. `IsInert` lists the lines of which it makes nothing
for all that.

`load_with_tolerated_line` says what comes of it when a tolerated line is put into a file. If the
line is inert, the same store is loaded as before. If it is not, either the file can no longer be
loaded, because the key in the line is none, or the line is read as a record, such as that of an RSA
key in a certificate.
-/

namespace SecureForward.TrustStore

open Act (run)
open SecureForward.Text (lines split trim unifyBreaks words)
open SecureForward.Text.Utf8 (Bytes IsAscii)

/-- Whether a line is tolerated: it is blank or a comment, or it has at least three fields, however
they are separated, and the second one is a key type that is passed over. -/
def isTolerable (line : List Char) : Bool :=
  isPassedOver (trim line) ||
    match words (trim line) with
    | _ :: keyType :: _ :: _ => isTolerated (.ofList keyType)
    | _ => false

/-- The fields of a line as the reader tells them, by single blanks and tabs. -/
def fields (line : List Char) : List (List Char) :=
  split (fun c => c = ' ' || c = '\t') (trim line)

/-- The lines of which the reader makes nothing. -/
inductive IsInert (line : List Char) : Prop where
  /-- The line is blank or a comment. -/
  | passedOver (none : isPassedOver (trim line) = true)
  /-- There are not enough fields. -/
  | short (few : (fields line).length < 3)
  /-- The key is base64, and no kind of key has this type. -/
  | foreign {names keyType body : List Char} {more : List (List Char)} {bytes : Bytes}
      (record : fields line = names :: keyType :: body :: more)
      (base64 : Base64.decode body = .ok bytes)
      (unknown : HostKey.Kind.ofTypeName? (.ofList keyType) = none)
  /-- The key is base64 of something that is no key of its kind, in a way that is expected. -/
  | broken {names keyType body : List Char} {more : List (List Char)} {bytes : Bytes}
      {kind : HostKey.Kind} {e : HostKey.Error}
      (record : fields line = names :: keyType :: body :: more)
      (base64 : Base64.decode body = .ok bytes)
      (known : HostKey.Kind.ofTypeName? (.ofList keyType) = some kind)
      (flaw : HostKey.ofBytes kind bytes = .error e) (expected : (Fault.hostKey e).isSsh = true)

variable {path : String} {line : List Char} {store : TrustStore} {bytes bytes' : Bytes}

/-! ## One line -/

/-- A tolerated line is in order. -/
theorem checkLine_of_isTolerable (h : isTolerable line = true) (path : String) (number : Nat) :
    checkLine path number line = .ok () := by
  unfold isTolerable at h
  unfold checkLine
  dsimp only
  by_cases hpassed : isPassedOver (trim line) = true
  · exact if_pos hpassed
  · rw [if_neg hpassed]
    have htype := (Bool.or_eq_true_iff.1 h).resolve_left hpassed
    rcases hwords : words (trim line) with _ | ⟨names, _ | ⟨keyType, _ | ⟨body, more⟩⟩⟩
    · rw [hwords] at htype
      cases htype
    · rw [hwords] at htype
      cases htype
    · rw [hwords] at htype
      cases htype
    · rw [hwords] at htype
      exact if_pos htype

/-- The certificates of RSA keys are the only tolerated records of which the type announces a
key. -/
theorem ofTypeName?_of_isTolerated {keyType : String} (h : isTolerated keyType = true)
    (hrsa : keyType ∉ HostKey.Kind.rsa.announced) : HostKey.Kind.ofTypeName? keyType = none := by
  have htypes : ∀ kind ∈ [HostKey.Kind.ecdsa, .ed25519], ∀ name ∈ kind.announced,
      isTolerated name = false := by
    decide
  unfold HostKey.Kind.ofTypeName?
  rw [List.find?_eq_none]
  intro kind hkind hannounced
  have hmem : keyType ∈ kind.announced := List.contains_iff_mem.1 hannounced
  rcases List.mem_cons.1 hkind with rfl | hother
  · exact hrsa hmem
  · rw [htypes kind hother keyType hmem] at h
    cases h

/-- A line that is too short for a record holds none. -/
theorem ofLine_of_short (h : (fields line).length < 3) : Entry.ofLine (trim line) = .ok none := by
  unfold Entry.ofLine
  split
  · rename_i hfields
    unfold fields at h
    rw [hfields] at h
    simp only [List.length_cons] at h
    omega
  · rfl

/-- If the reader makes nothing of a record, the line is short, or foreign. -/
theorem isInert_of_ofLine_none (h : Entry.ofLine (trim line) = .ok none) : IsInert line := by
  rcases hfields : fields line with _ | ⟨names, _ | ⟨keyType, _ | ⟨body, more⟩⟩⟩
  · exact .short (by simp [hfields])
  · exact .short (by simp [hfields])
  · exact .short (by simp [hfields])
  · have hsplit := hfields
    unfold fields at hsplit
    unfold Entry.ofLine at h
    rw [hsplit] at h
    dsimp only at h
    split at h
    · cases h
    · rename_i hbase64
      split at h
      · exact .foreign hfields hbase64 ‹_›
      · split at h
        · cases h
        · cases h

/-- If the reader looks over what is wrong with a record, the line is broken. -/
theorem isInert_of_ofLine_error {fault : Fault} (h : Entry.ofLine (trim line) = .error fault)
    (hexpected : fault.isSsh = true) : IsInert line := by
  unfold Entry.ofLine at h
  split at h
  · rename_i hfields
    split at h
    · obtain rfl := Except.error.inj h
      cases hexpected
    · rename_i hbase64
      split at h
      · cases h
      · rename_i hknown
        split at h
        · rename_i hflaw
          obtain rfl := Except.error.inj h
          exact .broken hfields hbase64 hknown hflaw hexpected
        · cases h
  · cases h

/-- Of an inert line that is neither blank nor a comment the reader gets no record, or a fault that
it expects. -/
theorem ofLine_of_isInert (h : IsInert line) (hpassed : isPassedOver (trim line) = false) :
    Entry.ofLine (trim line) = .ok none ∨
      ∃ fault, Entry.ofLine (trim line) = .error fault ∧ fault.isSsh = true := by
  cases h with
  | passedOver hnone =>
    rw [hpassed] at hnone
    cases hnone
  | short hfew => exact .inl (ofLine_of_short hfew)
  | foreign hfields hbase64 hunknown =>
    left
    unfold fields at hfields
    unfold Entry.ofLine
    rw [hfields]
    dsimp only
    rw [hbase64]
    dsimp only
    rw [hunknown]
  | broken hfields hbase64 hknown hflaw hexpected =>
    refine .inr ⟨_, ?_, hexpected⟩
    unfold fields at hfields
    unfold Entry.ofLine
    rw [hfields]
    dsimp only
    rw [hbase64]
    dsimp only
    rw [hknown]
    dsimp only
    rw [hflaw]

/-- An inert line leaves every store as it is. -/
theorem addLine_of_isInert (h : IsInert line) (store : TrustStore) :
    store.addLine line = .ok store := by
  unfold addLine
  dsimp only
  by_cases hpassed : isPassedOver (trim line) = true
  · exact if_pos hpassed
  · rw [if_neg hpassed]
    rcases ofLine_of_isInert h (Bool.eq_false_iff.2 hpassed) with hline | ⟨fault, hline, hexpected⟩
    · rw [hline]
    · rw [hline]
      exact if_pos hexpected

/-- A line that is not inert holds a record, or the reader fails at it. -/
theorem of_not_isInert (h : ¬IsInert line) :
    (∃ record, record? line = some record) ∨
      ∃ fault, Entry.ofLine (trim line) = .error fault ∧
        ∀ store : TrustStore, store.addLine line = .error fault := by
  have hpassed : ¬isPassedOver (trim line) = true := fun hnone => h (.passedOver hnone)
  rcases hline : Entry.ofLine (trim line) with fault | _ | record
  · refine .inr ⟨fault, rfl, fun store => ?_⟩
    have hstray : ¬fault.isSsh = true :=
      fun hexpected => h (isInert_of_ofLine_error hline hexpected)
    unfold addLine
    dsimp only
    rw [if_neg hpassed, hline]
    exact if_neg hstray
  · exact absurd (isInert_of_ofLine_none hline) h
  · exact .inl ⟨record, record?_eq_some_iff.2 ⟨Bool.eq_false_iff.2 hpassed, hline⟩⟩

/-! ## A line in a file -/

/-- A text file is another one with a line put between two of its lines, in front of them or behind
them. -/
structure Inserted (line : List Char) (bytes bytes' : Bytes) : Prop where
  /-- The file with the line is a text, too. -/
  text : ∃ content, Text.Utf8.decode bytes' = .ok content
  /-- The line stands between lines of the other file. -/
  place :
    ∃ before after, fileLines bytes = before ++ after ∧ fileLines bytes' = before ++ line :: after

/-- To put a line into a text is to write it, with a line break, where the text begins or a line
ends. -/
theorem inserted_of_decode {front back : List Char} (hline : '\n' ∉ line ∧ '\r' ∉ line)
    (hfront : front = [] ∨ front.getLast? = some '\n')
    (h : Text.Utf8.decode bytes = .ok (front ++ back))
    (h' : Text.Utf8.decode bytes' = .ok (front ++ (line ++ ['\n'] ++ back))) :
    Inserted line bytes bytes' := by
  have hcut : front.getLast? ≠ some '\r' := by
    rcases hfront with rfl | hlast
    · simp
    · rw [hlast]
      decide
  have hend : unifyBreaks front = [] ∨ (unifyBreaks front).getLast? = some '\n' :=
    hfront.imp Text.unifyBreaks_eq_nil_iff.2 fun hlast => Text.getLast?_unifyBreaks.2 (.inl hlast)
  have hunify : unifyBreaks (line ++ ['\n']) = line ++ ['\n'] :=
    Text.unifyBreaks_of_not_mem (by simp [hline.2])
  refine ⟨⟨_, h'⟩, lines (unifyBreaks front), lines (unifyBreaks back), ?_, ?_⟩
  · unfold fileLines
    rw [h]
    dsimp only
    rw [Text.unifyBreaks_append (.inl hcut), Text.lines_append hend]
  · unfold fileLines
    rw [h']
    dsimp only
    rw [Text.unifyBreaks_append (.inl hcut), Text.unifyBreaks_append (.inl (by simp)), hunify,
      Text.lines_append hend, Text.lines_append (.inr (by simp)), Text.lines_singleton hline.1]
    rfl

/-- A file with a tolerated line in it passes the check as before, and is read as before up to this
line. -/
theorem ofBytes_of_inserted (hinserted : Inserted line bytes bytes')
    (htolerable : isTolerable line = true) (h : ofBytes path bytes = .ok store) :
    ∃ after, ∃ earlier : TrustStore, earlier.addLines after = .ok store ∧
      ofBytes path bytes' = earlier.addLine line >>= fun next => next.addLines after := by
  obtain ⟨⟨content, hcontent⟩, before, after, hlines, hlines'⟩ := hinserted
  obtain ⟨hcheck, hadd⟩ := fileLines_of_ofBytes h
  rw [hlines] at hcheck hadd
  rw [addLines_append] at hadd
  obtain ⟨earlier, hearlier, hafter⟩ := bind_eq_ok_iff.1 hadd
  have hcheck' : checkLines path 1 (fileLines bytes') = .ok () := by
    rw [checkLines_eq_ok_iff] at hcheck ⊢
    rw [hlines']
    intro other hother
    rcases List.mem_append.1 hother with hbefore | hbehind
    · exact hcheck other (List.mem_append_left _ hbefore)
    · rcases List.mem_cons.1 hbehind with rfl | hbehind
      · exact checkLine_of_isTolerable htolerable path 1
      · exact hcheck other (List.mem_append_right _ hbehind)
  refine ⟨after, earlier, hafter, ?_⟩
  have hread : ofBytes path bytes' =
      (checkLines path 1 (fileLines bytes')).bind fun _ => empty.addLines (fileLines bytes') := by
    unfold fileLines
    rw [ofBytes_of_decode hcontent, hcontent]
  calc ofBytes path bytes'
      = empty.addLines (before ++ line :: after) := by rw [hread, hcheck', hlines']; rfl
    _ = earlier.addLines (line :: after) := by rw [addLines_append, hearlier]; rfl
    _ = earlier.addLine line >>= fun next => next.addLines after := by rw [addLines]

/-- What comes of it when a tolerated line is put into a file that can be loaded. If the line is
inert, the same store is loaded. If it is not, either the line holds a record, and a store that is
loaded has each name of the record with its key, or loading fails with what is wrong with the key in
the line. -/
theorem load_with_tolerated_line {path : Path} {machine machine' : Machine}
    (hread : machine.files.read path = .ok bytes)
    (hload : (run (TrustPolicy.loadStore path) machine).1 = .ok store)
    (hread' : machine'.files.read path = .ok bytes') (hinserted : Inserted line bytes bytes')
    (htolerable : isTolerable line = true) :
    (IsInert line → (run (TrustPolicy.loadStore path) machine').1 = .ok store) ∧
      (¬IsInert line →
        (∃ record, record? line = some record ∧ ∀ store',
          (run (TrustPolicy.loadStore path) machine').1 = .ok store' →
            ∀ name ∈ record.names, store'.Has name record.key) ∨
        ∃ fault, Entry.ofLine (trim line) = .error fault ∧
          (run (TrustPolicy.loadStore path) machine').1 =
            .error (TrustPolicy.loadFault (toString path) fault)) := by
  have hmachine := TrustPolicy.run_loadStore_snd path machine
  obtain ⟨other, hnull, hother, hbytes, -⟩ :=
    TrustPolicy.run_loadStore_eq_ok_iff.1 (Prod.ext hload hmachine)
  obtain rfl := Except.ok.inj (hread.symm.trans hother)
  obtain ⟨after, earlier, hafter, hbytes'⟩ := ofBytes_of_inserted hinserted htolerable hbytes
  have hload' : (run (TrustPolicy.loadStore path) machine').1 =
      (ofBytes (toString path) bytes').mapError (TrustPolicy.loadFault (toString path)) := by
    rw [TrustPolicy.run_loadStore, Machine.run_readFile_eq_ok_iff.2 ⟨hnull, hread', rfl⟩]
    rfl
  constructor
  · intro hinert
    rw [hload', hbytes', addLine_of_isInert hinert]
    change (earlier.addLines after).mapError _ = _
    rw [hafter]
    rfl
  · intro hnot
    -- The reader makes a record of the line, or fails at it with a fault that it does not expect.
    rcases of_not_isInert hnot with ⟨record, hrecord⟩ | ⟨fault, hfault, hadd⟩
    · left
      refine ⟨record, hrecord, fun store' hstore' => ?_⟩
      have hmachine' := TrustPolicy.run_loadStore_snd path machine'
      obtain ⟨_, -, hother', hstore, -⟩ :=
        TrustPolicy.run_loadStore_eq_ok_iff.1 (Prod.ext hstore' hmachine')
      obtain rfl := Except.ok.inj (hread'.symm.trans hother')
      obtain ⟨before, behind, -, hlines'⟩ := hinserted.place
      have hmem : line ∈ fileLines bytes' := by simp [hlines']
      exact has_of_addLines (fileLines_of_ofBytes hstore).2 line hmem record hrecord
    · right
      refine ⟨fault, hfault, ?_⟩
      rw [hload', hbytes', hadd]
      rfl

/-- A record of a foreign type between single blanks, with a key in base64. -/
def foreignLine : List Char := "old ssh-dss AAAAB3NzaC1kc3M=".toList

/-- The line of a record. -/
def recordLine (name : String) (byte : UInt8) : List Char := record name (trialKey byte) ++ ['\n']

/-- Two records and a line between them. -/
def interrupted (line : List Char) : Bytes :=
  Text.Utf8.encode (recordLine "gate" 1 ++ (line ++ ['\n'] ++ recordLine "mail" 2))

/-- The entries of the two records. -/
def uninterrupted : List Entry :=
  [{ names := ["gate"], key := trialKey 1 }, { names := ["mail"], key := trialKey 2 }]

/-- The file of the two records alone is loaded. -/
theorem load_uninterrupted :
    (run (TrustPolicy.loadStore trialPath) (trialMachine (trialFile uninterrupted))).1 =
      .ok { entries := uninterrupted } :=
  load_trialMachine (by decide +kernel)

/-- With a line of ASCII between the records, the file has this line more. -/
theorem inserted_interrupted (hline : '\n' ∉ line ∧ '\r' ∉ line) (hascii : IsAscii line) :
    Inserted line (trialFile uninterrupted) (interrupted line) := by
  have hgate : IsAscii (recordLine "gate" 1) := Text.Utf8.isAscii_of_all (by decide +kernel)
  have hmail : IsAscii (recordLine "mail" 2) := Text.Utf8.isAscii_of_all (by decide +kernel)
  have hbreak : IsAscii ['\n'] := Text.Utf8.isAscii_of_all rfl
  have htext : Text.Utf8.decode (trialFile uninterrupted) =
      .ok (recordLine "gate" 1 ++ recordLine "mail" 2) :=
    Text.Utf8.decodeFrom_encode (hgate.append hmail) 0
  have htext' : Text.Utf8.decode (interrupted line) =
      .ok (recordLine "gate" 1 ++ (line ++ ['\n'] ++ recordLine "mail" 2)) :=
    Text.Utf8.decodeFrom_encode (hgate.append ((hascii.append hbreak).append hmail)) 0
  refine inserted_of_decode hline (.inr ?_) htext htext'
  unfold recordLine
  rw [List.getLast?_append]
  rfl

/-- The record of a foreign type is tolerated, and between two records it changes nothing. -/
theorem load_with_tolerated_line_trial :
    isTolerable foreignLine = true ∧ IsInert foreignLine ∧
      Inserted foreignLine (trialFile uninterrupted) (interrupted foreignLine) ∧
      (run (TrustPolicy.loadStore trialPath) (trialMachine (interrupted foreignLine))).1 =
        .ok { entries := uninterrupted } := by
  have htolerable : isTolerable foreignLine = true := by decide +kernel
  have hinert : IsInert foreignLine := by
    have hfields : fields foreignLine =
        ["old".toList, "ssh-dss".toList, "AAAAB3NzaC1kc3M=".toList] := by
      decide +kernel
    have hbase64 : Base64.decode "AAAAB3NzaC1kc3M=".toList =
        .ok [0, 0, 0, 7, 115, 115, 104, 45, 100, 115, 115] := by rfl
    have hunknown : HostKey.Kind.ofTypeName? (.ofList "ssh-dss".toList) = none :=
      ofTypeName?_of_isTolerated (by decide +kernel) (by decide +kernel)
    exact .foreign hfields hbase64 hunknown
  have hinserted : Inserted foreignLine (trialFile uninterrupted) (interrupted foreignLine) :=
    inserted_interrupted (by decide +kernel) (Text.Utf8.isAscii_of_all (by decide +kernel))
  exact ⟨htolerable, hinert, hinserted,
    (load_with_tolerated_line (read_trialMachine _) load_uninterrupted (read_trialMachine _)
      hinserted htolerable).1 hinert⟩

/-- A record of a foreign type between double blanks. -/
def spacedLine : List Char := "old  ssh-dss  AAAAB3NzaC1kc3M=".toList

/-- A tolerated line between two records that can be loaded makes the file one that cannot. -/
theorem spaced_line_unloadable :
    isTolerable spacedLine = true ∧
      Inserted spacedLine (trialFile uninterrupted) (interrupted spacedLine) ∧
      (run (TrustPolicy.loadStore trialPath) (trialMachine (trialFile uninterrupted))).1 =
        .ok { entries := uninterrupted } ∧
      ∀ store, (run (TrustPolicy.loadStore trialPath) (trialMachine (interrupted spacedLine))).1 ≠
        .ok store := by
  have hnone : (run (TrustPolicy.loadStore trialPath)
      (trialMachine (interrupted spacedLine))).1.toOption = none := by
    decide +kernel
  have hinserted : Inserted spacedLine (trialFile uninterrupted) (interrupted spacedLine) :=
    inserted_interrupted (by decide +kernel) (Text.Utf8.isAscii_of_all (by decide +kernel))
  refine ⟨by decide +kernel, hinserted, load_uninterrupted, fun store hstore => ?_⟩
  rw [hstore] at hnone
  cases hnone

end SecureForward.TrustStore
