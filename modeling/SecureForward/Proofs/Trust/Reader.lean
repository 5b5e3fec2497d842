import SecureForward.Proofs.Act
import SecureForward.Proofs.Trust.Record
import SecureForward.Trust.Decision

/-!
# Reading a store with one more record

Bytes that are a trust store are one with a record put behind them, too, and hold the entry of the
record behind all others (`ofBytes_append_record`). This is where the three ways of handling a
record meet: it is written as text behind a file, checked line by line, and read into a store that
drops what it knows already.
-/

namespace SecureForward.TrustStore

open RecordName (IsWord isHashed)
open SecureForward.Text (lines unifyBreaks)
open SecureForward.Text.Utf8 (Bytes IsAscii)
open Verifying (addition)

/-- Bytes that are UTF-8 are checked line by line, and then read line by line. -/
theorem ofBytes_of_decode {bytes : Bytes} {content : List Char}
    (h : Text.Utf8.decode bytes = .ok content) (path : String) :
    ofBytes path bytes = (checkLines path 1 (lines (unifyBreaks content))).bind fun _ =>
      empty.addLines (lines (unifyBreaks content)) := by
  obtain ⟨herror, htext⟩ := Text.Utf8.decodeStream_error_eq_none_iff.2 h
  unfold ofBytes
  dsimp only
  rw [herror, htext]
  rfl

/-- Bytes that are not UTF-8 are no store. -/
theorem ofBytes_ne_ok_of_decode {bytes : Bytes} {e : Text.Utf8.DecodeError}
    (h : Text.Utf8.decode bytes = .error e) (path : String) (store : TrustStore) :
    ofBytes path bytes ≠ .ok store := by
  rcases harrived : (Text.Utf8.decodeStream bytes).error with _ | e'
  · have hdecode := Text.Utf8.decodeStream_error_eq_none_iff.1 ⟨harrived, rfl⟩
    cases h.symm.trans hdecode
  · unfold ofBytes
    dsimp only
    rw [harrived]
    -- Even if all lines that arrived are in order, the decoding error follows.
    cases checkLines path 1 (Text.completeLines (Text.Utf8.decodeStream bytes).text) with
    | error => exact fun hok => by cases hok
    | ok => exact fun hok => by cases hok

/-- Bytes are a store exactly when they are UTF-8 and their lines are in order. -/
theorem ofBytes_eq_ok_iff {path : String} {bytes : Bytes} {store : TrustStore} :
    ofBytes path bytes = .ok store ↔
      ∃ content, Text.Utf8.decode bytes = .ok content ∧
        checkLines path 1 (lines (unifyBreaks content)) = .ok () ∧
        empty.addLines (lines (unifyBreaks content)) = .ok store := by
  constructor
  · intro h
    rcases hdecode : Text.Utf8.decode bytes with e | content
    · exact absurd h (ofBytes_ne_ok_of_decode hdecode path store)
    · rw [ofBytes_of_decode hdecode] at h
      rcases hcheck : checkLines path 1 (lines (unifyBreaks content)) with e | _
      · rw [hcheck] at h
        cases h
      · rw [hcheck] at h
        exact ⟨content, rfl, hcheck, h⟩
  · rintro ⟨content, hdecode, hcheck, hadd⟩
    rw [ofBytes_of_decode hdecode, hcheck]
    exact hadd

/-- Whether a line is in order does not depend on its number. -/
theorem checkLine_of_checkLine {path : String} {number : Nat} {line : List Char}
    (h : checkLine path number line = .ok ()) (number' : Nat) :
    checkLine path number' line = .ok () := by
  unfold checkLine at h ⊢
  dsimp only at h ⊢
  split
  · rfl
  · rename_i hpassed
    rw [if_neg hpassed] at h
    split at h
    · split
      · rfl
      · rename_i htolerated
        rw [if_neg htolerated] at h
        split at h
        · cases h
        · cases h
        · rfl
    · cases h

/-- Lines are in order exactly when each of them is. -/
theorem checkLines_eq_ok_iff {path : String} {number : Nat} {content : List (List Char)} :
    checkLines path number content = .ok () ↔
      ∀ line ∈ content, checkLine path number line = .ok () := by
  induction content generalizing number with
  | nil => simp [checkLines]
  | cons first rest ih =>
    rw [checkLines, bind_eq_ok_iff, List.forall_mem_cons]
    constructor
    · rintro ⟨_, hfirst, hrest⟩
      exact ⟨hfirst, fun line hline => checkLine_of_checkLine (ih.1 hrest line hline) number⟩
    · rintro ⟨hfirst, hrest⟩
      exact ⟨(), hfirst, ih.2 fun line hline =>
        checkLine_of_checkLine (hrest line hline) (number + 1)⟩

/-- Lines in order stay so when a line follows that is in order whatever its number. -/
theorem checkLines_append_line {path : String} {number : Nat} {before : List (List Char)}
    {line : List Char} (h : checkLines path number before = .ok ())
    (hline : ∀ number, checkLine path number line = .ok ()) :
    checkLines path number (before ++ [line]) = .ok () := by
  rw [checkLines_eq_ok_iff] at h ⊢
  intro other hother
  rcases List.mem_append.1 hother with hbefore | hlast
  · exact h other hbefore
  · obtain rfl := List.mem_singleton.1 hlast
    exact hline number

/-- Lines behind others are read into the store of these. -/
theorem addLines_append (start : TrustStore) (before after : List (List Char)) :
    start.addLines (before ++ after) = start.addLines before >>= fun store =>
      store.addLines after := by
  induction before generalizing start with
  | nil => rfl
  | cons first before ih =>
    rw [List.cons_append, addLines, addLines]
    rcases start.addLine first with e | next
    · rfl
    · exact ih next

/-- The last line is read into the store of the lines before it. -/
theorem addLines_append_line {start store store' : TrustStore} {before : List (List Char)}
    {line : List Char} (h : start.addLines before = .ok store)
    (hline : store.addLine line = .ok store') : start.addLines (before ++ [line]) = .ok store' := by
  have hlast : store.addLines [line] = .ok store' := bind_eq_ok_iff.2 ⟨store', hline, rfl⟩
  rw [addLines_append, h]
  exact hlast

variable {name : String} {key : HostKey} {store : TrustStore}

/-- A record under a hashed name that no entry has becomes an entry of its own. -/
theorem addLine_record (hword : IsWord name) (hname : isHashed name = true) (hkey : key.ReadsBack)
    (hmem : ∀ entry ∈ store.entries, name ∉ entry.names) :
    store.addLine (record name key) =
      .ok { entries := store.entries ++ [{ names := [name], key }] } := by
  have hlookup := lookup_of_not_mem hname hmem
  have hknown : store.check name key = .ok false := check_of_lookup hlookup key
  have hnames : dropKnown (fun name => store.check name key) [] [name] = .ok [name] := by
    rw [dropKnown, hknown]
    change dropKnown (fun name => store.check name key) [name] [] = _
    rw [dropKnown]
  unfold addLine
  dsimp only
  rw [trim_record hword, if_neg (by simp [isPassedOver_record hword]), ofLine_record hword hkey]
  dsimp only
  rw [hnames]
  rfl

/-- What is put behind a file begins a line of its own: a line feed comes first unless the file is
empty or ends with a line break. -/
theorem addition_eq (content line : List Char) :
    addition content line =
      if content = [] ∨ content.getLast? = some '\n' ∨ content.getLast? = some '\r' then line
      else '\n' :: line := by
  unfold addition
  dsimp only
  by_cases h : content = [] ∨ content.getLast? = some '\n' ∨ content.getLast? = some '\r'
  · rw [if_pos h, if_pos]
    rcases h with rfl | h
    · rfl
    · simp [Text.getLast?_unifyBreaks.2 h]
  · obtain ⟨hempty, hlast⟩ := not_or.1 h
    rw [if_neg h, if_neg]
    simp [Text.unifyBreaks_eq_nil_iff, Text.getLast?_unifyBreaks, hempty, hlast]

/-- What is put behind a file is ASCII if the line is. -/
theorem isAscii_addition (content : List Char) {line : List Char} (hline : IsAscii line) :
    IsAscii (addition content line) := by
  rw [addition_eq]
  split
  · exact hline
  · exact List.forall_mem_cons.2 ⟨by decide, hline⟩

/-- With an addition behind it, a text has one line more. -/
theorem lines_addition (content : List Char) {line : List Char} (hne : line ≠ [])
    (hline : '\n' ∉ line ∧ '\r' ∉ line) :
    lines (unifyBreaks (content ++ addition content (line ++ ['\n']))) =
      lines (unifyBreaks content) ++ [line] := by
  have hunify : unifyBreaks (line ++ ['\n']) = line ++ ['\n'] :=
    Text.unifyBreaks_of_not_mem (by simp [hline.2])
  rw [addition_eq]
  by_cases h : content = [] ∨ content.getLast? = some '\n' ∨ content.getLast? = some '\r'
  · -- The line does not begin with a line feed, so it does not complete a carriage return.
    have hhead : (line ++ ['\n']).head? ≠ some '\n' := by
      obtain ⟨c, rest, rfl⟩ := List.exists_cons_of_ne_nil hne
      intro hc
      exact hline.1 (by simp_all)
    have hend : unifyBreaks content = [] ∨ (unifyBreaks content).getLast? = some '\n' :=
      h.imp Text.unifyBreaks_eq_nil_iff.2 Text.getLast?_unifyBreaks.2
    rw [if_pos h, Text.unifyBreaks_append (.inr hhead), hunify,
      Text.lines_append_line hend hline.1]
  · obtain ⟨hempty, hlast⟩ := not_or.1 h
    have hreturn : content.getLast? ≠ some '\r' := fun hreturn => hlast (.inr hreturn)
    rw [if_neg h, Text.unifyBreaks_append (.inl hreturn), Text.unifyBreaks_cons (by decide), hunify,
      Text.lines_append_break (mt Text.unifyBreaks_eq_nil_iff.1 hempty)
        (mt Text.getLast?_unifyBreaks.1 hlast) hline.1]

/-- Bytes that are a store are one with a record under a new hashed name behind them, too; its entry
comes behind all others. -/
theorem ofBytes_append_record {path : String} {bytes : Bytes} {content : List Char}
    (h : ofBytes path bytes = .ok store) (hcontent : Text.Utf8.decode bytes = .ok content)
    (hword : IsWord name) (hname : isHashed name = true) (hkey : key.ReadsBack)
    (hmem : ∀ entry ∈ store.entries, name ∉ entry.names) :
    ofBytes path (bytes ++ Text.Utf8.encode (addition content (record name key ++ ['\n']))) =
      .ok { entries := store.entries ++ [{ names := [name], key }] } := by
  obtain ⟨content', hdecode, hcheck, hadd⟩ := ofBytes_eq_ok_iff.1 h
  obtain rfl := Except.ok.inj (hcontent.symm.trans hdecode)
  have hne : record name key ≠ [] := by simp [record_eq]
  have hascii : IsAscii (addition content (record name key ++ ['\n'])) :=
    isAscii_addition content ((isAscii_record hword).append (Text.Utf8.isAscii_of_all rfl))
  refine ofBytes_eq_ok_iff.2 ⟨_, Text.Utf8.decode_append_encode hdecode hascii, ?_, ?_⟩
  · rw [lines_addition content hne (record_no_breaks hword)]
    exact checkLines_append_line hcheck (checkLine_record hword hkey path)
  · rw [lines_addition content hne (record_no_breaks hword)]
    exact addLines_append_line hadd (addLine_record hword hname hkey hmem)

end SecureForward.TrustStore
