import SecureForward.Proofs.HostKey.Parser
import SecureForward.Proofs.Text.Lines
import SecureForward.Proofs.Trust.RecordName
import SecureForward.Trust.Reader

/-!
# One record

What the record of a key under one name looks like. Where the name is a word (`IsWord`), as every
hashed name is, the record is one line of three fields that passes the check (`checkLine_record`)
and is read back (`ofLine_record`).
-/

namespace SecureForward

open SecureForward.Text (IsVisible isBlank split trim words)
open SecureForward.Text.Utf8 (IsAscii)

namespace RecordName

open SecureForward.Text.Utf8 (Bytes)

/-- A name that is one field of a record, and one name in it. -/
structure IsWord (name : String) : Prop where
  /-- Its characters are visible, and no comma is among them. -/
  visible : ∀ c ∈ name.toList, IsVisible c ∧ c ≠ ','
  /-- It begins with something, which makes no comment of the line. -/
  head : ∃ c, name.toList.head? = some c ∧ c ≠ '#'

/-- A hashed name is a word. -/
theorem isWord_hashed (s : Bytes) (name : String) : IsWord (hashed s name) where
  visible _ hc := visible_of_mem_hashed hc
  head := ⟨'|', by unfold hashed; rw [String.toList_ofList]; rfl, by decide⟩

end RecordName

namespace HostKey

/-- The type names of keys. -/
def typeNames : List String :=
  ["ssh-rsa", "ssh-ed25519"] ++ Curve.all.map ecdsaTypeName

/-- There are no other type names. -/
theorem typeName_mem (key : HostKey) : key.typeName ∈ typeNames := by
  cases key with
  | rsa => simp [typeNames, typeName]
  | ed25519 => simp [typeNames, typeName]
  | ecdsa curve => cases curve <;> simp [typeNames, typeName, Curve.all]

/-- The type name of a key is visible. -/
theorem visible_of_mem_typeName {key : HostKey} : ∀ c ∈ key.typeName.toList, IsVisible c := by
  have hall : ∀ name ∈ typeNames,
      (name.toList.all fun c => 0x21 ≤ c.toNat && c.toNat ≤ 0x7e) = true := by
    decide
  exact Text.visible_of_all (hall key.typeName key.typeName_mem)

/-- Every type name has characters. -/
theorem typeName_ne_nil (key : HostKey) : key.typeName.toList ≠ [] := by
  have hall : ∀ name ∈ typeNames, name.toList ≠ [] := by decide
  exact hall key.typeName key.typeName_mem

/-- A key in base64 is visible. -/
theorem visible_of_mem_base64 {key : HostKey} {c : Char} (h : c ∈ key.base64.toList) :
    IsVisible c := by
  unfold base64 at h
  rw [String.toList_ofList] at h
  exact (Base64.visible_of_mem_encode h).1

/-- Every key has characters in base64. -/
theorem base64_ne_nil (key : HostKey) : key.base64.toList ≠ [] := by
  unfold base64
  rw [String.toList_ofList]
  exact Base64.encode_ne_nil key.encode_ne_nil

end HostKey

namespace TrustStore

open RecordName (IsWord)

/-- The record of a key under one name. -/
def record (name : String) (key : HostKey) : List Char :=
  Entry.toLine { names := [name], key }

variable {name : String} {key : HostKey}

/-- The three fields of a record stand between single blanks. -/
theorem record_eq (name : String) (key : HostKey) :
    record name key = name.toList ++ ' ' :: (key.typeName.toList ++ ' ' :: key.base64.toList) := by
  have hnames : ",".intercalate [name] = name := rfl
  rw [record, Entry.toLine, hnames]

/-- Between its fields a record has blanks, and elsewhere visible characters. -/
theorem visible_or_blank_of_mem_record (hname : IsWord name) {c : Char} (h : c ∈ record name key) :
    IsVisible c ∨ c = ' ' := by
  rw [record_eq] at h
  simp only [List.mem_append, List.mem_cons] at h
  rcases h with h | rfl | h | rfl | h
  · exact .inl (hname.visible c h).1
  · exact .inr rfl
  · exact .inl (HostKey.visible_of_mem_typeName c h)
  · exact .inr rfl
  · exact .inl (HostKey.visible_of_mem_base64 h)

/-- A record is ASCII. -/
theorem isAscii_record (hname : IsWord name) : IsAscii (record name key) := by
  intro c hc
  rcases visible_or_blank_of_mem_record hname hc with ⟨-, hhigh⟩ | rfl
  · omega
  · decide

/-- No line break is in a record. -/
theorem record_no_breaks (hname : IsWord name) :
    '\n' ∉ record name key ∧ '\r' ∉ record name key := by
  have hbreak {c : Char} (hc : c.toNat < 0x20) : c ∉ record name key := by
    intro hmem
    rcases visible_or_blank_of_mem_record hname hmem with ⟨hlow, -⟩ | rfl
    · omega
    · exact absurd hc (by decide)
  exact ⟨hbreak (by decide), hbreak (by decide)⟩

/-- A record has exactly three fields. -/
theorem words_record (hname : IsWord name) :
    words (record name key) = [name.toList, key.typeName.toList, key.base64.toList] := by
  have hword {word : List Char} (hvisible : ∀ c ∈ word, IsVisible c) (hne : word ≠ []) :
      words word = [word] :=
    Text.words_of_forall (fun c hc => (hvisible c hc).isBlank_eq_false) hne
  have hname' : name.toList ≠ [] := by
    obtain ⟨c, hc, -⟩ := hname.head
    intro hnil
    rw [hnil] at hc
    cases hc
  rw [record_eq, Text.words_append_cons (by decide), Text.words_append_cons (by decide),
    hword (fun c hc => (hname.visible c hc).1) hname',
    hword HostKey.visible_of_mem_typeName key.typeName_ne_nil,
    hword (fun c hc => HostKey.visible_of_mem_base64 hc) key.base64_ne_nil]
  rfl

/-- A record begins with the first character of the name. -/
theorem head?_record (hname : IsWord name) (key : HostKey) :
    ∃ c, (record name key).head? = some c ∧ IsVisible c ∧ c ≠ '#' := by
  obtain ⟨c, hc, hmark⟩ := hname.head
  obtain ⟨rest, hrest⟩ := List.head?_eq_some_iff.1 hc
  refine ⟨c, ?_, (hname.visible c (by simp [hrest])).1, hmark⟩
  rw [record_eq, hrest]
  rfl

/-- There is nothing to trim from a record. -/
theorem trim_record (hname : IsWord name) : trim (record name key) = record name key := by
  refine Text.strip_eq_self ?_ ?_
  · obtain ⟨c, hc, hvisible, -⟩ := head?_record hname key
    intro c' hc'
    rw [hc] at hc'
    obtain rfl := Option.some.inj hc'
    exact hvisible.isBlank_eq_false
  · -- The record ends with the last character of the key.
    intro c hc
    have hlast : c ∈ key.base64.toList := by
      have hend := List.getLast?_eq_some_getLast key.base64_ne_nil
      simp only [record_eq, List.getLast?_append, List.getLast?_cons, hend, Option.some_or,
        Option.getD_some, Option.some.injEq] at hc
      rw [← hc]
      exact List.getLast_mem _
    exact (HostKey.visible_of_mem_base64 hlast).isBlank_eq_false

/-- A record is neither blank nor a comment. -/
theorem isPassedOver_record (hname : IsWord name) : isPassedOver (record name key) = false := by
  obtain ⟨c, hc, -, hmark⟩ := head?_record hname key
  obtain ⟨rest, hrest⟩ := List.head?_eq_some_iff.1 hc
  unfold isPassedOver
  rw [hrest]
  simp [hmark]

/-- The three fields of a record are told apart by blanks. -/
theorem split_record (hname : IsWord name) :
    split (fun c => c = ' ' || c = '\t') (record name key) =
      [name.toList, key.typeName.toList, key.base64.toList] := by
  have hfield {field : List Char} (hvisible : ∀ c ∈ field, IsVisible c) :
      split (fun c => c = ' ' || c = '\t') field = [field] := by
    refine Text.split_of_forall fun c hc => ?_
    have hlow := (hvisible c hc).1
    have hblank : c ≠ ' ' := by rintro rfl; exact absurd hlow (by decide)
    have htab : c ≠ '\t' := by rintro rfl; exact absurd hlow (by decide)
    simp [hblank, htab]
  rw [record_eq, Text.split_append_cons (by decide), Text.split_append_cons (by decide),
    hfield fun c hc => (hname.visible c hc).1, hfield HostKey.visible_of_mem_typeName,
    hfield fun c hc => HostKey.visible_of_mem_base64 hc]
  rfl

/-- A record is read back. -/
theorem ofLine_record (hname : IsWord name) (hkey : key.ReadsBack) :
    Entry.ofLine (record name key) = .ok (some { names := [name], key }) := by
  have hbody : Base64.decode key.base64.toList = .ok key.encode := by
    rw [HostKey.base64, String.toList_ofList, Base64.decode_encode]
  have hnames : split (· = ',') name.toList = [name.toList] :=
    Text.split_of_forall fun c hc => decide_eq_false (hname.visible c hc).2
  -- The key is decoded, its type announces its kind, and its encoding is read as the key.
  unfold Entry.ofLine
  rw [split_record hname]
  dsimp only
  rw [hbody]
  dsimp only
  rw [String.ofList_toList, HostKey.ofTypeName?_typeName]
  dsimp only
  rw [hkey]
  dsimp only
  rw [hnames, List.map_singleton, String.ofList_toList]

/-- A record passes the check, whatever its number. -/
theorem checkLine_record (hname : IsWord name) (hkey : key.ReadsBack) (path : String)
    (number : Nat) : checkLine path number (record name key) = .ok () := by
  have htolerated : isTolerated key.typeName = false := by
    have hall : ∀ name ∈ HostKey.typeNames, isTolerated name = false := by decide
    exact hall key.typeName key.typeName_mem
  unfold checkLine
  dsimp only
  rw [trim_record hname, if_neg (by simp [isPassedOver_record hname]), words_record hname]
  dsimp only
  rw [String.ofList_toList, if_neg (by simp [htolerated]), ofLine_record hname hkey]

end TrustStore

end SecureForward
